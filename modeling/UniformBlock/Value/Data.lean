import UniformBlock.Value

/-!
# Values from untyped data

A value may be written without naming its shape, as a number, a list, or a
record of numbers.  The shapes are tried in a fixed order and the first that
fits is taken; a record may hold more fields than its shape asks for.
-/

namespace UniformBlock

/-- Data as it is written, before it is known to be a value. -/
inductive Data where
  | number (x : Binary32)
  | list (items : List Data)
  | record (fields : List (String × Data))
  /-- Anything that no value contains, such as a truth value or a text. -/
  | foreign

namespace Data

/-- The number that the data is. -/
def number? : Data → Option Binary32
  | number x => some x
  | _ => none

/-- The numbers of a list of numbers. -/
def numbers? : Data → Option (List Binary32)
  | list items => items.mapM number?
  | _ => none

/-- The numbers of a list of lists of numbers. -/
def numberLists? : Data → Option (List (List Binary32))
  | list items => items.mapM numbers?
  | _ => none

/-- The number in a field of a record. -/
def field? (name : String) : Data → Option Binary32
  | record fields => (fields.lookup name).bind number?
  | _ => none

/-- A record with the sides of a rectangle. -/
def rect? (data : Data) : Option Value := do
  return .rect (← data.field? "x") (← data.field? "y") (← data.field? "width")
    (← data.field? "height")

/-- A record with the coordinates of a point. -/
def point? (data : Data) : Option Value := do
  return .point (← data.field? "x") (← data.field? "y")

/-- A record with the four channels of a color. -/
def color? (data : Data) : Option Value := do
  return .color (← data.field? "r") (← data.field? "g") (← data.field? "b") (← data.field? "a")

/-- A record with the six entries of an affine transform. -/
def affine? (data : Data) : Option Value := do
  return .affine (← data.field? "a") (← data.field? "b") (← data.field? "c") (← data.field? "d")
    (← data.field? "tx") (← data.field? "ty")

/-- The value that the data stands for: the first shape that fits.  A rectangle
comes before a point, since it has the fields of one. -/
def value? (data : Data) : Option Value :=
  (data.number?.map .scalar)
    <|> (data.numbers?.map .flat)
    <|> (data.numberLists?.map .nested)
    <|> data.rect?
    <|> data.point?
    <|> data.color?
    <|> data.affine?

end Data

end UniformBlock
