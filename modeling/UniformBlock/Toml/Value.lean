import UniformBlock.Number.Rounding

/-!
# TOML values

The data that a TOML document holds.  Tables list their entries by name; dates
and times are recognised but their fields are not kept, since nothing here reads
one.
-/

namespace UniformBlock.Toml

/-- A value of a TOML document. -/
inductive Value where
  | text (content : String)
  | integer (value : Int)
  | float (value : Number.FloatValue)
  | truth (value : Bool)
  /-- A date, a time or both. -/
  | moment
  | array (items : List Value)
  | table (entries : List (String × Value))

/-- The entries of a table, by name. -/
abbrev Entries :=
  List (String × Value)

namespace Value

/-- The text that the value is. -/
def text? : Value → Option String
  | text content => some content
  | _ => none

/-- The truth value that the value is. -/
def truth? : Value → Option Bool
  | truth value => some value
  | _ => none

/-- The natural number that the value is. -/
def natural? : Value → Option Nat
  | integer (.ofNat value) => some value
  | _ => none

/-- The items of an array. -/
def items? : Value → Option (List Value)
  | array items => some items
  | _ => none

end Value

end UniformBlock.Toml
