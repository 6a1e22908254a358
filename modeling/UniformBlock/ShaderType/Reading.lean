import UniformBlock.Error

/-!
# Reading type tags

A tag is read from its spelling.  Blanks are allowed around the whole tag and directly
inside the angle brackets, and nowhere else; every spelling of a type of the language
reads back.
-/

namespace UniformBlock

namespace ComponentKind

/-- Read the name of a component kind. -/
def ofChars? : List Char → Option ComponentKind
  | ['f', '3', '2'] => some f32
  | ['i', '3', '2'] => some i32
  | ['u', '3', '2'] => some u32
  | _ => none

theorem ofChars?_spelling (kind : ComponentKind) :
    ofChars? kind.spelling.toList = some kind := by
  cases kind <;> rfl

theorem ofChars?_eq_some_iff {chars : List Char} {kind : ComponentKind} :
    ofChars? chars = some kind ↔ chars = kind.spelling.toList := by
  constructor
  · intro read
    unfold ofChars? at read
    split at read <;> cases read <;> rfl
  · rintro rfl
    exact ofChars?_spelling kind

end ComponentKind

namespace Dimension

/-- Read the digit of a dimension of the language. -/
def ofChar? (char : Char) : Option Dimension :=
  if char = '2' then some 2
  else if char = '3' then some 3
  else if char = '4' then some 4
  else none

theorem ofChar?_eq_some_iff {char : Char} {dimension : Dimension} :
    ofChar? char = some dimension ↔ dimension ∈ all ∧ dimension.numeral.toList = [char] := by
  constructor
  · intro read
    unfold ofChar? at read
    split at read
    · rename_i two
      cases read
      exact ⟨by decide, two ▸ rfl⟩
    · split at read
      · rename_i three
        cases read
        exact ⟨by decide, three ▸ rfl⟩
      · split at read
        · rename_i four
          cases read
          exact ⟨by decide, four ▸ rfl⟩
        · cases read
  · rintro ⟨listed, digit⟩
    rcases mem_all_iff.mp listed with rfl | rfl | rfl
    · cases (digit : ['2'] = [char])
      rfl
    · cases (digit : ['3'] = [char])
      rfl
    · cases (digit : ['4'] = [char])
      rfl

end Dimension

namespace ShaderType

/-- Split a tag of the form `head<inner>` at its first opening bracket. -/
def splitBrackets? (chars : List Char) : Option (List Char × List Char) :=
  if chars.getLast? = some '>' then
    match chars.dropLast.dropWhile (· != '<') with
    | '<' :: inner => some (chars.dropLast.takeWhile (· != '<'), inner)
    | _ => none
  else
    none

/-- The type whose spelling has `head` before the brackets and `kind` inside.
A matrix has float components only. -/
def ofHead? (head : List Char) (kind : ComponentKind) : Option ShaderType :=
  match head with
  | ['v', 'e', 'c', length] => (Dimension.ofChar? length).map (vector kind)
  | ['m', 'a', 't', columns, 'x', rows] =>
      if kind = .f32 then
        (Dimension.ofChar? columns).bind fun columns =>
          (Dimension.ofChar? rows).map (matrix columns)
      else
        none
  | _ => none

/-- Read a type tag without blanks around it. -/
def ofChars? (chars : List Char) : Option ShaderType :=
  match ComponentKind.ofChars? chars with
  | some kind => some (scalar kind)
  | none =>
      (splitBrackets? chars).bind fun (head, inner) =>
        (ComponentKind.ofChars? (Text.trim inner)).bind (ofHead? head)

/-- Read a type tag; blanks around it are skipped, and a failure keeps the text
with its blanks. -/
def read (text : String) : Except LayoutError ShaderType :=
  match ofChars? (Text.trim text.toList) with
  | some type => .ok type
  | none => .error (.unknownType text)

/-! ## In documents -/

/-- The text that stands for a type in a document. -/
def toText (type : ShaderType) : String :=
  type.spelling

/-- The type that a text of a document stands for. -/
def ofText (text : String) : Except LayoutError ShaderType :=
  read text

end ShaderType

end UniformBlock
