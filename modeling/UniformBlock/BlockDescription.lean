import UniformBlock.Settings.Reading
import UniformBlock.ShaderType.Reading
import UniformBlock.UniformSet
import UniformBlock.Value.Data

/-!
# Block descriptions

A block is described by a TOML document: settings at the top, and an array
`uniform` with the name, the type, the size and the value of each uniform.
-/

namespace UniformBlock

/-- Settings and the uniforms of one block. -/
structure BlockDescription where
  settings : Settings
  declarations : List Declaration
  deriving DecidableEq, Repr

namespace Toml.Value

mutual

/-- The value as data that may be a uniform's value.  Integers are rounded
directly, floats by way of 64 bits. -/
def data : Toml.Value → Data
  | .integer value => .number (.ofInt value)
  | .float value => .number (.ofValue value)
  | .array items => .list (dataOfItems items)
  | .table entries => .record (dataOfEntries entries)
  | _ => .foreign

/-- The items of an array as data. -/
def dataOfItems : List Toml.Value → List Data
  | [] => []
  | item :: rest => item.data :: dataOfItems rest

/-- The entries of a table as data. -/
def dataOfEntries : List (String × Toml.Value) → List (String × Data)
  | [] => []
  | (name, value) :: rest => (name, value.data) :: dataOfEntries rest

end

end Toml.Value

namespace Declaration

/-- The declaration with the given parts, if each of them can be read. -/
def ofParts? (name type size value : Toml.Value) : Option Declaration := do
  return {
    name := ← name.text?
    type := ← (← type.text?) |> ShaderType.ofText |> Except.toOption
    count := ← size.natural?
    value := ← value.data.value? }

/-- The declaration that a value describes: a table with its parts by name and
the size one by default, or an array that starts with all of them. -/
def ofToml? : Toml.Value → Option Declaration
  | .table entries => do
      ofParts? (← entries.lookup "name") (← entries.lookup "type")
        ((entries.lookup "size").getD (.integer 1)) (← entries.lookup "value")
  | .array (name :: type :: size :: value :: _) => ofParts? name type size value
  | _ => none

end Declaration

namespace BlockDescription

/-- Read the text of a block description. -/
def parse (text : String) : Option BlockDescription := do
  let entries ← Toml.parse text
  let items ←
    match entries.lookup "uniform" with
    | none => some []
    | some value => value.items?
  return {
    settings := ← Settings.ofToml? .block entries
    declarations := ← items.mapM Declaration.ofToml? }

/-- The uniforms of the block; a later description of a name replaces an earlier
one. -/
def uniforms (description : BlockDescription) : UniformSet :=
  description.declarations.foldl UniformSet.declare .empty

end BlockDescription

end UniformBlock
