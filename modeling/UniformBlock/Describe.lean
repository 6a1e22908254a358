import UniformBlock.Plan
import UniformBlock.Text

/-!
# Descriptions

One-line descriptions of types, writers and plan entries for diagnostics: a
name, and the fields in braces.
-/

namespace UniformBlock

/-- Fields in braces after a name. -/
def describeFields (name : String) (fields : List (String × String)) : String :=
  name ++ " \x7b " ++
    ", ".intercalate (fields.map fun (label, content) => label ++ ": " ++ content) ++ " \x7d"

namespace ComponentKind

/-- The kind in capitals. -/
def describe : ComponentKind → String
  | f32 => "F32"
  | i32 => "I32"
  | u32 => "U32"

end ComponentKind

namespace ShaderType

/-- The family of a type and its parameters. -/
def describe : ShaderType → String
  | scalar kind => "Scalar(" ++ kind.describe ++ ")"
  | vector kind length =>
      "Vector(" ++ kind.describe ++ ", " ++ toString length.toNat ++ ")"
  | matrix columns rows =>
      describeFields "Matrix"
        [("columns", toString columns.toNat), ("rows", toString rows.toNat)]

end ShaderType

namespace Specialist

/-- The label and the type of a specialist. -/
def describe (specialist : Specialist) : String :=
  describeFields "UniformParser"
    [("label", Text.quote specialist.label), ("ty", specialist.type.describe)]

end Specialist

namespace WriterTable

/-- The spellings of the types that have a writer, in the order of their code
points. -/
def spellings (table : WriterTable) : List String :=
  ((ShaderType.all.filter table.contains).map ShaderType.spelling).mergeSort fun first second =>
    first ≤ second

/-- The types that have a writer. -/
def describe (table : WriterTable) : String :=
  describeFields "BaseWriters"
    [("types", "[" ++ ", ".intercalate (table.spellings.map Text.quote) ++ "]")]

end WriterTable

namespace Route

/-- Where a writer came from. -/
def describe : Route → String
  | specialist label => "Parser(" ++ Text.quote label ++ ")"
  | direct => "Base"
  | array => "Array"

end Route

namespace PlanEntry

/-- The name, the offset and the route of an entry. -/
def describe (entry : PlanEntry) : String :=
  describeFields "CompiledEntry"
    [("name", Text.quote entry.name), ("offset", toString entry.offset),
      ("tier", entry.route.describe)]

end PlanEntry

end UniformBlock
