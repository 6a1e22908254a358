import UniformBlock.Layout
import UniformBlock.ShaderType.Reading
import UniformBlock.Text

/-!
# Layout charts

A chart lists a layout line by line: each uniform with its offset and size, and
each gap between or after them.  The lines are data first, so that what they
cover can be stated without reading text.
-/

namespace UniformBlock

/-- One line of a chart. -/
inductive ChartLine where
  /-- Bytes that belong to no uniform. -/
  | padding (offset size : Nat)
  | uniform (slot : Slot)
  deriving DecidableEq, Repr

namespace ChartLine

/-- The first byte that the line is about. -/
def offset : ChartLine → Nat
  | padding offset _ => offset
  | uniform slot => slot.element.byteOffset

/-- The number of bytes that the line is about. -/
def size : ChartLine → Nat
  | padding _ size => size
  | uniform slot => slot.byteSize

end ChartLine

namespace Layout

/-- The padding line from one offset to another, if there is anything between
them. -/
def paddingBetween (first last : Nat) : List ChartLine :=
  if first < last then [.padding first (last - first)] else []

/-- The lines of some slots and of the padding around them, where `reached` is
the greatest end so far and `byteSize` the end of the block. -/
def chartFrom (byteSize reached : Nat) : List Slot → List ChartLine
  | [] => paddingBetween reached byteSize
  | slot :: rest =>
      paddingBetween reached slot.element.byteOffset ++
        .uniform slot :: chartFrom byteSize (max reached slot.finish) rest

/-- The lines of a layout's chart. -/
def chart (layout : Layout) : List ChartLine :=
  chartFrom layout.byteSize 0 layout.slots

end Layout

/-! ## Text -/

namespace Declaration

/-- The type of a declaration; an array also shows how many entries it has. -/
def typeText (declaration : Declaration) : String :=
  if declaration.isArray then
    "array<" ++ declaration.type.spelling ++ ", " ++ toString declaration.count ++ ">"
  else
    declaration.type.spelling

end Declaration

namespace ChartLine

/-- What the line is about. -/
def label : ChartLine → String
  | padding _ _ => "[padding]"
  | uniform slot => slot.element.name ++ " : " ++ slot.element.typeText

/-- The text of a line, with its numbers in columns. -/
def render (line : ChartLine) : String :=
  Text.alignRight 6 (toString line.offset) ++ " | " ++
    Text.alignRight 5 (toString line.size) ++ " | " ++ line.label ++ "\n"

end ChartLine

namespace Layout

/-- The three lines above a layout's chart. -/
def chartHeading (layout : Layout) : String :=
  ("=== Uniform Layout (" ++ layout.convention.name ++ ", " ++ toString layout.byteSize ++
      " bytes) ===") ++ "\n" ++
    ("Offset | Size  | Uniform" ++ "\n") ++
    ("-------|-------|------------------" ++ "\n")

/-- The text of a layout's chart, below a heading. -/
def renderChart (layout : Layout) : String :=
  layout.chartHeading ++ String.join (layout.chart.map ChartLine.render)

end Layout

end UniformBlock
