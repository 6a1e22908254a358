import UniformBlock.BlockDescription
import UniformBlock.Describe
import UniformBlock.Machine.Blocks
import UniformBlock.Number.FloatStyle

/-!
# Block reports

The report on one block: the chart of its layout, the write plan, and the buffer
that the plan fills from the described values.  What was printed before a
failure stays.  Sizes are machine words, so a report may also end in a fault.
-/

namespace UniformBlock

/-- The text of a report, and what ended it early, if anything did. -/
structure Report where
  output : String
  stop? : Option (Stop String)
  deriving DecidableEq, Repr

/-- What a report is asked for. -/
inductive ReportRequest where
  /-- No file was named. -/
  | noFile
  /-- The named file cannot be read. -/
  | unreadable (path : String)
  | file (path content : String)
  deriving DecidableEq, Repr

namespace Report

/-- Numbers have at least one digit after the point; an exponent is used below
a ten thousandth and from ten to the sixteenth on. -/
def floatStyle : Number.FloatStyle where
  leastPlain := -4
  greatestPlain := 15
  nan := "NaN"
  infinity := "inf"

/-- The text of one float. -/
def floatText (word : Binary32) : String :=
  floatStyle.write .binary32 word.value

/-- The line of one plan entry. -/
def planLine (entry : PlanEntry) : String :=
  "  " ++ Text.alignLeft 20 entry.name ++ " @ " ++ Text.alignRight 4 (toString entry.offset) ++
    " floats : " ++ entry.route.describe ++ "\n"

/-- The line of one row of floats, behind its byte offset. -/
def bufferLine (byteOffset : Nat) (row : List Binary32) : String :=
  "  " ++ Text.alignRight 4 (toString byteOffset) ++ " | [" ++
    ", ".intercalate (row.map floatText) ++ "]\n"

/-- The lines of a buffer, four floats to a row; `fuel` bounds the number of
rows. -/
def bufferLines : (fuel byteOffset : Nat) → List Binary32 → String
  | 0, _, _ => ""
  | _, _, [] => ""
  | fuel + 1, byteOffset, words =>
      bufferLine byteOffset (words.take rowFloats) ++
        bufferLines fuel (byteOffset + rowBytes) (words.drop rowFloats)

/-- The part of a report that shows a buffer. -/
def bufferText (buffer : BlockBuffer) : String :=
  "\n=== Buffer (" ++ toString buffer.data.size ++ " floats) ===\n" ++
    bufferLines buffer.data.size 0 buffer.data.toList

/-- The part of a report that shows a plan. -/
def planText (plan : Plan) : String :=
  "=== Write plan ===\n" ++ String.join (plan.entries.map planLine)

/-- A report that reached its end. -/
def done (output : String) : Report :=
  { output, stop? := none }

/-- A report that ended early. -/
def stopped (output : String) (stop : Stop String) : Report :=
  { output, stop? := some stop }

/-- The report on a described block. -/
def ofDescription (build : Build) (description : BlockDescription) : Report :=
  let compiler : Compiler := { settings := description.settings }
  let uniforms := description.uniforms
  match compiler.machineCompileDeclarations build uniforms.declarations with
  | .error (.refused error) => .stopped "" (.refused error.message)
  | .error (.fault fault) => .stopped "" (.fault fault)
  | .ok (layout, plan) =>
      match layout.machineRenderChart build with
      | .error fault => .stopped "" (.fault fault)
      | .ok chart =>
          let heading := chart ++ "\n" ++ planText plan
          match (BlockBuffer.forLayout layout).machineSync build plan uniforms.source with
          | .error fault => .stopped heading (.fault fault)
          | .ok (_, some error) => .stopped heading (.refused error.message)
          | .ok (buffer, none) => .done (heading ++ bufferText buffer)

/-- The report that is asked for. -/
def ofRequest (build : Build) : ReportRequest → Report
  | .noFile => .stopped "" (.refused "usage: uniform_layout_report <block.toml>")
  | .unreadable path => .stopped "" (.refused ("reading " ++ path))
  | .file path content =>
      match BlockDescription.parse content with
      | none => .stopped "" (.refused ("parsing " ++ path))
      | some description => ofDescription build description

/-- The exit code: one after a failure, and a hundred and one after a fault. -/
def exitCode (report : Report) : Nat :=
  match report.stop? with
  | none => 0
  | some (.refused _) => 1
  | some (.fault _) => 101

/-- What is written about a failure or a fault. -/
def errorText (report : Report) : String :=
  match report.stop? with
  | none => ""
  | some (.refused message) => "Error: " ++ message ++ "\n"
  | some (.fault fault) => fault.message ++ "\n"

end Report

end UniformBlock
