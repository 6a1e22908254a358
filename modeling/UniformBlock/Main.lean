import UniformBlock.Report

/-!
# Command line

Prints the report on the block that a file describes.
-/

open UniformBlock

/-- The report request of the given arguments. -/
def readRequest : List String → IO ReportRequest
  | [] => return .noFile
  | path :: _ =>
      try
        return .file path (← IO.FS.readFile path)
      catch _ =>
        return .unreadable path

/-- Print the report on the block described by the file that is named first. -/
def main (arguments : List String) : IO UInt32 := do
  let report := Report.ofRequest .checked (← readRequest arguments)
  IO.print report.output
  IO.eprint report.errorText
  return report.exitCode.toUInt32
