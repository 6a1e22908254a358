import UniformBlock.Machine.Blocks

/-!
# The journal

Records of what was done, for whoever follows the work.  A record is a value of
its own, computed beside the work, so that the work itself stays a plain
function.
-/

namespace UniformBlock

/-- How much attention a record asks for. -/
inductive Importance where
  | debug
  | info
  | warning
  deriving DecidableEq, Repr

/-- One line of the journal. -/
structure Record where
  importance : Importance
  text : String
  deriving DecidableEq, Repr

/-- Records in the order in which they were made. -/
abbrev Journal :=
  List Record

namespace Layout

/-- How many uniforms a layout places, in words. -/
def countText (layout : Layout) : String :=
  toString layout.slots.length ++ " uniforms"

/-- A layout was built. -/
def builtRecord (layout : Layout) : Record where
  importance := .debug
  text := "[UniformLayout] Built " ++ layout.convention.name ++ " layout: " ++
    layout.countText ++ ", " ++ toString layout.byteSize ++ " bytes"

/-- A layout as a chart. -/
def chartRecord (chart : String) : Record where
  importance := .debug
  text := "[UniformSync] Layout:\n" ++ chart

/-- The records of building a layout; a failure leaves none. -/
def buildJournal : Attempt Layout → Journal
  | .ok layout => [layout.builtRecord]
  | .error _ => []

/-- A buffer was made for a layout. -/
def bufferRecord (layout : Layout) : Record where
  importance := .debug
  text := "[UniformBuffer] Creating buffer for " ++ layout.countText ++ " (" ++
    toString layout.byteSize ++ " bytes)"

end Layout

namespace Plan

/-- A name came up again while a plan was compiled. -/
def repeatedRecord (name : String) : Record where
  importance := .warning
  text := "[UniformSync] Uniform " ++ name ++ " appears twice in layout, keeping the later entry"

/-- A plan was compiled. -/
def compiledRecord (plan : Plan) : Record where
  importance := .debug
  text := "[UniformSync] Compiled " ++ toString plan.entries.length ++ " uniforms (" ++
    plan.convention.name ++ ")"

/-- The names of a list that came up before, in order. -/
def repeatedNames (seen : List String) : List String → List String
  | [] => []
  | name :: rest =>
      if name ∈ seen then name :: repeatedNames seen rest
      else repeatedNames (name :: seen) rest

/-- The records of compiling a plan: the repeated names up to the first uniform
that cannot be written, and the finished plan if there is one. -/
def compileJournal (dispatch : Dispatch) (elements : List Element) : Journal :=
  let written := elements.takeWhile fun element => (dispatch.choose element).isOk
  (repeatedNames [] (written.map fun element => element.name)).map repeatedRecord ++
    match compile dispatch elements with
    | .ok plan => [plan.compiledRecord]
    | .error _ => []

end Plan

namespace Compiler

/-- The records of laying out declarations. -/
def layoutJournal (compiler : Compiler) (build : Build) (declarations : List Declaration) :
    Journal :=
  match compiler.machineLayout build declarations with
  | .error _ => []
  | .ok layout =>
      layout.builtRecord ::
        if compiler.settings.logLayouts then
          match layout.machineRenderChart build with
          | .error _ => []
          | .ok chart => [Layout.chartRecord chart]
        else []

/-- The records of compiling placed uniforms. -/
def compileJournal (compiler : Compiler) (build : Build) (elements : List Element) : Journal :=
  Plan.compileJournal (compiler.machineDispatch build) elements

/-- The records of laying out declarations and compiling the result. -/
def declarationsJournal (compiler : Compiler) (build : Build) (declarations : List Declaration) :
    Journal :=
  compiler.layoutJournal build declarations ++
    match compiler.machineLayout build declarations with
    | .error _ => []
    | .ok layout => compiler.compileJournal build layout.elements

end Compiler

/-- Settings were read from a file. -/
def Settings.loadedRecord (settings : Settings) (path : String) : Record where
  importance := .info
  text := "[SyncConfig] Loaded " ++ path ++ " (" ++ settings.convention.name ++ ")"

end UniformBlock
