import UniformBlock.Keyed
import UniformBlock.Writer.Table
import UniformBlock.Writer.Specialist

/-!
# Write plans

A layout is compiled once into a plan: for every uniform its name, its offset in
floats and the writer chosen for it.  A plan is then run against live values as
often as needed.  Each uniform gets the first specialist that takes it over, or
else the direct writer of its type when it is single, or else an array writer.
Compiling never looks into a writer, so it is the same for writers of any kind.
-/

namespace UniformBlock

/-- Where the writer of a uniform came from. -/
inductive Route where
  | specialist (label : String)
  | direct
  | array
  deriving DecidableEq, Repr

/-- One uniform of a plan; its offset counts floats. -/
structure PlanEntry (W : Type := Writer) where
  name : String
  offset : Nat
  route : Route
  writer : W
  deriving DecidableEq, Repr

/-- The writers that are available when a plan is compiled. -/
structure Dispatch (W : Type := Writer) where
  specialists : List (Specialist W)
  direct : WriterTable W
  arrays : ArrayWriters W

namespace Dispatch

variable {W : Type}

/-- The convention that the plan follows. -/
def convention (dispatch : Dispatch W) : Convention :=
  dispatch.arrays.convention

/-- The writer for a placed uniform, and where it comes from. -/
def choose (dispatch : Dispatch W) (element : Element) : Attempt (Route × W) :=
  if element.count = 0 then
    .error (.refused (.emptyArray element.name))
  else
    match Specialist.find? dispatch.specialists element with
    | some specialist => .ok (.specialist specialist.label, specialist.writer)
    | none =>
        if element.count = 1 then
          match dispatch.direct.writer? element.type with
          | some writer => .ok (.direct, writer)
          | none =>
              .error (.refused (.unsupportedType element.name element.type dispatch.convention))
        else
          (dispatch.arrays.writerFor element).map fun writer => (.array, writer)

/-- The plan entry of a placed uniform. -/
def entryFor (dispatch : Dispatch W) (element : Element) : Attempt (PlanEntry W) :=
  (dispatch.choose element).map fun (route, writer) =>
    { name := element.name, offset := element.floatOffset, route, writer }

end Dispatch

/-- The entries of a block, in the order in which they are written. -/
structure Plan (W : Type := Writer) where
  convention : Convention
  entries : List (PlanEntry W)
  deriving DecidableEq, Repr

/-- Values by name. -/
abbrev Source :=
  String → Option Value

namespace Plan

variable {W : Type}

/-! ## Compiling -/

/-- Add the entries of placed uniforms to some entries.  A repeated name takes
the place of the earlier entry, and the first uniform that cannot be written
ends the compilation. -/
def collect (dispatch : Dispatch W) (entries : List (PlanEntry W)) :
    List Element → Attempt (List (PlanEntry W))
  | [] => .ok entries
  | element :: rest =>
      match dispatch.entryFor element with
      | .error error => .error error
      | .ok entry => collect dispatch (Keyed.put PlanEntry.name entry entries) rest

/-- Collect entries with an index of those at hand, so that none is searched for. -/
def collectAt (dispatch : Dispatch W) (entries : List (PlanEntry W))
    (index : List (String × Nat)) : List Element → Attempt (List (PlanEntry W))
  | [] => .ok entries
  | element :: rest =>
      match dispatch.entryFor element with
      | .error error => .error error
      | .ok entry =>
          let placed := Keyed.putAt PlanEntry.name entry entries index
          collectAt dispatch placed.1 placed.2 rest

/-- Compile placed uniforms into a plan. -/
def compile (dispatch : Dispatch W) (elements : List Element) : Attempt (Plan W) :=
  (collectAt dispatch [] [] elements).map fun entries =>
    { convention := dispatch.convention, entries }

/-- The index makes no difference. -/
theorem collectAt_eq (dispatch : Dispatch W) {entries : List (PlanEntry W)}
    {index : List (String × Nat)} (indexed : Keyed.Indexes index (entries.map PlanEntry.name))
    (elements : List Element) :
    collectAt dispatch entries index elements = collect dispatch entries elements := by
  induction elements generalizing entries index with
  | nil => rfl
  | cons element rest ih =>
      rw [collectAt, collect]
      split
      · rfl
      · rename_i entry compiled
        dsimp only
        rw [ih (indexed.putAt entry), indexed.putAt_eq]

theorem compile_eq (dispatch : Dispatch W) (elements : List Element) :
    compile dispatch elements =
      (collect dispatch [] elements).map fun entries =>
        { convention := dispatch.convention, entries } := by
  rw [compile, collectAt_eq dispatch Keyed.Indexes.nil]

/-- The entry of a uniform. -/
def entry? (plan : Plan W) (name : String) : Option (PlanEntry W) :=
  Keyed.get? PlanEntry.name plan.entries name

/-! ## Running -/

/-- Write entries one after the other, up to the first that fails. -/
def writeEntries (source : Source) (base : Nat) : List PlanEntry → Buffer → WriteResult
  | [], buffer => .done buffer
  | entry :: rest, buffer =>
      match source entry.name with
      | none => .failed buffer (.notFound entry.name)
      | some value =>
          (entry.writer.run entry.name (base + entry.offset) value buffer).andThen
            (writeEntries source base rest)

/-- Write every uniform of the plan into a block that starts at a float offset
of the buffer. -/
def run (plan : Plan) (source : Source) (base : Nat) (buffer : Buffer) : WriteResult :=
  writeEntries source base plan.entries buffer

end Plan

end UniformBlock
