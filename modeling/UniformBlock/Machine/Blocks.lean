import UniformBlock.BlockBuffer
import UniformBlock.Compiler
import UniformBlock.Layout.Chart
import UniformBlock.Machine.Writers

/-!
# Blocks on machine words

Compiling, running and charting once more, on machine words: what a program does with a
block when its sizes and offsets may outgrow a word.  Every part follows its exact
counterpart.
-/

namespace UniformBlock

/-! ## Compiling -/

/-- Array writers for std140 rows. -/
def BaseSizes.machineArrayWriters (table : BaseSizes) (build : Build) (checked : Bool) :
    ArrayWriters where
  convention := .std140
  writerFor element :=
    (table.machineRowPatternOf build element.toDeclaration).map fun pattern =>
      .strided pattern checked

/-- Array writers for WGSL rows. -/
def AlignSizes.machineArrayWriters (table : AlignSizes) (build : Build) (checked : Bool) :
    ArrayWriters where
  convention := .wgsl
  writerFor element :=
    (table.machineRowPatternOf build element.toDeclaration).map fun pattern =>
      .strided pattern checked

namespace Compiler

/-- The layout of a list of declarations. -/
def machineLayout (compiler : Compiler) (build : Build) (declarations : List Declaration) :
    Attempt Layout :=
  match compiler.settings.convention with
  | .std140 => compiler.baseSizes.machineLayout build declarations
  | .wgsl => compiler.alignSizes.machineLayout build declarations

/-- The array writers of the convention. -/
def machineArrayWriters (compiler : Compiler) (build : Build) : ArrayWriters :=
  match compiler.settings.convention with
  | .std140 => compiler.baseSizes.machineArrayWriters build compiler.settings.checkValueLengths
  | .wgsl => compiler.alignSizes.machineArrayWriters build compiler.settings.checkValueLengths

/-- The writers of the convention. -/
def machineDispatch (compiler : Compiler) (build : Build) : Dispatch :=
  { compiler.dispatch with arrays := compiler.machineArrayWriters build }

/-- Compile placed uniforms into a plan. -/
def machineCompile (compiler : Compiler) (build : Build) (elements : List Element) :
    Attempt Plan :=
  Plan.compile (compiler.machineDispatch build) elements

/-- Lay out declarations and compile the result. -/
def machineCompileDeclarations (compiler : Compiler) (build : Build)
    (declarations : List Declaration) : Attempt (Layout × Plan) := do
  let layout ← compiler.machineLayout build declarations
  let plan ← compiler.machineCompile build layout.elements
  return (layout, plan)

end Compiler

/-- Whether array writers come from builds of the same factory. -/
structure ArrayWriters.FollowedBy {W : Type} (exact : ArrayWriters W)
    (machine : Build → ArrayWriters W) : Prop where
  convention : ∀ build, (machine build).convention = exact.convention
  writerFor : ∀ element,
    Follows (fun build => (machine build).writerFor element) (exact.writerFor element)

section Compiling

variable {W : Type} {dispatch : Dispatch W} {machine : Build → ArrayWriters W}

theorem Dispatch.follows_entryFor (followed : dispatch.arrays.FollowedBy machine)
    (element : Element) :
    Follows (fun build => { dispatch with arrays := machine build : Dispatch W }.entryFor element)
      (dispatch.entryFor element) := by
  refine Follows.mapped ?_ _
  simp only [choose, convention, followed.convention]
  refine .ite (fun _ => .refl _) fun present => ?_
  cases Specialist.find? dispatch.specialists element with
  | some specialist => exact .refl _
  | none => exact .ite (fun _ => .refl _) fun _ => (followed.writerFor element).mapped _

theorem Plan.follows_collect (followed : dispatch.arrays.FollowedBy machine)
    (entries : List (PlanEntry W)) (elements : List Element) :
    Follows
      (fun build => collect { dispatch with arrays := machine build : Dispatch W } entries elements)
      (collect dispatch entries elements) := by
  induction elements generalizing entries with
  | nil => exact .refl _
  | cons element rest ih =>
      have first := Dispatch.follows_entryFor followed element
      rcases first with ⟨operation, overflow⟩ | same
      · refine .inl ⟨operation, ?_⟩
        dsimp only at overflow ⊢
        rw [collect, overflow]
      · simp only [collect, same]
        cases dispatch.entryFor element with
        | error failure => exact .refl _
        | ok entry => exact ih _

/-- Compiling follows as soon as the array writers do. -/
theorem Plan.follows_compile (followed : dispatch.arrays.FollowedBy machine)
    (elements : List Element) :
    Follows (fun build => compile { dispatch with arrays := machine build : Dispatch W } elements)
      (compile dispatch elements) := by
  simp only [compile_eq, Dispatch.convention, followed.convention]
  exact (follows_collect followed [] elements).mapped _

end Compiling

namespace Compiler

theorem follows_layout (compiler : Compiler) (declarations : List Declaration) :
    Follows (fun build => compiler.machineLayout build declarations)
      (compiler.layout declarations) := by
  unfold machineLayout layout
  cases compiler.settings.convention with
  | std140 => exact compiler.baseSizes.follows_layout declarations
  | wgsl => exact compiler.alignSizes.follows_layout declarations

theorem byteSize_lt_of_machineLayout {compiler : Compiler} {declarations : List Declaration}
    {layout : Layout} (built : compiler.machineLayout .checked declarations = .ok layout) :
    layout.byteSize < wordCount := by
  have nonzero : blockAlignment ≠ 0 := by decide
  rw [machineLayout] at built
  split at built
  · exact Layout.byteSize_lt_of_machineBuild nonzero built
  · exact Layout.byteSize_lt_of_machineBuild nonzero built

theorem arrayWriters_followedBy (compiler : Compiler) :
    compiler.arrayWriters.FollowedBy compiler.machineArrayWriters := by
  unfold arrayWriters machineArrayWriters
  cases compiler.settings.convention with
  | std140 => exact ⟨fun _ => rfl, fun element =>
      (compiler.baseSizes.follows_rowPattern _ _ _ _).mapped _⟩
  | wgsl => exact ⟨fun _ => rfl, fun element =>
      (compiler.alignSizes.follows_rowPattern _ _ _).mapped _⟩

theorem follows_compile (compiler : Compiler) (elements : List Element) :
    Follows (fun build => compiler.machineCompile build elements) (compiler.compile elements) :=
  Plan.follows_compile compiler.arrayWriters_followedBy elements

theorem follows_compileDeclarations (compiler : Compiler) (declarations : List Declaration) :
    Follows (fun build => compiler.machineCompileDeclarations build declarations)
      (compiler.compileDeclarations declarations) := by
  have layouts := compiler.follows_layout declarations
  rw [compileDeclarations]
  cases laidOut : compiler.layout declarations with
  | error failure =>
      rw [laidOut] at layouts
      exact layouts.fail
  | ok layout =>
      rw [laidOut] at layouts
      exact layouts.step ((compiler.follows_compile layout.elements).map fun _ _ => .refl _)

end Compiler

/-! ## Running -/

namespace Plan

/-- Write entries one after the other, up to the first that fails. -/
def machineWriteEntries (build : Build) (source : Source) (base : Nat) :
    List PlanEntry → Buffer → WriteAttempt
  | [], buffer => .ok (.done buffer)
  | entry :: rest, buffer =>
      match source entry.name with
      | none => .ok (.failed buffer (.notFound entry.name))
      | some value => do
          let offset ← build.add base entry.offset
          let result ← entry.writer.machineRun build entry.name offset value buffer
          result.machineAndThen (machineWriteEntries build source base rest)

/-- Write every uniform of the plan into a block that starts at a float offset
of the buffer. -/
def machineRun (build : Build) (plan : Plan) (source : Source) (base : Nat) (buffer : Buffer) :
    WriteAttempt :=
  machineWriteEntries build source base plan.entries buffer

theorem follows_writeEntries (source : Source) (base : Nat) (entries : List PlanEntry)
    (buffer : Buffer) :
    Follows (fun build => machineWriteEntries build source base entries buffer)
      (.ok (writeEntries source base entries buffer)) := by
  induction entries generalizing buffer with
  | nil => exact .refl _
  | cons entry rest ih =>
      simp only [machineWriteEntries, writeEntries]
      cases source entry.name with
      | none => exact .refl _
      | some value =>
          exact (follows_add _ _).step ((entry.writer.follows_run _ _ _ _).step
            (WriteResult.follows_andThen _ (ih _)))

theorem follows_run (plan : Plan) (source : Source) (base : Nat) (buffer : Buffer) :
    Follows (fun build => plan.machineRun build source base buffer)
      (.ok (plan.run source base buffer)) :=
  follows_writeEntries source base plan.entries buffer

end Plan

namespace BlockBuffer

/-- Write values from any source.  After a success the buffer shows no set. -/
def machineSync (build : Build) (buffer : BlockBuffer) (plan : Plan) (source : Source) :
    Except Fault (BlockBuffer × Option SyncError) := do
  let result ← plan.machineRun build source 0 buffer.data
  match result.failure? with
  | none => return ({ data := result.buffer, synced? := none }, none)
  | some error => return ({ buffer with data := result.buffer }, some error)

/-- Write the values of a set unless the buffer already shows its last change.
On success the answer tells whether anything was written. -/
def machineSyncSet (build : Build) (buffer : BlockBuffer) (plan : Plan) (uniforms : UniformSet) :
    Except Fault (BlockBuffer × Except SyncError Bool) :=
  if buffer.synced? = some uniforms.changes then
    return (buffer, .ok false)
  else do
    let result ← plan.machineRun build uniforms.source 0 buffer.data
    match result.failure? with
    | none => return ({ data := result.buffer, synced? := some uniforms.changes }, .ok true)
    | some error => return ({ buffer with data := result.buffer }, .error error)

theorem follows_sync (buffer : BlockBuffer) (plan : Plan) (source : Source) :
    Follows (fun build => buffer.machineSync build plan source)
      (.ok (buffer.sync plan source)) := by
  refine (plan.follows_run source 0 buffer.data).step ?_
  rw [sync]
  cases (plan.run source 0 buffer.data).failure? <;> exact .refl _

theorem follows_syncSet (buffer : BlockBuffer) (plan : Plan) (uniforms : UniformSet) :
    Follows (fun build => buffer.machineSyncSet build plan uniforms)
      (.ok (buffer.syncSet plan uniforms)) := by
  by_cases clean : buffer.synced? = some uniforms.changes
  · simp only [machineSyncSet, syncSet, if_pos clean]
    exact .refl _
  · simp only [machineSyncSet, syncSet, if_neg clean]
    refine (plan.follows_run uniforms.source 0 buffer.data).step ?_
    cases (plan.run uniforms.source 0 buffer.data).failure? <;> exact .refl _

end BlockBuffer

/-! ## Charting -/

namespace Layout

/-- The lines of some slots and of the padding around them. -/
def machineChartFrom (build : Build) (byteSize reached : Nat) :
    List Slot → Except Fault (List ChartLine)
  | [] => .ok (paddingBetween reached byteSize)
  | slot :: rest => do
      let finish ← build.add slot.element.byteOffset slot.byteSize
      let lines ← machineChartFrom build byteSize (max reached finish) rest
      return paddingBetween reached slot.element.byteOffset ++ .uniform slot :: lines

/-- The lines of a layout's chart. -/
def machineChart (build : Build) (layout : Layout) : Except Fault (List ChartLine) :=
  machineChartFrom build layout.byteSize 0 layout.slots

/-- The text of a layout's chart, below a heading. -/
def machineRenderChart (build : Build) (layout : Layout) : Except Fault String := do
  let lines ← layout.machineChart build
  return layout.chartHeading ++ String.join (lines.map ChartLine.render)

theorem follows_chartFrom (byteSize reached : Nat) (slots : List Slot) :
    Follows (fun build => machineChartFrom build byteSize reached slots)
      (.ok (chartFrom byteSize reached slots)) := by
  induction slots generalizing reached with
  | nil => exact .refl _
  | cons slot rest ih => exact (follows_add _ _).step ((ih _).step (.refl _))

theorem follows_renderChart (layout : Layout) :
    Follows (fun build => layout.machineRenderChart build) (.ok layout.renderChart) :=
  (follows_chartFrom _ _ _).step (.refl _)

end Layout

end UniformBlock
