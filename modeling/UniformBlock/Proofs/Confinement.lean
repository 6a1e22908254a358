import UniformBlock.Proofs.BlindWrites
import UniformBlock.Proofs.CompiledBlock
import UniformBlock.Proofs.WordRuns

/-!
# Confined writes

A pass over a compiled block keeps to the slots of its layout.  The writer of a
uniform changes floats of the uniform's own slot only, slots have no float in
common, and the pass never asks for a float that the buffer does not have.  All
of this holds for any values, and whether the pass succeeds or not.

A block that the build with checks compiles has slots that are counted in words, and a
memory is too small for the offsets of a pass over it to be anything else.  So the pass is
the same in every build.
-/

namespace UniformBlock

namespace Keyed

variable {Item Other : Type} {key : Other → String}

theorem last?_map (view : Item → Other) (items : List Item) (name : String) :
    last? key (items.map view) name = (last? (fun item => key (view item)) items name).map view := by
  rw [last?, last?, get?, get?, ← List.map_reverse, List.find?_map]
  rfl

theorem mem_of_last? {items : List Other} {name : String} {item : Other}
    (last : last? key items name = some item) : item ∈ items ∧ key item = name := by
  rw [last?, get?] at last
  have named := List.find?_some last
  exact ⟨List.mem_reverse.mp (List.mem_of_find?_eq_some last), of_decide_eq_true named⟩

end Keyed

/-- The last slot of a name. -/
def Layout.slot? (layout : Layout) (name : String) : Option Slot :=
  Keyed.last? (fun slot => slot.element.name) layout.slots name

namespace Plan

/-! ## Passes over regular writers -/

variable {source : Source} {base : Nat} {entries : List PlanEntry}

/-- Where the floats of an entry end, in a block that starts at a float offset. -/
def finishOf (base : Nat) (entry : PlanEntry) : Nat :=
  base + entry.offset + entry.writer.pattern.extent

/-- A pass stays within a buffer that has room for all entries. -/
theorem inRange_writeEntries (regular : ∀ entry ∈ entries, entry.writer.Regular)
    (buffer : Buffer) (room : ∀ entry ∈ entries, finishOf base entry ≤ buffer.size) :
    (writeEntries source base entries buffer).InRange := by
  induction entries generalizing buffer with
  | nil => exact .done buffer
  | cons entry rest ih =>
      rw [writeEntries]
      split
      · exact .failed_notFound buffer entry.name
      · rename_i value found
        have written : (entry.writer.run entry.name (base + entry.offset) value buffer).InRange :=
          Writer.inRange_run (regular entry List.mem_cons_self) (room entry List.mem_cons_self)
        apply written.andThen
        apply ih fun later member => regular later (List.mem_cons_of_mem _ member)
        intro later member
        rw [(Blind.run entry.writer entry.name (base + entry.offset) value).size_eq]
        exact room later (List.mem_cons_of_mem _ member)

/-- A pass leaves every slot outside all entries as it was. -/
theorem getElem?_writeEntries_outside (regular : ∀ entry ∈ entries, entry.writer.Regular)
    {i : Nat} (outside : ∀ entry ∈ entries, i < base + entry.offset ∨ finishOf base entry ≤ i)
    (buffer : Buffer) : (writeEntries source base entries buffer).buffer[i]? = buffer[i]? := by
  induction entries generalizing buffer with
  | nil => rfl
  | cons entry rest ih =>
      rw [writeEntries]
      split
      · rfl
      · rename_i value found
        have unchanged :
            (entry.writer.run entry.name (base + entry.offset) value buffer).buffer[i]? =
              buffer[i]? :=
          Writer.getElem?_run_outside (regular entry List.mem_cons_self)
            (outside entry List.mem_cons_self)
        rw [WriteResult.andThen]
        split
        · rw [ih (fun later member => regular later (List.mem_cons_of_mem _ member))
            fun later member => outside later (List.mem_cons_of_mem _ member)]
          exact unchanged
        · exact unchanged

end Plan

namespace Compiler

variable {compiler : Compiler} {declarations : List Declaration} {layout : Layout} {plan : Plan}

/-! ## Passes over compiled blocks -/

/-- The rows of a uniform end within its slot. -/
theorem rows_in_slot (sizes : compiler.StandardSizes)
    (built : compiler.layout declarations = .ok layout) {slot : Slot}
    (inLayout : slot ∈ layout.slots) {pattern : RowPattern}
    (rows : compiler.gridOf slot.element.toDeclaration = .ok pattern) :
    slot.element.floatOffset + pattern.extent ≤ slot.finish / 4 := by
  obtain ⟨finish, chain, -⟩ := layout_arranged built
  obtain ⟨reservation, reserved, sameSize⟩ := chain.reserved_of_mem inLayout
  have fits := rows_fit sizes reserved rows
  rw [← sameSize] at fits
  exact Slot.floatOffset_add_le fits

/-- Every entry of a plan writes into the last slot of its name. -/
theorem compiled_entry (sizes : compiler.StandardSizes)
    (specialists : compiler.StandardSpecialists)
    (compiled : compiler.compileDeclarations declarations = .ok (layout, plan))
    {entry : PlanEntry} (member : entry ∈ plan.entries) :
    ∃ slot ∈ layout.slots, layout.slot? entry.name = some slot ∧
      entry.offset = slot.element.floatOffset ∧ entry.writer.Regular ∧
      entry.writer.pattern.gap ≤ 4 ∧
      ∀ base, Plan.finishOf base entry ≤ base + slot.finish / 4 := by
  obtain ⟨built, planned⟩ := compileDeclarations_eq_ok compiled
  obtain ⟨element, last, entryFor⟩ := Plan.compile_last planned member
  obtain ⟨-, offset, chosen⟩ := Dispatch.entryFor_eq_ok entryFor
  obtain ⟨regular, rows⟩ := chosen_writer specialists chosen
  rw [Layout.elements, Keyed.last?_map] at last
  obtain ⟨slot, lastSlot, rfl⟩ := Option.map_eq_some_iff.mp last
  have inLayout := (Keyed.mem_of_last? lastSlot).1
  have ends := rows_in_slot sizes built inLayout rows
  refine ⟨slot, inLayout, lastSlot, offset, regular, gap_gridOf_le sizes rows, ?_⟩
  intro base
  rw [Plan.finishOf, offset]
  omega

/-- The block has room for every entry of the plan. -/
theorem entry_in_block (sizes : compiler.StandardSizes)
    (specialists : compiler.StandardSpecialists)
    (compiled : compiler.compileDeclarations declarations = .ok (layout, plan))
    {entry : PlanEntry} (member : entry ∈ plan.entries) (base : Nat) :
    Plan.finishOf base entry ≤ base + layout.floatCount := by
  obtain ⟨built, -⟩ := compileDeclarations_eq_ok compiled
  obtain ⟨slot, inLayout, -, -, -, -, ends⟩ := compiled_entry sizes specialists compiled member
  obtain ⟨finish, -, inBlock⟩ := layout_arranged built
  exact (ends base).trans (Nat.add_le_add_left (inBlock slot inLayout) base)

/-- No uniform escapes its slot: a pass over a compiled block never leaves the
buffer, each writer changes floats of the last slot of its name only, slots have
no float in common, and all other floats keep their content. -/
theorem run_confined (sizes : compiler.StandardSizes)
    (specialists : compiler.StandardSpecialists)
    (compiled : compiler.compileDeclarations declarations = .ok (layout, plan))
    (source : Source) (base : Nat) (buffer : Buffer)
    (room : base + layout.floatCount ≤ buffer.size) :
    (plan.run source base buffer).InRange ∧
      (∀ entry ∈ plan.entries, ∃ slot ∈ layout.slots,
        layout.slot? entry.name = some slot ∧
          ∀ value current i,
            (entry.writer.run entry.name (base + entry.offset) value current).buffer[i]? ≠
              current[i]? → i ∈ slot.floats base) ∧
      (layout.slots.Pairwise fun first second =>
        Disjoint (first.floats base) (second.floats base)) ∧
      ∀ i, (∀ slot ∈ layout.slots, layout.slot? slot.element.name = some slot →
          i ∉ slot.floats base) →
        (plan.run source base buffer).buffer[i]? = buffer[i]? := by
  obtain ⟨built, -⟩ := compileDeclarations_eq_ok compiled
  obtain ⟨finish, chain, -⟩ := layout_arranged built
  have entries {entry : PlanEntry} (member : entry ∈ plan.entries) :=
    compiled_entry sizes specialists compiled member
  have regular : ∀ entry ∈ plan.entries, entry.writer.Regular := by
    intro entry member
    obtain ⟨slot, -, -, -, regular, -, -⟩ := entries member
    exact regular
  refine ⟨?_, ?_, chain.floats_pairwise_disjoint compiler.reserve_forward base, ?_⟩
  · apply Plan.inRange_writeEntries regular
    intro entry member
    exact (entry_in_block sizes specialists compiled member base).trans room
  · intro entry member
    obtain ⟨slot, inLayout, last, offset, -, -, ends⟩ := entries member
    refine ⟨slot, inLayout, last, ?_⟩
    intro value current i changed
    by_contra outside
    apply changed
    apply Writer.getElem?_run_outside (regular entry member)
    have finishes := ends base
    rw [Slot.mem_floats, ← offset] at outside
    rw [Plan.finishOf] at finishes
    omega
  · intro i outside
    apply Plan.getElem?_writeEntries_outside regular
    intro entry member
    obtain ⟨slot, inLayout, last, offset, -, -, ends⟩ := entries member
    have named : slot.element.name = entry.name := (Keyed.mem_of_last? last).2
    have notInSlot := outside slot inLayout (named ▸ last)
    have finishes := ends base
    rw [Slot.mem_floats, ← offset] at notInSlot
    omega

/-! ## Passes on machine words -/

/-- What the build with checks compiles is exact, and every build compiles it. -/
theorem compiled_everywhere
    (compiled : compiler.machineCompileDeclarations .checked declarations = .ok (layout, plan)) :
    compiler.compileDeclarations declarations = .ok (layout, plan) ∧
      ∀ build, compiler.machineCompileDeclarations build declarations = .ok (layout, plan) :=
  (compiler.follows_compileDeclarations declarations).of_checked_ok compiled

/-- No entry of a plan reaches beyond the words, if its block lies well within them. -/
theorem compiled_reach (sizes : compiler.StandardSizes)
    (specialists : compiler.StandardSpecialists)
    (compiled : compiler.compileDeclarations declarations = .ok (layout, plan)) {base : Nat}
    (fits : base + layout.floatCount + 4 < wordCount) {entry : PlanEntry}
    (member : entry ∈ plan.entries) :
    entry.writer.Regular ∧ entry.writer.reach (base + entry.offset) < wordCount := by
  obtain ⟨slot, -, -, -, regular, gap, -⟩ := compiled_entry sizes specialists compiled member
  have inBlock := entry_in_block sizes specialists compiled member base
  have reaches := entry.writer.reach_le (base + entry.offset)
  rw [Plan.finishOf] at inBlock
  exact ⟨regular, by omega⟩

/-- No uniform escapes its slot: with a block that the build with checks compiles and any
buffer that a memory holds, a pass comes to its end in every build and never leaves the
buffer, each writer changes floats of the last slot of its name only, slots have no float
in common, and all other floats keep their content. -/
theorem machine_run_confined (sizes : compiler.StandardSizes)
    (specialists : compiler.StandardSpecialists)
    (compiled : compiler.machineCompileDeclarations .checked declarations = .ok (layout, plan))
    (source : Source) (base : Nat) (buffer : Buffer) (held : Holdable buffer.size)
    (room : base + layout.floatCount ≤ buffer.size) :
    (∀ build,
        compiler.machineCompileDeclarations build declarations = .ok (layout, plan)) ∧
      (∃ result, (∀ build, plan.machineRun build source base buffer = .ok result) ∧
        result.InRange ∧
        ∀ i, (∀ slot ∈ layout.slots, layout.slot? slot.element.name = some slot →
            i ∉ slot.floats base) → result.buffer[i]? = buffer[i]?) ∧
      (∀ entry ∈ plan.entries, ∃ slot ∈ layout.slots,
        layout.slot? entry.name = some slot ∧ ∀ value current, ∃ result,
          (∀ build, entry.writer.machineRun build entry.name (base + entry.offset) value
            current = .ok result) ∧
          ∀ i, result.buffer[i]? ≠ current[i]? → i ∈ slot.floats base) ∧
      layout.slots.Pairwise fun first second =>
        Disjoint (first.floats base) (second.floats base) := by
  obtain ⟨exactly, everywhere⟩ := compiled_everywhere compiled
  have fits : base + layout.floatCount + 4 < wordCount := by
    simp only [Holdable, wordCount] at held ⊢
    omega
  have reach {entry : PlanEntry} (member : entry ∈ plan.entries) :=
    compiled_reach sizes specialists exactly fits member
  obtain ⟨inRange, confined, apart, others⟩ :=
    run_confined sizes specialists exactly source base buffer room
  refine ⟨everywhere, ⟨_, ?_, inRange, others⟩, ?_, apart⟩
  · intro build
    exact Plan.machineRun_eq (fun entry member => reach member) build buffer
  · intro entry member
    obtain ⟨slot, inLayout, last, own⟩ := confined entry member
    refine ⟨slot, inLayout, last, ?_⟩
    intro value current
    obtain ⟨regular, reaches⟩ := reach member
    exact ⟨_, fun build => Writer.machineRun_eq regular reaches build entry.name value current,
      own value current⟩

/-- A compiler whose arrays find out too late that a value is too short. -/
def uncheckedWgsl : Compiler where
  settings := { convention := .wgsl, checkValueLengths := false }

/-- A scalar that takes the place of a vector of the same name. -/
def repeatedName : List Declaration :=
  [⟨"tint", .vector .f32 3, 1, .flat [.one, .one, .one]⟩,
    ⟨"bones", .matrix 2 2, 2, .flat [.one]⟩, ⟨"tint", .scalar .f32, 1, .scalar .one⟩]

/-- A value for every name, with three components. -/
def threeOnes : Source := fun _ =>
  some (.flat [.one, .one, .one])

/-- The array stops in its second row.  The slot of the vector is not the last of
its name, so nothing is written there. -/
theorem confined_with_repeated_name :
    ∃ layout plan, uncheckedWgsl.StandardSizes ∧ uncheckedWgsl.StandardSpecialists ∧
      uncheckedWgsl.machineCompileDeclarations .checked repeatedName = .ok (layout, plan) ∧
      Holdable (Array.replicate 18 Binary32.zero).size ∧
      2 + layout.floatCount ≤ (Array.replicate 18 Binary32.zero).size ∧
      plan.machineRun .wrapping threeOnes 2 (Array.replicate 18 .zero) =
        .ok ⟨#[.zero, .zero, .zero, .zero, .zero, .zero, .one, .one, .one, .zero, .zero, .zero,
          .zero, .zero, .one, .zero, .zero, .zero], some (.valueShape "bones" 2 3)⟩ ∧
      ∃ result, plan.machineRun .wrapping threeOnes 2 (Array.replicate 18 .zero) = .ok result ∧
        result.InRange ∧ result.buffer[2]? = some .zero := by
  have sizes : uncheckedWgsl.StandardSizes := ⟨rfl, rfl⟩
  have specialists : uncheckedWgsl.StandardSpecialists := fun _ registered => registered
  have compiled : uncheckedWgsl.machineCompileDeclarations .checked repeatedName =
      .ok (_, _) := rfl
  have held : Holdable (Array.replicate 18 Binary32.zero).size := by decide
  obtain ⟨-, ⟨result, everywhere, inRange, others⟩, -⟩ := machine_run_confined sizes specialists
    compiled threeOnes 2 (Array.replicate 18 .zero) held (Nat.le_of_ble_eq_true rfl)
  exact ⟨_, _, sizes, specialists, compiled, held, Nat.le_of_ble_eq_true rfl, rfl, result,
    everywhere .wrapping, inRange, others 2 (by decide +kernel)⟩

/-- Matrices of two columns whose bytes are four times as many as there are words. -/
def manyShears : Declaration :=
  .array "shears" (.matrix 2 2) (2 ^ 62) (.flat [])

/-- Their layout as a build without checks computes it. -/
def manyShearsLayout : Layout where
  convention := .wgsl
  slots := [{ element := { manyShears with byteOffset := 0 }, byteSize := 0 }]
  byteSize := 0

/-- The matrices are given no bytes.  A build without checks writes a value for them all
the same, into floats of no slot; one with checks stops at the layout. -/
theorem manyShears_escape :
    ∃ plan,
      (ofConvention .wgsl).machineCompileDeclarations .wrapping [manyShears] =
        .ok (manyShearsLayout, plan) ∧
      0 + manyShearsLayout.floatCount ≤ (Array.replicate 4 Binary32.zero).size ∧
      plan.machineRun .wrapping threeOnes 0 (Array.replicate 4 .zero) =
        .ok (.failed #[.one, .one, .one, .zero] (.valueShape "shears" 2 3)) ∧
      (∀ slot ∈ manyShearsLayout.slots, 0 ∉ slot.floats 0) ∧
      (ofConvention .wgsl).machineCompileDeclarations .checked [manyShears] =
        .error (.fault (.overflow .multiply)) := by
  exact ⟨⟨.wgsl, [⟨"shears", 0, .array, .strided ⟨2 ^ 63, 2, 0⟩ true⟩]⟩, rfl, by decide, rfl,
    by decide, rfl⟩

end Compiler

end UniformBlock
