import UniformBlock.Proofs.CompiledLayouts
import UniformBlock.Proofs.WordRuns

/-!
# Room for arrays

The layout and the array writers derive the rows of an array separately, both
from the size table.  Whatever the table says, they derive the same rows and the
layout reserves at least what the rows reach, so an array writer that runs at
its own offset never leaves a buffer of the layout.

The gap after the last row is no part of an array, but there are at least two rows if there
are any, so it is no longer than what is reserved.  This keeps all offsets of the writer
within words.
-/

namespace UniformBlock

namespace RowPattern

/-- The gap after the last of several rows is no longer than the rows. -/
theorem mul_pitch_le {pattern : RowPattern} (several : pattern.rows = 0 ∨ 2 ≤ pattern.rows) :
    pattern.rows * pattern.pitch ≤ 2 * pattern.extent := by
  rcases several with none | several
  · rw [none, Nat.zero_mul]
    exact Nat.zero_le _
  · have someRows : 0 < pattern.rows := Nat.lt_of_lt_of_le (by decide) several
    have whole := extent_add_gap someRows
    have firstRow : pattern.pitch ≤ (pattern.rows - 1) * pattern.pitch :=
      Nat.le_mul_of_pos_left _ (by omega)
    have extent := extent_eq someRows
    have gap : pattern.gap ≤ pattern.pitch := Nat.le_add_left _ _
    omega

end RowPattern

/-- What the slot of an array offers to the writers of the array: it has room
for their rows, and with any value they come to an end that changes nothing outside it and
that is no lack of room in a buffer of the layout. -/
structure Slot.HoldsRows (slot : Slot) (floatCount : Nat) (pattern : RowPattern) : Prop where
  reserved : 4 * pattern.extent ≤ slot.byteSize
  measured : ∀ build, pattern.machineExtent build = (.ok pattern.extent : Except Fault Nat)
  written : ∀ build checked name value (buffer : Buffer), ∃ result,
    (Writer.strided pattern checked).machineRun build name slot.element.floatOffset value
        buffer = .ok result ∧
      (∀ i, result.buffer[i]? ≠ buffer[i]? → i ∈ slot.floats 0) ∧
      (floatCount ≤ buffer.size → result.InRange)

namespace Compiler

variable {compiler : Compiler} {declaration : Declaration} {pattern : RowPattern}

/-- Whether every array of a layout has rows, its writer puts them, and its slot holds
them. -/
def HoldsArrays (compiler : Compiler) (layout : Layout) : Prop :=
  ∀ slot ∈ layout.slots, 1 < slot.element.count → ∃ pattern,
    (∀ build, compiler.machineRowsOf build slot.element.toDeclaration = .ok pattern) ∧
      (∀ build, (compiler.machineArrayWriters build).writerFor slot.element =
        .ok (.strided pattern compiler.settings.checkValueLengths)) ∧
      slot.HoldsRows layout.floatCount pattern

theorem follows_rowsOf (array : declaration.isArray = true) :
    Follows (fun build => compiler.machineRowsOf build declaration)
      (compiler.gridOf declaration) := by
  rw [gridOf, if_pos array]
  simp only [machineRowsOf]
  cases compiler.settings.convention with
  | std140 => exact compiler.baseSizes.follows_rowPattern _ _ _ _
  | wgsl => exact compiler.alignSizes.follows_rowPattern _ _ _

/-- The writer of an array puts the rows that the build has derived. -/
theorem machineWriterFor_eq (build : Build) {element : Element}
    (derived : compiler.machineRowsOf build element.toDeclaration = .ok pattern) :
    (compiler.machineArrayWriters build).writerFor element =
      .ok (.strided pattern compiler.settings.checkValueLengths) := by
  rw [machineRowsOf] at derived
  rw [machineArrayWriters]
  cases convention : compiler.settings.convention with
  | std140 =>
      rw [convention] at derived
      exact map_eq_ok_iff.mpr ⟨pattern, derived, rfl⟩
  | wgsl =>
      rw [convention] at derived
      exact map_eq_ok_iff.mpr ⟨pattern, derived, rfl⟩

/-- An array has at least as many rows as entries, unless its entries have none. -/
theorem several_rows (array : 1 < declaration.count)
    (rows : compiler.gridOf declaration = .ok pattern) : pattern.rows = 0 ∨ 2 ≤ pattern.rows := by
  have isArray : declaration.isArray = true := decide_eq_true array
  have several (perEntry : Nat) :
      declaration.count * perEntry = 0 ∨ 2 ≤ declaration.count * perEntry := by
    rcases Nat.eq_zero_or_pos perEntry with none | some
    · exact .inl (by rw [none, Nat.mul_zero])
    · exact .inr (Nat.le_trans array (Nat.le_mul_of_pos_right _ some))
  rw [gridOf, if_pos isArray] at rows
  cases convention : compiler.settings.convention with
  | std140 =>
      rw [convention] at rows
      obtain ⟨-, base, -, -, -, -, rfl⟩ := BaseSizes.rowPattern_eq_ok rows
      exact several _
  | wgsl =>
      rw [convention] at rows
      obtain ⟨-, row, -, rfl⟩ := AlignSizes.rowPattern_eq_ok rows
      exact several _

/-- Whatever a size table says of the types, a layout that the build with checks comes to
holds the arrays that are declared, in every build. -/
theorem machineLayout_holdsArrays (compiler : Compiler) {declarations : List Declaration}
    {layout : Layout} (accepted : compiler.machineLayout .checked declarations = .ok layout) :
    (∀ build, compiler.machineLayout build declarations = .ok layout) ∧
      compiler.HoldsArrays layout := by
  obtain ⟨exactly, everywhere⟩ := (compiler.follows_layout declarations).of_checked_ok accepted
  refine ⟨everywhere, ?_⟩
  intro slot member array
  have isArray : slot.element.toDeclaration.isArray = true := decide_eq_true array
  have placed := (placed_of_machineLayout accepted).of_mem member
  obtain ⟨pattern, derived⟩ := placed.rows array
  obtain ⟨rows, derivedAlike⟩ := (compiler.follows_rowsOf isArray).of_checked_ok derived
  obtain ⟨finish, chain, inBlock⟩ := layout_arranged exactly
  obtain ⟨reservation, reserved, sameSize⟩ := chain.reserved_of_mem member
  obtain ⟨_, rows', covered⟩ := compiler.reserve_coversRows reserved array
  cases rows.symm.trans rows'
  rw [← sameSize] at covered
  have inSlot := Slot.floatOffset_add_le covered
  have inLayout := inBlock slot member
  have word := byteSize_lt_of_machineLayout accepted
  have gaps := RowPattern.mul_pitch_le (several_rows array rows)
  have reach : slot.element.floatOffset + pattern.rows * pattern.pitch < wordCount := by
    rw [Layout.floatCount] at inLayout
    omega
  refine ⟨pattern, derivedAlike, fun build => machineWriterFor_eq build (derivedAlike build), ?_⟩
  constructor
  · omega
  · intro build
    exact RowPattern.machineExtent_of_lt build (by omega)
  · intro build checked name value buffer
    have regular : (Writer.strided pattern checked).Regular := trivial
    refine ⟨_, Writer.machineRun_eq regular reach build name value buffer, ?_, ?_⟩
    · intro i changed
      by_contra outside
      apply changed
      apply Writer.getElem?_run_outside regular
      rw [Slot.mem_floats, Nat.zero_add, Nat.zero_add] at outside
      rw [Writer.pattern]
      omega
    · intro room
      exact Writer.inRange_run regular ((inSlot.trans inLayout).trans room)

/-- An array of two scalars whose sample has seven components for each of them,
after a value that ends between two words. -/
def oddArray : List Declaration :=
  [⟨"mode", .scalar .i32, 1, .scalar .zero⟩,
    ⟨"curve", .scalar .f32, 2, .flat (List.replicate 14 .one)⟩]

/-- Base sizes that are no multiples of four or sixteen, and sizes without an alignment or
with an alignment of a single byte. -/
def oddTables (convention : Convention) : Compiler where
  settings := { convention }
  baseSizes := (BaseSizes.empty.insert (.scalar .i32) 6).insert (.scalar .f32) 20
  alignSizes := (AlignSizes.empty.insert (.scalar .i32) ⟨1, 3⟩).insert (.scalar .f32) ⟨0, 10⟩

theorem oddArray_held :
    ∃ baseLayout alignLayout,
      (oddTables .std140).machineLayout .checked oddArray = .ok baseLayout ∧
      (oddTables .wgsl).machineLayout .checked oddArray = .ok alignLayout ∧
      baseLayout.slots.map (fun slot => (slot.element.byteOffset, slot.byteSize)) =
        [(0, 6), (16, 64)] ∧
      alignLayout.slots.map (fun slot => (slot.element.byteOffset, slot.byteSize)) =
        [(0, 3), (3, 24)] ∧
      (oddTables .std140).HoldsArrays baseLayout ∧ (oddTables .wgsl).HoldsArrays alignLayout := by
  have baseAccepted : (oddTables .std140).machineLayout .checked oddArray = .ok _ := rfl
  have alignAccepted : (oddTables .wgsl).machineLayout .checked oddArray = .ok _ := rfl
  exact ⟨_, _, baseAccepted, alignAccepted, rfl, rfl,
    (machineLayout_holdsArrays _ baseAccepted).2, (machineLayout_holdsArrays _ alignAccepted).2⟩

/-- An alignment of half of all words. -/
def halfAligned : Compiler where
  settings := { convention := .wgsl }
  alignSizes := AlignSizes.empty.insert (.scalar .f32) ⟨2 ^ 63, 4⟩

/-- Two scalars at that alignment. -/
def farPair : Declaration :=
  .array "pair" (.scalar .f32) 2 (.flat [.one, .one])

/-- Their layout as a build without checks computes it. -/
def farPairLayout : Layout where
  convention := .wgsl
  slots := [{ element := { farPair with byteOffset := 0 }, byteSize := 0 }]
  byteSize := 0

/-- The scalars are given no bytes, so their writer leaves a buffer of the layout; a build
with checks stops at the layout. -/
theorem farPair_without_room :
    halfAligned.machineLayout .wrapping [farPair] = .ok farPairLayout ∧
      ¬ halfAligned.HoldsArrays farPairLayout ∧
      (halfAligned.machineArrayWriters .wrapping).writerFor { farPair with byteOffset := 0 } =
        .ok (.strided ⟨2, 1, 2 ^ 61 - 1⟩ true) ∧
      (Writer.strided ⟨2, 1, 2 ^ 61 - 1⟩ true).machineRun .wrapping "pair" 0 farPair.value
          (Array.replicate farPairLayout.floatCount .zero) =
        .ok (.failed #[] (.outOfRange "pair" 0 (2 ^ 61 + 1) 0)) ∧
      halfAligned.machineLayout .checked [farPair] = .error (.fault (.overflow .multiply)) := by
  refine ⟨by decide, ?_, by decide, by decide, by decide⟩
  intro held
  obtain ⟨pattern, derived, -, holds⟩ := held _ List.mem_cons_self (by decide)
  have rows : (.ok ⟨2, 1, 2 ^ 61 - 1⟩ : Attempt RowPattern) = .ok pattern := derived .wrapping
  cases rows
  exact absurd holds.reserved (by decide)

end Compiler

end UniformBlock
