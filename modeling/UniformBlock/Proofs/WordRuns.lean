import UniformBlock.Machine.Blocks
import UniformBlock.Proofs.WriterRows

/-!
# Runs within words

A writer moves on behind its last row, so it may compute an offset that lies a gap beyond
the floats that it needs.  If that offset is a word, then every sum and product of the run
is one, and the run is the exact one in every build.  The same holds for a pass if it holds
for each of its entries.
-/

namespace UniformBlock

namespace RowPattern

/-- The rows with their gaps reach as far as the last float, or a gap further. -/
theorem extent_le_mul (pattern : RowPattern) : pattern.extent ≤ pattern.rows * pattern.pitch := by
  by_cases none : pattern.rows = 0
  · rw [extent, if_pos none]
    exact Nat.zero_le _
  · rw [← extent_add_gap (Nat.pos_of_ne_zero none)]
    exact Nat.le_add_right _ _

theorem valueCount_le_mul (pattern : RowPattern) :
    pattern.valueCount ≤ pattern.rows * pattern.pitch :=
  Nat.mul_le_mul_left _ (Nat.le_add_right _ _)

theorem pitch_le_mul {pattern : RowPattern} (some : pattern.rows ≠ 0) :
    pattern.pitch ≤ pattern.rows * pattern.pitch :=
  Nat.le_mul_of_pos_left _ (Nat.pos_of_ne_zero some)

/-- The extent of rows that stay within words, gaps included, is computed. -/
theorem machineExtent_of_lt {Failure : Type} [Faulting Failure] (build : Build)
    {pattern : RowPattern} (fits : pattern.rows * pattern.pitch < wordCount) :
    pattern.machineExtent build = (.ok pattern.extent : Except Failure Nat) := by
  by_cases none : pattern.rows = 0
  · rw [machineExtent, extent, if_pos none, if_pos none]
  · exact machineExtent_eq build (Nat.lt_of_le_of_lt (pitch_le_mul none) fits)
      (Nat.lt_of_le_of_lt pattern.extent_le_mul fits)

end RowPattern

theorem WriteResult.machineAndThen_eq {next : Buffer → WriteAttempt}
    {exactNext : Buffer → WriteResult} (result : WriteResult)
    (same : ∀ buffer, next buffer = .ok (exactNext buffer)) :
    result.machineAndThen next = .ok (result.andThen exactNext) := by
  rw [machineAndThen, andThen]
  cases result.failure? with
  | none => exact same _
  | some failure => rfl

/-! ## Writers -/

namespace Buffer

variable {build : Build} {buffer : Buffer} {name : String} {offset : Nat}

theorem machineWithSpan_eq {length : Nat} (fits : offset + length < wordCount)
    {next : Buffer → WriteAttempt} {exactNext : Buffer → WriteResult}
    (same : next buffer = .ok (exactNext buffer)) :
    buffer.machineWithSpan build name offset length next =
      .ok (buffer.withSpan name offset length exactNext) := by
  rw [machineWithSpan, Build.add_of_lt fits, withSpan, ok_bind]
  split
  · rfl
  · exact same

theorem machineWithRange_eq {length : Nat} (fits : offset + length < wordCount)
    (next : Buffer → WriteResult) :
    buffer.machineWithRange build name offset length next =
      .ok (buffer.withSpan name offset length next) := by
  have forward : ¬ offset + length < offset := Nat.not_lt.mpr (Nat.le_add_right _ _)
  rw [machineWithRange, Build.add_of_lt fits, withSpan, ok_bind]
  simp only [forward, false_or]
  split
  · rfl
  · rfl

theorem machineWriteRun_eq {width : Nat} (fits : offset + width < wordCount) (total : Nat)
    (components : List Binary32) :
    buffer.machineWriteRun build name offset width total components =
      .ok (buffer.writeRun name offset width total components) :=
  machineWithRange_eq fits _

theorem machineWriteRows_eq {pattern : RowPattern} {rows : Nat}
    (fits : offset + rows * pattern.pitch < wordCount) (total : Nat)
    (components : List Binary32) (buffer : Buffer) :
    machineWriteRows build name pattern total rows offset components buffer =
      .ok (writeRows name pattern.width pattern.pitch total rows offset components buffer) := by
  induction rows generalizing offset components buffer with
  | zero => rfl
  | succ rows ih =>
      have width : pattern.width ≤ pattern.pitch := Nat.le_add_right _ _
      rw [Nat.succ_mul] at fits
      rw [machineWriteRows, machineWriteRun_eq (by omega), ok_bind]
      refine WriteResult.machineAndThen_eq _ fun buffer => ?_
      rw [RowPattern.machinePitch_eq build (by omega), ok_bind, Build.add_of_lt (by omega)]
      exact ih (by omega) _ buffer

theorem machineWriteColumns_eq {rows stride left column : Nat} (apart : rows ≤ stride)
    (fits : offset + (column + left) * stride < wordCount) (total : Nat)
    (components : List Binary32) (buffer : Buffer) :
    machineWriteColumns build name offset rows stride total left column components buffer =
      .ok (writeColumns name offset rows stride total left column components buffer) := by
  induction left generalizing column components buffer with
  | zero => rfl
  | succ left ih =>
      have split : (column + (left + 1)) * stride = column * stride + stride + left * stride := by
        rw [Nat.add_mul, Nat.succ_mul]
        omega
      have next : (column + 1 + left) * stride = column * stride + stride + left * stride := by
        rw [Nat.add_mul, Nat.succ_mul]
      rw [machineWriteColumns, Build.mul_of_lt (by omega), ok_bind, Build.add_of_lt (by omega),
        ok_bind, machineWriteRun_eq (by omega)]
      exact WriteResult.machineAndThen_eq _ fun buffer => ih (by omega) _ buffer

theorem machineWriteSlices_eq {stride position : Nat} {slices : List (List Binary32)}
    (apart : ∀ slice ∈ slices, slice.length ≤ stride)
    (fits : offset + (position + slices.length) * stride < wordCount) (buffer : Buffer) :
    machineWriteSlices build name offset stride position slices buffer =
      .ok (writeSlices name offset stride position slices buffer) := by
  induction slices generalizing position buffer with
  | nil => rfl
  | cons slice rest ih =>
      obtain ⟨short, apart⟩ := List.forall_mem_cons.mp apart
      have split : (position + (slice :: rest).length) * stride =
          position * stride + stride + rest.length * stride := by
        rw [List.length_cons, Nat.add_mul, Nat.succ_mul]
        omega
      have next : (position + 1 + rest.length) * stride =
          position * stride + stride + rest.length * stride := by
        rw [Nat.add_mul, Nat.succ_mul]
      rw [machineWriteSlices, Build.mul_of_lt (by omega), ok_bind, Build.add_of_lt (by omega),
        ok_bind, machineWriteSlice, machineWithRange_eq (by omega)]
      exact WriteResult.machineAndThen_eq _ fun buffer => ih apart (by omega) buffer

end Buffer

namespace Writer

/-- The offset behind the last row of a writer and the gap after it. -/
def reach (writer : Writer) (offset : Nat) : Nat :=
  offset + writer.pattern.rows * writer.pattern.pitch

/-- A gap follows the last row if there is one. -/
theorem reach_le (writer : Writer) (offset : Nat) :
    writer.reach offset ≤ offset + writer.pattern.extent + writer.pattern.gap := by
  rw [reach]
  by_cases none : writer.pattern.rows = 0
  · rw [none, Nat.zero_mul]
    omega
  · rw [← RowPattern.extent_add_gap (Nat.pos_of_ne_zero none)]
    omega

/-- Rows that end in a buffer are followed by a gap that no word is too short for. -/
theorem reach_lt_of_room {writer : Writer} (gap : writer.pattern.gap ≤ 4) {offset size : Nat}
    (held : Holdable size) (room : offset + writer.pattern.extent ≤ size) :
    writer.reach offset < wordCount := by
  have reaches := writer.reach_le offset
  simp only [Holdable, wordCount] at held ⊢
  omega

theorem machineWithCount_eq {name : String} {value : Value} {expected : Nat} {buffer : Buffer}
    {next : WriteAttempt} {exactNext : WriteResult} (same : next = .ok exactNext) :
    machineWithCount name value expected buffer next =
      .ok (withCount name value expected buffer exactNext) := by
  rw [machineWithCount, withCount]
  split
  · rfl
  · exact same

theorem matrixExtent_le {columns rows stride : Nat} (someColumns : 1 ≤ columns)
    (apart : rows ≤ stride) : matrixExtent columns rows stride ≤ columns * stride := by
  have last : (columns - 1) * stride + stride = columns * stride := by
    rw [← Nat.succ_mul, Nat.succ_eq_add_one, Nat.sub_add_cancel someColumns]
  rw [matrixExtent]
  omega

/-- The extent of columns that stay within words is computed. -/
theorem machineMatrixExtent_eq (build : Build) {columns rows stride : Nat}
    (someColumns : 1 ≤ columns) (apart : rows ≤ stride) (fits : columns * stride < wordCount) :
    machineMatrixExtent build columns rows stride = .ok (matrixExtent columns rows stride) := by
  have extent : (columns - 1) * stride + rows < wordCount :=
    Nat.lt_of_le_of_lt (matrixExtent_le someColumns apart) fits
  rw [machineMatrixExtent, Build.sub_of_le someColumns, ok_bind, Build.mul_of_lt (by omega)]
  exact Build.add_of_lt extent

/-- The length that an array writer checks for is computed if its rows stay within words. -/
theorem machineExpected_eq (build : Build) {pattern : RowPattern}
    (fits : pattern.rows * pattern.pitch < wordCount) (checked : Bool) :
    machineExpected build pattern checked = .ok (if checked then pattern.valueCount else 0) := by
  cases checked with
  | false => rfl
  | true =>
      exact RowPattern.machineValueCount_eq build
        (Nat.lt_of_le_of_lt pattern.valueCount_le_mul fits)

/-- A regular writer that reaches a word does not overflow. -/
theorem machineRun_eq {writer : Writer} (regular : writer.Regular) {offset : Nat}
    (fits : writer.reach offset < wordCount) (build : Build) (name : String) (value : Value)
    (buffer : Buffer) :
    writer.machineRun build name offset value buffer = .ok (writer.run name offset value buffer) := by
  cases writer with
  | vector components =>
      simp only [reach, pattern, RowPattern.pitch, Nat.one_mul, Nat.add_zero] at fits
      exact machineWithCount_eq (Buffer.machineWriteRun_eq fits _ _)
  | matrix columns rows stride =>
      obtain ⟨someColumns, apart⟩ : 1 ≤ columns ∧ rows ≤ stride := regular
      have pitch : rows + (stride - rows) = stride := Nat.add_sub_cancel' apart
      simp only [reach, pattern, RowPattern.pitch, pitch] at fits
      have expected : columns * rows ≤ columns * stride := Nat.mul_le_mul_left _ apart
      have extent : matrixExtent columns rows stride ≤ columns * stride :=
        matrixExtent_le someColumns apart
      rw [machineRun, Build.mul_of_lt (by omega)]
      refine machineWithCount_eq ?_
      rw [machineMatrixExtent_eq build someColumns apart (by omega)]
      refine Buffer.machineWithSpan_eq (by omega) ?_
      exact Buffer.machineWriteColumns_eq apart (by rwa [Nat.zero_add]) _ _ _
  | strided pattern checked =>
      simp only [reach, Writer.pattern] at fits
      have extent := pattern.extent_le_mul
      rw [machineRun, machineExpected_eq build (by omega)]
      refine machineWithCount_eq ?_
      rw [RowPattern.machineExtent_of_lt build (by omega)]
      exact Buffer.machineWithSpan_eq (by omega) (Buffer.machineWriteRows_eq fits _ _ _)
  | affine =>
      simp only [reach, pattern, RowPattern.pitch] at fits
      cases value
      case affine =>
        refine Buffer.machineWithSpan_eq (by simp only [affineExtent, rowFloats, rowBytes]; omega) ?_
        refine Buffer.machineWriteSlices_eq ?_ ?_ _
        · simp [affineColumns, rowFloats, rowBytes]
        · simp only [affineColumns, rowFloats, rowBytes, List.length_cons, List.length_nil]
          omega
      all_goals rfl
  | rect =>
      simp only [reach, pattern, RowPattern.pitch] at fits
      cases value
      case rect => exact Buffer.machineWriteRun_eq fits _ _
      all_goals rfl
  | point =>
      simp only [reach, pattern, RowPattern.pitch] at fits
      cases value
      case point => exact Buffer.machineWriteRun_eq fits _ _
      all_goals rfl
  | color channels =>
      simp only [reach, pattern, RowPattern.pitch, Nat.one_mul, Nat.add_zero] at fits
      cases value
      case color => exact Buffer.machineWriteRun_eq fits _ _
      all_goals rfl

end Writer

/-! ## Passes -/

namespace Plan

variable {source : Source} {base : Nat}

/-- A pass over entries that reach words does not overflow. -/
theorem machineWriteEntries_eq {entries : List PlanEntry}
    (fits : ∀ entry ∈ entries, entry.writer.Regular ∧
      entry.writer.reach (base + entry.offset) < wordCount)
    (build : Build) (buffer : Buffer) :
    machineWriteEntries build source base entries buffer =
      .ok (writeEntries source base entries buffer) := by
  induction entries generalizing buffer with
  | nil => rfl
  | cons entry rest ih =>
      obtain ⟨⟨regular, reaches⟩, fits⟩ := List.forall_mem_cons.mp fits
      rw [machineWriteEntries, writeEntries]
      cases source entry.name with
      | none => rfl
      | some value =>
          have start : base + entry.offset < wordCount :=
            Nat.lt_of_le_of_lt (Nat.le_add_right _ _) reaches
          dsimp only
          rw [Build.add_of_lt start, ok_bind, Writer.machineRun_eq regular reaches]
          exact WriteResult.machineAndThen_eq _ fun buffer => ih fits buffer

theorem machineRun_eq {plan : Plan}
    (fits : ∀ entry ∈ plan.entries, entry.writer.Regular ∧
      entry.writer.reach (base + entry.offset) < wordCount)
    (build : Build) (buffer : Buffer) :
    plan.machineRun build source base buffer = .ok (plan.run source base buffer) :=
  machineWriteEntries_eq fits build buffer

end Plan

end UniformBlock
