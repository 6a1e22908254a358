import Mathlib.Order.Bounds.Basic
import UniformBlock.Machine.Layouts
import UniformBlock.Proofs.Arrangement
import UniformBlock.Proofs.RowPatterns

/-!
# Even rows

A std140 array is refused for the first of three reasons: it has no entries, its type
has no base size, or its sample does not fill the rows of all entries evenly.  An
accepted array takes its sample whole, in rows that lie as close together as rows of
sixteen bytes can.  These rules leave one answer for every array.
-/

namespace UniformBlock.BaseSizes

/-! ## The rows of an even sample -/

/-- Rows that take a sample whole and keep to rows of four floats. -/
structure Spreads (rows sampleCount : Nat) (pattern : RowPattern) : Prop where
  rows_eq : pattern.rows = rows
  width_pos : 1 ≤ pattern.width
  /-- No component of the sample is lost, and none is made up. -/
  whole : pattern.valueCount = sampleCount
  gap_lt : pattern.gap < 4
  pitch : IsLeast {floats | 4 ∣ floats ∧ pattern.width ≤ floats} pattern.pitch
  /-- Every row starts on a boundary of sixteen bytes if the first one does. -/
  aligned : ∀ start, 16 ∣ start → ∀ row < pattern.rows, 16 ∣ start + 4 * (row * pattern.pitch)
  /-- The rows end before the gap of the last one. -/
  extent : pattern.extent = pattern.rows * pattern.pitch - pattern.gap
  gap_le : pattern.gap ≤ pattern.rows * pattern.pitch

/-- A row and its gap are the row rounded up to four floats. -/
theorem isLeast_pitch (width : Nat) :
    IsLeast {floats | 4 ∣ floats ∧ width ≤ floats} (width + rowGap width) := by
  have rounded : roundUp width 4 = width + rowGap width :=
    roundUp_eq (rowFloats_dvd_add_rowGap width) (Nat.le_add_right _ _)
      (Nat.add_lt_add_left (rowGap_lt width) width)
  rw [← rounded]
  exact isLeast_roundUp (by decide) width

/-- Rows of equal width that use up a sample are what the sample spreads to. -/
theorem spreads_of_mul_eq {rows width sampleCount : Nat} (nonempty : sampleCount ≠ 0)
    (whole : rows * width = sampleCount) :
    Spreads rows sampleCount ⟨rows, width, rowGap width⟩ := by
  have someRows : 0 < rows := by
    apply Nat.pos_of_ne_zero
    rintro rfl
    exact nonempty (by rw [← whole, Nat.zero_mul])
  have someFloats : 0 < width := by
    apply Nat.pos_of_ne_zero
    rintro rfl
    exact nonempty (by rw [← whole, Nat.mul_zero])
  have ends : RowPattern.extent ⟨rows, width, rowGap width⟩ + rowGap width =
      rows * RowPattern.pitch ⟨rows, width, rowGap width⟩ := RowPattern.extent_add_gap someRows
  have pitch := isLeast_pitch width
  have rowBytes : 16 ∣ 4 * (width + rowGap width) := Nat.mul_dvd_mul_left 4 pitch.1.1
  refine ⟨rfl, someFloats, whole, rowGap_lt width, pitch, ?_, ?_, ?_⟩
  · intro start begins row inside
    rw [RowPattern.pitch, Nat.mul_left_comm]
    exact Nat.dvd_add begins (Nat.dvd_mul_left_of_dvd rowBytes row)
  · rw [← ends, Nat.add_sub_cancel]
  · rw [← ends]
    exact Nat.le_add_left _ _

/-- A sample spreads over rows in one way only. -/
theorem Spreads.unique {rows sampleCount : Nat} {first second : RowPattern}
    (nonempty : sampleCount ≠ 0) (left : Spreads rows sampleCount first)
    (right : Spreads rows sampleCount second) : first = second := by
  obtain ⟨firstRows, firstWidth, firstGap⟩ := first
  obtain ⟨secondRows, secondWidth, secondGap⟩ := second
  obtain rfl : firstRows = rows := left.rows_eq
  obtain rfl : secondRows = firstRows := right.rows_eq
  have whole : secondRows * firstWidth = secondRows * secondWidth :=
    left.whole.trans right.whole.symm
  have someRows : 0 < secondRows := by
    apply Nat.pos_of_ne_zero
    rintro rfl
    exact nonempty (left.whole.symm.trans (Nat.zero_mul _))
  obtain rfl : firstWidth = secondWidth := Nat.eq_of_mul_eq_mul_left someRows whole
  obtain rfl : firstGap = secondGap := Nat.add_left_cancel (left.pitch.unique right.pitch)
  rfl

/-! ## Which samples are even -/

/-- Whether a sample does not fill the rows of all entries evenly.  An entry has as many
rows as its base size, and at least one. -/
def Uneven (count base sampleCount : Nat) : Prop :=
  sampleCount = 0 ∨ ¬ count * max (base / 16) 1 ∣ sampleCount

/-- Filling the entries evenly, and then the rows of each entry, is filling all rows
evenly. -/
theorem mul_dvd_iff_mod_eq_zero {count rows sampleCount : Nat} :
    count * rows ∣ sampleCount ↔
      sampleCount % count = 0 ∧ sampleCount / count % rows = 0 := by
  constructor
  · intro even
    have entries : count ∣ sampleCount := dvd_of_mul_right_dvd even
    have perEntry : rows ∣ sampleCount / count := (Nat.dvd_div_iff_mul_dvd entries).mpr even
    exact ⟨Nat.mod_eq_zero_of_dvd entries, Nat.mod_eq_zero_of_dvd perEntry⟩
  · rintro ⟨entries, perEntry⟩
    exact (Nat.dvd_div_iff_mul_dvd (Nat.dvd_of_mod_eq_zero entries)).mp
      (Nat.dvd_of_mod_eq_zero perEntry)

theorem uneven_iff {count base sampleCount : Nat} :
    Uneven count base sampleCount ↔
      sampleCount = 0 ∨ sampleCount % count ≠ 0 ∨ sampleCount / count % entryRows base ≠ 0 := by
  change sampleCount = 0 ∨ ¬ count * entryRows base ∣ sampleCount ↔ _
  rw [mul_dvd_iff_mod_eq_zero, Decidable.not_and_iff_not_or_not]

/-! ## The answer for an array -/

/-- What a std140 array of the given type gets: the first reason against it, or its
rows. -/
inductive Ruling (table : BaseSizes) (name : String) (type : ShaderType)
    (count sampleCount : Nat) : Attempt RowPattern → Prop where
  | empty (without : count = 0) :
      Ruling table name type count sampleCount (.error (.refused (.emptyArray name)))
  | unsupported (present : count ≠ 0) (unknown : table.baseSize? type = none) :
      Ruling table name type count sampleCount
        (.error (.refused (.unsupportedType name type .std140)))
  | uneven {base : Nat} (present : count ≠ 0) (known : table.baseSize? type = some base)
      (uneven : Uneven count base sampleCount) :
      Ruling table name type count sampleCount
        (.error (.refused (.inconsistentSample name sampleCount count)))
  | even {base : Nat} {pattern : RowPattern} (present : count ≠ 0)
      (known : table.baseSize? type = some base) (even : ¬ Uneven count base sampleCount)
      (spread : Spreads (count * max (base / 16) 1) sampleCount pattern) :
      Ruling table name type count sampleCount (.ok pattern)

variable {table : BaseSizes} {name : String} {type : ShaderType} {count sampleCount : Nat}

/-- There is one answer at most. -/
theorem Ruling.unique {first second : Attempt RowPattern}
    (left : table.Ruling name type count sampleCount first)
    (right : table.Ruling name type count sampleCount second) : first = second := by
  -- Two answers of different kinds disagree on the count, on the table or on the sample.
  cases left with
  | empty without =>
      cases right with
      | empty => rfl
      | unsupported present => exact absurd without present
      | uneven present => exact absurd without present
      | even present => exact absurd without present
  | unsupported present unknown =>
      cases right with
      | empty without => exact absurd without present
      | unsupported => rfl
      | uneven _ known => cases unknown.symm.trans known
      | even _ known => cases unknown.symm.trans known
  | uneven present known uneven =>
      cases right with
      | empty without => exact absurd without present
      | unsupported _ unknown => cases unknown.symm.trans known
      | uneven => rfl
      | even _ known' even =>
          cases known.symm.trans known'
          exact absurd uneven even
  | even present known even spread =>
      cases right with
      | empty without => exact absurd without present
      | unsupported _ unknown => cases unknown.symm.trans known
      | uneven _ known' uneven =>
          cases known.symm.trans known'
          exact absurd uneven even
      | even _ known' _ spread' =>
          cases known.symm.trans known'
          have nonempty : sampleCount ≠ 0 := fun missing => even (.inl missing)
          rw [spread.unique nonempty spread']

theorem rowPattern_ruling (table : BaseSizes) (name : String) (type : ShaderType)
    (count sampleCount : Nat) :
    table.Ruling name type count sampleCount
      (table.rowPattern name type count sampleCount) := by
  rw [rowPattern]
  split
  · rename_i without
    exact .empty without
  · rename_i present
    split
    · rename_i unknown
      exact .unsupported present unknown
    · rename_i base known
      dsimp only
      split
      · rename_i uneven
        exact .uneven present known (uneven_iff.mpr uneven)
      · rename_i even
        rw [← uneven_iff] at even
        obtain ⟨nonempty, fits⟩ := not_or.mp even
        refine .even present known even (spreads_of_mul_eq nonempty ?_)
        rw [Nat.div_div_eq_div_mul]
        exact Nat.mul_div_cancel' (not_not.mp fits)

/-! ## The answer in machine words -/

/-- A sample that is a word has no more rows than a word can count. -/
theorem machineRowPattern_eq (table : BaseSizes) (build : Build) (name : String)
    (type : ShaderType) (count : Nat) {sampleCount : Nat} (word : sampleCount < wordCount) :
    table.machineRowPattern build name type count sampleCount =
      table.rowPattern name type count sampleCount := by
  rw [machineRowPattern_eq_bind]
  cases derived : table.rowPattern name type count sampleCount with
  | error failure => rfl
  | ok pattern =>
      have whole := valueCount_of_rowPattern derived
      have width : 1 ≤ pattern.width := by
        have ruled := table.rowPattern_ruling name type count sampleCount
        rw [derived] at ruled
        cases ruled with
        | even _ _ _ spread => exact spread.width_pos
      have rows : pattern.rows ≤ sampleCount := by
        rw [← whole, RowPattern.valueCount]
        exact Nat.le_mul_of_pos_right _ width
      rw [ok_bind, Build.fit_of_lt (Nat.lt_of_le_of_lt rows word)]
      rfl

/-- In every build every std140 array gets the answer of the rule, which is never a fault.
The rows of an accepted array take the whole sample, and their pitch and their extent are
computed as long as they are words. -/
theorem machineRowPattern_decides_evenness (table : BaseSizes) (build : Build) (name : String)
    (type : ShaderType) (count : Nat) {sampleCount : Nat} (word : sampleCount < wordCount) :
    (∀ answer, table.machineRowPattern build name type count sampleCount = answer ↔
      table.Ruling name type count sampleCount answer) ∧
    ∀ pattern, table.machineRowPattern build name type count sampleCount = .ok pattern →
      pattern.machineValueCount build = (.ok sampleCount : Except Fault Nat) ∧
      (pattern.pitch < wordCount →
        pattern.machinePitch build = (.ok pattern.pitch : Except Fault Nat) ∧
        (pattern.extent < wordCount →
          pattern.machineExtent build = (.ok pattern.extent : Except Fault Nat))) := by
  rw [table.machineRowPattern_eq build name type count word]
  have ruled := table.rowPattern_ruling name type count sampleCount
  constructor
  · intro answer
    constructor
    · rintro rfl
      exact ruled
    · exact ruled.unique
  · intro pattern derived
    have whole := valueCount_of_rowPattern derived
    refine ⟨?_, fun pitchFits => ⟨RowPattern.machinePitch_eq build pitchFits,
      RowPattern.machineExtent_eq build pitchFits⟩⟩
    rw [← whole] at word ⊢
    exact RowPattern.machineValueCount_eq build word

/-- Six components fill a row of three for each of two entries. -/
theorem rows_of_six_components :
    6 < wordCount ∧
      standard.machineRowPattern .wrapping "bones" (.vector .f32 3) 2 6 = .ok ⟨2, 3, 1⟩ ∧
      standard.Ruling "bones" (.vector .f32 3) 2 6 (.ok ⟨2, 3, 1⟩) ∧
      RowPattern.machineExtent .wrapping ⟨2, 3, 1⟩ = (.ok 7 : Except Fault Nat) := by
  have word : 6 < wordCount := by decide
  have derived :
      standard.machineRowPattern .wrapping "bones" (.vector .f32 3) 2 6 = .ok ⟨2, 3, 1⟩ := by
    decide
  have decided := standard.machineRowPattern_decides_evenness .wrapping "bones" (.vector .f32 3) 2
    word
  exact ⟨word, derived, (decided.1 _).mp derived,
    ((decided.2 _ derived).2 (by decide)).2 (by decide)⟩

/-- The pitch of a single row of the greatest number of floats is no word: a build without
checks takes it for zero, and one with checks stops. -/
theorem pitch_of_longest_row :
    ∃ pattern, standard.machineRowPattern .wrapping "bones" (.scalar .f32) 1 (wordCount - 1) =
        .ok pattern ∧
      pattern.machinePitch .wrapping = (.ok 0 : Except Fault Nat) ∧
      ¬ IsLeast {floats | 4 ∣ floats ∧ pattern.width ≤ floats} 0 ∧
      pattern.machinePitch .checked = (.error (.overflow .add) : Except Fault Nat) := by
  refine ⟨⟨1, wordCount - 1, 1⟩, by decide, by decide, ?_, by decide⟩
  intro least
  exact absurd least.1.2 (by decide)

end UniformBlock.BaseSizes
