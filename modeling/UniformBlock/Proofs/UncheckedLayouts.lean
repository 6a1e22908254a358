import Mathlib.Data.Nat.Prime.Basic
import UniformBlock.Proofs.EvenRows
import UniformBlock.Proofs.Reservations

/-!
# Layouts without checks

A build without checks does not stop at an overflow, so placing a declaration there fails
as its reservation does, whatever was placed before.  For an array under std140 this takes
a sample of which sixteen times the components are still a word: of a longer array no byte
may be left to divide by.
-/

namespace UniformBlock

/-! ## Failing alike -/

section FailsAlike

variable {Failure First Second Result : Type}

/-- Whether two computations fail in the same way, if they fail. -/
def FailsAlike (first : Except Failure First) (second : Except Failure Second) : Prop :=
  ∀ failure, first = .error failure ↔ second = .error failure

namespace FailsAlike

variable {first : Except Failure First} {second : Except Failure Second}

theorem error (failure : Failure) :
    FailsAlike (.error failure : Except Failure First) (.error failure : Except Failure Second) :=
  fun other => by simp only [Except.error.injEq]

theorem of_ends (left : Ends first) (right : Ends second) : FailsAlike first second := by
  obtain ⟨leftValue, rfl⟩ := left
  obtain ⟨rightValue, rfl⟩ := right
  exact fun failure => ⟨nofun, nofun⟩

theorem ends_iff (alike : FailsAlike first second) : Ends first ↔ Ends second := by
  cases first with
  | error failure =>
      cases (alike failure).mp rfl
      exact ⟨nofun, nofun⟩
  | ok value =>
      cases second with
      | error failure => cases (alike failure).mpr rfl
      | ok other => exact ⟨fun _ => ⟨other, rfl⟩, fun _ => ⟨value, rfl⟩⟩

/-- Going on to a certain end adds no failure. -/
theorem bind {next : First → Except Failure Result} (alike : FailsAlike first second)
    (later : ∀ value, first = .ok value → Ends (next value)) :
    FailsAlike (first >>= next) second := by
  cases first with
  | error failure =>
      cases (alike failure).mp rfl
      exact .error failure
  | ok value => exact of_ends (later value rfl) (alike.ends_iff.mp ⟨value, rfl⟩)

theorem map {change : Second → Result} (alike : FailsAlike first second) :
    FailsAlike first (second.map change) :=
  fun failure => (alike failure).trans map_eq_error_iff.symm

end FailsAlike

end FailsAlike

/-! ## Fixed rows -/

namespace BaseSizes

variable {table : BaseSizes} {declaration : Declaration}

/-- The bytes of the entries of an array are not cut to nothing as long as its sample has
sixteen bytes of a word for each component. -/
theorem entries_mod_ne_zero {count base sampleCount : Nat} (present : count ≠ 0)
    (even : ¬ Uneven count base sampleCount) (light : 16 * sampleCount < wordCount) :
    max base rowBytes * count % wordCount ≠ 0 := by
  obtain ⟨nonempty, fits⟩ := not_or.mp even
  have rowsOf : max (base / 16) 1 = max base 16 / 16 := by omega
  have rows : count * (max base 16 / 16) ≤ sampleCount := by
    rw [← rowsOf]
    exact Nat.le_of_dvd (Nat.pos_of_ne_zero nonempty) (not_not.mp fits)
  intro cut
  change max base 16 * count % wordCount = 0 at cut
  have atLeast : 16 ≤ max base 16 := Nat.le_max_right base 16
  generalize max base 16 = bytes at rows cut atLeast
  -- Less than two rows are lost to each entry, so nothing but one whole word can be cut off.
  have below : bytes * count < 2 * wordCount := by
    have perEntry : bytes * count ≤ (31 * (bytes / 16)) * count :=
      Nat.mul_le_mul_right count (by omega)
    rw [Nat.mul_assoc, Nat.mul_comm (bytes / 16)] at perEntry
    omega
  have whole : bytes * count = wordCount := by
    have positive : 0 < bytes * count :=
      Nat.mul_pos (Nat.lt_of_lt_of_le (by decide) atLeast) (Nat.pos_of_ne_zero present)
    rw [wordCount] at below cut ⊢
    omega
  -- Then the bytes of an entry are a power of two, and so they are whole rows.
  have divides : bytes ∣ 2 ^ 64 := ⟨count, whole.symm⟩
  obtain ⟨exponent, -, rfl⟩ := (Nat.dvd_prime_pow Nat.prime_two).mp divides
  have enough : 4 ≤ exponent := (Nat.pow_le_pow_iff_right Nat.one_lt_two).mp atLeast
  have evenRows : 2 ^ exponent / 16 * 16 = 2 ^ exponent :=
    Nat.div_mul_cancel (Nat.pow_dvd_pow 2 enough)
  rw [← evenRows, Nat.mul_right_comm, Nat.mul_comm _ count] at whole
  omega

/-- What is left of the size of such an array may be divided by. -/
theorem exists_byteSize_of_array {base : Nat} (array : declaration.isArray = true)
    (known : table.baseSize? declaration.type = some base)
    (light : 16 * declaration.value.count < wordCount) {pattern : RowPattern}
    (derived : table.rowPatternOf declaration = .ok pattern) :
    ∃ byteSize, byteSize ≠ 0 ∧
      table.machineByteSize .wrapping declaration base = .ok byteSize := by
  have present : declaration.count ≠ 0 :=
    Nat.ne_of_gt (Nat.lt_of_succ_lt (Declaration.one_lt_count_of_isArray array))
  have even : ¬ Uneven declaration.count base declaration.value.count := by
    have ruled := table.rowPattern_ruling declaration.name declaration.type declaration.count
      declaration.value.count
    rw [← rowPatternOf, derived] at ruled
    cases ruled with
    | even _ known' even =>
        cases known.symm.trans known'
        exact even
  have entries := entries_mod_ne_zero present even light
  obtain ⟨rows, counted⟩ : Ends (Build.wrapping.fit .multiply pattern.rows : Attempt Nat) :=
    ends_fit _ _
  obtain ⟨extent, measured⟩ : Ends (RowPattern.machineExtent .wrapping { pattern with rows } :
      Attempt Nat) := RowPattern.ends_extent _
  obtain ⟨bytes, scaled⟩ : Ends (Build.wrapping.mul extent 4 : Attempt Nat) := ends_mul _ _
  obtain ⟨covered, rounded⟩ : Ends (machineRoundUp .wrapping bytes rowBytes : Attempt Nat) :=
    ends_roundUp _ _
  have multiplied : (Build.wrapping.mul (max base rowBytes) declaration.count : Attempt Nat) =
      .ok (max base rowBytes * declaration.count % wordCount) := Build.fit_eq_ok_iff.mpr rfl
  refine ⟨max (max base rowBytes * declaration.count % wordCount) covered, ?_, ?_⟩
  · exact Nat.ne_of_gt (Nat.lt_of_lt_of_le (Nat.pos_of_ne_zero entries) (Nat.le_max_left _ _))
  · rw [machineByteSize, if_pos array, machineRowPatternOf, machineRowPattern_eq_bind,
      ← rowPatternOf, derived, ok_bind, counted, ok_bind, pure_bind, multiplied, ok_bind, measured,
      ok_bind, scaled, ok_bind, rounded, ok_bind]
    rfl

theorem ends_start {byteSize : Nat} (nonzero : byteSize ≠ 0) (free : Nat) :
    Ends (machineStart .wrapping byteSize free) := by
  refine (ends_remainder (by decide) _).bind fun used => (ends_sub _ _).bind fun left => ?_
  split
  · exact ends_add _ _
  · exact (ends_remainder nonzero _).bind fun beyond => (ends_sub _ _).bind fun short =>
      (ends_remainder nonzero _).bind fun padding => ends_add _ _

/-- Placing a declaration under std140 without checks fails as its reservation does. -/
theorem machinePlace_failsAlike (table : BaseSizes)
    (light : 16 * declaration.value.count < wordCount) (free : Nat) :
    FailsAlike (table.machinePlace .wrapping declaration free) (table.reserve declaration) := by
  rw [machinePlace, reserve]
  split
  · exact .error _
  · cases known : table.baseSize? declaration.type with
    | none => exact .error _
    | some base =>
        dsimp only
        by_cases array : declaration.isArray = true
        · rw [byteSize, if_pos array]
          cases derived : table.rowPatternOf declaration with
          | error failure =>
              rw [machineByteSize, if_pos array, machineRowPatternOf, machineRowPattern_eq_bind,
                ← rowPatternOf, derived]
              exact .error _
          | ok pattern =>
              obtain ⟨byteSize, nonzero, sized⟩ := exists_byteSize_of_array array known light derived
              rw [sized]
              exact .of_ends ((ends_start nonzero free).bind fun byteOffset => ⟨_, rfl⟩) ⟨_, rfl⟩
        · rw [machineByteSize, byteSize, if_neg array, if_neg array]
          split
          · rename_i zero
            subst zero
            rw [pure_bind, machineStart_zero, error_bind]
            exact .error _
          · rename_i nonzero
            exact .of_ends ((ends_start nonzero free).bind fun byteOffset => ⟨_, rfl⟩) ⟨_, rfl⟩

end BaseSizes

/-! ## Explicit size and alignment -/

namespace AlignSizes

variable {declaration : Declaration}

theorem machineByteSize_failsAlike (table : AlignSizes) (entry : AlignSize) :
    FailsAlike (table.machineByteSize .wrapping declaration entry)
      (table.byteSize declaration entry) := by
  rw [machineByteSize, byteSize]
  split
  · rw [machineRowPatternOf, machineRowPattern_eq_bind, ← rowPatternOf]
    cases table.rowPatternOf declaration with
    | error failure => exact .error _
    | ok pattern =>
        refine .of_ends ?_ ⟨_, rfl⟩
        refine Ends.bind ((ends_fit _ _).bind fun rows => ⟨_, rfl⟩) fun pattern => ?_
        exact (ends_mul _ _).bind fun entries => pattern.ends_extent.bind fun extent =>
          (ends_mul _ _).bind fun bytes => (ends_roundUp _ _).bind fun rows => ⟨_, rfl⟩
  · exact .of_ends ⟨_, rfl⟩ ⟨_, rfl⟩

/-- Placing a declaration under WGSL without checks fails as its reservation does. -/
theorem machinePlace_failsAlike (table : AlignSizes) (free : Nat) :
    FailsAlike (table.machinePlace .wrapping declaration free) (table.reserve declaration) := by
  rw [machinePlace, reserve]
  split
  · exact .error _
  · cases table.alignSize? declaration.type with
    | none => exact .error _
    | some entry =>
        exact (table.machineByteSize_failsAlike entry).map.bind fun byteSize _ =>
          (ends_roundUp _ _).bind fun byteOffset => ⟨_, rfl⟩

end AlignSizes

end UniformBlock
