import UniformBlock.Layout.Conventions
import UniformBlock.Proofs.Arrangement

/-!
# Reservations

What each convention reserves for a declaration that it accepts: the size of a
single value, and for an array room for all of its entries and for all of its
rows.  Neither convention starts a value before the first free byte.
-/

namespace UniformBlock

namespace Declaration

variable {declaration : Declaration}

theorem one_lt_count_of_isArray (array : declaration.isArray = true) : 1 < declaration.count :=
  of_decide_eq_true array

theorem count_eq_one_of_not_isArray (present : declaration.count ≠ 0)
    (single : ¬ declaration.isArray = true) : declaration.count = 1 := by
  have atMost : ¬ 1 < declaration.count := fun many => single (decide_eq_true many)
  omega

end Declaration

/-- Whether the bytes of an array hold all rows that a convention gives it. -/
def Reserve.CoversRows (reserve : Reserve) (rowsOf : Declaration → Attempt RowPattern) : Prop :=
  ∀ ⦃declaration reservation⦄, reserve declaration = .ok reservation → 1 < declaration.count →
    ∃ pattern, rowsOf declaration = .ok pattern ∧ pattern.extent * 4 ≤ reservation.byteSize

namespace BaseSizes

/-- What is known of a std140 reservation. -/
theorem reserve_eq_ok {table : BaseSizes} {declaration : Declaration}
    {reservation : Reservation} (reserved : table.reserve declaration = .ok reservation) :
    ∃ base, table.baseSize? declaration.type = some base ∧
      reservation.start = start reservation.byteSize ∧
      ((declaration.count = 1 ∧ base ≠ 0 ∧ reservation.byteSize = base) ∨
        (1 < declaration.count ∧ ∃ pattern, table.rowPatternOf declaration = .ok pattern ∧
          reservation.byteSize =
            max (max base rowBytes * declaration.count)
              (roundUp (pattern.extent * 4) rowBytes))) := by
  rw [reserve] at reserved
  split at reserved
  · cases reserved
  · rename_i present
    split at reserved
    · cases reserved
    · rename_i base known
      refine ⟨base, known, ?_⟩
      rw [byteSize] at reserved
      split at reserved
      · rename_i array
        obtain ⟨byteSize, sized, rfl⟩ := map_eq_ok_iff.mp reserved
        obtain ⟨pattern, rows, rfl⟩ := map_eq_ok_iff.mp sized
        exact ⟨rfl, .inr ⟨Declaration.one_lt_count_of_isArray array, pattern, rows, rfl⟩⟩
      · rename_i single
        split at reserved
        · cases reserved
        · rename_i positive
          cases reserved
          exact ⟨rfl, .inl
            ⟨Declaration.count_eq_one_of_not_isArray present single, positive, rfl⟩⟩

theorem le_start (byteSize free : Nat) : free ≤ start byteSize free := by
  rw [start]
  split
  · exact Nat.le_add_right _ _
  · exact Nat.le_add_right _ _

theorem reserve_forward (table : BaseSizes) : table.reserve.Forward := by
  intro declaration reservation reserved free
  obtain ⟨base, known, starts, sized⟩ := reserve_eq_ok reserved
  rw [starts]
  exact le_start _ _

theorem reserve_coversRows (table : BaseSizes) : table.reserve.CoversRows table.rowPatternOf := by
  intro declaration reservation reserved array
  obtain ⟨base, -, -, ⟨single, -, -⟩ | ⟨-, pattern, rows, sized⟩⟩ := reserve_eq_ok reserved
  · omega
  · refine ⟨pattern, rows, ?_⟩
    rw [sized]
    exact (le_roundUp _ _).trans (Nat.le_max_right _ _)

end BaseSizes

namespace AlignSizes

/-- What is known of a WGSL reservation. -/
theorem reserve_eq_ok {table : AlignSizes} {declaration : Declaration}
    {reservation : Reservation} (reserved : table.reserve declaration = .ok reservation) :
    ∃ entry, table.alignSize? declaration.type = some entry ∧
      (∀ free, reservation.start free = roundUp free entry.align) ∧
      ((declaration.count = 1 ∧ reservation.byteSize = entry.size) ∨
        (1 < declaration.count ∧ ∃ pattern, table.rowPatternOf declaration = .ok pattern ∧
          reservation.byteSize =
            max (max entry.size entry.align * declaration.count)
              (roundUp (pattern.extent * 4) entry.align))) := by
  rw [reserve] at reserved
  split at reserved
  · cases reserved
  · rename_i present
    split at reserved
    · cases reserved
    · rename_i entry known
      refine ⟨entry, known, ?_⟩
      rw [byteSize] at reserved
      split at reserved
      · rename_i array
        obtain ⟨byteSize, sized, rfl⟩ := map_eq_ok_iff.mp reserved
        obtain ⟨pattern, rows, rfl⟩ := map_eq_ok_iff.mp sized
        exact ⟨fun _ => rfl,
          .inr ⟨Declaration.one_lt_count_of_isArray array, pattern, rows, rfl⟩⟩
      · rename_i single
        cases reserved
        exact ⟨fun _ => rfl,
          .inl ⟨Declaration.count_eq_one_of_not_isArray present single, rfl⟩⟩

theorem reserve_forward (table : AlignSizes) : table.reserve.Forward := by
  intro declaration reservation reserved free
  obtain ⟨entry, known, starts, sized⟩ := reserve_eq_ok reserved
  rw [starts]
  exact le_roundUp _ _

theorem reserve_coversRows (table : AlignSizes) :
    table.reserve.CoversRows table.rowPatternOf := by
  intro declaration reservation reserved array
  obtain ⟨entry, -, -, ⟨single, -⟩ | ⟨-, pattern, rows, sized⟩⟩ := reserve_eq_ok reserved
  · omega
  · refine ⟨pattern, rows, ?_⟩
    rw [sized]
    exact (le_roundUp _ _).trans (Nat.le_max_right _ _)

end AlignSizes

end UniformBlock
