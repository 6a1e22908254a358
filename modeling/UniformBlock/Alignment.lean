/-!
# Alignment

Rounding an offset up to a multiple of an alignment.  The result is the least
multiple that is not below the offset; an alignment of zero asks for nothing.
-/

namespace UniformBlock

/-- The offset rounded up to a multiple of the alignment. -/
def roundUp (offset alignment : Nat) : Nat :=
  if alignment = 0 then offset else (offset + alignment - 1) / alignment * alignment

@[simp]
theorem roundUp_zero_alignment (offset : Nat) : roundUp offset 0 = offset := by
  simp [roundUp]

@[simp]
theorem roundUp_zero (alignment : Nat) : roundUp 0 alignment = 0 := by
  unfold roundUp
  split
  · rfl
  · rw [Nat.zero_add, Nat.div_eq_of_lt (by omega), Nat.zero_mul]

theorem roundUp_of_pos {alignment : Nat} (positive : 0 < alignment) (offset : Nat) :
    roundUp offset alignment = (offset + alignment - 1) / alignment * alignment :=
  if_neg (Nat.ne_of_gt positive)

theorem dvd_roundUp {alignment : Nat} (positive : 0 < alignment) (offset : Nat) :
    alignment ∣ roundUp offset alignment := by
  rw [roundUp_of_pos positive]
  exact Nat.dvd_mul_left _ _

theorem le_roundUp (offset alignment : Nat) : offset ≤ roundUp offset alignment := by
  unfold roundUp
  split
  · exact Nat.le_refl _
  · have split := Nat.div_add_mod (offset + alignment - 1) alignment
    have below := Nat.mod_lt (offset + alignment - 1) (y := alignment) (by omega)
    rw [Nat.mul_comm] at split
    omega

/-- Any multiple that is not below the offset is not below its rounding. -/
theorem roundUp_le {offset alignment bound : Nat} (positive : 0 < alignment)
    (multiple : alignment ∣ bound) (above : offset ≤ bound) :
    roundUp offset alignment ≤ bound := by
  rcases multiple with ⟨factor, rfl⟩
  rw [roundUp_of_pos positive, Nat.mul_comm alignment factor]
  apply Nat.mul_le_mul_right
  apply Nat.le_of_lt_succ
  apply Nat.div_lt_of_lt_mul
  rw [Nat.mul_succ]
  omega

/-- A multiple less than one alignment above the offset is its rounding. -/
theorem roundUp_eq {offset alignment bound : Nat} (multiple : alignment ∣ bound)
    (above : offset ≤ bound) (near : bound < offset + alignment) :
    roundUp offset alignment = bound := by
  have positive : 0 < alignment := by omega
  rcases multiple with ⟨factor, rfl⟩
  rw [roundUp_of_pos positive, Nat.mul_comm alignment factor]
  congr 1
  rw [Nat.mul_comm alignment factor] at above near
  apply Nat.div_eq_of_lt_le
  · omega
  · rw [Nat.succ_mul]
    omega

end UniformBlock
