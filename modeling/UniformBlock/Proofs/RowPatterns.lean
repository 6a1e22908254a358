import UniformBlock.Alignment
import UniformBlock.RowPattern

/-!
# The rows of an array

What is known of a row pattern that a convention has derived.  Under std140 the
rows hold exactly the components of the sample value, and with the standard
tables a row is one column of the type in both conventions.
-/

namespace UniformBlock

namespace RowPattern

/-- The last slot of a pattern ends with its last row. -/
theorem extent_eq {pattern : RowPattern} (nonempty : 0 < pattern.rows) :
    pattern.extent = (pattern.rows - 1) * pattern.pitch + pattern.width :=
  if_neg (Nat.ne_of_gt nonempty)

/-- Every row ends within the pattern. -/
theorem row_end_le_extent {pattern : RowPattern} {row : Nat} (inside : row < pattern.rows) :
    row * pattern.pitch + pattern.width ≤ pattern.extent := by
  rw [extent_eq (Nat.zero_lt_of_lt inside)]
  have before : row * pattern.pitch ≤ (pattern.rows - 1) * pattern.pitch :=
    Nat.mul_le_mul_right _ (Nat.le_sub_one_of_lt inside)
  omega

/-- Whole rows are the extent of a pattern and the gap after its last row. -/
theorem extent_add_gap {pattern : RowPattern} (nonempty : 0 < pattern.rows) :
    pattern.extent + pattern.gap = pattern.rows * pattern.pitch := by
  obtain ⟨rows, counted⟩ := Nat.exists_eq_succ_of_ne_zero (Nat.ne_of_gt nonempty)
  rw [extent_eq nonempty, counted, Nat.succ_sub_one, Nat.succ_mul, Nat.add_assoc, pitch]

/-- Rows that keep an alignment fill their bytes, as long as the gap is less than
the alignment. -/
theorem roundUp_extent {pattern : RowPattern} {alignment : Nat} (nonempty : 0 < pattern.rows)
    (aligned : alignment ∣ 4 * pattern.pitch) (narrow : 4 * pattern.gap < alignment) :
    roundUp (pattern.extent * 4) alignment = pattern.rows * (4 * pattern.pitch) := by
  have whole := extent_add_gap nonempty
  have bytes : pattern.rows * (4 * pattern.pitch) = 4 * (pattern.rows * pattern.pitch) :=
    Nat.mul_left_comm _ _ _
  apply roundUp_eq
  · exact Nat.dvd_mul_left_of_dvd aligned _
  · omega
  · omega

end RowPattern

namespace BaseSizes

/-- What is known of a std140 row pattern. -/
theorem rowPattern_eq_ok {table : BaseSizes} {name : String} {type : ShaderType}
    {count sampleCount : Nat} {pattern : RowPattern}
    (derived : table.rowPattern name type count sampleCount = .ok pattern) :
    count ≠ 0 ∧ ∃ base, table.baseSize? type = some base ∧ sampleCount ≠ 0 ∧
      sampleCount % count = 0 ∧ sampleCount / count % entryRows base = 0 ∧
      pattern = ⟨count * entryRows base, sampleCount / count / entryRows base,
        rowGap (sampleCount / count / entryRows base)⟩ := by
  rw [rowPattern] at derived
  split at derived
  · cases derived
  · rename_i present
    split at derived
    · cases derived
    · rename_i base known
      dsimp only at derived
      split at derived
      · cases derived
      · rename_i consistent
        cases derived
        rw [not_or, not_or, Decidable.not_not, Decidable.not_not] at consistent
        exact ⟨present, base, known, consistent.1, consistent.2.1, consistent.2.2, rfl⟩

/-- No component of the sample is lost, and none is made up. -/
theorem valueCount_of_rowPattern {table : BaseSizes} {name : String} {type : ShaderType}
    {count sampleCount : Nat} {pattern : RowPattern}
    (derived : table.rowPattern name type count sampleCount = .ok pattern) :
    pattern.valueCount = sampleCount := by
  obtain ⟨_, base, _, _, entries, rows, rfl⟩ := rowPattern_eq_ok derived
  calc
    count * entryRows base * (sampleCount / count / entryRows base) =
        count * (entryRows base * (sampleCount / count / entryRows base)) := Nat.mul_assoc _ _ _
    _ = count * (sampleCount / count) := by
        rw [Nat.mul_div_cancel' (Nat.dvd_of_mod_eq_zero rows)]
    _ = sampleCount := Nat.mul_div_cancel' (Nat.dvd_of_mod_eq_zero entries)

/-- With the standard table an entry takes a row for each column of its type. -/
theorem standard_entryRows {type : ShaderType} {base : Nat}
    (known : standard.baseSize? type = some base) : entryRows base = type.columns := by
  have everywhere : ∀ type ∈ ShaderType.all, ∀ base ∈ standard.baseSize? type,
      entryRows base = type.columns := by decide
  exact everywhere type (mem_all_of_standard known) base known

/-- An array with a full sample has a row for each column of its entries. -/
theorem standard_rowPattern_of_full {declaration : Declaration} {base : Nat}
    (known : standard.baseSize? declaration.type = some base) (positive : 0 < declaration.count)
    (full : declaration.value.count = declaration.count * declaration.type.components) :
    standard.rowPatternOf declaration = .ok
      ⟨declaration.count * declaration.type.columns, declaration.type.rows,
        rowGap declaration.type.rows⟩ := by
  have listed := mem_all_of_standard known
  have perEntry : declaration.value.count / declaration.count = declaration.type.components := by
    rw [full, Nat.mul_div_cancel_left _ positive]
  have perRow : declaration.type.components / declaration.type.columns = declaration.type.rows := by
    rw [← ShaderType.columns_mul_rows]
    exact Nat.mul_div_cancel_left _ (ShaderType.columns_pos listed)
  have consistent : ¬ (declaration.value.count = 0 ∨
      declaration.value.count % declaration.count ≠ 0 ∨
      declaration.type.components % declaration.type.columns ≠ 0) := by
    have nonzero := Nat.mul_pos positive (ShaderType.components_pos listed)
    rw [full, Nat.mul_mod_right, ← ShaderType.columns_mul_rows, Nat.mul_mod_right,
      ShaderType.columns_mul_rows]
    omega
  rw [rowPatternOf, rowPattern, if_neg (Nat.ne_of_gt positive), known]
  dsimp only
  rw [standard_entryRows known, perEntry, if_neg consistent, perRow]

end BaseSizes

namespace AlignSizes

/-- What is known of a WGSL row pattern. -/
theorem rowPattern_eq_ok {table : AlignSizes} {name : String} {type : ShaderType}
    {count : Nat} {pattern : RowPattern}
    (derived : table.rowPattern name type count = .ok pattern) :
    count ≠ 0 ∧ ∃ row, table.alignSize? (entryRow type).2 = some row ∧
      pattern = ⟨count * (entryRow type).1, row.size / 4,
        (max row.size row.align - min row.size row.align) / 4⟩ := by
  rw [rowPattern] at derived
  split at derived
  · cases derived
  · rename_i present
    split at derived
    · cases derived
    · dsimp only at derived
      split at derived
      · cases derived
      · rename_i row known
        cases derived
        exact ⟨present, row, known, rfl⟩

/-- The gap after a column: three components are spaced like four. -/
def columnGap (rows : Nat) : Nat :=
  if rows = 3 then 1 else 0

theorem columnGap_le (rows : Nat) : columnGap rows ≤ 3 := by
  rw [columnGap]
  split <;> decide

/-- The vector that a row holds is of the language if the type of the entries is. -/
theorem entryRow_mem_all {type : ShaderType} (listed : type ∈ ShaderType.all) :
    (entryRow type).2 ∈ ShaderType.all := by
  have everywhere : ∀ type ∈ ShaderType.all, (entryRow type).2 ∈ ShaderType.all := by decide
  exact everywhere type listed

/-- A type of the language has a row for each column, and the standard table spaces
rows like the columns of a matrix. -/
theorem standardEntry_entryRow {type : ShaderType} (listed : type ∈ ShaderType.all) :
    (entryRow type).1 = type.columns ∧
      (standardEntry (entryRow type).2).size / 4 = type.rows ∧
      (max (standardEntry (entryRow type).2).size (standardEntry (entryRow type).2).align -
          min (standardEntry (entryRow type).2).size (standardEntry (entryRow type).2).align) / 4 =
        columnGap type.rows := by
  have everywhere : ∀ type ∈ ShaderType.all, (entryRow type).1 = type.columns ∧
      (standardEntry (entryRow type).2).size / 4 = type.rows ∧
      (max (standardEntry (entryRow type).2).size (standardEntry (entryRow type).2).align -
          min (standardEntry (entryRow type).2).size (standardEntry (entryRow type).2).align) / 4 =
        columnGap type.rows := by decide
  exact everywhere type listed

/-- With the standard table every array of a type of the language has a row for each
column of its entries. -/
theorem standard_rowPattern_of_pos (name : String) {type : ShaderType}
    (listed : type ∈ ShaderType.all) {count : Nat} (positive : 0 < count) :
    standard.rowPattern name type count =
      .ok ⟨count * type.columns, type.rows, columnGap type.rows⟩ := by
  have known : standard.alignSize? type = some (standardEntry type) :=
    standard_eq_some_iff.mpr ⟨listed, rfl⟩
  have rowKnown : standard.alignSize? (entryRow type).2 = some (standardEntry (entryRow type).2) :=
    standard_eq_some_iff.mpr ⟨entryRow_mem_all listed, rfl⟩
  obtain ⟨rows, width, gap⟩ := standardEntry_entryRow listed
  rw [rowPattern, if_neg (Nat.ne_of_gt positive), known]
  dsimp only
  rw [rowKnown]
  dsimp only
  rw [rows, width, gap]

/-- With the standard table a row is one column of a type of the language. -/
theorem standard_rowPattern {name : String} {type : ShaderType} {count : Nat}
    {pattern : RowPattern} (derived : standard.rowPattern name type count = .ok pattern) :
    type ∈ ShaderType.all ∧ pattern = ⟨count * type.columns, type.rows, columnGap type.rows⟩ := by
  have listed : type ∈ ShaderType.all := by
    rw [rowPattern] at derived
    split at derived
    · cases derived
    · split at derived
      · cases derived
      · rename_i entry known
        exact (standard_eq_some_iff.mp known).1
  have positive : 0 < count := Nat.pos_of_ne_zero (rowPattern_eq_ok derived).1
  exact ⟨listed, Except.ok.inj (derived.symm.trans (standard_rowPattern_of_pos name listed positive))⟩

end AlignSizes

end UniformBlock
