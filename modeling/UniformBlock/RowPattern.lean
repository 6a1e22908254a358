import UniformBlock.Declaration
import UniformBlock.Error
import UniformBlock.SizeTable

/-!
# Row patterns

An array is laid out as equal rows of floats with a gap after each.  Both
conventions reduce an array to such a pattern and differ only in how they derive
it from the type and, under std140, from the number of sample components.
-/

namespace UniformBlock

/-- Equal rows of floats, each followed by a gap that is skipped. -/
structure RowPattern where
  rows : Nat
  width : Nat
  gap : Nat
  deriving DecidableEq, Repr

namespace RowPattern

/-- The distance in floats between the starts of two rows. -/
def pitch (pattern : RowPattern) : Nat :=
  pattern.width + pattern.gap

/-- The number of components that the rows take from a value. -/
def valueCount (pattern : RowPattern) : Nat :=
  pattern.rows * pattern.width

/-- The number of floats from the first slot to the last one, both included. -/
def extent (pattern : RowPattern) : Nat :=
  if pattern.rows = 0 then 0 else (pattern.rows - 1) * pattern.pitch + pattern.width

@[simp]
theorem extent_no_rows (width gap : Nat) : extent ⟨0, width, gap⟩ = 0 :=
  rfl

@[simp]
theorem extent_succ (rows width gap : Nat) :
    extent ⟨rows + 1, width, gap⟩ = rows * (width + gap) + width := by
  simp [extent, pitch]

end RowPattern

/-! ## Fixed rows -/

namespace BaseSizes

/-- The gap that fills a run of floats up to whole std140 rows. -/
def rowGap (floats : Nat) : Nat :=
  (rowFloats - floats % rowFloats) % rowFloats

theorem rowGap_lt (floats : Nat) : rowGap floats < rowFloats :=
  Nat.mod_lt _ (by decide)

theorem rowFloats_dvd_add_rowGap (floats : Nat) : rowFloats ∣ floats + rowGap floats := by
  apply Nat.dvd_of_mod_eq_zero
  simp only [rowGap, rowFloats, rowBytes]
  omega

/-- The number of rows that one array entry takes. -/
def entryRows (baseSize : Nat) : Nat :=
  max (baseSize / rowBytes) 1

/-- The rows of a std140 array.  An entry takes one row, or as many whole rows as
its base size has; the sample's components are spread evenly over all rows. -/
def rowPattern (table : BaseSizes) (name : String) (type : ShaderType)
    (count sampleCount : Nat) : Attempt RowPattern :=
  if count = 0 then
    .error (.refused (.emptyArray name))
  else
    match table.baseSize? type with
    | none => .error (.refused (.unsupportedType name type .std140))
    | some baseSize =>
        let rows := entryRows baseSize
        if sampleCount = 0 ∨ sampleCount % count ≠ 0 ∨ sampleCount / count % rows ≠ 0 then
          .error (.refused (.inconsistentSample name sampleCount count))
        else
          let width := sampleCount / count / rows
          .ok { rows := count * rows, width, gap := rowGap width }

/-- The rows of a declared std140 array. -/
def rowPatternOf (table : BaseSizes) (declaration : Declaration) :
    Attempt RowPattern :=
  table.rowPattern declaration.name declaration.type declaration.count declaration.value.count

end BaseSizes

/-! ## Explicit size and alignment -/

namespace AlignSizes

/-- The number of rows of one array entry and the type that each row holds.  A
matrix is laid out as its columns. -/
def entryRow : ShaderType → Nat × ShaderType
  | .matrix columns rows => (columns.toNat, .vector .f32 rows)
  | type => (1, type)

/-- The rows of a WGSL array.  A row holds the floats of its type, and the gap is
the distance between that type's size and its alignment. -/
def rowPattern (table : AlignSizes) (name : String) (type : ShaderType) (count : Nat) :
    Attempt RowPattern :=
  if count = 0 then
    .error (.refused (.emptyArray name))
  else
    match table.alignSize? type with
    | none => .error (.refused (.unsupportedType name type .wgsl))
    | some _ =>
        let (rows, rowType) := entryRow type
        match table.alignSize? rowType with
        | none => .error (.refused (.unsupportedType name rowType .wgsl))
        | some row =>
            .ok { rows := count * rows, width := row.size / 4,
                  gap := (max row.size row.align - min row.size row.align) / 4 }

/-- The rows of a declared WGSL array. -/
def rowPatternOf (table : AlignSizes) (declaration : Declaration) :
    Attempt RowPattern :=
  table.rowPattern declaration.name declaration.type declaration.count

end AlignSizes

end UniformBlock
