import UniformBlock.ShaderType

/-!
# Size tables

What a convention knows about each type: under std140 a base size in bytes,
under WGSL a size and an alignment.  A table is a finite map; the standard
tables hold what the shading languages prescribe, and others may be built by
insertion.
-/

namespace UniformBlock

/-! ## Fixed rows -/

/-- The width of one std140 row, in bytes. -/
def rowBytes : Nat :=
  16

/-- The width of one std140 row, in floats. -/
def rowFloats : Nat :=
  rowBytes / 4

/-- The size of a whole block is a multiple of this many bytes. -/
def blockAlignment : Nat :=
  16

/-- The base size in bytes of each type that std140 supports. -/
structure BaseSizes where
  baseSize? : ShaderType → Option Nat

namespace BaseSizes

/-- The table without any type. -/
def empty : BaseSizes :=
  ⟨fun _ => none⟩

/-- Set the base size of one type. -/
def insert (table : BaseSizes) (type : ShaderType) (size : Nat) : BaseSizes :=
  ⟨fun other => if other = type then some size else table.baseSize? other⟩

/-- Scalars and vectors take four bytes a component, and each column of a
square matrix takes a row; other matrices are not supported. -/
def standard : BaseSizes where
  baseSize?
    | .scalar _ => some 4
    | .vector _ length => if length ∈ Dimension.all then some (4 * length.toNat) else none
    | .matrix columns rows =>
        if columns = rows ∧ rows ∈ Dimension.all then some (rowBytes * columns.toNat) else none

/-- The standard table knows types of the language only. -/
theorem mem_all_of_standard {type : ShaderType} {base : Nat}
    (known : standard.baseSize? type = some base) : type ∈ ShaderType.all := by
  rcases type with kind | ⟨kind, length⟩ | ⟨columns, rows⟩
  · exact ShaderType.scalar_mem_all kind
  · exact ShaderType.vector_mem_all_iff.mpr (Option.ite_none_right_eq_some.mp known).1
  · obtain ⟨rfl, listed⟩ := (Option.ite_none_right_eq_some.mp known).1
    exact ShaderType.matrix_mem_all_iff.mpr ⟨listed, listed⟩

@[simp]
theorem baseSize?_insert_self (table : BaseSizes) (type : ShaderType) (size : Nat) :
    (table.insert type size).baseSize? type = some size := by
  simp [insert]

theorem baseSize?_insert_of_ne (table : BaseSizes) {type other : ShaderType} (size : Nat)
    (different : other ≠ type) :
    (table.insert type size).baseSize? other = table.baseSize? other := by
  simp [insert, different]

end BaseSizes

/-! ## Explicit size and alignment -/

/-- The storage size and the alignment of a type, both in bytes. -/
structure AlignSize where
  align : Nat
  size : Nat
  deriving DecidableEq, Repr

/-- The size and alignment of each type that a WGSL layout supports. -/
structure AlignSizes where
  alignSize? : ShaderType → Option AlignSize

namespace AlignSizes

/-- The table without any type. -/
def empty : AlignSizes :=
  ⟨fun _ => none⟩

/-- Set the size and alignment of one type. -/
def insert (table : AlignSizes) (type : ShaderType) (entry : AlignSize) : AlignSizes :=
  ⟨fun other => if other = type then some entry else table.alignSize? other⟩

/-- The room that a vector of the given length takes as a matrix column. -/
def columnBytes (length : Dimension) : Nat :=
  if length = 2 then 8 else 16

/-- The size and alignment that the language gives a type.  A vector of three is aligned
like a vector of four, and a matrix is as many columns as it has, each with the room of
its vector. -/
def standardEntry : ShaderType → AlignSize
  | .scalar _ => { align := 4, size := 4 }
  | .vector _ length => { align := columnBytes length, size := 4 * length.toNat }
  | .matrix columns rows =>
      { align := columnBytes rows, size := columnBytes rows * columns.toNat }

/-- The types of the language with their size and alignment. -/
def standard : AlignSizes where
  alignSize? type := if type ∈ ShaderType.all then some (standardEntry type) else none

theorem standard_eq_some_iff {type : ShaderType} {entry : AlignSize} :
    standard.alignSize? type = some entry ↔
      type ∈ ShaderType.all ∧ standardEntry type = entry := by
  rw [standard, Option.ite_none_right_eq_some, Option.some.injEq]

@[simp]
theorem alignSize?_insert_self (table : AlignSizes) (type : ShaderType) (entry : AlignSize) :
    (table.insert type entry).alignSize? type = some entry := by
  simp [insert]

theorem alignSize?_insert_of_ne (table : AlignSizes) {type other : ShaderType}
    (entry : AlignSize) (different : other ≠ type) :
    (table.insert type entry).alignSize? other = table.alignSize? other := by
  simp [insert, different]

end AlignSizes

end UniformBlock
