import UniformBlock.Declaration
import UniformBlock.RowPattern
import UniformBlock.Writer

/-!
# Direct writers and array writers

The writers that copy single values stand in a table, one for each type a convention can
lay out directly; the two conventions differ only in the distance between the columns of
a matrix.  Arrays are too varied for a table, so a convention builds the writer of each
array from the placed uniform.
-/

namespace UniformBlock

/-! ## Single values -/

/-- The direct writer of each type that has one. -/
structure WriterTable (W : Type := Writer) where
  writer? : ShaderType → Option W

namespace WriterTable

variable {W : Type}

/-- The table without any type. -/
def empty : WriterTable W :=
  ⟨fun _ => none⟩

/-- Set the writer of one type. -/
def insert (table : WriterTable W) (type : ShaderType) (writer : W) : WriterTable W :=
  ⟨fun other => if other = type then some writer else table.writer? other⟩

/-- Whether the table has a writer for a type. -/
def contains (table : WriterTable W) (type : ShaderType) : Bool :=
  (table.writer? type).isSome

@[simp]
theorem writer?_insert_self (table : WriterTable W) (type : ShaderType) (writer : W) :
    (table.insert type writer).writer? type = some writer := by
  simp [insert]

theorem writer?_insert_of_ne (table : WriterTable W) {type other : ShaderType} (writer : W)
    (different : other ≠ type) :
    (table.insert type writer).writer? other = table.writer? other := by
  simp [insert, different]

/-- Under std140 every column of a matrix takes a row, and only square matrices
are written directly. -/
def std140 : WriterTable where
  writer?
    | .matrix columns rows =>
        if columns = rows ∧ rows ∈ Dimension.all then
          some (.matrix columns.toNat rows.toNat rowFloats)
        else none
    | type => if type ∈ ShaderType.all then some (.vector type.components) else none

/-- The writer that WGSL layouts use for a type of the language.  Columns of two
pack tightly, and longer ones lie four floats apart. -/
def packedWriter : ShaderType → Writer
  | .matrix columns rows => .matrix columns.toNat rows.toNat (if rows = 2 then 2 else 4)
  | type => .vector type.components

/-- Under WGSL every type of the language is written directly. -/
def wgsl : WriterTable where
  writer? type := if type ∈ ShaderType.all then some (packedWriter type) else none

/-- The table of a convention. -/
def ofConvention : Convention → WriterTable
  | .std140 => std140
  | .wgsl => wgsl

theorem wgsl_eq_some_iff {type : ShaderType} {writer : Writer} :
    wgsl.writer? type = some writer ↔ type ∈ ShaderType.all ∧ packedWriter type = writer := by
  rw [wgsl, Option.ite_none_right_eq_some, Option.some.injEq]

/-- The tables of both conventions hold types of the language only. -/
theorem mem_all_of_direct {convention : Convention} {type : ShaderType} {writer : Writer}
    (known : (ofConvention convention).writer? type = some writer) : type ∈ ShaderType.all := by
  cases convention with
  | wgsl => exact (wgsl_eq_some_iff.mp known).1
  | std140 =>
      rcases type with kind | ⟨kind, length⟩ | ⟨columns, rows⟩
      · exact ShaderType.scalar_mem_all kind
      · exact (Option.ite_none_right_eq_some.mp known).1
      · obtain ⟨rfl, listed⟩ := (Option.ite_none_right_eq_some.mp known).1
        exact ShaderType.matrix_mem_all_iff.mpr ⟨listed, listed⟩

end WriterTable

/-! ## Arrays -/

/-- How a convention builds the writer of an array. -/
structure ArrayWriters (W : Type := Writer) where
  convention : Convention
  writerFor : Element → Attempt W

/-- Array writers for std140 rows; `checked` says whether a short value is
refused before anything is written. -/
def BaseSizes.arrayWriters (table : BaseSizes) (checked : Bool) : ArrayWriters where
  convention := .std140
  writerFor element :=
    (table.rowPatternOf element.toDeclaration).map fun pattern => .strided pattern checked

/-- Array writers for WGSL rows. -/
def AlignSizes.arrayWriters (table : AlignSizes) (checked : Bool) : ArrayWriters where
  convention := .wgsl
  writerFor element :=
    (table.rowPatternOf element.toDeclaration).map fun pattern => .strided pattern checked

namespace ArrayWriters

variable {W : Type}

/-- One writer for every array. -/
def fixed (convention : Convention) (writer : W) : ArrayWriters W where
  convention
  writerFor _ := .ok writer

/-- No array can be written. -/
def unsupported (convention : Convention) : ArrayWriters W where
  convention
  writerFor element :=
    .error (.refused (.unsupportedType element.name element.type convention))

end ArrayWriters

end UniformBlock
