/-!
# Shader types

The type tags a uniform may carry: scalars, vectors, and column-major float matrices.
The shading language has dimensions of two to four only.  A tag may hold any byte as a
dimension, though, so the tags of the language are a list of their own.
-/

namespace UniformBlock

/-- The component type of a scalar or a vector; each takes 32 bits. -/
inductive ComponentKind where
  | f32
  | i32
  | u32
  deriving DecidableEq, Repr

namespace ComponentKind

/-- Every component kind, in the order in which the language lists them. -/
def all : List ComponentKind :=
  [.f32, .i32, .u32]

theorem mem_all (kind : ComponentKind) : kind ∈ all := by
  cases kind <;> decide

/-- The name of a component kind. -/
def spelling : ComponentKind → String
  | f32 => "f32"
  | i32 => "i32"
  | u32 => "u32"

end ComponentKind

/-- The number of components of a vector, or of columns or rows of a matrix. -/
abbrev Dimension :=
  UInt8

namespace Dimension

/-- The dimensions of the shading language, in increasing order. -/
def all : List Dimension :=
  [2, 3, 4]

theorem mem_all_iff {dimension : Dimension} :
    dimension ∈ all ↔ dimension = 2 ∨ dimension = 3 ∨ dimension = 4 := by
  simp [all]

/-- A dimension in decimal digits. -/
def numeral (dimension : Dimension) : String :=
  toString dimension.toNat

end Dimension

/-- The type tag of one uniform, or of one entry of a uniform array. -/
inductive ShaderType where
  /-- One component. -/
  | scalar (kind : ComponentKind)
  /-- Several components of one kind. -/
  | vector (kind : ComponentKind) (length : Dimension)
  /-- A float matrix, stored column by column. -/
  | matrix (columns rows : Dimension)
  deriving DecidableEq, Repr

namespace ShaderType

/-- Every type tag of the language: scalars, then vectors by kind and length, then
matrices by columns and rows. -/
def all : List ShaderType :=
  ComponentKind.all.map scalar ++
    ComponentKind.all.flatMap (fun kind => Dimension.all.map (vector kind)) ++
    Dimension.all.flatMap (fun columns => Dimension.all.map (matrix columns))

theorem scalar_mem_all (kind : ComponentKind) : scalar kind ∈ all := by
  cases kind <;> decide

/-- A vector is a type of the language as soon as its length is a dimension of it. -/
theorem vector_mem_all_iff {kind : ComponentKind} {length : Dimension} :
    vector kind length ∈ all ↔ length ∈ Dimension.all := by
  simp [all, ComponentKind.mem_all]

theorem matrix_mem_all_iff {columns rows : Dimension} :
    matrix columns rows ∈ all ↔ columns ∈ Dimension.all ∧ rows ∈ Dimension.all := by
  simp [all]

/-- Whether the tag names a matrix. -/
def isMatrix : ShaderType → Bool
  | matrix _ _ => true
  | _ => false

/-- The number of columns; a scalar or a vector is a single column. -/
def columns : ShaderType → Nat
  | matrix columns _ => columns.toNat
  | _ => 1

/-- The number of components in one column. -/
def rows : ShaderType → Nat
  | scalar _ => 1
  | vector _ length => length.toNat
  | matrix _ rows => rows.toNat

/-- The number of scalar components of one value of the type. -/
def components : ShaderType → Nat
  | scalar _ => 1
  | vector _ length => length.toNat
  | matrix columns rows => columns.toNat * rows.toNat

/-- A value is exactly its columns. -/
theorem columns_mul_rows (type : ShaderType) :
    type.columns * type.rows = type.components := by
  cases type <;> simp [columns, rows, components]

/-- A type of the language has columns of one to four components. -/
theorem shape_of_mem_all {type : ShaderType} (listed : type ∈ all) :
    0 < type.columns ∧ 0 < type.rows ∧ type.rows ≤ 4 := by
  have everywhere : ∀ type ∈ all, 0 < type.columns ∧ 0 < type.rows ∧ type.rows ≤ 4 := by decide
  exact everywhere type listed

theorem columns_pos {type : ShaderType} (listed : type ∈ all) : 0 < type.columns :=
  (shape_of_mem_all listed).1

theorem rows_pos {type : ShaderType} (listed : type ∈ all) : 0 < type.rows :=
  (shape_of_mem_all listed).2.1

theorem rows_le_four {type : ShaderType} (listed : type ∈ all) : type.rows ≤ 4 :=
  (shape_of_mem_all listed).2.2

theorem components_pos {type : ShaderType} (listed : type ∈ all) : 0 < type.components := by
  rw [← columns_mul_rows]
  exact Nat.mul_pos (columns_pos listed) (rows_pos listed)

/-- The spelling of a type tag: a scalar by its kind, a vector as `vec3<f32>` and a matrix
as `mat4x3<f32>`. -/
def spelling : ShaderType → String
  | scalar kind => kind.spelling
  | vector kind length => "vec" ++ length.numeral ++ "<" ++ kind.spelling ++ ">"
  | matrix columns rows => "mat" ++ columns.numeral ++ "x" ++ rows.numeral ++ "<f32>"

end ShaderType

end UniformBlock
