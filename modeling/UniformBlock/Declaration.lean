import UniformBlock.ShaderType
import UniformBlock.Value

/-!
# Declared and placed uniforms

A declaration names a uniform, its type, the number of its entries and its
value.  An element is a declaration with a byte offset in a block; of its value
only the shape and the number of components matter.
-/

namespace UniformBlock

/-- A uniform as it is declared.  One entry is a single value, more are an
array. -/
structure Declaration where
  name : String
  type : ShaderType
  count : Nat
  value : Value
  deriving DecidableEq, Repr

namespace Declaration

/-- A single uniform. -/
def single (name : String) (type : ShaderType) (value : Value) : Declaration :=
  { name, type, count := 1, value }

/-- An array of `count` entries. -/
def array (name : String) (type : ShaderType) (count : Nat) (value : Value) : Declaration :=
  { name, type, count, value }

/-- Whether the declaration is an array. -/
def isArray (declaration : Declaration) : Bool :=
  1 < declaration.count

end Declaration

/-- A uniform with a place in a block. -/
structure Element extends Declaration where
  byteOffset : Nat
  deriving DecidableEq, Repr

namespace Element

/-- The offset in floats. -/
def floatOffset (element : Element) : Nat :=
  element.byteOffset / 4

end Element

end UniformBlock
