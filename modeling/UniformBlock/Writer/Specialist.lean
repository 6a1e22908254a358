import UniformBlock.Declaration
import UniformBlock.Writer

/-!
# Specialists

A specialist is a writer for values that the direct writers cannot lay out.  It
names a type and a test on the placed uniform, and a registry asks its
specialists in order.  Registries are not confined to the writers at hand: what
a specialist writes with may be of any kind.
-/

namespace UniformBlock

/-- A writer that takes over the uniforms of one type that pass a test. -/
structure Specialist (W : Type := Writer) where
  label : String
  type : ShaderType
  test : Element → Bool
  writer : W

namespace Specialist

/-- Whether the specialist takes over a placed uniform. -/
def accepts {W : Type} (specialist : Specialist W) (element : Element) : Bool :=
  specialist.type = element.type && specialist.test element

/-- Single values of the shape with the given name. -/
def singleOf (shape : String) (element : Element) : Bool :=
  element.count = 1 && element.value.shape = shape

/-- Plane transforms, as matrices of three columns. -/
def affine : Specialist where
  label := "affine transform"
  type := .matrix 3 3
  test := singleOf "affine transform"
  writer := .affine

/-- Rectangles, as vectors of four. -/
def rect : Specialist where
  label := "rect"
  type := .vector .f32 4
  test := singleOf "rect"
  writer := .rect

/-- Points, as vectors of two. -/
def point : Specialist where
  label := "point"
  type := .vector .f32 2
  test := singleOf "point"
  writer := .point

/-- Colors with their opacity, as vectors of four. -/
def colorRgba : Specialist where
  label := "color rgba"
  type := .vector .f32 4
  test := singleOf "color"
  writer := .color 4

/-- Colors without their opacity, as vectors of three. -/
def colorRgb : Specialist where
  label := "color rgb"
  type := .vector .f32 3
  test := singleOf "color"
  writer := .color 3

/-- The specialists for structured values, in the order in which they are
asked. -/
def standard : List Specialist :=
  [affine, rect, point, colorRgba, colorRgb]

/-- The first specialist that takes over a placed uniform. -/
def find? {W : Type} (specialists : List (Specialist W)) (element : Element) :
    Option (Specialist W) :=
  specialists.find? (accepts · element)

end Specialist

end UniformBlock
