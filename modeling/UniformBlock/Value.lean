import UniformBlock.Number.Binary32

/-!
# Uniform values

The current value of a uniform: plain numbers, or a structured value that only
a specialist writer lays out in full.  Every value flattens to a list of
components in reading order.
-/

namespace UniformBlock

/-- The value of one uniform or of a whole uniform array. -/
inductive Value where
  | scalar (x : Binary32)
  | flat (components : List Binary32)
  /-- One inner list for each vector, matrix or array entry. -/
  | nested (rows : List (List Binary32))
  | point (x y : Binary32)
  | rect (x y width height : Binary32)
  | color (r g b a : Binary32)
  /-- The plane transform with columns `(a, b)`, `(c, d)` and `(tx, ty)`. -/
  | affine (a b c d tx ty : Binary32)
  deriving DecidableEq, Repr

namespace Value

/-- The components of a value, in reading order. -/
def components : Value → List Binary32
  | scalar x => [x]
  | flat components => components
  | nested rows => rows.flatten
  | point x y => [x, y]
  | rect x y width height => [x, y, width, height]
  | color r g b a => [r, g, b, a]
  | affine a b c d tx ty => [a, b, c, d, tx, ty]

/-- The number of components, counted without listing them. -/
def count : Value → Nat
  | scalar _ => 1
  | flat components => components.length
  | nested rows => rows.foldr (fun row total => row.length + total) 0
  | point .. => 2
  | rect .. => 4
  | color .. => 4
  | affine .. => 6

theorem length_components (value : Value) : value.components.length = value.count := by
  cases value with
  | nested rows =>
      rw [components, count]
      induction rows with
      | nil => rfl
      | cons row rest ih => rw [List.flatten_cons, List.length_append, ih, List.foldr_cons]
  | _ => rfl

/-- The name of a value's shape. -/
def shape : Value → String
  | scalar _ => "scalar"
  | flat _ => "flat sequence"
  | nested _ => "nested sequence"
  | point .. => "point"
  | rect .. => "rect"
  | color .. => "color"
  | affine .. => "affine transform"

end Value

end UniformBlock
