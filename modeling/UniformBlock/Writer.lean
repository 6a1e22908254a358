import UniformBlock.Error
import UniformBlock.RowPattern
import UniformBlock.Value

/-!
# Writers

A writer copies one value into a buffer of floats.  Every copy is checked
against the buffer, a failing copy keeps what was written before it, and slots
that hold no component are left as they were.  Writers are data with a single
interpretation, so that two of them can be compared by what they do.
-/

namespace UniformBlock

/-- The floats of one uniform block. -/
abbrev Buffer :=
  Array Binary32

/-- A buffer after a write, and the failure that ended the write, if any. -/
structure WriteResult where
  buffer : Buffer
  failure? : Option SyncError
  deriving DecidableEq, Repr

namespace WriteResult

/-- A write that reached its end. -/
def done (buffer : Buffer) : WriteResult :=
  { buffer, failure? := none }

/-- A write that stopped. -/
def failed (buffer : Buffer) (error : SyncError) : WriteResult :=
  { buffer, failure? := some error }

/-- Go on writing unless the write has stopped. -/
def andThen (result : WriteResult) (next : Buffer → WriteResult) : WriteResult :=
  match result.failure? with
  | none => next result.buffer
  | some _ => result

@[simp]
theorem done_andThen (buffer : Buffer) (next : Buffer → WriteResult) :
    (done buffer).andThen next = next buffer :=
  rfl

@[simp]
theorem failed_andThen (buffer : Buffer) (error : SyncError) (next : Buffer → WriteResult) :
    (failed buffer error).andThen next = failed buffer error :=
  rfl

end WriteResult

/-! ## Copying components -/

namespace Buffer

/-- Put components into consecutive slots; slots that do not exist are skipped. -/
def store (buffer : Buffer) (offset : Nat) : List Binary32 → Buffer
  | [] => buffer
  | component :: rest => store (buffer.setIfInBounds offset component) (offset + 1) rest

@[simp]
theorem size_store (buffer : Buffer) (offset : Nat) (components : List Binary32) :
    (buffer.store offset components).size = buffer.size := by
  induction components generalizing buffer offset with
  | nil => rfl
  | cons component rest ih => simp [store, ih]

/-- Continue only if the slots from `offset` on exist. -/
def withSpan (buffer : Buffer) (name : String) (offset length : Nat)
    (next : Buffer → WriteResult) : WriteResult :=
  if buffer.size < offset + length then
    .failed buffer (.outOfRange name offset length buffer.size)
  else
    next buffer

/-- Copy one run of `width` components from the front of a list.  A list that is
too short is copied as far as it goes; `total` is the number of components of the
whole value, for the report of the failure. -/
def writeRun (buffer : Buffer) (name : String) (offset width total : Nat)
    (components : List Binary32) : WriteResult :=
  buffer.withSpan name offset width fun buffer =>
    let written := buffer.store offset (components.take width)
    if components.length < width then .failed written (.valueShape name width total)
    else .done written

/-- Copy rows of `width` components whose starts lie `pitch` floats apart. -/
def writeRows (name : String) (width pitch total : Nat) :
    (rows offset : Nat) → List Binary32 → Buffer → WriteResult
  | 0, _, _, buffer => .done buffer
  | rows + 1, offset, components, buffer =>
      (buffer.writeRun name offset width total components).andThen
        (writeRows name width pitch total rows (offset + pitch) (components.drop width))

/-- Copy the columns of a matrix, of `rows` components each.  The start of a column is
computed from its number, `stride` floats for every column before it. -/
def writeColumns (name : String) (offset rows stride total : Nat) :
    (left column : Nat) → List Binary32 → Buffer → WriteResult
  | 0, _, _, buffer => .done buffer
  | left + 1, column, components, buffer =>
      (buffer.writeRun name (offset + column * stride) rows total components).andThen
        (writeColumns name offset rows stride total left (column + 1) (components.drop rows))

/-- Copy all components of a list to consecutive slots. -/
def writeSlice (buffer : Buffer) (name : String) (offset : Nat) (components : List Binary32) :
    WriteResult :=
  buffer.withSpan name offset components.length fun buffer =>
    .done (buffer.store offset components)

/-- Copy several lists of components, each to its own multiple of `stride` behind the
offset; `position` counts those before. -/
def writeSlices (name : String) (offset stride : Nat) :
    (position : Nat) → List (List Binary32) → Buffer → WriteResult
  | _, [], buffer => .done buffer
  | position, components :: rest, buffer =>
      (buffer.writeSlice name (offset + position * stride) components).andThen
        (writeSlices name offset stride (position + 1) rest)

end Buffer

/-! ## The writers -/

/-- How one value is copied into a buffer. -/
inductive Writer where
  /-- That many components in a row. -/
  | vector (components : Nat)
  /-- The columns of a matrix, whose starts lie `stride` floats apart. -/
  | matrix (columns rows stride : Nat)
  /-- The rows of an array.  When `checked`, a short value fails before anything
  is written, and otherwise at the first row it cannot fill. -/
  | strided (pattern : RowPattern) (checked : Bool)
  /-- A plane transform as a three by three matrix with columns four floats
  apart. -/
  | affine
  /-- The four sides of a rectangle. -/
  | rect
  /-- The two coordinates of a point. -/
  | point
  /-- The first channels of a color. -/
  | color (channels : Nat)
  deriving DecidableEq, Repr

namespace Writer

/-- The distance in floats from the first slot of a matrix to its last. -/
def matrixExtent (columns rows stride : Nat) : Nat :=
  (columns - 1) * stride + rows

/-- The columns of a plane transform as a matrix; its third row is `(0, 0, 1)`. -/
def affineColumns (a b c d tx ty : Binary32) : List (List Binary32) :=
  [[a, b, .zero], [c, d, .zero], [tx, ty, .one]]

/-- The distance in floats from the first slot of such a matrix to its last. -/
def affineExtent : Nat :=
  2 * rowFloats + 3

/-- Continue only if the value has enough components. -/
def withCount (name : String) (value : Value) (expected : Nat) (buffer : Buffer)
    (next : WriteResult) : WriteResult :=
  if value.count < expected then .failed buffer (.valueShape name expected value.count)
  else next

/-- Copy a value for the named uniform to an offset of a buffer. -/
def run (writer : Writer) (name : String) (offset : Nat) (value : Value) (buffer : Buffer) :
    WriteResult :=
  match writer with
  | vector components =>
      withCount name value components buffer <|
        buffer.writeRun name offset components value.count value.components
  | matrix columns rows stride =>
      withCount name value (columns * rows) buffer <|
        buffer.withSpan name offset (matrixExtent columns rows stride) <|
          Buffer.writeColumns name offset rows stride value.count columns 0 value.components
  | strided pattern checked =>
      withCount name value (if checked then pattern.valueCount else 0) buffer <|
        buffer.withSpan name offset pattern.extent <|
          Buffer.writeRows name pattern.width pattern.pitch value.count pattern.rows offset
            value.components
  | affine =>
      match value with
      | .affine a b c d tx ty =>
          buffer.withSpan name offset affineExtent <|
            Buffer.writeSlices name offset rowFloats 0 (affineColumns a b c d tx ty)
      | _ => .failed buffer (.valueKind name "affine transform")
  | rect =>
      match value with
      | .rect x y width height =>
          buffer.writeRun name offset 4 4 [x, y, width, height]
      | _ => .failed buffer (.valueKind name "rect")
  | point =>
      match value with
      | .point x y => buffer.writeRun name offset 2 2 [x, y]
      | _ => .failed buffer (.valueKind name "point")
  | color channels =>
      match value with
      | .color r g b a => buffer.writeRun name offset channels 4 [r, g, b, a]
      | _ => .failed buffer (.valueKind name "color")

end Writer

/-! ## Columns and slices are rows -/

namespace Buffer

/-- Columns whose starts are computed from their numbers are rows that are reached one after
the other. -/
theorem writeColumns_eq_writeRows (name : String) (offset rows stride total left column : Nat)
    (components : List Binary32) (buffer : Buffer) :
    writeColumns name offset rows stride total left column components buffer =
      writeRows name rows stride total left (offset + column * stride) components buffer := by
  induction left generalizing column components buffer with
  | zero => rfl
  | succ left ih =>
      have next : offset + (column + 1) * stride = offset + column * stride + stride := by
        rw [Nat.add_mul, Nat.one_mul, Nat.add_assoc]
      rw [writeColumns, writeRows, ← next]
      exact congrArg _ (funext fun buffer => ih (column + 1) (components.drop rows) buffer)

/-- A slice is a run that uses up its components. -/
theorem writeSlice_eq_writeRun (buffer : Buffer) (name : String) (offset total : Nat)
    (components rest : List Binary32) :
    buffer.writeSlice name offset components =
      buffer.writeRun name offset components.length total (components ++ rest) := by
  have enough : ¬ (components ++ rest).length < components.length := by
    rw [List.length_append]
    omega
  simp only [writeSlice, writeRun, List.take_left, if_neg enough]

/-- Slices of equal length are the rows of their components. -/
theorem writeSlices_eq_writeRows (name : String) (offset stride total width : Nat)
    {slices : List (List Binary32)} (even : ∀ slice ∈ slices, slice.length = width)
    (position : Nat) (buffer : Buffer) :
    writeSlices name offset stride position slices buffer =
      writeRows name width stride total slices.length (offset + position * stride)
        slices.flatten buffer := by
  induction slices generalizing position buffer with
  | nil => rfl
  | cons slice rest ih =>
      obtain ⟨rfl, evenRest⟩ := List.forall_mem_cons.mp even
      have next : offset + (position + 1) * stride = offset + position * stride + stride := by
        rw [Nat.add_mul, Nat.one_mul, Nat.add_assoc]
      rw [List.length_cons, writeSlices, writeRows, ← next, List.flatten_cons, List.drop_left,
        writeSlice_eq_writeRun buffer name _ total slice rest.flatten]
      exact congrArg _ (funext fun buffer => ih evenRest (position + 1) buffer)

end Buffer

namespace Writer

/-- A matrix is written by rows. -/
theorem run_matrix (columns rows stride : Nat) (name : String) (offset : Nat) (value : Value) :
    (matrix columns rows stride).run name offset value = fun buffer =>
      withCount name value (columns * rows) buffer <|
        buffer.withSpan name offset (matrixExtent columns rows stride) <|
          Buffer.writeRows name rows stride value.count columns offset value.components := by
  have loop : Buffer.writeColumns name offset rows stride value.count columns 0 value.components =
      Buffer.writeRows name rows stride value.count columns offset value.components := by
    funext buffer
    rw [Buffer.writeColumns_eq_writeRows, Nat.zero_mul, Nat.add_zero]
  funext buffer
  rw [run, loop]

/-- A plane transform is written by rows. -/
theorem run_affine (name : String) (offset : Nat) (a b c d tx ty : Binary32) :
    affine.run name offset (.affine a b c d tx ty) = fun buffer =>
      buffer.withSpan name offset affineExtent <|
        Buffer.writeRows name 3 rowFloats 9 3 offset (affineColumns a b c d tx ty).flatten := by
  have even : ∀ slice ∈ affineColumns a b c d tx ty, slice.length = 3 := by
    simp [affineColumns]
  have loop : Buffer.writeSlices name offset rowFloats 0 (affineColumns a b c d tx ty) =
      Buffer.writeRows name 3 rowFloats 9 3 offset (affineColumns a b c d tx ty).flatten := by
    funext buffer
    rw [Buffer.writeSlices_eq_writeRows name offset rowFloats 9 3 even, Nat.zero_mul,
      Nat.add_zero]
    rfl
  funext buffer
  rw [← loop]
  rfl

end Writer

end UniformBlock
