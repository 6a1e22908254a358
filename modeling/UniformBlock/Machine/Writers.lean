import UniformBlock.Machine.Layouts
import UniformBlock.Writer

/-!
# Writers on machine words

The writers once more, with their offsets computed in machine words.  A slot range that
ends before it starts does not exist, but the end of a checked span may come out too
small when it is cut to a word.  Each writer follows the exact one.
-/

namespace UniformBlock

/-- A write on machine words, if it comes to its end. -/
abbrev WriteAttempt :=
  Except Fault WriteResult

/-- Whether a memory can hold that many floats: it has at most half as many bytes as there
are words. -/
def Holdable (floats : Nat) : Prop :=
  2 * (4 * floats) < wordCount

instance (floats : Nat) : Decidable (Holdable floats) :=
  inferInstanceAs (Decidable (2 * (4 * floats) < wordCount))

namespace WriteResult

/-- Go on writing unless the write has stopped. -/
def machineAndThen (result : WriteResult) (next : Buffer → WriteAttempt) : WriteAttempt :=
  match result.failure? with
  | none => next result.buffer
  | some _ => .ok result

theorem follows_andThen (result : WriteResult) {next : Build → Buffer → WriteAttempt}
    {exactNext : Buffer → WriteResult}
    (later : Follows (fun build => next build result.buffer) (.ok (exactNext result.buffer))) :
    Follows (fun build => result.machineAndThen (next build)) (.ok (result.andThen exactNext)) := by
  obtain ⟨buffer, failure?⟩ := result
  cases failure? with
  | none => exact later
  | some failure => exact .refl _

end WriteResult

/-! ## Copying components -/

namespace Buffer

/-- Continue only if the slots from `offset` on exist. -/
def machineWithSpan (build : Build) (buffer : Buffer) (name : String) (offset length : Nat)
    (next : Buffer → WriteAttempt) : WriteAttempt := do
  let finish ← build.add offset length
  if buffer.size < finish then
    return .failed buffer (.outOfRange name offset length buffer.size)
  else
    next buffer

/-- Go on with the slots from `offset` on if they are a range of the buffer. -/
def machineWithRange (build : Build) (buffer : Buffer) (name : String) (offset length : Nat)
    (next : Buffer → WriteResult) : WriteAttempt := do
  let finish ← build.add offset length
  if finish < offset ∨ buffer.size < finish then
    return .failed buffer (.outOfRange name offset length buffer.size)
  else
    return next buffer

/-- Copy one run of `width` components from the front of a list. -/
def machineWriteRun (build : Build) (buffer : Buffer) (name : String) (offset width total : Nat)
    (components : List Binary32) : WriteAttempt :=
  buffer.machineWithRange build name offset width fun buffer =>
    let written := buffer.store offset (components.take width)
    if components.length < width then .failed written (.valueShape name width total)
    else .done written

/-- Copy the rows of a pattern.  The offset is moved on behind every row, the last one
included. -/
def machineWriteRows (build : Build) (name : String) (pattern : RowPattern) (total : Nat) :
    (rows offset : Nat) → List Binary32 → Buffer → WriteAttempt
  | 0, _, _, buffer => .ok (.done buffer)
  | rows + 1, offset, components, buffer => do
      let result ← buffer.machineWriteRun build name offset pattern.width total components
      result.machineAndThen fun buffer => do
        let pitch ← pattern.machinePitch build
        let next ← build.add offset pitch
        machineWriteRows build name pattern total rows next (components.drop pattern.width) buffer

/-- Copy the columns of a matrix, of `rows` components each. -/
def machineWriteColumns (build : Build) (name : String) (offset rows stride total : Nat) :
    (left column : Nat) → List Binary32 → Buffer → WriteAttempt
  | 0, _, _, buffer => .ok (.done buffer)
  | left + 1, column, components, buffer => do
      let distance ← build.mul column stride
      let start ← build.add offset distance
      let result ← buffer.machineWriteRun build name start rows total components
      result.machineAndThen
        (machineWriteColumns build name offset rows stride total left (column + 1)
          (components.drop rows))

/-- Copy all components of a list to consecutive slots. -/
def machineWriteSlice (build : Build) (buffer : Buffer) (name : String) (offset : Nat)
    (components : List Binary32) : WriteAttempt :=
  buffer.machineWithRange build name offset components.length fun buffer =>
    .done (buffer.store offset components)

/-- Copy several lists of components, each to its own multiple of `stride` behind the
offset. -/
def machineWriteSlices (build : Build) (name : String) (offset stride : Nat) :
    (position : Nat) → List (List Binary32) → Buffer → WriteAttempt
  | _, [], buffer => .ok (.done buffer)
  | position, components :: rest, buffer => do
      let distance ← build.mul position stride
      let start ← build.add offset distance
      let result ← buffer.machineWriteSlice build name start components
      result.machineAndThen
        (machineWriteSlices build name offset stride (position + 1) rest)

theorem follows_withSpan (buffer : Buffer) (name : String) (offset length : Nat)
    {next : Build → Buffer → WriteAttempt} {exactNext : Buffer → WriteResult}
    (later : Follows (fun build => next build buffer) (.ok (exactNext buffer))) :
    Follows (fun build => buffer.machineWithSpan build name offset length (next build))
      (.ok (buffer.withSpan name offset length exactNext)) := by
  refine (follows_add _ _).step ?_
  by_cases noRoom : buffer.size < offset + length
  · simp only [withSpan, if_pos noRoom]
    exact .refl _
  · simp only [withSpan, if_neg noRoom]
    exact later

theorem follows_withRange (buffer : Buffer) (name : String) (offset length : Nat)
    (next : Buffer → WriteResult) :
    Follows (fun build => buffer.machineWithRange build name offset length next)
      (.ok (buffer.withSpan name offset length next)) := by
  refine (follows_add _ _).step ?_
  have forward : ¬ offset + length < offset := by omega
  simp only [forward, false_or]
  by_cases noRoom : buffer.size < offset + length
  · simp only [withSpan, if_pos noRoom]
    exact .refl _
  · simp only [withSpan, if_neg noRoom]
    exact .refl _

theorem follows_writeRun (buffer : Buffer) (name : String) (offset width total : Nat)
    (components : List Binary32) :
    Follows (fun build => buffer.machineWriteRun build name offset width total components)
      (.ok (buffer.writeRun name offset width total components)) :=
  buffer.follows_withRange _ _ _ _

theorem follows_writeRows (name : String) (pattern : RowPattern) (total rows offset : Nat)
    (components : List Binary32) (buffer : Buffer) :
    Follows (fun build =>
        machineWriteRows build name pattern total rows offset components buffer)
      (.ok (writeRows name pattern.width pattern.pitch total rows offset components buffer)) := by
  induction rows generalizing offset components buffer with
  | zero => exact .refl _
  | succ rows ih =>
      refine (buffer.follows_writeRun _ _ _ _ _).step (WriteResult.follows_andThen _ ?_)
      exact pattern.follows_pitch.step ((follows_add _ _).step (ih _ _ _))

theorem follows_writeColumns (name : String) (offset rows stride total left column : Nat)
    (components : List Binary32) (buffer : Buffer) :
    Follows (fun build =>
        machineWriteColumns build name offset rows stride total left column components buffer)
      (.ok (writeColumns name offset rows stride total left column components buffer)) := by
  induction left generalizing column components buffer with
  | zero => exact .refl _
  | succ left ih =>
      refine (follows_mul _ _).step ((follows_add _ _).step ?_)
      exact (buffer.follows_writeRun _ _ _ _ _).step (WriteResult.follows_andThen _ (ih _ _ _))

theorem follows_writeSlices (name : String) (offset stride position : Nat)
    (slices : List (List Binary32)) (buffer : Buffer) :
    Follows (fun build => machineWriteSlices build name offset stride position slices buffer)
      (.ok (writeSlices name offset stride position slices buffer)) := by
  induction slices generalizing position buffer with
  | nil => exact .refl _
  | cons components rest ih =>
      refine (follows_mul _ _).step ((follows_add _ _).step ?_)
      exact (buffer.follows_withRange _ _ _ _).step (WriteResult.follows_andThen _ (ih _ _))

end Buffer

/-! ## The writers -/

namespace Writer

/-- Continue only if the value has enough components. -/
def machineWithCount (name : String) (value : Value) (expected : Nat) (buffer : Buffer)
    (next : WriteAttempt) : WriteAttempt :=
  if value.count < expected then .ok (.failed buffer (.valueShape name expected value.count))
  else next

/-- The distance in floats from the first slot of a matrix to its last. -/
def machineMatrixExtent (build : Build) (columns rows stride : Nat) : Except Fault Nat := do
  let before ← build.sub columns 1
  let start ← build.mul before stride
  build.add start rows

/-- The number of components that a strided writer checks for. -/
def machineExpected (build : Build) (pattern : RowPattern) (checked : Bool) : Except Fault Nat :=
  if checked then pattern.machineValueCount build else .ok 0

/-- Copy a value for the named uniform to an offset of a buffer. -/
def machineRun (build : Build) (writer : Writer) (name : String) (offset : Nat) (value : Value)
    (buffer : Buffer) : WriteAttempt :=
  match writer with
  | vector components =>
      machineWithCount name value components buffer <|
        buffer.machineWriteRun build name offset components value.count value.components
  | matrix columns rows stride => do
      let expected ← build.mul columns rows
      machineWithCount name value expected buffer do
        let extent ← machineMatrixExtent build columns rows stride
        buffer.machineWithSpan build name offset extent <|
          Buffer.machineWriteColumns build name offset rows stride value.count columns 0
            value.components
  | strided pattern checked => do
      let expected ← machineExpected build pattern checked
      machineWithCount name value expected buffer do
        let extent ← pattern.machineExtent build
        buffer.machineWithSpan build name offset extent <|
          Buffer.machineWriteRows build name pattern value.count pattern.rows offset
            value.components
  | affine =>
      match value with
      | .affine a b c d tx ty =>
          buffer.machineWithSpan build name offset affineExtent <|
            Buffer.machineWriteSlices build name offset rowFloats 0 (affineColumns a b c d tx ty)
      | _ => .ok (.failed buffer (.valueKind name "affine transform"))
  | rect =>
      match value with
      | .rect x y width height =>
          buffer.machineWriteRun build name offset 4 4 [x, y, width, height]
      | _ => .ok (.failed buffer (.valueKind name "rect"))
  | point =>
      match value with
      | .point x y => buffer.machineWriteRun build name offset 2 2 [x, y]
      | _ => .ok (.failed buffer (.valueKind name "point"))
  | color channels =>
      match value with
      | .color r g b a => buffer.machineWriteRun build name offset channels 4 [r, g, b, a]
      | _ => .ok (.failed buffer (.valueKind name "color"))

theorem follows_withCount (name : String) (value : Value) (expected : Nat) (buffer : Buffer)
    {next : Build → WriteAttempt} {exactNext : WriteResult}
    (later : Follows next (.ok exactNext)) :
    Follows (fun build => machineWithCount name value expected buffer (next build))
      (.ok (withCount name value expected buffer exactNext)) := by
  by_cases short : value.count < expected
  · simp only [machineWithCount, withCount, if_pos short]
    exact .refl _
  · simp only [machineWithCount, withCount, if_neg short]
    exact later

theorem follows_matrixExtent (columns rows stride : Nat) :
    Follows (fun build => machineMatrixExtent build columns rows stride)
      (.ok (matrixExtent columns rows stride)) :=
  (follows_sub _ _).step ((follows_mul _ _).step (follows_add _ _))

theorem follows_expected (pattern : RowPattern) (checked : Bool) :
    Follows (fun build => machineExpected build pattern checked)
      (.ok (if checked then pattern.valueCount else 0)) := by
  cases checked with
  | false => exact .refl _
  | true => exact pattern.follows_valueCount

theorem follows_run (writer : Writer) (name : String) (offset : Nat) (value : Value)
    (buffer : Buffer) :
    Follows (fun build => writer.machineRun build name offset value buffer)
      (.ok (writer.run name offset value buffer)) := by
  cases writer with
  | vector components =>
      exact follows_withCount _ _ _ _ (buffer.follows_writeRun _ _ _ _ _)
  | matrix columns rows stride =>
      refine (follows_mul _ _).step (follows_withCount _ _ _ _ ?_)
      exact (follows_matrixExtent _ _ _).step
        (buffer.follows_withSpan _ _ _ (Buffer.follows_writeColumns _ _ _ _ _ _ _ _ _))
  | strided pattern checked =>
      refine (follows_expected pattern checked).step (follows_withCount _ _ _ _ ?_)
      exact pattern.follows_extent.step
        (buffer.follows_withSpan _ _ _ (Buffer.follows_writeRows _ _ _ _ _ _ _))
  | affine =>
      cases value
      case affine => exact buffer.follows_withSpan _ _ _ (Buffer.follows_writeSlices _ _ _ _ _ _)
      all_goals exact .refl _
  | rect =>
      cases value
      case rect => exact buffer.follows_writeRun _ _ _ _ _
      all_goals exact .refl _
  | point =>
      cases value
      case point => exact buffer.follows_writeRun _ _ _ _ _
      all_goals exact .refl _
  | color channels =>
      cases value
      case color => exact buffer.follows_writeRun _ _ _ _ _
      all_goals exact .refl _

end Writer

end UniformBlock
