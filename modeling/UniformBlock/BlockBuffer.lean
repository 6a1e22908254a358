import UniformBlock.Layout
import UniformBlock.Plan
import UniformBlock.UniformSet

/-!
# Block buffers

The floats of one block together with the state of the uniform set that they
were last written from, so that an unchanged set is not written again.
-/

namespace UniformBlock

/-- A buffer that remembers which change of a set it shows. -/
structure BlockBuffer where
  data : Buffer
  /-- The change counter of the set that was written last, as long as nothing
  else was written since. -/
  synced? : Option Nat := none
  deriving DecidableEq, Repr

namespace BlockBuffer

/-- A buffer of zeros. -/
def zeroed (floats : Nat) : BlockBuffer :=
  { data := Array.replicate floats .zero }

/-- A buffer of zeros for a layout. -/
def forLayout (layout : Layout) : BlockBuffer :=
  zeroed layout.floatCount

/-- The number of bytes of the buffer. -/
def byteLength (buffer : BlockBuffer) : Nat :=
  4 * buffer.data.size

/-- Replace one float; a slot that does not exist is skipped. -/
def poke (buffer : BlockBuffer) (index : Nat) (word : Binary32) : BlockBuffer :=
  { buffer with data := buffer.data.setIfInBounds index word }

/-- Write values from any source.  After a success the buffer shows no set. -/
def sync (buffer : BlockBuffer) (plan : Plan) (source : Source) :
    BlockBuffer × Option SyncError :=
  let result := plan.run source 0 buffer.data
  match result.failure? with
  | none => ({ data := result.buffer, synced? := none }, none)
  | some error => ({ buffer with data := result.buffer }, some error)

/-- Write the values of a set unless the buffer already shows its last change.
On success the answer tells whether anything was written. -/
def syncSet (buffer : BlockBuffer) (plan : Plan) (uniforms : UniformSet) :
    BlockBuffer × Except SyncError Bool :=
  if buffer.synced? = some uniforms.changes then
    (buffer, .ok false)
  else
    let result := plan.run uniforms.source 0 buffer.data
    match result.failure? with
    | none => ({ data := result.buffer, synced? := some uniforms.changes }, .ok true)
    | some error => ({ buffer with data := result.buffer }, .error error)

/-- The four bytes of a word, the least significant first. -/
def wordBytes (word : Binary32) : List UInt8 :=
  [word.bits.toUInt8, (word.bits >>> 8).toUInt8, (word.bits >>> 16).toUInt8,
    (word.bits >>> 24).toUInt8]

/-- The bytes of the buffer, as they are uploaded. -/
def bytes (buffer : BlockBuffer) : List UInt8 :=
  buffer.data.toList.flatMap wordBytes

end BlockBuffer

end UniformBlock
