import UniformBlock.Machine.Blocks

/-!
# Related runs

Two passes over one plan, on buffers that are related and at offsets of which one is larger
by a fixed number of floats.  A writer looks at nothing of a buffer but its size, so they do
the same: a build with checks that comes to its end at the larger offsets comes to its end at
the smaller ones, the buffers stay related, and failures differ in their positions only.

This is shown once for any relation that says how the sizes go together and that is kept
when components are stored.
-/

namespace UniformBlock

/-- The report of a failure when some floats lie in front of the buffer. -/
def SyncError.behind (floats : Nat) : SyncError → SyncError
  | outOfRange name offset length bufferLength =>
      outOfRange name (floats + offset) length (floats + bufferLength)
  | error => error

/-- What a relation between buffers has to keep for passes over them to be alike, when the
offsets of the first buffer are larger by `shift`. -/
structure Bridge (shift : Nat) (related : Buffer → Buffer → Prop) : Prop where
  size : ∀ ⦃moved buffer⦄, related moved buffer → moved.size = shift + buffer.size
  store : ∀ ⦃moved buffer⦄ offset components, related moved buffer →
    related (moved.store (shift + offset) components) (buffer.store offset components)

/-- Whether results come from related buffers. -/
structure WriteResult.Related (shift : Nat) (related : Buffer → Buffer → Prop)
    (moved result : WriteResult) : Prop where
  buffer : related moved.buffer result.buffer
  failure? : moved.failure? = result.failure?.map (SyncError.behind shift)

/-- A write that does with a buffer what another one does with a related one, if it comes to
its end. -/
def Tracks (shift : Nat) (related : Buffer → Buffer → Prop)
    (moved write : Buffer → WriteAttempt) : Prop :=
  ∀ ⦃movedBuffer buffer result⦄, related movedBuffer buffer → moved movedBuffer = .ok result →
    ∃ alone, write buffer = .ok alone ∧ result.Related shift related alone

namespace Tracks

variable {shift : Nat} {related : Buffer → Buffer → Prop}
  {moved write movedNext next : Buffer → WriteAttempt} {offset distance : Nat}

/-! ## Parts of a write -/

theorem done : Tracks shift related (fun buffer => .ok (.done buffer)) fun buffer =>
    .ok (.done buffer) := by
  intro movedBuffer buffer result relates ends
  cases ends
  exact ⟨_, rfl, relates, rfl⟩

/-- A failure that is not about the buffer is reported as it is. -/
theorem failed {error : SyncError} (same : error.behind shift = error) :
    Tracks shift related (fun buffer => .ok (.failed buffer error)) fun buffer =>
      .ok (.failed buffer error) := by
  intro movedBuffer buffer result relates ends
  cases ends
  exact ⟨_, rfl, relates, congrArg some same.symm⟩

theorem andThen (first : Tracks shift related moved write)
    (second : Tracks shift related movedNext next) :
    Tracks shift related (fun buffer => moved buffer >>= (·.machineAndThen movedNext))
      fun buffer => write buffer >>= (·.machineAndThen next) := by
  intro movedBuffer buffer result relates ends
  obtain ⟨⟨between, failure?⟩, written, ends⟩ := bind_eq_ok ends
  obtain ⟨⟨alone, failureAlone?⟩, writtenAlone, relatesNext, sameFailure⟩ := first relates written
  obtain rfl : failure? = failureAlone?.map (SyncError.behind shift) := sameFailure
  dsimp only
  rw [writtenAlone]
  cases failureAlone? with
  | some error =>
      cases ends
      exact ⟨_, rfl, relatesNext, rfl⟩
  | none => exact second relatesNext ends

/-- A number that does not depend on the buffer may be computed first. -/
theorem step {first : Except Fault Nat} {moved write : Nat → Buffer → WriteAttempt}
    (later : ∀ value, Tracks shift related (moved value) (write value)) :
    Tracks shift related (fun buffer => first >>= fun value => moved value buffer)
      fun buffer => first >>= fun value => write value buffer := by
  intro movedBuffer buffer result relates ends
  obtain ⟨value, computed, ends⟩ := bind_eq_ok ends
  dsimp only
  rw [computed]
  exact later value relates ends

/-- A larger offset that can be moved on shows that the smaller one can. -/
theorem moveOn {moved write : Nat → Buffer → WriteAttempt}
    (later : Tracks shift related (moved (shift + (offset + distance)))
      (write (offset + distance))) :
    Tracks shift related
      (fun buffer => Build.checked.add (shift + offset) distance >>= fun start =>
        moved start buffer)
      fun buffer => Build.checked.add offset distance >>= fun start => write start buffer := by
  intro movedBuffer buffer result relates ends
  obtain ⟨start, added, ends⟩ := bind_eq_ok ends
  obtain ⟨fits, rfl⟩ := Build.lt_of_checked_fit added
  rw [Nat.add_assoc] at ends fits
  dsimp only
  rw [Build.add_of_lt (Nat.lt_of_le_of_lt (Nat.le_add_left _ _) fits)]
  exact later relates ends

theorem withCount (name : String) (value : Value) (expected : Nat)
    (enough : Tracks shift related moved write) :
    Tracks shift related
      (fun buffer => Writer.machineWithCount name value expected buffer (moved buffer))
      fun buffer => Writer.machineWithCount name value expected buffer (write buffer) := by
  intro movedBuffer buffer result relates ends
  dsimp only at ends ⊢
  rw [Writer.machineWithCount] at ends ⊢
  split at ends
  · rename_i short
    cases ends
    rw [if_pos short]
    exact ⟨_, rfl, relates, rfl⟩
  · rename_i long
    rw [if_neg long]
    exact enough relates ends

end Tracks

namespace Bridge

variable {shift : Nat} {related : Buffer → Buffer → Prop} (bridge : Bridge shift related)

include bridge

/-- The slots exist in both buffers or in none. -/
theorem withSpan (name : String) (offset length : Nat)
    {movedNext next : Buffer → WriteAttempt} (inside : Tracks shift related movedNext next) :
    Tracks shift related
      (fun buffer => buffer.machineWithSpan .checked name (shift + offset) length movedNext)
      fun buffer => buffer.machineWithSpan .checked name offset length next := by
  intro movedBuffer buffer result relates ends
  obtain ⟨finish, added, ends⟩ := bind_eq_ok ends
  obtain ⟨fits, rfl⟩ := Build.lt_of_checked_fit added
  rw [bridge.size relates] at ends
  dsimp only
  rw [Buffer.machineWithSpan, Build.add_of_lt (by omega), ok_bind]
  by_cases noRoom : buffer.size < offset + length
  · rw [if_pos (by omega)] at ends
    cases ends
    rw [if_pos noRoom]
    exact ⟨_, rfl, relates, rfl⟩
  · rw [if_neg (by omega)] at ends
    rw [if_neg noRoom]
    exact inside relates ends

theorem withRange (name : String) (offset length : Nat) {movedNext next : Buffer → WriteResult}
    (inside : ∀ ⦃movedBuffer buffer⦄, related movedBuffer buffer →
      (movedNext movedBuffer).Related shift related (next buffer)) :
    Tracks shift related
      (fun buffer => buffer.machineWithRange .checked name (shift + offset) length movedNext)
      fun buffer => buffer.machineWithRange .checked name offset length next := by
  intro movedBuffer buffer result relates ends
  obtain ⟨finish, added, ends⟩ := bind_eq_ok ends
  obtain ⟨fits, rfl⟩ := Build.lt_of_checked_fit added
  rw [bridge.size relates] at ends
  dsimp only
  rw [Buffer.machineWithRange, Build.add_of_lt (by omega), ok_bind]
  by_cases noRoom : buffer.size < offset + length
  · rw [if_pos (by omega)] at ends
    cases ends
    rw [if_pos (.inr noRoom)]
    exact ⟨_, rfl, relates, rfl⟩
  · rw [if_neg (by omega)] at ends
    cases ends
    rw [if_neg (by omega)]
    exact ⟨_, rfl, inside relates⟩

/-! ## Copying components -/

theorem writeRun (name : String) (offset width total : Nat) (components : List Binary32) :
    Tracks shift related
      (fun buffer => buffer.machineWriteRun .checked name (shift + offset) width total components)
      fun buffer => buffer.machineWriteRun .checked name offset width total components := by
  apply bridge.withRange
  intro movedBuffer buffer relates
  have stored := bridge.store offset (components.take width) relates
  dsimp only
  split
  · exact ⟨stored, rfl⟩
  · exact ⟨stored, rfl⟩

theorem writeRows (name : String) (pattern : RowPattern) (total rows offset : Nat)
    (components : List Binary32) :
    Tracks shift related
      (Buffer.machineWriteRows .checked name pattern total rows (shift + offset) components)
      (Buffer.machineWriteRows .checked name pattern total rows offset components) := by
  induction rows generalizing offset components with
  | zero => exact .done
  | succ rows ih =>
      refine (bridge.writeRun name offset pattern.width total components).andThen ?_
      exact .step fun pitch => .moveOn (ih (offset + pitch) (components.drop pattern.width))

theorem writeColumns (name : String) (offset rows stride total left column : Nat)
    (components : List Binary32) :
    Tracks shift related
      (Buffer.machineWriteColumns .checked name (shift + offset) rows stride total left column
        components)
      (Buffer.machineWriteColumns .checked name offset rows stride total left column
        components) := by
  induction left generalizing column components with
  | zero => exact .done
  | succ left ih =>
      exact .step fun distance => .moveOn
        ((bridge.writeRun name (offset + distance) rows total components).andThen (ih _ _))

theorem writeSlices (name : String) (offset stride position : Nat)
    (slices : List (List Binary32)) :
    Tracks shift related
      (Buffer.machineWriteSlices .checked name (shift + offset) stride position slices)
      (Buffer.machineWriteSlices .checked name offset stride position slices) := by
  induction slices generalizing position with
  | nil => exact .done
  | cons components rest ih =>
      refine .step fun distance => .moveOn (Tracks.andThen ?_ (ih _))
      exact bridge.withRange _ _ _ fun movedBuffer buffer relates =>
        ⟨bridge.store (offset + distance) components relates, rfl⟩

/-! ## Writers and passes -/

/-- Every writer does the same with related buffers. -/
theorem run (writer : Writer) (name : String) (offset : Nat) (value : Value) :
    Tracks shift related (writer.machineRun .checked name (shift + offset) value)
      (writer.machineRun .checked name offset value) := by
  have wrongKind (expected : String) : Tracks shift related
      (fun buffer => .ok (.failed buffer (.valueKind name expected)))
      fun buffer => .ok (.failed buffer (.valueKind name expected)) := .failed rfl
  cases writer with
  | vector components => exact .withCount _ _ _ (bridge.writeRun _ _ _ _ _)
  | matrix columns rows stride =>
      refine .step fun expected => .withCount _ _ _ (.step fun extent => ?_)
      exact bridge.withSpan _ _ _ (bridge.writeColumns _ _ _ _ _ _ _ _)
  | strided pattern checked =>
      refine .step fun expected => .withCount _ _ _ (.step fun extent => ?_)
      exact bridge.withSpan _ _ _ (bridge.writeRows _ _ _ _ _ _)
  | affine =>
      cases value
      case affine => exact bridge.withSpan _ _ _ (bridge.writeSlices _ _ _ _ _)
      all_goals exact wrongKind _
  | rect =>
      cases value
      case rect => exact bridge.writeRun _ _ _ _ _
      all_goals exact wrongKind _
  | point =>
      cases value
      case point => exact bridge.writeRun _ _ _ _ _
      all_goals exact wrongKind _
  | color channels =>
      cases value
      case color => exact bridge.writeRun _ _ _ _ _
      all_goals exact wrongKind _

theorem writeEntries (source : Source) (base : Nat) (entries : List PlanEntry) :
    Tracks shift related (Plan.machineWriteEntries .checked source (shift + base) entries)
      (Plan.machineWriteEntries .checked source base entries) := by
  induction entries with
  | nil => exact .done
  | cons entry rest ih =>
      intro movedBuffer buffer result relates ends
      rw [Plan.machineWriteEntries] at ends ⊢
      cases found : source entry.name with
      | none =>
          rw [found] at ends
          cases ends
          exact ⟨_, rfl, relates, rfl⟩
      | some value =>
          rw [found] at ends
          have tracked : Tracks shift related
              (fun buffer => Build.checked.add (shift + base) entry.offset >>= fun start =>
                entry.writer.machineRun .checked entry.name start value buffer >>=
                  (·.machineAndThen
                    (Plan.machineWriteEntries .checked source (shift + base) rest)))
              fun buffer => Build.checked.add base entry.offset >>= fun start =>
                entry.writer.machineRun .checked entry.name start value buffer >>=
                  (·.machineAndThen (Plan.machineWriteEntries .checked source base rest)) :=
            .moveOn ((bridge.run entry.writer entry.name (base + entry.offset) value).andThen ih)
          exact tracked relates ends

end Bridge

end UniformBlock
