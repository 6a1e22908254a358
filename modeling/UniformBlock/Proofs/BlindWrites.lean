import UniformBlock.Plan

/-!
# Blind writes

A writer never reads the buffer it writes to.  What it puts into which slot, and
how it ends, are therefore settled before the first slot is written: they depend
on the value, the offset and the size of the buffer only.  The same holds of a
whole write pass, even when its uniforms overlap, so that repeating a pass
changes nothing.
-/

namespace UniformBlock

/-- New contents for some slots of a buffer. -/
abbrev Overlay :=
  Nat → Option Binary32

namespace Overlay

/-- The overlay that covers no slot. -/
def nothing : Overlay := fun _ => none

/-- The overlay that covers one slot. -/
def single (slot : Nat) (component : Binary32) : Overlay := fun i =>
  if i = slot then some component else none

/-- One overlay on top of another. -/
def above (upper lower : Overlay) : Overlay := fun i =>
  (upper i).or (lower i)

/-- Put the contents of an overlay into a buffer; slots that do not exist are
skipped. -/
def onto (overlay : Overlay) (buffer : Buffer) : Buffer :=
  buffer.mapIdx fun i old => (overlay i).getD old

theorem getElem?_onto (overlay : Overlay) (buffer : Buffer) (i : Nat) :
    (overlay.onto buffer)[i]? = buffer[i]?.map fun old => (overlay i).getD old :=
  Array.getElem?_mapIdx

@[simp]
theorem size_onto (overlay : Overlay) (buffer : Buffer) :
    (overlay.onto buffer).size = buffer.size :=
  Array.size_mapIdx

@[simp]
theorem nothing_onto (buffer : Buffer) : nothing.onto buffer = buffer := by
  apply Array.ext_getElem?
  intro i
  rw [getElem?_onto]
  cases buffer[i]? <;> rfl

theorem onto_onto (upper lower : Overlay) (buffer : Buffer) :
    upper.onto (lower.onto buffer) = (upper.above lower).onto buffer := by
  apply Array.ext_getElem?
  intro i
  rw [getElem?_onto, getElem?_onto, getElem?_onto, above]
  cases buffer[i]? with
  | none => rfl
  | some old => cases upper i <;> rfl

/-- Putting the same contents twice is putting them once. -/
@[simp]
theorem onto_onto_self (overlay : Overlay) (buffer : Buffer) :
    overlay.onto (overlay.onto buffer) = overlay.onto buffer := by
  have same : overlay.above overlay = overlay := by
    funext i
    exact Option.or_self
  rw [onto_onto, same]

theorem setIfInBounds_eq_onto (buffer : Buffer) (slot : Nat) (component : Binary32) :
    buffer.setIfInBounds slot component = (single slot component).onto buffer := by
  apply Array.ext_getElem?
  intro i
  rw [Array.getElem?_setIfInBounds, getElem?_onto, single]
  by_cases same : slot = i
  · subst same
    rw [if_pos rfl, if_pos rfl]
    split
    · rename_i inside
      rw [Array.getElem?_eq_getElem inside]
      rfl
    · rename_i outside
      rw [Array.getElem?_eq_none (Nat.le_of_not_lt outside)]
      rfl
  · rw [if_neg same, if_neg fun equal => same equal.symm]
    cases buffer[i]? <;> rfl

end Overlay

/-- A write that does not look at the contents of the buffer: among buffers of
one size, it always puts the same contents and always ends in the same way. -/
def Blind (write : Buffer → WriteResult) : Prop :=
  ∀ size, ∃ (overlay : Overlay) (failure? : Option SyncError),
    ∀ buffer : Buffer, buffer.size = size → write buffer = ⟨overlay.onto buffer, failure?⟩

namespace Blind

/-! ## Building blind writes -/

theorem done : Blind WriteResult.done := fun _ =>
  ⟨.nothing, none, fun buffer _ => by rw [Overlay.nothing_onto]; rfl⟩

/-- A failure may report the size of the buffer. -/
theorem failed (error : Nat → SyncError) :
    Blind fun buffer => .failed buffer (error buffer.size) := fun size =>
  ⟨.nothing, some (error size), fun buffer sized => by
    rw [Overlay.nothing_onto, ← sized]
    rfl⟩

theorem store (offset : Nat) (components : List Binary32) :
    ∃ overlay : Overlay, ∀ buffer : Buffer,
      buffer.store offset components = overlay.onto buffer := by
  induction components generalizing offset with
  | nil => exact ⟨.nothing, fun buffer => (Overlay.nothing_onto buffer).symm⟩
  | cons component rest ih =>
      rcases ih (offset + 1) with ⟨later, stored⟩
      refine ⟨later.above (.single offset component), ?_⟩
      intro buffer
      rw [Buffer.store, stored, Overlay.setIfInBounds_eq_onto, Overlay.onto_onto]

theorem andThen {first next : Buffer → WriteResult} (blindFirst : Blind first)
    (blindNext : Blind next) : Blind fun buffer => (first buffer).andThen next := by
  intro size
  rcases blindFirst size with ⟨lower, failure?, firstWrites⟩
  cases failure? with
  | some error =>
      refine ⟨lower, some error, ?_⟩
      intro buffer sized
      simp only [firstWrites buffer sized, WriteResult.andThen]
  | none =>
      rcases blindNext size with ⟨upper, failure?, nextWrites⟩
      refine ⟨upper.above lower, failure?, ?_⟩
      intro buffer sized
      simp only [firstWrites buffer sized, WriteResult.andThen]
      rw [nextWrites _ ((Overlay.size_onto lower buffer).trans sized), Overlay.onto_onto]

theorem withSpan {next : Buffer → WriteResult} (name : String) (offset length : Nat)
    (blindNext : Blind next) : Blind fun buffer => buffer.withSpan name offset length next := by
  intro size
  by_cases noRoom : size < offset + length
  · rcases failed (SyncError.outOfRange name offset length) size with
      ⟨overlay, failure?, writes⟩
    refine ⟨overlay, failure?, ?_⟩
    intro buffer sized
    rw [← writes buffer sized]
    exact if_pos (sized ▸ noRoom)
  · rcases blindNext size with ⟨overlay, failure?, writes⟩
    refine ⟨overlay, failure?, ?_⟩
    intro buffer sized
    rw [← writes buffer sized]
    exact if_neg (sized ▸ noRoom)

theorem withCount {next : Buffer → WriteResult} (name : String) (value : Value) (expected : Nat)
    (blindNext : Blind next) :
    Blind fun buffer => Writer.withCount name value expected buffer (next buffer) := by
  by_cases short : value.count < expected
  · simp only [Writer.withCount, if_pos short]
    exact failed fun _ => .valueShape name expected value.count
  · simp only [Writer.withCount, if_neg short]
    exact blindNext

/-! ## Writers and passes -/

theorem writeRun (name : String) (offset width total : Nat) (components : List Binary32) :
    Blind fun buffer => buffer.writeRun name offset width total components := by
  apply withSpan
  intro size
  rcases store offset (components.take width) with ⟨overlay, stored⟩
  by_cases short : components.length < width
  · refine ⟨overlay, some (.valueShape name width total), ?_⟩
    intro buffer _
    dsimp only
    rw [stored, if_pos short]
    rfl
  · refine ⟨overlay, none, ?_⟩
    intro buffer _
    dsimp only
    rw [stored, if_neg short]
    rfl

theorem writeRows (name : String) (width pitch total rows offset : Nat)
    (components : List Binary32) :
    Blind (Buffer.writeRows name width pitch total rows offset components) := by
  induction rows generalizing offset components with
  | zero => exact done
  | succ rows ih => exact (writeRun name offset width total components).andThen (ih _ _)

/-- Every writer is blind. -/
theorem run (writer : Writer) (name : String) (offset : Nat) (value : Value) :
    Blind (writer.run name offset value) := by
  have wrongKind (expected : String) : Blind fun buffer =>
      .failed buffer (.valueKind name expected) := failed fun _ => .valueKind name expected
  cases writer with
  | vector components => exact withCount _ _ _ (writeRun _ _ _ _ _)
  | matrix columns rows stride =>
      rw [Writer.run_matrix]
      exact withCount _ _ _ (withSpan _ _ _ (writeRows _ _ _ _ _ _ _))
  | strided pattern checked =>
      exact withCount _ _ _ (withSpan _ _ _ (writeRows _ _ _ _ _ _ _))
  | affine =>
      cases value
      case affine =>
        rw [Writer.run_affine]
        exact withSpan _ _ _ (writeRows _ _ _ _ _ _ _)
      all_goals exact wrongKind _
  | rect =>
      cases value
      case rect => exact writeRun _ _ _ _ _
      all_goals exact wrongKind _
  | point =>
      cases value
      case point => exact writeRun _ _ _ _ _
      all_goals exact wrongKind _
  | color channels =>
      cases value
      case color => exact writeRun _ _ _ _ _
      all_goals exact wrongKind _

theorem writeEntries (source : Source) (base : Nat) (entries : List PlanEntry) :
    Blind (Plan.writeEntries source base entries) := by
  induction entries with
  | nil => exact done
  | cons entry rest ih =>
      cases found : source entry.name with
      | none =>
          simp only [Plan.writeEntries, found]
          exact failed fun _ => .notFound entry.name
      | some value =>
          simp only [Plan.writeEntries, found]
          exact (run entry.writer entry.name (base + entry.offset) value).andThen ih

/-! ## Consequences -/

variable {write : Buffer → WriteResult}

/-- No write changes the size of the buffer. -/
theorem size_eq (blind : Blind write) (buffer : Buffer) :
    (write buffer).buffer.size = buffer.size := by
  rcases blind buffer.size with ⟨overlay, failure?, writes⟩
  rw [writes buffer rfl]
  exact Overlay.size_onto overlay buffer

/-- Buffers of the same size meet the same failure. -/
theorem failure?_eq (blind : Blind write) {buffer current : Buffer}
    (sized : current.size = buffer.size) :
    (write current).failure? = (write buffer).failure? := by
  rcases blind buffer.size with ⟨overlay, failure?, writes⟩
  rw [writes buffer rfl, writes current sized]

/-- Repeating a write ends in the same way and changes nothing. -/
theorem again (blind : Blind write) (buffer : Buffer) :
    write (write buffer).buffer = write buffer := by
  rcases blind buffer.size with ⟨overlay, failure?, writes⟩
  rw [writes buffer rfl, writes _ (Overlay.size_onto overlay buffer), Overlay.onto_onto_self]

end Blind

end UniformBlock
