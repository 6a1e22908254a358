import UniformBlock.Proofs.CoveringWrites
import UniformBlock.Proofs.Passes

/-!
# Repeated passes

A pass fills some slots and keeps the others.  Which slots it fills, and with what, does
not depend on what the buffer held before, even when its uniforms overlap or when it is
stopped in the middle of an array.  A second pass therefore ends like the first one and
changes nothing.
-/

namespace UniformBlock

/-- Whether a write fills a slot of a buffer: what the slot held before cannot be told from
what it holds afterwards. -/
def Fills (write : Buffer → WriteResult) (buffer : Buffer) (slot : Nat) : Prop :=
  slot < buffer.size ∧ ∀ component,
    (write (buffer.setIfInBounds slot component)).buffer[slot]? = (write buffer).buffer[slot]?

/-- A write that does the same to two buffers. -/
structure WritesAlike (write : Buffer → WriteResult) (first second : Buffer) : Prop where
  failure : (write first).failure? = (write second).failure?
  fills : ∀ slot, Fills write first slot ↔ Fills write second slot
  filled : ∀ slot, Fills write first slot →
    (write first).buffer[slot]? = (write second).buffer[slot]?
  kept : ∀ slot, ¬ Fills write first slot →
    (write first).buffer[slot]? = first[slot]? ∧ (write second).buffer[slot]? = second[slot]?

namespace Overlay

variable {overlay : Overlay} {buffer : Buffer} {slot : Nat}

theorem getElem?_onto_of_some {component : Binary32} (covered : overlay slot = some component)
    (inside : slot < buffer.size) : (overlay.onto buffer)[slot]? = some component := by
  rw [getElem?_onto, Array.getElem?_eq_getElem inside, covered]
  rfl

theorem getElem?_onto_of_not_covered (free : ¬ (slot < buffer.size ∧ (overlay slot).isSome)) :
    (overlay.onto buffer)[slot]? = buffer[slot]? := by
  rw [getElem?_onto]
  cases covered : overlay slot with
  | none => exact Option.map_id'
  | some component =>
      have outside : ¬ slot < buffer.size := fun inside =>
        free ⟨inside, covered ▸ rfl⟩
      rw [Array.getElem?_eq_none (Nat.le_of_not_lt outside)]
      rfl

end Overlay

namespace Blind

variable {write : Buffer → WriteResult}

/-- A blind write fills the slots that it puts something into. -/
theorem fills_iff {size : Nat} {overlay : Overlay} {failure? : Option SyncError}
    (writes : ∀ current : Buffer, current.size = size →
      write current = ⟨overlay.onto current, failure?⟩)
    {buffer : Buffer} (sized : buffer.size = size) (slot : Nat) :
    Fills write buffer slot ↔ slot < size ∧ (overlay slot).isSome := by
  have sizedAnew (component : Binary32) : (buffer.setIfInBounds slot component).size = size :=
    Array.size_setIfInBounds.trans sized
  rw [← sized]
  constructor
  · rintro ⟨inside, settled⟩
    refine ⟨inside, ?_⟩
    by_cases covered : (overlay slot).isSome
    · exact covered
    -- A slot that is not covered would show two different contents.
    have shown (component : Binary32) : (write buffer).buffer[slot]? = some component := by
      rw [← settled component, writes _ (sizedAnew component),
        Overlay.getElem?_onto_of_not_covered fun both => covered both.2]
      exact Array.getElem?_setIfInBounds_self_of_lt inside
    exact absurd ((shown .zero).symm.trans (shown .one)) (by decide)
  · rintro ⟨inside, covered⟩
    obtain ⟨content, covered⟩ := Option.isSome_iff_exists.mp covered
    refine ⟨inside, ?_⟩
    intro component
    rw [writes _ (sizedAnew component), writes buffer sized,
      Overlay.getElem?_onto_of_some covered inside,
      Overlay.getElem?_onto_of_some covered (by rwa [sizedAnew, ← sized])]

/-- Storing components fills their slots. -/
theorem fills_store_iff {offset : Nat} {components : List Binary32} {buffer : Buffer} {slot : Nat} :
    Fills (fun buffer => .done (buffer.store offset components)) buffer slot ↔
      slot < buffer.size ∧ offset ≤ slot ∧ slot < offset + components.length := by
  have writes : ∀ current : Buffer, current.size = buffer.size →
      WriteResult.done (current.store offset components) =
        ⟨(Overlay.consecutive offset components).onto current, none⟩ := by
    intro current _
    rw [Overlay.store_eq_onto]
    rfl
  rw [fills_iff writes rfl, ← Option.ne_none_iff_isSome, ne_eq, Overlay.consecutive_eq_none_iff,
    not_or, Nat.not_lt, Nat.not_le]

/-- Two writes in a row fill what either of them fills, unless the first one stops. -/
theorem fills_andThen_iff {next : Buffer → WriteResult} (blind : Blind write)
    (blindNext : Blind next) (buffer : Buffer) (slot : Nat) :
    Fills (fun buffer => (write buffer).andThen next) buffer slot ↔
      Fills write buffer slot ∨
        ((write buffer).failure? = none ∧ Fills next (write buffer).buffer slot) := by
  have sizedNext := blind.size_eq buffer
  obtain ⟨lower, failure?, writes⟩ := blind buffer.size
  obtain ⟨upper, nextFailure?, writesNext⟩ := blindNext buffer.size
  rw [fills_iff writes rfl, fills_iff writesNext sizedNext]
  cases failure? with
  | some error =>
      have stops : ∀ current : Buffer, current.size = buffer.size →
          (write current).andThen next = ⟨lower.onto current, some error⟩ := by
        intro current sized
        rw [writes current sized]
        rfl
      rw [fills_iff stops rfl, writes buffer rfl]
      simp
  | none =>
      have continues : ∀ current : Buffer, current.size = buffer.size →
          (write current).andThen next = ⟨(upper.above lower).onto current, nextFailure?⟩ := by
        intro current sized
        rw [writes current sized, ← Overlay.onto_onto,
          ← writesNext _ ((Overlay.size_onto lower current).trans sized)]
        rfl
      rw [fills_iff continues rfl, writes buffer rfl, Overlay.above, Option.isSome_or,
        Bool.or_eq_true, and_or_left, or_comm]
      simp

/-- A blind write does the same to all buffers of one size. -/
theorem writesAlike (blind : Blind write) {first second : Buffer}
    (sized : first.size = second.size) : WritesAlike write first second := by
  obtain ⟨overlay, failure?, writes⟩ := blind second.size
  have onFirst := writes first sized
  have onSecond := writes second rfl
  have covers := fills_iff writes sized
  constructor
  case failure => rw [onFirst, onSecond]
  case fills =>
      intro slot
      rw [covers slot, fills_iff writes rfl slot]
  case filled =>
      intro slot fills
      obtain ⟨inside, covered⟩ := (covers slot).mp fills
      obtain ⟨content, covered⟩ := Option.isSome_iff_exists.mp covered
      rw [onFirst, onSecond, Overlay.getElem?_onto_of_some covered (by rwa [sized]),
        Overlay.getElem?_onto_of_some covered inside]
  case kept =>
      intro slot notFilled
      rw [covers slot] at notFilled
      rw [onFirst, onSecond]
      exact ⟨Overlay.getElem?_onto_of_not_covered (by rwa [sized]),
        Overlay.getElem?_onto_of_not_covered notFilled⟩

end Blind

namespace Plan

/-- A pass fills what its first entry fills and, unless it stops there, what the others fill. -/
theorem fills_cons_iff (source : Source) (base : Nat) (entry : PlanEntry) (rest : List PlanEntry)
    (buffer : Buffer) (slot : Nat) :
    Fills (writeEntries source base (entry :: rest)) buffer slot ↔
      Fills (writeEntries source base [entry]) buffer slot ∨
        ((writeEntries source base [entry] buffer).failure? = none ∧
          Fills (writeEntries source base rest)
            (writeEntries source base [entry] buffer).buffer slot) := by
  rw [funext (writeEntries_cons source base entry rest)]
  exact Blind.fills_andThen_iff (.writeEntries source base [entry])
    (.writeEntries source base rest) buffer slot

/-- Running a pass twice is running it once, and on two buffers of one size it fills the same
slots with the same contents and ends in the same way. -/
theorem run_idempotent_blind (plan : Plan) (source : Source) (base : Nat) {first second : Buffer}
    (sized : first.size = second.size) :
    plan.run source base (plan.run source base first).buffer = plan.run source base first ∧
      WritesAlike (plan.run source base) first second := by
  have blind : Blind (plan.run source base) := .writeEntries source base plan.entries
  exact ⟨blind.again first, blind.writesAlike sized⟩

/-- A scalar, and two rows of two floats on top of it. -/
def coveredGain : Plan where
  convention := .std140
  entries := [⟨"gain", 1, .direct, .vector 1⟩, ⟨"rows", 0, .array, .strided ⟨2, 2, 2⟩ false⟩]

/-- Values for them; the second row is too short. -/
def gainAndShortRows : Source := fun name =>
  if name = "gain" then some (.scalar .one) else some (.flat [.one, .zero, .one])

/-- The pass stops in the second row, over zeros as well as over ones, and it fills the slot
of the scalar. -/
theorem run_over_zeros_and_ones :
    (Array.replicate 6 Binary32.zero).size = (Array.replicate 6 Binary32.one).size ∧
      coveredGain.run gainAndShortRows 0 (Array.replicate 6 .zero) =
        .failed #[.one, .zero, .zero, .zero, .one, .zero] (.valueShape "rows" 2 3) ∧
      coveredGain.run gainAndShortRows 0 (Array.replicate 6 .one) =
        .failed #[.one, .zero, .one, .one, .one, .one] (.valueShape "rows" 2 3) ∧
      coveredGain.run gainAndShortRows 0 #[.one, .zero, .zero, .zero, .one, .zero] =
        .failed #[.one, .zero, .zero, .zero, .one, .zero] (.valueShape "rows" 2 3) ∧
      Fills (coveredGain.run gainAndShortRows 0) (Array.replicate 6 .one) 1 := by
  have sized : (Array.replicate 6 Binary32.zero).size = (Array.replicate 6 Binary32.one).size := by
    simp
  obtain ⟨again, alike⟩ := run_idempotent_blind coveredGain gainAndShortRows 0 sized
  have fills : Fills (coveredGain.run gainAndShortRows 0) (Array.replicate 6 .zero) 1 :=
    ⟨by simp, fun _ => rfl⟩
  exact ⟨sized, rfl, rfl, again, (alike.fills 1).mp fills⟩

end Plan

end UniformBlock
