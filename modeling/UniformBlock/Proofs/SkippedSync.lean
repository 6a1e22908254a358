import UniformBlock.BlockBuffer
import UniformBlock.Proofs.BlindWrites

/-!
# Skipped synchronisation

A buffer that shows the last change of a uniform set does not write it again.
This file follows one set and one buffer through any sequence of changes and
passes.  The buffer skips a pass exactly when nothing disturbed it since its last
pass from the set succeeded, and then another pass would not have changed it.
The change counter of a set is a natural number and never wraps around.
-/

namespace UniformBlock

namespace BlockBuffer

/-! ## One pass -/

/-- What a pass from a set can do: skip, write everything, or stop. -/
theorem syncSet_cases (buffer : BlockBuffer) (plan : Plan) (uniforms : UniformSet) :
    (buffer.synced? = some uniforms.changes ∧
        buffer.syncSet plan uniforms = (buffer, .ok false)) ∨
      (buffer.synced? ≠ some uniforms.changes ∧ ∃ data,
        plan.run uniforms.source 0 buffer.data = .done data ∧
        buffer.syncSet plan uniforms =
          ({ data, synced? := some uniforms.changes }, .ok true)) ∨
      (buffer.synced? ≠ some uniforms.changes ∧ ∃ data error,
        buffer.syncSet plan uniforms = ({ buffer with data }, .error error)) := by
  by_cases shown : buffer.synced? = some uniforms.changes
  · exact .inl ⟨shown, if_pos shown⟩
  · have pass : buffer.syncSet plan uniforms = _ := if_neg shown
    rw [pass]
    dsimp only
    cases ended : (plan.run uniforms.source 0 buffer.data).failure? with
    | none =>
        refine .inr (.inl ⟨shown, _, ?_, rfl⟩)
        rw [WriteResult.done, ← ended]
    | some error => exact .inr (.inr ⟨shown, _, error, rfl⟩)

/-- A pass from any source that succeeds leaves the buffer without a set. -/
theorem synced?_of_sync {buffer after : BlockBuffer} {plan : Plan} {source : Source}
    (succeeded : buffer.sync plan source = (after, none)) : after.synced? = none := by
  rw [sync] at succeeded
  split at succeeded
  · cases succeeded
    rfl
  · cases succeeded

end BlockBuffer

/-- Another pass over written data changes nothing. -/
theorem Plan.run_again {plan : Plan} {source : Source} {base : Nat} {before after : Buffer}
    (written : plan.run source base before = .done after) :
    plan.run source base after = .done after := by
  have repeated := (Blind.writeEntries source base plan.entries).again before
  change plan.run source base (plan.run source base before).buffer =
    plan.run source base before at repeated
  rw [written] at repeated
  exact repeated

/-! ## Sequences of changes and passes -/

/-- A uniform set and a buffer that is written from it. -/
structure SyncState where
  uniforms : UniformSet
  buffer : BlockBuffer

/-- What can happen to a uniform set and its buffer. -/
inductive SyncEvent where
  | declared (declaration : Declaration)
  /-- A declared uniform got a new value. -/
  | assigned (name : String) (value : Value)
  /-- A value was refused because its uniform is not declared. -/
  | refused (name : String) (value : Value)
  | touched
  /-- A pass from some source succeeded. -/
  | replaced (source : Source)
  /-- A pass from the set succeeded; the flag tells whether it wrote. -/
  | synced (written : Bool)
  /-- A pass from the set failed. -/
  | failed (error : SyncError)

namespace SyncEvent

/-- Whether a pass from the set succeeded. -/
def isSynced : SyncEvent → Bool
  | synced _ => true
  | _ => false

/-- Whether the set was changed, or the buffer was written from elsewhere. -/
def disturbs : SyncEvent → Bool
  | declared _ => true
  | assigned _ _ => true
  | touched => true
  | replaced _ => true
  | _ => false

end SyncEvent

namespace SyncState

/-- One change or one pass with the given plan. -/
inductive Step (plan : Plan) : SyncState → SyncEvent → SyncState → Prop where
  | declare (uniforms : UniformSet) (buffer : BlockBuffer) (declaration : Declaration) :
      Step plan ⟨uniforms, buffer⟩ (.declared declaration)
        ⟨uniforms.declare declaration, buffer⟩
  | assign {uniforms changed : UniformSet} (buffer : BlockBuffer) {name : String} {value : Value}
      (known : uniforms.set name value = (changed, none)) :
      Step plan ⟨uniforms, buffer⟩ (.assigned name value) ⟨changed, buffer⟩
  | refuse {uniforms left : UniformSet} (buffer : BlockBuffer) {name : String} {value : Value}
      {error : SyncError} (unknown : uniforms.set name value = (left, some error)) :
      Step plan ⟨uniforms, buffer⟩ (.refused name value) ⟨left, buffer⟩
  | touch (uniforms : UniformSet) (buffer : BlockBuffer) :
      Step plan ⟨uniforms, buffer⟩ .touched ⟨uniforms.touch, buffer⟩
  | replace (uniforms : UniformSet) {buffer after : BlockBuffer} {source : Source}
      (succeeded : buffer.sync plan source = (after, none)) :
      Step plan ⟨uniforms, buffer⟩ (.replaced source) ⟨uniforms, after⟩
  | sync {uniforms : UniformSet} {buffer after : BlockBuffer} {written : Bool}
      (succeeded : buffer.syncSet plan uniforms = (after, .ok written)) :
      Step plan ⟨uniforms, buffer⟩ (.synced written) ⟨uniforms, after⟩
  | fail {uniforms : UniformSet} {buffer after : BlockBuffer} {error : SyncError}
      (stopped : buffer.syncSet plan uniforms = (after, .error error)) :
      Step plan ⟨uniforms, buffer⟩ (.failed error) ⟨uniforms, after⟩

/-- Where an empty set and a fresh buffer can get; the last event comes first. -/
inductive Reaches (plan : Plan) (data : Buffer) : List SyncEvent → SyncState → Prop where
  | start : Reaches plan data [] ⟨.empty, { data }⟩
  | step {history : List SyncEvent} {event : SyncEvent} {before after : SyncState}
      (earlier : Reaches plan data history before) (last : Step plan before event after) :
      Reaches plan data (event :: history) after

end SyncState

/-- Whether some pass from the set succeeded and nothing disturbed the set or the
buffer since the last such pass. -/
def Undisturbed (history : List SyncEvent) : Prop :=
  ∃ since last earlier, history = since ++ last :: earlier ∧ last.isSynced = true ∧
    ∀ event ∈ since, event.isSynced = false ∧ event.disturbs = false

theorem not_undisturbed_nil : ¬ Undisturbed [] := by
  rintro ⟨since, last, earlier, split, -, -⟩
  exact absurd split.symm (List.append_ne_nil_of_right_ne_nil _ (List.cons_ne_nil _ _))

theorem undisturbed_cons {event : SyncEvent} {history : List SyncEvent} :
    Undisturbed (event :: history) ↔
      event.isSynced = true ∨ (event.disturbs = false ∧ Undisturbed history) := by
  constructor
  · rintro ⟨since, last, earlier, split, synced, quiet⟩
    cases since with
    | nil =>
        obtain ⟨rfl, rfl⟩ := List.cons_eq_cons.mp split
        exact .inl synced
    | cons first since =>
        obtain ⟨rfl, rfl⟩ := List.cons_eq_cons.mp split
        refine .inr ⟨(quiet event List.mem_cons_self).2, since, last, earlier, rfl, synced, ?_⟩
        intro later member
        exact quiet later (List.mem_cons_of_mem _ member)
  · rintro (synced | ⟨quiet, since, last, earlier, rfl, synced, quietSince⟩)
    · exact ⟨[], event, history, rfl, synced, fun later member => absurd member List.not_mem_nil⟩
    · cases now : event.isSynced with
      | true =>
          exact ⟨[], event, _, rfl, now, fun later member => absurd member List.not_mem_nil⟩
      | false =>
          refine ⟨event :: since, last, earlier, rfl, synced, ?_⟩
          intro later member
          rcases List.mem_cons.mp member with rfl | member
          · exact ⟨now, quiet⟩
          · exact quietSince later member

namespace SyncState

/-! ## The invariant -/

/-- What ties a buffer to the history of its set. -/
structure Faithful (plan : Plan) (history : List SyncEvent) (state : SyncState) : Prop where
  /-- The buffer never remembers a change that is still to come. -/
  bounded : ∀ changes, state.buffer.synced? = some changes → changes ≤ state.uniforms.changes
  remembers : state.buffer.synced? = some state.uniforms.changes ↔ Undisturbed history
  /-- A buffer that remembers the last change holds the values of the set. -/
  holds : state.buffer.synced? = some state.uniforms.changes →
    plan.run state.uniforms.source 0 state.buffer.data = .done state.buffer.data

namespace Faithful

variable {plan : Plan} {history : List SyncEvent}

/-- After a change the buffer remembers at most an earlier one. -/
theorem changed {uniforms later : UniformSet} {buffer : BlockBuffer} {event : SyncEvent}
    (faithful : Faithful plan history ⟨uniforms, buffer⟩)
    (counted : later.changes = uniforms.changes + 1) (notSynced : event.isSynced = false)
    (disturbs : event.disturbs = true) :
    Faithful plan (event :: history) ⟨later, buffer⟩ := by
  have forgotten : buffer.synced? ≠ some later.changes := by
    intro remembered
    have known := faithful.bounded _ remembered
    dsimp only at known
    omega
  constructor
  · intro changes remembered
    have known := faithful.bounded changes remembered
    dsimp only at known ⊢
    omega
  · rw [undisturbed_cons, notSynced, disturbs]
    exact iff_of_false forgotten (by simp)
  · intro remembered
    exact absurd remembered forgotten

/-- An event that touches neither set nor memory changes nothing. -/
theorem quiet {state : SyncState} {event : SyncEvent} (faithful : Faithful plan history state)
    (notSynced : event.isSynced = false) (notDisturbing : event.disturbs = false) :
    Faithful plan (event :: history) state := by
  constructor
  · exact faithful.bounded
  · rw [undisturbed_cons, notSynced, notDisturbing, faithful.remembers]
    simp
  · exact faithful.holds

/-- Every change and every pass keeps the buffer faithful. -/
theorem step {before after : SyncState} {event : SyncEvent}
    (faithful : Faithful plan history before) (last : Step plan before event after) :
    Faithful plan (event :: history) after := by
  cases last with
  | declare uniforms buffer declaration => exact faithful.changed rfl rfl rfl
  | @assign uniforms changed buffer name value known =>
      obtain ⟨declaration, -, rfl⟩ := UniformSet.set_eq_granted known
      exact faithful.changed rfl rfl rfl
  | refuse buffer unknown =>
      obtain ⟨rfl, -⟩ := UniformSet.set_eq_refused_iff.mp unknown
      exact faithful.quiet rfl rfl
  | touch uniforms buffer => exact faithful.changed rfl rfl rfl
  | replace uniforms succeeded =>
      have forgotten := BlockBuffer.synced?_of_sync succeeded
      constructor
      · intro changes remembered
        rw [forgotten] at remembered
        cases remembered
      · rw [undisturbed_cons]
        dsimp only
        rw [forgotten]
        simp [SyncEvent.isSynced, SyncEvent.disturbs]
      · dsimp only
        rw [forgotten]
        intro remembered
        cases remembered
  | @sync uniforms buffer after written succeeded =>
      have synced : Undisturbed (.synced written :: history) := undisturbed_cons.mpr (.inl rfl)
      rcases buffer.syncSet_cases plan uniforms with
        ⟨shown, skips⟩ | ⟨-, data, writes, pass⟩ | ⟨-, data, error, stops⟩
      · rw [skips] at succeeded
        cases succeeded
        exact ⟨faithful.bounded, iff_of_true shown synced, faithful.holds⟩
      · rw [pass] at succeeded
        cases succeeded
        constructor
        · intro changes remembered
          cases remembered
          exact Nat.le_refl _
        · exact iff_of_true rfl synced
        · intro _
          exact Plan.run_again writes
      · rw [stops] at succeeded
        cases succeeded
  | @fail uniforms buffer after error stopped =>
      rcases buffer.syncSet_cases plan uniforms with
        ⟨shown, skips⟩ | ⟨-, data, writes, pass⟩ | ⟨forgotten, data, error, stops⟩
      · rw [skips] at stopped
        cases stopped
      · rw [pass] at stopped
        cases stopped
      · -- A pass that stopped had something to write, so nothing is remembered.
        rw [stops] at stopped
        cases stopped
        constructor
        · exact faithful.bounded
        · rw [undisturbed_cons, ← faithful.remembers]
          simp [SyncEvent.isSynced, SyncEvent.disturbs]
        · intro remembered
          exact absurd remembered forgotten

theorem of_reaches {data : Buffer} {state : SyncState} (run : Reaches plan data history state) :
    Faithful plan history state := by
  induction run with
  | start =>
      constructor
      · intro changes remembered
        cases remembered
      · exact iff_of_false (fun remembered => nomatch remembered) not_undisturbed_nil
      · intro remembered
        cases remembered
  | step earlier last ih => exact ih.step last

end Faithful

/-- A pass from the set is skipped exactly when the buffer is undisturbed, and
after every pass that succeeds the buffer holds the values of the set: another
pass over it succeeds and changes nothing. -/
theorem syncSet_skips_exactly (plan : Plan) (data : Buffer) {history : List SyncEvent}
    {state : SyncState} (run : Reaches plan data history state) :
    ((state.buffer.syncSet plan state.uniforms).2 = .ok false ↔ Undisturbed history) ∧
      ∀ after written, state.buffer.syncSet plan state.uniforms = (after, .ok written) →
        plan.run state.uniforms.source 0 after.data = .done after.data := by
  have faithful := Faithful.of_reaches run
  constructor
  · rw [← faithful.remembers]
    rcases state.buffer.syncSet_cases plan state.uniforms with
      ⟨shown, skips⟩ | ⟨forgotten, data, -, pass⟩ | ⟨forgotten, data, error, stops⟩
    · rw [skips]
      exact iff_of_true rfl shown
    · rw [pass]
      exact iff_of_false (fun answer => nomatch answer) forgotten
    · rw [stops]
      exact iff_of_false (fun answer => nomatch answer) forgotten
  · intro after written succeeded
    have later := faithful.step (.sync succeeded)
    exact later.holds (later.remembers.mpr (undisturbed_cons.mpr (.inl rfl)))

/-- A scalar and a vector in the next row. -/
def twoUniforms : Plan where
  convention := .std140
  entries := [⟨"gain", 0, .direct, .vector 1⟩, ⟨"axis", 4, .direct, .vector 3⟩]

/-- The first pass stops after one uniform, the second one succeeds, and then a
value is refused. -/
def stoppedAndRefused : List SyncEvent :=
  [.refused "tint" (.scalar .one), .synced true,
    .declared ⟨"axis", .vector .f32 3, 1, .flat [.one, .one, .zero]⟩,
    .failed (.notFound "axis"), .declared ⟨"gain", .scalar .f32, 1, .scalar .one⟩]

theorem skips_after_refused_value :
    ∃ state, Reaches twoUniforms (Array.replicate 8 .zero) stoppedAndRefused state ∧
      state.buffer.data = #[.one, .zero, .zero, .zero, .one, .one, .zero, .zero] ∧
      (state.buffer.syncSet twoUniforms state.uniforms).2 = .ok false ∧
      twoUniforms.run state.uniforms.source 0 state.buffer.data = .done state.buffer.data := by
  have run : Reaches twoUniforms (Array.replicate 8 .zero) stoppedAndRefused _ :=
    .step (.step (.step (.step (.step .start (.declare _ _ _)) (.fail rfl))
      (.declare _ _ _)) (.sync rfl)) (.refuse _ rfl)
  have exactly := syncSet_skips_exactly twoUniforms _ run
  have undisturbed : Undisturbed stoppedAndRefused :=
    undisturbed_cons.mpr (.inr ⟨rfl, undisturbed_cons.mpr (.inl rfl)⟩)
  exact ⟨_, run, rfl, exactly.1.mpr undisturbed, exactly.2 _ false rfl⟩

end SyncState

end UniformBlock
