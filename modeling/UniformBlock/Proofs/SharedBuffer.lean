import Mathlib.Logic.Function.Basic
import UniformBlock.Proofs.FailedSync
import UniformBlock.Proofs.SetHistory

/-!
# Shared buffers

Several uniform sets may be written into one buffer, and a set may be copied from another
one.  The buffer remembers the change counter of the set that it was last written from,
but not which set that was.  A pass is skipped exactly when the counters agree.  The
buffer then shows the set that it was last written from, unless a later pass was stopped;
that is the set at hand if it descends from that one, and otherwise it can be any set with
as many changes.
-/

namespace UniformBlock

/-! ## Descent -/

namespace UniformSet

/-- Whether a set came about from an earlier one by requests. -/
def Descends (earlier later : UniformSet) : Prop :=
  ∃ requests, later = earlier.afterAll requests

variable {uniforms later : UniformSet}

theorem afterAll_eq_or_changes_lt (uniforms : UniformSet) (requests : List Request) :
    uniforms.afterAll requests = uniforms ∨
      uniforms.changes < (uniforms.afterAll requests).changes := by
  induction requests generalizing uniforms with
  | nil => exact .inl rfl
  | cons request rest ih =>
      rw [afterAll, List.foldl_cons]
      rcases uniforms.after_eq_or_changes_lt request with same | more
      · rw [same]
        exact ih uniforms
      · rcases ih (uniforms.after request) with same | evenMore
        · exact .inr (Nat.lt_of_lt_of_eq more (congrArg changes same).symm)
        · exact .inr (Nat.lt_trans more evenMore)

/-- Among the descendants of a set, the counter tells which are still the same. -/
theorem Descends.eq_of_changes (descends : uniforms.Descends later)
    (same : uniforms.changes = later.changes) : later = uniforms := by
  obtain ⟨requests, rfl⟩ := descends
  rcases uniforms.afterAll_eq_or_changes_lt requests with unchanged | more
  · exact unchanged
  · exact absurd same (Nat.ne_of_lt more)

end UniformSet

/-- A pass from a set that stops keeps the floats that it wrote and the memory of the
buffer. -/
theorem BlockBuffer.syncSet_eq_error {buffer after : BlockBuffer} {plan : Plan}
    {uniforms : UniformSet} {error : SyncError}
    (stopped : buffer.syncSet plan uniforms = (after, .error error)) :
    after.synced? = buffer.synced? ∧
      after.data = (plan.run uniforms.source 0 buffer.data).buffer := by
  rw [syncSet] at stopped
  split at stopped
  · cases stopped
  · dsimp only at stopped
    split at stopped
    · cases stopped
    · cases stopped
      exact ⟨rfl, rfl⟩

theorem BlockBuffer.skips_iff {buffer : BlockBuffer} {plan : Plan} {uniforms : UniformSet} :
    (buffer.syncSet plan uniforms).2 = .ok false ↔ buffer.synced? = some uniforms.changes := by
  rcases buffer.syncSet_cases plan uniforms with
    ⟨shown, skips⟩ | ⟨forgotten, data, -, pass⟩ | ⟨forgotten, data, error, stops⟩
  · rw [skips]
    exact iff_of_true rfl shown
  · rw [pass]
    exact iff_of_false (fun answer => nomatch answer) forgotten
  · rw [stops]
    exact iff_of_false (fun answer => nomatch answer) forgotten

/-! ## Sequences of requests, copies and passes -/

/-- Uniform sets, each with its owner, and the buffer that all of them are written into. -/
structure SharedState (Owner : Type) where
  sets : Owner → UniformSet
  buffer : BlockBuffer

/-- What can happen to uniform sets and their buffer. -/
inductive SharedEvent (Owner : Type) where
  | asked (owner : Owner) (request : UniformSet.Request)
  /-- An owner got a copy of another one's set. -/
  | copied (owner other : Owner)
  /-- A pass from the set of an owner, the set as it was then, and how the pass ended. -/
  | synced (owner : Owner) (uniforms : UniformSet) (answer : Except SyncError Bool)

variable {Owner : Type}

/-- The set that was last written, in a history whose last event comes first. -/
def lastWritten? : List (SharedEvent Owner) → Option UniformSet
  | [] => none
  | .synced _ uniforms (.ok true) :: _ => some uniforms
  | _ :: earlier => lastWritten? earlier

/-- Whether no pass was stopped since a set was last written. -/
def Intact : List (SharedEvent Owner) → Prop
  | [] => True
  | .synced _ _ (.ok true) :: _ => True
  | .synced _ _ (.error _) :: _ => False
  | _ :: earlier => Intact earlier

namespace SharedState

variable [DecidableEq Owner]

/-- One request, one copy or one pass with the given plan. -/
inductive Step (plan : Plan) :
    SharedState Owner → SharedEvent Owner → SharedState Owner → Prop where
  | ask (state : SharedState Owner) (owner : Owner) (request : UniformSet.Request) :
      Step plan state (.asked owner request)
        { state with sets := Function.update state.sets owner ((state.sets owner).after request) }
  | copy (state : SharedState Owner) (owner other : Owner) :
      Step plan state (.copied owner other)
        { state with sets := Function.update state.sets owner (state.sets other) }
  | sync {state : SharedState Owner} (owner : Owner) {after : BlockBuffer}
      {answer : Except SyncError Bool}
      (ended : state.buffer.syncSet plan (state.sets owner) = (after, answer)) :
      Step plan state (.synced owner (state.sets owner) answer) { state with buffer := after }

/-- Where empty sets and a fresh buffer can get; the last event comes first. -/
inductive Reaches (plan : Plan) (data : Buffer) :
    List (SharedEvent Owner) → SharedState Owner → Prop where
  | start : Reaches plan data [] ⟨fun _ => .empty, { data }⟩
  | step {history : List (SharedEvent Owner)} {event : SharedEvent Owner}
      {before after : SharedState Owner} (earlier : Reaches plan data history before)
      (last : Step plan before event after) : Reaches plan data (event :: history) after

/-! ## The invariant -/

/-- What ties a shared buffer to the history of its sets. -/
structure Remembers (plan : Plan) (history : List (SharedEvent Owner)) (buffer : BlockBuffer) :
    Prop where
  /-- The buffer remembers how often the last written set had been changed. -/
  counter : buffer.synced? = (lastWritten? history).map UniformSet.changes
  /-- Another pass from the last written set would succeed. -/
  restored : ∀ shown, lastWritten? history = some shown →
    ∃ image, plan.run shown.source 0 buffer.data = .done image
  /-- It would change nothing, unless a pass was stopped in between. -/
  holds : ∀ shown, lastWritten? history = some shown → Intact history →
    plan.run shown.source 0 buffer.data = .done buffer.data

namespace Remembers

variable {plan : Plan} {history : List (SharedEvent Owner)} {buffer : BlockBuffer}

omit [DecidableEq Owner] in
/-- Every pass keeps what the buffer remembers up to date. -/
theorem sync (remembers : Remembers plan history buffer) (owner : Owner) (uniforms : UniformSet) :
    Remembers plan (.synced owner uniforms (buffer.syncSet plan uniforms).2 :: history)
      (buffer.syncSet plan uniforms).1 := by
  rcases buffer.syncSet_cases plan uniforms with
    ⟨-, skips⟩ | ⟨-, data, writes, pass⟩ | ⟨-, data, error, stops⟩
  · rw [skips]
    exact ⟨remembers.counter, remembers.restored, remembers.holds⟩
  · rw [pass]
    have again := Plan.run_again writes
    constructor
    · rfl
    · rintro shown ⟨⟩
      exact ⟨data, again⟩
    · rintro shown ⟨⟩ -
      exact again
  · -- A pass that stopped may have overwritten what the last written set would bring back.
    have overwritten := (BlockBuffer.syncSet_eq_error stops).2
    dsimp only at overwritten
    rw [stops]
    constructor
    · exact remembers.counter
    · intro shown written
      obtain ⟨image, succeeds⟩ := remembers.restored shown written
      refine ⟨image, ?_⟩
      rw [overwritten]
      exact (Covers.writeEntries shown.source uniforms.source 0 plan.entries).undo succeeds
    · intro shown _ intact
      exact absurd intact id

theorem of_reaches {data : Buffer} {state : SharedState Owner}
    (run : Reaches plan data history state) : Remembers plan history state.buffer := by
  induction run with
  | start =>
      constructor
      · rfl
      · rintro shown ⟨⟩
      · rintro shown ⟨⟩
  | @step history event before after earlier last ih =>
      cases last with
      | ask owner request => exact ⟨ih.counter, ih.restored, ih.holds⟩
      | copy owner other => exact ⟨ih.counter, ih.restored, ih.holds⟩
      | sync owner ended =>
          have synced := ih.sync owner (before.sets owner)
          rw [ended] at synced
          exact synced

end Remembers

/-- A pass is skipped exactly when the set at hand was changed as often as the set that
was last written.  If no pass was stopped since, the buffer then shows that other set, and
it shows the set at hand if this one descends from it.  A pass that writes is right in any
case. -/
theorem skips_on_equal_counters {plan : Plan} {data : Buffer}
    {history : List (SharedEvent Owner)} {state : SharedState Owner}
    (run : Reaches plan data history state) (owner : Owner) :
    ((state.buffer.syncSet plan (state.sets owner)).2 = .ok false ↔
        ∃ shown, lastWritten? history = some shown ∧
          shown.changes = (state.sets owner).changes) ∧
      (∀ shown, lastWritten? history = some shown →
        (∃ image, plan.run shown.source 0 state.buffer.data = .done image) ∧
          (Intact history →
            plan.run shown.source 0 state.buffer.data = .done state.buffer.data) ∧
          (Intact history → shown.Descends (state.sets owner) →
            (state.buffer.syncSet plan (state.sets owner)).2 = .ok false →
            plan.run (state.sets owner).source 0 state.buffer.data =
              .done state.buffer.data)) ∧
      ∀ after, state.buffer.syncSet plan (state.sets owner) = (after, .ok true) →
        plan.run (state.sets owner).source 0 after.data = .done after.data := by
  have remembers := Remembers.of_reaches run
  have skips : (state.buffer.syncSet plan (state.sets owner)).2 = .ok false ↔
      ∃ shown, lastWritten? history = some shown ∧
        shown.changes = (state.sets owner).changes := by
    rw [BlockBuffer.skips_iff, remembers.counter, Option.map_eq_some_iff]
  refine ⟨skips, ?_, ?_⟩
  · intro shown written
    refine ⟨remembers.restored shown written, remembers.holds shown written, ?_⟩
    intro intact descends skipped
    obtain ⟨_, same, counted⟩ := skips.mp skipped
    cases written.symm.trans same
    rw [descends.eq_of_changes counted]
    exact remembers.holds shown written intact
  · intro after succeeded
    exact (BlockBuffer.syncSet_eq_ok succeeded fun notWritten => nomatch notWritten).2

/-- A set is written and copied, and then the copy refuses a value. -/
def copiedAndRefused : List (SharedEvent Bool) :=
  [.asked true (.set "tint" (.scalar .one)), .copied true false,
    .synced false BlockBuffer.gainAndLevel (.ok true),
    .asked false (.declareSingle "level" (.scalar .f32) (.scalar .one)),
    .asked false (.declareSingle "gain" (.scalar .f32) (.scalar .one))]

theorem skips_unchanged_copy :
    ∃ state, Reaches BlockBuffer.gainAndLevelPlan (Array.replicate 4 .zero) copiedAndRefused state ∧
      lastWritten? copiedAndRefused = some BlockBuffer.gainAndLevel ∧ Intact copiedAndRefused ∧
      BlockBuffer.gainAndLevel.Descends (state.sets true) ∧
      (state.buffer.syncSet BlockBuffer.gainAndLevelPlan (state.sets true)).2 = .ok false ∧
      state.buffer.data = #[.one, .one, .zero, .zero] ∧
      BlockBuffer.gainAndLevelPlan.run (state.sets true).source 0 state.buffer.data =
        .done state.buffer.data := by
  have run : Reaches BlockBuffer.gainAndLevelPlan (Array.replicate 4 .zero) copiedAndRefused _ :=
    .step (.step (.step (.step (.step .start (.ask _ false _)) (.ask _ false _))
      (.sync false rfl)) (.copy _ true false)) (.ask _ true _)
  have descends : BlockBuffer.gainAndLevel.Descends _ :=
    ⟨[.set "tint" (.scalar .one)], rfl⟩
  have exactly := skips_on_equal_counters run true
  have skipped := exactly.1.mpr ⟨_, rfl, rfl⟩
  exact ⟨_, run, rfl, trivial, descends, skipped, rfl,
    (exactly.2.1 _ rfl).2.2 trivial descends skipped⟩

/-- A copy gets another value, the other set is changed as well, and then that one is
written. -/
def copiedAndParted : List (SharedEvent Bool) :=
  [.synced false BlockBuffer.gainAndLevel.touch (.ok true), .asked false .touch,
    .asked true (.set "gain" (.scalar .zero)), .copied true false,
    .asked false (.declareSingle "level" (.scalar .f32) (.scalar .one)),
    .asked false (.declareSingle "gain" (.scalar .f32) (.scalar .one))]

/-- A set that is skipped need not be the one that the buffer shows: copies that have been
changed equally often have the same counter. -/
theorem skips_over_another_set :
    ¬ ∀ (compiler : Compiler) (uniforms : UniformSet) (layout : Layout) (plan : Plan)
        (history : List (SharedEvent Bool)) (state : SharedState Bool) (owner : Bool),
      compiler.compileDeclarations uniforms.declarations = .ok (layout, plan) →
      Reaches plan (BlockBuffer.forLayout layout).data history state →
      (state.buffer.syncSet plan (state.sets owner)).2 = .ok false →
      plan.run (state.sets owner).source 0 state.buffer.data = .done state.buffer.data := by
  intro always
  have run : Reaches BlockBuffer.gainAndLevelPlan (Array.replicate 4 .zero) copiedAndParted _ :=
    .step (.step (.step (.step (.step (.step .start (.ask _ false _)) (.ask _ false _))
      (.copy _ true false)) (.ask _ true _)) (.ask _ false _)) (.sync false rfl)
  have shown := always {} BlockBuffer.gainAndLevel _ BlockBuffer.gainAndLevelPlan copiedAndParted _
    true rfl run rfl
  exact absurd shown (by decide)

end SharedState

end UniformBlock
