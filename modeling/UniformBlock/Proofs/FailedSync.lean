import UniformBlock.Compiler
import UniformBlock.Proofs.CoveringWrites
import UniformBlock.Proofs.SkippedSync

/-!
# Failed synchronisation

A pass from another source that stops leaves what it has written, and it leaves
the memory of the buffer as well.  A set that the buffer showed before is then
taken as shown until it changes.  That is right exactly when the stopped pass
wrote nothing new: a pass from the set would bring back the floats that the
buffer had.
-/

namespace UniformBlock

namespace BlockBuffer

variable {buffer after : BlockBuffer} {plan : Plan}

/-- A pass that stops keeps the floats that it wrote and the memory of the buffer. -/
theorem sync_eq_error {source : Source} {error : SyncError}
    (stopped : buffer.sync plan source = (after, some error)) :
    after.synced? = buffer.synced? ∧
      after.data = (plan.run source 0 buffer.data).buffer := by
  rw [sync] at stopped
  split at stopped
  · cases stopped
  · cases stopped
    exact ⟨rfl, rfl⟩

/-- A pass from a set that succeeds makes the buffer remember the set.  The buffer
then holds the values of the set, if a pass was not skipped wrongly. -/
theorem syncSet_eq_ok {uniforms : UniformSet} {written : Bool}
    (succeeded : buffer.syncSet plan uniforms = (after, .ok written))
    (rightly : written = false →
      plan.run uniforms.source 0 buffer.data = .done buffer.data) :
    after.synced? = some uniforms.changes ∧
      plan.run uniforms.source 0 after.data = .done after.data := by
  rcases buffer.syncSet_cases plan uniforms with
    ⟨shown, skips⟩ | ⟨-, data, writes, pass⟩ | ⟨-, data, error, stops⟩
  · rw [skips] at succeeded
    cases succeeded
    exact ⟨shown, rightly rfl⟩
  · rw [pass] at succeeded
    cases succeeded
    exact ⟨rfl, Plan.run_again writes⟩
  · rw [stops] at succeeded
    cases succeeded

/-- A buffer that remembers another change is written. -/
theorem written_of_syncSet {uniforms : UniformSet} {written : Bool}
    (forgotten : buffer.synced? ≠ some uniforms.changes)
    (succeeded : buffer.syncSet plan uniforms = (after, .ok written)) : written = true := by
  rcases buffer.syncSet_cases plan uniforms with
    ⟨shown, -⟩ | ⟨-, data, -, pass⟩ | ⟨-, data, error, stops⟩
  · exact absurd shown forgotten
  · rw [pass] at succeeded
    cases succeeded
    rfl
  · rw [stops] at succeeded
    cases succeeded

/-- After a pass from another source has stopped, the unchanged set is not
written, although a pass from it would bring back the floats that the buffer
showed; so the buffer is right exactly when the stopped pass left those floats as
they were.  Once the set has changed, a pass that succeeds is right again. -/
theorem syncSet_after_failed_sync {uniforms : UniformSet} {source : Source} {written : Bool}
    {error : SyncError} {shown left : BlockBuffer}
    (succeeded : buffer.syncSet plan uniforms = (shown, .ok written))
    (rightly : written = false →
      plan.run uniforms.source 0 buffer.data = .done buffer.data)
    (stopped : shown.sync plan source = (left, some error)) :
    left.syncSet plan uniforms = (left, .ok false) ∧
      plan.run uniforms.source 0 left.data = .done shown.data ∧
      (plan.run uniforms.source 0 left.data = .done left.data ↔ left.data = shown.data) ∧
      ∀ later written after, later.changes ≠ uniforms.changes →
        left.syncSet plan later = (after, .ok written) →
        written = true ∧ plan.run later.source 0 after.data = .done after.data := by
  obtain ⟨remembered, holds⟩ := syncSet_eq_ok succeeded rightly
  obtain ⟨sameMemory, overwritten⟩ := sync_eq_error stopped
  have skipped : left.synced? = some uniforms.changes := sameMemory.trans remembered
  have restored : plan.run uniforms.source 0 left.data = .done shown.data := by
    rw [overwritten]
    exact (Covers.writeEntries uniforms.source source 0 plan.entries).undo holds
  refine ⟨if_pos skipped, restored, ?_, ?_⟩
  · rw [restored]
    constructor
    · intro same
      exact (congrArg WriteResult.buffer same).symm
    · intro same
      rw [same]
  · intro later answer after changed answered
    have forgotten : left.synced? ≠ some later.changes := by
      intro known
      exact changed (Option.some.inj (known.symm.trans skipped))
    have wrote := written_of_syncSet forgotten answered
    refine ⟨wrote, (syncSet_eq_ok answered ?_).2⟩
    intro notWritten
    cases wrote.symm.trans notWritten

/-- Two scalars. -/
def gainAndLevel : UniformSet :=
  (UniformSet.empty.declare ⟨"gain", .scalar .f32, 1, .scalar .one⟩).declare
    ⟨"level", .scalar .f32, 1, .scalar .one⟩

/-- The plan that they are compiled into. -/
def gainAndLevelPlan : Plan where
  convention := .std140
  entries := [⟨"gain", 0, .direct, .vector 1⟩, ⟨"level", 1, .direct, .vector 1⟩]

/-- A value for one of them only. -/
def gainOnly : Source := fun name =>
  if name = "gain" then some (.scalar .zero) else none

/-- The set is not written over the gain that the stopped pass has left. -/
theorem syncSet_after_missing_level :
    ∃ shown left,
      (zeroed 4).syncSet gainAndLevelPlan gainAndLevel = (shown, .ok true) ∧
      shown.sync gainAndLevelPlan gainOnly = (left, some (.notFound "level")) ∧
      left.data = #[.zero, .one, .zero, .zero] ∧
      left.syncSet gainAndLevelPlan gainAndLevel = (left, .ok false) ∧
      gainAndLevelPlan.run gainAndLevel.source 0 left.data =
        .done #[.one, .one, .zero, .zero] := by
  have succeeded : (zeroed 4).syncSet gainAndLevelPlan gainAndLevel =
      (⟨#[.one, .one, .zero, .zero], some 2⟩, .ok true) := rfl
  have stopped : BlockBuffer.sync ⟨#[.one, .one, .zero, .zero], some 2⟩ gainAndLevelPlan gainOnly =
      (⟨#[.zero, .one, .zero, .zero], some 2⟩, some (.notFound "level")) := rfl
  have stale := syncSet_after_failed_sync succeeded (fun notWritten => nomatch notWritten) stopped
  exact ⟨_, _, succeeded, stopped, rfl, stale.1, stale.2.1⟩

/-- A set that is skipped after a stopped pass need not be what the buffer holds. -/
theorem skips_over_failed_sync :
    ¬ ∀ (compiler : Compiler) (uniforms : UniformSet) (layout : Layout) (plan : Plan)
        (shown left after : BlockBuffer) (source : Source) (error : SyncError) (written : Bool),
      compiler.compileDeclarations uniforms.declarations = .ok (layout, plan) →
      (forLayout layout).syncSet plan uniforms = (shown, .ok true) →
      shown.sync plan source = (left, some error) →
      left.syncSet plan uniforms = (after, .ok written) →
      plan.run uniforms.source 0 after.data = .done after.data := by
  intro always
  have holds := always {} gainAndLevel _ gainAndLevelPlan _ _ _ gainOnly (.notFound "level") false
    rfl rfl rfl rfl
  exact absurd holds (by decide)

end BlockBuffer

end UniformBlock
