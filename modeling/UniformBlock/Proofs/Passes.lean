import UniformBlock.Plan

/-!
# Passes

A pass writes the entries of a plan one after the other and ends with the first
that fails.  It can therefore be cut at any entry: the later entries are written
on top of what the earlier ones have left, if all of those were written.
-/

namespace UniformBlock

namespace WriteResult

variable {result : WriteResult} {next : Buffer → WriteResult} {after : Buffer}

/-- A write that has stopped is not continued. -/
theorem andThen_of_failure {error : SyncError} (stopped : result.failure? = some error)
    (next : Buffer → WriteResult) : result.andThen next = result := by
  rw [andThen, stopped]

theorem eq_done_of_succeeded (succeeded : result.failure? = none) :
    result = .done result.buffer := by
  rw [done, ← succeeded]

theorem eq_failed_of_stopped {error : SyncError} (stopped : result.failure? = some error) :
    result = .failed result.buffer error := by
  rw [failed, ← stopped]

/-- Two writes in a row succeed exactly when each of them does. -/
theorem andThen_eq_done_iff :
    result.andThen next = .done after ↔
      ∃ between, result = .done between ∧ next between = .done after := by
  cases ended : result.failure? with
  | some error =>
      rw [andThen_of_failure ended]
      constructor
      · rintro rfl
        cases ended
      · rintro ⟨between, rfl, -⟩
        cases ended
  | none =>
      rw [eq_done_of_succeeded ended, done_andThen]
      constructor
      · intro written
        exact ⟨_, rfl, written⟩
      · rintro ⟨between, same, written⟩
        cases same
        exact written

theorem andThen_assoc (result : WriteResult) (next last : Buffer → WriteResult) :
    (result.andThen next).andThen last =
      result.andThen fun buffer => (next buffer).andThen last := by
  cases ended : result.failure? with
  | some error => rw [andThen_of_failure ended, andThen_of_failure ended, andThen_of_failure ended]
  | none => rw [eq_done_of_succeeded ended, done_andThen, done_andThen]

end WriteResult

namespace Plan

variable {source : Source} {entry : PlanEntry}

/-- A value that is found is written before the rest. -/
theorem writeEntries_of_found {value : Value} (found : source entry.name = some value)
    (base : Nat) (rest : List PlanEntry) (buffer : Buffer) :
    writeEntries source base (entry :: rest) buffer =
      (entry.writer.run entry.name (base + entry.offset) value buffer).andThen
        (writeEntries source base rest) := by
  rw [writeEntries, found]

/-- A value that is missing ends the pass. -/
theorem writeEntries_of_missing (missing : source entry.name = none) (base : Nat)
    (rest : List PlanEntry) (buffer : Buffer) :
    writeEntries source base (entry :: rest) buffer =
      .failed buffer (.notFound entry.name) := by
  rw [writeEntries, missing]

/-- A pass may be made in two parts. -/
theorem writeEntries_append (source : Source) (base : Nat) (first second : List PlanEntry)
    (buffer : Buffer) :
    writeEntries source base (first ++ second) buffer =
      (writeEntries source base first buffer).andThen (writeEntries source base second) := by
  induction first generalizing buffer with
  | nil => rfl
  | cons entry rest ih =>
      rw [List.cons_append]
      cases found : source entry.name with
      | none =>
          rw [writeEntries_of_missing found, writeEntries_of_missing found,
            WriteResult.failed_andThen]
      | some value =>
          rw [writeEntries_of_found found, writeEntries_of_found found,
            WriteResult.andThen_assoc]
          congr 1
          funext between
          exact ih between

/-- The first entry of a pass is written alone, and the rest after it. -/
theorem writeEntries_cons (source : Source) (base : Nat) (entry : PlanEntry)
    (rest : List PlanEntry) (buffer : Buffer) :
    writeEntries source base (entry :: rest) buffer =
      (writeEntries source base [entry] buffer).andThen (writeEntries source base rest) :=
  writeEntries_append source base [entry] rest buffer

end Plan

end UniformBlock
