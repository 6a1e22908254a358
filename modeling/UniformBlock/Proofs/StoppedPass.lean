import UniformBlock.Proofs.BlindWrites
import UniformBlock.Proofs.Confinement
import UniformBlock.Proofs.Passes
import UniformBlock.Proofs.RelatedRuns

/-!
# Stopped passes

A writer that refuses short values at once has checked everything when it writes
its first row, so it fails without touching the buffer.  A pass of such writers
stops between two uniforms: its first entries are written as a whole, and the
failure is about the next one.
-/

namespace UniformBlock

namespace Writer

variable {writer : Writer} {name : String} {offset : Nat} {value : Value} {buffer : Buffer}
  {error : SyncError}

/-- A writer that refuses short values at once fails before it writes anything. -/
theorem run_untouched (regular : writer.Regular) (refuses : writer.refusesShort = true)
    (failed : (writer.run name offset value buffer).failure? = some error) :
    writer.run name offset value buffer = .failed buffer error := by
  have untouched : (writer.run name offset value buffer).buffer = buffer := by
    cases accepted : writer.parts? value with
    | none =>
        obtain ⟨expected, refused⟩ := run_of_parts?_eq_none accepted name offset buffer
        rw [refused]
        rfl
    | some components =>
        rw [run_eq_strided regular accepted, run_strided, refuses] at failed ⊢
        split
        · rfl
        · rename_i enough
          rw [if_neg enough] at failed
          split
          · rfl
          · rename_i room
            -- What is left to fail is a short value, and it was refused before.
            rw [if_neg room] at failed
            dsimp only at failed
            rw [if_neg fun short => enough ⟨rfl, short⟩] at failed
            cases failed
  have stopped := WriteResult.eq_failed_of_stopped failed
  rwa [untouched] at stopped

end Writer

namespace Plan

/-- The plan without the entries from an index on. -/
def truncate (plan : Plan) (count : Nat) : Plan :=
  { plan with entries := plan.entries.take count }

variable {source : Source} {base : Nat} {buffer : Buffer} {error : SyncError}

/-- An entry that cannot be written leaves the buffer as it was.  It fails for lack
of a value exactly when the source has none. -/
theorem writeEntry_stops {entry : PlanEntry} (regular : entry.writer.Regular)
    (refuses : entry.writer.refusesShort = true)
    (failed : (writeEntries source base [entry] buffer).failure? = some error) :
    error.name = entry.name ∧ (error = .notFound entry.name ↔ source entry.name = none) ∧
      writeEntries source base [entry] buffer = .failed buffer error := by
  cases found : source entry.name with
  | none =>
      rw [writeEntries_of_missing found] at failed ⊢
      cases failed
      exact ⟨rfl, iff_of_true rfl rfl, rfl⟩
  | some value =>
      have alone : writeEntries source base [entry] buffer =
          entry.writer.run entry.name (base + entry.offset) value buffer := by
        rw [writeEntries_of_found found]
        exact WriteResult.andThen_done _
      rw [alone] at failed ⊢
      obtain ⟨named, present⟩ := Writer.failure_of_run regular failed
      exact ⟨named, iff_of_false present (Option.some_ne_none value),
        Writer.run_untouched regular refuses failed⟩

/-- A pass of such entries stops between two of them. -/
theorem writeEntries_stops {entries : List PlanEntry}
    (refusing : ∀ entry ∈ entries, entry.writer.Regular ∧ entry.writer.refusesShort = true)
    (failed : (writeEntries source base entries buffer).failure? = some error) :
    ∃ (k : Nat) (entry : PlanEntry), entries[k]? = some entry ∧ error.name = entry.name ∧
      (error = .notFound entry.name ↔ source entry.name = none) ∧
      ∀ current : Buffer, current.size = buffer.size →
        ∃ after, writeEntries source base (entries.take k) current = .done after ∧
          writeEntries source base entries current = .failed after error := by
  induction entries generalizing buffer with
  | nil => cases failed
  | cons entry rest ih =>
      obtain ⟨regular, refuses⟩ := refusing entry List.mem_cons_self
      have blind := Blind.writeEntries source base [entry]
      rw [writeEntries_cons] at failed
      cases ended : (writeEntries source base [entry] buffer).failure? with
      | some own =>
          rw [WriteResult.andThen_of_failure ended, ended] at failed
          cases failed
          obtain ⟨named, cause, -⟩ := writeEntry_stops regular refuses ended
          refine ⟨0, entry, rfl, named, cause, ?_⟩
          intro current sized
          have endedAlike := (blind.failure?_eq sized).trans ended
          obtain ⟨-, -, untouched⟩ := writeEntry_stops regular refuses endedAlike
          refine ⟨current, rfl, ?_⟩
          rw [writeEntries_cons, untouched, WriteResult.failed_andThen]
      | none =>
          rw [WriteResult.eq_done_of_succeeded ended, WriteResult.done_andThen] at failed
          have refusingRest : ∀ later ∈ rest,
              later.writer.Regular ∧ later.writer.refusesShort = true :=
            fun later member => refusing later (List.mem_cons_of_mem _ member)
          obtain ⟨k, stopping, position, named, cause, stops⟩ := ih refusingRest failed
          refine ⟨k + 1, stopping, position, named, cause, ?_⟩
          intro current sized
          have endedAlike := (blind.failure?_eq sized).trans ended
          have sizedNext := ((blind.size_eq current).trans sized).trans
            (blind.size_eq buffer).symm
          obtain ⟨after, written, stopped⟩ := stops _ sizedNext
          refine ⟨after, ?_, ?_⟩
          · rw [List.take_succ_cons, writeEntries_cons,
              WriteResult.eq_done_of_succeeded endedAlike]
            exact written
          · rw [writeEntries_cons, WriteResult.eq_done_of_succeeded endedAlike]
            exact stopped

/-- A pass over a plan of built-in writers with checked lengths stops at one entry. -/
theorem run_stops_at_entry {dispatch : Dispatch} (builtIn : dispatch.BuiltIn true)
    {elements : List Element} {plan : Plan} (compiled : compile dispatch elements = .ok plan)
    (failed : (plan.run source base buffer).failure? = some error) :
    ∃ (k : Nat) (entry : PlanEntry), plan.entries[k]? = some entry ∧ error.name = entry.name ∧
      (error = .notFound entry.name ↔ source entry.name = none) ∧
      ∀ current : Buffer, current.size = buffer.size →
        ∃ after, (plan.truncate k).run source base current = .done after ∧
          plan.run source base current = .failed after error := by
  apply writeEntries_stops _ failed
  intro entry member
  obtain ⟨element, -, entryFor⟩ := compile_last compiled member
  obtain ⟨-, -, chosen⟩ := Dispatch.entryFor_eq_ok entryFor
  obtain ⟨regular, refuses⟩ := builtIn.chosen_writer chosen
  exact ⟨regular, refuses rfl⟩

/-! ## Stopping on machine words -/

/-- Buffers of one size are written alike. -/
theorem bridge_size : Bridge 0 fun current buffer : Buffer => current.size = buffer.size where
  size current buffer same := by rw [same, Nat.zero_add]
  store current buffer offset components same := by
    rw [Buffer.size_store, Buffer.size_store, same]

/-- Where a pass ends does not depend on what the buffer holds. -/
theorem machineRun_ends_alike {plan : Plan} {current : Buffer} {result : WriteResult}
    (ends : plan.machineRun .checked source base buffer = .ok result)
    (sized : current.size = buffer.size) :
    ∃ other, plan.machineRun .checked source base current = .ok other := by
  have tracked := bridge_size.writeEntries source base plan.entries
  rw [Nat.zero_add] at tracked
  obtain ⟨other, endsAlike, -⟩ := tracked sized.symm ends
  exact ⟨other, endsAlike⟩

/-- A pass that comes to its end does so with fewer entries. -/
theorem machineWriteEntries_take {entries : List PlanEntry} {result : WriteResult}
    (ends : machineWriteEntries .checked source base entries buffer = .ok result) (count : Nat) :
    ∃ part, machineWriteEntries .checked source base (entries.take count) buffer = .ok part := by
  induction entries generalizing buffer count with
  | nil => exact ⟨result, by rwa [List.take_nil]⟩
  | cons entry rest ih =>
      cases count with
      | zero => exact ⟨_, rfl⟩
      | succ count =>
          rw [List.take_succ_cons, machineWriteEntries]
          rw [machineWriteEntries] at ends
          cases found : source entry.name with
          | none => exact ⟨_, rfl⟩
          | some value =>
              rw [found] at ends
              obtain ⟨offset, added, ends⟩ := bind_eq_ok ends
              obtain ⟨⟨between, failure?⟩, written, ends⟩ := bind_eq_ok ends
              dsimp only
              rw [added, ok_bind, written, ok_bind]
              cases failure? with
              | some failure => exact ⟨_, rfl⟩
              | none => exact ih ends count

/-- A pass over a plan of built-in writers with checked lengths stops at one entry.
The failure is about that entry, and says that its value is missing exactly when it
is.  On every buffer of the size, the pass leaves what the earlier entries alone
would have written, so neither this entry nor a later one puts anything.  This holds in
every build, as long as the one with checks does not stop at an overflow. -/
theorem machine_run_stops_at_entry {dispatch : Dispatch} (builtIn : dispatch.BuiltIn true)
    {elements : List Element} {plan : Plan} (compiled : compile dispatch elements = .ok plan)
    {result : WriteResult} (ends : plan.machineRun .checked source base buffer = .ok result)
    (failed : result.failure? = some error) :
    ∃ (k : Nat) (entry : PlanEntry), plan.entries[k]? = some entry ∧ error.name = entry.name ∧
      (error = .notFound entry.name ↔ source entry.name = none) ∧
      ∀ current : Buffer, current.size = buffer.size →
        ∃ after, ∀ build,
          (plan.truncate k).machineRun build source base current = .ok (.done after) ∧
          plan.machineRun build source base current = .ok (.failed after error) := by
  obtain ⟨exactly, -⟩ := (plan.follows_run source base buffer).of_checked_ok ends
  cases exactly
  obtain ⟨k, entry, position, named, cause, stops⟩ := run_stops_at_entry builtIn compiled failed
  refine ⟨k, entry, position, named, cause, ?_⟩
  intro current sized
  obtain ⟨after, truncated, whole⟩ := stops current sized
  obtain ⟨other, endsAlike⟩ := machineRun_ends_alike ends sized
  obtain ⟨part, endsEarly⟩ := machineWriteEntries_take endsAlike k
  obtain ⟨exactly, everywhere⟩ := (plan.follows_run source base current).of_checked_ok endsAlike
  obtain ⟨exactlyEarly, everywhereEarly⟩ :=
    ((plan.truncate k).follows_run source base current).of_checked_ok endsEarly
  cases exactly
  cases exactlyEarly
  rw [whole] at everywhere
  rw [truncated] at everywhereEarly
  exact ⟨after, fun build => ⟨everywhereEarly build, everywhere build⟩⟩

/-- Base sizes under which an array of vectors of three has rows of two floats. -/
def narrowSizes : BaseSizes :=
  BaseSizes.empty.insert (.vector .f32 3) 12

/-- Writers that mix the tables of both conventions. -/
def mixedDispatch : Dispatch where
  specialists := [.colorRgb]
  direct := .wgsl
  arrays := narrowSizes.machineArrayWriters .wrapping true

theorem builtIn_mixedDispatch : mixedDispatch.BuiltIn true where
  specialists specialist registered := by
    rw [List.mem_singleton.mp registered]
    simp [Specialist.standard]
  direct _ _ known := ⟨.wgsl, known⟩
  arrays := ⟨.wrapping, .inl ⟨narrowSizes, rfl⟩⟩

/-- A scalar, an array whose sample gives two floats to each of its two rows, and a
color that overlaps the scalar. -/
def mixedElements : List Element :=
  [{ name := "gain", type := .scalar .f32, count := 1, value := .scalar .one, byteOffset := 6 },
    { name := "rows", type := .vector .f32 3, count := 2,
      value := .flat [.one, .one, .one, .one], byteOffset := 8 },
    { name := "tint", type := .vector .f32 3, count := 1,
      value := .color .one .one .one .one, byteOffset := 0 }]

/-- The array has one float too few.  It stops the pass before its first row, which
could have been filled, and after the scalar. -/
theorem stops_at_short_rows :
    ∃ plan, mixedDispatch.BuiltIn true ∧ compile mixedDispatch mixedElements = .ok plan ∧
      plan.machineRun .checked Compiler.threeOnes 1 (Array.replicate 9 .zero) =
        .ok (.failed #[.zero, .zero, .one, .zero, .zero, .zero, .zero, .zero, .zero]
          (.valueShape "rows" 4 3)) ∧
      ∃ (k : Nat) (entry : PlanEntry), plan.entries[k]? = some entry ∧ "rows" = entry.name ∧
        (plan.truncate k).machineRun .wrapping Compiler.threeOnes 1 (Array.replicate 9 .zero) =
          .ok (.done #[.zero, .zero, .one, .zero, .zero, .zero, .zero, .zero, .zero]) := by
  have compiled : compile mixedDispatch mixedElements = .ok _ := rfl
  obtain ⟨k, entry, position, named, -, stops⟩ :=
    machine_run_stops_at_entry builtIn_mixedDispatch compiled
      (show machineRun .checked _ Compiler.threeOnes 1 (Array.replicate 9 .zero) =
        .ok (.failed #[.zero, .zero, .one, .zero, .zero, .zero, .zero, .zero, .zero]
          (.valueShape "rows" 4 3)) from rfl) rfl
  obtain ⟨after, everywhere⟩ := stops _ rfl
  have whole : Except.ok (WriteResult.failed
      #[.zero, .zero, .one, .zero, .zero, .zero, .zero, .zero, .zero] (.valueShape "rows" 4 3)) =
        (.ok (.failed after (.valueShape "rows" 4 3)) : WriteAttempt) := (everywhere .checked).2
  cases whole
  exact ⟨_, builtIn_mixedDispatch, compiled, rfl, k, entry, position, named,
    (everywhere .wrapping).1⟩

/-- A size table with an alignment of nearly all words. -/
def distantSizes : AlignSizes :=
  AlignSizes.empty.insert (.scalar .f32) ⟨wordCount - 4, 4⟩

/-- Its writers, with checked lengths. -/
def distantDispatch : Dispatch where
  specialists := []
  direct := .wgsl
  arrays := distantSizes.machineArrayWriters .wrapping true

/-- Five scalars behind three floats. -/
def distantRows : Element :=
  { name := "rows", type := .scalar .f32, count := 5, value := .flat [], byteOffset := 12 }

/-- The end of the span is cut to zero.  A build without checks finds room for it, and writes
the first row before it finds none for the second; one with checks stops. -/
theorem distantRows_half_written :
    ∃ plan, distantDispatch.BuiltIn true ∧ compile distantDispatch [distantRows] = .ok plan ∧
      plan.machineRun .wrapping (fun _ => some (.flat (List.replicate 5 .one))) 0
          (Array.replicate 5 .zero) =
        .ok (.failed #[.zero, .zero, .zero, .one, .zero]
          (.outOfRange "rows" (2 ^ 62 + 2) 1 5)) ∧
      (∀ (k : Nat) (entry : PlanEntry) (after : Buffer) (error : SyncError),
        plan.entries[k]? = some entry →
        (plan.truncate k).machineRun .wrapping (fun _ => some (.flat (List.replicate 5 .one))) 0
            (Array.replicate 5 .zero) = .ok (.done after) →
        plan.machineRun .wrapping (fun _ => some (.flat (List.replicate 5 .one))) 0
            (Array.replicate 5 .zero) ≠ .ok (.failed after error)) ∧
      plan.machineRun .checked (fun _ => some (.flat (List.replicate 5 .one))) 0
          (Array.replicate 5 .zero) = .error (.overflow .add) := by
  have builtIn : distantDispatch.BuiltIn true := {
    specialists := fun _ registered => absurd registered List.not_mem_nil
    direct := fun _ _ known => ⟨.wgsl, known⟩
    arrays := ⟨.wrapping, .inr ⟨distantSizes, rfl⟩⟩ }
  refine ⟨⟨.wgsl, [⟨"rows", 3, .array, .strided ⟨5, 1, 2 ^ 62 - 2⟩ true⟩]⟩, builtIn, rfl, rfl, ?_,
    rfl⟩
  intro k entry after error position truncated stopped
  cases k with
  | zero =>
      cases truncated
      have other : Except.ok (WriteResult.failed #[.zero, .zero, .zero, .one, .zero]
          (.outOfRange "rows" (2 ^ 62 + 2) 1 5)) =
            (.ok (.failed (Array.replicate 5 .zero) error) : WriteAttempt) := stopped
      cases other
  | succ k => cases position

end Plan

end UniformBlock
