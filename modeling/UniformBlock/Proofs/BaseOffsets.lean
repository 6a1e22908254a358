import UniformBlock.Proofs.RelatedRuns

/-!
# Base offsets

A block may lie anywhere in a larger buffer.  Writing it there is writing it into a
buffer of its own: the floats in front of it stay as they are, and the rest of the buffer
becomes what it would have become alone, also when the pass is stopped.  Only a write that
leaves the buffer tells the difference, since it is reported with a position in the whole
buffer and with the length of the whole buffer.

Offsets are larger behind the floats in front, so it is there that they may outgrow a word.
-/

namespace UniformBlock

/-! ## Floats in front -/

theorem Buffer.store_behind (front buffer : Buffer) (offset : Nat) (components : List Binary32) :
    Buffer.store (front ++ buffer) (front.size + offset) components =
      front ++ buffer.store offset components := by
  induction components generalizing buffer offset with
  | nil => rfl
  | cons component rest ih =>
      rw [store, store, Array.setIfInBounds_append_right (Nat.le_add_right _ _),
        Nat.add_sub_cancel_left, Nat.add_assoc]
      exact ih _ _

/-- Behind some floats a write goes on as it does without them. -/
theorem bridge_behind (front : Buffer) :
    Bridge front.size fun whole buffer => whole = front ++ buffer where
  size whole buffer same := by rw [same, Array.size_append]
  store whole buffer offset components same := by rw [same, Buffer.store_behind]

namespace Plan

/-- A pass over a block behind some floats. -/
theorem machineRun_behind {plan : Plan} {source : Source} {front buffer : Buffer}
    {result : WriteResult}
    (ends : plan.machineRun .checked source front.size (front ++ buffer) = .ok result) :
    ∃ alone, plan.machineRun .checked source 0 buffer = .ok alone ∧
      result.buffer = front ++ alone.buffer ∧
      result.failure? = alone.failure?.map (SyncError.behind front.size) := by
  have tracked : Tracks front.size _
      (machineWriteEntries .checked source (front.size + 0) plan.entries) _ :=
    (bridge_behind front).writeEntries source 0 plan.entries
  obtain ⟨alone, endsAlone, whole, failure⟩ := tracked rfl ends
  exact ⟨alone, endsAlone, whole, failure⟩

/-- A pass at a base offset leaves the floats before it as they are and writes the rest of
the buffer like a buffer of its own.  It ends in the same way, but a write that leaves the
buffer is reported with its position in the whole buffer.  This holds in every build, as
long as the one with checks does not stop the pass at the base offset; then it does not
stop the other one either. -/
theorem machine_run_at_base {plan : Plan} {source : Source} {base : Nat} {buffer : Buffer}
    (inside : base ≤ buffer.size) {result : WriteResult}
    (ends : plan.machineRun .checked source base buffer = .ok result) :
    ∃ alone, (∀ build, plan.machineRun build source base buffer = .ok result ∧
        plan.machineRun build source 0 (buffer.extract base) = .ok alone) ∧
      result.buffer.extract 0 base = buffer.extract 0 base ∧
      result.buffer.extract base = alone.buffer ∧
      result.failure? = alone.failure?.map (SyncError.behind base) := by
  obtain ⟨front, back, rfl, rfl⟩ : ∃ front back, front ++ back = buffer ∧ front.size = base :=
    ⟨buffer.extract 0 base, buffer.extract base, by simp [inside], by simp [inside]⟩
  have frontOfBuffer : (front ++ back).extract 0 front.size = front := by simp
  have backOfBuffer : (front ++ back).extract front.size = back := by simp
  obtain ⟨alone, endsAlone, whole, failure⟩ := machineRun_behind ends
  obtain ⟨-, everywhere⟩ := (plan.follows_run source front.size (front ++ back)).of_checked_ok ends
  obtain ⟨-, everywhereAlone⟩ := (plan.follows_run source 0 back).of_checked_ok endsAlone
  have frontOfWhole : (front ++ alone.buffer).extract 0 front.size = front := by simp
  have backOfWhole : (front ++ alone.buffer).extract front.size = alone.buffer := by simp
  rw [frontOfBuffer, backOfBuffer, whole, frontOfWhole, backOfWhole]
  exact ⟨alone, fun build => ⟨everywhere build, everywhereAlone build⟩, rfl, rfl, failure⟩

/-- Two rows of two floats, a scalar on top of the first one, and a pair that leaves a block
of six floats. -/
def crowdedPlan : Plan where
  convention := .std140
  entries := [⟨"rows", 0, .array, .strided ⟨2, 2, 2⟩ false⟩, ⟨"gain", 1, .direct, .vector 1⟩,
    ⟨"pair", 5, .direct, .vector 2⟩]

/-- Values for them. -/
def crowdedSource : Source := fun name =>
  if name = "gain" then some (.scalar .zero) else some (.flat [.one, .one, .one, .one])

/-- Behind two floats the block ends as it does alone, but the pair that does not fit is
counted from the front of the whole buffer. -/
theorem run_at_two :
    ∃ result, 2 ≤ (Array.replicate 8 Binary32.zero).size ∧
      crowdedPlan.machineRun .checked crowdedSource 2 (Array.replicate 8 .zero) = .ok result ∧
      crowdedPlan.machineRun .wrapping crowdedSource 0 (Array.replicate 6 .zero) =
        .ok (.failed #[.one, .zero, .zero, .zero, .one, .one] (.outOfRange "pair" 5 2 6)) ∧
      result.buffer.extract 0 2 = #[.zero, .zero] ∧
      result.buffer.extract 2 = #[.one, .zero, .zero, .zero, .one, .one] ∧
      result.failure? = some (.outOfRange "pair" 7 2 8) := by
  have inside : 2 ≤ (Array.replicate 8 Binary32.zero).size := by simp
  have ends : crowdedPlan.machineRun .checked crowdedSource 2 (Array.replicate 8 .zero) =
      .ok _ := rfl
  obtain ⟨alone, everywhere, front, back, failure⟩ := machine_run_at_base inside ends
  have endsAlone : crowdedPlan.machineRun .wrapping crowdedSource 0
      ((Array.replicate 8 .zero).extract 2) =
        .ok (.failed #[.one, .zero, .zero, .zero, .one, .one] (.outOfRange "pair" 5 2 6)) := rfl
  cases (everywhere .wrapping).2.symm.trans endsAlone
  exact ⟨_, inside, ends, endsAlone, front, back, failure⟩

/-- An array of the greatest number of scalars. -/
def endlessRow : Element :=
  { name := "data", type := .scalar .f32, count := wordCount - 1, value := .flat [],
    byteOffset := 0 }

/-- Writers for it that do not check the lengths of values. -/
def lenientDispatch : Dispatch where
  specialists := []
  direct := .wgsl
  arrays := AlignSizes.standard.machineArrayWriters .wrapping false

/-- At the start of a buffer the array has no room.  Behind one float the end of its rows is
cut to zero, so a build without checks writes two floats before it misses a third component;
one with checks stops. -/
theorem endlessRow_behind_one :
    ∃ plan, compile lenientDispatch [endlessRow] = .ok plan ∧
      plan.machineRun .wrapping (fun _ => some (.flat [.one, .one])) 0 (Array.replicate 3 .zero) =
        .ok (.failed (Array.replicate 3 .zero) (.outOfRange "data" 0 (wordCount - 1) 3)) ∧
      plan.machineRun .wrapping (fun _ => some (.flat [.one, .one])) 1 (Array.replicate 4 .zero) =
        .ok (.failed #[.zero, .one, .one, .zero] (.valueShape "data" 1 2)) ∧
      plan.machineRun .checked (fun _ => some (.flat [.one, .one])) 1 (Array.replicate 4 .zero) =
        .error (.overflow .add) := by
  exact ⟨⟨.wgsl, [⟨"data", 0, .array, .strided ⟨wordCount - 1, 1, 0⟩ false⟩]⟩, rfl, rfl, rfl, rfl⟩

end Plan

end UniformBlock
