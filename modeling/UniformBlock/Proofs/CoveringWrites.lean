import UniformBlock.Proofs.BlindWrites
import UniformBlock.Proofs.RowStore

/-!
# Covering writes

Which slots a writer fills is settled by its rows and its place, and not by the
value.  A write that succeeds therefore puts something into every slot that the
same writer could have reached with another value.  The same holds of a whole
pass: when it succeeds, nothing is left of an earlier pass of the same plan from
another source, whether that pass succeeded or stopped.
-/

namespace UniformBlock

namespace Overlay

/-! ## Consecutive slots -/

/-- The overlay that covers consecutive slots. -/
def consecutive (offset : Nat) (components : List Binary32) : Overlay := fun i =>
  if i < offset then none else components[i - offset]?

theorem consecutive_eq_none_iff {offset : Nat} {components : List Binary32} {i : Nat} :
    consecutive offset components i = none ↔ i < offset ∨ offset + components.length ≤ i := by
  rw [consecutive]
  split
  · rename_i before
    exact iff_of_true rfl (.inl before)
  · rename_i notBefore
    rw [List.getElem?_eq_none_iff]
    omega

theorem store_eq_onto (buffer : Buffer) (offset : Nat) (components : List Binary32) :
    buffer.store offset components = (consecutive offset components).onto buffer := by
  apply Array.ext_getElem?
  intro i
  rw [getElem?_onto]
  by_cases outside : i < offset ∨ offset + components.length ≤ i
  · rw [Buffer.getElem?_store_outside buffer outside, consecutive_eq_none_iff.mpr outside]
    cases buffer[i]? <;> rfl
  · rw [not_or, Nat.not_lt, Nat.not_le] at outside
    obtain ⟨position, rfl⟩ := Nat.exists_eq_add_of_le outside.1
    have stored : position < components.length := by omega
    rcases Nat.lt_or_ge (offset + position) buffer.size with room | noRoom
    · rw [Buffer.getElem?_store_inside buffer stored room, consecutive,
        if_neg (Nat.not_lt.mpr outside.1), Nat.add_sub_cancel_left,
        List.getElem?_eq_getElem stored, Array.getElem?_eq_getElem room]
      rfl
    · rw [Array.getElem?_eq_none noRoom,
        Array.getElem?_eq_none (by rwa [Buffer.size_store])]
      rfl

/-- Whether an overlay covers every slot that another one covers. -/
def Hides (upper lower : Overlay) : Prop :=
  ∀ i, upper i = none → lower i = none

namespace Hides

theorem nothing (upper : Overlay) : upper.Hides .nothing := fun _ _ =>
  rfl

theorem above {upper lower first second : Overlay} (onUpper : upper.Hides first)
    (onLower : lower.Hides second) : (upper.above lower).Hides (first.above second) := by
  intro i uncovered
  obtain ⟨upperFree, lowerFree⟩ := Option.or_eq_none_iff.mp uncovered
  exact Option.or_eq_none_iff.mpr ⟨onUpper i upperFree, onLower i lowerFree⟩

/-- Nothing of an overlay can be seen behind one that hides it. -/
theorem above_eq {upper lower : Overlay} (hides : upper.Hides lower) :
    upper.above lower = upper := by
  funext i
  rw [Overlay.above]
  cases covered : upper i with
  | none => exact hides i covered
  | some component => rfl

end Hides

end Overlay

/-- Whether one write, when it succeeds, fills all slots that another write fills,
in buffers of any size. -/
def Covers (first other : Buffer → WriteResult) : Prop :=
  ∀ size, ∃ (upper lower : Overlay) (failure? otherFailure? : Option SyncError),
    (∀ buffer : Buffer, buffer.size = size → first buffer = ⟨upper.onto buffer, failure?⟩) ∧
      (∀ buffer : Buffer, buffer.size = size →
        other buffer = ⟨lower.onto buffer, otherFailure?⟩) ∧
      (failure? = none → upper.Hides lower)

namespace Covers

variable {first other next otherNext : Buffer → WriteResult}

/-! ## Building covering writes -/

/-- A write that never succeeds covers any other. -/
theorem of_failing (blind : Blind first) (blindOther : Blind other)
    (fails : ∀ buffer, (first buffer).failure? ≠ none) : Covers first other := by
  intro size
  rcases blind size with ⟨upper, failure?, writes⟩
  rcases blindOther size with ⟨lower, otherFailure?, otherWrites⟩
  refine ⟨upper, lower, failure?, otherFailure?, writes, otherWrites, ?_⟩
  intro succeeded
  have failed := fails (Array.replicate size .zero)
  rw [writes _ Array.size_replicate] at failed
  exact absurd succeeded failed

/-- A write that stops at once is covered by any other. -/
theorem of_untouched (blind : Blind first) (error : SyncError)
    (stops : ∀ buffer, other buffer = .failed buffer error) : Covers first other := by
  intro size
  rcases blind size with ⟨upper, failure?, writes⟩
  refine ⟨upper, .nothing, failure?, some error, writes, ?_, fun _ => .nothing upper⟩
  intro buffer _
  rw [stops, Overlay.nothing_onto]
  rfl

theorem done : Covers WriteResult.done WriteResult.done := by
  intro size
  have unchanged : ∀ buffer : Buffer, buffer.size = size →
      WriteResult.done buffer = ⟨Overlay.nothing.onto buffer, none⟩ := by
    intro buffer _
    rw [Overlay.nothing_onto]
    rfl
  exact ⟨.nothing, .nothing, none, none, unchanged, unchanged, fun _ => .nothing _⟩

theorem andThen (covers : Covers first other) (coversNext : Covers next otherNext) :
    Covers (fun buffer => (first buffer).andThen next)
      (fun buffer => (other buffer).andThen otherNext) := by
  intro size
  rcases covers size with ⟨upper, lower, failure?, otherFailure?, writes, otherWrites, hides⟩
  rcases coversNext size with
    ⟨upperNext, lowerNext, nextFailure?, otherNextFailure?, writesNext, otherWritesNext,
      hidesNext⟩
  -- The other write may stop early; then its second part covers nothing.
  have otherResult : ∃ (below : Overlay) (stopped? : Option SyncError),
      (∀ buffer : Buffer, buffer.size = size →
        (other buffer).andThen otherNext = ⟨below.onto buffer, stopped?⟩) ∧
        (failure? = none → nextFailure? = none → (upperNext.above upper).Hides below) := by
    cases otherFailure? with
    | some error =>
        refine ⟨lower, some error, ?_, ?_⟩
        · intro buffer sized
          simp only [otherWrites buffer sized, WriteResult.andThen]
        · intro succeeded _ i uncovered
          exact hides succeeded i (Option.or_eq_none_iff.mp uncovered).2
    | none =>
        refine ⟨lowerNext.above lower, otherNextFailure?, ?_, ?_⟩
        · intro buffer sized
          simp only [otherWrites buffer sized, WriteResult.andThen]
          rw [otherWritesNext _ ((Overlay.size_onto lower buffer).trans sized),
            Overlay.onto_onto]
        · intro succeeded succeededNext
          exact (hidesNext succeededNext).above (hides succeeded)
  obtain ⟨below, stopped?, otherRuns, hidesAll⟩ := otherResult
  cases failure? with
  | some error =>
      refine ⟨upper, below, some error, stopped?, ?_, otherRuns, ?_⟩
      · intro buffer sized
        simp only [writes buffer sized, WriteResult.andThen]
      · intro succeeded
        exact absurd succeeded (Option.some_ne_none error)
  | none =>
      refine ⟨upperNext.above upper, below, nextFailure?, stopped?, ?_, otherRuns,
        hidesAll rfl⟩
      intro buffer sized
      simp only [writes buffer sized, WriteResult.andThen]
      rw [writesNext _ ((Overlay.size_onto upper buffer).trans sized), Overlay.onto_onto]

theorem withSpan (name : String) (offset length : Nat) (covers : Covers next otherNext) :
    Covers (fun buffer => buffer.withSpan name offset length next)
      (fun buffer => buffer.withSpan name offset length otherNext) := by
  intro size
  by_cases noRoom : size < offset + length
  · rcases Blind.failed (SyncError.outOfRange name offset length) size with
      ⟨overlay, failure?, stops⟩
    have refused : ∀ (following : Buffer → WriteResult) (buffer : Buffer), buffer.size = size →
        buffer.withSpan name offset length following = ⟨overlay.onto buffer, failure?⟩ := by
      intro following buffer sized
      rw [← stops buffer sized, Buffer.withSpan_of_no_room (sized ▸ noRoom)]
    exact ⟨overlay, overlay, failure?, failure?, refused next, refused otherNext,
      fun _ _ uncovered => uncovered⟩
  · rcases covers size with ⟨upper, lower, failure?, otherFailure?, writes, otherWrites, hides⟩
    refine ⟨upper, lower, failure?, otherFailure?, ?_, ?_, hides⟩
    · intro buffer sized
      rw [← writes buffer sized]
      exact Buffer.withSpan_of_room (sized ▸ Nat.le_of_not_lt noRoom)
    · intro buffer sized
      rw [← otherWrites buffer sized]
      exact Buffer.withSpan_of_room (sized ▸ Nat.le_of_not_lt noRoom)

theorem withCount (name : String) (value otherValue : Value) (expected : Nat)
    (blind : Blind next) (blindOther : Blind otherNext) (covers : Covers next otherNext) :
    Covers (fun buffer => Writer.withCount name value expected buffer (next buffer))
      (fun buffer => Writer.withCount name otherValue expected buffer (otherNext buffer)) := by
  by_cases short : value.count < expected
  · apply of_failing (blind.withCount name value expected)
      (blindOther.withCount name otherValue expected)
    intro buffer
    rw [Writer.withCount, if_pos short]
    exact Option.some_ne_none _
  · by_cases otherShort : otherValue.count < expected
    · apply of_untouched (blind.withCount name value expected)
        (.valueShape name expected otherValue.count)
      intro buffer
      rw [Writer.withCount, if_pos otherShort]
    · simp only [Writer.withCount, if_neg short, if_neg otherShort]
      exact covers

/-! ## Writers and passes -/

theorem writeRun (name : String) (offset width total otherTotal : Nat)
    (components others : List Binary32) :
    Covers (fun buffer => buffer.writeRun name offset width total components)
      (fun buffer => buffer.writeRun name offset width otherTotal others) := by
  apply withSpan
  intro size
  refine ⟨.consecutive offset (components.take width), .consecutive offset (others.take width),
    if components.length < width then some (.valueShape name width total) else none,
    if others.length < width then some (.valueShape name width otherTotal) else none, ?_, ?_, ?_⟩
  · intro buffer _
    rw [← Overlay.store_eq_onto]
    split <;> rfl
  · intro buffer _
    rw [← Overlay.store_eq_onto]
    split <;> rfl
  · intro succeeded i uncovered
    rw [Overlay.consecutive_eq_none_iff, List.length_take] at uncovered ⊢
    have enough : ¬ components.length < width := by
      intro short
      rw [if_pos short] at succeeded
      cases succeeded
    omega

theorem writeRows (name : String) (width pitch total otherTotal rows offset : Nat)
    (components others : List Binary32) :
    Covers (Buffer.writeRows name width pitch total rows offset components)
      (Buffer.writeRows name width pitch otherTotal rows offset others) := by
  induction rows generalizing offset components others with
  | zero => exact done
  | succ rows ih =>
      exact (writeRun name offset width total otherTotal components others).andThen (ih _ _ _)

/-- A writer covers what it would write of any other value. -/
theorem run (writer : Writer) (name : String) (offset : Nat) (value otherValue : Value) :
    Covers (writer.run name offset value) (writer.run name offset otherValue) := by
  have blind (any : Value) : Blind (writer.run name offset any) := .run writer name offset any
  cases writer with
  | vector components =>
      exact withCount _ _ _ _ (.writeRun _ _ _ _ _) (.writeRun _ _ _ _ _)
        (writeRun _ _ _ _ _ _ _)
  | matrix columns rows stride =>
      rw [Writer.run_matrix, Writer.run_matrix]
      exact withCount _ _ _ _ (.withSpan _ _ _ (.writeRows _ _ _ _ _ _ _))
        (.withSpan _ _ _ (.writeRows _ _ _ _ _ _ _))
        (withSpan _ _ _ (writeRows _ _ _ _ _ _ _ _ _))
  | strided pattern checked =>
      exact withCount _ _ _ _ (.withSpan _ _ _ (.writeRows _ _ _ _ _ _ _))
        (.withSpan _ _ _ (.writeRows _ _ _ _ _ _ _))
        (withSpan _ _ _ (writeRows _ _ _ _ _ _ _ _ _))
  | affine =>
      cases value
      case affine =>
        cases otherValue
        case affine =>
          rw [Writer.run_affine, Writer.run_affine]
          exact withSpan _ _ _ (writeRows _ _ _ _ _ _ _ _ _)
        all_goals exact of_untouched (blind _) _ fun _ => rfl
      all_goals exact of_failing (blind _) (blind _) fun _ => Option.some_ne_none _
  | rect =>
      cases value
      case rect =>
        cases otherValue
        case rect => exact writeRun _ _ _ _ _ _ _
        all_goals exact of_untouched (blind _) _ fun _ => rfl
      all_goals exact of_failing (blind _) (blind _) fun _ => Option.some_ne_none _
  | point =>
      cases value
      case point =>
        cases otherValue
        case point => exact writeRun _ _ _ _ _ _ _
        all_goals exact of_untouched (blind _) _ fun _ => rfl
      all_goals exact of_failing (blind _) (blind _) fun _ => Option.some_ne_none _
  | color channels =>
      cases value
      case color =>
        cases otherValue
        case color => exact writeRun _ _ _ _ _ _ _
        all_goals exact of_untouched (blind _) _ fun _ => rfl
      all_goals exact of_failing (blind _) (blind _) fun _ => Option.some_ne_none _

/-- A pass covers what it would write from any other source. -/
theorem writeEntries (source other : Source) (base : Nat) (entries : List PlanEntry) :
    Covers (Plan.writeEntries source base entries) (Plan.writeEntries other base entries) := by
  induction entries with
  | nil => exact done
  | cons entry rest ih =>
      have blind (any : Source) : Blind (Plan.writeEntries any base (entry :: rest)) :=
        .writeEntries any base (entry :: rest)
      cases found : source entry.name with
      | none =>
          apply of_failing (blind source) (blind other)
          intro buffer
          simp only [Plan.writeEntries, found]
          exact Option.some_ne_none _
      | some value =>
          cases otherFound : other entry.name with
          | none =>
              apply of_untouched (blind source) (.notFound entry.name)
              intro buffer
              simp only [Plan.writeEntries, otherFound]
          | some otherValue =>
              simp only [Plan.writeEntries, found, otherFound]
              exact (run entry.writer entry.name (base + entry.offset) value otherValue).andThen ih

/-! ## Consequences -/

/-- A write that succeeded undoes whatever it covers. -/
theorem undo (covers : Covers first other) {before after : Buffer}
    (succeeded : first before = .done after) : first (other before).buffer = .done after := by
  rcases covers before.size with
    ⟨upper, lower, failure?, otherFailure?, writes, otherWrites, hides⟩
  have written : (⟨upper.onto before, failure?⟩ : WriteResult) = .done after :=
    (writes before rfl).symm.trans succeeded
  have noFailure : failure? = none := congrArg WriteResult.failure? written
  rw [otherWrites before rfl, writes _ (Overlay.size_onto lower before), Overlay.onto_onto,
    (hides noFailure).above_eq, written]

end Covers

end UniformBlock
