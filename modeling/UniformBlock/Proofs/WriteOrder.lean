import UniformBlock.Proofs.Confinement
import UniformBlock.Proofs.Passes

/-!
# The order of writes

Two writes that leave each other's slots alone may be made in either order: no
write looks at the buffer, so whether it succeeds and what it puts is settled
beforehand.  The uniforms of a layout keep to slots that have nothing in common.
A plan may therefore list them in any order, and a pass that succeeds leaves the
same buffer.
-/

namespace UniformBlock

/-! ## Two writes -/

/-- Whether every slot is left as it was by one of two writes. -/
def Apart (first second : Buffer → WriteResult) : Prop :=
  ∀ i : Nat, (∀ buffer : Buffer, (first buffer).buffer[i]? = buffer[i]?) ∨
    ∀ buffer : Buffer, (second buffer).buffer[i]? = buffer[i]?

/-- Writes that are apart may be made in the other order. -/
theorem Blind.swap {first second : Buffer → WriteResult} (blindFirst : Blind first)
    (blindSecond : Blind second) (apart : Apart first second) {buffer after : Buffer}
    (written : (first buffer).andThen second = .done after) :
    (second buffer).andThen first = .done after := by
  obtain ⟨lower, firstFailure?, firstWrites⟩ := blindFirst buffer.size
  obtain ⟨upper, secondFailure?, secondWrites⟩ := blindSecond buffer.size
  obtain ⟨between, firstWritten, secondWritten⟩ := WriteResult.andThen_eq_done_iff.mp written
  rw [firstWrites buffer rfl] at firstWritten
  cases firstWritten
  rw [secondWrites _ (lower.size_onto buffer)] at secondWritten
  cases secondWritten
  have sameContents : lower.onto (upper.onto buffer) = upper.onto (lower.onto buffer) := by
    apply Array.ext_getElem?
    intro i
    rcases apart i with untouched | untouched
    · have below := untouched buffer
      have above := untouched (upper.onto buffer)
      rw [firstWrites buffer rfl] at below
      rw [firstWrites _ (upper.size_onto buffer)] at above
      rw [above, Overlay.getElem?_onto, Overlay.getElem?_onto upper, below]
    · have below := untouched buffer
      have above := untouched (lower.onto buffer)
      rw [secondWrites buffer rfl] at below
      rw [secondWrites _ (lower.size_onto buffer)] at above
      rw [above, Overlay.getElem?_onto, Overlay.getElem?_onto lower, below]
  rw [secondWrites buffer rfl]
  change first (upper.onto buffer) = _
  rw [firstWrites _ (upper.size_onto buffer), sameContents]
  rfl

namespace Plan

/-! ## Passes over separate entries -/

/-- Whether the rows of one of two entries end before those of the other start. -/
def Separate (first second : PlanEntry) : Prop :=
  first.offset + first.writer.pattern.extent ≤ second.offset ∨
    second.offset + second.writer.pattern.extent ≤ first.offset

theorem Separate.symm {first second : PlanEntry} (separate : Separate first second) :
    Separate second first :=
  Or.symm separate

/-- Whether the entries of a plan write rows that have no slot in common. -/
structure Separated (entries : List PlanEntry) : Prop where
  regular : ∀ entry ∈ entries, entry.writer.Regular
  separate : entries.Pairwise Separate

variable {source : Source} {base : Nat} {entries others : List PlanEntry}

namespace Separated

theorem tail {entry : PlanEntry} (separated : Separated (entry :: entries)) :
    Separated entries where
  regular later member := separated.regular later (List.mem_cons_of_mem _ member)
  separate := (List.pairwise_cons.mp separated.separate).2

theorem perm (separated : Separated entries) (permuted : entries.Perm others) :
    Separated others where
  regular entry member := separated.regular entry (permuted.mem_iff.mpr member)
  separate := (permuted.pairwise_iff Separate.symm).mp separated.separate

end Separated

/-- The first two entries of a pass may change places. -/
theorem writeEntries_swap {first second : PlanEntry}
    (separated : Separated (first :: second :: entries)) {buffer after : Buffer}
    (written : writeEntries source base (first :: second :: entries) buffer = .done after) :
    writeEntries source base (second :: first :: entries) buffer = .done after := by
  have regularFirst : ∀ entry ∈ [first], entry.writer.Regular := by
    intro entry member
    cases List.mem_singleton.mp member
    exact separated.regular first List.mem_cons_self
  have regularSecond : ∀ entry ∈ [second], entry.writer.Regular := by
    intro entry member
    cases List.mem_singleton.mp member
    exact separated.regular second (List.mem_cons_of_mem _ List.mem_cons_self)
  have separate : Separate first second :=
    (List.pairwise_cons.mp separated.separate).1 second List.mem_cons_self
  have apart : Apart (writeEntries source base [first]) (writeEntries source base [second]) := by
    intro i
    by_cases inFirst : base + first.offset ≤ i ∧ i < finishOf base first
    · refine .inr (getElem?_writeEntries_outside regularSecond ?_)
      intro entry member
      cases List.mem_singleton.mp member
      rw [finishOf] at inFirst ⊢
      rcases separate with before | after
      · omega
      · omega
    · refine .inl (getElem?_writeEntries_outside regularFirst ?_)
      intro entry member
      cases List.mem_singleton.mp member
      omega
  have split (one other : PlanEntry) :
      writeEntries source base (one :: other :: entries) buffer =
        ((writeEntries source base [one] buffer).andThen
          (writeEntries source base [other])).andThen (writeEntries source base entries) := by
    rw [writeEntries_cons, WriteResult.andThen_assoc]
    congr 1
    funext between
    exact writeEntries_cons source base other entries between
  rw [split] at written ⊢
  obtain ⟨between, bothWritten, restWritten⟩ := WriteResult.andThen_eq_done_iff.mp written
  have swapped := (Blind.writeEntries source base [first]).swap
    (.writeEntries source base [second]) apart bothWritten
  rw [swapped]
  exact restWritten

/-- Separate entries may be written in any order. -/
theorem writeEntries_perm (permuted : entries.Perm others) (separated : Separated entries)
    {buffer after : Buffer} (written : writeEntries source base entries buffer = .done after) :
    writeEntries source base others buffer = .done after := by
  induction permuted generalizing buffer with
  | nil => exact written
  | @cons entry entries others permuted ih =>
      rw [writeEntries_cons] at written ⊢
      obtain ⟨between, headWritten, restWritten⟩ := WriteResult.andThen_eq_done_iff.mp written
      rw [headWritten]
      exact ih separated.tail restWritten
  | swap first second entries => exact writeEntries_swap separated written
  | trans permuted permutedAgain ih ihAgain =>
      exact ihAgain (separated.perm permuted) (ih separated written)

end Plan

/-! ## Compiled blocks -/

/-- Whether an entry starts where a slot does and keeps to its floats. -/
structure Slot.Keeps (slot : Slot) (entry : PlanEntry) : Prop where
  regular : entry.writer.Regular
  offset : entry.offset = slot.element.floatOffset
  inside : entry.offset + entry.writer.pattern.extent ≤ slot.finish / 4

namespace Plan

variable {slots : List Slot} {entries : List PlanEntry}

theorem exists_slot_of_mem (kept : List.Forall₂ Slot.Keeps slots entries) {entry : PlanEntry}
    (member : entry ∈ entries) : ∃ slot ∈ slots, slot.Keeps entry := by
  induction kept with
  | nil => exact absurd member List.not_mem_nil
  | @cons slot first slots rest keeps kept ih =>
      rcases List.mem_cons.mp member with rfl | later
      · exact ⟨slot, List.mem_cons_self, keeps⟩
      · obtain ⟨laterSlot, inSlots, laterKeeps⟩ := ih later
        exact ⟨laterSlot, List.mem_cons_of_mem _ inSlots, laterKeeps⟩

/-- Entries that keep to slots in order are separate. -/
theorem separated_of_keeps (kept : List.Forall₂ Slot.Keeps slots entries)
    (ordered : slots.Pairwise fun first second => first.finish ≤ second.element.byteOffset) :
    Separated entries := by
  constructor
  · intro entry member
    obtain ⟨slot, -, keeps⟩ := exists_slot_of_mem kept member
    exact keeps.regular
  · induction kept with
    | nil => exact .nil
    | @cons slot entry slots entries keeps kept ih =>
        obtain ⟨before, orderedRest⟩ := List.pairwise_cons.mp ordered
        refine .cons ?_ (ih orderedRest)
        intro later member
        obtain ⟨laterSlot, inSlots, laterKeeps⟩ := exists_slot_of_mem kept member
        have floatsOrdered : slot.finish / 4 ≤ laterSlot.element.floatOffset :=
          Nat.div_le_div_right (before laterSlot inSlots)
        rw [← laterKeeps.offset] at floatsOrdered
        exact .inl (keeps.inside.trans floatsOrdered)

end Plan

namespace Compiler

variable {compiler : Compiler} {declarations : List Declaration} {layout : Layout} {plan : Plan}

/-- With different names, each entry of a plan keeps to the slot of its uniform. -/
theorem entries_keep (sizes : compiler.StandardSizes)
    (specialists : compiler.StandardSpecialists)
    (built : compiler.layout declarations = .ok layout)
    (matched : List.Forall₂ (fun element entry => compiler.dispatch.entryFor element = .ok entry)
      layout.elements plan.entries) :
    List.Forall₂ Slot.Keeps layout.slots plan.entries := by
  rw [Layout.elements, List.forall₂_map_left_iff] at matched
  have inLayout := (List.forall₂_and_left layout.slots plan.entries).mpr
    ⟨fun slot member => member, matched⟩
  refine inLayout.imp ?_
  rintro slot entry ⟨member, entryFor⟩
  obtain ⟨-, offset, chosen⟩ := Dispatch.entryFor_eq_ok entryFor
  obtain ⟨regular, rows⟩ := chosen_writer specialists chosen
  refine ⟨regular, offset, ?_⟩
  rw [offset]
  exact rows_in_slot sizes built member rows

/-- The uniforms of a layout may be compiled in any order, and a plan in any order
succeeds for the same values, offsets and buffers, and leaves the same floats. -/
theorem run_of_permutation (sizes : compiler.StandardSizes)
    (specialists : compiler.StandardSpecialists)
    (distinct : (declarations.map Declaration.name).Nodup)
    (compiled : compiler.compileDeclarations declarations = .ok (layout, plan))
    {elements : List Element} (permuted : elements.Perm layout.elements) :
    ∃ other, compiler.compile elements = .ok other ∧
      ∀ source base buffer,
        ((other.run source base buffer).failure? = none ↔
          (plan.run source base buffer).failure? = none) ∧
        ((plan.run source base buffer).failure? = none →
          (other.run source base buffer).buffer = (plan.run source base buffer).buffer) := by
  obtain ⟨built, planned⟩ := compileDeclarations_eq_ok compiled
  have distinctElements : (layout.elements.map (·.name)).Nodup := by
    rwa [← names_of_layout built] at distinct
  have matched := Plan.compile_distinct distinctElements planned
  obtain ⟨entries, matchedOther, permutedEntries⟩ := List.perm_comp_forall₂ permuted matched
  have distinctOther : (elements.map (·.name)).Nodup :=
    (permuted.map _).nodup_iff.mpr distinctElements
  refine ⟨_, Plan.compile_of_matched distinctOther matchedOther, ?_⟩
  obtain ⟨finish, chain, -⟩ := layout_arranged built
  have separated : Plan.Separated plan.entries :=
    Plan.separated_of_keeps (entries_keep sizes specialists built matched)
      (chain.ordered compiler.reserve_forward)
  have separatedOther := separated.perm permutedEntries.symm
  intro source base buffer
  have written (succeeded : (plan.run source base buffer).failure? = none) :
      Plan.writeEntries source base entries buffer = .done (plan.run source base buffer).buffer :=
    Plan.writeEntries_perm permutedEntries.symm separated
      (WriteResult.eq_done_of_succeeded succeeded)
  constructor
  · constructor
    · intro succeeded
      have writtenBack : plan.run source base buffer = .done _ :=
        Plan.writeEntries_perm permutedEntries separatedOther
          (WriteResult.eq_done_of_succeeded succeeded)
      rw [writtenBack]
      rfl
    · intro succeeded
      exact congrArg WriteResult.failure? (written succeeded)
  · intro succeeded
    have sameFloats := congrArg WriteResult.buffer (written succeeded)
    exact sameFloats

/-- A color, an array and a scalar. -/
def lamp : List Declaration :=
  [⟨"tint", .vector .f32 3, 1, .color .one .one .zero .one⟩,
    ⟨"bones", .matrix 2 2, 2, .flat []⟩, ⟨"gain", .scalar .f32, 1, .scalar .one⟩]

/-- A value for each uniform of the lamp. -/
def lampValues : Source := fun name =>
  if name = "tint" then some (.color .one .zero .one .one)
  else if name = "bones" then some (.flat (List.replicate 9 .one))
  else some (.point .one .zero)

/-- The lamp is written from its last uniform to its first. -/
theorem run_of_reversed_lamp :
    ∃ layout plan other, uncheckedWgsl.StandardSizes ∧ uncheckedWgsl.StandardSpecialists ∧
      (lamp.map Declaration.name).Nodup ∧
      uncheckedWgsl.compileDeclarations lamp = .ok (layout, plan) ∧
      uncheckedWgsl.compile layout.elements.reverse = .ok other ∧
      other.entries.map PlanEntry.name = ["gain", "bones", "tint"] ∧
      plan.run lampValues 1 (Array.replicate 18 .zero) =
        .done #[.zero, .one, .zero, .one, .zero, .one, .one, .one, .one, .one, .one, .one, .one,
          .one, .zero, .zero, .zero, .zero] ∧
      (other.run lampValues 1 (Array.replicate 18 .zero)).buffer =
        (plan.run lampValues 1 (Array.replicate 18 .zero)).buffer := by
  have sizes : uncheckedWgsl.StandardSizes := ⟨rfl, rfl⟩
  have specialists : uncheckedWgsl.StandardSpecialists := fun _ registered => registered
  have distinct : (lamp.map Declaration.name).Nodup := by decide
  have compiled : uncheckedWgsl.compileDeclarations lamp = .ok (_, _) := rfl
  obtain ⟨other, compiledOther, same⟩ :=
    run_of_permutation sizes specialists distinct compiled (List.reverse_perm _)
  have succeeded := (same lampValues 1 (Array.replicate 18 .zero)).2 rfl
  cases compiledOther
  exact ⟨_, _, _, sizes, specialists, distinct, compiled, rfl, rfl, rfl, succeeded⟩

end Compiler

end UniformBlock
