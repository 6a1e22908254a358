import Mathlib.Order.Bounds.Defs
import Mathlib.Order.Interval.Finset.Nat
import UniformBlock.Layout

/-!
# Arranged slots

Placing a list of declarations gives a chain of slots: each one is the
reservation of its own declaration, placed at the end of the slot before it.  A
convention that never starts a value before the first free byte therefore keeps
its slots in order, and neither their bytes nor their floats overlap.
-/

namespace UniformBlock

theorem isLeast_roundUp {alignment : Nat} (positive : 0 < alignment) (offset : Nat) :
    IsLeast {bound | alignment ∣ bound ∧ offset ≤ bound} (roundUp offset alignment) := by
  constructor
  · exact ⟨dvd_roundUp positive offset, le_roundUp offset alignment⟩
  · rintro bound ⟨multiple, above⟩
    exact roundUp_le positive multiple above

namespace Slot

/-- The floats of a slot, in a block that starts at a float offset. -/
def floats (base : Nat) (slot : Slot) : Finset Nat :=
  Finset.Ico (base + slot.element.floatOffset) (base + slot.finish / 4)

theorem mem_floats {base : Nat} {slot : Slot} {i : Nat} :
    i ∈ slot.floats base ↔
      base + slot.element.floatOffset ≤ i ∧ i < base + slot.finish / 4 :=
  Finset.mem_Ico

/-- Floats that fit into the bytes of a slot end before the slot does: its offset in
floats is rounded down, which only leaves more room. -/
theorem floatOffset_add_le {slot : Slot} {count : Nat} (fits : count * 4 ≤ slot.byteSize) :
    slot.element.floatOffset + count ≤ slot.finish / 4 := by
  rw [Element.floatOffset, finish]
  omega

/-- Slots whose bytes follow each other have no float in common. -/
theorem floats_disjoint {first second : Slot} (base : Nat)
    (ordered : first.finish ≤ second.element.byteOffset) :
    Disjoint (first.floats base) (second.floats base) := by
  rw [Finset.disjoint_left]
  intro i inFirst inSecond
  rw [mem_floats] at inFirst inSecond
  have floatsOrdered : first.finish / 4 ≤ second.element.floatOffset :=
    Nat.div_le_div_right ordered
  omega

/-- Slots whose bytes follow each other have no byte in common. -/
theorem bytes_disjoint {first second : Slot} (ordered : first.finish ≤ second.element.byteOffset) :
    Disjoint (Finset.Ico first.element.byteOffset first.finish)
      (Finset.Ico second.element.byteOffset second.finish) := by
  rw [Finset.disjoint_left]
  intro byte inFirst inSecond
  rw [Finset.mem_Ico] at inFirst inSecond
  omega

end Slot

namespace Layout

/-- Slots that are placed one after the other from a first free byte on.  The
last number is the first byte after them. -/
inductive Arranged (reserve : Reserve) : Nat → List Slot → Nat → Prop where
  | nil (free : Nat) : Arranged reserve free [] free
  | cons {free finish : Nat} {declaration : Declaration} {reservation : Reservation}
      {slots : List Slot} (reserved : reserve declaration = .ok reservation)
      (rest : Arranged reserve (reservation.place declaration free).finish slots finish) :
      Arranged reserve free (reservation.place declaration free :: slots) finish

/-- A successful arrangement is a chain of the declarations in their order. -/
theorem arranged_of_arrange {reserve : Reserve} {free finish : Nat}
    {declarations : List Declaration} {slots : List Slot}
    (arranged : arrange reserve free declarations = .ok (slots, finish)) :
    slots.map (fun slot => slot.element.toDeclaration) = declarations ∧
      Arranged reserve free slots finish := by
  induction declarations generalizing free slots finish with
  | nil =>
      cases arranged
      exact ⟨rfl, .nil free⟩
  | cons declaration rest ih =>
      rw [arrange] at arranged
      split at arranged
      · cases arranged
      · rename_i reservation reserved
        dsimp only at arranged
        split at arranged
        · cases arranged
        · rename_i laterSlots laterFinish later
          cases arranged
          obtain ⟨sameDeclarations, chain⟩ := ih later
          exact ⟨congrArg (declaration :: ·) sameDeclarations, .cons reserved chain⟩

/-- What a layout is built from. -/
theorem build_eq_ok {convention : Convention} {reserve : Reserve}
    {declarations : List Declaration} {alignment : Nat} {layout : Layout}
    (built : build convention reserve declarations alignment = .ok layout) :
    layout.elements.map Element.toDeclaration = declarations ∧
      ∃ finish, Arranged reserve 0 layout.slots finish ∧
        layout.byteSize = roundUp finish alignment := by
  rw [build] at built
  split at built
  · cases built
  · rename_i slots finish arranged
    cases built
    obtain ⟨sameDeclarations, chain⟩ := arranged_of_arrange arranged
    refine ⟨?_, finish, chain, rfl⟩
    rw [elements, List.map_map]
    exact sameDeclarations

/-- Where the last of some slots ends, or the beginning of the block. -/
def lastFinish (slots : List Slot) (free : Nat) : Nat :=
  (slots.getLast?.map Slot.finish).getD free

@[simp]
theorem lastFinish_nil (free : Nat) : lastFinish [] free = free :=
  rfl

@[simp]
theorem lastFinish_cons (slot : Slot) (slots : List Slot) (free : Nat) :
    lastFinish (slot :: slots) free = lastFinish slots slot.finish := by
  rw [lastFinish, lastFinish, List.getLast?_cons]
  cases slots.getLast? <;> rfl

namespace Arranged

variable {reserve : Reserve} {free finish : Nat} {slots : List Slot}

/-- The chain ends where its last slot ends. -/
theorem finish_eq (chain : Arranged reserve free slots finish) :
    finish = lastFinish slots free := by
  induction chain with
  | nil free => rfl
  | cons reserved rest ih => rw [ih, lastFinish_cons]

/-- Every slot is the reservation of its declaration, placed where the slot
before it ends. -/
theorem placed {before after : List Slot} {slot : Slot}
    (chain : Arranged reserve free (before ++ slot :: after) finish) :
    ∃ reservation, reserve slot.element.toDeclaration = .ok reservation ∧
      slot = reservation.place slot.element.toDeclaration (lastFinish before free) := by
  induction before generalizing free with
  | nil =>
      cases chain with
      | cons reserved rest => exact ⟨_, reserved, rfl⟩
  | cons first before ih =>
      cases chain with
      | cons reserved rest =>
          rw [lastFinish_cons]
          exact ih rest

/-- Every slot has the bytes that are reserved for its declaration. -/
theorem reserved_of_mem (chain : Arranged reserve free slots finish) {slot : Slot}
    (member : slot ∈ slots) :
    ∃ reservation, reserve slot.element.toDeclaration = .ok reservation ∧
      slot.byteSize = reservation.byteSize := by
  rcases List.append_of_mem member with ⟨before, after, rfl⟩
  rcases chain.placed with ⟨reservation, reserved, placed⟩
  exact ⟨reservation, reserved, congrArg Slot.byteSize placed⟩

end Arranged

end Layout

/-- Whether no value starts before the first free byte. -/
def Reserve.Forward (reserve : Reserve) : Prop :=
  ∀ ⦃declaration reservation⦄, reserve declaration = .ok reservation →
    ∀ free, free ≤ reservation.start free

namespace Layout.Arranged

variable {reserve : Reserve} {free finish : Nat} {slots : List Slot}

/-- All slots lie between the first free byte and the end of the chain. -/
theorem bounds (forward : reserve.Forward) (chain : Arranged reserve free slots finish) :
    free ≤ finish ∧
      ∀ slot ∈ slots, free ≤ slot.element.byteOffset ∧ slot.finish ≤ finish := by
  induction chain with
  | nil free =>
      exact ⟨Nat.le_refl _, fun slot member => absurd member List.not_mem_nil⟩
  | @cons free finish declaration reservation slots reserved rest ih =>
      rcases ih with ⟨bounded, inside⟩
      have starts : free ≤ (reservation.place declaration free).element.byteOffset :=
        forward reserved free
      have ends : (reservation.place declaration free).element.byteOffset ≤
          (reservation.place declaration free).finish := Nat.le_add_right _ _
      refine ⟨(starts.trans ends).trans bounded, ?_⟩
      intro slot member
      rcases List.mem_cons.mp member with rfl | later
      · exact ⟨starts, bounded⟩
      · exact ⟨(starts.trans ends).trans (inside slot later).1, (inside slot later).2⟩

/-- Every slot ends before any later one starts. -/
theorem ordered (forward : reserve.Forward) (chain : Arranged reserve free slots finish) :
    slots.Pairwise fun first second => first.finish ≤ second.element.byteOffset := by
  induction chain with
  | nil free => exact .nil
  | cons reserved rest ih =>
      exact .cons (fun slot member => ((rest.bounds forward).2 slot member).1) ih

/-- No two slots have a float in common. -/
theorem floats_pairwise_disjoint (forward : reserve.Forward)
    (chain : Arranged reserve free slots finish) (base : Nat) :
    slots.Pairwise fun first second =>
      Disjoint (first.floats base) (second.floats base) :=
  (chain.ordered forward).imp (Slot.floats_disjoint base)

end Layout.Arranged

/-- Every slot of a layout ends before the layout does. -/
theorem Layout.finish_le_byteSize {convention : Convention} {reserve : Reserve}
    {declarations : List Declaration} {alignment : Nat} {layout : Layout}
    (forward : reserve.Forward)
    (built : build convention reserve declarations alignment = .ok layout) {slot : Slot}
    (member : slot ∈ layout.slots) : slot.finish ≤ layout.byteSize := by
  obtain ⟨-, finish, chain, whole⟩ := build_eq_ok built
  rw [whole]
  exact ((chain.bounds forward).2 slot member).2.trans (le_roundUp _ _)

end UniformBlock
