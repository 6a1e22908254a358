/-!
# Lists keyed by name

A list in which every name stands for one item, in the order in which the names
first came.  A later item with a known name takes the place of the earlier one.
An index beside the list tells the slot of each name, so that an item is found
and replaced without a search.
-/

namespace UniformBlock.Keyed

/-- Put an item into a list: in the place of the first item with its key, or at
the end. -/
def put {Item : Type} (key : Item → String) (item : Item) : List Item → List Item
  | [] => [item]
  | first :: rest =>
      if key first = key item then item :: rest else first :: put key item rest

/-- The first item with a key. -/
def get? {Item : Type} (key : Item → String) (items : List Item) (name : String) : Option Item :=
  items.find? fun item => key item = name

@[simp]
theorem put_nil {Item : Type} (key : Item → String) (item : Item) : put key item [] = [item] :=
  rfl

/-- The keys stay in place, and a new key comes last. -/
theorem map_put {Item : Type} (key : Item → String) (item : Item) (items : List Item) :
    (put key item items).map key =
      if key item ∈ items.map key then items.map key else items.map key ++ [key item] := by
  induction items with
  | nil => rfl
  | cons first rest ih =>
      by_cases same : key first = key item
      · simp [put, same]
      · have different : ¬ key item = key first := fun equal => same equal.symm
        simp only [put, same, if_false, List.map_cons, ih, List.mem_cons, different, false_or]
        split <;> rfl

/-- Putting an item keeps the keys apart. -/
theorem nodup_map_put {Item : Type} (key : Item → String) (item : Item) {items : List Item}
    (distinct : (items.map key).Nodup) : ((put key item items).map key).Nodup := by
  rw [map_put]
  split
  · exact distinct
  · rename_i absent
    rw [List.nodup_append]
    refine ⟨distinct, by simp, ?_⟩
    intro name known other single equal
    rw [List.mem_singleton] at single
    rw [equal, single] at known
    exact absent known

/-- The item put last is found under its key. -/
@[simp]
theorem get?_put_self {Item : Type} (key : Item → String) (item : Item) (items : List Item) :
    get? key (put key item items) (key item) = some item := by
  induction items with
  | nil => simp [put, get?]
  | cons first rest ih =>
      by_cases same : key first = key item
      · simp [put, get?, same]
      · simp only [get?] at ih
        simp [put, get?, same, ih]

/-- Other keys are not affected. -/
theorem get?_put_of_ne {Item : Type} (key : Item → String) (item : Item) (items : List Item)
    {name : String} (different : key item ≠ name) :
    get? key (put key item items) name = get? key items name := by
  induction items with
  | nil => simp [put, get?, different]
  | cons first rest ih =>
      by_cases same : key first = key item
      · simp [put, get?, same, different]
      · simp only [get?] at ih
        by_cases found : key first = name
        · have other : ¬ name = key item := fun equal => different equal.symm
          simp [put, get?, found, other]
        · simp [put, get?, same, found, ih]

/-! ## Slots -/

/-- The slot of a key in an index. -/
def slot? (index : List (String × Nat)) (name : String) : Option Nat :=
  (get? Prod.fst index name).map Prod.snd

/-- Put an item into the slot of its key, or at the end when the key has none.
The index learns a new key. -/
def putAt {Item : Type} (key : Item → String) (item : Item) (items : List Item)
    (index : List (String × Nat)) : List Item × List (String × Nat) :=
  match slot? index (key item) with
  | some slot => (items.set slot item, index)
  | none => (items ++ [item], put Prod.fst (key item, items.length) index)

/-- Whether an index tells the slot of every key of a list, and of no other. -/
def Indexes (index : List (String × Nat)) (keys : List String) : Prop :=
  ∀ name slot, slot? index name = some slot ↔ keys[slot]? = some name

section

variable {Item : Type} {key : Item → String} {item : Item} {items : List Item}
  {index : List (String × Nat)} {keys : List String} {name : String} {slot : Nat}

@[simp]
theorem slot?_put_self (name : String) (slot : Nat) (index : List (String × Nat)) :
    slot? (put Prod.fst (name, slot) index) name = some slot := by
  have found : get? Prod.fst (put Prod.fst (name, slot) index) name = some (name, slot) :=
    get?_put_self Prod.fst (name, slot) index
  rw [slot?, found]
  rfl

theorem slot?_put_of_ne {other : String} (different : name ≠ other) (slot : Nat)
    (index : List (String × Nat)) :
    slot? (put Prod.fst (name, slot) index) other = slot? index other := by
  rw [slot?, get?_put_of_ne Prod.fst (name, slot) index different, slot?]

theorem putAt_of_slot (known : slot? index (key item) = some slot) :
    putAt key item items index = (items.set slot item, index) := by
  rw [putAt, known]

theorem putAt_of_no_slot (unknown : slot? index (key item) = none) :
    putAt key item items index =
      (items ++ [item], put Prod.fst (key item, items.length) index) := by
  rw [putAt, unknown]

/-- An item is found under its key when all keys differ. -/
theorem get?_of_mem (distinct : (items.map key).Nodup) (member : item ∈ items) :
    get? key items (key item) = some item := by
  induction items with
  | nil => exact absurd member List.not_mem_nil
  | cons first rest ih =>
      rw [List.map_cons, List.nodup_cons] at distinct
      rw [get?, List.find?_cons]
      rcases List.mem_cons.mp member with rfl | later
      · rw [decide_eq_true rfl]
      · have different : key first ≠ key item := fun same =>
          distinct.1 (same ▸ List.mem_map_of_mem later)
        rw [decide_eq_false different]
        exact ih distinct.2 later

/-- An item with a new key comes last. -/
theorem put_of_notMem (fresh : key item ∉ items.map key) :
    put key item items = items ++ [item] := by
  induction items with
  | nil => rfl
  | cons first rest ih =>
      rw [List.map_cons, List.mem_cons, not_or] at fresh
      rw [put, if_neg fun same => fresh.1 same.symm, ih fresh.2, List.cons_append]

/-- An item with a known key takes the slot of that key. -/
theorem put_eq_set (distinct : (items.map key).Nodup)
    (listed : (items.map key)[slot]? = some (key item)) :
    put key item items = items.set slot item := by
  induction items generalizing slot with
  | nil => cases listed
  | cons first rest ih =>
      rw [List.map_cons, List.nodup_cons] at distinct
      cases slot with
      | zero => rw [put, if_pos (Option.some.inj listed), List.set_cons_zero]
      | succ slot =>
          have later : key item ∈ rest.map key := List.mem_of_getElem? listed
          have different : key first ≠ key item := fun same => distinct.1 (same ▸ later)
          rw [put, if_neg different, ih distinct.2 listed, List.set_cons_succ]

namespace Indexes

theorem nil : Indexes [] [] := by
  intro name slot
  simp [slot?, get?]

/-- No key of an indexed list comes twice. -/
theorem nodup (indexes : Indexes index keys) : keys.Nodup := by
  rw [List.Nodup, List.pairwise_iff_getElem]
  intro i j inside insideToo before same
  have first := (indexes keys[i] i).mpr (List.getElem?_eq_getElem inside)
  have second := (indexes keys[i] j).mpr (same ▸ List.getElem?_eq_getElem insideToo)
  cases first.symm.trans second
  exact Nat.lt_irrefl _ before

/-- A key without a slot is not in the list. -/
theorem notMem (indexes : Indexes index keys) (unknown : slot? index name = none) :
    name ∉ keys := by
  intro member
  obtain ⟨slot, listed⟩ := List.mem_iff_getElem?.mp member
  cases unknown.symm.trans ((indexes name slot).mpr listed)

/-- An item in the slot of its key leaves all keys as they are. -/
theorem map_set (indexes : Indexes index (items.map key))
    (known : slot? index (key item) = some slot) :
    (items.set slot item).map key = items.map key := by
  obtain ⟨inside, same⟩ := List.getElem?_eq_some_iff.mp ((indexes (key item) slot).mp known)
  rw [List.map_set, ← same, List.set_getElem_self]

/-- A new key may come last. -/
theorem concat (indexes : Indexes index keys) (unknown : slot? index name = none) :
    Indexes (put Prod.fst (name, keys.length) index) (keys ++ [name]) := by
  intro other slot
  have split : (keys ++ [name])[slot]? = some other ↔
      keys[slot]? = some other ∨ (keys.length = slot ∧ name = other) := by
    rw [List.getElem?_append]
    split
    · rename_i inside
      simp [Nat.ne_of_gt inside]
    · rename_i outside
      have last : slot - keys.length = 0 ↔ keys.length = slot := by omega
      rw [List.getElem?_singleton, List.getElem?_eq_none (Nat.le_of_not_lt outside)]
      simp [last]
  rw [split]
  by_cases same : name = other
  · subst same
    rw [slot?_put_self, ← indexes name slot, unknown]
    simp
  · rw [slot?_put_of_ne same, indexes other slot]
    simp [same]

/-- Putting an item keeps the index right. -/
theorem putAt (indexes : Indexes index (items.map key)) (item : Item) :
    Indexes (Keyed.putAt key item items index).2
      ((Keyed.putAt key item items index).1.map key) := by
  cases known : slot? index (key item) with
  | some slot =>
      rw [putAt_of_slot known]
      dsimp only
      rw [indexes.map_set known]
      exact indexes
  | none =>
      have extended := indexes.concat known
      rw [List.length_map] at extended
      rw [putAt_of_no_slot known, List.map_append]
      exact extended

/-- An item that is looked up through the index is the one that a search finds. -/
theorem get?_eq (indexes : Indexes index (items.map key)) (name : String) :
    get? key items name = (slot? index name).bind fun slot => items[slot]? := by
  cases known : slot? index name with
  | none =>
      rw [get?, Option.bind_none, List.find?_eq_none]
      intro item member same
      rw [← of_decide_eq_true same] at known
      exact indexes.notMem known (List.mem_map_of_mem member)
  | some slot =>
      have listed := (indexes name slot).mp known
      rw [List.getElem?_map, Option.map_eq_some_iff] at listed
      obtain ⟨item, stored, rfl⟩ := listed
      rw [Option.bind_some, stored]
      exact get?_of_mem indexes.nodup (List.mem_of_getElem? stored)

/-- An item that is put through the index comes where a search would put it. -/
theorem putAt_eq (indexes : Indexes index (items.map key)) (item : Item) :
    (Keyed.putAt key item items index).1 = put key item items := by
  cases known : slot? index (key item) with
  | some slot =>
      rw [putAt_of_slot known]
      exact (put_eq_set indexes.nodup ((indexes (key item) slot).mp known)).symm
  | none => rw [putAt_of_no_slot known, put_of_notMem (indexes.notMem known)]

end Indexes

end

end UniformBlock.Keyed
