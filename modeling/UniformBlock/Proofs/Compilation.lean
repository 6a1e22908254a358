import Mathlib.Data.List.Forall2
import UniformBlock.Compiler

/-!
# Compiled entries

Which placed uniforms the entries of a plan come from.  The last uniform of a
name decides about its entry, and when all names differ the entries follow the
uniforms in order.
-/

namespace UniformBlock

namespace Keyed

variable {Item : Type} {key : Item → String} {item : Item} {items : List Item}

/-- The last item with a key. -/
def last? (key : Item → String) (items : List Item) (name : String) : Option Item :=
  get? key items.reverse name

theorem last?_cons (first : Item) (rest : List Item) (name : String) :
    last? key (first :: rest) name =
      (last? key rest name).or (if key first = name then some first else none) := by
  rw [last?, get?, List.reverse_cons, List.find?_append, List.find?_singleton]
  simp only [last?, get?, decide_eq_true_eq]

theorem last?_concat (items : List Item) (item : Item) (name : String) :
    last? key (items ++ [item]) name =
      if key item = name then some item else last? key items name := by
  rw [last?, get?, List.reverse_append, List.reverse_singleton, List.singleton_append,
    List.find?_cons]
  by_cases same : key item = name
  · rw [decide_eq_true same, if_pos same]
  · rw [decide_eq_false same, if_neg same]
    rfl

/-- No later item has the key of the last one. -/
theorem split_of_last? {name : String} (last : last? key items name = some item) :
    ∃ before after, items = before ++ item :: after ∧ key item = name ∧
      ∀ later ∈ after, key later ≠ name := by
  rw [last?, get?, List.find?_eq_some_iff_append] at last
  obtain ⟨named, after, before, reversed, others⟩ := last
  refine ⟨before.reverse, after.reverse, ?_, of_decide_eq_true named, ?_⟩
  · rw [← List.reverse_reverse items, reversed, List.reverse_append, List.reverse_cons,
      List.append_assoc, List.singleton_append]
  · intro later member same
    have other := others later (List.mem_reverse.mp member)
    rw [decide_eq_true same] at other
    cases other

/-- Putting items lists their keys in the order in which they first came. -/
theorem map_put_of_seen {seen : List String} (kept : items.map key = seen.eraseDups) :
    (put key item items).map key = (seen ++ [key item]).eraseDups := by
  rw [map_put, kept, List.eraseDups_append]
  by_cases known : key item ∈ seen
  · rw [if_pos (List.mem_eraseDups.mpr known)]
    simp [List.removeAll, known]
  · rw [if_neg fun kept => known (List.mem_eraseDups.mp kept)]
    simp [List.removeAll, known, List.eraseDups_cons]

/-- When all keys differ, the items under a key are the item that is found. -/
theorem get?_eq_some_iff (distinct : (items.map key).Nodup) {name : String} :
    get? key items name = some item ↔ item ∈ items ∧ key item = name := by
  constructor
  · intro found
    have named := List.find?_some found
    exact ⟨List.mem_of_find?_eq_some found, of_decide_eq_true named⟩
  · rintro ⟨member, rfl⟩
    exact get?_of_mem distinct member

/-- Putting an item replaces the one with its key. -/
theorem mem_put (distinct : (items.map key).Nodup) {other : Item}
    (member : other ∈ put key item items) :
    other = item ∨ (other ∈ items ∧ key other ≠ key item) := by
  induction items with
  | nil => exact .inl (List.mem_singleton.mp member)
  | cons first rest ih =>
      rw [List.map_cons, List.nodup_cons] at distinct
      by_cases same : key first = key item
      · rw [put, if_pos same] at member
        rcases List.mem_cons.mp member with equal | later
        · exact .inl equal
        · refine .inr ⟨List.mem_cons_of_mem _ later, ?_⟩
          intro equal
          exact distinct.1 (same.trans equal.symm ▸ List.mem_map_of_mem later)
      · rw [put, if_neg same] at member
        rcases List.mem_cons.mp member with rfl | later
        · exact .inr ⟨List.mem_cons_self, same⟩
        · rcases ih distinct.2 later with equal | ⟨inRest, different⟩
          · exact .inl equal
          · exact .inr ⟨List.mem_cons_of_mem _ inRest, different⟩

end Keyed

/-- What the entry of a placed uniform says. -/
theorem Dispatch.entryFor_eq_ok {W : Type} {dispatch : Dispatch W} {element : Element}
    {entry : PlanEntry W}
    (compiled : dispatch.entryFor element = .ok entry) :
    entry.name = element.name ∧ entry.offset = element.floatOffset ∧
      dispatch.choose element = .ok (entry.route, entry.writer) := by
  obtain ⟨choice, chosen, rfl⟩ := map_eq_ok_iff.mp compiled
  exact ⟨rfl, rfl, chosen⟩

namespace Plan

variable {W : Type} {dispatch : Dispatch W}

theorem collect_cons {entries result : List (PlanEntry W)} {element : Element} {rest : List Element}
    (collected : collect dispatch entries (element :: rest) = .ok result) :
    ∃ entry, dispatch.entryFor element = .ok entry ∧
      collect dispatch (Keyed.put PlanEntry.name entry entries) rest = .ok result := by
  rw [collect] at collected
  split at collected
  · cases collected
  · rename_i entry compiled
    exact ⟨entry, compiled, collected⟩

/-- Every collected entry is that of the last uniform of its name, unless no
uniform has its name and it was there before. -/
theorem collect_last {elements : List Element} {entries result : List (PlanEntry W)}
    (distinct : (entries.map PlanEntry.name).Nodup)
    (collected : collect dispatch entries elements = .ok result) {entry : PlanEntry W}
    (member : entry ∈ result) :
    (∃ element, Keyed.last? (·.name) elements entry.name = some element ∧
        dispatch.entryFor element = .ok entry) ∨
      (entry ∈ entries ∧ Keyed.last? (·.name) elements entry.name = none) := by
  induction elements generalizing entries with
  | nil =>
      cases collected
      exact .inr ⟨member, rfl⟩
  | cons element rest ih =>
      obtain ⟨head, compiled, collectedRest⟩ := collect_cons collected
      have headName := (Dispatch.entryFor_eq_ok compiled).1
      rw [Keyed.last?_cons]
      rcases ih (Keyed.nodup_map_put _ _ distinct) collectedRest with
        ⟨later, last, compiledLater⟩ | ⟨before, notLater⟩
      · exact .inl ⟨later, by rw [last, Option.some_or], compiledLater⟩
      · rw [notLater, Option.none_or]
        rcases Keyed.mem_put distinct before with rfl | ⟨inEntries, different⟩
        · exact .inl ⟨element, if_pos headName.symm, compiled⟩
        · exact .inr ⟨inEntries, if_neg fun same => different (same.symm.trans headName.symm)⟩

theorem collect_of_compile {elements : List Element} {plan : Plan W}
    (compiled : compile dispatch elements = .ok plan) :
    collect dispatch [] elements = .ok plan.entries := by
  rw [compile_eq] at compiled
  obtain ⟨entries, collected, rfl⟩ := map_eq_ok_iff.mp compiled
  exact collected

theorem compile_of_collect {elements : List Element} {entries : List (PlanEntry W)}
    (collected : collect dispatch [] elements = .ok entries) :
    compile dispatch elements = .ok { convention := dispatch.convention, entries } := by
  rw [compile_eq, collected]
  rfl

/-- Every entry of a plan is that of the last uniform of its name. -/
theorem compile_last {elements : List Element} {plan : Plan W}
    (compiled : compile dispatch elements = .ok plan) {entry : PlanEntry W}
    (member : entry ∈ plan.entries) :
    ∃ element, Keyed.last? (·.name) elements entry.name = some element ∧
      dispatch.entryFor element = .ok entry := by
  have distinct : (([] : List (PlanEntry W)).map PlanEntry.name).Nodup := List.nodup_nil
  rcases collect_last distinct (collect_of_compile compiled) member with last | ⟨before, -⟩
  · exact last
  · exact absurd before List.not_mem_nil

/-- Uniforms with new and different names add their entries in order. -/
theorem collect_distinct {elements : List Element} {entries result : List (PlanEntry W)}
    (distinct : (entries.map PlanEntry.name ++ elements.map (·.name)).Nodup)
    (collected : collect dispatch entries elements = .ok result) :
    ∃ added, result = entries ++ added ∧
      List.Forall₂ (fun element entry => dispatch.entryFor element = .ok entry) elements added := by
  induction elements generalizing entries with
  | nil =>
      cases collected
      exact ⟨[], (List.append_nil _).symm, .nil⟩
  | cons element rest ih =>
      obtain ⟨head, compiled, collectedRest⟩ := collect_cons collected
      have headName := (Dispatch.entryFor_eq_ok compiled).1
      have fresh : head.name ∉ entries.map PlanEntry.name := by
        intro known
        rw [List.map_cons, ← headName, List.nodup_append] at distinct
        exact distinct.2.2 _ known _ List.mem_cons_self rfl
      rw [Keyed.put_of_notMem fresh] at collectedRest
      have distinctRest :
          ((entries ++ [head]).map PlanEntry.name ++ rest.map (·.name)).Nodup := by
        rw [List.map_append, List.append_assoc, List.map_singleton, headName]
        exact distinct
      obtain ⟨added, rfl, matched⟩ := ih distinctRest collectedRest
      exact ⟨head :: added, List.append_assoc _ _ _, .cons compiled matched⟩

/-- When all names differ, the entries of a plan follow the placed uniforms. -/
theorem compile_distinct {elements : List Element} {plan : Plan W}
    (distinct : (elements.map (·.name)).Nodup)
    (compiled : compile dispatch elements = .ok plan) :
    List.Forall₂ (fun element entry => dispatch.entryFor element = .ok entry)
      elements plan.entries := by
  have distinctAll :
      (([] : List (PlanEntry W)).map PlanEntry.name ++ elements.map (·.name)).Nodup := distinct
  obtain ⟨added, equal, matched⟩ :=
    collect_distinct distinctAll (collect_of_compile compiled)
  rw [equal]
  exact matched

/-- Conversely, uniforms with new and different names that all have an entry are
collected. -/
theorem collect_of_matched {elements : List Element} {entries added : List (PlanEntry W)}
    (distinct : (entries.map PlanEntry.name ++ elements.map (·.name)).Nodup)
    (matched : List.Forall₂ (fun element entry => dispatch.entryFor element = .ok entry)
      elements added) :
    collect dispatch entries elements = .ok (entries ++ added) := by
  induction matched generalizing entries with
  | nil => rw [collect, List.append_nil]
  | @cons element head rest added compiled matchedRest ih =>
      have headName := (Dispatch.entryFor_eq_ok compiled).1
      rw [List.map_cons, ← headName] at distinct
      have fresh : head.name ∉ entries.map PlanEntry.name := fun known =>
        (List.nodup_append.mp distinct).2.2 _ known _ List.mem_cons_self rfl
      have distinctRest :
          ((entries ++ [head]).map PlanEntry.name ++ rest.map (·.name)).Nodup := by
        rwa [List.map_append, List.append_assoc]
      rw [collect, compiled]
      dsimp only
      rw [Keyed.put_of_notMem fresh, ih distinctRest, List.append_assoc, List.singleton_append]

/-- If each placed uniform has an entry, there is a list of all of them. -/
theorem exists_matched {elements : List Element}
    (each : ∀ element ∈ elements, ∃ entry, dispatch.entryFor element = .ok entry) :
    ∃ entries, List.Forall₂ (fun element entry => dispatch.entryFor element = .ok entry)
      elements entries := by
  induction elements with
  | nil => exact ⟨[], .nil⟩
  | cons element rest ih =>
      obtain ⟨entry, compiled⟩ := each element List.mem_cons_self
      obtain ⟨entries, matched⟩ := ih fun later member =>
        each later (List.mem_cons_of_mem _ member)
      exact ⟨entry :: entries, .cons compiled matched⟩

/-- What an entry has from its uniform, a list of entries has from its uniforms. -/
theorem map_eq_of_matched {elements : List Element} {entries : List (PlanEntry W)} {Field : Type}
    {ofEntry : PlanEntry W → Field} {ofElement : Element → Field}
    (matched : List.Forall₂ (fun element entry => dispatch.entryFor element = .ok entry)
      elements entries)
    (same : ∀ element entry, dispatch.entryFor element = .ok entry →
      ofElement element = ofEntry entry) :
    entries.map ofEntry = elements.map ofElement := by
  have fields : List.Forall₂ (· = ·) (elements.map ofElement) (entries.map ofEntry) := by
    rw [List.forall₂_map_left_iff, List.forall₂_map_right_iff]
    exact matched.imp same
  rw [List.forall₂_eq_eq_eq] at fields
  exact fields.symm

/-- Placed uniforms with different names that all have an entry are compiled. -/
theorem compile_of_matched {elements : List Element} {entries : List (PlanEntry W)}
    (distinct : (elements.map (·.name)).Nodup)
    (matched : List.Forall₂ (fun element entry => dispatch.entryFor element = .ok entry)
      elements entries) :
    compile dispatch elements = .ok { convention := dispatch.convention, entries } := by
  have distinctAll :
      (([] : List (PlanEntry W)).map PlanEntry.name ++ elements.map (·.name)).Nodup := distinct
  exact compile_of_collect (collect_of_matched distinctAll matched)

end Plan

end UniformBlock
