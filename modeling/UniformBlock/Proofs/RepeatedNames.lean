import UniformBlock.Proofs.CompiledBlock

/-!
# Repeated names

A plan has one entry for each name.  It comes where the name came first, and it is
made from the last uniform of the name.  A uniform that cannot be written ends the
compilation all the same when a later one takes its name: the first such uniform is
reported.
-/

namespace UniformBlock

/-! ## The writer of one uniform -/

/-- Whether a specialist is for the type of a uniform and the uniform passes its test. -/
def Specialist.Suits {W : Type} (specialist : Specialist W) (element : Element) : Prop :=
  specialist.type = element.type ∧ specialist.test element = true

/-- The rule by which a uniform gets its writer, or is refused: from the first specialist
that suits it, or else by its type when it is single, or else as an array. -/
inductive Dispatch.Rule {W : Type} (dispatch : Dispatch W) (element : Element) :
    Attempt (Route × W) → Prop where
  | emptyArray (absent : element.count = 0) :
      Rule dispatch element (.error (.refused (.emptyArray element.name)))
  | specialist {earlier later : List (Specialist W)} {first : Specialist W}
      (present : element.count ≠ 0)
      (registered : dispatch.specialists = earlier ++ first :: later)
      (suits : first.Suits element) (others : ∀ other ∈ earlier, ¬ other.Suits element) :
      Rule dispatch element (.ok (.specialist first.label, first.writer))
  | direct {writer : W} (unclaimed : ∀ other ∈ dispatch.specialists, ¬ other.Suits element)
      (single : element.count = 1)
      (known : dispatch.direct.writer? element.type = some writer) :
      Rule dispatch element (.ok (.direct, writer))
  | unsupported (unclaimed : ∀ other ∈ dispatch.specialists, ¬ other.Suits element)
      (single : element.count = 1) (unknown : dispatch.direct.writer? element.type = none) :
      Rule dispatch element (.error
        (.refused (.unsupportedType element.name element.type dispatch.arrays.convention)))
  | array {writer : W} (unclaimed : ∀ other ∈ dispatch.specialists, ¬ other.Suits element)
      (several : 1 < element.count) (created : dispatch.arrays.writerFor element = .ok writer) :
      Rule dispatch element (.ok (.array, writer))
  | refusedArray {stop : Stop LayoutError}
      (unclaimed : ∀ other ∈ dispatch.specialists, ¬ other.Suits element)
      (several : 1 < element.count) (refused : dispatch.arrays.writerFor element = .error stop) :
      Rule dispatch element (.error stop)

namespace Specialist

variable {W : Type}

theorem find?_eq_none_iff {specialists : List (Specialist W)} {element : Element} :
    find? specialists element = none ↔ ∀ other ∈ specialists, ¬ other.Suits element := by
  rw [find?, List.find?_eq_none]
  simp only [accepts_iff, Suits]

/-- The specialist that is found is the first one that suits. -/
theorem find?_eq_some_iff {specialists : List (Specialist W)} {element : Element}
    {specialist : Specialist W} :
    find? specialists element = some specialist ↔
      ∃ earlier later, specialists = earlier ++ specialist :: later ∧
        specialist.Suits element ∧ ∀ other ∈ earlier, ¬ other.Suits element := by
  rw [find?, List.find?_eq_some_iff_append]
  simp only [Bool.not_eq_true', ← Bool.not_eq_true, accepts_iff, Suits]
  constructor
  · rintro ⟨suits, earlier, later, registered, others⟩
    exact ⟨earlier, later, registered, suits, others⟩
  · rintro ⟨earlier, later, registered, suits, others⟩
    exact ⟨suits, earlier, later, registered, others⟩

end Specialist

namespace Dispatch

variable {W : Type} {dispatch : Dispatch W} {element : Element} {result : Attempt (Route × W)}

/-- The chosen writer follows the rule. -/
theorem rule_choose (dispatch : Dispatch W) (element : Element) :
    dispatch.Rule element (dispatch.choose element) := by
  rw [choose]
  split
  · rename_i absent
    exact .emptyArray absent
  · rename_i present
    split
    · rename_i specialist found
      obtain ⟨earlier, later, registered, suits, others⟩ := Specialist.find?_eq_some_iff.mp found
      exact .specialist present registered suits others
    · rename_i notFound
      have unclaimed := Specialist.find?_eq_none_iff.mp notFound
      split
      · rename_i single
        split
        · rename_i writer known
          exact .direct unclaimed single known
        · rename_i unknown
          exact .unsupported unclaimed single unknown
      · have several : 1 < element.count := by omega
        cases created : dispatch.arrays.writerFor element with
        | error error => exact .refusedArray unclaimed several created
        | ok writer => exact .array unclaimed several created

/-- The rule leaves no choice. -/
theorem Rule.eq_choose (rule : dispatch.Rule element result) :
    dispatch.choose element = result := by
  cases rule with
  | emptyArray absent => rw [choose, if_pos absent]
  | specialist present registered suits others =>
      rw [choose, if_neg present,
        Specialist.find?_eq_some_iff.mpr ⟨_, _, registered, suits, others⟩]
  | direct unclaimed single known =>
      rw [choose, if_neg (by omega), Specialist.find?_eq_none_iff.mpr unclaimed]
      dsimp only
      rw [if_pos single, known]
  | unsupported unclaimed single unknown =>
      rw [choose, if_neg (by omega), Specialist.find?_eq_none_iff.mpr unclaimed]
      dsimp only
      rw [if_pos single, unknown]
      rfl
  | array unclaimed several created =>
      rw [choose, if_neg (by omega), Specialist.find?_eq_none_iff.mpr unclaimed]
      dsimp only
      rw [if_neg (by omega), created]
      rfl
  | refusedArray unclaimed several refused =>
      rw [choose, if_neg (by omega), Specialist.find?_eq_none_iff.mpr unclaimed]
      dsimp only
      rw [if_neg (by omega), refused]
      rfl

theorem rule_iff : dispatch.Rule element result ↔ dispatch.choose element = result := by
  constructor
  · exact Rule.eq_choose
  · rintro rfl
    exact rule_choose dispatch element

theorem entryFor_of_error {error : Stop LayoutError}
    (refused : dispatch.choose element = .error error) :
    dispatch.entryFor element = .error error := by
  rw [entryFor, refused]
  rfl

end Dispatch

namespace Plan

/-! ## The entries of a plan -/

variable {W : Type} {dispatch : Dispatch W} {entries result : List (PlanEntry W)}
  {elements : List Element}

/-- Collecting adds the names of the uniforms in the order in which they first came. -/
theorem names_of_collect {seen : List String}
    (kept : entries.map PlanEntry.name = seen.eraseDups)
    (collected : collect dispatch entries elements = .ok result) :
    result.map PlanEntry.name = (seen ++ elements.map (·.name)).eraseDups := by
  induction elements generalizing entries seen with
  | nil =>
      cases collected
      rw [List.map_nil, List.append_nil, kept]
  | cons element rest ih =>
      obtain ⟨entry, compiled, collectedRest⟩ := collect_cons collected
      have named := (Dispatch.entryFor_eq_ok compiled).1
      have keptNow : (Keyed.put PlanEntry.name entry entries).map PlanEntry.name =
          (seen ++ [entry.name]).eraseDups :=
        Keyed.map_put_of_seen kept
      rw [named] at keptNow
      rw [ih keptNow collectedRest, List.map_cons, List.append_assoc, List.singleton_append]

/-- Collecting keeps names apart. -/
theorem distinct_of_collect (distinct : (entries.map PlanEntry.name).Nodup)
    (collected : collect dispatch entries elements = .ok result) :
    (result.map PlanEntry.name).Nodup := by
  induction elements generalizing entries with
  | nil =>
      cases collected
      exact distinct
  | cons element rest ih =>
      obtain ⟨entry, -, collectedRest⟩ := collect_cons collected
      exact ih (Keyed.nodup_map_put _ _ distinct) collectedRest

/-- A uniform that is refused ends the collection, whatever comes after it. -/
theorem collect_of_refused {before after : List Element} {element : Element}
    {error : Stop LayoutError}
    (written : ∀ earlier ∈ before, ∃ choice, dispatch.choose earlier = .ok choice)
    (refused : dispatch.choose element = .error error) (entries : List (PlanEntry W)) :
    collect dispatch entries (before ++ element :: after) = .error error := by
  induction before generalizing entries with
  | nil => rw [List.nil_append, collect, Dispatch.entryFor_of_error refused]
  | cons first rest ih =>
      obtain ⟨choice, chosen⟩ := written first List.mem_cons_self
      have compiled : dispatch.entryFor first = .ok _ := map_eq_ok_iff.mpr ⟨choice, chosen, rfl⟩
      rw [List.cons_append, collect, compiled]
      exact ih (fun earlier member => written earlier (List.mem_cons_of_mem _ member)) _

/-- Uniforms that all get a writer are collected. -/
theorem collect_of_chosen
    (written : ∀ element ∈ elements, ∃ choice, dispatch.choose element = .ok choice)
    (entries : List (PlanEntry W)) : ∃ result, collect dispatch entries elements = .ok result := by
  induction elements generalizing entries with
  | nil => exact ⟨entries, rfl⟩
  | cons element rest ih =>
      obtain ⟨choice, chosen⟩ := written element List.mem_cons_self
      have compiled : dispatch.entryFor element = .ok _ := map_eq_ok_iff.mpr ⟨choice, chosen, rfl⟩
      rw [collect, compiled]
      exact ih (fun later member => written later (List.mem_cons_of_mem _ member)) _

/-- Of a list of uniforms, either all get a writer, or there is a first one that is
refused. -/
theorem all_chosen_or_first_refused (dispatch : Dispatch W) (elements : List Element) :
    (∀ element ∈ elements, ∃ choice, dispatch.choose element = .ok choice) ∨
      ∃ before element after error, elements = before ++ element :: after ∧
        (∀ earlier ∈ before, ∃ choice, dispatch.choose earlier = .ok choice) ∧
        dispatch.choose element = .error error :=
  all_ok_or_first_error dispatch.choose elements

/-- A plan whose entries come from the last uniforms of their names, in the order in which
the names first came. -/
structure FollowsLast (dispatch : Dispatch W) (elements : List Element) (plan : Plan W) : Prop where
  convention : plan.convention = dispatch.arrays.convention
  names : plan.entries.map PlanEntry.name = (elements.map (·.name)).eraseDups
  /-- The rest of an entry is that of the last uniform of its name. -/
  last : ∀ entry ∈ plan.entries, ∃ before element after,
    elements = before ++ element :: after ∧ (∀ later ∈ after, later.name ≠ element.name) ∧
      entry.name = element.name ∧ entry.offset = element.byteOffset / 4 ∧
      dispatch.Rule element (.ok (entry.route, entry.writer))
  /-- The entry of a name is found, and no other. -/
  lookup : ∀ name entry,
    plan.entry? name = some entry ↔ entry ∈ plan.entries ∧ entry.name = name

theorem followsLast_of_compile {plan : Plan W} (compiled : compile dispatch elements = .ok plan) :
    plan.FollowsLast dispatch elements := by
  have collected := collect_of_compile compiled
  have distinct : (([] : List (PlanEntry W)).map PlanEntry.name).Nodup := List.nodup_nil
  have unseen : ([] : List (PlanEntry W)).map PlanEntry.name = [].eraseDups := rfl
  constructor
  case convention =>
      obtain ⟨entries, -, rfl⟩ := map_eq_ok_iff.mp compiled
      rfl
  case names => exact names_of_collect unseen collected
  case last =>
      intro entry member
      obtain ⟨element, last, compiledEntry⟩ := compile_last compiled member
      obtain ⟨before, after, split, named, others⟩ := Keyed.split_of_last? last
      obtain ⟨-, offset, chosen⟩ := Dispatch.entryFor_eq_ok compiledEntry
      refine ⟨before, element, after, split, ?_, named.symm, offset, Dispatch.rule_iff.mpr chosen⟩
      intro later inAfter
      rw [named]
      exact others later inAfter
  case lookup =>
      intro name entry
      exact Keyed.get?_eq_some_iff (distinct_of_collect distinct collected)

/-- Compiling fails exactly when some uniform is refused, and reports the first one.
Otherwise the last uniform of each name decides about the entry, which stays where the
name came first. -/
theorem compile_follows_last (dispatch : Dispatch W) (elements : List Element) :
    (∀ error, compile dispatch elements = .error error ↔
      ∃ before element after, elements = before ++ element :: after ∧
        (∀ earlier ∈ before, ∃ choice, dispatch.Rule earlier (.ok choice)) ∧
        dispatch.Rule element (.error error)) ∧
      ((∀ element ∈ elements, ∃ choice, dispatch.Rule element (.ok choice)) →
        ∃ plan, compile dispatch elements = .ok plan ∧ plan.FollowsLast dispatch elements) := by
  simp only [Dispatch.rule_iff]
  constructor
  · intro error
    constructor
    · intro failed
      rcases all_chosen_or_first_refused dispatch elements with
        all | ⟨before, element, after, first, split, written, refused⟩
      · obtain ⟨entries, collected⟩ := collect_of_chosen all []
        rw [compile_of_collect collected] at failed
        cases failed
      · rw [compile_eq, split, collect_of_refused written refused] at failed
        cases failed
        exact ⟨before, element, after, split, written, refused⟩
    · rintro ⟨before, element, after, rfl, written, refused⟩
      rw [compile_eq, collect_of_refused written refused]
      rfl
  · intro all
    obtain ⟨entries, collected⟩ := collect_of_chosen all []
    have compiled := compile_of_collect collected
    exact ⟨_, compiled, followsLast_of_compile compiled⟩

/-- The later gain takes the place of the earlier one. -/
example :
    (compile { specialists := [], direct := .std140, arrays := .unsupported .std140 }
        [{ name := "gain", type := .scalar .f32, count := 1, value := .scalar .one,
            byteOffset := 0 },
          { name := "tint", type := .vector .f32 2, count := 1, value := .point .one .one,
            byteOffset := 8 },
          { name := "gain", type := .vector .f32 2, count := 1, value := .point .one .one,
            byteOffset := 16 }]).map Plan.entries =
      .ok [⟨"gain", 4, .direct, .vector 2⟩, ⟨"tint", 2, .direct, .vector 2⟩] := by
  rfl

end Plan

end UniformBlock
