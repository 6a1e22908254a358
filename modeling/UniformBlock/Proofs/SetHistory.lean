import UniformBlock.UniformSet
import UniformBlock.Proofs.Compilation

/-!
# The history of a uniform set

A uniform set is an ordered map with a counter.  Whatever is asked of it, its uniforms
stand in the order in which they were first declared, each as it was declared last and
with the value that it was given last.  Only a value for a uniform that is not declared
is refused, and the counter counts everything else.  It is a natural number and never
wraps around.
-/

namespace UniformBlock.UniformSet

/-! ## Requests -/

/-- What can be asked of a uniform set. -/
inductive Request where
  | declare (declaration : Declaration)
  | declareSingle (name : String) (type : ShaderType) (value : Value)
  | declareArray (name : String) (type : ShaderType) (count : Nat) (value : Value)
  | set (name : String) (value : Value)
  | touch

namespace Request

/-- The declaration that a request makes. -/
def declaration? : Request → Option Declaration
  | declare declaration => some declaration
  | declareSingle name type value => some (.single name type value)
  | declareArray name type count value => some (.array name type count value)
  | set _ _ => none
  | touch => none

/-- The uniform that a request gives a value, and the value. -/
def given? : Request → Option (String × Value)
  | set name value => some (name, value)
  | request => request.declaration?.map fun declaration => (declaration.name, declaration.value)

end Request

/-- Do what is asked, or refuse it.  The answer is the set afterwards, with the reason for
a refusal. -/
def ask (uniforms : UniformSet) : Request → UniformSet × Option SyncError
  | .declare declaration => (uniforms.declare declaration, none)
  | .declareSingle name type value => (uniforms.declareSingle name type value, none)
  | .declareArray name type count value => (uniforms.declareArray name type count value, none)
  | .set name value => uniforms.set name value
  | .touch => (uniforms.touch, none)

/-- The set after a request, granted or refused. -/
def after (uniforms : UniformSet) (request : Request) : UniformSet :=
  (uniforms.ask request).1

/-- The set after several requests. -/
def afterAll (uniforms : UniformSet) (requests : List Request) : UniformSet :=
  requests.foldl after uniforms

/-- The requests that are not refused when they are made one after the other. -/
def granted (uniforms : UniformSet) : List Request → List Request
  | [] => []
  | request :: rest =>
      match uniforms.ask request with
      | (changed, none) => request :: changed.granted rest
      | (left, some _) => left.granted rest

/-! ## One request -/

variable {uniforms changed : UniformSet} {request : Request} {name : String} {value : Value}
  {error : SyncError}

theorem declaration?_eq_some_iff {declaration : Declaration} :
    uniforms.declaration? name = some declaration ↔
      declaration ∈ uniforms.declarations ∧ declaration.name = name := by
  rw [declaration?_eq]
  exact Keyed.get?_eq_some_iff uniforms.distinct

theorem declaration?_eq_none_iff :
    uniforms.declaration? name = none ↔ name ∉ uniforms.declarations.map Declaration.name := by
  rw [declaration?_eq, Keyed.get?, List.find?_eq_none, List.mem_map]
  simp

/-- The values that are looked up are those of the declarations. -/
theorem value?_eq_some_iff :
    uniforms.value? name = some value ↔
      ∃ declaration ∈ uniforms.declarations,
        declaration.name = name ∧ declaration.value = value := by
  rw [value?, Option.map_eq_some_iff]
  simp only [declaration?_eq_some_iff, and_assoc]

/-- What a set holds after a declaration: the new uniform, and the old ones of other names. -/
theorem mem_declare {declaration other : Declaration}
    (member : other ∈ (uniforms.declare declaration).declarations) :
    other = declaration ∨ (other ∈ uniforms.declarations ∧ other.name ≠ declaration.name) := by
  rw [declarations_declare] at member
  exact Keyed.mem_put uniforms.distinct member

/-- A granted request declares a uniform, gives a declared one a new value, or only counts. -/
theorem ask_eq_granted (done : uniforms.ask request = (changed, none)) :
    (∃ declaration, request.declaration? = some declaration ∧
        request.given? = some (declaration.name, declaration.value) ∧
        changed = uniforms.declare declaration) ∨
      (∃ declaration ∈ uniforms.declarations, ∃ value,
        request = .set declaration.name value ∧
        changed = uniforms.declare { declaration with value }) ∨
      (request = .touch ∧ changed = uniforms.touch) := by
  cases request with
  | declare declaration =>
      cases done
      exact .inl ⟨declaration, rfl, rfl, rfl⟩
  | declareSingle name type value =>
      cases done
      exact .inl ⟨.single name type value, rfl, rfl, rfl⟩
  | declareArray name type count value =>
      cases done
      exact .inl ⟨.array name type count value, rfl, rfl, rfl⟩
  | set name value =>
      obtain ⟨declaration, found, same⟩ := set_eq_granted done
      obtain ⟨member, rfl⟩ := declaration?_eq_some_iff.mp found
      exact .inr (.inl ⟨declaration, member, value, rfl, same⟩)
  | touch =>
      cases done
      exact .inr (.inr ⟨rfl, rfl⟩)

/-- Only a value for a uniform that is not declared is refused, and a refusal leaves the set
as it was. -/
theorem ask_eq_refused_iff :
    uniforms.ask request = (changed, some error) ↔
      changed = uniforms ∧ ∃ name value, request = .set name value ∧
        name ∉ uniforms.declarations.map Declaration.name ∧ error = .notFound name := by
  constructor
  · intro refused
    cases request with
    | set name value =>
        obtain ⟨same, missing, reported⟩ := set_eq_refused_iff.mp refused
        exact ⟨same, name, value, rfl, declaration?_eq_none_iff.mp missing, reported⟩
    | _ => cases refused
  · rintro ⟨same, name, value, rfl, unknown, reported⟩
    exact set_eq_refused_iff.mpr ⟨same, declaration?_eq_none_iff.mpr unknown, reported⟩

theorem set_granted_iff :
    (uniforms.set name value).2 = none ↔
      name ∈ uniforms.declarations.map Declaration.name := by
  rw [set]
  cases found : uniforms.declaration? name with
  | none => simp [declaration?_eq_none_iff.mp found]
  | some declaration =>
      obtain ⟨member, rfl⟩ := declaration?_eq_some_iff.mp found
      exact iff_of_true rfl (List.mem_map_of_mem member)

theorem changes_of_granted (done : uniforms.ask request = (changed, none)) :
    changed.changes = uniforms.changes + 1 := by
  rcases ask_eq_granted done with ⟨_, -, -, rfl⟩ | ⟨_, -, _, -, rfl⟩ | ⟨-, rfl⟩ <;> rfl

/-- A request is refused or counted. -/
theorem after_eq_or_changes_lt (uniforms : UniformSet) (request : Request) :
    uniforms.after request = uniforms ∨ uniforms.changes < (uniforms.after request).changes := by
  cases answer : (uniforms.ask request).2 with
  | some error => exact .inl (ask_eq_refused_iff.mp (Prod.ext rfl answer)).1
  | none =>
      have counted : (uniforms.after request).changes = uniforms.changes + 1 :=
        changes_of_granted (Prod.ext rfl answer)
      rw [counted]
      exact .inr (Nat.lt_succ_self _)

/-! ## Many requests -/

/-- A set that shows what was asked of it: `asked` are all requests, and `past` those that
were granted. -/
structure Records (asked past : List Request) (uniforms : UniformSet) : Prop where
  /-- The names stand in the order in which they were first declared. -/
  names : uniforms.declarations.map Declaration.name =
    ((asked.filterMap Request.declaration?).map Declaration.name).eraseDups
  /-- The type and the number of entries are those of the last declaration. -/
  declared : ∀ declaration ∈ uniforms.declarations, ∃ last,
    Keyed.last? Declaration.name (asked.filterMap Request.declaration?) declaration.name =
        some last ∧
      declaration.type = last.type ∧ declaration.count = last.count
  /-- The value is the last one that was declared or set. -/
  given : ∀ declaration ∈ uniforms.declarations,
    Keyed.last? Prod.fst (past.filterMap Request.given?) declaration.name =
      some (declaration.name, declaration.value)
  changes : uniforms.changes = past.length

namespace Records

variable {asked past : List Request} {declaration : Declaration}

/-- One more request counts one more change. -/
theorem count (records : uniforms.Records asked past) (request : Request) :
    uniforms.changes + 1 = (past ++ [request]).length := by
  rw [List.length_append, List.length_singleton, records.changes]

theorem start : empty.Records [] [] where
  names := rfl
  declared _ member := absurd member List.not_mem_nil
  given _ member := absurd member List.not_mem_nil
  changes := rfl

/-- A request that declares nothing adds no declaration. -/
theorem declarations_concat_of_none (asked : List Request)
    (silent : request.declaration? = none) :
    (asked ++ [request]).filterMap Request.declaration? =
      asked.filterMap Request.declaration? := by
  rw [List.filterMap_append, List.filterMap_cons_none silent, List.filterMap_nil, List.append_nil]

/-- A refused request leaves no trace. -/
theorem refuse (records : uniforms.Records asked past)
    (refused : uniforms.ask request = (changed, some error)) :
    changed.Records (asked ++ [request]) past := by
  obtain ⟨rfl, name, value, rfl, -, -⟩ := ask_eq_refused_iff.mp refused
  have silent : (Request.set name value).declaration? = none := rfl
  have same := declarations_concat_of_none asked silent
  constructor
  · rw [same, records.names]
  · rw [same]
    exact records.declared
  · exact records.given
  · exact records.changes

/-- A request that gives a uniform a value overrides the earlier ones. -/
theorem given_declare (records : uniforms.Records asked past)
    (gives : request.given? = some (declaration.name, declaration.value)) :
    ∀ other ∈ (uniforms.declare declaration).declarations,
      Keyed.last? Prod.fst ((past ++ [request]).filterMap Request.given?) other.name =
        some (other.name, other.value) := by
  intro other member
  rw [List.filterMap_append, List.filterMap_cons_some gives, List.filterMap_nil,
    Keyed.last?_concat]
  rcases mem_declare member with rfl | ⟨before, different⟩
  · exact if_pos rfl
  · rw [if_neg (Ne.symm different)]
    exact records.given other before

theorem declare (records : uniforms.Records asked past)
    (declares : request.declaration? = some declaration)
    (gives : request.given? = some (declaration.name, declaration.value)) :
    (uniforms.declare declaration).Records (asked ++ [request]) (past ++ [request]) := by
  have added : (asked ++ [request]).filterMap Request.declaration? =
      asked.filterMap Request.declaration? ++ [declaration] := by
    rw [List.filterMap_append, List.filterMap_cons_some declares, List.filterMap_nil]
  constructor
  · rw [added, List.map_append]
    rw [declarations_declare]
    exact Keyed.map_put_of_seen records.names
  · intro other member
    rw [added, Keyed.last?_concat]
    rcases mem_declare member with rfl | ⟨before, different⟩
    · exact ⟨other, if_pos rfl, rfl, rfl⟩
    · rw [if_neg (Ne.symm different)]
      exact records.declared other before
  · exact records.given_declare gives
  · exact records.count _

/-- A new value leaves the type and the number of entries as they were declared. -/
theorem set (records : uniforms.Records asked past)
    (known : declaration ∈ uniforms.declarations) (value : Value) :
    (uniforms.declare { declaration with value }).Records
      (asked ++ [Request.set declaration.name value])
      (past ++ [Request.set declaration.name value]) := by
  have silent : (Request.set declaration.name value).declaration? = none := rfl
  have same := declarations_concat_of_none asked silent
  constructor
  · rw [same, ← records.names]
    rw [declarations_declare, Keyed.map_put]
    exact if_pos (List.mem_map_of_mem known)
  · intro other member
    rw [same]
    rcases mem_declare member with rfl | ⟨before, -⟩
    · exact records.declared declaration known
    · exact records.declared other before
  · exact records.given_declare rfl
  · exact records.count _

theorem touch (records : uniforms.Records asked past) :
    uniforms.touch.Records (asked ++ [Request.touch]) (past ++ [Request.touch]) := by
  have silent : Request.touch.declaration? = none := rfl
  have sameDeclared := declarations_concat_of_none asked silent
  have sameGiven : (past ++ [Request.touch]).filterMap Request.given? =
      past.filterMap Request.given? := by
    simp [Request.given?, Request.declaration?]
  constructor
  · rw [sameDeclared]
    exact records.names
  · rw [sameDeclared]
    exact records.declared
  · rw [sameGiven]
    exact records.given
  · exact records.count _

theorem grant (records : uniforms.Records asked past)
    (done : uniforms.ask request = (changed, none)) :
    changed.Records (asked ++ [request]) (past ++ [request]) := by
  rcases ask_eq_granted done with ⟨_, declares, gives, rfl⟩ | ⟨_, known, value, rfl, rfl⟩ | ⟨rfl, rfl⟩
  · exact records.declare declares gives
  · exact records.set known value
  · exact records.touch

theorem run (records : uniforms.Records asked past) (requests : List Request) :
    (uniforms.afterAll requests).Records (asked ++ requests)
      (past ++ uniforms.granted requests) := by
  induction requests generalizing uniforms asked past with
  | nil =>
      rw [granted, List.append_nil, List.append_nil]
      exact records
  | cons request rest ih =>
      -- The invariant speaks of all that was asked so far, which grows at its end.
      rw [afterAll, List.foldl_cons, List.append_cons, granted, after]
      rcases answer : uniforms.ask request with ⟨changed, _ | error⟩
      · dsimp only
        rw [List.append_cons past]
        exact ih (records.grant answer)
      · exact ih (records.refuse answer)

end Records

/-! ## The laws of a set -/

/-- An ordered map of the declared names with a counter of its changes. -/
structure OrderedMap (declared : List String) (uniforms : UniformSet) : Prop where
  distinct : (uniforms.declarations.map Declaration.name).Nodup
  lookup : ∀ name value, uniforms.value? name = some value ↔
    ∃ declaration ∈ uniforms.declarations, declaration.name = name ∧ declaration.value = value
  absent : ∀ name, uniforms.value? name = none ↔ name ∉ declared
  set_iff : ∀ name value, (uniforms.set name value).2 = none ↔ name ∈ declared
  /-- Only setting a value can fail, and then the set stays as it was. -/
  refused : ∀ request error, (uniforms.ask request).2 = some error →
    uniforms.after request = uniforms ∧ ∃ name value, request = .set name value ∧
      name ∉ declared ∧ error = .notFound name
  granted : ∀ request, (uniforms.ask request).2 = none →
    (uniforms.after request).changes = uniforms.changes + 1
  /-- No change goes unnoticed. -/
  increases : ∀ request, uniforms.after request ≠ uniforms →
    uniforms.changes < (uniforms.after request).changes

theorem orderedMap {declared : List String}
    (names : uniforms.declarations.map Declaration.name = declared.eraseDups) :
    uniforms.OrderedMap declared := by
  have known (name : String) :
      name ∈ uniforms.declarations.map Declaration.name ↔ name ∈ declared := by
    rw [names, List.mem_eraseDups]
  constructor
  case distinct => exact uniforms.distinct
  case lookup => exact fun name value => value?_eq_some_iff
  case absent =>
      intro name
      rw [value?, Option.map_eq_none_iff, declaration?_eq_none_iff, known]
  case set_iff =>
      intro name value
      rw [← known]
      exact set_granted_iff
  case refused =>
      intro request error refused
      obtain ⟨same, name, value, asked, unknown, reported⟩ :=
        ask_eq_refused_iff.mp (Prod.ext rfl refused)
      exact ⟨same, name, value, asked, fun member => unknown ((known name).mpr member), reported⟩
  case granted => exact fun request done => changes_of_granted (Prod.ext rfl done)
  case increases =>
      exact fun request different =>
        (uniforms.after_eq_or_changes_lt request).resolve_left different

/-- Whatever is asked of an empty set, it is an ordered map of the declared names that shows
the latest declarations and values, and its counter tells how many requests were granted. -/
theorem records_requests (requests : List Request) :
    (empty.afterAll requests).Records requests (empty.granted requests) ∧
      (empty.afterAll requests).OrderedMap
        ((requests.filterMap Request.declaration?).map Declaration.name) := by
  have records : (empty.afterAll requests).Records requests (empty.granted requests) :=
    Records.start.run requests
  exact ⟨records, orderedMap records.names⟩

/-- A uniform that is declared anew keeps its place, and a refused value does not count. -/
example :
    let uniforms := empty.afterAll [.declareSingle "gain" (.scalar .f32) (.scalar .one),
      .declareSingle "tint" (.vector .f32 2) (.point .one .one), .set "level" (.scalar .one),
      .declareArray "gain" (.scalar .i32) 2 (.flat [.one, .zero])]
    uniforms.declarations.map Declaration.name = ["gain", "tint"] ∧
      uniforms.value? "gain" = some (.flat [.one, .zero]) ∧ uniforms.changes = 3 := by
  decide

end UniformBlock.UniformSet
