import UniformBlock.Declaration
import UniformBlock.Error
import UniformBlock.Keyed
import UniformBlock.Plan

/-!
# Uniform sets

The uniforms of one shader with their current values, in the order in which
they were first declared.  No name is declared twice, and an index tells the slot
of each.  A counter of changes tells whether anything happened since an earlier
look.
-/

namespace UniformBlock

/-- Declared uniforms, the slot of each, and the number of changes made to them. -/
structure UniformSet where
  declarations : List Declaration := []
  index : List (String × Nat) := []
  changes : Nat := 0
  indexed : Keyed.Indexes index (declarations.map Declaration.name) := by exact Keyed.Indexes.nil
  deriving DecidableEq, Repr

namespace UniformSet

/-- The set without any uniform. -/
def empty : UniformSet :=
  {}

/-- Declare a uniform; a known name is declared anew in its old place. -/
def declare (uniforms : UniformSet) (declaration : Declaration) : UniformSet :=
  let placed := Keyed.putAt Declaration.name declaration uniforms.declarations uniforms.index
  { declarations := placed.1
    index := placed.2
    changes := uniforms.changes + 1
    indexed := uniforms.indexed.putAt declaration }

/-- Declare a single uniform. -/
def declareSingle (uniforms : UniformSet) (name : String) (type : ShaderType) (value : Value) :
    UniformSet :=
  uniforms.declare (.single name type value)

/-- Declare an array of `count` entries. -/
def declareArray (uniforms : UniformSet) (name : String) (type : ShaderType) (count : Nat)
    (value : Value) : UniformSet :=
  uniforms.declare (.array name type count value)

/-- The declaration of a uniform. -/
def declaration? (uniforms : UniformSet) (name : String) : Option Declaration :=
  (Keyed.slot? uniforms.index name).bind fun slot => uniforms.declarations[slot]?

/-- The current value of a uniform. -/
def value? (uniforms : UniformSet) (name : String) : Option Value :=
  (uniforms.declaration? name).map Declaration.value

/-- Give a declared uniform a new value.  The answer is the set afterwards, with the
reason why the value was refused, if it was. -/
def set (uniforms : UniformSet) (name : String) (value : Value) : UniformSet × Option SyncError :=
  match uniforms.declaration? name with
  | none => (uniforms, some (.notFound name))
  | some declaration => (uniforms.declare { declaration with value }, none)

/-- Count a change without making one. -/
def touch (uniforms : UniformSet) : UniformSet :=
  { uniforms with changes := uniforms.changes + 1 }

/-- The values of the set, as a plan reads them. -/
def source (uniforms : UniformSet) : Source :=
  uniforms.value?

variable {uniforms changed : UniformSet} {name : String} {value : Value}

/-- A value that is granted is declared with what else is known of its uniform. -/
theorem set_eq_granted (granted : uniforms.set name value = (changed, none)) :
    ∃ declaration, uniforms.declaration? name = some declaration ∧
      changed = uniforms.declare { declaration with value } := by
  rw [set] at granted
  split at granted
  · cases granted
  · rename_i declaration found
    cases granted
    exact ⟨declaration, found, rfl⟩

/-- A value is refused for a name that is not declared, and then the set stays as it was. -/
theorem set_eq_refused_iff {error : SyncError} :
    uniforms.set name value = (changed, some error) ↔
      changed = uniforms ∧ uniforms.declaration? name = none ∧ error = .notFound name := by
  rw [set]
  cases uniforms.declaration? name with
  | none => simp [eq_comm]
  | some declaration => simp

/-! ## What the index stands for -/

theorem distinct (uniforms : UniformSet) : (uniforms.declarations.map Declaration.name).Nodup :=
  uniforms.indexed.nodup

theorem declarations_declare (uniforms : UniformSet) (declaration : Declaration) :
    (uniforms.declare declaration).declarations =
      Keyed.put Declaration.name declaration uniforms.declarations :=
  uniforms.indexed.putAt_eq declaration

theorem declaration?_eq (uniforms : UniformSet) (name : String) :
    uniforms.declaration? name = Keyed.get? Declaration.name uniforms.declarations name :=
  (uniforms.indexed.get?_eq name).symm

end UniformSet

end UniformBlock
