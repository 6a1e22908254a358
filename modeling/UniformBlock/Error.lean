import UniformBlock.Settings
import UniformBlock.ShaderType
import UniformBlock.Text

/-!
# Failures

What can go wrong when a type tag is read and when a layout is built or compiled, what can
go wrong when values are written into a buffer, and which steps of a computation on sizes
cannot be taken.  Each failure is recorded by its cause; its wording is a function of the
cause.
-/

namespace UniformBlock

/-- A failure found once, before any value is written. -/
inductive LayoutError where
  /-- The text names no type of the language; it is kept as it was given. -/
  | unknownType (text : String)
  /-- The convention's tables say nothing about the type. -/
  | unsupportedType (name : String) (type : ShaderType) (convention : Convention)
  /-- The sample value does not split evenly into the array's entries. -/
  | inconsistentSample (name : String) (sampleCount count : Nat)
  /-- The declaration has no entries at all. -/
  | emptyArray (name : String)
  deriving DecidableEq, Repr

/-- The wording of a layout failure. -/
def LayoutError.message : LayoutError → String
  | unknownType text => "Unknown uniform type tag: " ++ Text.quote text
  | unsupportedType name type convention =>
      "Unsupported uniform type " ++ type.spelling ++ " for uniform " ++ name ++ " (" ++
        convention.name ++ " layout)"
  | inconsistentSample name sampleCount count =>
      "Sample value for uniform " ++ name ++ " has " ++ toString sampleCount ++
        " components, which does not split into " ++ toString count ++ " array entries"
  | emptyArray name => "Uniform " ++ name ++ " declares an array size of zero"

/-- A failure of one write pass. -/
inductive SyncError where
  /-- The source has no value for the uniform. -/
  | notFound (name : String)
  /-- A write would leave the buffer. -/
  | outOfRange (name : String) (offset length bufferLength : Nat)
  /-- The value has too few components. -/
  | valueShape (name : String) (expected actual : Nat)
  /-- The value is not of the shape that the writer lays out. -/
  | valueKind (name : String) (expected : String)
  deriving DecidableEq, Repr

namespace SyncError

/-- The uniform whose write failed. -/
def name : SyncError → String
  | notFound name => name
  | outOfRange name _ _ _ => name
  | valueShape name _ _ => name
  | valueKind name _ => name

/-- The wording of a write failure. -/
def message : SyncError → String
  | notFound name => "Uniform not found: " ++ name
  | outOfRange name offset length bufferLength =>
      "Write for uniform " ++ name ++ " out of range: " ++ toString length ++
        " floats at offset " ++ toString offset ++ ", buffer holds " ++ toString bufferLength
  | valueShape name expected actual =>
      "Value for uniform " ++ name ++ " has " ++ toString actual ++ " components, expected " ++
        toString expected
  | valueKind name expected => "Value for uniform " ++ name ++ " is not a " ++ expected

end SyncError

/-! ## Faults -/

/-- An operation whose result may be no size. -/
inductive SizeOperation where
  | add
  | subtract
  | multiply
  deriving DecidableEq, Repr

/-- A step of a computation on sizes that cannot be taken. -/
inductive Fault where
  /-- The result of an operation does not fit in a machine word. -/
  | overflow (operation : SizeOperation)
  /-- A quotient is asked for with a divisor of zero. -/
  | noQuotient
  /-- A remainder is asked for with a divisor of zero. -/
  | noRemainder
  deriving DecidableEq, Repr

/-- The wording of a fault. -/
def Fault.message : Fault → String
  | overflow .add => "attempt to add with overflow"
  | overflow .subtract => "attempt to subtract with overflow"
  | overflow .multiply => "attempt to multiply with overflow"
  | noQuotient => "attempt to divide by zero"
  | noRemainder => "attempt to calculate the remainder with a divisor of zero"

/-- Why a computation ends without a result: it was refused for a reason, or it came to a
step that cannot be taken. -/
inductive Stop (Reason : Type) where
  | refused (reason : Reason)
  | fault (fault : Fault)
  deriving DecidableEq, Repr

/-- The result of building or compiling a layout, if there is one. -/
abbrev Attempt (Result : Type) :=
  Except (Stop LayoutError) Result

/-! ## Results -/

/-- A computation goes on from a success of its first part. -/
@[simp]
theorem ok_bind {Failure First Result : Type} (value : First)
    (next : First → Except Failure Result) : (.ok value >>= next) = next value :=
  rfl

/-- A failure of its first part ends a computation. -/
@[simp]
theorem error_bind {Failure First Result : Type} (failure : Failure)
    (next : First → Except Failure Result) : (.error failure >>= next) = .error failure :=
  rfl

/-- A computation succeeds only by way of its first part. -/
theorem bind_eq_ok {Failure First Result : Type} {first : Except Failure First}
    {next : First → Except Failure Result} {result : Result}
    (ends : (first >>= next) = .ok result) :
    ∃ value, first = .ok value ∧ next value = .ok result := by
  cases first with
  | error failure => cases ends
  | ok value => exact ⟨value, rfl, ends⟩

/-- A mapped result is a success exactly when the result is one. -/
theorem map_eq_ok_iff {Failure First Second : Type} {change : First → Second}
    {result : Except Failure First} {changed : Second} :
    result.map change = .ok changed ↔ ∃ value, result = .ok value ∧ change value = changed := by
  cases result <;> simp [Except.map]

/-- A mapped result fails exactly as the result does. -/
theorem map_eq_error_iff {Failure First Second : Type} {change : First → Second}
    {result : Except Failure First} {failure : Failure} :
    result.map change = .error failure ↔ result = .error failure := by
  cases result <;> simp [Except.map]

/-- Either all items of a list succeed, or there is a first one that fails. -/
theorem all_ok_or_first_error {Failure Item Value : Type} (check : Item → Except Failure Value)
    (items : List Item) :
    (∀ item ∈ items, ∃ value, check item = .ok value) ∨
      ∃ before item after failure, items = before ++ item :: after ∧
        (∀ earlier ∈ before, ∃ value, check earlier = .ok value) ∧
        check item = .error failure := by
  induction items with
  | nil => exact .inl fun item member => absurd member List.not_mem_nil
  | cons first rest ih =>
      cases checked : check first with
      | error failure =>
          exact .inr ⟨[], first, rest, failure, rfl, fun earlier member =>
            absurd member List.not_mem_nil, checked⟩
      | ok value =>
          rcases ih with all | ⟨before, item, after, failure, rfl, passed, failed⟩
          · exact .inl (List.forall_mem_cons.mpr ⟨⟨value, checked⟩, all⟩)
          · exact .inr ⟨first :: before, item, after, failure, rfl,
              List.forall_mem_cons.mpr ⟨⟨value, checked⟩, passed⟩, failed⟩

end UniformBlock
