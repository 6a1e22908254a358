import UniformBlock.Proofs.CompiledBlock

/-!
# Values as they are laid out

Which components the standard writers make of the value of a uniform, and when
there are too few of them.  A value that no specialist takes over is laid out
component by component, and it has to fill its type; a specialist always finds
the components that it needs.
-/

namespace UniformBlock

/-- The components of a uniform in the order in which its rows take them.  A
single plane transform becomes the nine components of a matrix. -/
def Declaration.laidOut (declaration : Declaration) : List Binary32 :=
  match declaration.type, declaration.value, declaration.isArray with
  | .matrix 3 3, .affine a b c d tx ty, false => (Writer.affineColumns a b c d tx ty).flatten
  | _, value, _ => value.components

namespace Declaration

end Declaration

namespace Specialist

/-- A standard specialist accepts the values that it takes over, and finds all
components that it needs. -/
theorem parts?_of_tested {specialist : Specialist} (known : specialist ∈ standard)
    {element : Element} (sameType : specialist.type = element.type)
    (tested : specialist.test element = true) :
    specialist.writer.parts? element.value = some element.laidOut ∧
      specialist.writer.pattern.valueCount ≤ element.laidOut.length := by
  obtain ⟨⟨name, type, count, value⟩, byteOffset⟩ := element
  rcases mem_standard_iff.mp known with rfl | rfl | rfl | rfl | rfl
  · obtain ⟨single, shape⟩ := singleOf_iff.mp tested
    cases single
    cases sameType
    cases value
    case affine => exact ⟨rfl, Nat.le_refl 9⟩
    all_goals simp [Value.shape] at shape
  · obtain ⟨single, shape⟩ := singleOf_iff.mp tested
    cases sameType
    cases value
    case rect => exact ⟨rfl, Nat.le_refl 4⟩
    all_goals simp [Value.shape] at shape
  · obtain ⟨single, shape⟩ := singleOf_iff.mp tested
    cases sameType
    cases value
    case point => exact ⟨rfl, Nat.le_refl 2⟩
    all_goals simp [Value.shape] at shape
  · obtain ⟨single, shape⟩ := singleOf_iff.mp tested
    cases sameType
    cases value
    case color => exact ⟨rfl, Nat.le_refl 4⟩
    all_goals simp [Value.shape] at shape
  · obtain ⟨single, shape⟩ := singleOf_iff.mp tested
    cases sameType
    cases value
    case color => exact ⟨rfl, Nat.le_succ 3⟩
    all_goals simp [Value.shape] at shape

end Specialist

namespace Element

end Element

/-- A direct writer accepts every value as it is. -/
theorem WriterTable.parts?_ofConvention {convention : Convention} {type : ShaderType}
    {writer : Writer} (known : (ofConvention convention).writer? type = some writer)
    (value : Value) : writer.parts? value = some value.components := by
  cases convention with
  | std140 =>
      rcases type with kind | ⟨kind, length⟩ | ⟨columns, rows⟩
      all_goals
        cases (Option.ite_none_right_eq_some.mp known).2
        rfl
  | wgsl =>
      obtain ⟨-, rfl⟩ := wgsl_eq_some_iff.mp known
      cases type <;> rfl

/-- The rows of a single value take the components of its type. -/
theorem ShaderType.valueCount_grid (convention : Convention) (type : ShaderType) :
    (type.grid convention).valueCount = type.components := by
  rcases type with kind | ⟨kind, length⟩ | ⟨columns, rows⟩
  · exact Nat.one_mul _
  · exact Nat.one_mul _
  · rfl

namespace Compiler

variable {compiler : Compiler}

end Compiler

end UniformBlock
