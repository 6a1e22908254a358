import UniformBlock.Alignment
import UniformBlock.Error

/-!
# Arithmetic on machine words

Sizes, counts and offsets are machine words.  When the result of an operation is not a
word, a program stops or goes on with the lowest bits, depending on how it was built; a
zero divisor stops every build.

A computation on words follows an exact one if overflow is all that can come between
them: unless the build with checks stops at an overflow, every build comes to the exact
result.
-/

namespace UniformBlock

/-- How a program was built. -/
inductive Build where
  /-- An operation whose result is no word stops the program. -/
  | checked
  /-- Such a result is cut down to a word. -/
  | wrapping
  deriving DecidableEq, Repr

/-- The number of machine words, of sixty-four bits each. -/
def wordCount : Nat :=
  0x10000000000000000

/-- Failures among which there are the faults of arithmetic. -/
class Faulting (Failure : Type) where
  ofFault : Fault → Failure

instance : Faulting Fault where
  ofFault := id

instance {Reason : Type} : Faulting (Stop Reason) where
  ofFault := .fault

export Faulting (ofFault)

section Operations

variable {Failure : Type} [Faulting Failure]

namespace Build

/-- What becomes of the exact result of an operation. -/
def fit (build : Build) (operation : SizeOperation) (exact : Nat) : Except Failure Nat :=
  if exact < wordCount then
    .ok exact
  else
    match build with
    | checked => .error (ofFault (.overflow operation))
    | wrapping => .ok (exact % wordCount)

/-- The sum of two words. -/
def add (build : Build) (first second : Nat) : Except Failure Nat :=
  build.fit .add (first + second)

/-- The product of two words. -/
def mul (build : Build) (first second : Nat) : Except Failure Nat :=
  build.fit .multiply (first * second)

/-- The difference of two words. -/
def sub (build : Build) (first second : Nat) : Except Failure Nat :=
  if second ≤ first then
    .ok (first - second)
  else
    match build with
    | checked => .error (ofFault (.overflow .subtract))
    | wrapping => .ok ((first + wordCount - second) % wordCount)

variable {build : Build} {first second : Nat}

theorem fit_of_lt {operation : SizeOperation} {exact : Nat} (fits : exact < wordCount) :
    (build.fit operation exact : Except Failure Nat) = .ok exact :=
  if_pos fits

theorem add_of_lt (fits : first + second < wordCount) :
    (build.add first second : Except Failure Nat) = .ok (first + second) :=
  fit_of_lt fits

theorem mul_of_lt (fits : first * second < wordCount) :
    (build.mul first second : Except Failure Nat) = .ok (first * second) :=
  fit_of_lt fits

theorem sub_of_le (fits : second ≤ first) :
    (build.sub first second : Except Failure Nat) = .ok (first - second) :=
  if_pos fits

end Build

/-- The quotient of two words. -/
def quotient (value divisor : Nat) : Except Failure Nat :=
  if divisor = 0 then .error (ofFault .noQuotient) else .ok (value / divisor)

/-- The remainder of two words. -/
def remainder (value divisor : Nat) : Except Failure Nat :=
  if divisor = 0 then .error (ofFault .noRemainder) else .ok (value % divisor)

theorem quotient_of_ne {divisor : Nat} (nonzero : divisor ≠ 0) (value : Nat) :
    (quotient value divisor : Except Failure Nat) = .ok (value / divisor) :=
  if_neg nonzero

theorem remainder_of_ne {divisor : Nat} (nonzero : divisor ≠ 0) (value : Nat) :
    (remainder value divisor : Except Failure Nat) = .ok (value % divisor) :=
  if_neg nonzero

theorem remainder_eq_ok {value divisor result : Nat}
    (ends : (remainder value divisor : Except Failure Nat) = .ok result) :
    divisor ≠ 0 ∧ value % divisor = result := by
  rw [remainder] at ends
  split at ends
  · cases ends
  · rename_i nonzero
    exact ⟨nonzero, Except.ok.inj ends⟩

/-- The offset rounded up to a multiple of the alignment.  The number of multiples is a
word, but their product need not be. -/
def machineRoundUp (build : Build) (offset alignment : Nat) : Except Failure Nat :=
  if alignment = 0 then
    .ok offset
  else do
    let below ← quotient offset alignment
    let beyond ← remainder offset alignment
    build.mul (if 0 < beyond then below + 1 else below) alignment

end Operations

/-! ## Words and numbers -/

namespace Build

/-- Whether a build keeps the word for the number: the number itself if it is checked for
being a word, and what is left of it otherwise. -/
def Stands : Build → (exact word : Nat) → Prop
  | checked, exact, word => exact < wordCount ∧ word = exact
  | wrapping, exact, word => word = exact % wordCount

variable {build : Build} {exact word : Nat}

theorem fit_eq_ok_iff {Failure : Type} [Faulting Failure] {operation : SizeOperation} :
    (build.fit operation exact : Except Failure Nat) = .ok word ↔ build.Stands exact word := by
  by_cases fits : exact < wordCount
  · rw [fit_of_lt fits, Except.ok.injEq]
    cases build with
    | checked => exact ⟨fun same => ⟨fits, same.symm⟩, fun stands => stands.2.symm⟩
    | wrapping =>
        rw [Stands, Nat.mod_eq_of_lt fits]
        exact eq_comm
  · cases build with
    | checked =>
        rw [fit, if_neg fits]
        exact iff_of_false nofun fun stands => fits stands.1
    | wrapping =>
        rw [fit, if_neg fits, Except.ok.injEq]
        exact eq_comm

/-- What the build with checks keeps is a word. -/
theorem lt_of_checked_fit {Failure : Type} [Faulting Failure] {operation : SizeOperation}
    (kept : (checked.fit operation exact : Except Failure Nat) = .ok word) :
    exact < wordCount ∧ word = exact :=
  fit_eq_ok_iff.mp kept

/-- A word stands for itself. -/
theorem stands_self (fits : exact < wordCount) : build.Stands exact exact := by
  cases build with
  | checked => exact ⟨fits, rfl⟩
  | wrapping => exact (Nat.mod_eq_of_lt fits).symm

/-- A word may take the place of its number in a sum. -/
theorem Stands.add_iff (stands : build.Stands exact word) (more sum : Nat) :
    build.Stands (word + more) sum ↔ build.Stands (exact + more) sum := by
  cases build with
  | checked => rw [stands.2]
  | wrapping => rw [Stands, Stands, stands, Nat.mod_add_mod]

/-- If a sum is kept, then so is its second part. -/
theorem Stands.exists_right {first second : Nat} (stands : build.Stands (first + second) word) :
    ∃ part, build.Stands second part ∧ build.Stands (first + part) word := by
  cases build with
  | checked =>
      have fits : second < wordCount := Nat.lt_of_le_of_lt (Nat.le_add_left _ _) stands.1
      exact ⟨second, ⟨fits, rfl⟩, stands⟩
  | wrapping =>
      refine ⟨second % wordCount, rfl, ?_⟩
      rw [Stands, Nat.add_mod_mod]
      exact stands

end Build

/-! ## Computations without checks -/

section Ends

variable {Failure First Result : Type}

/-- Whether a computation comes to a result. -/
def Ends (result : Except Failure Result) : Prop :=
  ∃ value, result = .ok value

theorem Ends.bind {first : Except Failure First} {next : First → Except Failure Result}
    (ends : Ends first) (later : ∀ value, Ends (next value)) : Ends (first >>= next) := by
  obtain ⟨value, rfl⟩ := ends
  exact later value

variable [Faulting Failure]

theorem ends_fit (operation : SizeOperation) (exact : Nat) :
    Ends (Build.wrapping.fit operation exact : Except Failure Nat) := by
  rw [Build.fit]
  split
  · exact ⟨_, rfl⟩
  · exact ⟨_, rfl⟩

theorem ends_add (first second : Nat) :
    Ends (Build.wrapping.add first second : Except Failure Nat) :=
  ends_fit .add (first + second)

theorem ends_mul (first second : Nat) :
    Ends (Build.wrapping.mul first second : Except Failure Nat) :=
  ends_fit .multiply (first * second)

theorem ends_sub (first second : Nat) :
    Ends (Build.wrapping.sub first second : Except Failure Nat) := by
  rw [Build.sub]
  split
  · exact ⟨_, rfl⟩
  · exact ⟨_, rfl⟩

theorem ends_remainder {divisor : Nat} (nonzero : divisor ≠ 0) (value : Nat) :
    Ends (remainder value divisor : Except Failure Nat) :=
  ⟨_, remainder_of_ne nonzero value⟩

theorem ends_roundUp (offset alignment : Nat) :
    Ends (machineRoundUp .wrapping offset alignment : Except Failure Nat) := by
  rw [machineRoundUp]
  split
  · exact ⟨_, rfl⟩
  · rename_i nonzero
    rw [quotient_of_ne nonzero, remainder_of_ne nonzero]
    exact ends_mul _ _

end Ends

/-! ## Following an exact computation -/

section Following

variable {Failure First Result : Type} [Faulting Failure]

/-- Whether a result is an overflow. -/
def Overflows (result : Except Failure Result) : Prop :=
  ∃ operation, result = .error (ofFault (.overflow operation))

/-- Whether every build comes to the exact result, unless the checked one stops at an
overflow. -/
def Follows (machine : Build → Except Failure Result) (exact : Except Failure Result) : Prop :=
  Overflows (machine .checked) ∨ ∀ build, machine build = exact

theorem not_overflows_ok (result : Result) : ¬ Overflows (.ok result : Except Failure Result) := by
  rintro ⟨operation, overflow⟩
  cases overflow

namespace Follows

variable {machine : Build → Except Failure Result} {exact : Except Failure Result}

/-- Without overflow every build comes to the exact result. -/
theorem eq_of_not_overflows (follows : Follows machine exact)
    (fits : ¬ Overflows (machine .checked)) (build : Build) : machine build = exact :=
  (follows.resolve_left fits) build

/-- What the checked build comes to is exact, and every build comes to it. -/
theorem of_checked_ok (follows : Follows machine exact) {result : Result}
    (ends : machine .checked = .ok result) :
    exact = .ok result ∧ ∀ build, machine build = .ok result := by
  have everywhere := follows.eq_of_not_overflows (ends ▸ not_overflows_ok result)
  have same : exact = .ok result := (everywhere .checked).symm.trans ends
  exact ⟨same, fun build => (everywhere build).trans same⟩

theorem refl (exact : Except Failure Result) : Follows (fun _ => exact) exact :=
  .inr fun _ => rfl

/-- Following goes on from the first part of a computation to the rest of it. -/
theorem bind {machine : Build → Except Failure First} {exact : Except Failure First}
    {next : Build → First → Except Failure Result} {exactNext : First → Except Failure Result}
    (first : Follows machine exact)
    (later : ∀ value, exact = .ok value →
      Follows (fun build => next build value) (exactNext value)) :
    Follows (fun build => machine build >>= next build) (exact >>= exactNext) := by
  rcases first with ⟨operation, overflow⟩ | same
  · refine .inl ⟨operation, ?_⟩
    dsimp only
    rw [overflow]
    rfl
  · cases ends : exact with
    | error failure =>
        refine .inr fun build => ?_
        dsimp only
        rw [same build, ends]
        rfl
    | ok value =>
        have handedOn (build : Build) : (machine build >>= next build) = next build value := by
          rw [same build, ends]
          rfl
        rcases later value ends with ⟨operation, overflow⟩ | sameLater
        · exact .inl ⟨operation, (handedOn .checked).trans overflow⟩
        · exact .inr fun build => (handedOn build).trans (sameLater build)

/-- A first part with a certain exact result hands that result on. -/
theorem step {machine : Build → Except Failure First} {value : First}
    {next : Build → First → Except Failure Result} (first : Follows machine (.ok value))
    (later : Follows (fun build => next build value) exact) :
    Follows (fun build => machine build >>= next build) exact := by
  have handedOn : Follows (fun build => machine build >>= next build)
      (.ok value >>= fun _ => exact) :=
    first.bind fun _ ends => by
      cases ends
      exact later
  exact handedOn

/-- A failure of the first part is the failure of the whole. -/
theorem fail {machine : Build → Except Failure First} {failure : Failure}
    {next : Build → First → Except Failure Result} (first : Follows machine (.error failure)) :
    Follows (fun build => machine build >>= next build) (.error failure) := by
  have handedOn : Follows (fun build => machine build >>= next build)
      (.error failure >>= fun _ => .error failure) :=
    first.bind fun _ ends => nomatch ends
  exact handedOn

/-- Following a computation is following what is made of its result. -/
theorem map {machine : Build → Except Failure First} {exact : Except Failure First}
    {next : Build → First → Except Failure Result} {change : First → Result}
    (first : Follows machine exact)
    (later : ∀ value, exact = .ok value →
      Follows (fun build => next build value) (.ok (change value))) :
    Follows (fun build => machine build >>= next build) (exact.map change) := by
  have mapped : exact.map change = exact >>= fun value => .ok (change value) := by
    cases exact <;> rfl
  rw [mapped]
  exact first.bind later

/-- A result may be changed in the same way on both sides. -/
theorem mapped {machine : Build → Except Failure First} {exact : Except Failure First}
    (follows : Follows machine exact) (change : First → Result) :
    Follows (fun build => (machine build).map change) (exact.map change) := by
  rcases follows with ⟨operation, overflow⟩ | same
  · refine .inl ⟨operation, ?_⟩
    dsimp only
    rw [overflow]
    rfl
  · refine .inr fun build => ?_
    dsimp only
    rw [same build]

/-- Both branches of a decision that does not depend on the build may be followed. -/
theorem ite {condition : Prop} [Decidable condition]
    {yes no : Build → Except Failure Result} {exactYes exactNo : Except Failure Result}
    (holds : condition → Follows yes exactYes) (fails : ¬ condition → Follows no exactNo) :
    Follows (fun build => if condition then yes build else no build)
      (if condition then exactYes else exactNo) := by
  by_cases decided : condition
  · simpa only [if_pos decided] using holds decided
  · simpa only [if_neg decided] using fails decided

end Follows

theorem follows_fit (operation : SizeOperation) (exact : Nat) :
    Follows (fun build => build.fit operation exact) (.ok exact : Except Failure Nat) := by
  by_cases fits : exact < wordCount
  · exact .inr fun build => Build.fit_of_lt fits
  · exact .inl ⟨operation, if_neg fits⟩

theorem follows_add (first second : Nat) :
    Follows (fun build => build.add first second)
      (.ok (first + second) : Except Failure Nat) :=
  follows_fit .add (first + second)

theorem follows_mul (first second : Nat) :
    Follows (fun build => build.mul first second)
      (.ok (first * second) : Except Failure Nat) :=
  follows_fit .multiply (first * second)

theorem follows_sub (first second : Nat) :
    Follows (fun build => build.sub first second)
      (.ok (first - second) : Except Failure Nat) := by
  by_cases fits : second ≤ first
  · exact .inr fun build => Build.sub_of_le fits
  · exact .inl ⟨.subtract, if_neg fits⟩

theorem follows_quotient {divisor : Nat} (nonzero : divisor ≠ 0) (value : Nat) :
    Follows (fun _ => quotient value divisor) (.ok (value / divisor) : Except Failure Nat) :=
  .inr fun _ => quotient_of_ne nonzero value

theorem follows_remainder {divisor : Nat} (nonzero : divisor ≠ 0) (value : Nat) :
    Follows (fun _ => remainder value divisor) (.ok (value % divisor) : Except Failure Nat) :=
  .inr fun _ => remainder_of_ne nonzero value

/-- A quotient rounded up is one more than the quotient if anything remains. -/
theorem ceilDiv_eq {alignment : Nat} (positive : 0 < alignment) (offset : Nat) :
    (if 0 < offset % alignment then offset / alignment + 1 else offset / alignment) =
      (offset + alignment - 1) / alignment := by
  have whole := Nat.div_add_mod offset alignment
  have below := Nat.mod_lt offset positive
  symm
  split
  · apply Nat.div_eq_of_lt_le
    · rw [Nat.add_mul, Nat.one_mul, Nat.mul_comm]
      omega
    · rw [Nat.add_mul, Nat.add_mul, Nat.one_mul, Nat.mul_comm]
      omega
  · apply Nat.div_eq_of_lt_le
    · rw [Nat.mul_comm]
      omega
    · rw [Nat.add_mul, Nat.one_mul, Nat.mul_comm]
      omega

theorem follows_roundUp (offset alignment : Nat) :
    Follows (fun build => machineRoundUp build offset alignment)
      (.ok (roundUp offset alignment) : Except Failure Nat) := by
  by_cases zero : alignment = 0
  · subst zero
    exact .inr fun build => by rw [roundUp_zero_alignment]; rfl
  · have positive := Nat.pos_of_ne_zero zero
    simp only [machineRoundUp, if_neg zero]
    refine (follows_quotient zero offset).step ((follows_remainder zero offset).step ?_)
    rw [ceilDiv_eq positive, roundUp_of_pos positive]
    exact follows_mul _ alignment

/-- An offset that the build with checks rounds up is still a word. -/
theorem lt_of_checked_roundUp {offset alignment rounded : Nat} (nonzero : alignment ≠ 0)
    (ends : (machineRoundUp .checked offset alignment : Except Failure Nat) = .ok rounded) :
    rounded < wordCount := by
  rw [machineRoundUp, if_neg nonzero, quotient_of_ne nonzero, remainder_of_ne nonzero] at ends
  obtain ⟨fits, rfl⟩ := Build.lt_of_checked_fit ends
  exact fits

end Following

end UniformBlock
