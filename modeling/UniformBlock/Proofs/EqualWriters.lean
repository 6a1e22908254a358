import UniformBlock.Machine.Writers
import UniformBlock.Proofs.LaidOut
import UniformBlock.Proofs.StoppedPass

/-!
# Equal writers

A direct writer does what the array writer of its rows does.  One of them computes where
each column starts, the other moves on from row to row, and on machine words they come to
the same slots; only the array writer also computes what lies behind its last row.  A
specialist does what the direct writer of its type does with the value spelled out, in
every build and even where a computation stops.
-/

namespace UniformBlock

/-! ## Writers that end -/

namespace Buffer

theorem ends_writeRun (buffer : Buffer) (name : String) (offset width total : Nat)
    (components : List Binary32) :
    Ends (buffer.machineWriteRun .wrapping name offset width total components) := by
  refine (ends_add offset width).bind fun finish => ?_
  dsimp only
  split
  · exact ⟨_, rfl⟩
  · exact ⟨_, rfl⟩

theorem ends_writeRows (name : String) (pattern : RowPattern) (total rows offset : Nat)
    (components : List Binary32) (buffer : Buffer) :
    Ends (machineWriteRows .wrapping name pattern total rows offset components buffer) := by
  induction rows generalizing offset components buffer with
  | zero => exact ⟨_, rfl⟩
  | succ rows ih =>
      refine (buffer.ends_writeRun _ _ _ _ _).bind fun result => ?_
      rw [WriteResult.machineAndThen]
      split
      · exact (ends_add _ _).bind fun pitch => (ends_add _ _).bind fun next => ih _ _ _
      · exact ⟨_, rfl⟩

end Buffer

namespace Writer

/-- Without checks an array writer always comes to its end. -/
theorem ends_strided (pattern : RowPattern) (checked : Bool) (name : String) (offset : Nat)
    (value : Value) (buffer : Buffer) :
    Ends ((strided pattern checked).machineRun .wrapping name offset value buffer) := by
  have expected : Ends (machineExpected .wrapping pattern checked) := by
    cases checked with
    | false => exact ⟨_, rfl⟩
    | true => exact ends_mul _ _
  refine expected.bind fun count => ?_
  rw [machineWithCount]
  split
  · exact ⟨_, rfl⟩
  · refine pattern.ends_extent.bind fun length => (ends_add _ _).bind fun finish => ?_
    split
    · exact ⟨_, rfl⟩
    · exact Buffer.ends_writeRows _ _ _ _ _ _ _

end Writer

/-! ## Columns and rows -/

namespace Buffer

/-- A column starts where moving on from row to row leads to. -/
theorem machineWriteColumns_of_rows {build : Build} {name : String} {pattern : RowPattern}
    {offset total : Nat} (pitch : pattern.pitch < wordCount) {left column place : Nat}
    {components : List Binary32} {buffer : Buffer} {result : WriteResult}
    (reached : build.Stands (offset + column * pattern.pitch) place)
    (written : machineWriteRows build name pattern total left place components buffer =
      .ok result) :
    machineWriteColumns build name offset pattern.width pattern.pitch total left column components
      buffer = .ok result := by
  induction left generalizing column place components buffer with
  | zero => exact written
  | succ left ih =>
      obtain ⟨distance, moved, start⟩ := reached.exists_right
      rw [machineWriteColumns, Build.mul, Build.fit_eq_ok_iff.mpr moved, ok_bind, Build.add,
        Build.fit_eq_ok_iff.mpr start, ok_bind]
      rw [machineWriteRows] at written
      obtain ⟨run, wrote, written⟩ := bind_eq_ok written
      rw [wrote, ok_bind]
      rw [WriteResult.machineAndThen] at written ⊢
      split at written
      · obtain ⟨_, paced, written⟩ := bind_eq_ok written
        cases (RowPattern.machinePitch_eq build pitch).symm.trans paced
        obtain ⟨next, further, written⟩ := bind_eq_ok written
        refine ih ?_ written
        rw [Nat.add_mul, Nat.one_mul, ← Nat.add_assoc]
        exact (reached.add_iff _ _).mp (Build.fit_eq_ok_iff.mp further)
      · exact written

end Buffer

namespace Writer

/-- What a writer has in common with an array writer that checks lengths. -/
structure Matches (writer : Writer) (pattern : RowPattern) (name : String) (offset : Nat)
    (value : Value) (buffer : Buffer) : Prop where
  /-- Without checks both do the same. -/
  wrapping : writer.machineRun .wrapping name offset value buffer =
    (strided pattern true).machineRun .wrapping name offset value buffer
  /-- With checks the writer does what the array writer does, if that comes to its end. -/
  checked : ∀ result,
    (strided pattern true).machineRun .checked name offset value buffer = .ok result →
      writer.machineRun .checked name offset value buffer = .ok result
  /-- As long as nothing overflows, both write everything or nothing in every build. -/
  allOrNothing : ∀ result error,
    (strided pattern true).machineRun .checked name offset value buffer = .ok result →
      result.failure? = some error → ∀ build,
        writer.machineRun build name offset value buffer = .ok (.failed buffer error) ∧
        (strided pattern true).machineRun build name offset value buffer =
          .ok (.failed buffer error)

/-- A writer matches an array writer if it follows it wherever that comes to its end. -/
theorem matches_of_ends {writer : Writer} {pattern : RowPattern} {name : String} {offset : Nat}
    {value : Value} {buffer : Buffer}
    (follows : ∀ build result,
      (strided pattern true).machineRun build name offset value buffer = .ok result →
        writer.machineRun build name offset value buffer = .ok result) :
    writer.Matches pattern name offset value buffer := by
  constructor
  · obtain ⟨result, ends⟩ := ends_strided pattern true name offset value buffer
    rw [ends, follows .wrapping result ends]
  · exact follows .checked
  · intro result error ends failed build
    obtain ⟨exactly, everywhere⟩ := (follows_run (strided pattern true) name offset value
      buffer).of_checked_ok ends
    cases exactly
    have untouched :
        (strided pattern true).run name offset value buffer = .failed buffer error :=
      run_untouched trivial rfl failed
    rw [untouched] at everywhere
    exact ⟨follows build _ (everywhere build), everywhere build⟩

/-- An array writer that comes to its end has found the value long enough, and the span of
its rows in the buffer, or has stopped at one of these. -/
theorem strided_eq_ok {build : Build} {pattern : RowPattern} {name : String} {offset : Nat}
    {value : Value} {buffer : Buffer} {result : WriteResult}
    (ends : (strided pattern true).machineRun build name offset value buffer = .ok result) :
    ∃ expected, pattern.machineValueCount build = (.ok expected : Except Fault Nat) ∧
      ((value.count < expected ∧
          result = .failed buffer (.valueShape name expected value.count)) ∨
        (expected ≤ value.count ∧ ∃ extent finish,
          pattern.machineExtent build = (.ok extent : Except Fault Nat) ∧
          build.add offset extent = (.ok finish : Except Fault Nat) ∧
          ((buffer.size < finish ∧
              result = .failed buffer (.outOfRange name offset extent buffer.size)) ∨
            (finish ≤ buffer.size ∧
              Buffer.machineWriteRows build name pattern value.count pattern.rows offset
                value.components buffer = .ok result)))) := by
  obtain ⟨expected, counted, ends⟩ := bind_eq_ok ends
  refine ⟨expected, counted, ?_⟩
  rw [machineWithCount] at ends
  split at ends
  · rename_i short
    cases ends
    exact .inl ⟨short, rfl⟩
  · rename_i enough
    obtain ⟨extent, measured, ends⟩ := bind_eq_ok ends
    obtain ⟨finish, added, ends⟩ := bind_eq_ok ends
    refine .inr ⟨Nat.le_of_not_lt enough, extent, finish, measured, added, ?_⟩
    split at ends
    · rename_i noRoom
      cases ends
      exact .inl ⟨noRoom, rfl⟩
    · rename_i room
      exact .inr ⟨Nat.le_of_not_lt room, ends⟩

/-- A matrix matches the array of its columns. -/
theorem matrix_matches {columns rows stride offset : Nat} (someColumns : 0 < columns)
    (apart : rows ≤ stride) (strideWord : stride < wordCount) (offsetWord : offset < wordCount)
    (name : String) (value : Value) (buffer : Buffer) :
    (matrix columns rows stride).Matches ⟨columns, rows, stride - rows⟩ name offset value
      buffer := by
  have pitch : RowPattern.pitch ⟨columns, rows, stride - rows⟩ = stride :=
    Nat.add_sub_cancel' apart
  have pitchWord : RowPattern.pitch ⟨columns, rows, stride - rows⟩ < wordCount :=
    pitch.symm ▸ strideWord
  apply matches_of_ends
  intro build result ends
  obtain ⟨expected, counted, rest⟩ := strided_eq_ok ends
  rw [RowPattern.machineValueCount] at counted
  rw [machineRun, counted, ok_bind, machineWithCount]
  rcases rest with ⟨short, rfl⟩ | ⟨enough, extent, finish, measured, added, rest⟩
  · rw [if_pos short]
  · rw [if_neg (Nat.not_lt.mpr enough)]
    have sameExtent : machineMatrixExtent build columns rows stride = .ok extent := by
      rw [RowPattern.machineExtent, if_neg (Nat.ne_of_gt someColumns),
        RowPattern.machinePitch_eq build pitchWord, pitch] at measured
      exact measured
    rw [sameExtent, ok_bind, Buffer.machineWithSpan, added, ok_bind]
    rcases rest with ⟨noRoom, rfl⟩ | ⟨room, written⟩
    · rw [if_pos noRoom]
      rfl
    · rw [if_neg (Nat.not_lt.mpr room)]
      have reached : build.Stands
          (offset + 0 * RowPattern.pitch ⟨columns, rows, stride - rows⟩) offset := by
        rw [Nat.zero_mul, Nat.add_zero]
        exact Build.stands_self offsetWord
      have columnwise := Buffer.machineWriteColumns_of_rows pitchWord reached written
      rwa [pitch] at columnwise

/-- A vector matches an array of one row, whatever the gap behind it. -/
theorem vector_matches {width gap offset : Nat} (widthWord : width < wordCount) (name : String)
    (value : Value) (buffer : Buffer) :
    (vector width).Matches ⟨1, width, gap⟩ name offset value buffer := by
  apply matches_of_ends
  intro build result ends
  obtain ⟨expected, counted, rest⟩ := strided_eq_ok ends
  have whole : RowPattern.valueCount ⟨1, width, gap⟩ = width := Nat.one_mul width
  rw [RowPattern.machineValueCount_eq build (whole.symm ▸ widthWord), whole] at counted
  cases counted
  rw [machineRun, machineWithCount]
  rcases rest with ⟨short, rfl⟩ | ⟨enough, extent, finish, measured, added, rest⟩
  · rw [if_pos short]
  · rw [if_neg (Nat.not_lt.mpr enough)]
    have sameExtent : extent = width := by
      obtain ⟨before, single, measured⟩ := bind_eq_ok measured
      obtain ⟨pitch, -, measured⟩ := bind_eq_ok measured
      obtain ⟨start, first, measured⟩ := bind_eq_ok measured
      cases single
      rw [Nat.sub_self, Build.mul_of_lt (by rw [Nat.zero_mul]; decide), Nat.zero_mul] at first
      cases first
      rw [Build.add_of_lt (by rwa [Nat.zero_add]), Nat.zero_add] at measured
      cases measured
      rfl
    subst sameExtent
    rcases rest with ⟨noRoom, rfl⟩ | ⟨room, written⟩
    · rw [Buffer.machineWriteRun, Buffer.machineWithRange, added, ok_bind, if_pos (.inr noRoom)]
      rfl
    · obtain ⟨run, wrote, written⟩ := bind_eq_ok written
      rw [wrote]
      rw [WriteResult.machineAndThen] at written
      split at written
      · rename_i going
        obtain ⟨pitch, -, written⟩ := bind_eq_ok written
        obtain ⟨next, -, written⟩ := bind_eq_ok written
        cases written
        rw [WriteResult.done, ← going]
      · exact written

/-- The direct writers match the array writers of their rows. -/
theorem machine_direct_writers_are_strided {offset : Nat} (offsetWord : offset < wordCount)
    (name : String) (value : Value) (buffer : Buffer) :
    (∀ width gap, width < wordCount →
        (vector width).Matches ⟨1, width, gap⟩ name offset value buffer) ∧
      ∀ columns rows stride, 0 < columns → rows ≤ stride → stride < wordCount →
        (matrix columns rows stride).Matches ⟨columns, rows, stride - rows⟩ name offset value
          buffer :=
  ⟨fun _ _ widthWord => vector_matches widthWord name value buffer,
    fun _ _ _ someColumns apart strideWord =>
      matrix_matches someColumns apart strideWord offsetWord name value buffer⟩

/-- The columns of a matrix of three rows, which end with the buffer, and the same columns
one slot too far. -/
theorem matrix_is_strided :
    1 < wordCount ∧ 2 < wordCount ∧ 0 < 2 ∧ 3 ≤ 4 ∧ 4 < wordCount ∧
      (matrix 2 3 4).Matches ⟨2, 3, 1⟩ "basis" 1 (.flat (List.replicate 6 .one))
        (Array.replicate 8 .zero) ∧
      (matrix 2 3 4).Matches ⟨2, 3, 1⟩ "basis" 2 (.flat (List.replicate 6 .one))
        (Array.replicate 8 .zero) ∧
      (strided ⟨2, 3, 1⟩ true).machineRun .checked "basis" 1 (.flat (List.replicate 6 .one))
          (Array.replicate 8 .zero) =
        .ok (.done #[.zero, .one, .one, .one, .zero, .one, .one, .one]) ∧
      (strided ⟨2, 3, 1⟩ true).machineRun .checked "basis" 2 (.flat (List.replicate 6 .one))
          (Array.replicate 8 .zero) =
        .ok (.failed (Array.replicate 8 .zero) (.outOfRange "basis" 2 7 8)) := by
  have one : 1 < wordCount := by decide
  have two : 2 < wordCount := by decide
  have someColumns : 0 < 2 := by decide
  have apart : 3 ≤ 4 := by decide
  have stride : 4 < wordCount := by decide
  exact ⟨one, two, someColumns, apart, stride,
    (machine_direct_writers_are_strided one _ _ _).2 2 3 4 someColumns apart stride,
    (machine_direct_writers_are_strided two _ _ _).2 2 3 4 someColumns apart stride, rfl, rfl⟩

/-- Behind the greatest gap there is no slot for a second row.  A vector does not ask for
one, but with checks an array of one row stops there. -/
theorem gap_stops_array_writer :
    (vector 1).machineRun .checked "gain" 0 (.scalar .one) #[.zero] = .ok (.done #[.one]) ∧
      (strided ⟨1, 1, wordCount - 1⟩ true).machineRun .checked "gain" 0 (.scalar .one) #[.zero] =
        .error (.overflow .add) :=
  ⟨rfl, by decide⟩

end Writer

/-! ## Specialists -/

namespace Buffer

/-- Slices of equal length are written like the columns of a matrix. -/
theorem machineWriteSlices_eq_writeColumns (build : Build) (name : String)
    (offset stride total rows : Nat) {slices : List (List Binary32)}
    (even : ∀ slice ∈ slices, slice.length = rows) (position : Nat) (buffer : Buffer) :
    machineWriteSlices build name offset stride position slices buffer =
      machineWriteColumns build name offset rows stride total slices.length position
        slices.flatten buffer := by
  induction slices generalizing position buffer with
  | nil => rfl
  | cons slice rest ih =>
      obtain ⟨rfl, evenRest⟩ := List.forall_mem_cons.mp even
      have enough : ¬ (slice ++ rest.flatten).length < slice.length := by
        rw [List.length_append]
        omega
      have run (start : Nat) :
          buffer.machineWriteRun build name start slice.length total (slice ++ rest.flatten) =
            buffer.machineWriteSlice build name start slice := by
        simp only [machineWriteSlice, machineWriteRun, List.take_left, if_neg enough]
      have next := funext (ih evenRest (position + 1))
      rw [List.length_cons, machineWriteSlices, machineWriteColumns, List.flatten_cons,
        List.drop_left]
      simp only [run, next]

end Buffer

/-- The value with a plane transform spelled out as the nine components of a matrix. -/
def Value.spelledOut : Value → Value
  | .affine a b c d tx ty => .flat (Writer.affineColumns a b c d tx ty).flatten
  | value => value

namespace Writer

/-- A plane transform is written like the matrix that it spells out, in every build and
wherever it stops. -/
theorem machineRun_affine (build : Build) (a b c d tx ty : Binary32) (name : String)
    (offset : Nat) (buffer : Buffer) :
    affine.machineRun build name offset (.affine a b c d tx ty) buffer =
      (matrix 3 3 4).machineRun build name offset (Value.spelledOut (.affine a b c d tx ty))
        buffer := by
  have even : ∀ slice ∈ affineColumns a b c d tx ty, slice.length = 3 := by
    simp [affineColumns]
  have loop : Buffer.machineWriteSlices build name offset rowFloats 0
        (affineColumns a b c d tx ty) =
      Buffer.machineWriteColumns build name offset 3 4 9 3 0
        (affineColumns a b c d tx ty).flatten := by
    funext buffer
    exact Buffer.machineWriteSlices_eq_writeColumns build name offset rowFloats 9 3 even 0 buffer
  have extent : machineMatrixExtent build 3 3 4 = .ok affineExtent := by
    cases build <;> rfl
  have expected : (build.mul 3 3 : Except Fault Nat) = .ok 9 := by
    cases build <;> rfl
  change buffer.machineWithSpan build name offset affineExtent
    (Buffer.machineWriteSlices build name offset rowFloats 0 (affineColumns a b c d tx ty)) = _
  rw [machineRun, expected, loop, ok_bind, extent]
  rfl

/-- The shape of the values that a specialist writer lays out. -/
def shape? : Writer → Option String
  | affine => some "affine transform"
  | rect => some "rect"
  | point => some "point"
  | color _ => some "color"
  | _ => none

/-- A specialist writer refuses every other shape by the name of its own. -/
theorem machineRun_of_other_shape {writer : Writer} {shape : String}
    (own : writer.shape? = some shape) {value : Value} (other : value.shape ≠ shape)
    (build : Build) (name : String) (offset : Nat) (buffer : Buffer) :
    writer.machineRun build name offset value buffer =
      .ok (.failed buffer (.valueKind name shape)) := by
  cases writer with
  | affine =>
      cases own
      cases value
      case affine => exact absurd rfl other
      all_goals rfl
  | rect =>
      cases own
      cases value
      case rect => exact absurd rfl other
      all_goals rfl
  | point =>
      cases own
      cases value
      case point => exact absurd rfl other
      all_goals rfl
  | color channels =>
      cases own
      cases value
      case color => exact absurd rfl other
      all_goals rfl
  | _ => cases own

/-- With enough components, only a lack of room can stop a writer. -/
theorem failure_of_enough {writer : Writer} (regular : writer.Regular) {value : Value}
    {components : List Binary32} (accepted : writer.parts? value = some components)
    (enough : writer.pattern.valueCount ≤ components.length) (name : String) (offset : Nat)
    (buffer : Buffer) :
    (writer.run name offset value buffer).failure? =
      if buffer.size < offset + writer.pattern.extent then
        some (.outOfRange name offset writer.pattern.extent buffer.size)
      else none := by
  rw [run_eq_strided regular accepted, run_strided, if_neg fun short => by omega]
  split
  · rfl
  · exact if_neg (Nat.not_lt.mpr enough)

end Writer

namespace Specialist

/-- A standard specialist looks for the shape that its writer lays out. -/
theorem standard_shape {specialist : Specialist} (known : specialist ∈ standard) :
    ∃ shape, specialist.test = singleOf shape ∧ specialist.writer.shape? = some shape := by
  rcases mem_standard_iff.mp known with rfl | rfl | rfl | rfl | rfl <;> exact ⟨_, rfl, rfl⟩

/-- Both conventions have a direct writer for the type of a standard specialist, and it
writes a value of the specialist's shape as the specialist does. -/
theorem standard_direct {specialist : Specialist} (known : specialist ∈ standard)
    (convention : Convention) :
    ∃ direct, (WriterTable.ofConvention convention).writer? specialist.type = some direct ∧
      ∀ build name offset value buffer, specialist.writer.shape? = some value.shape →
        specialist.writer.machineRun build name offset value buffer =
          direct.machineRun build name offset value.spelledOut buffer := by
  rcases mem_standard_iff.mp known with rfl | rfl | rfl | rfl | rfl
  · refine ⟨.matrix 3 3 4, by cases convention <;> rfl, ?_⟩
    intro build name offset value buffer own
    cases value
    case affine => exact Writer.machineRun_affine build _ _ _ _ _ _ name offset buffer
    all_goals simp [affine, Writer.shape?, Value.shape] at own
  · refine ⟨.vector 4, by cases convention <;> rfl, ?_⟩
    intro build name offset value buffer own
    cases value
    case rect => rfl
    all_goals simp [rect, Writer.shape?, Value.shape] at own
  · refine ⟨.vector 2, by cases convention <;> rfl, ?_⟩
    intro build name offset value buffer own
    cases value
    case point => rfl
    all_goals simp [point, Writer.shape?, Value.shape] at own
  · refine ⟨.vector 4, by cases convention <;> rfl, ?_⟩
    intro build name offset value buffer own
    cases value
    case color => rfl
    all_goals simp [colorRgba, Writer.shape?, Value.shape] at own
  · refine ⟨.vector 3, by cases convention <;> rfl, ?_⟩
    intro build name offset value buffer own
    cases value
    case color => rfl
    all_goals simp [colorRgb, Writer.shape?, Value.shape] at own

/-- In every build a standard specialist does with a value of its shape what the direct
writer of the type does with the value spelled out, stopping where that stops; as long as
nothing overflows, only a lack of room can fail it.  It refuses a value of any other
shape, and writes nothing. -/
theorem machine_specialists_agree_with_direct {element : Element} {specialist : Specialist}
    (found : find? standard element = some specialist) (convention : Convention) :
    ∃ direct, (WriterTable.ofConvention convention).writer? element.type = some direct ∧
      ∀ build name offset value buffer,
        (value.shape ≠ element.value.shape →
          specialist.writer.machineRun build name offset value buffer =
            .ok (.failed buffer (.valueKind name element.value.shape))) ∧
        (value.shape = element.value.shape →
          specialist.writer.machineRun build name offset value buffer =
              direct.machineRun build name offset value.spelledOut buffer ∧
            ∀ result, specialist.writer.machineRun .checked name offset value buffer =
                .ok result →
              result.failure? =
                if buffer.size < offset + specialist.writer.pattern.extent then
                  some (.outOfRange name offset specialist.writer.pattern.extent buffer.size)
                else none) := by
  obtain ⟨known, sameType, tested⟩ := find?_eq_some found
  obtain ⟨shape, test, own⟩ := standard_shape known
  obtain ⟨-, regular, -⟩ := standard_writer known
  obtain ⟨direct, table, agrees⟩ := standard_direct known convention
  rw [test] at tested
  obtain ⟨single, rfl⟩ := singleOf_iff.mp tested
  refine ⟨direct, sameType ▸ table, ?_⟩
  intro build name offset value buffer
  refine ⟨fun other => Writer.machineRun_of_other_shape own other build name offset buffer,
    fun same => ⟨agrees build name offset value buffer (same ▸ own), ?_⟩⟩
  intro result ends
  -- The live value would have been taken over as well.
  let live : Element := { element with value }
  have liveTested : specialist.test live = true := by
    rw [test]
    exact singleOf_iff.mpr ⟨single, same⟩
  have liveType : specialist.type = live.type := sameType
  obtain ⟨accepted, enough⟩ := parts?_of_tested known liveType liveTested
  obtain ⟨exactly, -⟩ := (Writer.follows_run specialist.writer name offset value
    buffer).of_checked_ok ends
  cases exactly
  exact Writer.failure_of_enough regular accepted enough name offset buffer

/-- A single plane transform. -/
def placement : Element :=
  { name := "placement", type := .matrix 3 3, count := 1,
    value := .affine .one .zero .zero .one .zero .zero, byteOffset := 16 }

/-- A plane transform that moves by one on both axes. -/
def moved : Value :=
  .affine .one .zero .zero .one .one .one

/-- A transform of which the last slot ends the buffer, and a point in its place. -/
theorem placement_agrees_with_matrix :
    find? standard placement = some affine ∧
      WriterTable.wgsl.writer? placement.type = some (.matrix 3 3 4) ∧
      Writer.affine.machineRun .wrapping "placement" 1 moved (Array.replicate 12 .zero) =
        (Writer.matrix 3 3 4).machineRun .wrapping "placement" 1 moved.spelledOut
          (Array.replicate 12 .zero) ∧
      Writer.affine.machineRun .wrapping "placement" 1 moved (Array.replicate 12 .zero) =
        .ok (.done #[.zero, .one, .zero, .zero, .zero, .zero, .one, .zero, .zero, .one, .one,
          .one]) ∧
      Writer.affine.machineRun .wrapping "placement" 1 (.point .one .one)
          (Array.replicate 12 .zero) =
        .ok (.failed (Array.replicate 12 .zero) (.valueKind "placement" "affine transform")) := by
  have found : find? standard placement = some affine := rfl
  obtain ⟨direct, table, agrees⟩ := machine_specialists_agree_with_direct found .wgsl
  cases table
  have own := agrees .wrapping "placement" 1 moved (Array.replicate 12 .zero)
  have other := agrees .wrapping "placement" 1 (.point .one .one) (Array.replicate 12 .zero)
  exact ⟨found, rfl, (own.2 rfl).1, rfl, other.1 (by decide)⟩

end Specialist

end UniformBlock
