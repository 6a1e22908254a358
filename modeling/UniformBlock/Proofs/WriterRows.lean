import UniformBlock.Proofs.RowStore

/-!
# Writers as rows

Every writer puts the components of a value into equal rows.  The writers differ
in the shape of those rows, in the values that they accept and in the components
that they make of them; apart from that each of them behaves like the writer of
an array.
-/

namespace UniformBlock

@[simp]
theorem WriteResult.andThen_done (result : WriteResult) : result.andThen .done = result := by
  rcases result with ⟨buffer, failure?⟩
  cases failure? <;> rfl

/-- A single run is a row that stands alone, with any gap behind it. -/
theorem Buffer.writeRun_eq_writeRows (buffer : Buffer) (name : String)
    (offset width pitch total : Nat) (components : List Binary32) :
    buffer.writeRun name offset width total components =
      buffer.withSpan name offset width
        (Buffer.writeRows name width pitch total 1 offset components) := by
  by_cases noRoom : buffer.size < offset + width
  · rw [writeRun, withSpan_of_no_room noRoom, withSpan_of_no_room noRoom]
  · rw [withSpan_of_room (Nat.le_of_not_lt noRoom), writeRows]
    exact (WriteResult.andThen_done _).symm

namespace Writer

/-! ## The shape of a writer -/

/-- The rows into which a writer puts components. -/
def pattern : Writer → RowPattern
  | vector components => ⟨1, components, 0⟩
  | matrix columns rows stride => ⟨columns, rows, stride - rows⟩
  | strided pattern _ => pattern
  | affine => ⟨3, 3, 1⟩
  | rect => ⟨1, 4, 0⟩
  | point => ⟨1, 2, 0⟩
  | color channels => ⟨1, channels, 0⟩

/-- Whether a writer refuses a short value before it writes anything. -/
def refusesShort : Writer → Bool
  | strided _ checked => checked
  | _ => true

/-- The components that a writer makes of a value, if it accepts its shape. -/
def parts? (writer : Writer) (value : Value) : Option (List Binary32) :=
  match writer with
  | affine =>
      match value with
      | .affine a b c d tx ty => some (affineColumns a b c d tx ty).flatten
      | _ => none
  | rect =>
      match value with
      | .rect .. => some value.components
      | _ => none
  | point =>
      match value with
      | .point .. => some value.components
      | _ => none
  | color _ =>
      match value with
      | .color .. => some value.components
      | _ => none
  | _ => some value.components

/-- Whether the rows of a writer follow each other without overlap, and its
colors have all the channels that it puts. -/
def Regular : Writer → Prop
  | matrix columns rows stride => 0 < columns ∧ rows ≤ stride
  | color channels => channels ≤ 4
  | _ => True

instance (writer : Writer) : Decidable writer.Regular :=
  match writer with
  | matrix columns rows stride => inferInstanceAs (Decidable (0 < columns ∧ rows ≤ stride))
  | color channels => inferInstanceAs (Decidable (channels ≤ 4))
  | vector _ | strided .. | affine | rect | point => inferInstanceAs (Decidable True)

/-! ## Running a writer -/

/-- A value that is long enough passes the check. -/
theorem withCount_of_le {name : String} {value : Value} {expected : Nat} {buffer : Buffer}
    {next : WriteResult} (enough : expected ≤ value.count) :
    withCount name value expected buffer next = next :=
  if_neg (Nat.not_lt.mpr enough)

/-- A value that is too short does not. -/
theorem withCount_of_lt {name : String} {value : Value} {expected : Nat} {buffer : Buffer}
    {next : WriteResult} (short : value.count < expected) :
    withCount name value expected buffer next =
      .failed buffer (.valueShape name expected value.count) :=
  if_pos short

/-- A writer of one row checks the value and the room like an array writer. -/
theorem writeRun_eq_strided {name : String} {offset width : Nat} {components : List Binary32}
    {buffer : Buffer} (enough : width ≤ components.length) :
    buffer.writeRun name offset width components.length components =
      (strided ⟨1, width, 0⟩ true).run name offset (.flat components) buffer := by
  have expected : (if true = true then RowPattern.valueCount ⟨1, width, 0⟩ else 0) = width :=
    Nat.one_mul width
  have extent : RowPattern.extent ⟨1, width, 0⟩ = width := by
    rw [RowPattern.extent_succ, Nat.zero_mul, Nat.zero_add]
  rw [run, expected, withCount_of_le enough, extent]
  exact Buffer.writeRun_eq_writeRows _ _ _ _ _ _ _

/-- A matrix is written like the array of its columns. -/
theorem run_matrix_eq_strided {columns rows stride : Nat} (someColumns : 0 < columns)
    (apart : rows ≤ stride) (name : String) (offset : Nat) (value : Value) (buffer : Buffer) :
    (matrix columns rows stride).run name offset value buffer =
      (strided ⟨columns, rows, stride - rows⟩ true).run name offset value buffer := by
  have pitch : RowPattern.pitch ⟨columns, rows, stride - rows⟩ = stride :=
    Nat.add_sub_cancel' apart
  have extent : RowPattern.extent ⟨columns, rows, stride - rows⟩ =
      matrixExtent columns rows stride := by
    rw [RowPattern.extent_eq someColumns, pitch, matrixExtent]
  rw [run_matrix, run, extent, pitch]
  rfl

/-- A plane transform is written like an array of three rows. -/
theorem run_affine_eq_strided (a b c d tx ty : Binary32) (name : String) (offset : Nat)
    (buffer : Buffer) :
    affine.run name offset (.affine a b c d tx ty) buffer =
      (strided ⟨3, 3, 1⟩ true).run name offset (.flat (affineColumns a b c d tx ty).flatten)
        buffer := by
  rw [run_affine]
  rfl

/-- A regular writer is the array writer of its rows, given the components that
it makes of the value. -/
theorem run_eq_strided {writer : Writer} (regular : writer.Regular) {value : Value}
    {components : List Binary32} (accepted : writer.parts? value = some components)
    (name : String) (offset : Nat) (buffer : Buffer) :
    writer.run name offset value buffer =
      (strided writer.pattern writer.refusesShort).run name offset (.flat components) buffer := by
  have total : (Value.flat value.components).count = value.count :=
    Value.length_components value
  cases writer with
  | vector width =>
      cases accepted
      by_cases short : value.count < width
      · have expected : 1 * width = width := Nat.one_mul width
        have shortFlat : (Value.flat value.components).count < 1 * width := by
          rwa [total, expected]
        rw [run, withCount_of_lt short, pattern, run]
        change _ = withCount name _ (1 * width) buffer _
        rw [withCount_of_lt shortFlat, expected, total]
      · have enough : width ≤ value.components.length := by
          rw [Value.length_components]
          exact Nat.le_of_not_lt short
        rw [run, withCount_of_le (Nat.le_of_not_lt short), ← Value.length_components]
        exact writeRun_eq_strided enough
  | matrix columns rows stride =>
      cases accepted
      rw [run_matrix_eq_strided regular.1 regular.2, pattern, run, run, withCount, withCount,
        total]
      rfl
  | strided pattern checked =>
      cases accepted
      rw [run, run, withCount, withCount, total]
      rfl
  | affine =>
      cases value
      case affine =>
        cases accepted
        exact run_affine_eq_strided _ _ _ _ _ _ name offset buffer
      all_goals cases accepted
  | rect =>
      cases value
      case rect =>
        cases accepted
        exact writeRun_eq_strided (Nat.le_refl 4)
      all_goals cases accepted
  | point =>
      cases value
      case point =>
        cases accepted
        exact writeRun_eq_strided (Nat.le_refl 2)
      all_goals cases accepted
  | color channels =>
      cases value
      case color =>
        cases accepted
        exact writeRun_eq_strided regular
      all_goals cases accepted

/-- A value of another shape is refused before anything is written. -/
theorem run_of_parts?_eq_none {writer : Writer} {value : Value}
    (refused : writer.parts? value = none) (name : String) (offset : Nat) (buffer : Buffer) :
    ∃ expected, writer.run name offset value buffer =
      .failed buffer (.valueKind name expected) := by
  cases writer with
  | vector components => cases refused
  | matrix columns rows stride => cases refused
  | strided pattern checked => cases refused
  | affine =>
      cases value
      case affine => cases refused
      all_goals exact ⟨_, rfl⟩
  | rect =>
      cases value
      case rect => cases refused
      all_goals exact ⟨_, rfl⟩
  | point =>
      cases value
      case point => cases refused
      all_goals exact ⟨_, rfl⟩
  | color channels =>
      cases value
      case color => cases refused
      all_goals exact ⟨_, rfl⟩

variable {writer : Writer} {value : Value} {components : List Binary32} {name : String}
  {offset : Nat} {buffer : Buffer}

/-- With enough components and enough room, all rows are stored. -/
theorem run_of_enough (regular : writer.Regular)
    (accepted : writer.parts? value = some components)
    (enough : writer.pattern.valueCount ≤ components.length)
    (room : offset + writer.pattern.extent ≤ buffer.size) :
    writer.run name offset value buffer =
      .done (Buffer.storeRows writer.pattern.width writer.pattern.pitch writer.pattern.rows
        offset components buffer) := by
  rw [run_eq_strided regular accepted, run_strided, if_neg fun short => by omega,
    if_neg (Nat.not_lt.mpr room), if_neg (Nat.not_lt.mpr enough)]
  rfl

/-- With too few components the report is about the value. -/
theorem run_of_short (regular : writer.Regular)
    (accepted : writer.parts? value = some components)
    (short : components.length < writer.pattern.valueCount)
    (room : offset + writer.pattern.extent ≤ buffer.size) :
    ∃ expected actual, (writer.run name offset value buffer).failure? =
      some (.valueShape name expected actual) := by
  rw [run_eq_strided regular accepted, run_strided]
  split
  · exact ⟨_, _, rfl⟩
  · rw [if_neg (Nat.not_lt.mpr room)]
    exact ⟨_, _, rfl⟩

/-- A regular writer succeeds exactly when there are enough components and enough
room, whether or not it refuses short values at once. -/
theorem run_succeeds_iff (regular : writer.Regular)
    (accepted : writer.parts? value = some components) :
    (writer.run name offset value buffer).failure? = none ↔
      writer.pattern.valueCount ≤ components.length ∧
        offset + writer.pattern.extent ≤ buffer.size := by
  rw [run_eq_strided regular accepted, run_strided]
  split
  · rename_i refused
    exact iff_of_false (Option.some_ne_none _) (by omega)
  · split
    · rename_i noRoom
      exact iff_of_false (Option.some_ne_none _) (by omega)
    · rename_i room
      dsimp only
      split
      · rename_i short
        exact iff_of_false (Option.some_ne_none _) (by omega)
      · rename_i enough
        exact iff_of_true rfl ⟨Nat.le_of_not_lt enough, Nat.le_of_not_lt room⟩

/-- The failure of a regular writer is about its uniform, and about a value that is there. -/
theorem failure_of_run {error : SyncError} (regular : writer.Regular)
    (failed : (writer.run name offset value buffer).failure? = some error) :
    error.name = name ∧ error ≠ .notFound name := by
  cases accepted : writer.parts? value with
  | none =>
      obtain ⟨expected, refused⟩ := run_of_parts?_eq_none accepted name offset buffer
      rw [refused] at failed
      cases failed
      exact ⟨rfl, SyncError.noConfusion⟩
  | some components =>
      rw [run_eq_strided regular accepted, run_strided] at failed
      split at failed
      · cases failed
        exact ⟨rfl, SyncError.noConfusion⟩
      · split at failed
        · cases failed
          exact ⟨rfl, SyncError.noConfusion⟩
        · dsimp only at failed
          split at failed
          · cases failed
            exact ⟨rfl, SyncError.noConfusion⟩
          · cases failed

/-- A regular writer leaves everything outside its rows as it was. -/
theorem getElem?_run_outside (regular : writer.Regular) {i : Nat}
    (outside : i < offset ∨ offset + writer.pattern.extent ≤ i) :
    (writer.run name offset value buffer).buffer[i]? = buffer[i]? := by
  cases accepted : writer.parts? value with
  | none =>
      obtain ⟨expected, refused⟩ := run_of_parts?_eq_none accepted name offset buffer
      rw [refused]
      rfl
  | some components =>
      rw [run_eq_strided regular accepted, run_strided]
      split
      · rfl
      · split
        · rfl
        · apply Buffer.getElem?_storeRows_outside
          intro row inRows column inWidth _
          have inExtent := RowPattern.row_end_le_extent inRows
          omega

end Writer

/-- Whether a write, if it failed at all, did not fail for lack of room. -/
def WriteResult.InRange (result : WriteResult) : Prop :=
  ∀ name offset length size, result.failure? ≠ some (.outOfRange name offset length size)

namespace WriteResult.InRange

theorem done (buffer : Buffer) : (WriteResult.done buffer).InRange := by
  intro _ _ _ _ failed
  cases failed

theorem failed_notFound (buffer : Buffer) (name : String) :
    (WriteResult.failed buffer (.notFound name)).InRange := by
  intro _ _ _ _ failed
  cases failed

theorem andThen {result : WriteResult} {next : Buffer → WriteResult} (first : result.InRange)
    (later : (next result.buffer).InRange) : (result.andThen next).InRange := by
  rw [WriteResult.andThen]
  split
  · exact later
  · exact first

end WriteResult.InRange

/-- A regular writer with room for its rows stays within the buffer. -/
theorem Writer.inRange_run {writer : Writer} (regular : writer.Regular) {name : String}
    {offset : Nat} {value : Value} {buffer : Buffer}
    (room : offset + writer.pattern.extent ≤ buffer.size) :
    (writer.run name offset value buffer).InRange := by
  intro _ _ _ _ outOfRange
  cases accepted : writer.parts? value with
  | none =>
      obtain ⟨expected, refused⟩ := run_of_parts?_eq_none accepted name offset buffer
      rw [refused] at outOfRange
      cases outOfRange
  | some components =>
      rcases Nat.lt_or_ge components.length writer.pattern.valueCount with short | enough
      · obtain ⟨expected, actual, failed⟩ := run_of_short regular accepted short room
        rw [failed] at outOfRange
        cases outOfRange
      · rw [run_of_enough regular accepted enough room] at outOfRange
        cases outOfRange

/-- With enough components, a regular writer stays within the buffer exactly when
there is room for its rows. -/
theorem Writer.inRange_run_iff {writer : Writer} (regular : writer.Regular) {name : String}
    {offset : Nat} {value : Value} {components : List Binary32} {buffer : Buffer}
    (accepted : writer.parts? value = some components)
    (enough : writer.pattern.valueCount ≤ components.length) :
    (writer.run name offset value buffer).InRange ↔
      offset + writer.pattern.extent ≤ buffer.size := by
  constructor
  · intro inRange
    apply Nat.le_of_not_lt
    intro noRoom
    apply inRange name offset writer.pattern.extent buffer.size
    rw [run_eq_strided regular accepted, run_strided, if_neg fun short => by omega,
      if_pos noRoom]
    rfl
  · exact inRange_run regular

end UniformBlock
