import UniformBlock.Proofs.WordRuns

/-!
# Placed rows

What an array writer does, without its loop: when it refuses a value or a buffer, which
slots take which components, and what is left of a value that is too short.  The check
for room looks at the last slot only, and no row can lack room once it has passed.

A build with checks does this or stops at an overflow, and where it does not stop every
other build does the same.  A gap of nearly all words shows what a build without checks may
do instead.
-/

namespace UniformBlock

namespace RowPattern

/-! ## Cells -/

/-- The slot that takes a component, for rows that start at an offset. -/
def cell (pattern : RowPattern) (offset row column : Nat) : Nat :=
  offset + row * pattern.pitch + column

/-- A buffer that was changed to hold components in the cells of a pattern, as far as
there are components, and in no other slot. -/
structure Placed (pattern : RowPattern) (offset : Nat) (components : List Binary32)
    (before after : Buffer) : Prop where
  size : after.size = before.size
  cells : ∀ row < pattern.rows, ∀ column < pattern.width,
    row * pattern.width + column < components.length →
      after[pattern.cell offset row column]? = components[row * pattern.width + column]?
  others : ∀ i, (∀ row < pattern.rows, ∀ column < pattern.width,
    row * pattern.width + column < components.length → i ≠ pattern.cell offset row column) →
      after[i]? = before[i]?

/-- The contents of the cells of the first rows, in order. -/
def readRows (pattern : RowPattern) (offset : Nat) (buffer : Buffer) (rows : Nat) :
    List (Option Binary32) :=
  (List.range rows).flatMap fun row =>
    (List.range pattern.width).map fun column => buffer[pattern.cell offset row column]?

variable {pattern : RowPattern} {offset : Nat} {components : List Binary32}
  {before after : Buffer}

/-- Every cell lies within the extent of its pattern. -/
theorem cell_lt {row column : Nat} (inRows : row < pattern.rows)
    (inWidth : column < pattern.width) :
    pattern.cell offset row column < offset + pattern.extent := by
  have inExtent := row_end_le_extent inRows
  rw [cell]
  omega

/-- Rows that are not empty have room exactly when all their cells exist. -/
theorem no_room_iff (someRows : 0 < pattern.rows) (someColumns : 0 < pattern.width)
    (size : Nat) :
    size < offset + pattern.extent ↔
      ∃ row < pattern.rows, ∃ column < pattern.width, size ≤ pattern.cell offset row column := by
  constructor
  · intro noRoom
    -- The last cell is the last slot of the extent.
    refine ⟨pattern.rows - 1, by omega, pattern.width - 1, by omega, ?_⟩
    rw [extent_eq someRows] at noRoom
    rw [cell]
    omega
  · rintro ⟨row, inRows, column, inWidth, missing⟩
    exact Nat.lt_of_le_of_lt missing (cell_lt inRows inWidth)

/-- Stored rows are placed, if there is room for them. -/
theorem placed_storeRows (room : offset + pattern.extent ≤ before.size) :
    pattern.Placed offset components before
      (Buffer.storeRows pattern.width pattern.pitch pattern.rows offset components before) := by
  have apart : pattern.width ≤ pattern.pitch := Nat.le_add_right _ _
  constructor
  · exact Buffer.size_storeRows before
  · intro row inRows column inWidth stored
    have inBuffer := Nat.lt_of_lt_of_le (cell_lt inRows inWidth) room
    exact Buffer.getElem?_storeRows_cell before apart inRows inWidth stored inBuffer
  · intro i outside
    exact Buffer.getElem?_storeRows_outside before outside

/-- A placed row is read back as the components that it took. -/
theorem Placed.row_eq (placed : pattern.Placed offset components before after) {row : Nat}
    (inRows : row < pattern.rows)
    (enough : row * pattern.width + pattern.width ≤ components.length) :
    ((List.range pattern.width).map fun column => after[pattern.cell offset row column]?) =
      ((components.drop (row * pattern.width)).take pattern.width).map some := by
  apply List.ext_getElem
  · rw [List.length_map, List.length_range, List.length_map, List.length_take,
      List.length_drop]
    omega
  · intro column inWidth _
    rw [List.length_map, List.length_range] at inWidth
    rw [List.getElem_map, List.getElem_range, List.getElem_map, List.getElem_take,
      List.getElem_drop, placed.cells row inRows column inWidth (by omega)]
    exact List.getElem?_eq_getElem _

/-- Placed components are read back in order. -/
theorem Placed.readRows_eq (placed : pattern.Placed offset components before after) {rows : Nat}
    (inRows : rows ≤ pattern.rows) (enough : rows * pattern.width ≤ components.length) :
    pattern.readRows offset after rows =
      (components.take (rows * pattern.width)).map some := by
  induction rows with
  | zero =>
      rw [Nat.zero_mul]
      rfl
  | succ rows ih =>
      rw [Nat.succ_mul] at enough ⊢
      have earlier := ih (by omega) (by omega)
      rw [readRows] at earlier ⊢
      rw [List.range_succ, List.flatMap_append, earlier, List.flatMap_singleton,
        placed.row_eq (by omega) enough, List.take_add, List.map_append]

end RowPattern

/-- Rows that end within a buffer are copied without another check that fails. -/
theorem Buffer.inRange_writeRows {pattern : RowPattern} {offset : Nat} {buffer : Buffer}
    (room : offset + pattern.extent ≤ buffer.size) (name : String) (total : Nat)
    (components : List Binary32) :
    (Buffer.writeRows name pattern.width pattern.pitch total pattern.rows offset components
      buffer).InRange := by
  intro _ _ _ _ outOfRange
  rw [writeRows_eq] at outOfRange
  · dsimp only at outOfRange
    split at outOfRange
    · cases outOfRange
    · cases outOfRange
  · intro row inRows
    have inExtent := RowPattern.row_end_le_extent inRows
    omega

namespace Writer

/-! ## Array writers -/

variable {pattern : RowPattern} {checked : Bool} {name : String} {offset : Nat} {value : Value}
  {before : Buffer}

/-- What an array writer does with a value. -/
theorem run_strided_value :
    (strided pattern checked).run name offset value before =
      if checked = true ∧ value.count < pattern.valueCount then
        .failed before (.valueShape name pattern.valueCount value.count)
      else if before.size < offset + pattern.extent then
        .failed before (.outOfRange name offset pattern.extent before.size)
      else
        { buffer := Buffer.storeRows pattern.width pattern.pitch pattern.rows offset
            value.components before
          failure? := if value.count < pattern.valueCount then
            some (.valueShape name pattern.width value.count) else none } := by
  have regular : (strided pattern checked).Regular := trivial
  rw [run_eq_strided regular rfl, run_strided, Value.length_components]
  rfl

/-- The effect of an array writer on a buffer. -/
structure PutsRows (pattern : RowPattern) (checked : Bool) (name : String) (offset : Nat)
    (value : Value) (before : Buffer) (result : WriteResult) : Prop where
  /-- With the check, a value that is too short is refused before anything else. -/
  refused : checked = true →
    (result = .failed before (.valueShape name pattern.valueCount value.count) ↔
      value.count < pattern.valueCount)
  noRoom : result = .failed before (.outOfRange name offset pattern.extent before.size) ↔
    (checked = true → pattern.valueCount ≤ value.count) ∧ before.size < offset + pattern.extent
  /-- Without the check, it is placed as far as it goes. -/
  short : checked = false →
    ((∃ after, result = .failed after (.valueShape name pattern.width value.count) ∧
        pattern.Placed offset value.components before after) ↔
      offset + pattern.extent ≤ before.size ∧ value.count < pattern.valueCount)
  /-- Everything else succeeds. -/
  whole : (∃ after, result = .done after ∧
      pattern.Placed offset value.components before after ∧
      pattern.readRows offset after pattern.rows =
        (value.components.take pattern.valueCount).map some) ↔
    offset + pattern.extent ≤ before.size ∧ pattern.valueCount ≤ value.count

namespace PutsRows

theorem of_refused (check : checked = true) (short : value.count < pattern.valueCount) :
    PutsRows pattern checked name offset value before
      (.failed before (.valueShape name pattern.valueCount value.count)) where
  refused _ := iff_of_true rfl short
  noRoom := iff_of_false (fun same => nomatch same) fun both => by
    have enough := both.1 check
    omega
  short unchecked := absurd (check.symm.trans unchecked) Bool.noConfusion
  whole := iff_of_false (fun ⟨_, same, _⟩ => nomatch same) fun both => by omega

theorem of_no_room (passed : checked = true → pattern.valueCount ≤ value.count)
    (noRoom : before.size < offset + pattern.extent) :
    PutsRows pattern checked name offset value before
      (.failed before (.outOfRange name offset pattern.extent before.size)) where
  refused check := iff_of_false (fun same => nomatch same) (Nat.not_lt.mpr (passed check))
  noRoom := iff_of_true rfl ⟨passed, noRoom⟩
  short _ := iff_of_false (fun ⟨_, same, _⟩ => nomatch same) fun both => by omega
  whole := iff_of_false (fun ⟨_, same, _⟩ => nomatch same) fun both => by omega

theorem of_short {after : Buffer} (unchecked : checked = false)
    (room : offset + pattern.extent ≤ before.size) (short : value.count < pattern.valueCount)
    (placed : pattern.Placed offset value.components before after) :
    PutsRows pattern checked name offset value before
      (.failed after (.valueShape name pattern.width value.count)) where
  refused check := absurd (check.symm.trans unchecked) Bool.noConfusion
  noRoom := iff_of_false (fun same => nomatch same) fun both => by omega
  short _ := iff_of_true ⟨after, rfl, placed⟩ ⟨room, short⟩
  whole := iff_of_false (fun ⟨_, same, _⟩ => nomatch same) fun both => by omega

theorem of_whole {after : Buffer} (room : offset + pattern.extent ≤ before.size)
    (enough : pattern.valueCount ≤ value.count)
    (placed : pattern.Placed offset value.components before after) :
    PutsRows pattern checked name offset value before (.done after) where
  refused _ := iff_of_false (fun same => nomatch same) (Nat.not_lt.mpr enough)
  noRoom := iff_of_false (fun same => nomatch same) fun both => by omega
  short _ := iff_of_false (fun ⟨_, same, _⟩ => nomatch same) fun both => by omega
  whole := by
    have components : pattern.rows * pattern.width ≤ value.components.length := by
      rwa [Value.length_components]
    have readBack := placed.readRows_eq (Nat.le_refl pattern.rows) components
    exact iff_of_true ⟨after, rfl, placed, readBack⟩ ⟨room, enough⟩

end PutsRows

theorem run_strided_putsRows :
    PutsRows pattern checked name offset value before
      ((strided pattern checked).run name offset value before) := by
  rw [run_strided_value]
  by_cases refused : checked = true ∧ value.count < pattern.valueCount
  · rw [if_pos refused]
    exact .of_refused refused.1 refused.2
  · have passed : checked = true → pattern.valueCount ≤ value.count := fun check =>
      Nat.le_of_not_lt fun short => refused ⟨check, short⟩
    rw [if_neg refused]
    by_cases noRoom : before.size < offset + pattern.extent
    · rw [if_pos noRoom]
      exact .of_no_room passed noRoom
    · have room := Nat.le_of_not_lt noRoom
      have placed : pattern.Placed offset value.components before _ :=
        RowPattern.placed_storeRows room
      rw [if_neg noRoom]
      by_cases short : value.count < pattern.valueCount
      · have unchecked : checked = false := Bool.eq_false_iff.mpr fun check =>
          refused ⟨check, short⟩
        rw [if_pos short]
        exact .of_short unchecked room short placed
      · rw [if_neg short]
        exact .of_whole room (Nat.le_of_not_lt short) placed

/-- An array writer refuses values and buffers by exactly two tests, and puts components
into the cells of its rows and nowhere else.  Every build does so wherever the one with
checks comes to its end, and that it does if the rows with their gaps end at a word.  Rows
that are not empty pass the test for room exactly when all their cells exist, and then none
of them is found to lack room. -/
theorem machine_strided_effect (pattern : RowPattern) (checked : Bool) (name : String)
    (offset : Nat) (value : Value) (before : Buffer) :
    (∀ result,
        (strided pattern checked).machineRun .checked name offset value before = .ok result →
        (∀ build,
          (strided pattern checked).machineRun build name offset value before = .ok result) ∧
        PutsRows pattern checked name offset value before result) ∧
      (offset + pattern.rows * pattern.pitch < wordCount → ∃ result,
        (strided pattern checked).machineRun .checked name offset value before = .ok result) ∧
      (0 < pattern.rows → 0 < pattern.width →
        (before.size < offset + pattern.extent ↔
          ∃ row < pattern.rows, ∃ column < pattern.width,
            before[pattern.cell offset row column]? = none)) ∧
      (offset + pattern.extent ≤ before.size → ∀ total components result,
        Buffer.machineWriteRows .checked name pattern total pattern.rows offset components
          before = .ok result → result.InRange) := by
  refine ⟨?_, ?_, ?_, ?_⟩
  · intro result ends
    obtain ⟨exactly, everywhere⟩ := (follows_run (strided pattern checked) name offset value
      before).of_checked_ok ends
    cases exactly
    exact ⟨everywhere, run_strided_putsRows⟩
  · intro fits
    have regular : (strided pattern checked).Regular := trivial
    exact ⟨_, machineRun_eq regular fits .checked name value before⟩
  · intro someRows someColumns
    simp only [Array.getElem?_eq_none_iff]
    exact RowPattern.no_room_iff someRows someColumns before.size
  · intro room total components result ends
    obtain ⟨exactly, -⟩ := (Buffer.follows_writeRows name pattern total pattern.rows offset
      components before).of_checked_ok ends
    cases exactly
    exact Buffer.inRange_writeRows room name total components

/-- Two rows of two floats, with a gap between them. -/
def pairRows : RowPattern :=
  ⟨2, 2, 1⟩

/-- Three of the four components that the rows take. -/
def threeOfFour : Value :=
  .flat [.one, .one, .one]

/-- The buffer has just room for the rows, and one slot less is not enough. -/
theorem effect_on_three_of_four :
    1 + pairRows.rows * pairRows.pitch < wordCount ∧
      (∃ after,
        (strided pairRows false).machineRun .wrapping "pairs" 1 threeOfFour
            (Array.replicate 6 .zero) = .ok (.failed after (.valueShape "pairs" 2 3)) ∧
        pairRows.Placed 1 threeOfFour.components (Array.replicate 6 .zero) after) ∧
      (strided pairRows true).machineRun .wrapping "pairs" 1 threeOfFour
          (Array.replicate 6 .zero) =
        .ok (.failed (Array.replicate 6 .zero) (.valueShape "pairs" 4 3)) ∧
      ∃ row < 2, ∃ column < 2,
        (Array.replicate 5 Binary32.zero)[pairRows.cell 1 row column]? = none := by
  have fits : 1 + pairRows.rows * pairRows.pitch < wordCount := by decide
  have lenient :=
    machine_strided_effect pairRows false "pairs" 1 threeOfFour (Array.replicate 6 .zero)
  have strict :=
    machine_strided_effect pairRows true "pairs" 1 threeOfFour (Array.replicate 6 .zero)
  have tight :=
    machine_strided_effect pairRows true "pairs" 1 threeOfFour (Array.replicate 5 .zero)
  obtain ⟨left, ends⟩ := lenient.2.1 fits
  obtain ⟨everywhere, puts⟩ := lenient.1 left ends
  obtain ⟨after, rfl, placed⟩ := (puts.short rfl).mpr ⟨by decide, by decide⟩
  obtain ⟨none, ends⟩ := strict.2.1 fits
  obtain ⟨everywhereStrict, putsStrict⟩ := strict.1 none ends
  obtain rfl := (putsStrict.refused rfl).mpr (by decide)
  exact ⟨fits, ⟨after, everywhere .wrapping, placed⟩, everywhereStrict .wrapping,
    (tight.2.2.1 (by decide) (by decide)).mp (by decide)⟩

/-- Two rows of one float, with a gap that leads back behind the start of the buffer. -/
def backwardRows : RowPattern :=
  ⟨2, 1, wordCount - 4⟩

/-- There is no room for the second row.  A build without checks finds room all the same
and puts the second component in front of the first; one with checks stops. -/
theorem backwardRows_wrap_around :
    (strided backwardRows true).machineRun .wrapping "rows" 5 (.flat [.one, .one])
        (Array.replicate 8 .zero) =
      .ok (.done #[.zero, .zero, .one, .zero, .zero, .one, .zero, .zero]) ∧
      ¬ PutsRows backwardRows true "rows" 5 (.flat [.one, .one]) (Array.replicate 8 .zero)
        (.done #[.zero, .zero, .one, .zero, .zero, .one, .zero, .zero]) ∧
      (strided backwardRows true).machineRun .checked "rows" 5 (.flat [.one, .one])
        (Array.replicate 8 .zero) = .error (.overflow .add) := by
  refine ⟨rfl, ?_, rfl⟩
  intro puts
  have refused := puts.noRoom.mpr ⟨fun _ => by decide, by decide⟩
  cases refused

end Writer

end UniformBlock
