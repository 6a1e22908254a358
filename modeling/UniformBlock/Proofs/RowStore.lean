import UniformBlock.Proofs.RowPatterns
import UniformBlock.Writer

/-!
# Stored rows

What a copy of rows leaves in a buffer that has room for it: each component lies
in its cell, as far as there are components, and every other slot is as it was.
-/

namespace UniformBlock

namespace Buffer

/-! ## Consecutive slots -/

/-- Slots before and after the stored ones are not affected. -/
theorem getElem?_store_outside (buffer : Buffer) {offset : Nat} {components : List Binary32}
    {i : Nat} (outside : i < offset ∨ offset + components.length ≤ i) :
    (buffer.store offset components)[i]? = buffer[i]? := by
  induction components generalizing buffer offset with
  | nil => rfl
  | cons component rest ih =>
      rw [List.length_cons] at outside
      have different : offset ≠ i := by omega
      rw [store, ih _ (by omega), Array.getElem?_setIfInBounds_ne different]

/-- Each stored component lies in its slot. -/
theorem getElem?_store_inside (buffer : Buffer) {offset position : Nat}
    {components : List Binary32} (stored : position < components.length)
    (room : offset + position < buffer.size) :
    (buffer.store offset components)[offset + position]? = components[position]? := by
  induction components generalizing buffer offset position with
  | nil => exact absurd stored (Nat.not_lt_zero _)
  | cons component rest ih =>
      rw [store]
      cases position with
      | zero =>
          rw [getElem?_store_outside _ (.inl (by omega))]
          exact Array.getElem?_setIfInBounds_self_of_lt room
      | succ position =>
          have storedLater : position < rest.length := Nat.lt_of_succ_lt_succ stored
          have roomLater : offset + 1 + position <
              Array.size (buffer.setIfInBounds offset component) := by
            rw [Array.size_setIfInBounds]
            omega
          rw [List.getElem?_cons_succ, ← ih _ storedLater roomLater]
          congr 1
          omega

/-! ## Rows -/

/-- Put components into rows of `width` slots whose starts lie `pitch` slots
apart, as far as there are components. -/
def storeRows (width pitch : Nat) : (rows offset : Nat) → List Binary32 → Buffer → Buffer
  | 0, _, _, buffer => buffer
  | rows + 1, offset, components, buffer =>
      storeRows width pitch rows (offset + pitch) (components.drop width)
        (buffer.store offset (components.take width))

variable {width pitch rows offset : Nat} {components : List Binary32}

@[simp]
theorem size_storeRows (buffer : Buffer) :
    (storeRows width pitch rows offset components buffer).size = buffer.size := by
  induction rows generalizing offset components buffer with
  | zero => rfl
  | succ rows ih => rw [storeRows, ih, size_store]

theorem storeRows_nil (buffer : Buffer) :
    storeRows width pitch rows offset [] buffer = buffer := by
  induction rows generalizing offset buffer with
  | zero => rfl
  | succ rows ih => rw [storeRows, List.drop_nil, List.take_nil, store, ih]

/-- Rows may be stored in two runs, the second one behind the first. -/
theorem storeRows_add (first second : Nat) (buffer : Buffer) :
    storeRows width pitch (first + second) offset components buffer =
      storeRows width pitch second (offset + first * pitch) (components.drop (first * width))
        (storeRows width pitch first offset components buffer) := by
  induction first generalizing offset components buffer with
  | zero =>
      rw [Nat.zero_add, Nat.zero_mul, Nat.zero_mul, Nat.add_zero, List.drop_zero, storeRows]
  | succ first ih =>
      have sameOffset : offset + (first + 1) * pitch = offset + pitch + first * pitch := by
        rw [Nat.succ_mul]
        omega
      have sameDrop : (first + 1) * width = width + first * width := by
        rw [Nat.succ_mul, Nat.add_comm]
      rw [Nat.succ_add, storeRows, ih, storeRows, List.drop_drop, sameOffset, sameDrop]

/-- Components beyond the rows do not matter. -/
theorem storeRows_take (buffer : Buffer) :
    storeRows width pitch rows offset (components.take (rows * width)) buffer =
      storeRows width pitch rows offset components buffer := by
  induction rows generalizing offset components buffer with
  | zero => rfl
  | succ rows ih =>
      have firstRow : min width ((rows + 1) * width) = width :=
        Nat.min_eq_left (Nat.le_mul_of_pos_left width (Nat.succ_pos rows))
      rw [storeRows, storeRows, List.take_take, firstRow, List.drop_take, Nat.succ_mul,
        Nat.add_sub_cancel, ih]

/-- The pitch of a single row does not matter. -/
theorem storeRows_eq_of_pitch {other : Nat} (same : rows ≤ 1 ∨ pitch = other)
    (buffer : Buffer) :
    storeRows width pitch rows offset components buffer =
      storeRows width other rows offset components buffer := by
  rcases same with few | rfl
  · match rows, few with
    | 0, _ => rfl
    | 1, _ => rfl
  · rfl

/-- A slot that is the cell of no component is not affected. -/
theorem getElem?_storeRows_outside (buffer : Buffer) {i : Nat}
    (outside : ∀ row < rows, ∀ column < width, row * width + column < components.length →
      i ≠ offset + row * pitch + column) :
    (storeRows width pitch rows offset components buffer)[i]? = buffer[i]? := by
  induction rows generalizing offset components buffer with
  | zero => rfl
  | succ rows ih =>
      rw [storeRows, ih]
      · apply getElem?_store_outside
        rw [List.length_take]
        rcases Nat.lt_or_ge i offset with before | after
        · exact .inl before
        · -- A slot of the first row is the cell of some component.
          have firstRow := outside 0 (Nat.succ_pos rows) (i - offset)
          rw [Nat.zero_mul, Nat.zero_mul] at firstRow
          omega
      · intro row inRows column inWidth stored
        rw [List.length_drop] at stored
        have different := outside (row + 1) (Nat.succ_lt_succ inRows) column inWidth
        rw [Nat.succ_mul, Nat.succ_mul] at different
        have apart := different (by omega)
        omega

/-- Each component lies in its cell. -/
theorem getElem?_storeRows_cell (buffer : Buffer) (apart : width ≤ pitch) {row column : Nat}
    (inRows : row < rows) (inWidth : column < width)
    (stored : row * width + column < components.length)
    (room : offset + row * pitch + column < buffer.size) :
    (storeRows width pitch rows offset components buffer)[offset + row * pitch + column]? =
      components[row * width + column]? := by
  induction rows generalizing offset components buffer row with
  | zero => exact absurd inRows (Nat.not_lt_zero _)
  | succ rows ih =>
      rw [storeRows]
      cases row with
      | zero =>
          -- The later rows start a whole pitch further on.
          rw [getElem?_storeRows_outside]
          · rw [Nat.zero_mul, Nat.zero_add] at stored
            rw [Nat.zero_mul, Nat.add_zero] at room
            rw [Nat.zero_mul, Nat.zero_mul, Nat.add_zero, Nat.zero_add,
              getElem?_store_inside _ (by rw [List.length_take]; omega) room,
              List.getElem?_take_of_lt inWidth]
          · intro later _ place _ _
            omega
      | succ row =>
          have storedLater : row * width + column < (components.drop width).length := by
            rw [Nat.succ_mul] at stored
            rw [List.length_drop]
            omega
          have sameCell : offset + (row + 1) * pitch + column =
              offset + pitch + row * pitch + column := by
            rw [Nat.succ_mul]
            omega
          have samePosition : (row + 1) * width + column = width + (row * width + column) := by
            rw [Nat.succ_mul]
            omega
          rw [sameCell] at room ⊢
          rw [samePosition, ← List.getElem?_drop]
          exact ih _ (Nat.lt_of_succ_lt_succ inRows) storedLater (by rwa [size_store])

/-! ## Copied rows -/

theorem withSpan_of_room {buffer : Buffer} {name : String} {length : Nat}
    {next : Buffer → WriteResult} (room : offset + length ≤ buffer.size) :
    buffer.withSpan name offset length next = next buffer :=
  if_neg (Nat.not_lt.mpr room)

theorem withSpan_of_no_room {buffer : Buffer} {name : String} {length : Nat}
    {next : Buffer → WriteResult} (noRoom : buffer.size < offset + length) :
    buffer.withSpan name offset length next =
      .failed buffer (.outOfRange name offset length buffer.size) :=
  if_pos noRoom

/-- With room for all rows, a copy stores what there is and fails exactly when
there are too few components. -/
theorem writeRows_eq {name : String} {total : Nat} (buffer : Buffer)
    (room : ∀ row < rows, offset + row * pitch + width ≤ buffer.size) :
    writeRows name width pitch total rows offset components buffer =
      { buffer := storeRows width pitch rows offset components buffer
        failure? := if components.length < rows * width then
          some (.valueShape name width total) else none } := by
  induction rows generalizing offset components buffer with
  | zero =>
      rw [if_neg (by rw [Nat.zero_mul]; exact Nat.not_lt_zero _)]
      rfl
  | succ rows ih =>
      have firstRoom : offset + width ≤ buffer.size := by
        have first := room 0 (Nat.succ_pos rows)
        rwa [Nat.zero_mul, Nat.add_zero] at first
      rw [writeRows, writeRun, withSpan_of_room firstRoom, storeRows, Nat.succ_mul]
      dsimp only
      by_cases short : components.length < width
      · -- Nothing is left for the later rows.
        rw [if_pos short, WriteResult.failed_andThen, if_pos (by omega),
          List.drop_eq_nil_of_le (Nat.le_of_lt short), storeRows_nil]
        rfl
      · have laterRoom : ∀ row < rows, offset + pitch + row * pitch + width ≤
            (buffer.store offset (components.take width)).size := by
          intro row inRows
          have this := room (row + 1) (Nat.succ_lt_succ inRows)
          rw [Nat.succ_mul] at this
          rw [size_store]
          omega
        rw [if_neg short, WriteResult.done_andThen, ih _ laterRoom, List.length_drop]
        have sameShortage : components.length - width < rows * width ↔
            components.length < rows * width + width := by omega
        simp only [sameShortage]

end Buffer

/-- What an array writer does with a list of components. -/
theorem Writer.run_strided (pattern : RowPattern) (checked : Bool) (name : String)
    (offset : Nat) (components : List Binary32) (buffer : Buffer) :
    (strided pattern checked).run name offset (.flat components) buffer =
      if checked = true ∧ components.length < pattern.valueCount then
        .failed buffer (.valueShape name pattern.valueCount components.length)
      else if buffer.size < offset + pattern.extent then
        .failed buffer (.outOfRange name offset pattern.extent buffer.size)
      else
        { buffer :=
            Buffer.storeRows pattern.width pattern.pitch pattern.rows offset components buffer
          failure? := if components.length < pattern.valueCount then
            some (.valueShape name pattern.width components.length) else none } := by
  have refused : components.length < (if checked = true then pattern.valueCount else 0) ↔
      checked = true ∧ components.length < pattern.valueCount := by
    cases checked with
    | false => simp
    | true => simp
  rw [run, withCount]
  change (if components.length < _ then _ else _) = _
  simp only [refused]
  by_cases short : checked = true ∧ components.length < pattern.valueCount
  · rw [if_pos short, if_pos short, if_pos short.1]
    rfl
  · rw [if_neg short, if_neg short]
    by_cases noRoom : buffer.size < offset + pattern.extent
    · rw [if_pos noRoom, Buffer.withSpan_of_no_room noRoom]
    · rw [if_neg noRoom, Buffer.withSpan_of_room (Nat.le_of_not_lt noRoom)]
      apply Buffer.writeRows_eq
      intro row inRows
      have inExtent := RowPattern.row_end_le_extent inRows
      omega

end UniformBlock
