import UniformBlock.Proofs.LaidOut
import UniformBlock.Proofs.Std140Rule
import UniformBlock.Proofs.WgslRule
import UniformBlock.Proofs.WordRuns

/-!
# Arrays as entries

An array writer gets its rows from sizes, alignments and samples, and a direct
writer gets its rows from the columns of its type.  With the standard tables the
rows of an array are the rows of its entries, one entry after the other at the
stride of the convention.  Writing an array is therefore the same as writing each
of its entries as a single value.

The number of those rows may outgrow a machine word.  If it does not, the two ways agree
in every build and for all values and buffers that a memory holds: a writer that succeeds
has found its last row in the buffer, so none of its offsets is cut.
-/

namespace UniformBlock

/-! ## Repeated rows -/

/-- Whether a pattern consists of the rows of `count` entries whose first rows lie
`stride` floats apart.  An entry of one row has no pitch of its own. -/
structure RowPattern.Repeats (pattern entry : RowPattern) (count stride : Nat) : Prop where
  rows : pattern.rows = count * entry.rows
  width : pattern.width = entry.width
  pitch : entry.rows ≤ 1 ∨ entry.pitch = pattern.pitch
  stride : stride = entry.rows * pattern.pitch

namespace RowPattern.Repeats

variable {pattern entry : RowPattern} {count stride : Nat}

theorem valueCount (repeats : pattern.Repeats entry count stride) :
    pattern.valueCount = count * entry.valueCount := by
  rw [RowPattern.valueCount, RowPattern.valueCount, repeats.rows, repeats.width, Nat.mul_assoc]

/-- The last row of a pattern is the last row of its last entry. -/
theorem extent (repeats : pattern.Repeats entry (count + 1) stride) (someRows : 0 < entry.rows) :
    pattern.extent = count * stride + entry.extent := by
  have nonempty : 0 < pattern.rows := by
    rw [repeats.rows]
    exact Nat.mul_pos (Nat.succ_pos count) someRows
  have lastRow : pattern.rows - 1 = count * entry.rows + (entry.rows - 1) := by
    rw [repeats.rows, Nat.succ_mul]
    omega
  have samePitch : (entry.rows - 1) * pattern.pitch = (entry.rows - 1) * entry.pitch := by
    rcases repeats.pitch with single | same
    · rw [Nat.sub_eq_zero_of_le single, Nat.zero_mul, Nat.zero_mul]
    · rw [same]
  calc
    pattern.extent = (pattern.rows - 1) * pattern.pitch + pattern.width := extent_eq nonempty
    _ = count * (entry.rows * pattern.pitch) + (entry.rows - 1) * pattern.pitch +
        pattern.width := by rw [lastRow, Nat.add_mul, Nat.mul_assoc]
    _ = count * stride + ((entry.rows - 1) * entry.pitch + entry.width) := by
        rw [← repeats.stride, samePitch, repeats.width, Nat.add_assoc]
    _ = count * stride + entry.extent := by rw [extent_eq someRows]

/-- There is room for all rows exactly when there is room for each entry. -/
theorem room_iff (repeats : pattern.Repeats entry count stride) (someEntries : 0 < count)
    (someRows : 0 < entry.rows) {offset size : Nat} :
    offset + pattern.extent ≤ size ↔
      ∀ i < count, offset + i * stride + entry.extent ≤ size := by
  obtain ⟨last, rfl⟩ := Nat.exists_eq_succ_of_ne_zero (Nat.ne_of_gt someEntries)
  rw [repeats.extent someRows]
  constructor
  · intro room i inside
    have before : i * stride ≤ last * stride :=
      Nat.mul_le_mul_right stride (Nat.le_of_lt_succ inside)
    omega
  · intro room
    have lastRoom := room last (Nat.lt_succ_self last)
    omega

end RowPattern.Repeats

/-! ## Entries -/

/-- One entry of a value whose entries have `width` components each. -/
def Value.entry (value : Value) (width index : Nat) : Value :=
  .flat ((value.components.drop (index * width)).take width)

theorem Value.length_entry {value : Value} {width index count : Nat} (inside : index < count)
    (enough : count * width ≤ value.count) :
    (value.entry width index).components.length = width := by
  have before : (index + 1) * width ≤ count * width := Nat.mul_le_mul_right width inside
  rw [Nat.succ_mul] at before
  rw [entry, components, List.length_take, List.length_drop, length_components]
  omega

namespace Writer

/-- Write the first entries of a value one by one, each as a single value. -/
def runEntries (writer : Writer) (name : String) (offset stride width : Nat) (value : Value) :
    Nat → Buffer → WriteResult
  | 0, buffer => .done buffer
  | entries + 1, buffer =>
      (writer.runEntries name offset stride width value entries buffer).andThen
        (writer.run name (offset + entries * stride) (value.entry width entries))

/-- Whether a writer does with an array what another one does with its entries:
it succeeds exactly when there are components for all entries and each of them
fits, and then all of them have been written. -/
def SideBySide (writer direct : Writer) (count width stride : Nat) : Prop :=
  ∀ name offset value buffer,
    ((writer.run name offset value buffer).failure? = none ↔
        count * width ≤ value.count ∧ ∀ i < count,
          (direct.run name (offset + i * stride) (value.entry width i) buffer).InRange) ∧
      ((writer.run name offset value buffer).failure? = none →
        writer.run name offset value buffer =
          direct.runEntries name offset stride width value count buffer)

variable {direct : Writer} {pattern : RowPattern} {count stride : Nat}

/-- Entries that are written one by one fill the rows of an array. -/
theorem runEntries_eq (regular : direct.Regular)
    (plain : ∀ value, direct.parts? value = some value.components)
    (repeats : pattern.Repeats direct.pattern count stride) {entries : Nat} {value : Value}
    (enough : entries * direct.pattern.valueCount ≤ value.count) {offset : Nat} {buffer : Buffer}
    (room : ∀ i < entries, offset + i * stride + direct.pattern.extent ≤ buffer.size)
    (name : String) :
    direct.runEntries name offset stride direct.pattern.valueCount value entries buffer =
      .done (Buffer.storeRows pattern.width pattern.pitch (entries * direct.pattern.rows) offset
        value.components buffer) := by
  induction entries with
  | zero =>
      rw [Nat.zero_mul]
      rfl
  | succ entries ih =>
      have components : (value.entry direct.pattern.valueCount entries).components.length =
          direct.pattern.valueCount := Value.length_entry (Nat.lt_succ_self entries) enough
      have entryRoom : offset + entries * stride + direct.pattern.extent ≤
          (Buffer.storeRows pattern.width pattern.pitch (entries * direct.pattern.rows) offset
            value.components buffer).size := by
        rw [Buffer.size_storeRows]
        exact room entries (Nat.lt_succ_self entries)
      have sameOffset : entries * direct.pattern.rows * pattern.pitch = entries * stride := by
        rw [repeats.stride, Nat.mul_assoc]
      have sameDrop : entries * direct.pattern.rows * direct.pattern.width =
          entries * direct.pattern.valueCount := Nat.mul_assoc _ _ _
      have enoughBefore : entries * direct.pattern.valueCount ≤ value.count :=
        (Nat.mul_le_mul_right _ (Nat.le_succ entries)).trans enough
      -- The entry starts at the row after the stored ones and takes the next components.
      rw [runEntries, ih enoughBefore fun i inside => room i (Nat.lt_succ_of_lt inside),
        WriteResult.done_andThen, run_of_enough regular (plain _) (Nat.le_of_eq components.symm)
          entryRoom,
        Nat.succ_mul, Buffer.storeRows_add, sameOffset, repeats.width, sameDrop,
        Buffer.storeRows_eq_of_pitch repeats.pitch]
      exact congrArg WriteResult.done (Buffer.storeRows_take _)

/-- An array writer does with an array what a direct writer does with its entries,
as soon as its rows are theirs. -/
theorem strided_sideBySide (regular : direct.Regular)
    (plain : ∀ value, direct.parts? value = some value.components)
    (repeats : pattern.Repeats direct.pattern count stride) (someEntries : 0 < count)
    (someRows : 0 < direct.pattern.rows) (checked : Bool) :
    (strided pattern checked).SideBySide direct count direct.pattern.valueCount stride := by
  intro name offset value buffer
  have stridedRegular : (strided pattern checked).Regular := trivial
  have accepted : (strided pattern checked).parts? value = some value.components := rfl
  have succeeds : ((strided pattern checked).run name offset value buffer).failure? = none ↔
      count * direct.pattern.valueCount ≤ value.count ∧
        ∀ i < count, offset + i * stride + direct.pattern.extent ≤ buffer.size := by
    rw [run_succeeds_iff stridedRegular accepted, Value.length_components,
      ← repeats.room_iff someEntries someRows, ← repeats.valueCount]
    rfl
  constructor
  · rw [succeeds]
    refine and_congr_right fun enough => forall₂_congr fun i inside => ?_
    have components := Value.length_entry inside enough
    exact (inRange_run_iff regular (plain _) (Nat.le_of_eq components.symm)).symm
  · intro succeeded
    obtain ⟨enough, room⟩ := succeeds.mp succeeded
    have enoughRows : (strided pattern checked).pattern.valueCount ≤ value.components.length := by
      rw [Value.length_components]
      exact (Nat.le_of_eq repeats.valueCount).trans enough
    rw [runEntries_eq regular plain repeats enough room, ← repeats.rows]
    exact run_of_enough stridedRegular accepted enoughRows
      ((repeats.room_iff someEntries someRows).mpr room)

end Writer

/-! ## Arrays over the standard tables -/

namespace ShaderType

theorem rows_grid (convention : Convention) (type : ShaderType) :
    (type.grid convention).rows = type.columns := by
  cases type <;> rfl

theorem width_grid (convention : Convention) (type : ShaderType) :
    (type.grid convention).width = type.rows := by
  cases type <;> rfl

end ShaderType

namespace BaseSizes

/-- Every type with a direct std140 writer has a standard base size. -/
theorem standard_baseSize?_of_writer {type : ShaderType} {direct : Writer}
    (known : WriterTable.std140.writer? type = some direct) :
    ∃ base, standard.baseSize? type = some base := by
  have everywhere : ∀ type ∈ ShaderType.all, (WriterTable.std140.writer? type).isSome →
      (standard.baseSize? type).isSome := by decide
  have direct : (WriterTable.ofConvention .std140).writer? type = some direct := known
  have listed := WriterTable.mem_all_of_direct direct
  exact Option.isSome_iff_exists.mp (everywhere type listed (Option.isSome_of_eq_some known))

/-- The rows of a std140 array with a full sample are those of its entries. -/
theorem standard_repeats {type : ShaderType} {base count : Nat}
    (known : standard.baseSize? type = some base) :
    RowPattern.Repeats ⟨count * type.columns, type.rows, rowGap type.rows⟩ (type.grid .std140)
      count (max base 16 / 4) := by
  have listed := mem_all_of_standard known
  have pitch := pitch_of_column (count * type.columns) (ShaderType.rows_pos listed)
    (ShaderType.rows_le_four listed)
  have pitches : ∀ type ∈ ShaderType.all, (type.grid .std140).rows ≤ 1 ∨
      (type.grid .std140).pitch = 4 := by decide
  refine ⟨?_, ?_, ?_, ?_⟩
  · rw [ShaderType.rows_grid]
  · rw [ShaderType.width_grid]
  · rw [pitch]
    exact pitches type listed
  · rw [pitch, ShaderType.rows_grid, (standard_roundUp known).1]
    omega

end BaseSizes

namespace AlignSizes

/-- The rows of a WGSL array are those of its entries. -/
theorem standard_repeats {type : ShaderType} (listed : type ∈ ShaderType.all) (count : Nat) :
    RowPattern.Repeats ⟨count * type.columns, type.rows, columnGap type.rows⟩ (type.grid .wgsl)
      count ((languageEntry type).stride / 4) := by
  have pitches : ∀ type ∈ ShaderType.all, (type.grid .wgsl).rows ≤ 1 ∨
      (type.grid .wgsl).pitch = type.rows + columnGap type.rows := by decide
  refine ⟨?_, ?_, pitches type listed, ?_⟩
  · rw [ShaderType.rows_grid]
  · rw [ShaderType.width_grid]
  · rw [ShaderType.rows_grid, ← (column_bytes listed).2.2, Nat.mul_left_comm, RowPattern.pitch]
    exact Nat.mul_div_cancel_left _ (by decide)

end AlignSizes

namespace Compiler

variable {compiler : Compiler}

/-- The distance in floats between two entries of an array. -/
def entryStride? (compiler : Compiler) (type : ShaderType) : Option Nat :=
  match compiler.settings.convention with
  | .std140 => (compiler.baseSizes.baseSize? type).map fun base => max base 16 / 4
  | .wgsl => (compiler.alignSizes.alignSize? type).map fun entry => entry.stride / 4

/-- The writer of an array has the rows of the array's entries. -/
theorem arrayWriters_repeats (sizes : compiler.StandardSizes) {element : Element}
    {direct : Writer} (array : 1 < element.count)
    (known : (WriterTable.ofConvention compiler.settings.convention).writer? element.type =
      some direct)
    (full : compiler.settings.convention = .std140 →
      element.value.count = element.count * element.type.components) :
    ∃ pattern stride,
      compiler.arrayWriters.writerFor element =
        .ok (.strided pattern compiler.settings.checkValueLengths) ∧
      compiler.entryStride? element.type = some stride ∧ pattern.gap ≤ 3 ∧
      pattern.Repeats (element.type.grid compiler.settings.convention) element.count stride := by
  rw [entryStride?, arrayWriters, sizes.base, sizes.align]
  cases convention : compiler.settings.convention with
  | std140 =>
      rw [convention] at known
      obtain ⟨base, knownBase⟩ := BaseSizes.standard_baseSize?_of_writer known
      have rows := BaseSizes.standard_rowPattern_of_full knownBase
        (Nat.lt_of_succ_lt array) (full convention)
      refine ⟨_, _, ?_, ?_, Nat.le_of_lt_succ (BaseSizes.rowGap_lt _),
        BaseSizes.standard_repeats knownBase⟩
      · simp only [BaseSizes.arrayWriters, rows, Except.map]
      · rw [knownBase, Option.map_some]
  | wgsl =>
      have listed := WriterTable.mem_all_of_direct known
      have rows := AlignSizes.standard_rowPattern_of_pos element.name listed
        (Nat.lt_of_succ_lt array)
      refine ⟨_, _, ?_, ?_, AlignSizes.columnGap_le _,
        AlignSizes.standard_repeats listed element.count⟩
      · simp only [AlignSizes.arrayWriters, AlignSizes.rowPatternOf, rows, Except.map]
      · rw [AlignSizes.standard_eq_some_iff.mpr ⟨listed, AlignSizes.standardEntry_eq listed⟩,
          Option.map_some]

end Compiler

/-! ## Side by side on words -/

namespace Buffer

variable {build : Build} {name : String} {offset total : Nat} {components : List Binary32}
  {buffer : Buffer} {result : WriteResult}

/-- A run that was written took all its components from the value. -/
theorem width_le_of_machineWriteRun {width : Nat}
    (ends : buffer.machineWriteRun build name offset width total components = .ok result)
    (succeeded : result.failure? = none) : width ≤ components.length := by
  obtain ⟨finish, -, ends⟩ := bind_eq_ok ends
  split at ends
  · cases ends
    cases succeeded
  · dsimp only at ends
    split at ends
    · cases ends
      cases succeeded
    · rename_i enough
      exact Nat.le_of_not_lt enough

/-- Its range lies in the buffer, since a range that is cut ends before it starts. -/
theorem room_of_machineWriteRun {width : Nat} (widthWord : width < wordCount)
    (ends : buffer.machineWriteRun build name offset width total components = .ok result)
    (succeeded : result.failure? = none) : offset + width ≤ buffer.size := by
  obtain ⟨finish, added, ends⟩ := bind_eq_ok ends
  split at ends
  · cases ends
    cases succeeded
  · rename_i inside
    have stands := Build.fit_eq_ok_iff.mp added
    cases build with
    | checked =>
        obtain ⟨-, rfl⟩ := stands
        omega
    | wrapping =>
        simp only [Build.Stands, wordCount] at stands widthWord
        omega

/-- Rows that were all written took their components from the value. -/
theorem mul_le_of_machineWriteRows {pattern : RowPattern} {rows : Nat}
    (ends : machineWriteRows build name pattern total rows offset components buffer = .ok result)
    (succeeded : result.failure? = none) : rows * pattern.width ≤ components.length := by
  induction rows generalizing offset components buffer with
  | zero =>
      rw [Nat.zero_mul]
      exact Nat.zero_le _
  | succ rows ih =>
      obtain ⟨run, wrote, ends⟩ := bind_eq_ok ends
      rw [WriteResult.machineAndThen] at ends
      split at ends
      · rename_i going
        obtain ⟨pitch, -, ends⟩ := bind_eq_ok ends
        obtain ⟨next, -, ends⟩ := bind_eq_ok ends
        have first := width_le_of_machineWriteRun wrote going
        have later := ih ends
        rw [List.length_drop] at later
        rw [Nat.succ_mul]
        omega
      · rename_i failed
        cases ends
        cases failed.symm.trans succeeded

/-- The first of such rows lies in the buffer. -/
theorem room_of_machineWriteRows {pattern : RowPattern} {rows : Nat}
    (widthWord : pattern.width < wordCount)
    (ends : machineWriteRows build name pattern total (rows + 1) offset components buffer =
      .ok result)
    (succeeded : result.failure? = none) : offset + pattern.width ≤ buffer.size := by
  obtain ⟨run, wrote, ends⟩ := bind_eq_ok ends
  rw [WriteResult.machineAndThen] at ends
  split at ends
  · rename_i going
    exact room_of_machineWriteRun widthWord wrote going
  · rename_i failed
    cases ends
    cases failed.symm.trans succeeded

end Buffer

namespace Writer

/-- An array writer that succeeds has written all its rows. -/
theorem rows_of_strided {build : Build} {pattern : RowPattern} {checked : Bool} {name : String}
    {offset : Nat} {value : Value} {buffer : Buffer} {result : WriteResult}
    (ends : (strided pattern checked).machineRun build name offset value buffer = .ok result)
    (succeeded : result.failure? = none) :
    Buffer.machineWriteRows build name pattern value.count pattern.rows offset value.components
      buffer = .ok result := by
  obtain ⟨expected, -, ends⟩ := bind_eq_ok ends
  rw [machineWithCount] at ends
  split at ends
  · cases ends
    cases succeeded
  · obtain ⟨extent, -, ends⟩ := bind_eq_ok ends
    obtain ⟨finish, -, ends⟩ := bind_eq_ok ends
    split at ends
    · cases ends
      cases succeeded
    · exact ends

/-- Write the first entries of a value one by one, each as a single value. -/
def machineRunEntries (writer : Writer) (build : Build) (name : String)
    (offset stride width : Nat) (value : Value) : Nat → Buffer → WriteAttempt
  | 0, buffer => .ok (.done buffer)
  | entries + 1, buffer => do
      let result ← writer.machineRunEntries build name offset stride width value entries buffer
      result.machineAndThen
        (writer.machineRun build name (offset + entries * stride) (value.entry width entries))

/-- Whether in some build a writer does with an array what another one does with its
entries: it succeeds exactly when there are components for all entries and each of them
fits, and then the entries can be written instead, one by one. -/
def MachineSideBySide (build : Build) (writer direct : Writer) (count width stride : Nat) : Prop :=
  ∀ name offset value buffer, Holdable value.count → Holdable buffer.size →
    ((∃ written, writer.machineRun build name offset value buffer = .ok (.done written)) ↔
        count * width ≤ value.count ∧ ∀ i < count,
          (direct.run name (offset + i * stride) (value.entry width i) buffer).InRange) ∧
      ∀ written, writer.machineRun build name offset value buffer = .ok (.done written) →
        direct.machineRunEntries build name offset stride width value count buffer =
          .ok (.done written)

variable {direct : Writer} {pattern : RowPattern} {count stride width offset : Nat}

/-- Entries that reach words are written one by one without overflow. -/
theorem machineRunEntries_eq (regular : direct.Regular) {entries : Nat}
    (fits : ∀ i < entries, direct.reach (offset + i * stride) < wordCount) (build : Build)
    (name : String) (value : Value) (buffer : Buffer) :
    direct.machineRunEntries build name offset stride width value entries buffer =
      .ok (direct.runEntries name offset stride width value entries buffer) := by
  induction entries generalizing buffer with
  | zero => rfl
  | succ entries ih =>
      rw [machineRunEntries, ih (fun i inside => fits i (Nat.lt_succ_of_lt inside)) buffer]
      exact WriteResult.machineAndThen_eq _ fun buffer =>
        machineRun_eq regular (fits entries (Nat.lt_succ_self entries)) build name _ buffer

/-- An array writer that succeeds has rows that end in the buffer, so it has not computed
any offset that is no word. -/
theorem reach_lt_of_strided {build : Build} {checked : Bool} {name : String} {value : Value}
    {buffer : Buffer} {result : WriteResult} (someRows : 0 < pattern.rows)
    (width : 0 < pattern.width ∧ pattern.width ≤ 4) (gap : pattern.gap ≤ 3)
    (heldValue : Holdable value.count) (heldBuffer : Holdable buffer.size)
    (ends : (strided pattern checked).machineRun build name offset value buffer = .ok result)
    (succeeded : result.failure? = none) :
    (strided pattern checked).reach offset < wordCount := by
  have written := rows_of_strided ends succeeded
  have components := Buffer.mul_le_of_machineWriteRows written succeeded
  obtain ⟨rows, counted⟩ := Nat.exists_eq_succ_of_ne_zero (Nat.ne_of_gt someRows)
  have widthWord : pattern.width < wordCount := Nat.lt_of_le_of_lt width.2 (by decide)
  rw [counted] at written
  have room := Buffer.room_of_machineWriteRows widthWord written succeeded
  have pitch : pattern.rows * pattern.pitch ≤ 4 * (pattern.rows * pattern.width) := by
    rw [Nat.mul_left_comm]
    apply Nat.mul_le_mul_left
    rw [RowPattern.pitch]
    omega
  rw [Value.length_components] at components
  rw [reach, Writer.pattern]
  simp only [Holdable, wordCount] at heldValue heldBuffer ⊢
  omega

/-- On words an array writer does with an array what a direct writer does with its
entries, as soon as its rows are theirs. -/
theorem strided_machineSideBySide (regular : direct.Regular)
    (plain : ∀ value, direct.parts? value = some value.components)
    (repeats : pattern.Repeats direct.pattern count stride) (someEntries : 0 < count)
    (someRows : 0 < direct.pattern.rows) (width : 0 < pattern.width ∧ pattern.width ≤ 4)
    (gap : pattern.gap ≤ 3) (directGap : direct.pattern.gap ≤ 4) (checked : Bool)
    (build : Build) :
    (strided pattern checked).MachineSideBySide build direct count direct.pattern.valueCount
      stride := by
  intro name offset value buffer heldValue heldBuffer
  have stridedRegular : (strided pattern checked).Regular := trivial
  have accepted : (strided pattern checked).parts? value = some value.components := rfl
  have allRows : 0 < pattern.rows := by
    rw [repeats.rows]
    exact Nat.mul_pos someEntries someRows
  obtain ⟨succeeds, entries⟩ :=
    strided_sideBySide regular plain repeats someEntries someRows checked name offset value buffer
  -- A success on words is one of the exact writer, since nothing was cut.
  have exactly {written : Buffer}
      (ends : (strided pattern checked).machineRun build name offset value buffer =
        .ok (.done written)) :
      (strided pattern checked).run name offset value buffer = .done written := by
    have reaches := reach_lt_of_strided allRows width gap heldValue heldBuffer ends rfl
    rw [machineRun_eq stridedRegular reaches] at ends
    exact Except.ok.inj ends
  have room (succeeded : ((strided pattern checked).run name offset value buffer).failure? = none) :
      offset + pattern.extent ≤ buffer.size :=
    ((run_succeeds_iff stridedRegular accepted).mp succeeded).2
  constructor
  · rw [← succeeds]
    constructor
    · rintro ⟨written, ends⟩
      rw [exactly ends]
      rfl
    · intro succeeded
      have stridedGap : (strided pattern checked).pattern.gap ≤ 4 := Nat.le_succ_of_le gap
      have reaches : (strided pattern checked).reach offset < wordCount :=
        reach_lt_of_room stridedGap heldBuffer (room succeeded)
      refine ⟨((strided pattern checked).run name offset value buffer).buffer, ?_⟩
      rw [machineRun_eq stridedRegular reaches, WriteResult.done, ← succeeded]
  · intro written ends
    have wrote := exactly ends
    have succeeded : ((strided pattern checked).run name offset value buffer).failure? = none := by
      rw [wrote]
      rfl
    have entryRoom := (repeats.room_iff someEntries someRows).mp (room succeeded)
    rw [← wrote, entries succeeded]
    exact machineRunEntries_eq regular (fun i inside =>
      reach_lt_of_room directGap heldBuffer (entryRoom i inside)) build name value buffer

end Writer

namespace Compiler

variable {compiler : Compiler}

/-- With the standard tables an array is its entries side by side, in every build, as soon
as the number of its rows is a word: the writer of the array and the direct writer of its
type fill the same slots with the same components. -/
theorem machine_array_sideBySide (sizes : compiler.StandardSizes) {element : Element}
    {direct writer : Writer} (array : 1 < element.count)
    (known : (WriterTable.ofConvention compiler.settings.convention).writer? element.type =
      some direct)
    (full : compiler.settings.convention = .std140 →
      element.value.count = element.count * element.type.components)
    (created : (compiler.machineArrayWriters .checked).writerFor element = .ok writer) :
    ∃ stride, compiler.entryStride? element.type = some stride ∧
      ∀ build, (compiler.machineArrayWriters build).writerFor element = .ok writer ∧
        writer.MachineSideBySide build direct element.count element.type.components stride := by
  obtain ⟨exactly, everywhere⟩ :=
    (compiler.arrayWriters_followedBy.writerFor element).of_checked_ok created
  obtain ⟨pattern, stride, same, distance, gap, repeats⟩ :=
    arrayWriters_repeats sizes array known full
  cases exactly.symm.trans same
  have listed := WriterTable.mem_all_of_direct known
  obtain ⟨regular, rows⟩ := WriterTable.ofConvention_writer known
  have someRows : 0 < direct.pattern.rows := by
    rw [rows, ShaderType.rows_grid]
    exact ShaderType.columns_pos listed
  have width : 0 < pattern.width ∧ pattern.width ≤ 4 := by
    rw [repeats.width, ShaderType.width_grid]
    exact ⟨ShaderType.rows_pos listed, ShaderType.rows_le_four listed⟩
  have directGap : direct.pattern.gap ≤ 4 := by
    rw [rows]
    exact ShaderType.gap_grid_le _ _
  rw [← rows] at repeats
  refine ⟨stride, distance, fun build => ⟨everywhere build, ?_⟩⟩
  rw [← ShaderType.valueCount_grid compiler.settings.convention, ← rows]
  exact Writer.strided_machineSideBySide regular (WriterTable.parts?_ofConvention known) repeats
    (Nat.lt_of_succ_lt array) someRows width gap directGap _ build

/-- Two matrices of two columns, whose four rows are half full. -/
def shears : Element :=
  ⟨⟨"shears", .matrix 2 2, 2, .flat (List.replicate 8 .one)⟩, 16⟩

/-- A value for both matrices that ends with a one. -/
def shearValue : Value :=
  .flat [.one, .zero, .zero, .one, .one, .one, .zero, .one]

/-- The last row ends the buffer; one slot further there is no room for it. -/
theorem shears_sideBySide :
    StandardSizes {} ∧ 1 < shears.count ∧
      WriterTable.std140.writer? shears.type = some (.matrix 2 2 4) ∧
      shears.value.count = shears.count * shears.type.components ∧
      (machineArrayWriters {} .checked).writerFor shears = .ok (.strided ⟨4, 2, 2⟩ true) ∧
      (Writer.strided ⟨4, 2, 2⟩ true).MachineSideBySide .wrapping (.matrix 2 2 4) 2 4 8 ∧
      (Writer.matrix 2 2 4).machineRunEntries .wrapping "shears" 1 8 4 shearValue 2
          (Array.replicate 15 .zero) =
        .ok (.done #[.zero, .one, .zero, .zero, .zero, .zero, .one, .zero, .zero, .one, .one,
          .zero, .zero, .zero, .one]) ∧
      ¬ ∃ written, (Writer.strided ⟨4, 2, 2⟩ true).machineRun .wrapping "shears" 2 shearValue
          (Array.replicate 15 .zero) = .ok (.done written) := by
  have sizes : StandardSizes {} := ⟨rfl, rfl⟩
  have array : 1 < shears.count := by decide
  have known : WriterTable.std140.writer? shears.type = some (.matrix 2 2 4) := rfl
  have full : shears.value.count = shears.count * shears.type.components := rfl
  have created : (machineArrayWriters {} .checked).writerFor shears =
      .ok (.strided ⟨4, 2, 2⟩ true) := rfl
  obtain ⟨stride, distance, sideBySide⟩ :=
    machine_array_sideBySide sizes array known (fun _ => full) created
  cases distance
  have entries := (sideBySide .wrapping).2
  have heldValue : Holdable shearValue.count := by decide
  have heldBuffer : Holdable (Array.replicate 15 Binary32.zero).size := by decide
  have written : (Writer.strided ⟨4, 2, 2⟩ true).machineRun .wrapping "shears" 1 shearValue
      (Array.replicate 15 .zero) = .ok (.done #[.zero, .one, .zero, .zero, .zero, .zero, .one,
        .zero, .zero, .one, .one, .zero, .zero, .zero, .one]) := rfl
  refine ⟨sizes, array, known, full, created, entries,
    (entries "shears" 1 shearValue _ heldValue heldBuffer).2 _ written, ?_⟩
  rintro ⟨_, impossible⟩
  cases impossible

/-- Matrices of two columns, half as many as there are words. -/
def countlessShears : Element :=
  ⟨⟨"shears", .matrix 2 2, 2 ^ 63, .flat []⟩, 0⟩

/-- Without checks the rows of such an array are counted as none, and a value without any
component is taken for all of its entries. -/
theorem countlessShears_without_rows :
    ((ofConvention .wgsl).machineArrayWriters .wrapping).writerFor countlessShears =
        .ok (.strided ⟨0, 2, 0⟩ true) ∧
      (Writer.strided ⟨0, 2, 0⟩ true).machineRun .wrapping "shears" 0 (.flat []) #[] =
        .ok (.done #[]) ∧
      ¬ countlessShears.count * countlessShears.type.components ≤ (Value.flat []).count ∧
      ((ofConvention .wgsl).machineArrayWriters .checked).writerFor countlessShears =
        .error (.fault (.overflow .multiply)) :=
  ⟨rfl, rfl, by decide, rfl⟩

end Compiler

end UniformBlock
