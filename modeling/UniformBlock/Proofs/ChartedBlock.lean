import UniformBlock.Machine.Blocks
import UniformBlock.Proofs.CompiledBlock

/-!
# The chart of a block

The text of a chart can be read back: each line after the heading shows an offset, a
size and a label.  For a layout that was built without overflow these lines cover the
block from its first byte to its last, without gaps and without overlaps.  They show the
slots of the layout in their order, and between them the bytes that belong to no uniform.

A name may contain a line break, which would cut its line in two.  The lines of a chart
are known for any names, and they are the lines of its text if no name is broken.
-/

namespace UniformBlock

/-! ## Lines -/

namespace Text

/-- The lines of a text, each with the break that ends it. -/
def lines : List Char → List (List Char)
  | [] => []
  | char :: rest =>
      if char = '\n' then
        [char] :: lines rest
      else
        match lines rest with
        | [] => [[char]]
        | line :: others => (char :: line) :: others

/-- Whether a text is in one line. -/
def Unbroken (text : String) : Prop :=
  '\n' ∉ text.toList

instance (text : String) : Decidable (Unbroken text) :=
  inferInstanceAs (Decidable ('\n' ∉ text.toList))

/-- The first break ends the first line. -/
theorem lines_append {front : List Char} (unbroken : '\n' ∉ front) (rest : List Char) :
    lines (front ++ '\n' :: rest) = (front ++ ['\n']) :: lines rest := by
  induction front with
  | nil => exact if_pos rfl
  | cons char front ih =>
      obtain ⟨different, unbroken⟩ := not_or.mp (mt List.mem_cons.mpr unbroken)
      rw [List.cons_append, lines, if_neg (Ne.symm different), ih unbroken]
      rfl

theorem lines_cons_line {text : String} (unbroken : Unbroken text) (rest : List Char) :
    lines ((text ++ "\n").toList ++ rest) = (text ++ "\n").toList :: lines rest := by
  have whole : (text ++ "\n").toList = text.toList ++ ['\n'] := String.toList_append
  rw [whole, List.append_assoc]
  exact lines_append unbroken rest

/-- Three lines can be dropped from a text that starts with them. -/
theorem lines_drop_three {first second third : String} (one : Unbroken first)
    (two : Unbroken second) (three : Unbroken third) (rest : List Char) :
    (lines ((first ++ "\n" ++ (second ++ "\n") ++ (third ++ "\n")).toList ++ rest)).drop 3 =
      lines rest := by
  rw [String.toList_append, String.toList_append, List.append_assoc, List.append_assoc,
    lines_cons_line one, lines_cons_line two, lines_cons_line three]
  rfl

@[simp]
theorem unbroken_append {front back : String} :
    Unbroken (front ++ back) ↔ Unbroken front ∧ Unbroken back := by
  simp [Unbroken]

@[simp]
theorem unbroken_repr (value : Nat) : Unbroken value.repr := by
  change Unbroken (toString value)
  rw [Unbroken, Nat.toString_eq_ofList_toDigits, String.toList_ofList]
  intro member
  exact absurd (Nat.isDigit_of_mem_toDigits (by decide) (by decide) member) (by decide)

@[simp]
theorem unbroken_alignRight {width : Nat} {text : String} :
    Unbroken (alignRight width text) ↔ Unbroken text := by
  rw [alignRight, unbroken_append, and_iff_right]
  rw [Unbroken, spaces, String.toList_ofList]
  intro member
  exact absurd (List.eq_of_mem_replicate member) (by decide)

end Text

theorem ShaderType.unbroken_spelling (type : ShaderType) : Text.Unbroken type.spelling := by
  have kinds (kind : ComponentKind) : Text.Unbroken kind.spelling := by
    cases kind <;> decide
  have marks : Text.Unbroken "vec" ∧ Text.Unbroken "<" ∧ Text.Unbroken ">" ∧
      Text.Unbroken "mat" ∧ Text.Unbroken "x" ∧ Text.Unbroken "<f32>" := by
    decide
  cases type <;> simp [spelling, Dimension.numeral, kinds, marks]

theorem Declaration.unbroken_typeText (declaration : Declaration) :
    Text.Unbroken declaration.typeText := by
  have marks : Text.Unbroken "array<" ∧ Text.Unbroken ", " ∧ Text.Unbroken ">" := by decide
  have type := declaration.type.unbroken_spelling
  rw [typeText]
  split <;> simp [marks, type]

/-! ## Reading a chart -/

/-- What a line of a chart shows. -/
structure ChartRow where
  offset : Nat
  size : Nat
  label : String
  deriving DecidableEq, Repr

namespace ChartRow

/-- Read a number with spaces before it and a bar after it. -/
def readColumn? (chars : List Char) : Option (Nat × List Char) :=
  let figures := chars.dropWhile (· == ' ')
  let digits := figures.takeWhile Char.isDigit
  if digits = [] then
    none
  else
    match figures.dropWhile Char.isDigit with
    | ' ' :: '|' :: ' ' :: rest => some (Nat.ofDigitChars 10 digits 0, rest)
    | _ => none

/-- Read a line: two numbers, and a label up to the end of the line. -/
def ofLine? (line : List Char) : Option ChartRow := do
  let (offset, afterOffset) ← readColumn? line
  let (size, label) ← readColumn? afterOffset
  if label.getLast? = some '\n' then
    return { offset, size, label := String.ofList label.dropLast }
  else
    none

/-- The rows of a chart: what can be read off the lines of its text below the heading. -/
def ofText? (text : String) : Option (List ChartRow) :=
  ((Text.lines text.toList).drop 3).mapM ofLine?

theorem readColumn?_alignRight (width value : Nat) (rest : List Char) :
    readColumn? ((Text.alignRight width (toString value)).toList ++ ' ' :: '|' :: ' ' :: rest) =
      some (value, rest) := by
  have digits : ∀ char ∈ Nat.toDigits 10 value, char.isDigit = true :=
    fun char member => Nat.isDigit_of_mem_toDigits (by decide) (by decide) member
  have spaces : ∀ char ∈ (Text.spaces (width - (toString value).length)).toList,
      (char == ' ') = true := by
    intro char member
    rw [Text.spaces, String.toList_ofList] at member
    exact beq_iff_eq.mpr (List.eq_of_mem_replicate member)
  have figures : ((Text.alignRight width (toString value)).toList ++
      ' ' :: '|' :: ' ' :: rest).dropWhile (· == ' ') =
        Nat.toDigits 10 value ++ ' ' :: '|' :: ' ' :: rest := by
    rw [Text.alignRight, String.toList_append, List.append_assoc,
      List.dropWhile_append_of_pos spaces, Nat.toString_eq_ofList_toDigits, String.toList_ofList]
    cases split : Nat.toDigits 10 value with
    | nil => exact absurd split Nat.toDigits_ne_nil
    | cons first others =>
        rw [List.cons_append, List.dropWhile_cons_of_neg]
        have isDigit := digits first (split ▸ List.mem_cons_self)
        rw [beq_iff_eq]
        rintro rfl
        exact absurd isDigit (by decide)
  rw [readColumn?, figures, List.takeWhile_append_of_pos digits,
    List.dropWhile_append_of_pos digits]
  simp [Nat.toDigits_ne_nil, Nat.ofDigitChars_ten_toDigits]

end ChartRow

namespace ChartLine

/-- What the line shows. -/
def row (line : ChartLine) : ChartRow :=
  { offset := line.offset, size := line.size, label := line.label }

/-- The text of a line reads as what the line shows. -/
theorem ofLine?_render (line : ChartLine) :
    ChartRow.ofLine? line.render.toList = some line.row := by
  have text : line.render.toList =
      (Text.alignRight 6 (toString line.offset)).toList ++ ' ' :: '|' :: ' ' ::
        ((Text.alignRight 5 (toString line.size)).toList ++ ' ' :: '|' :: ' ' ::
          (line.label.toList ++ ['\n'])) := by
    simp [render]
  rw [ChartRow.ofLine?, text]
  simp only [ChartRow.readColumn?_alignRight, Option.bind_eq_bind, Option.bind_some,
    List.getLast?_concat, if_true, List.dropLast_concat, String.ofList_toList]
  rfl

end ChartLine

/-! ## What a chart shows -/

namespace ChartRow

/-- Whether the row shows bytes that belong to no uniform. -/
def IsPadding (row : ChartRow) : Prop :=
  row.label = "[padding]"

instance (row : ChartRow) : Decidable row.IsPadding :=
  inferInstanceAs (Decidable (row.label = "[padding]"))

/-- Rows that cover the bytes from one offset to another, each one starting where the row
before it ends. -/
inductive Tiles : Nat → List ChartRow → Nat → Prop where
  | nil (offset : Nat) : Tiles offset [] offset
  | cons {first finish : Nat} {row : ChartRow} {rest : List ChartRow}
      (starts : row.offset = first) (tail : Tiles (row.offset + row.size) rest finish) :
      Tiles first (row :: rest) finish

theorem Tiles.append {first middle last : Nat} {front back : List ChartRow}
    (left : Tiles first front middle) (right : Tiles middle back last) :
    Tiles first (front ++ back) last := by
  induction left with
  | nil offset => exact right
  | cons starts tail ih => exact .cons starts (ih right)

theorem Tiles.eq_of_nil {first last : Nat} (none : Tiles first [] last) : last = first := by
  cases none
  rfl

end ChartRow

/-- The row of a slot: its bytes, its name and its type. -/
def Slot.row (slot : Slot) : ChartRow :=
  { offset := slot.element.byteOffset, size := slot.byteSize,
    label := slot.element.name ++ " : " ++ slot.element.typeText }

/-- No name makes a slot look like padding. -/
theorem Slot.not_isPadding_row (slot : Slot) : ¬ slot.row.IsPadding := by
  intro same
  have colon : ':' ∈ slot.row.label.toList := by simp [row]
  rw [same] at colon
  exact absurd colon (by decide)

namespace Layout

/-- What is known of the rows of a layout's chart. -/
structure ChartedBy (layout : Layout) (rows : List ChartRow) : Prop where
  /-- The rows cover the block and overlap nowhere. -/
  tiles : ChartRow.Tiles 0 rows layout.byteSize
  /-- The rows that are no padding show the slots in their order. -/
  slots : rows.filter (fun row => ¬ row.IsPadding) = layout.slots.map Slot.row
  padded : ∀ row ∈ rows, row.IsPadding → 0 < row.size
  apart : rows.IsChain fun first second => ¬ (first.IsPadding ∧ second.IsPadding)

/-- The rows of some slots and of the padding around them, where `reached` is the
greatest end so far and `byteSize` the end of the block. -/
def rowsFrom (byteSize reached : Nat) (slots : List Slot) : List ChartRow :=
  (chartFrom byteSize reached slots).map ChartLine.row

/-- The row of the padding from one offset to another, if there is any. -/
def paddingRows (first last : Nat) : List ChartRow :=
  if first < last then [⟨first, last - first, "[padding]"⟩] else []

theorem rowsFrom_nil (byteSize reached : Nat) :
    rowsFrom byteSize reached [] = paddingRows reached byteSize := by
  rw [rowsFrom, chartFrom, paddingBetween, paddingRows]
  split <;> rfl

theorem rowsFrom_cons (byteSize reached : Nat) (slot : Slot) (rest : List Slot) :
    rowsFrom byteSize reached (slot :: rest) =
      paddingRows reached slot.element.byteOffset ++
        slot.row :: rowsFrom byteSize (max reached slot.finish) rest := by
  rw [rowsFrom, chartFrom, List.map_append, paddingBetween, paddingRows]
  split <;> rfl

variable {first last : Nat}

theorem tiles_paddingRows (ordered : first ≤ last) :
    ChartRow.Tiles first (paddingRows first last) last := by
  rw [paddingRows]
  split
  · refine .cons rfl ?_
    rw [Nat.add_sub_of_le ordered]
    exact .nil last
  · rename_i none
    rw [Nat.le_antisymm ordered (Nat.le_of_not_lt none)]
    exact .nil last

theorem isPadding_of_mem_paddingRows {row : ChartRow} (member : row ∈ paddingRows first last) :
    row.IsPadding ∧ 0 < row.size := by
  rw [paddingRows] at member
  split at member
  · rename_i between
    rw [List.mem_singleton.mp member]
    exact ⟨rfl, Nat.sub_pos_of_lt between⟩
  · cases member

/-- Every row of a chain starts where the row before it ends. -/
theorem Arranged.tiles {reserve : Reserve} {free finish byteSize : Nat} {slots : List Slot}
    (forward : reserve.Forward) (chain : Arranged reserve free slots finish)
    (inside : finish ≤ byteSize) :
    ChartRow.Tiles free (rowsFrom byteSize free slots) byteSize := by
  induction chain with
  | nil free =>
      rw [rowsFrom_nil]
      exact tiles_paddingRows inside
  | @cons free finish declaration reservation slots reserved rest ih =>
      have starts : free ≤ reservation.start free := forward reserved free
      -- The chart goes on from the greatest end so far, which is that of the last slot.
      have reached : max free (reservation.place declaration free).finish =
          (reservation.place declaration free).finish :=
        Nat.max_eq_right (starts.trans (Nat.le_add_right _ _))
      rw [rowsFrom_cons, reached]
      exact (tiles_paddingRows starts).append (.cons rfl (ih inside))

theorem filter_rowsFrom (byteSize reached : Nat) (slots : List Slot) :
    (rowsFrom byteSize reached slots).filter (fun row => ¬ row.IsPadding) =
      slots.map Slot.row := by
  have padding : ∀ first last,
      (paddingRows first last).filter (fun row => ¬ row.IsPadding) = [] := by
    intro first last
    rw [List.filter_eq_nil_iff]
    intro row member
    simp [(isPadding_of_mem_paddingRows member).1]
  induction slots generalizing reached with
  | nil => rw [rowsFrom_nil, padding, List.map_nil]
  | cons slot rest ih =>
      rw [rowsFrom_cons, List.filter_append, padding, List.nil_append, List.filter_cons,
        if_pos (decide_eq_true slot.not_isPadding_row), ih, List.map_cons]

theorem size_pos_of_mem_rowsFrom {byteSize reached : Nat} {slots : List Slot} {row : ChartRow}
    (member : row ∈ rowsFrom byteSize reached slots) (padding : row.IsPadding) :
    0 < row.size := by
  induction slots generalizing reached with
  | nil =>
      rw [rowsFrom_nil] at member
      exact (isPadding_of_mem_paddingRows member).2
  | cons slot rest ih =>
      rw [rowsFrom_cons, List.mem_append, List.mem_cons] at member
      rcases member with before | rfl | later
      · exact (isPadding_of_mem_paddingRows before).2
      · exact absurd padding slot.not_isPadding_row
      · exact ih later

/-- The row of a slot stands between any two rows of padding. -/
theorem isChain_rowsFrom (byteSize reached : Nat) (slots : List Slot) :
    (rowsFrom byteSize reached slots).IsChain
      fun first second => ¬ (first.IsPadding ∧ second.IsPadding) := by
  have single : ∀ first last, (paddingRows first last).IsChain
      fun first second => ¬ (first.IsPadding ∧ second.IsPadding) := by
    intro first last
    rw [paddingRows]
    split
    · exact .singleton _
    · exact .nil
  induction slots generalizing reached with
  | nil =>
      rw [rowsFrom_nil]
      exact single reached byteSize
  | cons slot rest ih =>
      -- On both sides of the slot's row the pair in question holds that row.
      rw [rowsFrom_cons, List.isChain_append]
      refine ⟨single _ _, ?_, ?_⟩
      · rw [List.isChain_cons]
        exact ⟨fun row _ both => slot.not_isPadding_row both.1, ih _⟩
      · rintro row - other ⟨⟩ both
        exact slot.not_isPadding_row both.2

/-! ## The text of a chart -/

theorem mapM_ofLine?_render (lines : List ChartLine) :
    lines.mapM (fun line => ChartRow.ofLine? line.render.toList) =
      some (lines.map ChartLine.row) := by
  induction lines with
  | nil => rfl
  | cons line rest ih =>
      rw [List.mapM_cons, ChartLine.ofLine?_render, ih]
      rfl

/-- The three lines of the heading are in one line each. -/
theorem lines_chartHeading (layout : Layout) (rest : List Char) :
    (Text.lines (layout.chartHeading.toList ++ rest)).drop 3 = Text.lines rest := by
  have title : Text.Unbroken ("=== Uniform Layout (" ++ layout.convention.name ++ ", " ++
      toString layout.byteSize ++ " bytes) ===") := by
    have marks : Text.Unbroken "=== Uniform Layout (" ∧ Text.Unbroken ", " ∧
        Text.Unbroken " bytes) ===" ∧ ∀ convention : Convention, Text.Unbroken convention.name := by
      refine ⟨by decide, by decide, by decide, fun convention => ?_⟩
      cases convention <;> decide
    simp [marks]
  have columns : Text.Unbroken "Offset | Size  | Uniform" := by decide
  have rule : Text.Unbroken "-------|-------|------------------" := by
    simp [Text.Unbroken]
  exact Text.lines_drop_three title columns rule rest

/-- Unless a name is broken, every line of a chart is one line of text. -/
theorem unbroken_of_names {byteSize reached : Nat} {slots : List Slot}
    (unbroken : ∀ slot ∈ slots, Text.Unbroken slot.element.name) {line : ChartLine}
    (member : line ∈ chartFrom byteSize reached slots) :
    Text.Unbroken line.label := by
  have padding : ∀ {first last : Nat}, line ∈ paddingBetween first last →
      Text.Unbroken line.label := by
    intro first last member
    rw [paddingBetween] at member
    split at member
    · rw [List.mem_singleton.mp member]
      exact (by decide : Text.Unbroken "[padding]")
    · cases member
  induction slots generalizing reached with
  | nil => exact padding member
  | cons slot rest ih =>
      obtain ⟨named, unbroken⟩ := List.forall_mem_cons.mp unbroken
      rw [chartFrom, List.mem_append, List.mem_cons] at member
      rcases member with before | rfl | later
      · exact padding before
      · have mark : Text.Unbroken " : " := by decide
        simp [ChartLine.label, named, mark, slot.element.unbroken_typeText]
      · exact ih unbroken later

/-- The rows that are read off a chart's text are those of its slots. -/
theorem ofText?_renderChart {layout : Layout}
    (unbroken : ∀ slot ∈ layout.slots, Text.Unbroken slot.element.name) :
    ChartRow.ofText? layout.renderChart = some (rowsFrom layout.byteSize 0 layout.slots) := by
  have lines : ∀ lines : List ChartLine, (∀ line ∈ lines, Text.Unbroken line.label) →
      Text.lines (String.join (lines.map ChartLine.render)).toList =
        lines.map fun line => line.render.toList := by
    intro lines single
    induction lines with
    | nil => simp [Text.lines]
    | cons line rest ih =>
        obtain ⟨first, single⟩ := List.forall_mem_cons.mp single
        have bar : Text.Unbroken " | " := by decide
        have whole : Text.Unbroken (Text.alignRight 6 (toString line.offset) ++ " | " ++
            Text.alignRight 5 (toString line.size) ++ " | " ++ line.label) := by
          simp [bar, first]
        rw [List.map_cons, List.map_cons, String.join_cons, String.toList_append,
          ChartLine.render, Text.lines_cons_line whole, ih single]
  rw [ChartRow.ofText?, renderChart, String.toList_append, lines_chartHeading,
    lines layout.chart fun line member => unbroken_of_names unbroken member, List.mapM_map]
  exact mapM_ofLine?_render layout.chart

/-! ## Charts of built layouts -/

variable {convention : Convention} {reserve : Reserve} {declarations : List Declaration}
  {alignment : Nat} {layout : Layout}

/-- The chart of a layout that never starts a value before the first free byte covers the
block. -/
theorem chartedBy_of_build (forward : reserve.Forward)
    (built : build convention reserve declarations alignment = .ok layout) :
    layout.ChartedBy (rowsFrom layout.byteSize 0 layout.slots) := by
  obtain ⟨-, finish, chain, whole⟩ := build_eq_ok built
  have inside : finish ≤ layout.byteSize := by
    rw [whole]
    exact le_roundUp finish alignment
  exact ⟨chain.tiles forward inside, filter_rowsFrom _ _ _,
    fun row member => size_pos_of_mem_rowsFrom member, isChain_rowsFrom _ _ _⟩

/-- A chart without any row is that of a block without any uniform. -/
theorem rows_eq_nil_iff
    (built : build convention reserve declarations alignment = .ok layout) :
    rowsFrom layout.byteSize 0 layout.slots = [] ↔ declarations = [] := by
  constructor
  · intro none
    have noSlots := filter_rowsFrom layout.byteSize 0 layout.slots
    rw [none, List.filter_nil, eq_comm, List.map_eq_nil_iff] at noSlots
    obtain ⟨declared, -⟩ := build_eq_ok built
    rw [← declared, elements, noSlots]
    rfl
  · rintro rfl
    cases built
    rw [roundUp_zero]
    rfl

/-- A chart is drawn without overflow if every slot ends at a word. -/
theorem machineRenderChart_eq {layout : Layout}
    (fits : ∀ slot ∈ layout.slots, slot.finish < wordCount) (build : Build) :
    layout.machineRenderChart build = .ok layout.renderChart := by
  have lines (slots : List Slot) (fits : ∀ slot ∈ slots, slot.finish < wordCount)
      (reached : Nat) :
      machineChartFrom build layout.byteSize reached slots =
        .ok (chartFrom layout.byteSize reached slots) := by
    induction slots generalizing reached with
    | nil => rfl
    | cons slot rest ih =>
        obtain ⟨ends, fits⟩ := List.forall_mem_cons.mp fits
        rw [machineChartFrom, Build.add_of_lt ends, ok_bind, ih fits]
        rfl
  rw [machineRenderChart, machineChart, lines layout.slots fits]
  rfl

end Layout

namespace Compiler

/-- The text of a chart is a heading and lines that can be read, and unless a name is broken
these are the lines below the heading.  For a layout of either convention, with any size
tables, that is built without overflow, the rows cover the block from the first byte to
the last; there are none exactly if nothing is declared, and then the block is empty. -/
theorem machine_chart_covers_block (compiler : Compiler) {declarations : List Declaration}
    {layout : Layout} (built : compiler.machineLayout .checked declarations = .ok layout) :
    ∃ text lines rows,
      (∀ build, compiler.machineLayout build declarations = .ok layout ∧
        layout.machineRenderChart build = .ok text) ∧
      text = layout.chartHeading ++ String.join lines ∧
      lines.mapM (fun line => ChartRow.ofLine? line.toList) = some rows ∧
      ((∀ declaration ∈ declarations, Text.Unbroken declaration.name) →
        ChartRow.ofText? text = some rows) ∧
      layout.ChartedBy rows ∧ (rows = [] ↔ declarations = []) ∧
      (rows = [] → layout.byteSize = 0) := by
  obtain ⟨exactly, everywhere⟩ := (compiler.follows_layout declarations).of_checked_ok built
  have word := byteSize_lt_of_machineLayout built
  have declared := elements_of_layout exactly
  rw [layout_eq_build] at exactly
  have fits : ∀ slot ∈ layout.slots, slot.finish < wordCount := fun slot member =>
    Nat.lt_of_le_of_lt
      (Layout.finish_le_byteSize compiler.reserve_forward exactly member) word
  have charted := Layout.chartedBy_of_build compiler.reserve_forward exactly
  refine ⟨layout.renderChart, layout.chart.map ChartLine.render, _,
    fun build => ⟨everywhere build, Layout.machineRenderChart_eq fits build⟩, rfl, ?_, ?_,
    charted, Layout.rows_eq_nil_iff exactly, ?_⟩
  · rw [List.mapM_map]
    exact Layout.mapM_ofLine?_render layout.chart
  · intro unbroken
    apply Layout.ofText?_renderChart
    intro slot member
    apply unbroken slot.element.toDeclaration
    rw [← declared, Layout.elements, List.map_map]
    exact List.mem_map_of_mem member
  · intro none
    exact (none ▸ charted.tiles).eq_of_nil

/-- A scalar before the row of a vector, another one in the slack behind it, and a pair
that leaves half of its row. -/
def slackBlock : List Declaration :=
  [.single "gain" (.scalar .f32) (.scalar .one),
    .single "axis" (.vector .f32 3) (.color .one .one .zero .one),
    .single "level" (.scalar .u32) (.scalar .zero),
    .array "tail" (.vector .f32 2) 1 (.point .one .zero)]

theorem chart_covers_slackBlock :
    ∃ layout text rows,
      ({} : Compiler).machineLayout .checked slackBlock = .ok layout ∧
      (∀ declaration ∈ slackBlock, Text.Unbroken declaration.name) ∧
      layout.machineRenderChart .wrapping = .ok text ∧ ChartRow.ofText? text = some rows ∧
      layout.ChartedBy rows ∧
      layout.slots.map (fun slot => (slot.element.byteOffset, slot.byteSize)) =
        [(0, 4), (16, 12), (28, 4), (32, 8)] ∧ layout.byteSize = 48 := by
  have built : ({} : Compiler).machineLayout .checked slackBlock = .ok _ := rfl
  have unbroken : ∀ declaration ∈ slackBlock, Text.Unbroken declaration.name := by
    simp [slackBlock, Text.Unbroken, Declaration.single, Declaration.array]
  obtain ⟨text, lines, rows, drawn, -, -, read, charted, -⟩ :=
    machine_chart_covers_block {} built
  exact ⟨_, text, rows, built, unbroken, (drawn .wrapping).2, read unbroken, charted, rfl, rfl⟩

/-- An array of scalars whose bytes a word can still count, but not once they are rounded up
to whole rows. -/
def endlessArray : Declaration :=
  .array "samples" (.scalar .f32) (2 ^ 62 - 1) (.flat [])

/-- The layout of the array as a build without checks computes it. -/
def endlessLayout : Layout where
  convention := .wgsl
  slots := [{ element := { endlessArray with byteOffset := 0 }, byteSize := 2 ^ 64 - 4 }]
  byteSize := 0

/-- The block of such an array is empty, and its chart goes far beyond it. -/
theorem chart_leaves_endlessLayout :
    (ofConvention .wgsl).machineLayout .wrapping [endlessArray] = .ok endlessLayout ∧
      ∃ text rows, endlessLayout.machineRenderChart .wrapping = .ok text ∧
        ChartRow.ofText? text = some rows ∧
        rows.map (fun row => (row.offset, row.size)) = [(0, 2 ^ 64 - 4)] ∧
        ¬ endlessLayout.ChartedBy rows := by
  have fits : ∀ slot ∈ endlessLayout.slots, slot.finish < wordCount := by decide
  have unbroken : ∀ slot ∈ endlessLayout.slots, Text.Unbroken slot.element.name := by
    simp [endlessLayout, endlessArray, Declaration.array, Text.Unbroken]
  refine ⟨by decide, _, _, Layout.machineRenderChart_eq fits .wrapping,
    Layout.ofText?_renderChart unbroken, by decide, ?_⟩
  intro charted
  cases charted.tiles with
  | cons starts tail => exact absurd tail.eq_of_nil (by decide)

end Compiler

end UniformBlock
