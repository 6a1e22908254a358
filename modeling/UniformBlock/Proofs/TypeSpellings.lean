import Mathlib.Data.List.DropRight
import Mathlib.Data.List.TakeWhile
import UniformBlock.ShaderType.Reading

/-!
# The language of type tags

The texts that name a type are given by a small grammar: a scalar, or a vector or
matrix with its kind in brackets, and blanks around the whole and directly inside the
brackets.  Reading accepts this language and nothing else.
-/

namespace UniformBlock

/-! ## Blanks at both ends -/

namespace Text

/-- A core with nothing but blanks before and after it. -/
def Padded (core text : List Char) : Prop :=
  ∃ before after, text = before ++ core ++ after ∧
    (∀ char ∈ before, isBlank char) ∧ ∀ char ∈ after, isBlank char

/-- Whether a text neither begins nor ends with a blank. -/
def Solid (core : List Char) : Prop :=
  (∀ char ∈ core.head?, ¬ isBlank char) ∧ ∀ char ∈ core.getLast?, ¬ isBlank char

theorem solid_of_ends (first : Char) (middle : List Char) (last : Char)
    (solidFirst : ¬ isBlank first) (solidLast : ¬ isBlank last) :
    Solid (first :: middle ++ [last]) := by
  constructor
  · rintro char ⟨⟩
    exact solidFirst
  · rw [List.getLast?_concat]
    rintro char ⟨⟩
    exact solidLast

theorem padded_self (core : List Char) : Padded core core :=
  ⟨[], [], (List.append_nil core).symm, nofun, nofun⟩

/-- A text is what is left of it without the blanks at its ends, and these blanks. -/
theorem padded_trim (text : List Char) : Padded (trim text) text := by
  let rest := text.dropWhile isBlank
  refine ⟨text.takeWhile isBlank, rest.rtakeWhile isBlank, ?_, ?_, ?_⟩
  · have inner : trim text ++ rest.rtakeWhile isBlank = rest :=
      List.rdropWhile_append_rtakeWhile
    rw [List.append_assoc, inner]
    exact List.takeWhile_append_dropWhile.symm
  · exact fun char member => List.mem_takeWhile_imp member
  · exact fun char member => List.mem_rtakeWhile_imp member

theorem trim_of_padded {core text : List Char} (solid : Solid core) (padded : Padded core text) :
    trim text = core := by
  obtain ⟨before, after, rfl, blankBefore, blankAfter⟩ := padded
  -- The blanks in front go by themselves; those at the end only once the core is there
  -- to stop the first removal, so an empty core is a case of its own.
  rw [trim, List.append_assoc, List.dropWhile_append_of_pos blankBefore]
  cases core with
  | nil =>
      rw [List.nil_append, List.dropWhile_eq_nil_iff.mpr blankAfter]
      rfl
  | cons first rest =>
      have blankReversed : ∀ char ∈ after.reverse, isBlank char :=
        fun char member => blankAfter char (List.mem_reverse.mp member)
      obtain ⟨start, last, ends⟩ : ∃ start last, first :: rest = start ++ [last] :=
        ⟨_, _, (List.dropLast_append_getLast (List.cons_ne_nil first rest)).symm⟩
      have solidLast : ¬ isBlank last := by
        apply solid.2 last
        rw [ends]
        exact List.getLast?_concat
      rw [List.cons_append, List.dropWhile_cons_of_neg (solid.1 first rfl), ← List.cons_append,
        List.reverse_append, List.dropWhile_append_of_pos blankReversed, ends,
        List.reverse_concat, List.dropWhile_cons_of_neg solidLast, ← List.reverse_concat,
        List.reverse_reverse]

/-- Removing the blanks at both ends leaves the one core without such blanks. -/
theorem trim_eq_iff {core text : List Char} (solid : Solid core) :
    trim text = core ↔ Padded core text := by
  constructor
  · rintro rfl
    exact padded_trim text
  · exact trim_of_padded solid

end Text

theorem ComponentKind.solid_spelling (kind : ComponentKind) :
    Text.Solid kind.spelling.toList := by
  cases kind with
  | f32 => exact Text.solid_of_ends 'f' ['3'] '2' (by decide) (by decide)
  | i32 => exact Text.solid_of_ends 'i' ['3'] '2' (by decide) (by decide)
  | u32 => exact Text.solid_of_ends 'u' ['3'] '2' (by decide) (by decide)

theorem ComponentKind.bracket_notMem_spelling (kind : ComponentKind) :
    '<' ∉ kind.spelling.toList := by
  cases kind <;> decide

namespace ShaderType

/-! ## The grammar -/

/-- The spellings of a type of the language: blanks may stand directly inside the brackets
only. -/
inductive Spelled : ShaderType → List Char → Prop where
  | scalar (kind : ComponentKind) : Spelled (scalar kind) kind.spelling.toList
  | vector (kind : ComponentKind) {length : Dimension} {inner : List Char}
      (listed : length ∈ Dimension.all) (padded : Text.Padded kind.spelling.toList inner) :
      Spelled (vector kind length)
        (['v', 'e', 'c'] ++ length.numeral.toList ++ '<' :: inner ++ ['>'])
  | matrix {columns rows : Dimension} {inner : List Char}
      (columnsListed : columns ∈ Dimension.all) (rowsListed : rows ∈ Dimension.all)
      (padded : Text.Padded ['f', '3', '2'] inner) :
      Spelled (matrix columns rows)
        (['m', 'a', 't'] ++ columns.numeral.toList ++ 'x' :: rows.numeral.toList ++
          '<' :: inner ++ ['>'])

/-- The texts that name a type: its spellings, with blanks around them. -/
def Names (text : String) (type : ShaderType) : Prop :=
  ∃ core, Spelled type core ∧ Text.Padded core text.toList

theorem Spelled.solid {type : ShaderType} {core : List Char} (spelled : Spelled type core) :
    Text.Solid core := by
  cases spelled with
  | scalar kind => exact kind.solid_spelling
  | vector kind listed padded => exact Text.solid_of_ends 'v' _ '>' (by decide) (by decide)
  | matrix columnsListed rowsListed padded =>
      exact Text.solid_of_ends 'm' _ '>' (by decide) (by decide)

theorem Spelled.mem_all {type : ShaderType} {core : List Char} (spelled : Spelled type core) :
    type ∈ all := by
  cases spelled with
  | scalar kind => exact scalar_mem_all kind
  | vector kind listed padded => exact vector_mem_all_iff.mpr listed
  | matrix columnsListed rowsListed padded =>
      exact matrix_mem_all_iff.mpr ⟨columnsListed, rowsListed⟩

/-! ## Brackets -/

/-- A tag in brackets ends with a closing one, and its head reaches to the first
opening one. -/
theorem splitBrackets?_eq_some_iff {chars head inner : List Char} :
    splitBrackets? chars = some (head, inner) ↔
      chars = head ++ '<' :: inner ++ ['>'] ∧ '<' ∉ head := by
  constructor
  · intro split
    rw [splitBrackets?] at split
    split at split
    · rename_i closed
      have whole : chars.dropLast ++ ['>'] = chars := List.dropLast_append_getLast? _ closed
      split at split
      · rename_i opened
        cases split
        constructor
        · rw [← opened, List.takeWhile_append_dropWhile, whole]
        · intro member
          have notOpening := List.mem_takeWhile_imp member
          exact absurd notOpening (by decide)
      · cases split
    · cases split
  · rintro ⟨rfl, without⟩
    have before : ∀ char ∈ head, (char != '<') = true := by
      intro char member
      rw [bne_iff_ne]
      rintro rfl
      exact without member
    rw [splitBrackets?, List.getLast?_concat, if_pos rfl, List.dropLast_concat,
      List.dropWhile_append_of_pos before, List.takeWhile_append_of_pos before]
    simp

theorem ofHead?_eq_some_iff {head : List Char} {kind : ComponentKind} {type : ShaderType} :
    ofHead? head kind = some type ↔
      (∃ length ∈ Dimension.all, head = ['v', 'e', 'c'] ++ length.numeral.toList ∧
          vector kind length = type) ∨
        ∃ columns ∈ Dimension.all, ∃ rows ∈ Dimension.all,
          head = ['m', 'a', 't'] ++ columns.numeral.toList ++ 'x' :: rows.numeral.toList ∧
            kind = .f32 ∧ matrix columns rows = type := by
  constructor
  · intro read
    rw [ofHead?.eq_def] at read
    split at read
    · obtain ⟨length, digit, rfl⟩ := Option.map_eq_some_iff.mp read
      obtain ⟨listed, numeral⟩ := Dimension.ofChar?_eq_some_iff.mp digit
      exact .inl ⟨length, listed, by rw [numeral]; rfl, rfl⟩
    · split at read
      · rename_i isFloat
        obtain ⟨columns, columnDigit, read⟩ := Option.bind_eq_some_iff.mp read
        obtain ⟨rows, rowDigit, rfl⟩ := Option.map_eq_some_iff.mp read
        obtain ⟨columnsListed, columnNumeral⟩ := Dimension.ofChar?_eq_some_iff.mp columnDigit
        obtain ⟨rowsListed, rowNumeral⟩ := Dimension.ofChar?_eq_some_iff.mp rowDigit
        exact .inr ⟨columns, columnsListed, rows, rowsListed,
          by rw [columnNumeral, rowNumeral]; rfl, isFloat, rfl⟩
      · cases read
    · cases read
  · rintro (⟨length, listed, rfl, rfl⟩ | ⟨columns, columnsListed, rows, rowsListed, rfl, rfl, rfl⟩)
    · rcases Dimension.mem_all_iff.mp listed with rfl | rfl | rfl <;> rfl
    · rcases Dimension.mem_all_iff.mp columnsListed with rfl | rfl | rfl <;>
        rcases Dimension.mem_all_iff.mp rowsListed with rfl | rfl | rfl <;> rfl

/-! ## Reading -/

/-- What is read without blanks around it: the name of a kind, or a head before a kind
in brackets. -/
theorem ofChars?_eq_some_iff {chars : List Char} {type : ShaderType} :
    ofChars? chars = some type ↔
      (∃ kind : ComponentKind, chars = kind.spelling.toList ∧ scalar kind = type) ∨
        ∃ (head inner : List Char) (kind : ComponentKind),
          chars = head ++ '<' :: inner ++ ['>'] ∧ '<' ∉ head ∧
            Text.Padded kind.spelling.toList inner ∧ ofHead? head kind = some type := by
  rw [ofChars?]
  cases named : ComponentKind.ofChars? chars with
  | some kind =>
      obtain rfl := ComponentKind.ofChars?_eq_some_iff.mp named
      constructor
      · intro read
        exact .inl ⟨kind, rfl, Option.some.inj read⟩
      · -- A text that is the name of a kind has no brackets to be split at.
        rintro (⟨other, same, rfl⟩ | ⟨head, inner, other, whole, -⟩)
        · cases (ComponentKind.ofChars?_eq_some_iff.mpr same).symm.trans named
          rfl
        · refine absurd ?_ kind.bracket_notMem_spelling
          rw [whole]
          simp
  | none =>
      simp only [Option.bind_eq_some_iff, Prod.exists, splitBrackets?_eq_some_iff,
        ComponentKind.ofChars?_eq_some_iff, Text.trim_eq_iff (ComponentKind.solid_spelling _)]
      constructor
      · rintro ⟨head, inner, ⟨rfl, before⟩, kind, padded, read⟩
        exact .inr ⟨head, inner, kind, rfl, before, padded, read⟩
      · rintro (⟨kind, rfl, -⟩ | ⟨head, inner, kind, rfl, before, padded, read⟩)
        · rw [ComponentKind.ofChars?_spelling] at named
          cases named
        · exact ⟨head, inner, ⟨rfl, before⟩, kind, padded, read⟩

/-- The dimensions before the brackets hold no bracket. -/
theorem bracket_notMem_numeral {dimension : Dimension} (listed : dimension ∈ Dimension.all) :
    '<' ∉ dimension.numeral.toList := by
  rcases Dimension.mem_all_iff.mp listed with rfl | rfl | rfl <;> decide

/-- Reading without blanks around the text accepts the spellings. -/
theorem ofChars?_eq_some_iff_spelled {chars : List Char} {type : ShaderType} :
    ofChars? chars = some type ↔ Spelled type chars := by
  rw [ofChars?_eq_some_iff]
  constructor
  · rintro (⟨kind, rfl, rfl⟩ | ⟨head, inner, kind, rfl, -, padded, named⟩)
    · exact .scalar kind
    · rcases ofHead?_eq_some_iff.mp named with
        ⟨length, listed, rfl, rfl⟩ | ⟨columns, columnsListed, rows, rowsListed, rfl, rfl, rfl⟩
      · exact .vector kind listed padded
      · exact .matrix columnsListed rowsListed padded
  · intro spelled
    cases spelled with
    | scalar kind => exact .inl ⟨kind, rfl, rfl⟩
    | @vector kind length inner listed padded =>
        refine .inr ⟨_, inner, kind, rfl, ?_, padded,
          ofHead?_eq_some_iff.mpr (.inl ⟨length, listed, rfl, rfl⟩)⟩
        simp [bracket_notMem_numeral listed]
    | @matrix columns rows inner columnsListed rowsListed padded =>
        refine .inr ⟨_, inner, .f32, rfl, ?_, padded, ofHead?_eq_some_iff.mpr
          (.inr ⟨columns, columnsListed, rows, rowsListed, rfl, rfl, rfl⟩)⟩
        simp [bracket_notMem_numeral columnsListed, bracket_notMem_numeral rowsListed]

theorem names_iff {text : String} {type : ShaderType} :
    Names text type ↔ ofChars? (Text.trim text.toList) = some type := by
  rw [ofChars?_eq_some_iff_spelled]
  constructor
  · rintro ⟨core, spelled, padded⟩
    rwa [Text.trim_of_padded spelled.solid padded]
  · intro spelled
    exact ⟨_, spelled, Text.padded_trim text.toList⟩

/-- Every type of the language is named by its canonical spelling. -/
theorem names_spelling {type : ShaderType} (listed : type ∈ all) : Names type.spelling type := by
  refine ⟨type.spelling.toList, ?_, Text.padded_self _⟩
  rcases type with kind | ⟨kind, length⟩ | ⟨columns, rows⟩
  · exact .scalar kind
  · have spelled : Spelled (vector kind length) _ :=
      .vector kind (vector_mem_all_iff.mp listed) (Text.padded_self kind.spelling.toList)
    simpa [spelling] using spelled
  · obtain ⟨columnsListed, rowsListed⟩ := matrix_mem_all_iff.mp listed
    have spelled : Spelled (matrix columns rows) _ :=
      .matrix columnsListed rowsListed (Text.padded_self ['f', '3', '2'])
    simpa [spelling] using spelled

theorem read_eq_ok_iff {text : String} {type : ShaderType} :
    read text = .ok type ↔ Names text type := by
  rw [names_iff, read]
  cases ofChars? (Text.trim text.toList) with
  | some found => simp
  | none => simp

theorem read_eq_error_iff {text : String} {error : LayoutError} :
    read text = .error error ↔ .unknownType text = error ∧ ∀ type, ¬ Names text type := by
  simp only [names_iff, read]
  cases ofChars? (Text.trim text.toList) with
  | some found => simp
  | none => simp

/-- Reading accepts exactly the texts that name a type of the language, keeps every other
text as it was given, and reads back the canonical spelling of each type that it reads.
Documents read and write types in the same way. -/
theorem read_names_exactly (text : String) :
    (∀ type, read text = .ok type ↔ Names text type) ∧
    (∀ error, read text = .error error ↔
      .unknownType text = error ∧ ∀ type, ¬ Names text type) ∧
    (∀ type, Names text type → type ∈ all) ∧
    (∀ type ∈ all, read type.spelling = .ok type) ∧
    ofText text = read text ∧ ∀ type, toText type = type.spelling := by
  refine ⟨fun type => read_eq_ok_iff, fun error => read_eq_error_iff, ?_, ?_, rfl,
    fun type => rfl⟩
  · rintro type ⟨core, spelled, -⟩
    exact spelled.mem_all
  · intro type listed
    exact read_eq_ok_iff.mpr (names_spelling listed)

end ShaderType

end UniformBlock
