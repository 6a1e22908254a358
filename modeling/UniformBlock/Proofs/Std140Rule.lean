import UniformBlock.Machine.Layouts
import UniformBlock.Proofs.Reservations
import UniformBlock.Proofs.RowPatterns

/-!
# The std140 rule

The layout compares what is left of a row with what a value needs and then pads
to the value's own size.  As long as all sizes are words of four bytes, this is
the alignment rule of the shading language: a value of four or eight bytes is
aligned to its size and every other value to a row.

A build with checks lays declarations out by this rule or stops at an overflow, and what it
lays out is the same in every build.  Without checks a size that is no word may end up
anywhere.
-/

namespace UniformBlock

namespace BaseSizes

/-! ## Alignment by size -/

/-- The alignment of a value of the given size. -/
def sizeAlignment : Nat → Nat
  | 4 => 4
  | 8 => 8
  | _ => rowBytes

theorem sizeAlignment_of_ne {byteSize : Nat} (notFour : byteSize ≠ 4) (notEight : byteSize ≠ 8) :
    sizeAlignment byteSize = rowBytes := by
  unfold sizeAlignment
  split <;> first | contradiction | rfl

theorem sizeAlignment_cases (byteSize : Nat) :
    sizeAlignment byteSize = 4 ∨ sizeAlignment byteSize = 8 ∨ sizeAlignment byteSize = 16 := by
  unfold sizeAlignment
  split
  · exact .inl rfl
  · exact .inr (.inl rfl)
  · exact .inr (.inr rfl)

theorem sizeAlignment_pos (byteSize : Nat) : 0 < sizeAlignment byteSize := by
  have cases := sizeAlignment_cases byteSize
  omega

theorem four_dvd_sizeAlignment (byteSize : Nat) : 4 ∣ sizeAlignment byteSize := by
  have cases := sizeAlignment_cases byteSize
  omega

theorem start_of_tight {byteSize free : Nat}
    (tight : 0 < free % 16 ∧ 16 - free % 16 < rowRoom byteSize) :
    start byteSize free = free + (16 - free % 16) :=
  if_pos tight

theorem start_of_roomy {byteSize free : Nat}
    (roomy : ¬ (0 < free % 16 ∧ 16 - free % 16 < rowRoom byteSize)) :
    start byteSize free = free + (byteSize - free % 16 % byteSize) % byteSize :=
  if_neg roomy

/-- Padding by rows and sizes is rounding up to the alignment of the size. -/
theorem start_eq_roundUp {byteSize free : Nat} (positive : 0 < byteSize) (words : 4 ∣ byteSize)
    (aligned : 4 ∣ free) : start byteSize free = roundUp free (sizeAlignment byteSize) := by
  rw [roundUp_of_pos (sizeAlignment_pos byteSize)]
  have sizes : byteSize = 4 ∨ byteSize = 8 ∨ byteSize = 12 ∨ 16 ≤ byteSize := by omega
  by_cases tight : 0 < free % 16 ∧ 16 - free % 16 < rowRoom byteSize
  · rw [start_of_tight tight]
    rcases sizes with rfl | rfl | rfl | large
    · -- The first three sizes are words, so a scalar always fits.
      have room : rowRoom 4 = 4 := rfl
      omega
    · have alignment : sizeAlignment 8 = 8 := rfl
      have room : rowRoom 8 = 8 := rfl
      rw [alignment]
      omega
    · have alignment : sizeAlignment 12 = 16 := rfl
      rw [alignment]
      omega
    · rw [sizeAlignment_of_ne (by omega) (by omega), rowBytes]
      omega
  · rw [start_of_roomy tight]
    rcases sizes with rfl | rfl | rfl | large
    · have alignment : sizeAlignment 4 = 4 := rfl
      rw [alignment]
      omega
    · have alignment : sizeAlignment 8 = 8 := rfl
      rw [alignment]
      omega
    · have alignment : sizeAlignment 12 = 16 := rfl
      have room : rowRoom 12 = 16 := rfl
      rw [alignment]
      omega
    · -- A value of at least a row does not fit unless a row has just begun.
      have room : rowRoom byteSize = byteSize := if_neg (by omega)
      have begun : free % 16 = 0 := by omega
      rw [sizeAlignment_of_ne (by omega) (by omega), rowBytes, begun, Nat.zero_mod,
        Nat.sub_zero, Nat.mod_self]
      omega

/-! ## The rule -/

/-- The bytes of a declaration whose type has the given base size: the base size
of a single value, and for an array the larger of the room for its entries and
the room for its rows. -/
def TakesBytes (table : BaseSizes) (declaration : Declaration) (base byteSize : Nat) : Prop :=
  (declaration.count = 1 ∧ byteSize = base) ∨
    (1 < declaration.count ∧ ∃ pattern, table.rowPatternOf declaration = .ok pattern ∧
      byteSize = max (max base 16 * declaration.count) (roundUp (4 * pattern.extent) 16))

/-- The std140 rule for a list of declarations. -/
structure RowRule (table : BaseSizes) (declarations : List Declaration) (layout : Layout) :
    Prop where
  /-- The slots are the declarations in their order. -/
  declared : layout.elements.map Element.toDeclaration = declarations
  sized : ∀ slot ∈ layout.slots, ∃ base, table.baseSize? slot.element.type = some base ∧
    table.TakesBytes slot.element.toDeclaration base slot.byteSize
  /-- Each slot starts at the first multiple of its alignment after the slot
  before it. -/
  placed : ∀ before slot after, layout.slots = before ++ slot :: after →
    IsLeast {offset | sizeAlignment slot.byteSize ∣ offset ∧
      Layout.lastFinish before 0 ≤ offset} slot.element.byteOffset
  words : ∀ slot ∈ layout.slots, 4 ∣ slot.element.byteOffset
  ordered : layout.slots.Pairwise fun first second =>
    first.finish ≤ second.element.byteOffset
  disjoint : layout.slots.Pairwise fun first second =>
    Disjoint (Finset.Ico first.element.byteOffset first.finish)
      (Finset.Ico second.element.byteOffset second.finish)
  /-- A value that can lie in one row does so. -/
  unsplit : ∀ slot ∈ layout.slots, slot.byteSize ≤ 16 →
    slot.element.byteOffset / 16 = (slot.finish - 1) / 16
  /-- The block is the shortest run of whole rows with all slots in it. -/
  whole : IsLeast {size | 16 ∣ size ∧ Layout.lastFinish layout.slots 0 ≤ size} layout.byteSize

/-- The alignment that the shading language gives a single value. -/
def typeAlignment : ShaderType → Nat
  | .scalar _ => 4
  | .vector _ length => if length = 2 then 8 else 16
  | .matrix _ _ => 16

/-- The alignment that the shading language gives a declaration. -/
def languageAlignment (declaration : Declaration) : Nat :=
  if declaration.isArray then 16 else typeAlignment declaration.type

/-- What the standard table adds to the rule: the alignment is the language's,
and an array with a full sample takes exactly its entries. -/
structure LanguageRule (layout : Layout) : Prop where
  aligned : ∀ slot ∈ layout.slots,
    sizeAlignment slot.byteSize = languageAlignment slot.element.toDeclaration
  exactArrays : ∀ slot ∈ layout.slots, ∀ base,
    standard.baseSize? slot.element.type = some base → 1 < slot.element.count →
    slot.element.value.count = slot.element.count * slot.element.type.components →
    slot.byteSize = slot.element.count * roundUp base 16

/-- Whether all base sizes of a table are whole words. -/
def WordSizes (table : BaseSizes) : Prop :=
  ∀ type base, table.baseSize? type = some base → 0 < base ∧ 4 ∣ base

variable {table : BaseSizes} {declaration : Declaration}

theorem four_dvd_roundUp_row (offset : Nat) : 4 ∣ roundUp offset 16 :=
  Nat.dvd_trans (by decide : 4 ∣ 16) (dvd_roundUp (by decide) offset)

/-- Every reservation is a positive number of words. -/
theorem WordSizes.reserve (words : table.WordSizes) {reservation : Reservation}
    (reserved : table.reserve declaration = .ok reservation) :
    0 < reservation.byteSize ∧ 4 ∣ reservation.byteSize := by
  obtain ⟨base, known, -, single | ⟨many, pattern, -, sized⟩⟩ := reserve_eq_ok reserved
  · rw [single.2.2]
    exact words _ _ known
  · have baseWords := (words _ _ known).2
    have entries : 4 ∣ max base 16 * declaration.count := by
      apply Nat.dvd_mul_right_of_dvd
      rcases Nat.le_total base 16 with small | large
      · rw [Nat.max_eq_right small]
        decide
      · rwa [Nat.max_eq_left large]
    have nonempty : 0 < max base 16 * declaration.count :=
      Nat.mul_pos (Nat.lt_of_lt_of_le (by decide) (Nat.le_max_right base 16)) (by omega)
    have rows := four_dvd_roundUp_row (pattern.extent * 4)
    simp only [rowBytes] at sized
    omega

/-- A chain of word sizes stays on words, so each start is a rounding. -/
theorem WordSizes.arranged (words : table.WordSizes) {free finish : Nat} {slots : List Slot}
    (aligned : 4 ∣ free) (chain : Layout.Arranged table.reserve free slots finish) :
    4 ∣ finish ∧ ∀ before slot after, slots = before ++ slot :: after →
      slot.element.byteOffset =
        roundUp (Layout.lastFinish before free) (sizeAlignment slot.byteSize) := by
  induction chain with
  | nil free =>
      constructor
      · exact aligned
      · intro before slot after split
        exact absurd split.symm (List.append_ne_nil_of_right_ne_nil _ (List.cons_ne_nil _ _))
  | @cons free finish declaration reservation slots reserved rest ih =>
      have sizeWords := words.reserve reserved
      obtain ⟨base, -, starts, -⟩ := reserve_eq_ok reserved
      have start : reservation.start free =
          roundUp free (sizeAlignment reservation.byteSize) := by
        rw [starts]
        exact start_eq_roundUp sizeWords.1 sizeWords.2 aligned
      have startWords : 4 ∣ reservation.start free := by
        rw [start]
        exact Nat.dvd_trans (four_dvd_sizeAlignment _) (dvd_roundUp (sizeAlignment_pos _) _)
      obtain ⟨finishWords, later⟩ := ih (Nat.dvd_add startWords sizeWords.2)
      constructor
      · exact finishWords
      · intro before slot after split
        cases before with
        | nil =>
            obtain ⟨rfl, rfl⟩ := List.cons_eq_cons.mp split
            exact start
        | cons first before =>
            obtain ⟨rfl, same⟩ := List.cons_eq_cons.mp split
            rw [Layout.lastFinish_cons]
            exact later before slot after same

/-- The bytes of a slot are those that its declaration takes. -/
theorem takesBytes_of_arranged {free finish : Nat} {slots : List Slot}
    (chain : Layout.Arranged table.reserve free slots finish) {slot : Slot}
    (member : slot ∈ slots) :
    ∃ base, table.baseSize? slot.element.type = some base ∧
      table.TakesBytes slot.element.toDeclaration base slot.byteSize := by
  obtain ⟨reservation, reserved, sameSize⟩ := chain.reserved_of_mem member
  obtain ⟨base, known, -, sized⟩ := reserve_eq_ok reserved
  rw [sameSize]
  refine ⟨base, known, ?_⟩
  rcases sized with ⟨single, -, sized⟩ | ⟨many, pattern, rows, sized⟩
  · exact .inl ⟨single, sized⟩
  · rw [Nat.mul_comm pattern.extent] at sized
    exact .inr ⟨many, pattern, rows, sized⟩

/-- The bytes of a slot are a positive number of words. -/
theorem WordSizes.slot_words (words : table.WordSizes) {free finish : Nat} {slots : List Slot}
    (chain : Layout.Arranged table.reserve free slots finish) {slot : Slot}
    (member : slot ∈ slots) : 0 < slot.byteSize ∧ 4 ∣ slot.byteSize := by
  obtain ⟨reservation, reserved, sameSize⟩ := chain.reserved_of_mem member
  rw [sameSize]
  exact words.reserve reserved

/-- An aligned value of at most a row does not go on into the next one. -/
theorem same_row_of_aligned {byteSize offset : Nat} (positive : 0 < byteSize)
    (words : 4 ∣ byteSize) (small : byteSize ≤ 16)
    (aligned : sizeAlignment byteSize ∣ offset) :
    offset / 16 = (offset + byteSize - 1) / 16 := by
  have sizes : byteSize = 4 ∨ byteSize = 8 ∨ byteSize = 12 ∨ byteSize = 16 := by omega
  rcases sizes with rfl | rfl | rfl | rfl
  · have words : 4 ∣ offset := aligned
    omega
  · have pairs : 8 ∣ offset := aligned
    omega
  · have rows : 16 ∣ offset := aligned
    omega
  · have rows : 16 ∣ offset := aligned
    omega

/-! ## The standard table -/

theorem standard_wordSizes : standard.WordSizes := by
  intro type base known
  have everywhere : ∀ type ∈ ShaderType.all, ∀ base ∈ standard.baseSize? type,
      0 < base ∧ 4 ∣ base := by decide
  exact everywhere type (mem_all_of_standard known) base known

/-- The rows of an entry with the standard table. -/
theorem standard_roundUp {type : ShaderType} {base : Nat}
    (known : standard.baseSize? type = some base) :
    max base 16 = 16 * type.columns ∧ roundUp base 16 = 16 * type.columns := by
  have everywhere : ∀ type ∈ ShaderType.all, ∀ base ∈ standard.baseSize? type,
      max base 16 = 16 * type.columns ∧ roundUp base 16 = 16 * type.columns := by decide
  exact everywhere type (mem_all_of_standard known) base known

/-- Rows that hold one column each lie four floats apart. -/
theorem pitch_of_column (rows : Nat) {width : Nat} (nonempty : 0 < width) (narrow : width ≤ 4) :
    RowPattern.pitch ⟨rows, width, rowGap width⟩ = 4 := by
  simp only [RowPattern.pitch, rowGap, rowFloats, rowBytes]
  omega

/-- Rows that hold one column each take sixteen bytes each. -/
theorem extent_of_full_rows {rows width : Nat} (someRows : 0 < rows)
    (nonempty : 0 < width) (narrow : width ≤ 4) :
    roundUp (4 * RowPattern.extent ⟨rows, width, rowGap width⟩) 16 = 16 * rows := by
  have pitch := pitch_of_column rows nonempty narrow
  have gap : 4 * rowGap width < 16 := Nat.mul_lt_mul_of_pos_left (rowGap_lt width) (by decide)
  have filled : roundUp (RowPattern.extent ⟨rows, width, rowGap width⟩ * 4) 16 =
      rows * (4 * RowPattern.pitch ⟨rows, width, rowGap width⟩) :=
    RowPattern.roundUp_extent someRows (by rw [pitch]) gap
  rw [Nat.mul_comm 4, filled, pitch, Nat.mul_comm]

/-- An array with a full sample takes exactly its entries. -/
theorem standard_array_bytes {base : Nat} {pattern : RowPattern}
    (known : standard.baseSize? declaration.type = some base)
    (rows : standard.rowPatternOf declaration = .ok pattern)
    (full : declaration.value.count = declaration.count * declaration.type.components) :
    max (max base 16 * declaration.count) (roundUp (4 * pattern.extent) 16) =
      declaration.count * roundUp base 16 := by
  have listed := mem_all_of_standard known
  have positive : 0 < declaration.count := Nat.pos_of_ne_zero (rowPattern_eq_ok rows).1
  cases rows.symm.trans (standard_rowPattern_of_full known positive full)
  rw [extent_of_full_rows (Nat.mul_pos positive (ShaderType.columns_pos listed))
    (ShaderType.rows_pos listed) (ShaderType.rows_le_four listed), (standard_roundUp known).1,
    (standard_roundUp known).2, Nat.mul_comm (16 * _), Nat.mul_left_comm, Nat.max_self]

/-- With the standard table the alignment of a size is the alignment of its
declaration. -/
theorem standard_alignment {base byteSize : Nat}
    (known : standard.baseSize? declaration.type = some base)
    (sized : standard.TakesBytes declaration base byteSize) :
    sizeAlignment byteSize = languageAlignment declaration := by
  rcases sized with ⟨single, rfl⟩ | ⟨many, pattern, -, sized⟩
  · have notArray : ¬ declaration.isArray = true := fun array =>
      absurd (Declaration.one_lt_count_of_isArray array) (by omega)
    rw [languageAlignment, if_neg notArray]
    have everywhere : ∀ type ∈ ShaderType.all, ∀ base ∈ standard.baseSize? type,
        sizeAlignment base = typeAlignment type := by decide
    exact everywhere _ (mem_all_of_standard known) _ known
  · have entries : 16 * 2 ≤ max base 16 * declaration.count :=
      Nat.mul_le_mul (Nat.le_max_right base 16) many
    have array : declaration.isArray = true := decide_eq_true many
    rw [languageAlignment, if_pos array]
    exact sizeAlignment_of_ne (by omega) (by omega)

/-! ## The layout -/

/-- A std140 layout over word sizes follows the std140 rule, and with the
standard table the rule is that of the shading language. -/
theorem layout_follows_row_rule (table : BaseSizes) (words : table.WordSizes)
    {declarations : List Declaration} {layout : Layout}
    (accepted : table.layout declarations = .ok layout) :
    table.RowRule declarations layout ∧ (table = standard → LanguageRule layout) := by
  obtain ⟨declared, finish, chain, whole⟩ := Layout.build_eq_ok accepted
  obtain ⟨-, starts⟩ := words.arranged (Nat.dvd_zero 4) chain
  have aligned : ∀ slot ∈ layout.slots,
      sizeAlignment slot.byteSize ∣ slot.element.byteOffset := by
    intro slot member
    obtain ⟨before, after, split⟩ := List.append_of_mem member
    rw [starts before slot after split]
    exact dvd_roundUp (sizeAlignment_pos _) _
  have ordered := chain.ordered table.reserve_forward
  refine ⟨⟨declared, ?_, ?_, ?_, ordered, ?_, ?_, ?_⟩, ?_⟩
  · intro slot member
    exact takesBytes_of_arranged chain member
  · intro before slot after split
    rw [starts before slot after split]
    exact isLeast_roundUp (sizeAlignment_pos _) _
  · intro slot member
    exact Nat.dvd_trans (four_dvd_sizeAlignment _) (aligned slot member)
  · refine ordered.imp ?_
    intro first second follows
    rw [Finset.disjoint_left]
    intro byte inFirst inSecond
    rw [Finset.mem_Ico] at inFirst inSecond
    omega
  · intro slot member small
    obtain ⟨positive, sizeWords⟩ := words.slot_words chain member
    exact same_row_of_aligned positive sizeWords small (aligned slot member)
  · rw [whole, chain.finish_eq]
    exact isLeast_roundUp (by decide) _
  · rintro rfl
    constructor
    · intro slot member
      obtain ⟨base, known, sized⟩ := takesBytes_of_arranged chain member
      exact standard_alignment known sized
    · intro slot member base known many full
      obtain ⟨base', known', sized⟩ := takesBytes_of_arranged chain member
      obtain rfl : base = base' := Option.some.inj (known.symm.trans known')
      rcases sized with ⟨single, -⟩ | ⟨-, pattern, rows, sized⟩
      · omega
      · rw [sized]
        exact standard_array_bytes known rows full

/-- The layout that a build with checks comes to over word sizes follows the std140 rule,
and every build comes to it.  With the standard table the rule is that of the shading
language. -/
theorem machineLayout_follows_row_rule (table : BaseSizes) (words : table.WordSizes)
    {declarations : List Declaration} {layout : Layout}
    (accepted : table.machineLayout .checked declarations = .ok layout) :
    (∀ build, table.machineLayout build declarations = .ok layout) ∧
      table.RowRule declarations layout ∧ (table = standard → LanguageRule layout) := by
  obtain ⟨exactly, everywhere⟩ := (table.follows_layout declarations).of_checked_ok accepted
  exact ⟨everywhere, table.layout_follows_row_rule words exactly⟩

/-- A vector after a scalar, a scalar in the slack behind it, and an array after
that. -/
def mixedBlock : List Declaration :=
  [⟨"gain", .scalar .f32, 1, .scalar .one⟩,
    ⟨"axis", .vector .f32 3, 1, .color .one .one .zero .one⟩,
    ⟨"level", .scalar .u32, 1, .scalar .zero⟩,
    ⟨"bones", .matrix 3 3, 2, .flat (List.replicate 18 .one)⟩]

theorem row_rule_of_mixedBlock :
    ∃ layout, standard.WordSizes ∧ standard.machineLayout .checked mixedBlock = .ok layout ∧
      layout.slots.map (fun slot => (slot.element.byteOffset, slot.byteSize)) =
        [(0, 4), (16, 12), (28, 4), (32, 96)] ∧
      standard.machineLayout .wrapping mixedBlock = .ok layout ∧
      standard.RowRule mixedBlock layout ∧ LanguageRule layout := by
  have accepted : standard.machineLayout .checked mixedBlock = .ok _ := rfl
  obtain ⟨everywhere, rule, language⟩ :=
    machineLayout_follows_row_rule standard standard_wordSizes accepted
  exact ⟨_, standard_wordSizes, accepted, rfl, everywhere .wrapping, rule, language rfl⟩

/-- A size table with a type that takes nearly all bytes of a word's addresses. -/
def vastSizes : BaseSizes :=
  BaseSizes.empty.insert (.scalar .f32) (wordCount - 4)

theorem wordSizes_vastSizes : vastSizes.WordSizes := by
  intro type base known
  by_cases own : type = .scalar .f32
  · rw [own, vastSizes, baseSize?_insert_self] at known
    cases known
    decide
  · rw [vastSizes, baseSize?_insert_of_ne _ _ own] at known
    cases known

/-- A value of that type. -/
def vastBlock : List Declaration :=
  [⟨"data", .scalar .f32, 1, .scalar .one⟩]

/-- The size of the block is cut to zero, below the end of its only slot; a build with checks
stops instead. -/
theorem vastBlock_without_bytes :
    vastSizes.WordSizes ∧
      ∃ layout, vastSizes.machineLayout .wrapping vastBlock = .ok layout ∧
        layout.byteSize = 0 ∧ layout.slots.map Slot.finish = [wordCount - 4] ∧
        ¬ vastSizes.RowRule vastBlock layout ∧
        vastSizes.machineLayout .checked vastBlock = .error (.fault (.overflow .multiply)) := by
  refine ⟨wordSizes_vastSizes, _, rfl, rfl, rfl, ?_, rfl⟩
  intro rule
  exact absurd rule.whole.1.2 (by decide)

end BaseSizes

end UniformBlock
