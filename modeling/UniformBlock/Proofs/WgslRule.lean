import UniformBlock.BlockBuffer
import UniformBlock.Machine.Layouts
import UniformBlock.Proofs.Reservations
import UniformBlock.Proofs.RowPatterns

/-!
# The WGSL rule

The shading language gives every type a size and an alignment, lays a matrix out
as an array of its columns, and spaces the entries of an array by the size
rounded up to the alignment.  A layout reserves the larger of two amounts for an
array, one from the type and one from its rows; with the standard table both are
what the language says.

A build with checks lays declarations out by this rule or stops at an overflow, and what it
lays out is the same in every build.  Without checks an array may be given no bytes at all.
-/

namespace UniformBlock

namespace AlignSize

/-- The distance in bytes between two entries of an array. -/
def stride (entry : AlignSize) : Nat :=
  roundUp entry.size entry.align

end AlignSize

namespace AlignSizes

/-! ## The language -/

/-- The alignment and size of a vector. -/
def vectorEntry (length : Dimension) : AlignSize :=
  if length = 2 then ⟨8, 8⟩ else if length = 3 then ⟨16, 12⟩ else ⟨16, 16⟩

/-- The alignment and size of a type.  A matrix is an array of its columns. -/
def languageEntry : ShaderType → AlignSize
  | .scalar _ => ⟨4, 4⟩
  | .vector _ length => vectorEntry length
  | .matrix columns rows =>
      ⟨(vectorEntry rows).align, columns.toNat * (vectorEntry rows).stride⟩

/-- The bytes of a declaration.  An array takes a stride for each entry, the last
one included. -/
def languageBytes (declaration : Declaration) : Nat :=
  if declaration.isArray then declaration.count * (languageEntry declaration.type).stride
  else (languageEntry declaration.type).size

/-- The WGSL rule for a list of declarations. -/
structure StructureRule (declarations : List Declaration) (layout : Layout) : Prop where
  /-- The slots are the declarations in their order. -/
  declared : layout.elements.map Element.toDeclaration = declarations
  sized : ∀ slot ∈ layout.slots, slot.byteSize = languageBytes slot.element.toDeclaration
  /-- Each slot starts at the first multiple of its alignment after the slot
  before it. -/
  placed : ∀ before slot after, layout.slots = before ++ slot :: after →
    IsLeast {offset | (languageEntry slot.element.type).align ∣ offset ∧
      Layout.lastFinish before 0 ≤ offset} slot.element.byteOffset
  words : ∀ slot ∈ layout.slots, 4 ∣ slot.element.byteOffset
  ordered : layout.slots.Pairwise fun first second =>
    first.finish ≤ second.element.byteOffset
  disjoint : layout.slots.Pairwise fun first second =>
    Disjoint (Finset.Ico first.element.byteOffset first.finish)
      (Finset.Ico second.element.byteOffset second.finish)
  /-- The block is the shortest run of whole rows with all slots in it. -/
  whole : IsLeast {size | 16 ∣ size ∧ Layout.lastFinish layout.slots 0 ≤ size} layout.byteSize
  /-- A buffer for the layout has exactly its bytes. -/
  buffered : (BlockBuffer.forLayout layout).byteLength = layout.byteSize

/-! ## The standard table -/

/-- The standard table is the language. -/
theorem standardEntry_eq {type : ShaderType} (listed : type ∈ ShaderType.all) :
    standardEntry type = languageEntry type := by
  have everywhere : ∀ type ∈ ShaderType.all, standardEntry type = languageEntry type := by decide
  exact everywhere type listed

theorem four_dvd_align {type : ShaderType} (listed : type ∈ ShaderType.all) :
    4 ∣ (languageEntry type).align := by
  have everywhere : ∀ type ∈ ShaderType.all, 4 ∣ (languageEntry type).align := by decide
  exact everywhere type listed

theorem align_pos {type : ShaderType} (listed : type ∈ ShaderType.all) :
    0 < (languageEntry type).align := by
  have everywhere : ∀ type ∈ ShaderType.all, 0 < (languageEntry type).align := by decide
  exact everywhere type listed

/-- The larger of size and alignment is the stride. -/
theorem max_size_align {type : ShaderType} (listed : type ∈ ShaderType.all) :
    max (languageEntry type).size (languageEntry type).align = (languageEntry type).stride := by
  have everywhere : ∀ type ∈ ShaderType.all,
      max (languageEntry type).size (languageEntry type).align =
        (languageEntry type).stride := by decide
  exact everywhere type listed

/-- The columns of a type keep its alignment, and together they fill its stride. -/
theorem column_bytes {type : ShaderType} (listed : type ∈ ShaderType.all) :
    (languageEntry type).align ∣ 4 * (type.rows + columnGap type.rows) ∧
      4 * columnGap type.rows < (languageEntry type).align ∧
      type.columns * (4 * (type.rows + columnGap type.rows)) = (languageEntry type).stride := by
  have everywhere : ∀ type ∈ ShaderType.all,
      (languageEntry type).align ∣ 4 * (type.rows + columnGap type.rows) ∧
        4 * columnGap type.rows < (languageEntry type).align ∧
        type.columns * (4 * (type.rows + columnGap type.rows)) =
          (languageEntry type).stride := by decide
  exact everywhere type listed

variable {declaration : Declaration}

/-- What is reserved for an array is a stride for each entry, whatever its sample
is. -/
theorem standard_array_bytes {pattern : RowPattern} (array : 1 < declaration.count)
    (rows : standard.rowPatternOf declaration = .ok pattern) :
    max (max (languageEntry declaration.type).size (languageEntry declaration.type).align *
        declaration.count)
      (roundUp (pattern.extent * 4) (languageEntry declaration.type).align) =
        declaration.count * (languageEntry declaration.type).stride := by
  obtain ⟨listed, rfl⟩ := standard_rowPattern rows
  obtain ⟨aligned, narrow, filled⟩ := column_bytes listed
  have someRows : 0 < declaration.count * declaration.type.columns :=
    Nat.mul_pos (Nat.lt_of_succ_lt array) (ShaderType.columns_pos listed)
  have rowBytes :
      roundUp (RowPattern.extent ⟨declaration.count * declaration.type.columns,
          declaration.type.rows, columnGap declaration.type.rows⟩ * 4)
        (languageEntry declaration.type).align =
          declaration.count * (languageEntry declaration.type).stride := by
    rw [RowPattern.roundUp_extent someRows aligned narrow, Nat.mul_assoc, ← filled]
    rfl
  rw [max_size_align listed, rowBytes, Nat.mul_comm, Nat.max_self]

/-- The standard table reserves the bytes that the language gives a declaration of one of
its types, at its alignment. -/
theorem standard_reserve {reservation : Reservation}
    (reserved : standard.reserve declaration = .ok reservation) :
    declaration.type ∈ ShaderType.all ∧ reservation.byteSize = languageBytes declaration ∧
      ∀ free, reservation.start free = roundUp free (languageEntry declaration.type).align := by
  obtain ⟨entry, known, starts, sized⟩ := reserve_eq_ok reserved
  obtain ⟨listed, rfl⟩ := standard_eq_some_iff.mp known
  rw [standardEntry_eq listed] at starts sized
  refine ⟨listed, ?_, starts⟩
  rcases sized with ⟨single, sized⟩ | ⟨array, pattern, rows, sized⟩
  · have notArray : ¬ declaration.isArray = true := fun array =>
      absurd (Declaration.one_lt_count_of_isArray array) (by omega)
    rw [sized, languageBytes, if_neg notArray]
  · have isArray : declaration.isArray = true := decide_eq_true array
    rw [sized, languageBytes, if_pos isArray]
    exact standard_array_bytes array rows

/-! ## The layout -/

/-- A WGSL layout over the standard table follows the rule of the language. -/
theorem layout_follows_structure_rule {declarations : List Declaration} {layout : Layout}
    (accepted : standard.layout declarations = .ok layout) :
    StructureRule declarations layout := by
  obtain ⟨declared, finish, chain, whole⟩ := Layout.build_eq_ok accepted
  have starts : ∀ before slot after, layout.slots = before ++ slot :: after →
      slot.element.byteOffset =
        roundUp (Layout.lastFinish before 0) (languageEntry slot.element.type).align := by
    intro before slot after split
    rw [split] at chain
    obtain ⟨reservation, reserved, placed⟩ := chain.placed
    have start : slot.element.byteOffset = reservation.start (Layout.lastFinish before 0) :=
      congrArg (fun slot => slot.element.byteOffset) placed
    rw [start, (standard_reserve reserved).2.2]
  have listed : ∀ slot ∈ layout.slots, slot.element.type ∈ ShaderType.all := by
    intro slot member
    obtain ⟨reservation, reserved, sameSize⟩ := chain.reserved_of_mem member
    exact (standard_reserve reserved).1
  have ordered := chain.ordered standard.reserve_forward
  have wholeRows : IsLeast {size | 16 ∣ size ∧ Layout.lastFinish layout.slots 0 ≤ size}
      layout.byteSize := by
    rw [whole, chain.finish_eq]
    exact isLeast_roundUp (by decide) _
  refine ⟨declared, ?_, ?_, ?_, ordered, ordered.imp Slot.bytes_disjoint, wholeRows, ?_⟩
  · intro slot member
    obtain ⟨reservation, reserved, sameSize⟩ := chain.reserved_of_mem member
    rw [sameSize, (standard_reserve reserved).2.1]
  · intro before slot after split
    have member : slot ∈ layout.slots := by
      rw [split]
      exact List.mem_append_right before List.mem_cons_self
    rw [starts before slot after split]
    exact isLeast_roundUp (align_pos (listed slot member)) _
  · intro slot member
    obtain ⟨before, after, split⟩ := List.append_of_mem member
    rw [starts before slot after split]
    exact Nat.dvd_trans (four_dvd_align (listed slot member))
      (dvd_roundUp (align_pos (listed slot member)) _)
  · have rows : 16 ∣ layout.byteSize := wholeRows.1.1
    rw [BlockBuffer.byteLength, BlockBuffer.forLayout, BlockBuffer.zeroed, Array.size_replicate,
      Layout.floatCount]
    omega

/-- The layout that a build with checks comes to over the standard table follows the rule of
the language, and every build comes to it. -/
theorem machineLayout_follows_structure_rule {declarations : List Declaration} {layout : Layout}
    (accepted : standard.machineLayout .checked declarations = .ok layout) :
    (∀ build, standard.machineLayout build declarations = .ok layout) ∧
      StructureRule declarations layout := by
  obtain ⟨exactly, everywhere⟩ := (standard.follows_layout declarations).of_checked_ok accepted
  exact ⟨everywhere, layout_follows_structure_rule exactly⟩

/-- A scalar in the slack of a vector, arrays whose samples fit neither their type
nor their length, and a value after the odd end of one of them. -/
def patchedBlock : List Declaration :=
  [⟨"axis", .vector .f32 3, 1, .point .one .one⟩,
    ⟨"gain", .scalar .f32, 1, .scalar .one⟩,
    ⟨"bones", .matrix 2 3, 3, .flat []⟩,
    ⟨"modes", .scalar .u32, 3, .flat (List.replicate 5 .one)⟩,
    ⟨"corner", .vector .i32 2, 1, .point .zero .zero⟩]

theorem structure_rule_of_patchedBlock :
    ∃ layout, standard.machineLayout .checked patchedBlock = .ok layout ∧
      layout.slots.map (fun slot => (slot.element.byteOffset, slot.byteSize)) =
        [(0, 12), (12, 4), (16, 96), (112, 12), (128, 8)] ∧
      layout.byteSize = 144 ∧ standard.machineLayout .wrapping patchedBlock = .ok layout ∧
      StructureRule patchedBlock layout := by
  have accepted : standard.machineLayout .checked patchedBlock = .ok _ := rfl
  obtain ⟨everywhere, rule⟩ := machineLayout_follows_structure_rule accepted
  exact ⟨_, accepted, rfl, rfl, everywhere .wrapping, rule⟩

/-- An array of scalars that take more bytes than there are words. -/
def samplesArray : Declaration :=
  .array "samples" (.scalar .f32) (2 ^ 62) (.flat [])

/-- The layout of the array as a build without checks computes it. -/
def samplesLayout : Layout where
  convention := .wgsl
  slots := [{ element := { samplesArray with byteOffset := 0 }, byteSize := 0 }]
  byteSize := 0

/-- The array is given no bytes, where the language gives it four for each scalar; a build
with checks stops instead. -/
theorem samplesLayout_without_bytes :
    standard.machineLayout .wrapping [samplesArray] = .ok samplesLayout ∧
      ¬ StructureRule [samplesArray] samplesLayout ∧
      standard.machineLayout .checked [samplesArray] = .error (.fault (.overflow .multiply)) := by
  refine ⟨by decide, ?_, by decide⟩
  intro rule
  exact absurd (rule.sized _ List.mem_cons_self) (by decide)

end AlignSizes

end UniformBlock
