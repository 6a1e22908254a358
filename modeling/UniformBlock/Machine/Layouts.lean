import UniformBlock.Layout.Conventions
import UniformBlock.Machine.Arithmetic

/-!
# Layouts on machine words

Row patterns and layouts, computed in machine words with the running offset of the block.
Each computation follows the exact one, so a layout that is built without overflow is the
same in every build.  Nothing is divided by zero, except that the padding before a single
std140 value is a remainder by its base size.
-/

namespace UniformBlock

/-! ## Row patterns -/

namespace RowPattern

variable {Failure : Type} [Faulting Failure]

/-- The distance in floats between the starts of two rows. -/
def machinePitch (build : Build) (pattern : RowPattern) : Except Failure Nat :=
  build.add pattern.width pattern.gap

/-- The number of components that the rows take from a value. -/
def machineValueCount (build : Build) (pattern : RowPattern) : Except Failure Nat :=
  build.mul pattern.rows pattern.width

/-- The number of floats from the first slot to the last one, both included. -/
def machineExtent (build : Build) (pattern : RowPattern) : Except Failure Nat :=
  if pattern.rows = 0 then
    .ok 0
  else do
    let before ← build.sub pattern.rows 1
    let pitch ← pattern.machinePitch build
    let start ← build.mul before pitch
    build.add start pattern.width

theorem machinePitch_eq (build : Build) {pattern : RowPattern}
    (fits : pattern.pitch < wordCount) :
    pattern.machinePitch build = (.ok pattern.pitch : Except Failure Nat) :=
  Build.add_of_lt fits

theorem machineValueCount_eq (build : Build) {pattern : RowPattern}
    (fits : pattern.valueCount < wordCount) :
    pattern.machineValueCount build = (.ok pattern.valueCount : Except Failure Nat) :=
  Build.mul_of_lt fits

/-- The extent of rows is computed by way of their pitch, so the pitch has to be a word
as well. -/
theorem machineExtent_eq (build : Build) {pattern : RowPattern}
    (pitchFits : pattern.pitch < wordCount) (fits : pattern.extent < wordCount) :
    pattern.machineExtent build = (.ok pattern.extent : Except Failure Nat) := by
  rw [machineExtent]
  split
  · rename_i none
    rw [extent, if_pos none]
  · rename_i some
    rw [extent, if_neg some] at fits ⊢
    rw [Build.sub_of_le (Nat.pos_of_ne_zero some), ok_bind, machinePitch_eq build pitchFits, ok_bind,
      Build.mul_of_lt (Nat.lt_of_le_of_lt (Nat.le_add_right _ _) fits)]
    exact Build.add_of_lt fits

theorem ends_extent (pattern : RowPattern) :
    Ends (pattern.machineExtent .wrapping : Except Failure Nat) := by
  rw [machineExtent]
  split
  · exact ⟨_, rfl⟩
  · exact (ends_sub _ _).bind fun before => (ends_add _ _).bind fun pitch =>
      (ends_mul _ _).bind fun start => ends_add _ _

theorem follows_pitch (pattern : RowPattern) :
    Follows (fun build => pattern.machinePitch build)
      (.ok pattern.pitch : Except Failure Nat) :=
  follows_add _ _

theorem follows_valueCount (pattern : RowPattern) :
    Follows (fun build => pattern.machineValueCount build)
      (.ok pattern.valueCount : Except Failure Nat) :=
  follows_mul _ _

theorem follows_extent (pattern : RowPattern) :
    Follows (fun build => pattern.machineExtent build)
      (.ok pattern.extent : Except Failure Nat) := by
  by_cases none : pattern.rows = 0
  · simp only [machineExtent, extent, if_pos none]
    exact .refl _
  · simp only [machineExtent, extent, if_neg none]
    exact (follows_sub _ _).step (pattern.follows_pitch.step
      ((follows_mul _ _).step (follows_add _ _)))

end RowPattern

/-! ## Layouts -/

/-- Where a convention places a declaration after the first free byte. -/
abbrev Placement :=
  Declaration → Nat → Attempt Slot

namespace Layout

/-- Place declarations one after the other from the first free byte on. -/
def machineArrange (build : Build) (place : Placement) (free : Nat) :
    List Declaration → Attempt (List Slot × Nat)
  | [] => return ([], free)
  | declaration :: rest => do
      let slot ← place declaration free
      let next ← build.add slot.element.byteOffset slot.byteSize
      let (slots, finish) ← machineArrange build place next rest
      return (slot :: slots, finish)

/-- The layout of a list of declarations.  The block ends on a multiple of its
alignment. -/
def machineBuild (build : Build) (convention : Convention) (place : Placement)
    (declarations : List Declaration) (alignment : Nat) : Attempt Layout := do
  let (slots, finish) ← machineArrange build place 0 declarations
  let byteSize ← machineRoundUp build finish alignment
  return { convention, slots, byteSize }

/-- Whether a placement follows what a convention reserves, whatever the first free byte
is. -/
def Places (place : Build → Placement) (reserve : Reserve) : Prop :=
  ∀ declaration free, Follows (fun build => place build declaration free)
    ((reserve declaration).map fun reservation => reservation.place declaration free)

variable {place : Build → Placement} {reserve : Reserve}

theorem Places.follows_arrange (places : Places place reserve) (free : Nat)
    (declarations : List Declaration) :
    Follows (fun build => machineArrange build (place build) free declarations)
      (arrange reserve free declarations) := by
  induction declarations generalizing free with
  | nil => exact .refl _
  | cons declaration rest ih =>
      have first := places declaration free
      simp only [machineArrange, arrange]
      cases reserved : reserve declaration with
      | error failure =>
          rw [reserved] at first
          exact first.fail
      | ok reservation =>
          rw [reserved] at first
          have later := ih (reservation.place declaration free).finish
          refine first.step ((follows_add _ _).step ?_)
          dsimp only
          cases arranged : arrange reserve (reservation.place declaration free).finish rest with
          | error failure =>
              rw [arranged] at later
              exact later.fail
          | ok value =>
              rw [arranged] at later
              exact later.step (.refl _)

theorem Places.follows_build (places : Places place reserve) (convention : Convention)
    (declarations : List Declaration) (alignment : Nat) :
    Follows (fun build => machineBuild build convention (place build) declarations alignment)
      (Layout.build convention reserve declarations alignment) := by
  have slots := places.follows_arrange 0 declarations
  simp only [machineBuild, Layout.build]
  cases arranged : arrange reserve 0 declarations with
  | error failure =>
      rw [arranged] at slots
      exact slots.fail
  | ok value =>
      rw [arranged] at slots
      exact slots.step ((follows_roundUp _ _).step (.refl _))

/-- The slots of a layout are its arrangement. -/
theorem machineArrange_of_machineBuild {build : Build} {place : Placement}
    {convention : Convention} {declarations : List Declaration} {alignment : Nat}
    {layout : Layout}
    (built : machineBuild build convention place declarations alignment = .ok layout) :
    ∃ finish, machineArrange build place 0 declarations = .ok (layout.slots, finish) := by
  obtain ⟨⟨slots, finish⟩, arranged, built⟩ := bind_eq_ok built
  obtain ⟨byteSize, -, same⟩ := bind_eq_ok built
  cases same
  exact ⟨finish, arranged⟩

/-- With checks the size of a block is a word. -/
theorem byteSize_lt_of_machineBuild {place : Placement} {convention : Convention}
    {declarations : List Declaration} {alignment : Nat} {layout : Layout}
    (nonzero : alignment ≠ 0)
    (built : machineBuild .checked convention place declarations alignment = .ok layout) :
    layout.byteSize < wordCount := by
  obtain ⟨⟨slots, finish⟩, -, built⟩ := bind_eq_ok built
  obtain ⟨byteSize, rounded, same⟩ := bind_eq_ok built
  cases same
  exact lt_of_checked_roundUp nonzero rounded

end Layout

/-! ## Fixed rows -/

namespace BaseSizes

/-- The gap that fills a run of floats up to whole std140 rows. -/
def machineRowGap (build : Build) (floats : Nat) : Attempt Nat := do
  let used ← remainder floats rowFloats
  let left ← build.sub rowFloats used
  remainder left rowFloats

/-- The width of the rows over which a sample is spread, if it can be spread evenly
over the entries and then over the rows of each entry. -/
def machineWidth? (count rows sampleCount : Nat) : Attempt (Option Nat) :=
  if sampleCount = 0 then
    return none
  else do
    let overEntries ← remainder sampleCount count
    if overEntries ≠ 0 then
      return none
    else
      let perEntry ← quotient sampleCount count
      let overRows ← remainder perEntry rows
      if overRows ≠ 0 then
        return none
      else
        let width ← quotient perEntry rows
        return some width

/-- The rows of a std140 array. -/
def machineRowPattern (table : BaseSizes) (build : Build) (name : String) (type : ShaderType)
    (count sampleCount : Nat) : Attempt RowPattern :=
  if count = 0 then
    .error (.refused (.emptyArray name))
  else
    match table.baseSize? type with
    | none => .error (.refused (.unsupportedType name type .std140))
    | some baseSize => do
        let rows := entryRows baseSize
        match ← machineWidth? count rows sampleCount with
        | none => .error (.refused (.inconsistentSample name sampleCount count))
        | some width =>
            let allRows ← build.mul count rows
            let gap ← machineRowGap build width
            return { rows := allRows, width, gap }

/-- The rows of a declared std140 array. -/
def machineRowPatternOf (table : BaseSizes) (build : Build) (declaration : Declaration) :
    Attempt RowPattern :=
  table.machineRowPattern build declaration.name declaration.type declaration.count
    declaration.value.count

theorem entryRows_ne_zero (base : Nat) : entryRows base ≠ 0 :=
  Nat.ne_of_gt (Nat.le_max_right _ 1)

/-- The gap is found in every build. -/
theorem machineRowGap_eq (build : Build) (floats : Nat) :
    machineRowGap build floats = .ok (rowGap floats) := by
  have rows : rowFloats ≠ 0 := by decide
  have used : floats % rowFloats ≤ rowFloats :=
    Nat.le_of_lt (Nat.mod_lt floats (Nat.pos_of_ne_zero rows))
  rw [machineRowGap, remainder_of_ne rows, ok_bind, Build.sub_of_le used]
  exact remainder_of_ne rows _

/-- A sample that is spread evenly fills rows of a common width. -/
theorem machineWidth?_eq {count rows : Nat} (someEntries : count ≠ 0) (someRows : rows ≠ 0)
    (sampleCount : Nat) :
    machineWidth? count rows sampleCount =
      .ok (if sampleCount = 0 ∨ sampleCount % count ≠ 0 ∨ sampleCount / count % rows ≠ 0 then none
        else some (sampleCount / count / rows)) := by
  rw [machineWidth?]
  by_cases empty : sampleCount = 0
  · rw [if_pos empty, if_pos (.inl empty)]
    rfl
  · rw [if_neg empty, remainder_of_ne someEntries]
    by_cases entries : sampleCount % count = 0
    · simp only [ok_bind, entries, empty, ne_eq, not_true_eq_false, if_false, false_or,
        quotient_of_ne someEntries, remainder_of_ne someRows]
      by_cases perRow : sampleCount / count % rows = 0
      · simp only [perRow, not_true_eq_false, if_false, quotient_of_ne someRows]
        rfl
      · simp only [perRow, not_false_eq_true, if_true]
        rfl
    · simp only [ok_bind, entries, ne_eq, not_false_eq_true, true_or, or_true, if_true]
      rfl

/-- The number of rows is all that may overflow. -/
theorem machineRowPattern_eq_bind (table : BaseSizes) (build : Build) (name : String)
    (type : ShaderType) (count sampleCount : Nat) :
    table.machineRowPattern build name type count sampleCount =
      (do
        let pattern ← table.rowPattern name type count sampleCount
        let rows ← build.fit .multiply pattern.rows
        return { pattern with rows }) := by
  rw [machineRowPattern, rowPattern]
  split
  · rfl
  · rename_i present
    cases table.baseSize? type with
    | none => rfl
    | some base =>
        dsimp only
        rw [machineWidth?_eq present (entryRows_ne_zero base)]
        split
        · rfl
        · simp only [ok_bind, machineRowGap_eq]
          rfl

theorem follows_rowPattern (table : BaseSizes) (name : String) (type : ShaderType)
    (count sampleCount : Nat) :
    Follows (fun build => table.machineRowPattern build name type count sampleCount)
      (table.rowPattern name type count sampleCount) := by
  simp only [machineRowPattern_eq_bind]
  cases table.rowPattern name type count sampleCount with
  | error failure => exact .refl _
  | ok pattern => exact (follows_fit .multiply pattern.rows).step (.refl _)

/-- The bytes that a declaration with the given base size takes. -/
def machineByteSize (table : BaseSizes) (build : Build) (declaration : Declaration)
    (baseSize : Nat) : Attempt Nat :=
  if declaration.isArray then do
    let pattern ← table.machineRowPatternOf build declaration
    let entries ← build.mul (max baseSize rowBytes) declaration.count
    let extent ← pattern.machineExtent build
    let bytes ← build.mul extent 4
    let rows ← machineRoundUp build bytes rowBytes
    return max entries rows
  else
    return baseSize

/-- Where a value of the given size starts when `free` is the first free byte. -/
def machineStart (build : Build) (byteSize free : Nat) : Attempt Nat := do
  let used ← remainder free rowBytes
  let left ← build.sub rowBytes used
  if 0 < used ∧ left < rowRoom byteSize then
    build.add free left
  else
    let beyond ← remainder used byteSize
    let short ← build.sub byteSize beyond
    let padding ← remainder short byteSize
    build.add free padding

/-- Place a declaration in a std140 block. -/
def machinePlace (table : BaseSizes) (build : Build) (declaration : Declaration) (free : Nat) :
    Attempt Slot :=
  if declaration.count = 0 then
    .error (.refused (.emptyArray declaration.name))
  else
    match table.baseSize? declaration.type with
    | none => .error (.refused (.unsupportedType declaration.name declaration.type .std140))
    | some baseSize => do
        let byteSize ← table.machineByteSize build declaration baseSize
        let byteOffset ← machineStart build byteSize free
        return { element := { declaration with byteOffset }, byteSize }

/-- The std140 layout of a list of declarations. -/
def machineLayout (table : BaseSizes) (build : Build) (declarations : List Declaration) :
    Attempt Layout :=
  Layout.machineBuild build .std140 (table.machinePlace build) declarations blockAlignment

variable {declaration : Declaration}

theorem follows_byteSize_of_array (table : BaseSizes) (array : declaration.isArray = true)
    (base : Nat) :
    Follows (fun build => table.machineByteSize build declaration base)
      (table.byteSize declaration base) := by
  simp only [machineByteSize, byteSize, if_pos array]
  refine (table.follows_rowPattern _ _ _ _).map fun pattern _ => ?_
  exact (follows_mul _ _).step (pattern.follows_extent.step ((follows_mul _ _).step
    ((follows_roundUp _ _).step (.refl _))))

/-- An array takes at least a row for each entry, so its size may be divided by. -/
theorem byteSize_ne_zero_of_array {table : BaseSizes} {base byteSize : Nat}
    (array : declaration.isArray = true)
    (sized : table.byteSize declaration base = .ok byteSize) : byteSize ≠ 0 := by
  rw [BaseSizes.byteSize, if_pos array] at sized
  obtain ⟨pattern, -, rfl⟩ := map_eq_ok_iff.mp sized
  have perEntry : 0 < max base rowBytes :=
    Nat.lt_of_lt_of_le (by decide) (Nat.le_max_right base rowBytes)
  have entries : 0 < max base rowBytes * declaration.count :=
    Nat.mul_pos perEntry (Nat.lt_of_succ_lt (of_decide_eq_true array))
  exact Nat.ne_of_gt (Nat.lt_of_lt_of_le entries (Nat.le_max_left _ _))

theorem follows_start {byteSize : Nat} (nonzero : byteSize ≠ 0) (free : Nat) :
    Follows (fun build => machineStart build byteSize free) (.ok (start byteSize free)) := by
  refine (follows_remainder (by decide : rowBytes ≠ 0) free).step ((follows_sub _ _).step ?_)
  rw [start]
  by_cases tight : 0 < free % rowBytes ∧ rowBytes - free % rowBytes < rowRoom byteSize
  · simp only [if_pos tight]
    exact follows_add _ _
  · simp only [if_neg tight]
    exact (follows_remainder nonzero _).step ((follows_sub _ _).step
      ((follows_remainder nonzero _).step (follows_add _ _)))

/-- A size of zero never asks for the next row, so the padding within the row is a
remainder by zero. -/
theorem machineStart_zero (build : Build) (free : Nat) :
    machineStart build 0 free = .error (.fault .noRemainder) := by
  have rows : rowBytes ≠ 0 := by decide
  have used : free % rowBytes ≤ rowBytes :=
    Nat.le_of_lt (Nat.mod_lt free (Nat.pos_of_ne_zero rows))
  have fits : ¬ (0 < free % rowBytes ∧ rowBytes - free % rowBytes < rowRoom 0) :=
    fun tight => Nat.not_lt_zero _ tight.2
  rw [machineStart, remainder_of_ne rows, ok_bind, Build.sub_of_le used, ok_bind, if_neg fits]
  rfl

/-- Placing a declaration under std140 follows its reservation; the padding before a
single value of size zero is the one remainder by zero. -/
theorem machinePlace_places (table : BaseSizes) :
    Layout.Places table.machinePlace table.reserve := by
  intro declaration free
  by_cases empty : declaration.count = 0
  · simp only [machinePlace, reserve, if_pos empty]
    exact .refl _
  · simp only [machinePlace, reserve, if_neg empty]
    cases table.baseSize? declaration.type with
    | none => exact .refl _
    | some base =>
        dsimp only
        by_cases array : declaration.isArray = true
        · have sizes := table.follows_byteSize_of_array array base
          cases sized : table.byteSize declaration base with
          | error failure =>
              rw [sized] at sizes
              exact sizes.fail
          | ok byteSize =>
              rw [sized] at sizes
              exact sizes.step
                ((follows_start (byteSize_ne_zero_of_array array sized) free).step (.refl _))
        · simp only [machineByteSize, byteSize, if_neg array]
          by_cases zero : base = 0
          · subst zero
            refine .inr fun build => ?_
            dsimp only
            rw [pure_bind, machineStart_zero, error_bind, if_pos rfl]
            rfl
          · rw [if_neg zero]
            exact Follows.step (.refl _) ((follows_start zero free).step (.refl _))

theorem follows_layout (table : BaseSizes) (declarations : List Declaration) :
    Follows (fun build => table.machineLayout build declarations)
      (table.layout declarations) :=
  table.machinePlace_places.follows_build _ _ _

end BaseSizes

/-! ## Explicit size and alignment -/

namespace AlignSizes

/-- The rows of a WGSL array. -/
def machineRowPattern (table : AlignSizes) (build : Build) (name : String) (type : ShaderType)
    (count : Nat) : Attempt RowPattern :=
  if count = 0 then
    .error (.refused (.emptyArray name))
  else
    match table.alignSize? type with
    | none => .error (.refused (.unsupportedType name type .wgsl))
    | some _ =>
        let (rows, rowType) := entryRow type
        match table.alignSize? rowType with
        | none => .error (.refused (.unsupportedType name rowType .wgsl))
        | some row => do
            let allRows ← build.mul count rows
            return { rows := allRows, width := row.size / 4,
                     gap := (max row.size row.align - min row.size row.align) / 4 }

/-- The rows of a declared WGSL array. -/
def machineRowPatternOf (table : AlignSizes) (build : Build) (declaration : Declaration) :
    Attempt RowPattern :=
  table.machineRowPattern build declaration.name declaration.type declaration.count

/-- The bytes that a declaration of a type with the given size and alignment
takes. -/
def machineByteSize (table : AlignSizes) (build : Build) (declaration : Declaration)
    (entry : AlignSize) : Attempt Nat :=
  if declaration.isArray then do
    let pattern ← table.machineRowPatternOf build declaration
    let entries ← build.mul (max entry.size entry.align) declaration.count
    let extent ← pattern.machineExtent build
    let bytes ← build.mul extent 4
    let rows ← machineRoundUp build bytes entry.align
    return max entries rows
  else
    return entry.size

/-- Place a declaration in a WGSL block. -/
def machinePlace (table : AlignSizes) (build : Build) (declaration : Declaration) (free : Nat) :
    Attempt Slot :=
  if declaration.count = 0 then
    .error (.refused (.emptyArray declaration.name))
  else
    match table.alignSize? declaration.type with
    | none => .error (.refused (.unsupportedType declaration.name declaration.type .wgsl))
    | some entry => do
        let byteSize ← table.machineByteSize build declaration entry
        let byteOffset ← machineRoundUp build free entry.align
        return { element := { declaration with byteOffset }, byteSize }

/-- The WGSL layout of a list of declarations. -/
def machineLayout (table : AlignSizes) (build : Build) (declarations : List Declaration) :
    Attempt Layout :=
  Layout.machineBuild build .wgsl (table.machinePlace build) declarations blockAlignment

/-- The number of rows is all that may overflow. -/
theorem machineRowPattern_eq_bind (table : AlignSizes) (build : Build) (name : String)
    (type : ShaderType) (count : Nat) :
    table.machineRowPattern build name type count =
      (do
        let pattern ← table.rowPattern name type count
        let rows ← build.fit .multiply pattern.rows
        return { pattern with rows }) := by
  rw [machineRowPattern, rowPattern]
  split
  · rfl
  · cases table.alignSize? type with
    | none => rfl
    | some entry =>
        dsimp only
        cases table.alignSize? (entryRow type).2 <;> rfl

theorem follows_rowPattern (table : AlignSizes) (name : String) (type : ShaderType)
    (count : Nat) :
    Follows (fun build => table.machineRowPattern build name type count)
      (table.rowPattern name type count) := by
  simp only [machineRowPattern_eq_bind]
  cases table.rowPattern name type count with
  | error failure => exact .refl _
  | ok pattern => exact (follows_fit .multiply pattern.rows).step (.refl _)

theorem follows_byteSize (table : AlignSizes) (declaration : Declaration) (entry : AlignSize) :
    Follows (fun build => table.machineByteSize build declaration entry)
      (table.byteSize declaration entry) := by
  by_cases array : declaration.isArray = true
  · simp only [machineByteSize, byteSize, if_pos array]
    refine (table.follows_rowPattern _ _ _).map fun pattern _ => ?_
    exact (follows_mul _ _).step (pattern.follows_extent.step ((follows_mul _ _).step
      ((follows_roundUp _ _).step (.refl _))))
  · simp only [machineByteSize, byteSize, if_neg array]
    exact .refl _

theorem machinePlace_places (table : AlignSizes) :
    Layout.Places table.machinePlace table.reserve := by
  intro declaration free
  by_cases empty : declaration.count = 0
  · simp only [machinePlace, reserve, if_pos empty]
    exact .refl _
  · simp only [machinePlace, reserve, if_neg empty]
    cases table.alignSize? declaration.type with
    | none => exact .refl _
    | some entry =>
        dsimp only
        have sizes := table.follows_byteSize declaration entry
        cases sized : table.byteSize declaration entry with
        | error failure =>
            rw [sized] at sizes
            exact sizes.fail
        | ok byteSize =>
            rw [sized] at sizes
            exact sizes.step ((follows_roundUp _ _).step (.refl _))

theorem follows_layout (table : AlignSizes) (declarations : List Declaration) :
    Follows (fun build => table.machineLayout build declarations)
      (table.layout declarations) :=
  table.machinePlace_places.follows_build _ _ _

end AlignSizes

end UniformBlock
