import UniformBlock.Machine.Blocks
import UniformBlock.Proofs.CompiledBlock
import UniformBlock.UniformSet

/-!
# Layouts can be compiled

A layout asks the size tables whether a type is supported, and a plan asks the writers.
They agree when there is a direct writer for each supported type: then every set of
uniforms that can be laid out can be compiled, and its plan has one entry for each of them.
Specialists are asked first and may write as they like.

None of this depends on the build.  Sizes and offsets that are cut to words are still what
the layout holds, and the rows of an array are derived for its writer as they were for
its size.
-/

namespace UniformBlock

/-! ## Writers of another kind -/

section Wrapping

variable {W V : Type}

/-- The same table with writers of another kind. -/
def WriterTable.map (wrap : W → V) (table : WriterTable W) : WriterTable V where
  writer? type := (table.writer? type).map wrap

/-- The same array writers as writers of another kind. -/
def ArrayWriters.map (wrap : W → V) (arrays : ArrayWriters W) : ArrayWriters V where
  convention := arrays.convention
  writerFor element := (arrays.writerFor element).map wrap

/-- The built-in writers of a compiler next to specialists of any kind. -/
def Compiler.dispatchWith (compiler : Compiler) (build : Build) (specialists : List (Specialist V))
    (wrap : Writer → V) : Dispatch V where
  specialists
  direct := (WriterTable.ofConvention compiler.settings.convention).map wrap
  arrays := (compiler.machineArrayWriters build).map wrap

end Wrapping

/-! ## Supported types -/

/-- Whether each type with a base size has a direct writer. -/
def BaseSizes.Direct (table : BaseSizes) : Prop :=
  ∀ ⦃type base⦄, table.baseSize? type = some base → WriterTable.std140.contains type = true

/-- A uniform is given a writer if single values of its type and its array have
one. -/
theorem Dispatch.exists_choice {W : Type} {dispatch : Dispatch W} {element : Element}
    (present : element.count ≠ 0)
    (single : element.count = 1 → dispatch.direct.contains element.type = true)
    (array : 1 < element.count → ∃ writer, dispatch.arrays.writerFor element = .ok writer) :
    ∃ choice, dispatch.choose element = .ok choice := by
  rw [choose, if_neg present]
  cases Specialist.find? dispatch.specialists element with
  | some specialist => exact ⟨_, rfl⟩
  | none =>
      dsimp only
      by_cases isSingle : element.count = 1
      · obtain ⟨writer, known⟩ := Option.isSome_iff_exists.mp (single isSingle)
        rw [if_pos isSingle, known]
        exact ⟨_, rfl⟩
      · obtain ⟨writer, created⟩ := array (by omega)
        rw [if_neg isSingle, created]
        exact ⟨_, rfl⟩

/-! ## Placed declarations -/

/-- What is known of a declaration that was placed: its convention knows its type and, if it
is an array, its rows. -/
structure Slot.PlacedBy (slot : Slot) (declaration : Declaration) (known : Bool)
    (rows : Attempt RowPattern) : Prop where
  same : slot.element.toDeclaration = declaration
  present : declaration.count ≠ 0
  known : known = true
  rows : 1 < declaration.count → ∃ pattern, rows = .ok pattern

namespace BaseSizes

variable {table : BaseSizes} {build : Build} {declaration : Declaration} {free : Nat}
  {slot : Slot}

theorem machinePlace_eq_ok (placed : table.machinePlace build declaration free = .ok slot) :
    declaration.count ≠ 0 ∧ ∃ base byteSize byteOffset,
      table.baseSize? declaration.type = some base ∧
      table.machineByteSize build declaration base = .ok byteSize ∧
      machineStart build byteSize free = .ok byteOffset ∧
      slot = { element := { declaration with byteOffset }, byteSize } := by
  rw [machinePlace] at placed
  split at placed
  · cases placed
  · rename_i present
    split at placed
    · cases placed
    · rename_i base known
      obtain ⟨byteSize, sized, placed⟩ := bind_eq_ok placed
      obtain ⟨byteOffset, started, placed⟩ := bind_eq_ok placed
      cases placed
      exact ⟨present, base, byteSize, byteOffset, known, sized, started, rfl⟩

theorem placedBy_of_machinePlace
    (placed : table.machinePlace build declaration free = .ok slot) :
    slot.PlacedBy declaration (table.baseSize? declaration.type).isSome
      (table.machineRowPatternOf build declaration) := by
  obtain ⟨present, base, byteSize, byteOffset, known, sized, -, rfl⟩ := machinePlace_eq_ok placed
  refine ⟨rfl, present, Option.isSome_of_eq_some known, ?_⟩
  intro array
  have isArray : declaration.isArray = true := decide_eq_true array
  rw [machineByteSize, if_pos isArray] at sized
  obtain ⟨pattern, derived, -⟩ := bind_eq_ok sized
  exact ⟨pattern, derived⟩

end BaseSizes

namespace AlignSizes

variable {table : AlignSizes} {build : Build} {declaration : Declaration} {free : Nat}
  {slot : Slot}

theorem machinePlace_eq_ok (placed : table.machinePlace build declaration free = .ok slot) :
    declaration.count ≠ 0 ∧ ∃ entry byteSize byteOffset,
      table.alignSize? declaration.type = some entry ∧
      table.machineByteSize build declaration entry = .ok byteSize ∧
      machineRoundUp build free entry.align = (.ok byteOffset : Attempt Nat) ∧
      slot = { element := { declaration with byteOffset }, byteSize } := by
  rw [machinePlace] at placed
  split at placed
  · cases placed
  · rename_i present
    split at placed
    · cases placed
    · rename_i entry known
      obtain ⟨byteSize, sized, placed⟩ := bind_eq_ok placed
      obtain ⟨byteOffset, started, placed⟩ := bind_eq_ok placed
      cases placed
      exact ⟨present, entry, byteSize, byteOffset, known, sized, started, rfl⟩

theorem placedBy_of_machinePlace
    (placed : table.machinePlace build declaration free = .ok slot) :
    slot.PlacedBy declaration (table.alignSize? declaration.type).isSome
      (table.machineRowPatternOf build declaration) := by
  obtain ⟨present, entry, byteSize, byteOffset, known, sized, -, rfl⟩ :=
    machinePlace_eq_ok placed
  refine ⟨rfl, present, Option.isSome_of_eq_some known, ?_⟩
  intro array
  have isArray : declaration.isArray = true := decide_eq_true array
  rw [machineByteSize, if_pos isArray] at sized
  obtain ⟨pattern, derived, -⟩ := bind_eq_ok sized
  exact ⟨pattern, derived⟩

end AlignSizes

/-! ## Whole floats -/

/-- A word that stands for a multiple of four is one itself, even if it was cut. -/
theorem Build.four_dvd_of_fit {Failure : Type} [Faulting Failure] {build : Build}
    {operation : SizeOperation} {exact word : Nat} (whole : 4 ∣ exact)
    (kept : (build.fit operation exact : Except Failure Nat) = .ok word) : 4 ∣ word := by
  have stands := Build.fit_eq_ok_iff.mp kept
  cases build with
  | checked => exact stands.2 ▸ whole
  | wrapping =>
      simp only [Build.Stands, wordCount] at stands
      omega

/-- An offset that is rounded up to a multiple of four is one. -/
theorem four_dvd_of_machineRoundUp {build : Build} {offset alignment rounded : Nat}
    (whole : 4 ∣ alignment) (positive : 0 < alignment)
    (ends : (machineRoundUp build offset alignment : Attempt Nat) = .ok rounded) :
    4 ∣ rounded := by
  rw [machineRoundUp, if_neg (Nat.ne_of_gt positive)] at ends
  obtain ⟨below, -, ends⟩ := bind_eq_ok ends
  obtain ⟨beyond, -, ends⟩ := bind_eq_ok ends
  exact Build.four_dvd_of_fit (Nat.dvd_mul_left_of_dvd whole _) ends

/-- Whether a placement that is given whole floats takes whole floats. -/
def Placement.Whole (place : Placement) : Prop :=
  ∀ ⦃declaration free slot⦄, 4 ∣ free → place declaration free = .ok slot →
    4 ∣ slot.element.byteOffset ∧ 4 ∣ slot.byteSize

namespace BaseSizes

theorem four_dvd_standard {type : ShaderType} {base : Nat}
    (known : standard.baseSize? type = some base) : 4 ∣ base := by
  have everywhere : ∀ type ∈ ShaderType.all, ∀ base ∈ standard.baseSize? type, 4 ∣ base := by
    decide
  exact everywhere type (mem_all_of_standard known) base known

theorem four_dvd_of_machineByteSize {build : Build} {declaration : Declaration}
    {base byteSize : Nat} (whole : 4 ∣ base)
    (sized : standard.machineByteSize build declaration base = .ok byteSize) : 4 ∣ byteSize := by
  rw [machineByteSize] at sized
  split at sized
  · obtain ⟨pattern, -, sized⟩ := bind_eq_ok sized
    obtain ⟨entries, product, sized⟩ := bind_eq_ok sized
    obtain ⟨extent, -, sized⟩ := bind_eq_ok sized
    obtain ⟨bytes, -, sized⟩ := bind_eq_ok sized
    obtain ⟨rows, rounded, sized⟩ := bind_eq_ok sized
    cases sized
    have perEntry : 4 ∣ max base rowBytes := by
      rw [rowBytes]
      omega
    have wholeEntries : 4 ∣ entries :=
      Build.four_dvd_of_fit (Nat.dvd_mul_right_of_dvd perEntry _) product
    have wholeRows : 4 ∣ rows := four_dvd_of_machineRoundUp (by decide) (by decide) rounded
    omega
  · cases sized
    exact whole

theorem four_dvd_of_machineStart {build : Build} {byteSize free byteOffset : Nat}
    (wholeSize : 4 ∣ byteSize) (wholeFree : 4 ∣ free)
    (started : machineStart build byteSize free = .ok byteOffset) : 4 ∣ byteOffset := by
  obtain ⟨used, rest, started⟩ := bind_eq_ok started
  obtain ⟨-, rfl⟩ := remainder_eq_ok rest
  have wholeUsed : 4 ∣ free % rowBytes := (Nat.dvd_mod_iff (by decide)).mpr wholeFree
  have below : free % rowBytes < rowBytes := Nat.mod_lt free (by decide)
  obtain ⟨left, subtracted, started⟩ := bind_eq_ok started
  rw [Build.sub_of_le (Nat.le_of_lt below)] at subtracted
  cases subtracted
  split at started
  · have wholeLeft : 4 ∣ rowBytes - free % rowBytes := Nat.dvd_sub (by decide) wholeUsed
    exact Build.four_dvd_of_fit (Nat.dvd_add wholeFree wholeLeft) started
  · obtain ⟨beyond, past, started⟩ := bind_eq_ok started
    obtain ⟨nonzero, rfl⟩ := remainder_eq_ok past
    have inside := Nat.mod_lt (free % rowBytes) (Nat.pos_of_ne_zero nonzero)
    obtain ⟨short, subtracted, started⟩ := bind_eq_ok started
    rw [Build.sub_of_le (Nat.le_of_lt inside)] at subtracted
    cases subtracted
    obtain ⟨padding, last, started⟩ := bind_eq_ok started
    obtain ⟨-, rfl⟩ := remainder_eq_ok last
    have wholeShort : 4 ∣ byteSize - free % rowBytes % byteSize :=
      Nat.dvd_sub wholeSize ((Nat.dvd_mod_iff wholeSize).mpr wholeUsed)
    have wholePadding := (Nat.dvd_mod_iff wholeSize).mpr wholeShort
    exact Build.four_dvd_of_fit (Nat.dvd_add wholeFree wholePadding) started

theorem machinePlace_whole (build : Build) : Placement.Whole (standard.machinePlace build) := by
  intro declaration free slot wholeFree placed
  obtain ⟨-, base, byteSize, byteOffset, known, sized, started, rfl⟩ := machinePlace_eq_ok placed
  have wholeSize := four_dvd_of_machineByteSize (four_dvd_standard known) sized
  exact ⟨four_dvd_of_machineStart wholeSize wholeFree started, wholeSize⟩

end BaseSizes

namespace AlignSizes

theorem four_dvd_standard {type : ShaderType} {entry : AlignSize}
    (known : standard.alignSize? type = some entry) :
    4 ∣ entry.align ∧ 0 < entry.align ∧ 4 ∣ entry.size := by
  have everywhere : ∀ type ∈ ShaderType.all, 4 ∣ (standardEntry type).align ∧
      0 < (standardEntry type).align ∧ 4 ∣ (standardEntry type).size := by decide
  obtain ⟨listed, rfl⟩ := standard_eq_some_iff.mp known
  exact everywhere type listed

theorem machinePlace_whole (build : Build) : Placement.Whole (standard.machinePlace build) := by
  intro declaration free slot wholeFree placed
  obtain ⟨-, entry, byteSize, byteOffset, known, sized, started, rfl⟩ := machinePlace_eq_ok placed
  obtain ⟨wholeAlign, positive, wholeEntry⟩ := four_dvd_standard known
  refine ⟨four_dvd_of_machineRoundUp wholeAlign positive started, ?_⟩
  rw [machineByteSize] at sized
  split at sized
  · obtain ⟨pattern, -, sized⟩ := bind_eq_ok sized
    obtain ⟨entries, product, sized⟩ := bind_eq_ok sized
    obtain ⟨extent, -, sized⟩ := bind_eq_ok sized
    obtain ⟨bytes, -, sized⟩ := bind_eq_ok sized
    obtain ⟨rows, rounded, sized⟩ := bind_eq_ok sized
    cases sized
    have perEntry : 4 ∣ max entry.size entry.align := by omega
    have wholeEntries : 4 ∣ entries :=
      Build.four_dvd_of_fit (Nat.dvd_mul_right_of_dvd perEntry _) product
    have wholeRows : 4 ∣ rows := four_dvd_of_machineRoundUp wholeAlign positive rounded
    dsimp only
    omega
  · cases sized
    exact wholeEntry

end AlignSizes

/-! ## Layouts -/

namespace Layout

variable {build : Build} {place : Placement} {free finish : Nat}
  {declarations : List Declaration} {slots : List Slot}

/-- Every slot of an arrangement is the place of its declaration. -/
theorem placed_of_machineArrange
    (arranged : machineArrange build place free declarations = .ok (slots, finish)) :
    List.Forall₂ (fun declaration slot => ∃ free, place declaration free = .ok slot)
      declarations slots := by
  induction declarations generalizing free slots with
  | nil =>
      cases arranged
      exact .nil
  | cons declaration rest ih =>
      obtain ⟨slot, placed, arranged⟩ := bind_eq_ok arranged
      obtain ⟨next, -, arranged⟩ := bind_eq_ok arranged
      obtain ⟨⟨later, laterFinish⟩, arrangedLater, same⟩ := bind_eq_ok arranged
      cases same
      exact .cons ⟨free, placed⟩ (ih arrangedLater)

/-- A placement that keeps to whole floats starts all its slots at one. -/
theorem four_dvd_of_machineArrange (whole : place.Whole) (wholeFree : 4 ∣ free)
    (arranged : machineArrange build place free declarations = .ok (slots, finish)) :
    ∀ slot ∈ slots, 4 ∣ slot.element.byteOffset := by
  induction declarations generalizing free slots with
  | nil =>
      cases arranged
      exact fun slot member => absurd member List.not_mem_nil
  | cons declaration rest ih =>
      obtain ⟨slot, placed, arranged⟩ := bind_eq_ok arranged
      obtain ⟨next, moved, arranged⟩ := bind_eq_ok arranged
      obtain ⟨⟨later, laterFinish⟩, arrangedLater, same⟩ := bind_eq_ok arranged
      cases same
      obtain ⟨wholeOffset, wholeSize⟩ := whole wholeFree placed
      have wholeNext := Build.four_dvd_of_fit (Nat.dvd_add wholeOffset wholeSize) moved
      exact List.forall_mem_cons.mpr ⟨wholeOffset, ih wholeNext arrangedLater⟩

end Layout

namespace Compiler

variable {compiler : Compiler} {build : Build}

/-- The place that the convention gives a declaration. -/
def machinePlace (compiler : Compiler) (build : Build) : Placement :=
  match compiler.settings.convention with
  | .std140 => compiler.baseSizes.machinePlace build
  | .wgsl => compiler.alignSizes.machinePlace build

/-- Whether the convention knows the size of a type. -/
def knows (compiler : Compiler) (type : ShaderType) : Bool :=
  match compiler.settings.convention with
  | .std140 => (compiler.baseSizes.baseSize? type).isSome
  | .wgsl => (compiler.alignSizes.alignSize? type).isSome

/-- The rows of an array. -/
def machineRowsOf (compiler : Compiler) (build : Build) (declaration : Declaration) :
    Attempt RowPattern :=
  match compiler.settings.convention with
  | .std140 => compiler.baseSizes.machineRowPatternOf build declaration
  | .wgsl => compiler.alignSizes.machineRowPatternOf build declaration

theorem machineLayout_eq_build (compiler : Compiler) (build : Build)
    (declarations : List Declaration) :
    compiler.machineLayout build declarations =
      Layout.machineBuild build compiler.settings.convention (compiler.machinePlace build)
        declarations blockAlignment := by
  unfold machineLayout machinePlace
  cases compiler.settings.convention <;> rfl

theorem placedBy_of_machinePlace {declaration : Declaration} {free : Nat} {slot : Slot}
    (placed : compiler.machinePlace build declaration free = .ok slot) :
    slot.PlacedBy declaration (compiler.knows declaration.type)
      (compiler.machineRowsOf build declaration) := by
  unfold machinePlace at placed
  unfold knows machineRowsOf
  cases convention : compiler.settings.convention with
  | std140 =>
      rw [convention] at placed
      exact BaseSizes.placedBy_of_machinePlace placed
  | wgsl =>
      rw [convention] at placed
      exact AlignSizes.placedBy_of_machinePlace placed

theorem machinePlace_whole (sizes : compiler.StandardSizes) (build : Build) :
    (compiler.machinePlace build).Whole := by
  unfold machinePlace
  rw [sizes.base, sizes.align]
  cases compiler.settings.convention with
  | std140 => exact BaseSizes.machinePlace_whole build
  | wgsl => exact AlignSizes.machinePlace_whole build

/-- A type that the convention knows has a direct writer, if all types of the std140 table
do, or under WGSL if this one does. -/
theorem contains_of_knows {type : ShaderType}
    (baseDirect : compiler.settings.convention = .std140 → compiler.baseSizes.Direct)
    (direct : compiler.settings.convention = .wgsl → WriterTable.wgsl.contains type = true)
    (known : compiler.knows type = true) :
    (WriterTable.ofConvention compiler.settings.convention).contains type = true := by
  unfold knows at known
  cases convention : compiler.settings.convention with
  | std140 =>
      rw [convention] at known
      obtain ⟨base, known⟩ := Option.isSome_iff_exists.mp known
      exact baseDirect convention known
  | wgsl => exact direct convention

variable {V : Type} {specialists : List (Specialist V)} {wrap : Writer → V}

/-- A uniform that was placed has an entry, if a single one has a direct writer.  The rows
that an array is written by are those that its bytes were derived from. -/
theorem exists_entry {slot : Slot} {declaration : Declaration}
    (placed : slot.PlacedBy declaration (compiler.knows declaration.type)
      (compiler.machineRowsOf build declaration))
    (direct : declaration.count = 1 →
      (WriterTable.ofConvention compiler.settings.convention).contains declaration.type = true) :
    ∃ entry, (compiler.dispatchWith build specialists wrap).entryFor slot.element = .ok entry := by
  obtain ⟨rfl, present, -, rows⟩ := placed
  have array (many : 1 < slot.element.count) :
      ∃ writer, ((compiler.machineArrayWriters build).map wrap).writerFor slot.element =
        .ok writer := by
    obtain ⟨pattern, derived⟩ := rows many
    refine ⟨wrap (.strided pattern compiler.settings.checkValueLengths), ?_⟩
    unfold machineRowsOf at derived
    unfold machineArrayWriters ArrayWriters.map
    cases convention : compiler.settings.convention with
    | std140 =>
        rw [convention] at derived
        simp only [BaseSizes.machineArrayWriters, derived, Except.map]
    | wgsl =>
        rw [convention] at derived
        simp only [AlignSizes.machineArrayWriters, derived, Except.map]
  have single (isSingle : slot.element.count = 1) :
      ((WriterTable.ofConvention compiler.settings.convention).map wrap).contains
        slot.element.type = true := by
    have contained := direct isSingle
    rw [WriterTable.contains] at contained ⊢
    rw [WriterTable.map, Option.isSome_map]
    exact contained
  have choice : ∃ choice,
      (compiler.dispatchWith build specialists wrap).choose slot.element = .ok choice :=
    Dispatch.exists_choice present single array
  obtain ⟨choice, chosen⟩ := choice
  exact ⟨_, map_eq_ok_iff.mpr ⟨choice, chosen, rfl⟩⟩

/-- Whether slots were placed for declarations, one for each in order. -/
def Placed (compiler : Compiler) (build : Build) : List Declaration → List Slot → Prop :=
  List.Forall₂ fun declaration slot =>
    slot.PlacedBy declaration (compiler.knows declaration.type)
      (compiler.machineRowsOf build declaration)

/-- Every slot of a layout was placed for its declaration. -/
theorem placed_of_machineLayout {declarations : List Declaration} {layout : Layout}
    (built : compiler.machineLayout build declarations = .ok layout) :
    compiler.Placed build declarations layout.slots := by
  rw [machineLayout_eq_build] at built
  obtain ⟨finish, arranged⟩ := Layout.machineArrange_of_machineBuild built
  exact (Layout.placed_of_machineArrange arranged).imp fun declaration slot placed =>
    placedBy_of_machinePlace placed.choose_spec

section Placing

variable {declarations : List Declaration} {slots : List Slot}

theorem Placed.declarations_eq (placed : compiler.Placed build declarations slots) :
    slots.map (fun slot => slot.element.toDeclaration) = declarations := by
  have same : List.Forall₂ (· = ·) declarations
      (slots.map fun slot => slot.element.toDeclaration) := by
    rw [List.forall₂_map_right_iff]
    exact placed.imp fun declaration slot known => known.same.symm
  rw [List.forall₂_eq_eq_eq] at same
  exact same.symm

theorem Placed.of_mem (placed : compiler.Placed build declarations slots) {slot : Slot}
    (member : slot ∈ slots) :
    slot.PlacedBy slot.element.toDeclaration (compiler.knows slot.element.type)
      (compiler.machineRowsOf build slot.element.toDeclaration) := by
  induction placed with
  | nil => exact absurd member List.not_mem_nil
  | cons first later ih =>
      rcases List.mem_cons.mp member with rfl | inRest
      · obtain rfl := first.same
        exact first
      · exact ih inRest

end Placing

/-- With the standard sizes every uniform starts at a whole float. -/
theorem four_dvd_of_machineLayout (sizes : compiler.StandardSizes)
    {declarations : List Declaration} {layout : Layout}
    (built : compiler.machineLayout build declarations = .ok layout) {element : Element}
    (member : element ∈ layout.elements) : 4 ∣ element.byteOffset := by
  rw [machineLayout_eq_build] at built
  obtain ⟨finish, arranged⟩ := Layout.machineArrange_of_machineBuild built
  obtain ⟨slot, inLayout, rfl⟩ := List.mem_map.mp member
  exact Layout.four_dvd_of_machineArrange (machinePlace_whole sizes build) (Nat.dvd_zero 4)
    arranged slot inLayout

/-- A set of uniforms that can be laid out can be compiled by the same build, with any
specialists.  Under WGSL this takes a direct writer for each single uniform, which all types
of the language have.  The plan has one entry for each uniform, in order, at the uniform's
offset in whole floats; with the standard sizes that is the uniform's offset. -/
theorem machine_compile_of_layout {uniforms : UniformSet} {layout : Layout}
    (baseDirect : compiler.settings.convention = .std140 → compiler.baseSizes.Direct)
    (direct : compiler.settings.convention = .wgsl → ∀ declaration ∈ uniforms.declarations,
      declaration.count = 1 → WriterTable.wgsl.contains declaration.type = true)
    (built : compiler.machineLayout build uniforms.declarations = .ok layout)
    (specialists : List (Specialist V)) (wrap : Writer → V) :
    ∃ plan, Plan.compile (compiler.dispatchWith build specialists wrap) layout.elements =
        .ok plan ∧
      plan.entries.map PlanEntry.name = uniforms.declarations.map Declaration.name ∧
      (plan.entries.map fun entry => (entry.name, entry.offset)) =
        (layout.elements.map fun element => (element.name, element.byteOffset / 4)) ∧
      (compiler.StandardSizes →
        (plan.entries.map fun entry => entry.offset * 4) =
          layout.elements.map fun element => element.byteOffset) := by
  have placed := placed_of_machineLayout built
  have sameNames : layout.elements.map (·.name) = uniforms.declarations.map Declaration.name := by
    rw [← placed.declarations_eq, Layout.elements, List.map_map, List.map_map]
    rfl
  have distinct : (layout.elements.map (·.name)).Nodup := by
    rw [sameNames]
    exact uniforms.distinct
  have each : ∀ element ∈ layout.elements,
      ∃ entry, (compiler.dispatchWith build specialists wrap).entryFor element = .ok entry := by
    intro element member
    obtain ⟨slot, inLayout, rfl⟩ := List.mem_map.mp member
    have declared : slot.element.toDeclaration ∈ uniforms.declarations := by
      rw [← placed.declarations_eq]
      exact List.mem_map_of_mem inLayout
    have known := (placed.of_mem inLayout).known
    exact exists_entry (placed.of_mem inLayout) fun single =>
      contains_of_knows baseDirect (fun wgsl => direct wgsl _ declared single) known
  obtain ⟨entries, matched⟩ := Plan.exists_matched each
  refine ⟨_, Plan.compile_of_matched distinct matched, ?_, ?_, ?_⟩
  · rw [← sameNames]
    apply Plan.map_eq_of_matched matched
    intro element entry compiled
    exact (Dispatch.entryFor_eq_ok compiled).1.symm
  · apply Plan.map_eq_of_matched matched
    intro element entry compiled
    obtain ⟨name, offset, -⟩ := Dispatch.entryFor_eq_ok compiled
    rw [name, offset, Element.floatOffset]
  · intro sizes
    have offsets : (entries.map fun entry => entry.offset * 4) =
        layout.elements.map fun element => element.byteOffset / 4 * 4 := by
      apply Plan.map_eq_of_matched matched
      intro element entry compiled
      rw [(Dispatch.entryFor_eq_ok compiled).2.1, Element.floatOffset]
    rw [offsets]
    apply List.map_congr_left
    intro element member
    exact Nat.div_mul_cancel (four_dvd_of_machineLayout sizes built member)

/-- A compiler without specialists, for two types whose sizes are not whole words. -/
def oddSizes : Compiler where
  specialists := []
  baseSizes := (BaseSizes.empty.insert (.vector .f32 2) 6).insert (.scalar .i32) 1

theorem direct_oddSizes : oddSizes.baseSizes.Direct := by
  intro type base known
  by_cases scalar : type = .scalar .i32
  · subst scalar
    decide
  · by_cases vector : type = .vector .f32 2
    · subst vector
      decide
    · rw [oddSizes, BaseSizes.baseSize?_insert_of_ne _ _ scalar,
        BaseSizes.baseSize?_insert_of_ne _ _ vector] at known
      cases known

/-- A vector that was declared as a scalar at first, a scalar and an array. -/
def redeclared : UniformSet :=
  (((UniformSet.empty.declare ⟨"corner", .scalar .i32, 1, .scalar .one⟩).declare
    ⟨"flag", .scalar .i32, 1, .scalar .one⟩).declare
    ⟨"corner", .vector .f32 2, 1, .point .one .one⟩).declare
    ⟨"steps", .vector .f32 2, 2, .flat [.one, .one, .one, .one]⟩

/-- A specialist for flags that writes nothing. -/
def skipped : Specialist (Option Writer) where
  label := "skipped"
  type := .scalar .i32
  test _ := true
  writer := none

/-- The offset of the scalar is cut down to a whole float under the odd sizes, and it is
kept under the standard ones. -/
theorem compile_of_redeclared :
    (∃ layout plan, oddSizes.baseSizes.Direct ∧
      oddSizes.machineLayout .wrapping redeclared.declarations = .ok layout ∧
      Plan.compile (oddSizes.dispatchWith .wrapping [skipped] some) layout.elements = .ok plan ∧
      layout.elements.map (·.byteOffset) = [0, 6, 16] ∧
      (plan.entries.map fun entry => (entry.name, entry.offset)) =
        [("corner", 0), ("flag", 1), ("steps", 4)]) ∧
    ∃ layout plan, (∀ declaration ∈ redeclared.declarations, declaration.count = 1 →
        WriterTable.wgsl.contains declaration.type = true) ∧
      StandardSizes (ofConvention .wgsl) ∧
      (ofConvention .wgsl).machineLayout .checked redeclared.declarations = .ok layout ∧
      Plan.compile ((ofConvention .wgsl).dispatchWith .checked Specialist.standard id)
        layout.elements = .ok plan ∧
      layout.elements.map (·.byteOffset) = [0, 8, 16] ∧
      (plan.entries.map fun entry => entry.offset * 4) = [0, 8, 16] := by
  constructor
  · have built : oddSizes.machineLayout .wrapping redeclared.declarations = .ok _ := rfl
    obtain ⟨plan, compiled, -, placed, -⟩ :=
      machine_compile_of_layout (fun _ => direct_oddSizes)
        (fun wgsl => absurd wgsl (by decide)) built [skipped] some
    exact ⟨_, plan, direct_oddSizes, built, compiled, rfl, placed⟩
  · have direct : ∀ declaration ∈ redeclared.declarations, declaration.count = 1 →
        WriterTable.wgsl.contains declaration.type = true := by decide
    have sizes : StandardSizes (ofConvention .wgsl) := ⟨rfl, rfl⟩
    have built : (ofConvention .wgsl).machineLayout .checked redeclared.declarations = .ok _ :=
      rfl
    obtain ⟨plan, compiled, -, -, exactly⟩ :=
      machine_compile_of_layout (fun std140 => absurd std140 (by decide))
        (fun _ => direct) built Specialist.standard id
    exact ⟨_, plan, direct, sizes, built, compiled, rfl, exactly sizes⟩

/-- A compiler whose WGSL table has a vector that the language does not have. -/
def fiveWeights : Compiler where
  settings := { convention := .wgsl }
  alignSizes := AlignSizes.standard.insert (.vector .f32 5) ⟨16, 20⟩

/-- One uniform of that type. -/
def weights : UniformSet :=
  UniformSet.empty.declare ⟨"weights", .vector .f32 5, 1, .flat (List.replicate 5 .one)⟩

/-- The vector is laid out, but there is no writer for it. -/
theorem weights_not_compiled :
    ∃ layout, fiveWeights.machineLayout .checked weights.declarations = .ok layout ∧
      fiveWeights.machineCompile .checked layout.elements =
        .error (.refused (.unsupportedType "weights" (.vector .f32 5) .wgsl)) :=
  ⟨_, rfl, rfl⟩

end Compiler

end UniformBlock
