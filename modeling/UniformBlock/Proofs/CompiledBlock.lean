import UniformBlock.Machine.Blocks
import UniformBlock.Proofs.Compilation
import UniformBlock.Proofs.Reservations
import UniformBlock.Proofs.WriterRows

/-!
# Compiled blocks

What ties the plan of a block to its layout.  The writer that is chosen for a
uniform puts components into the rows of its type, or into the rows of its array,
and with the standard tables the uniform's slot has room for them.
-/

namespace UniformBlock

/-! ## The rows of a uniform -/

/-- The distance in floats between the starts of two columns of a matrix. -/
def columnPitch (convention : Convention) (rows : Dimension) : Nat :=
  if convention = .wgsl ∧ rows = 2 then 2 else 4

/-- The rows of a single value: one for a scalar or a vector, and the columns of
a matrix. -/
def ShaderType.grid (convention : Convention) : ShaderType → RowPattern
  | .matrix columns rows =>
      ⟨columns.toNat, rows.toNat, columnPitch convention rows - rows.toNat⟩
  | type => ⟨1, type.components, 0⟩

namespace ShaderType

/-- A base size of the standard table covers the rows of a single value. -/
theorem std140_grid_fits {type : ShaderType} {base : Nat}
    (known : BaseSizes.standard.baseSize? type = some base) :
    (type.grid .std140).extent * 4 ≤ base := by
  have everywhere : ∀ type ∈ all, ∀ base ∈ BaseSizes.standard.baseSize? type,
      (type.grid .std140).extent * 4 ≤ base := by decide
  exact everywhere type (BaseSizes.mem_all_of_standard known) base known

/-- A size of the standard table covers the rows of a single value. -/
theorem wgsl_grid_fits {type : ShaderType} {entry : AlignSize}
    (known : AlignSizes.standard.alignSize? type = some entry) :
    (type.grid .wgsl).extent * 4 ≤ entry.size := by
  have everywhere : ∀ type ∈ all,
      (type.grid .wgsl).extent * 4 ≤ (AlignSizes.standardEntry type).size := by decide
  obtain ⟨listed, rfl⟩ := AlignSizes.standard_eq_some_iff.mp known
  exact everywhere type listed

/-- Little is skipped behind a row of a single value. -/
theorem gap_grid_le (convention : Convention) (type : ShaderType) :
    (type.grid convention).gap ≤ 4 := by
  cases type with
  | matrix columns rows =>
      rw [grid, columnPitch]
      split
      · exact Nat.le_trans (Nat.sub_le 2 _) (by decide)
      · exact Nat.sub_le 4 _
  | _ => exact Nat.zero_le 4

end ShaderType

namespace Compiler

/-- The rows of a declared uniform. -/
def gridOf (compiler : Compiler) (declaration : Declaration) : Attempt RowPattern :=
  if declaration.isArray then
    match compiler.settings.convention with
    | .std140 => compiler.baseSizes.rowPatternOf declaration
    | .wgsl => compiler.alignSizes.rowPatternOf declaration
  else
    .ok (declaration.type.grid compiler.settings.convention)

/-- Whether the size tables are the standard ones. -/
structure StandardSizes (compiler : Compiler) : Prop where
  base : compiler.baseSizes = .standard
  align : compiler.alignSizes = .standard

/-- Whether all specialists are among the standard ones. -/
def StandardSpecialists (compiler : Compiler) : Prop :=
  ∀ specialist ∈ compiler.specialists, specialist ∈ Specialist.standard

end Compiler

/-! ## Chosen writers -/

theorem Dispatch.choose_eq_ok {W : Type} {dispatch : Dispatch W} {element : Element}
    {route : Route} {writer : W} (chosen : dispatch.choose element = .ok (route, writer)) :
    (∃ specialist, Specialist.find? dispatch.specialists element = some specialist ∧
        writer = specialist.writer) ∨
      (Specialist.find? dispatch.specialists element = none ∧ element.count = 1 ∧
        dispatch.direct.writer? element.type = some writer) ∨
      (Specialist.find? dispatch.specialists element = none ∧ 1 < element.count ∧
        dispatch.arrays.writerFor element = .ok writer) := by
  rw [choose] at chosen
  split at chosen
  · cases chosen
  · rename_i present
    split at chosen
    · rename_i specialist found
      cases chosen
      exact .inl ⟨specialist, found, rfl⟩
    · rename_i notFound
      split at chosen
      · rename_i single
        split at chosen
        · rename_i direct known
          cases chosen
          exact .inr (.inl ⟨notFound, single, known⟩)
        · cases chosen
      · rename_i several
        obtain ⟨array, created, same⟩ := map_eq_ok_iff.mp chosen
        cases same
        exact .inr (.inr ⟨notFound, by omega, created⟩)

namespace Specialist

theorem mem_standard_iff {specialist : Specialist} :
    specialist ∈ standard ↔ specialist = affine ∨ specialist = rect ∨ specialist = point ∨
      specialist = colorRgba ∨ specialist = colorRgb := by
  simp only [standard, List.mem_cons, List.not_mem_nil, or_false]

/-- A standard specialist looks for single values of one shape, and writes the
rows of its type. -/
theorem standard_writer {specialist : Specialist} (known : specialist ∈ standard) :
    (∃ shape, specialist.test = singleOf shape) ∧ specialist.writer.Regular ∧
      ∀ convention, specialist.writer.pattern = specialist.type.grid convention := by
  rcases mem_standard_iff.mp known with rfl | rfl | rfl | rfl | rfl
  · exact ⟨⟨_, rfl⟩, trivial, fun convention => by cases convention <;> rfl⟩
  · exact ⟨⟨_, rfl⟩, trivial, fun _ => rfl⟩
  · exact ⟨⟨_, rfl⟩, trivial, fun _ => rfl⟩
  · exact ⟨⟨_, rfl⟩, Nat.le_refl 4, fun _ => rfl⟩
  · exact ⟨⟨_, rfl⟩, Nat.le_succ 3, fun _ => rfl⟩

theorem accepts_iff {W : Type} {specialist : Specialist W} {element : Element} :
    specialist.accepts element = true ↔
      specialist.type = element.type ∧ specialist.test element = true := by
  rw [accepts, Bool.and_eq_true, decide_eq_true_eq]

/-- The specialist that is found is registered and takes over the uniform. -/
theorem find?_eq_some {W : Type} {specialists : List (Specialist W)} {element : Element}
    {specialist : Specialist W} (found : find? specialists element = some specialist) :
    specialist ∈ specialists ∧ specialist.type = element.type ∧
      specialist.test element = true := by
  rw [find?] at found
  have accepted := List.find?_some found
  exact ⟨List.mem_of_find?_eq_some found, accepts_iff.mp accepted⟩

theorem singleOf_iff {shape : String} {element : Element} :
    singleOf shape element = true ↔ element.count = 1 ∧ element.value.shape = shape := by
  rw [singleOf, Bool.and_eq_true, decide_eq_true_eq, decide_eq_true_eq]

end Specialist

/-- A direct writer writes the rows of its type. -/
theorem WriterTable.ofConvention_writer {convention : Convention} {type : ShaderType}
    {writer : Writer} (known : (ofConvention convention).writer? type = some writer) :
    writer.Regular ∧ writer.pattern = type.grid convention := by
  have everywhere : ∀ convention ∈ [Convention.std140, .wgsl], ∀ type ∈ ShaderType.all,
      ∀ writer ∈ (ofConvention convention).writer? type,
        writer.Regular ∧ writer.pattern = type.grid convention := by decide
  exact everywhere convention (by cases convention <;> decide) type (mem_all_of_direct known)
    writer known

namespace Writer

/-- Only an array writer may put off the refusal of a short value. -/
theorem refusesShort_of_specialist {specialist : Specialist}
    (known : specialist ∈ Specialist.standard) : specialist.writer.refusesShort = true := by
  rcases Specialist.mem_standard_iff.mp known with rfl | rfl | rfl | rfl | rfl <;> rfl

theorem refusesShort_of_direct {convention : Convention} {type : ShaderType} {writer : Writer}
    (known : (WriterTable.ofConvention convention).writer? type = some writer) :
    writer.refusesShort = true := by
  have everywhere : ∀ convention ∈ [Convention.std140, .wgsl], ∀ type ∈ ShaderType.all,
      ∀ writer ∈ (WriterTable.ofConvention convention).writer? type,
        writer.refusesShort = true := by decide
  exact everywhere convention (by cases convention <;> decide) type
    (WriterTable.mem_all_of_direct known) writer known

end Writer

namespace Dispatch

/-- Whether no writer comes from elsewhere: the specialists are standard, the direct
writers are those of a convention, and the array writers follow some size table in some
build.  When `checked`, these refuse a short value at once. -/
structure BuiltIn (dispatch : Dispatch) (checked : Bool) : Prop where
  specialists : ∀ specialist ∈ dispatch.specialists, specialist ∈ Specialist.standard
  direct : ∀ ⦃type writer⦄, dispatch.direct.writer? type = some writer →
    ∃ convention, (WriterTable.ofConvention convention).writer? type = some writer
  arrays : ∃ build,
    (∃ table : BaseSizes, dispatch.arrays = table.machineArrayWriters build checked) ∨
      ∃ table : AlignSizes, dispatch.arrays = table.machineArrayWriters build checked

variable {dispatch : Dispatch} {checked : Bool}

theorem BuiltIn.array_writer (builtIn : dispatch.BuiltIn checked) {element : Element}
    {writer : Writer} (created : dispatch.arrays.writerFor element = .ok writer) :
    ∃ pattern, writer = .strided pattern checked := by
  obtain ⟨build, ⟨table, same⟩ | ⟨table, same⟩⟩ := builtIn.arrays
  · rw [same] at created
    obtain ⟨pattern, -, rfl⟩ := map_eq_ok_iff.mp created
    exact ⟨pattern, rfl⟩
  · rw [same] at created
    obtain ⟨pattern, -, rfl⟩ := map_eq_ok_iff.mp created
    exact ⟨pattern, rfl⟩

/-- A built-in writer is regular, and refuses short values at once if arrays do. -/
theorem BuiltIn.chosen_writer (builtIn : dispatch.BuiltIn checked) {element : Element}
    {route : Route} {writer : Writer} (chosen : dispatch.choose element = .ok (route, writer)) :
    writer.Regular ∧ (checked = true → writer.refusesShort = true) := by
  rcases choose_eq_ok chosen with ⟨specialist, found, rfl⟩ | ⟨-, -, known⟩ | ⟨-, -, created⟩
  · have standard := builtIn.specialists _ (Specialist.find?_eq_some found).1
    exact ⟨(Specialist.standard_writer standard).2.1,
      fun _ => Writer.refusesShort_of_specialist standard⟩
  · obtain ⟨convention, own⟩ := builtIn.direct known
    exact ⟨(WriterTable.ofConvention_writer own).1, fun _ => Writer.refusesShort_of_direct own⟩
  · obtain ⟨pattern, rfl⟩ := builtIn.array_writer created
    exact ⟨trivial, id⟩

end Dispatch

namespace Compiler

variable {compiler : Compiler}

/-- An array is written by its rows, if it has any. -/
theorem writerFor_array {element : Element} (array : 1 < element.count) :
    compiler.arrayWriters.writerFor element =
      (compiler.gridOf element.toDeclaration).map fun pattern =>
        .strided pattern compiler.settings.checkValueLengths := by
  have isArray : element.toDeclaration.isArray = true := decide_eq_true array
  rw [gridOf, if_pos isArray, arrayWriters]
  cases compiler.settings.convention <;> rfl

/-- The writer of an array writes the rows of the array. -/
theorem arrayWriters_writer {element : Element} (array : 1 < element.count) {writer : Writer}
    (created : compiler.arrayWriters.writerFor element = .ok writer) :
    ∃ pattern, writer = .strided pattern compiler.settings.checkValueLengths ∧
      compiler.gridOf element.toDeclaration = .ok pattern := by
  rw [writerFor_array array] at created
  obtain ⟨pattern, rows, rfl⟩ := map_eq_ok_iff.mp created
  exact ⟨pattern, rfl, rows⟩

theorem gridOf_single {declaration : Declaration} (single : declaration.count = 1) :
    compiler.gridOf declaration = .ok (declaration.type.grid compiler.settings.convention) := by
  have notArray : ¬ declaration.isArray = true := fun array =>
    absurd (Declaration.one_lt_count_of_isArray array) (by omega)
  rw [gridOf, if_neg notArray]

/-- The writer that is chosen for a uniform writes the uniform's rows. -/
theorem chosen_writer (specialists : compiler.StandardSpecialists) {element : Element}
    {route : Route} {writer : Writer}
    (chosen : compiler.dispatch.choose element = .ok (route, writer)) :
    writer.Regular ∧ compiler.gridOf element.toDeclaration = .ok writer.pattern := by
  rcases Dispatch.choose_eq_ok chosen with
    ⟨specialist, found, rfl⟩ | ⟨-, single, known⟩ | ⟨-, array, created⟩
  · obtain ⟨registered, sameType, tested⟩ := Specialist.find?_eq_some found
    obtain ⟨⟨shape, test⟩, regular, rows⟩ :=
      Specialist.standard_writer (specialists _ registered)
    rw [test] at tested
    constructor
    · exact regular
    · rw [gridOf_single (Specialist.singleOf_iff.mp tested).1, rows, sameType]
  · obtain ⟨regular, rows⟩ := WriterTable.ofConvention_writer known
    constructor
    · exact regular
    · rw [gridOf_single single, rows]
  · obtain ⟨pattern, rfl, rows⟩ := arrayWriters_writer array created
    exact ⟨trivial, rows⟩

/-! ## Slots -/

/-- The reservations of the convention. -/
def reserve (compiler : Compiler) : Reserve :=
  match compiler.settings.convention with
  | .std140 => compiler.baseSizes.reserve
  | .wgsl => compiler.alignSizes.reserve

/-- Which table a reservation is from. -/
theorem reserve_eq_ok {declaration : Declaration} {reservation : Reservation}
    (reserved : compiler.reserve declaration = .ok reservation) :
    (compiler.settings.convention = .std140 ∧
        compiler.baseSizes.reserve declaration = .ok reservation) ∨
      (compiler.settings.convention = .wgsl ∧
        compiler.alignSizes.reserve declaration = .ok reservation) := by
  rw [reserve] at reserved
  cases convention : compiler.settings.convention with
  | std140 =>
      rw [convention] at reserved
      exact .inl ⟨rfl, reserved⟩
  | wgsl =>
      rw [convention] at reserved
      exact .inr ⟨rfl, reserved⟩

theorem reserve_forward (compiler : Compiler) : compiler.reserve.Forward := by
  unfold reserve
  split
  · exact BaseSizes.reserve_forward _
  · exact AlignSizes.reserve_forward _

theorem layout_eq_build (compiler : Compiler) (declarations : List Declaration) :
    compiler.layout declarations =
      Layout.build compiler.settings.convention compiler.reserve declarations
        blockAlignment := by
  unfold layout reserve
  cases compiler.settings.convention <;> rfl

/-- A layout has an element for each declaration, in order. -/
theorem elements_of_layout {declarations : List Declaration} {layout : Layout}
    (built : compiler.layout declarations = .ok layout) :
    layout.elements.map Element.toDeclaration = declarations := by
  rw [layout_eq_build] at built
  exact (Layout.build_eq_ok built).1

theorem names_of_layout {declarations : List Declaration} {layout : Layout}
    (built : compiler.layout declarations = .ok layout) :
    layout.elements.map (·.name) = declarations.map Declaration.name := by
  rw [← elements_of_layout built, List.map_map]
  rfl

/-- The bytes of an array hold its rows, whatever the size tables say. -/
theorem reserve_coversRows (compiler : Compiler) :
    compiler.reserve.CoversRows compiler.gridOf := by
  intro declaration reservation reserved array
  have isArray : declaration.isArray = true := decide_eq_true array
  rw [gridOf, if_pos isArray]
  rcases reserve_eq_ok reserved with ⟨convention, reserved⟩ | ⟨convention, reserved⟩
  · rw [convention]
    exact compiler.baseSizes.reserve_coversRows reserved array
  · rw [convention]
    exact compiler.alignSizes.reserve_coversRows reserved array

/-- With the standard sizes a slot has room for the rows of its uniform. -/
theorem rows_fit (sizes : compiler.StandardSizes) {declaration : Declaration}
    {reservation : Reservation} {pattern : RowPattern}
    (reserved : compiler.reserve declaration = .ok reservation)
    (rows : compiler.gridOf declaration = .ok pattern) :
    pattern.extent * 4 ≤ reservation.byteSize := by
  by_cases array : 1 < declaration.count
  · obtain ⟨pattern', rows', covered⟩ := compiler.reserve_coversRows reserved array
    cases rows.symm.trans rows'
    exact covered
  · rcases reserve_eq_ok reserved with ⟨convention, reserved⟩ | ⟨convention, reserved⟩
    · rw [sizes.base] at reserved
      obtain ⟨base, known, -, ⟨single, -, sized⟩ | ⟨many, -⟩⟩ := BaseSizes.reserve_eq_ok reserved
      · rw [gridOf_single single, convention] at rows
        cases rows
        rw [sized]
        exact ShaderType.std140_grid_fits known
      · exact absurd many array
    · rw [sizes.align] at reserved
      obtain ⟨entry, known, -, ⟨single, sized⟩ | ⟨many, -⟩⟩ := AlignSizes.reserve_eq_ok reserved
      · rw [gridOf_single single, convention] at rows
        cases rows
        rw [sized]
        exact ShaderType.wgsl_grid_fits known
      · exact absurd many array

/-- The slots of a layout are in order, and the block has room for them. -/
theorem layout_arranged {declarations : List Declaration} {layout : Layout}
    (built : compiler.layout declarations = .ok layout) :
    ∃ finish, Layout.Arranged compiler.reserve 0 layout.slots finish ∧
      ∀ slot ∈ layout.slots, slot.finish / 4 ≤ layout.floatCount := by
  rw [layout_eq_build] at built
  obtain ⟨-, finish, chain, -⟩ := Layout.build_eq_ok built
  refine ⟨finish, chain, ?_⟩
  intro slot member
  exact Nat.div_le_div_right
    (Layout.finish_le_byteSize compiler.reserve_forward built member)

/-- With the standard sizes little is skipped behind a row. -/
theorem gap_gridOf_le (sizes : compiler.StandardSizes) {declaration : Declaration}
    {pattern : RowPattern} (rows : compiler.gridOf declaration = .ok pattern) :
    pattern.gap ≤ 4 := by
  rw [gridOf] at rows
  split at rows
  · cases convention : compiler.settings.convention with
    | std140 =>
        rw [convention] at rows
        obtain ⟨-, base, -, -, -, -, rfl⟩ := BaseSizes.rowPattern_eq_ok rows
        exact Nat.le_of_lt (BaseSizes.rowGap_lt _)
    | wgsl =>
        rw [convention, sizes.align] at rows
        obtain ⟨-, rfl⟩ := AlignSizes.standard_rowPattern rows
        exact Nat.le_succ_of_le (AlignSizes.columnGap_le _)
  · cases rows
    exact ShaderType.gap_grid_le _ _

/-- The layout and the plan of compiled declarations. -/
theorem compileDeclarations_eq_ok {declarations : List Declaration} {layout : Layout}
    {plan : Plan} (compiled : compiler.compileDeclarations declarations = .ok (layout, plan)) :
    compiler.layout declarations = .ok layout ∧
      Plan.compile compiler.dispatch layout.elements = .ok plan := by
  rw [compileDeclarations] at compiled
  split at compiled
  · cases compiled
  · rename_i layout' built
    obtain ⟨plan', planned, same⟩ := map_eq_ok_iff.mp compiled
    cases same
    exact ⟨built, planned⟩

end Compiler

end UniformBlock
