import UniformBlock.Proofs.UncheckedLayouts

/-!
# The first flaw

A layout fails at the first declaration of its list that is flawed, unless a build with
checks stops at an overflow before.  Whether a declaration is flawed, and how, is read off
the declaration and the size table alone: neither the other declarations nor the offset
reached so far have a part in it.  The one division by zero belongs to a flaw, a single
std140 value of base size zero; a build without checks comes to another one only with an
array whose bytes are more than it can count.
-/

namespace UniformBlock

/-- Which declarations cannot be laid out, and how that ends a layout. -/
abbrev Flaws :=
  Declaration → Stop LayoutError → Prop

/-- Whether nothing speaks against a declaration. -/
def Flaws.Clear (flaws : Flaws) (declaration : Declaration) : Prop :=
  ∀ stop, ¬ flaws declaration stop

/-- The flaws of a declaration in a std140 block. -/
inductive BaseSizes.Flaw (table : BaseSizes) (declaration : Declaration) :
    Stop LayoutError → Prop where
  | empty (without : declaration.count = 0) :
      Flaw table declaration (.refused (.emptyArray declaration.name))
  | unsupported (present : declaration.count ≠ 0)
      (unknown : table.baseSize? declaration.type = none) :
      Flaw table declaration
        (.refused (.unsupportedType declaration.name declaration.type .std140))
  | uneven {base : Nat} (array : 1 < declaration.count)
      (known : table.baseSize? declaration.type = some base)
      (uneven : BaseSizes.Uneven declaration.count base declaration.value.count) :
      Flaw table declaration
        (.refused
          (.inconsistentSample declaration.name declaration.value.count declaration.count))
  | zeroSize (single : declaration.count = 1)
      (zero : table.baseSize? declaration.type = some 0) :
      Flaw table declaration (.fault .noRemainder)

/-- The flaws of a declaration in a WGSL block.  An array of matrices is laid out by
columns, so their type must be known as well. -/
inductive AlignSizes.Flaw (table : AlignSizes) (declaration : Declaration) :
    Stop LayoutError → Prop where
  | empty (without : declaration.count = 0) :
      Flaw table declaration (.refused (.emptyArray declaration.name))
  | unsupported (present : declaration.count ≠ 0)
      (unknown : table.alignSize? declaration.type = none) :
      Flaw table declaration (.refused (.unsupportedType declaration.name declaration.type .wgsl))
  | noColumn {columns rows : Dimension} {entry : AlignSize} (array : 1 < declaration.count)
      (matrix : declaration.type = .matrix columns rows)
      (known : table.alignSize? declaration.type = some entry)
      (unknown : table.alignSize? (.vector .f32 rows) = none) :
      Flaw table declaration
        (.refused (.unsupportedType declaration.name (.vector .f32 rows) .wgsl))

/-! ## Lists of declarations -/

namespace Layout

variable {reserve : Reserve} {flaws : Flaws}

theorem arrange_of_reserved {declarations : List Declaration}
    (reserved : ∀ declaration ∈ declarations, ∃ reservation,
      reserve declaration = .ok reservation) (free : Nat) :
    ∃ arranged, arrange reserve free declarations = .ok arranged := by
  induction declarations generalizing free with
  | nil => exact ⟨_, rfl⟩
  | cons declaration rest ih =>
      obtain ⟨⟨reservation, first⟩, later⟩ := List.forall_mem_cons.mp reserved
      obtain ⟨arranged, arrangedRest⟩ := ih later (reservation.place declaration free).finish
      rw [arrange, first]
      dsimp only
      rw [arrangedRest]
      exact ⟨_, rfl⟩

theorem arrange_of_refused {before after : List Declaration} {declaration : Declaration}
    {error : Stop LayoutError}
    (reserved : ∀ earlier ∈ before, ∃ reservation, reserve earlier = .ok reservation)
    (refused : reserve declaration = .error error) (free : Nat) :
    arrange reserve free (before ++ declaration :: after) = .error error := by
  induction before generalizing free with
  | nil => rw [List.nil_append, arrange, refused]
  | cons first before ih =>
      obtain ⟨⟨reservation, placed⟩, later⟩ := List.forall_mem_cons.mp reserved
      rw [List.cons_append, arrange, placed]
      dsimp only
      rw [ih later]

/-- Without checks only a placement can stop an arrangement. -/
theorem ends_machineArrange {place : Placement} {declarations : List Declaration}
    (placed : ∀ declaration ∈ declarations, ∀ free, Ends (place declaration free)) (free : Nat) :
    Ends (machineArrange .wrapping place free declarations) := by
  induction declarations generalizing free with
  | nil => exact ⟨_, rfl⟩
  | cons declaration rest ih =>
      obtain ⟨first, later⟩ := List.forall_mem_cons.mp placed
      exact (first free).bind fun slot => (ends_add _ _).bind fun next =>
        (ih later next).bind fun arranged => ⟨_, rfl⟩

theorem machineArrange_of_stopped {place : Placement} {before after : List Declaration}
    {declaration : Declaration} {stop : Stop LayoutError}
    (placed : ∀ earlier ∈ before, ∀ free, Ends (place earlier free))
    (stopped : ∀ free, place declaration free = .error stop) (free : Nat) :
    machineArrange .wrapping place free (before ++ declaration :: after) = .error stop := by
  induction before generalizing free with
  | nil => rw [List.nil_append, machineArrange, stopped, error_bind]
  | cons first before ih =>
      obtain ⟨firstPlaced, later⟩ := List.forall_mem_cons.mp placed
      obtain ⟨slot, atFree⟩ := firstPlaced free
      obtain ⟨next, moved⟩ : Ends (Build.wrapping.add slot.element.byteOffset slot.byteSize :
          Attempt Nat) := ends_add _ _
      rw [List.cons_append, machineArrange, atFree, ok_bind, moved, ok_bind, ih later, error_bind]

/-- The slots of a layout are its arrangement. -/
theorem build_eq_map (convention : Convention) (reserve : Reserve)
    (declarations : List Declaration) (alignment : Nat) :
    build convention reserve declarations alignment =
      (arrange reserve 0 declarations).map fun arranged =>
        { convention, slots := arranged.1, byteSize := roundUp arranged.2 alignment } := by
  rw [build]
  cases arrange reserve 0 declarations with
  | error error => rfl
  | ok arranged => rfl

/-- Whether a list of declarations ends a computation at its first flawed declaration, and
nowhere else. -/
structure EndsAtFirst (flaws : Flaws) (declarations : List Declaration)
    (result : Attempt Layout) : Prop where
  accepted : (∃ layout, result = .ok layout) ↔ ∀ declaration ∈ declarations,
    flaws.Clear declaration
  refused : ∀ stop, result = .error stop ↔
    ∃ before declaration after, declarations = before ++ declaration :: after ∧
      (∀ earlier ∈ before, flaws.Clear earlier) ∧ flaws declaration stop

/-- Where the flaws are the failures of the reservations, the clear declarations are
those that get one. -/
theorem clear_iff (failures : ∀ declaration error, reserve declaration = .error error ↔
    flaws declaration error) (declaration : Declaration) :
    flaws.Clear declaration ↔ ∃ reservation, reserve declaration = .ok reservation := by
  cases reserved : reserve declaration with
  | error error =>
      have flawed : flaws declaration error := (failures declaration error).mp reserved
      constructor
      · intro clear
        exact absurd flawed (clear error)
      · rintro ⟨reservation, impossible⟩
        cases impossible
  | ok reservation =>
      constructor
      · intro clear
        exact ⟨reservation, rfl⟩
      · intro accepted error flawed
        cases reserved.symm.trans ((failures declaration error).mpr flawed)

/-- A computation ends at the first flaw if it goes on past every declaration that gets a
reservation and stops at one that gets none. -/
theorem endsAtFirst_of_reserve {declarations : List Declaration} {result : Attempt Layout}
    (failures : ∀ declaration stop, reserve declaration = .error stop ↔ flaws declaration stop)
    (built : (∀ declaration ∈ declarations, Ends (reserve declaration)) → Ends result)
    (stopped : ∀ before declaration after stop, declarations = before ++ declaration :: after →
      (∀ earlier ∈ before, Ends (reserve earlier)) → reserve declaration = .error stop →
        result = .error stop) :
    EndsAtFirst flaws declarations result := by
  have clear := clear_iff failures
  -- The whole list gets its reservations, or there is a first declaration that does not.
  rcases all_ok_or_first_error reserve declarations with
    all | ⟨before, declaration, after, first, split, reserved, refused⟩
  · obtain ⟨layout, ends⟩ := built all
    constructor
    · exact iff_of_true ⟨layout, ends⟩ fun declaration member =>
        (clear declaration).mpr (all declaration member)
    · intro stop
      refine iff_of_false (fun failed => nomatch ends.symm.trans failed) ?_
      rintro ⟨before, declaration, after, rfl, -, flawed⟩
      exact (clear declaration).mpr (all declaration (by simp)) stop flawed
  · have failed : result = .error first := stopped before declaration after first split reserved
      refused
    constructor
    · refine iff_of_false (fun ⟨layout, ends⟩ => nomatch ends.symm.trans failed) fun all => ?_
      exact all declaration (by simp [split]) first ((failures declaration first).mp refused)
    · intro stop
      constructor
      · intro failed'
        cases failed.symm.trans failed'
        exact ⟨before, declaration, after, split, fun earlier member =>
          (clear earlier).mpr (reserved earlier member),
          (failures declaration first).mp refused⟩
      · rintro ⟨before', declaration', after', split', clearBefore, flawed⟩
        exact stopped before' declaration' after' stop split' (fun earlier member =>
          (clear earlier).mp (clearBefore earlier member))
          ((failures declaration' stop).mpr flawed)

/-- What follows in a list does not move what was placed before it. -/
theorem machineArrange_append {build : Build} {place : Placement}
    {front back : List Declaration} {slots : List Slot} {free finish : Nat}
    (arranged : machineArrange build place free (front ++ back) = .ok (slots, finish)) :
    ∃ first middle second, slots = first ++ second ∧
      machineArrange build place free front = .ok (first, middle) ∧
      machineArrange build place middle back = .ok (second, finish) := by
  induction front generalizing free slots with
  | nil => exact ⟨[], free, slots, rfl, rfl, arranged⟩
  | cons declaration front ih =>
      rw [List.cons_append, machineArrange] at arranged
      obtain ⟨slot, placed, arranged⟩ := bind_eq_ok arranged
      obtain ⟨next, moved, arranged⟩ := bind_eq_ok arranged
      obtain ⟨⟨later, laterFinish⟩, arrangedLater, same⟩ := bind_eq_ok arranged
      cases same
      obtain ⟨first, middle, second, rfl, arrangedFront, arrangedBack⟩ := ih arrangedLater
      refine ⟨slot :: first, middle, second, rfl, ?_, arrangedBack⟩
      rw [machineArrange, placed, ok_bind, moved, ok_bind, arrangedFront]
      rfl

/-- What is known of the failures of a layout, and of placing one declaration after a
first free byte: without checks if the declarations are light, and in every build as long
as no operation overflows. -/
structure FailsAtFirst (flaws : Flaws) (light : Declaration → Prop)
    (layoutOf : Build → List Declaration → Attempt Layout) (place : Build → Placement) : Prop where
  unchecked : ∀ declarations, (∀ declaration ∈ declarations, light declaration) →
    EndsAtFirst flaws declarations (layoutOf .wrapping declarations)
  fitting : ∀ build declarations, ¬ Overflows (layoutOf .checked declarations) →
    EndsAtFirst flaws declarations (layoutOf build declarations)
  /-- Whatever the first free byte is, placing a declaration stops for its flaw. -/
  uncheckedPlaced : ∀ declaration free stop, light declaration →
    (place .wrapping declaration free = .error stop ↔ flaws declaration stop)
  fittingPlaced : ∀ build declaration free stop, ¬ Overflows (place .checked declaration free) →
    (place build declaration free = .error stop ↔ flaws declaration stop)
  /-- Declarations that follow do not move the slots of earlier ones, even if sizes
  overflow. -/
  kept : ∀ build front back part whole, layoutOf build front = .ok part →
    layoutOf build (front ++ back) = .ok whole → part.slots <+: whole.slots

/-- As long as nothing overflows, a layout ends at the first flaw in every build. -/
theorem endsAtFirst_of_fits {place : Build → Placement}
    (failures : ∀ declaration stop, reserve declaration = .error stop ↔ flaws declaration stop)
    (places : Places place reserve) {convention : Convention} {alignment : Nat}
    {declarations : List Declaration}
    (fits : ¬ Overflows (machineBuild .checked convention (place .checked) declarations alignment))
    (build : Build) :
    EndsAtFirst flaws declarations
      (machineBuild build convention (place build) declarations alignment) := by
  rw [(places.follows_build convention declarations alignment).eq_of_not_overflows fits,
    build_eq_map]
  apply endsAtFirst_of_reserve failures
  · intro reserved
    obtain ⟨arranged, isArranged⟩ := arrange_of_reserved reserved 0
    exact ⟨_, map_eq_ok_iff.mpr ⟨arranged, isArranged, rfl⟩⟩
  · rintro before declaration after stop rfl reserved refused
    exact map_eq_error_iff.mpr (arrange_of_refused reserved refused 0)

/-- Without checks a layout ends at the first flaw, if placing fails as reserving does. -/
theorem endsAtFirst_of_failsAlike {place : Placement}
    (failures : ∀ declaration stop, reserve declaration = .error stop ↔ flaws declaration stop)
    {declarations : List Declaration}
    (alike : ∀ declaration ∈ declarations, ∀ free,
      FailsAlike (place declaration free) (reserve declaration))
    (convention : Convention) (alignment : Nat) :
    EndsAtFirst flaws declarations
      (machineBuild .wrapping convention place declarations alignment) := by
  apply endsAtFirst_of_reserve failures
  · intro reserved
    have arranged : Ends (machineArrange .wrapping place 0 declarations) :=
      ends_machineArrange (fun declaration member free =>
        (alike declaration member free).ends_iff.mpr (reserved declaration member)) 0
    exact arranged.bind fun arranged => (ends_roundUp _ _).bind fun byteSize => ⟨_, rfl⟩
  · rintro before declaration after stop rfl reserved refused
    rw [machineBuild, machineArrange_of_stopped, error_bind]
    · intro earlier member free
      exact (alike earlier (List.mem_append_left _ member) free).ends_iff.mpr
        (reserved earlier member)
    · intro free
      exact (alike declaration (by simp) free stop).mpr refused

/-- Slots that were placed stay where they are when declarations follow. -/
theorem slots_of_append {build : Build} {place : Placement} {convention : Convention}
    {alignment : Nat} {front back : List Declaration} {part whole : Layout}
    (built : machineBuild build convention place front alignment = .ok part)
    (builtWhole : machineBuild build convention place (front ++ back) alignment = .ok whole) :
    part.slots <+: whole.slots := by
  obtain ⟨finish, arranged⟩ := machineArrange_of_machineBuild built
  obtain ⟨wholeFinish, arrangedWhole⟩ := machineArrange_of_machineBuild builtWhole
  obtain ⟨first, middle, second, same, arrangedFront, -⟩ := machineArrange_append arrangedWhole
  cases arranged.symm.trans arrangedFront
  rw [same]
  exact List.prefix_append _ second

/-- A layout fails at the first flaw if the flaws are the failures of the
reservations. -/
theorem failsAtFirst_of_reserve {place : Build → Placement} {light : Declaration → Prop}
    (failures : ∀ declaration stop, reserve declaration = .error stop ↔ flaws declaration stop)
    (places : Places place reserve)
    (alike : ∀ declaration free, light declaration →
      FailsAlike (place .wrapping declaration free) (reserve declaration))
    (convention : Convention) (alignment : Nat) :
    FailsAtFirst flaws light
      (fun build declarations =>
        machineBuild build convention (place build) declarations alignment) place := by
  constructor
  case unchecked =>
      intro declarations allLight
      exact endsAtFirst_of_failsAlike failures (fun declaration member free =>
        alike declaration free (allLight declaration member)) convention alignment
  case fitting =>
      intro build declarations fits
      exact endsAtFirst_of_fits failures places fits build
  case uncheckedPlaced =>
      intro declaration free stop isLight
      exact (alike declaration free isLight stop).trans (failures declaration stop)
  case fittingPlaced =>
      intro build declaration free stop fits
      rw [(places declaration free).eq_of_not_overflows fits, map_eq_error_iff, failures]
  case kept =>
      intro build front back part whole built builtWhole
      exact slots_of_append built builtWhole

end Layout

/-! ## Single declarations -/

namespace BaseSizes

variable {table : BaseSizes} {declaration : Declaration} {error : Stop LayoutError}

theorem flaw_of_reserve (refused : table.reserve declaration = .error error) :
    table.Flaw declaration error := by
  rw [reserve] at refused
  split at refused
  · rename_i without
    cases refused
    exact .empty without
  · rename_i present
    split at refused
    · rename_i unknown
      cases refused
      exact .unsupported present unknown
    · rename_i base known
      rw [map_eq_error_iff, byteSize] at refused
      split at refused
      · rename_i array
        rw [map_eq_error_iff, rowPatternOf] at refused
        have ruling := table.rowPattern_ruling declaration.name declaration.type
          declaration.count declaration.value.count
        rw [refused] at ruling
        cases ruling with
        | empty without => exact absurd without present
        | unsupported _ unknown => cases unknown.symm.trans known
        | uneven _ known uneven =>
            exact .uneven (Declaration.one_lt_count_of_isArray array) known uneven
      · rename_i single
        split at refused
        · rename_i zero
          cases refused
          cases zero
          exact .zeroSize (Declaration.count_eq_one_of_not_isArray present single) known
        · cases refused

theorem Flaw.reserve (flaw : table.Flaw declaration error) :
    table.reserve declaration = .error error := by
  cases flaw with
  | empty without => rw [BaseSizes.reserve, if_pos without]
  | unsupported present unknown => rw [BaseSizes.reserve, if_neg present, unknown]
  | uneven array known uneven =>
      have present : declaration.count ≠ 0 := by omega
      have isArray : declaration.isArray = true := decide_eq_true array
      have ruling := table.rowPattern_ruling declaration.name declaration.type
        declaration.count declaration.value.count
      rw [BaseSizes.reserve, if_neg present, known]
      dsimp only
      rw [map_eq_error_iff, byteSize, if_pos isArray, map_eq_error_iff, rowPatternOf]
      exact ruling.unique (.uneven present known uneven)
  | zeroSize single zero =>
      have present : declaration.count ≠ 0 := by omega
      have notArray : ¬ declaration.isArray = true := fun array =>
        absurd (Declaration.one_lt_count_of_isArray array) (by omega)
      rw [BaseSizes.reserve, if_neg present, zero]
      dsimp only
      rw [byteSize, if_neg notArray]
      rfl

theorem reserve_eq_error_iff (declaration : Declaration) (error : Stop LayoutError) :
    table.reserve declaration = .error error ↔ table.Flaw declaration error :=
  ⟨flaw_of_reserve, Flaw.reserve⟩

end BaseSizes

namespace AlignSizes

variable {table : AlignSizes} {declaration : Declaration} {error : Stop LayoutError}

/-- The rows of an array of a known type can only fail for the type of its columns. -/
theorem rowPattern_eq_error_iff {name : String} {type : ShaderType} {count : Nat}
    {entry : AlignSize} (present : count ≠ 0) (known : table.alignSize? type = some entry) :
    table.rowPattern name type count = .error error ↔
      ∃ columns rows, type = .matrix columns rows ∧
        table.alignSize? (.vector .f32 rows) = none ∧
        .refused (.unsupportedType name (.vector .f32 rows) .wgsl) = error := by
  rw [rowPattern, if_neg present, known]
  rcases type with kind | ⟨kind, length⟩ | ⟨columns, rows⟩
  · simp [entryRow, known]
  · simp [entryRow, known]
  · cases column : table.alignSize? (.vector .f32 rows) with
    | none => simp [entryRow, column]
    | some row => simp [entryRow, column]

theorem flaw_of_reserve (refused : table.reserve declaration = .error error) :
    table.Flaw declaration error := by
  rw [reserve] at refused
  split at refused
  · rename_i without
    cases refused
    exact .empty without
  · rename_i present
    split at refused
    · rename_i unknown
      cases refused
      exact .unsupported present unknown
    · rename_i entry known
      rw [map_eq_error_iff, byteSize] at refused
      split at refused
      · rename_i array
        rw [map_eq_error_iff, rowPatternOf, rowPattern_eq_error_iff present known] at refused
        obtain ⟨columns, rows, matrix, unknown, rfl⟩ := refused
        exact .noColumn (Declaration.one_lt_count_of_isArray array) matrix known unknown
      · cases refused

theorem Flaw.reserve (flaw : table.Flaw declaration error) :
    table.reserve declaration = .error error := by
  cases flaw with
  | empty without => rw [AlignSizes.reserve, if_pos without]
  | unsupported present unknown => rw [AlignSizes.reserve, if_neg present, unknown]
  | @noColumn columns rows entry array matrix known unknown =>
      have present : declaration.count ≠ 0 := by omega
      have isArray : declaration.isArray = true := decide_eq_true array
      rw [AlignSizes.reserve, if_neg present, known]
      dsimp only
      rw [map_eq_error_iff, byteSize, if_pos isArray, map_eq_error_iff, rowPatternOf,
        rowPattern_eq_error_iff present known]
      exact ⟨columns, rows, matrix, unknown, rfl⟩

theorem reserve_eq_error_iff (declaration : Declaration) (error : Stop LayoutError) :
    table.reserve declaration = .error error ↔ table.Flaw declaration error :=
  ⟨flaw_of_reserve, Flaw.reserve⟩

end AlignSizes

/-! ## Both conventions -/

/-- Under both conventions and with any size table a layout fails at the first flawed
declaration of its list: in every build if nothing overflows, and without checks in any case,
except that a std140 sample must have fewer components than a word has rows of sixteen
bytes. -/
theorem Layout.machineLayouts_fail_at_first_flaw (sizes : BaseSizes) (aligns : AlignSizes) :
    FailsAtFirst sizes.Flaw (fun declaration => 16 * declaration.value.count < wordCount)
        sizes.machineLayout sizes.machinePlace ∧
      FailsAtFirst aligns.Flaw (fun _ => True) aligns.machineLayout aligns.machinePlace :=
  ⟨failsAtFirst_of_reserve BaseSizes.reserve_eq_error_iff sizes.machinePlace_places
      (fun _ free light => sizes.machinePlace_failsAlike light free) .std140 blockAlignment,
    failsAtFirst_of_reserve AlignSizes.reserve_eq_error_iff aligns.machinePlace_places
      (fun _ free _ => aligns.machinePlace_failsAlike free) .wgsl blockAlignment⟩

/-- Nothing is wrong with an array whose sample has as many components as a word has rows of
sixteen bytes, but a build without checks is left with no byte of it to divide by. -/
theorem BaseSizes.endlessArray_divides_by_zero {declaration : Declaration}
    (type : declaration.type = .vector .f32 4) (count : declaration.count = 2 ^ 60)
    (sample : declaration.value.count = 2 ^ 60) :
    Flaws.Clear standard.Flaw declaration ∧
      standard.machinePlace .wrapping declaration 0 = .error (.fault .noRemainder) := by
  have known : standard.baseSize? declaration.type = some 16 := type ▸ rfl
  have present : declaration.count ≠ 0 := by omega
  have array : declaration.isArray = true := decide_eq_true (by omega)
  have even : ¬ Uneven (2 ^ 60) 16 (2 ^ 60) := by
    rw [uneven_iff]
    decide
  constructor
  · intro stop flaw
    cases flaw with
    | empty without => exact present without
    | unsupported _ unknown => cases known.symm.trans unknown
    | uneven _ known' uneven =>
        cases known.symm.trans known'
        rw [count, sample] at uneven
        exact even uneven
    | zeroSize single zero => omega
  · have noBytes : standard.machineByteSize .wrapping declaration 16 = .ok 0 := by
      have rows (name : String) :
          standard.rowPattern name (.vector .f32 4) (2 ^ 60) (2 ^ 60) = .ok ⟨2 ^ 60, 1, 3⟩ := rfl
      rw [machineByteSize, if_pos array, machineRowPatternOf, machineRowPattern_eq_bind, type,
        count, sample, rows]
      decide
    rw [machinePlace, if_neg present, known]
    dsimp only
    rw [noBytes]
    rfl

/-- An array of more entries than a word can hold the bytes of. -/
def AlignSizes.longArray : Declaration :=
  ⟨"samples", .scalar .f32, 2 ^ 62, .flat []⟩

/-- Nothing is wrong with the array, yet a build with checks cannot lay it out. -/
theorem AlignSizes.longArray_overflows :
    Flaws.Clear standard.Flaw longArray ∧
      standard.machineLayout .checked [longArray] = .error (.fault (.overflow .multiply)) := by
  refine ⟨?_, by decide⟩
  intro stop flaw
  cases flaw with
  | empty without => cases without
  | unsupported present unknown => cases unknown
  | noColumn array matrix known unknown => cases matrix

end UniformBlock
