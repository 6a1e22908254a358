import UniformBlock.Layout
import UniformBlock.RowPattern

/-!
# The layouts of both conventions

A std140 block is divided into rows of sixteen bytes.  A value that does not fit in what
is left of the current row starts on the next one; any other value starts at a multiple
of its own size within the row.  An array takes at least one row for each entry.

A WGSL value starts at the next multiple of its type's alignment.  The entries of an
array are spaced by the larger of size and alignment, and an array never takes less room
than its rows.
-/

namespace UniformBlock

/-! ## Fixed rows -/

namespace BaseSizes

/-- The bytes that a declaration with the given base size takes.  An array also
covers all the rows that are written for it. -/
def byteSize (table : BaseSizes) (declaration : Declaration) (baseSize : Nat) :
    Attempt Nat :=
  if declaration.isArray then
    (table.rowPatternOf declaration).map fun pattern =>
      max (max baseSize rowBytes * declaration.count) (roundUp (pattern.extent * 4) rowBytes)
  else if baseSize = 0 then
    .error (.fault .noRemainder)
  else
    .ok baseSize

/-- The room that must be left in a row for a value of the given size to start
there.  A vector of three needs as much as a vector of four. -/
def rowRoom (byteSize : Nat) : Nat :=
  if byteSize = 12 then 16 else byteSize

/-- Where a value of the given size starts when `free` is the first free byte. -/
def start (byteSize free : Nat) : Nat :=
  let used := free % rowBytes
  if 0 < used ∧ rowBytes - used < rowRoom byteSize then free + (rowBytes - used)
  else free + (byteSize - used % byteSize) % byteSize

/-- The bytes that a declaration reserves in a std140 block. -/
def reserve (table : BaseSizes) : Reserve := fun declaration =>
  if declaration.count = 0 then
    .error (.refused (.emptyArray declaration.name))
  else
    match table.baseSize? declaration.type with
    | none => .error (.refused (.unsupportedType declaration.name declaration.type .std140))
    | some baseSize =>
        (table.byteSize declaration baseSize).map fun byteSize =>
          { byteSize, start := start byteSize }

/-- The std140 layout of a list of declarations. -/
def layout (table : BaseSizes) (declarations : List Declaration) : Attempt Layout :=
  Layout.build .std140 table.reserve declarations blockAlignment

end BaseSizes

/-! ## Explicit size and alignment -/

namespace AlignSizes

/-- The bytes that a declaration of a type with the given size and alignment
takes. -/
def byteSize (table : AlignSizes) (declaration : Declaration) (entry : AlignSize) :
    Attempt Nat :=
  if declaration.isArray then
    (table.rowPatternOf declaration).map fun pattern =>
      max (max entry.size entry.align * declaration.count)
        (roundUp (pattern.extent * 4) entry.align)
  else
    .ok entry.size

/-- The bytes that a declaration reserves in a WGSL block. -/
def reserve (table : AlignSizes) : Reserve := fun declaration =>
  if declaration.count = 0 then
    .error (.refused (.emptyArray declaration.name))
  else
    match table.alignSize? declaration.type with
    | none => .error (.refused (.unsupportedType declaration.name declaration.type .wgsl))
    | some entry =>
        (table.byteSize declaration entry).map fun byteSize =>
          { byteSize, start := fun free => roundUp free entry.align }

/-- The WGSL layout of a list of declarations. -/
def layout (table : AlignSizes) (declarations : List Declaration) : Attempt Layout :=
  Layout.build .wgsl table.reserve declarations blockAlignment

end AlignSizes

end UniformBlock
