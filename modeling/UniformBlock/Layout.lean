import UniformBlock.Alignment
import UniformBlock.Declaration
import UniformBlock.Error

/-!
# Block layouts

A layout places every declared uniform at a byte offset of one block.  A
convention says how many bytes a declaration takes and where it may start after
a given offset; arranging a list then goes through it once from the first free
byte on.
-/

namespace UniformBlock

/-- A placed uniform and the number of bytes that belong to it. -/
structure Slot where
  element : Element
  byteSize : Nat
  deriving DecidableEq, Repr

namespace Slot

/-- The first byte after the slot. -/
def finish (slot : Slot) : Nat :=
  slot.element.byteOffset + slot.byteSize

end Slot

/-- The layout of one block. -/
structure Layout where
  convention : Convention
  slots : List Slot
  /-- The size of the whole block in bytes. -/
  byteSize : Nat
  deriving DecidableEq, Repr

namespace Layout

/-- The placed uniforms, in declaration order. -/
def elements (layout : Layout) : List Element :=
  layout.slots.map Slot.element

/-- The number of floats that a buffer for the block needs. -/
def floatCount (layout : Layout) : Nat :=
  layout.byteSize / 4

end Layout

/-- The bytes that a declaration takes, and where they start when a given offset
is the first free one. -/
structure Reservation where
  byteSize : Nat
  start : Nat → Nat

/-- How a convention reserves bytes for a declaration. -/
abbrev Reserve :=
  Declaration → Attempt Reservation

namespace Reservation

/-- Give a declaration its place after the first free byte. -/
def place (reservation : Reservation) (declaration : Declaration) (free : Nat) : Slot :=
  { element := { declaration with byteOffset := reservation.start free }
    byteSize := reservation.byteSize }

@[simp]
theorem place_toDeclaration (reservation : Reservation) (declaration : Declaration) (free : Nat) :
    (reservation.place declaration free).element.toDeclaration = declaration :=
  rfl

end Reservation

namespace Layout

/-- Place declarations one after the other from the first free byte on.  The
result also tells the first byte after the last slot. -/
def arrange (reserve : Reserve) (free : Nat) :
    List Declaration → Attempt (List Slot × Nat)
  | [] => .ok ([], free)
  | declaration :: rest =>
      match reserve declaration with
      | .error error => .error error
      | .ok reservation =>
          let slot := reservation.place declaration free
          match arrange reserve slot.finish rest with
          | .error error => .error error
          | .ok (slots, finish) => .ok (slot :: slots, finish)

/-- The layout of a list of declarations.  The block ends on a multiple of its
alignment. -/
def build (convention : Convention) (reserve : Reserve) (declarations : List Declaration)
    (alignment : Nat) : Attempt Layout :=
  match arrange reserve 0 declarations with
  | .error error => .error error
  | .ok (slots, finish) => .ok { convention, slots, byteSize := roundUp finish alignment }

end Layout

end UniformBlock
