import UniformBlock.Number.Decimal

/-!
# 32-bit floating-point words

A buffer holds 32-bit words.  A word is compared and copied by its bits, so a
NaN keeps its payload and the two zeros stay apart; its numeric value matters
only where a number is read or written.
-/

namespace UniformBlock

open Number

/-- A 32-bit floating-point number, given by its bits. -/
structure Binary32 where
  bits : UInt32
  deriving DecidableEq, Repr, Inhabited

namespace Binary32

/-- Positive zero. -/
def zero : Binary32 :=
  ⟨0⟩

/-- The number one. -/
def one : Binary32 :=
  ⟨0x3F800000⟩

/-- The number that a word stands for. -/
def value (word : Binary32) : FloatValue :=
  let code := word.bits.toNat
  let negative := decide (Nat.pow 2 31 ≤ code)
  let exponent : Nat := code / Nat.pow 2 23 % Nat.pow 2 8
  let fraction : Nat := code % Nat.pow 2 23
  if exponent = 255 then
    if fraction = 0 then .infinity negative else .nan
  else if exponent = 0 then
    .finite negative fraction (-149)
  else
    .finite negative (Nat.pow 2 23 + fraction) ((exponent : Int) - 150)

/-- Whether a word stands for no number. -/
def isNaN (word : Binary32) : Bool :=
  word.value == .nan

/-- The word of a value that the format holds exactly.  Adding the mantissa to
the exponent field places its leading bit and any carry. -/
def encode : FloatValue → Binary32
  | .nan => ⟨0x7FC00000⟩
  | .infinity negative => ⟨if negative then 0xFF800000 else 0x7F800000⟩
  | .finite negative mantissa exponent =>
      let sign : Nat := if negative then Nat.pow 2 31 else 0
      ⟨UInt32.ofNat (sign + (exponent + 149).toNat * Nat.pow 2 23 + mantissa)⟩

/-- The word nearest to a floating-point value. -/
def ofValue (value : FloatValue) : Binary32 :=
  encode (BinaryFormat.binary32.roundValue value)

/-- The word nearest to an integer. -/
def ofInt (value : Int) : Binary32 :=
  encode (BinaryFormat.binary32.roundInt value)

/-- The word of a decimal number that is rounded to 64 bits first. -/
def ofDecimal (decimal : Decimal) : Binary32 :=
  ofValue (decimal.round BinaryFormat.binary64)

end Binary32

end UniformBlock
