/-!
# Binary rounding

Floating-point values as exact data, and the rounding of an exact quotient to
the nearest value of a binary format.  A tie goes to the even mantissa, and a
result beyond the largest finite value becomes an infinity.  All arithmetic is
on natural numbers, so nothing depends on the host's floating point.
-/

namespace UniformBlock.Number

/-- A floating-point value.  A finite one is the real number
`mantissa * 2 ^ exponent` with a sign, so that both zeros are kept apart. -/
inductive FloatValue where
  | nan
  | infinity (negative : Bool)
  | finite (negative : Bool) (mantissa : Nat) (exponent : Int)
  deriving DecidableEq, Repr

/-- A binary format: its finite values are `m * 2 ^ e` with `m < 2 ^ precision`,
`minExponent ≤ e` and magnitude below `2 ^ limit`. -/
structure BinaryFormat where
  precision : Nat
  minExponent : Int
  limit : Nat
  deriving DecidableEq, Repr

namespace BinaryFormat

/-- The 32-bit interchange format. -/
def binary32 : BinaryFormat :=
  { precision := 24, minExponent := -149, limit := 128 }

/-- The 64-bit interchange format. -/
def binary64 : BinaryFormat :=
  { precision := 53, minExponent := -1074, limit := 1024 }

end BinaryFormat

/-- `2 ^ exponent` as a quotient of natural numbers. -/
def powerOfTwo (exponent : Int) : Nat × Nat :=
  (Nat.pow 2 exponent.toNat, Nat.pow 2 (-exponent).toNat)

/-- The quotient rounded to the nearest natural number, a tie to the even one. -/
def roundQuotient (numerator denominator : Nat) : Nat :=
  let quotient := numerator / denominator
  let twice := 2 * (numerator % denominator)
  if denominator < twice ∨ (twice = denominator ∧ quotient % 2 = 1) then quotient + 1
  else quotient

/-- The greatest `e` with `2 ^ e ≤ numerator / denominator`, for a positive
quotient. -/
def floorLog2 (numerator denominator : Nat) : Int :=
  let estimate := (numerator.log2 : Int) - denominator.log2
  let (up, down) := powerOfTwo estimate
  if numerator * down < denominator * up then estimate - 1 else estimate

namespace BinaryFormat

/-- The exponent of the last mantissa bit for values near a positive quotient. -/
def unitExponent (format : BinaryFormat) (numerator denominator : Nat) : Int :=
  max format.minExponent (floorLog2 numerator denominator + 1 - format.precision)

/-- The format's value nearest to a quotient with a positive denominator. -/
def round (format : BinaryFormat) (negative : Bool) (numerator denominator : Nat) : FloatValue :=
  if numerator = 0 then
    .finite negative 0 format.minExponent
  else
    let exponent := format.unitExponent numerator denominator
    let (up, down) := powerOfTwo exponent
    let mantissa := roundQuotient (numerator * down) (denominator * up)
    if (format.limit : Int) ≤ mantissa.log2 + exponent then .infinity negative
    else .finite negative mantissa exponent

/-- The format's value nearest to another floating-point value. -/
def roundValue (format : BinaryFormat) : FloatValue → FloatValue
  | .nan => .nan
  | .infinity negative => .infinity negative
  | .finite negative mantissa exponent =>
      let (up, down) := powerOfTwo exponent
      format.round negative (mantissa * up) down

/-- The format's value nearest to an integer. -/
def roundInt (format : BinaryFormat) (value : Int) : FloatValue :=
  format.round (value < 0) value.natAbs 1

end BinaryFormat

end UniformBlock.Number
