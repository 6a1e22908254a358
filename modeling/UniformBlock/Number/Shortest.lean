import UniformBlock.Number.Rounding

/-!
# Shortest decimal form

The decimal number with the fewest digits that still reads back as a given
binary value, and of those the one nearest to the value; an exact tie goes to
the greater.  For each number of digits only the two neighbours of the value on
that decimal grid can qualify, so both are tested against the interval of reals
that round to the value.
-/

namespace UniformBlock.Number

/-- A positive decimal number by its digits, the first of which has the weight
`10 ^ exponent`. -/
structure DigitString where
  digits : List Char
  exponent : Int
  deriving DecidableEq, Repr

/-- A positive real and the interval of reals that round to it, all over one
denominator.  The ends belong to the interval when `closed` holds. -/
structure RoundingInterval where
  lower : Nat
  value : Nat
  upper : Nat
  denominator : Nat
  closed : Bool
  deriving DecidableEq, Repr

namespace RoundingInterval

/-- The reals that round to `mantissa * 2 ^ exponent`.  Below a power of two the
neighbouring value is only half as far away, except at the least exponent. -/
def ofFinite (format : BinaryFormat) (mantissa : Nat) (exponent : Int) : RoundingInterval :=
  let (up, down) := powerOfTwo (exponent - 2)
  let narrow := mantissa = Nat.pow 2 (format.precision - 1) ∧ format.minExponent < exponent
  { lower := (4 * mantissa - if narrow then 1 else 2) * up
    value := 4 * mantissa * up
    upper := (4 * mantissa + 2) * up
    denominator := down
    closed := mantissa % 2 = 0 }

/-- Whether the quotient `point / scale` rounds to the value. -/
def holds (interval : RoundingInterval) (point scale : Nat) : Bool :=
  let lower := interval.lower * scale
  let upper := interval.upper * scale
  let point := point * interval.denominator
  if interval.closed then lower ≤ point && point ≤ upper else lower < point && point < upper

/-- The exponent of the first decimal digit of the value. -/
def decimalExponent (interval : RoundingInterval) : Int :=
  let digits := Nat.toDigits 10 (interval.value / interval.denominator)
  let reachesOne (places : Nat) : Bool :=
    interval.denominator ≤ interval.value * Nat.pow 10 places
  let places := ((List.range (interval.denominator.log2 + 2)).find? reachesOne).getD 0
  if places = 0 then (digits.length : Int) - 1 else -(places : Int)

/-- The multiple of `10 ^ unit` nearest to the value among its two neighbours
that round to it, given as a number of units. -/
def onGrid? (interval : RoundingInterval) (unit : Int) : Option Nat :=
  let up := Nat.pow 10 unit.toNat
  let down := Nat.pow 10 (-unit).toNat
  let below := interval.value * down / (interval.denominator * up)
  let rest := interval.value * down % (interval.denominator * up)
  let lowerFits := 0 < below && interval.holds (below * up) down
  let upperFits := interval.holds ((below + 1) * up) down
  if upperFits && (!lowerFits || interval.denominator * up ≤ 2 * rest) then some (below + 1)
  else if lowerFits then some below
  else none

/-- The shortest decimal form of the value, sought among forms of at most
`limit` digits. -/
def shortest (interval : RoundingInterval) (limit : Nat) : DigitString :=
  let first := interval.decimalExponent
  let atPlaces (places : Nat) : Option (Nat × Int) :=
    (interval.onGrid? (first - places)).map fun units => (units, first - places)
  let (units, unit) := ((List.range limit).findSome? atPlaces).getD (0, 0)
  let digits := Nat.toDigits 10 units
  { digits := (digits.reverse.dropWhile (· == '0')).reverse
    exponent := unit + digits.length - 1 }

end RoundingInterval

end UniformBlock.Number
