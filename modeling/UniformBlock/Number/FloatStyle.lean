import UniformBlock.Number.Shortest

/-!
# Text of floating-point values

How a value's shortest decimal form is laid out: with a plain decimal point
while the first digit's exponent lies in a given range, and with an exponent
otherwise.
-/

namespace UniformBlock.Number

/-- The choices that a decimal format makes. -/
structure FloatStyle where
  /-- The least first-digit exponent written with a plain point. -/
  leastPlain : Int
  /-- The greatest first-digit exponent written with a plain point. -/
  greatestPlain : Int
  nan : String
  infinity : String
  deriving DecidableEq, Repr

namespace DigitString

/-- The number with a plain decimal point and at least one digit on each side
of it. -/
def plain (number : DigitString) : List Char :=
  if number.exponent < 0 then
    ['0', '.'] ++ List.replicate ((-number.exponent).toNat - 1) '0' ++ number.digits
  else
    let places := number.exponent.toNat + 1
    let whole := number.digits.take places
    let fraction := number.digits.drop places
    whole ++ List.replicate (places - whole.length) '0' ++ ['.'] ++
      if fraction = [] then ['0'] else fraction

/-- The number with one digit before the point and an exponent; the point is
left out when nothing follows it. -/
def scientific (number : DigitString) : List Char :=
  let fraction := number.digits.drop 1
  number.digits.take 1 ++ (if fraction = [] then [] else '.' :: fraction) ++
    ['e'] ++ (toString number.exponent).toList

end DigitString

namespace FloatStyle

/-- The magnitude of a finite value: zero is `0.0`, any other value its shortest
decimal form. -/
def magnitude (style : FloatStyle) (format : BinaryFormat) (mantissa : Nat)
    (exponent : Int) : List Char :=
  if mantissa = 0 then
    ['0', '.', '0']
  else
    let number :=
      (RoundingInterval.ofFinite format mantissa exponent).shortest format.precision
    if style.leastPlain ≤ number.exponent ∧ number.exponent ≤ style.greatestPlain then
      number.plain
    else
      number.scientific

/-- The text of a value of a binary format. -/
def write (style : FloatStyle) (format : BinaryFormat) : FloatValue → String
  | .nan => style.nan
  | .infinity negative => (if negative then "-" else "") ++ style.infinity
  | .finite negative mantissa exponent =>
      (if negative then "-" else "") ++
        String.ofList (style.magnitude format mantissa exponent)

end FloatStyle

end UniformBlock.Number
