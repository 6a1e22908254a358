import UniformBlock.Number.Rounding

/-!
# Decimal numbers

A decimal number as it is written, with its exact value: a sign, a coefficient
and a power of ten.  Reading accepts digits, an optional fraction and an
optional exponent; rounding gives the nearest value of a binary format.
-/

namespace UniformBlock.Number

/-- The number `coefficient * 10 ^ exponent` with a sign. -/
structure Decimal where
  negative : Bool
  coefficient : Nat
  exponent : Int
  deriving DecidableEq, Repr

/-- The number written by a run of decimal digits. -/
def digitsValue (digits : List Char) : Nat :=
  digits.foldl (fun value digit => value * 10 + (digit.toNat - '0'.toNat)) 0

namespace Decimal

/-- Read an optional sign; the flag says whether it is a minus. -/
def readSign : List Char → Bool × List Char
  | '-' :: rest => (true, rest)
  | '+' :: rest => (false, rest)
  | rest => (false, rest)

/-- Read `e` or `E` and a signed exponent that ends the text; no text at all is
the exponent zero. -/
def readExponent? : List Char → Option Int
  | [] => some 0
  | mark :: rest =>
      if mark = 'e' ∨ mark = 'E' then
        let (negative, digits) := readSign rest
        if digits ≠ [] ∧ digits.all Char.isDigit then
          let value : Int := digitsValue digits
          some (if negative then -value else value)
        else
          none
      else
        none

/-- Read a sign, digits, an optional fraction and an optional exponent. -/
def ofChars? (chars : List Char) : Option Decimal :=
  let (negative, body) := readSign chars
  let whole := body.takeWhile Char.isDigit
  let tail := body.dropWhile Char.isDigit
  let (fraction, tail) :=
    match tail with
    | '.' :: rest => (rest.takeWhile Char.isDigit, rest.dropWhile Char.isDigit)
    | rest => ([], rest)
  if whole = [] then
    none
  else
    (readExponent? tail).map fun exponent =>
      { negative, coefficient := digitsValue (whole ++ fraction),
        exponent := exponent - fraction.length }

/-- The format's value nearest to a decimal number.  A magnitude whose power of
ten alone exceeds the range of the format is settled without computing it. -/
def round (format : BinaryFormat) (decimal : Decimal) : FloatValue :=
  let digits : Int := (Nat.toDigits 10 decimal.coefficient).length
  if decimal.coefficient = 0 then
    .finite decimal.negative 0 format.minExponent
  else if (format.limit : Int) < digits + decimal.exponent then
    .infinity decimal.negative
  else if digits + decimal.exponent < format.minExponent then
    .finite decimal.negative 0 format.minExponent
  else
    format.round decimal.negative (decimal.coefficient * Nat.pow 10 decimal.exponent.toNat)
      (Nat.pow 10 (-decimal.exponent).toNat)

end Decimal

end UniformBlock.Number
