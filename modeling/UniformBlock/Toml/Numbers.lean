import UniformBlock.Number.Decimal
import UniformBlock.Toml.Reader
import UniformBlock.Toml.Value

/-!
# TOML numbers, dates and times

Integers fit in 64 bits with a sign and may be hexadecimal, octal or binary;
floats are rounded to 64 bits.  Dates and times are checked for their ranges.
-/

namespace UniformBlock.Toml

open Number

/-! ## Integers -/

/-- The integer value, if it fits in 64 bits. -/
def integer? (value : Int) : Option Value :=
  if -Int.pow 2 63 ≤ value ∧ value < Int.pow 2 63 then some (.integer value) else none

/-- Take an integer of the given radix, after its mark. -/
def readRadix (radix : Nat) (isDigit : Char → Bool) : Reader Value := fun chars =>
  (readDigits isDigit chars).bind fun (digits, rest) =>
    (integer? (radixValue radix digits)).map fun value => (value, rest)

/-! ## Decimal numbers -/

/-- Take the digits before the point.  A zero stands alone. -/
def readWhole : Reader (List Char)
  | '0' :: rest => some (['0'], rest)
  | rest => readDigits Char.isDigit rest

/-- Take a signed exponent, after its mark. -/
def readExponent : Reader Int := fun chars =>
  let (negative, rest) := Decimal.readSign chars
  (readDigits Char.isDigit rest).map fun (digits, rest) =>
    let value : Int := digitsValue digits
    (if negative then -value else value, rest)

/-- Take an exponent if there is one. -/
def readExponent? : Reader (Option Int)
  | mark :: rest =>
      if mark = 'e' ∨ mark = 'E' then
        (readExponent rest).map fun (exponent, rest) => (some exponent, rest)
      else
        some (none, mark :: rest)
  | [] => some (none, [])

/-- The float nearest to a decimal number.  A number beyond the largest float is
refused unless it is negative. -/
def float? (decimal : Decimal) : Option Value :=
  match decimal.round BinaryFormat.binary64 with
  | .infinity false => none
  | value => some (.float value)

/-- Take a decimal number after its sign: a float if it has a fraction or an
exponent, and an integer otherwise. -/
def readDecimal (negative : Bool) : Reader Value := fun chars => do
  let (whole, rest) ← readWhole chars
  match rest with
  | '.' :: rest =>
      let (fraction, rest) ← readDigits Char.isDigit rest
      let (exponent, rest) ← readExponent? rest
      let value ← float?
        { negative, coefficient := digitsValue (whole ++ fraction)
          exponent := exponent.getD 0 - fraction.length }
      return (value, rest)
  | rest =>
      let (exponent, rest) ← readExponent? rest
      let coefficient := digitsValue whole
      match exponent with
      | some exponent => return (← float? { negative, coefficient, exponent }, rest)
      | none => return (← integer? (if negative then -coefficient else coefficient), rest)

/-- Take a number after its sign. -/
def readSigned (negative : Bool) : Reader Value
  | 'i' :: 'n' :: 'f' :: rest => some (.float (.infinity negative), rest)
  | 'n' :: 'a' :: 'n' :: rest => some (.float .nan, rest)
  | rest => readDecimal negative rest

/-! ## Dates and times -/

/-- Take a number of the given count of digits. -/
def readFixed (places : Nat) : Reader Nat := fun chars =>
  let digits := chars.take places
  if digits.length = places ∧ digits.all Char.isDigit then
    some (digitsValue digits, chars.drop places)
  else
    none

/-- The number of days of a month. -/
def daysOf (year month : Nat) : Nat :=
  if month = 2 then
    if year % 4 = 0 ∧ (year % 100 ≠ 0 ∨ year % 400 = 0) then 29 else 28
  else if month = 4 ∨ month = 6 ∨ month = 9 ∨ month = 11 then 30
  else 31

/-- Take an hour and a minute. -/
def readClock (chars : List Char) : Option (List Char) := do
  let (hour, rest) ← readFixed 2 chars
  let rest ← expect ':' rest
  let (minute, rest) ← readFixed 2 rest
  if hour ≤ 23 ∧ minute ≤ 59 then some rest else none

/-- Take a fraction of a second if there is one. -/
def skipFraction : List Char → List Char
  | '.' :: digit :: rest =>
      if digit.isDigit then rest.dropWhile Char.isDigit else '.' :: digit :: rest
  | rest => rest

/-- Take a time of day. -/
def readTime (chars : List Char) : Option (List Char) := do
  let rest ← readClock chars
  let rest ← expect ':' rest
  let (second, rest) ← readFixed 2 rest
  if second ≤ 60 then some (skipFraction rest) else none

/-- Take the offset of a time zone if there is one. -/
def readZone : List Char → Option (List Char)
  | 'Z' :: rest => some rest
  | 'z' :: rest => some rest
  | '+' :: rest => readClock rest
  | '-' :: rest => readClock rest
  | rest => some rest

/-- Whether a text starts with an hour and a colon. -/
def startsTime (chars : List Char) : Bool :=
  match readFixed 2 chars with
  | some (hour, ':' :: _) => hour ≤ 23
  | _ => false

/-- Whether a text starts with a year and a hyphen. -/
def startsDate (chars : List Char) : Bool :=
  match readFixed 4 chars with
  | some (_, '-' :: _) => true
  | _ => false

/-- Take a time of day that follows a date, and its zone, if there is one. -/
def readTimeAfterDate : List Char → Option (List Char)
  | mark :: rest =>
      if (mark = 'T' ∨ mark = 't' ∨ mark = ' ') ∧ startsTime rest then
        (readTime rest).bind readZone
      else
        some (mark :: rest)
  | [] => some []

/-- Take a date, and the time that follows it. -/
def readDate (chars : List Char) : Option (List Char) := do
  let (year, rest) ← readFixed 4 chars
  let rest ← expect '-' rest
  let (month, rest) ← readFixed 2 rest
  let rest ← expect '-' rest
  let (day, rest) ← readFixed 2 rest
  if 1 ≤ month ∧ month ≤ 12 ∧ 1 ≤ day ∧ day ≤ daysOf year month then readTimeAfterDate rest
  else none

/-! ## All of them -/

/-- Take a number, a date or a time. -/
def readNumber : Reader Value
  | '+' :: rest => readSigned false rest
  | '-' :: rest => readSigned true rest
  | '0' :: 'x' :: rest => readRadix 16 isHexDigit rest
  | '0' :: 'o' :: rest => readRadix 8 (fun char => '0' ≤ char && char ≤ '7') rest
  | '0' :: 'b' :: rest => readRadix 2 (fun char => char = '0' || char = '1') rest
  | rest =>
      if startsDate rest then (readDate rest).map fun rest => (.moment, rest)
      else if startsTime rest then (readTime rest).map fun rest => (.moment, rest)
      else readSigned false rest

end UniformBlock.Toml
