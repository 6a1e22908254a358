/-!
# Readers

A reader takes a value from the front of a text and leaves the rest.  This
module holds what every part of a TOML document shares: spaces, comments, line
ends and runs of digits.
-/

namespace UniformBlock.Toml

/-- Take a value from the front of a text, or refuse the text. -/
abbrev Reader (Result : Type) :=
  List Char → Option (Result × List Char)

/-- Take one expected character. -/
def expect (char : Char) : List Char → Option (List Char)
  | first :: rest => if first = char then some rest else none
  | [] => none

/-- Whether a character may stand in comments and strings: the tab and all but
the ASCII controls. -/
def isText (char : Char) : Bool :=
  char = '\t' || (0x20 ≤ char.toNat && char.toNat ≠ 0x7F)

/-- Whether a character is a space or a tab. -/
def isSpace (char : Char) : Bool :=
  char = ' ' || char = '\t'

/-- Skip spaces and tabs. -/
def skipSpaces (chars : List Char) : List Char :=
  chars.dropWhile isSpace

/-- Take a line feed, with or without a carriage return before it. -/
def readNewline : List Char → Option (List Char)
  | '\n' :: rest => some rest
  | '\r' :: '\n' :: rest => some rest
  | _ => none

/-- Skip one comment. -/
def skipComment : List Char → List Char
  | '#' :: rest => rest.dropWhile isText
  | rest => rest

/-- Take what may follow on a line: spaces, a comment, and the end of the line or
of the document. -/
def readLineEnd (chars : List Char) : Option (List Char) :=
  match skipComment (skipSpaces chars) with
  | [] => some []
  | rest => readNewline rest

/-- Skip spaces, line ends and comments; the flag tells whether a comment is
going on. -/
def skipLines (comment : Bool) : List Char → List Char
  | '\n' :: rest => skipLines false rest
  | '\r' :: '\n' :: rest => skipLines false rest
  | char :: rest =>
      if comment && isText char then skipLines true rest
      else if isSpace char then skipLines false rest
      else if char = '#' then skipLines true rest
      else char :: rest
  | [] => []

/-- Take the digits that follow a digit; a single underscore may stand before
each of them. -/
def readMoreDigits (isDigit : Char → Bool) : Reader (List Char)
  | '_' :: digit :: rest =>
      if isDigit digit then
        (readMoreDigits isDigit rest).map fun (digits, rest) => (digit :: digits, rest)
      else
        none
  | char :: rest =>
      if isDigit char then
        (readMoreDigits isDigit rest).map fun (digits, rest) => (char :: digits, rest)
      else if char = '_' then none
      else some ([], char :: rest)
  | [] => some ([], [])

/-- Take a run of digits with single underscores between them. -/
def readDigits (isDigit : Char → Bool) : Reader (List Char)
  | char :: rest =>
      if isDigit char then
        (readMoreDigits isDigit rest).map fun (digits, rest) => (char :: digits, rest)
      else
        none
  | [] => none

/-- The number that a hexadecimal digit stands for. -/
def digitValue (digit : Char) : Nat :=
  if digit.isDigit then digit.toNat - '0'.toNat
  else if 'a' ≤ digit then digit.toNat - 'a'.toNat + 10
  else digit.toNat - 'A'.toNat + 10

/-- The number that digits of a radix stand for. -/
def radixValue (radix : Nat) (digits : List Char) : Nat :=
  digits.foldl (fun value digit => value * radix + digitValue digit) 0

/-- Whether a character is a hexadecimal digit. -/
def isHexDigit (char : Char) : Bool :=
  char.isDigit || ('a' ≤ char && char ≤ 'f') || ('A' ≤ char && char ≤ 'F')

end UniformBlock.Toml
