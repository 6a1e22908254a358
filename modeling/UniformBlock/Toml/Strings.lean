import UniformBlock.Toml.Reader

/-!
# TOML strings

The four kinds of strings.  A basic string has escapes and a literal one does
not; each has a form for several lines, in which a line end counts as one line
feed and up to two quotes may stand together.
-/

namespace UniformBlock.Toml

/-- The character with a code point written in hexadecimal. -/
def codePoint? (digits : List Char) : Option Char :=
  let code := radixValue 16 digits
  if digits.all isHexDigit ∧ code.isValidChar then some (Char.ofNat code) else none

/-- The character that a letter stands for after a backslash. -/
def escaped? : Char → Option Char
  | 'b' => some '\x08'
  | 't' => some '\t'
  | 'n' => some '\n'
  | 'f' => some '\x0c'
  | 'r' => some '\r'
  | '"' => some '"'
  | '\\' => some '\\'
  | _ => none

/-- Put a character in front of what a reader took. -/
def prepend (char : Char) (result : Option (List Char × List Char)) :
    Option (List Char × List Char) :=
  result.map fun (chars, rest) => (char :: chars, rest)

/-- Take the rest of a basic string, up to its closing quote. -/
def readBasic : Reader (List Char)
  | [] => none
  | '"' :: rest => some ([], rest)
  | '\\' :: 'u' :: a :: b :: c :: d :: rest =>
      (codePoint? [a, b, c, d]).bind fun char => prepend char (readBasic rest)
  | '\\' :: 'U' :: a :: b :: c :: d :: e :: f :: g :: h :: rest =>
      (codePoint? [a, b, c, d, e, f, g, h]).bind fun char => prepend char (readBasic rest)
  | '\\' :: mark :: rest =>
      (escaped? mark).bind fun char => prepend char (readBasic rest)
  | char :: rest =>
      if isText char && char != '\\' then prepend char (readBasic rest) else none

/-- Take the rest of a literal string, up to its closing quote. -/
def readLiteral : Reader (List Char)
  | [] => none
  | '\'' :: rest => some ([], rest)
  | char :: rest => if isText char then prepend char (readLiteral rest) else none

/-- Take the quotes that still belong to a string after three closing ones: at
most two. -/
def readLastQuotes (quote : Char) : List Char → List Char × List Char
  | first :: second :: rest =>
      if first = quote ∧ second = quote then ([quote, quote], rest)
      else if first = quote then ([quote], second :: rest)
      else ([], first :: second :: rest)
  | [first] => if first = quote then ([quote], []) else ([], [first])
  | [] => ([], [])

/-- Whether a line ends after nothing but spaces. -/
def endsLine (chars : List Char) : Bool :=
  (readNewline (skipSpaces chars)).isSome

/-- Take the rest of a basic string of several lines.  The flag tells whether
blanks are being skipped after a backslash at the end of a line. -/
def readBasicLines (skipping : Bool) : Reader (List Char)
  | [] => none
  | '"' :: '"' :: '"' :: rest => some (readLastQuotes '"' rest)
  | '\n' :: rest =>
      if skipping then readBasicLines true rest else prepend '\n' (readBasicLines false rest)
  | '\r' :: '\n' :: rest =>
      if skipping then readBasicLines true rest else prepend '\n' (readBasicLines false rest)
  | '\\' :: 'u' :: a :: b :: c :: d :: rest =>
      (codePoint? [a, b, c, d]).bind fun char => prepend char (readBasicLines false rest)
  | '\\' :: 'U' :: a :: b :: c :: d :: e :: f :: g :: h :: rest =>
      (codePoint? [a, b, c, d, e, f, g, h]).bind fun char =>
        prepend char (readBasicLines false rest)
  | '\\' :: mark :: rest =>
      if endsLine (mark :: rest) then
        readBasicLines true (mark :: rest)
      else
        (escaped? mark).bind fun char => prepend char (readBasicLines false rest)
  | char :: rest =>
      if skipping && isSpace char then readBasicLines true rest
      else if isText char && char != '\\' then prepend char (readBasicLines false rest)
      else none

/-- Take the rest of a literal string of several lines. -/
def readLiteralLines : Reader (List Char)
  | [] => none
  | '\'' :: '\'' :: '\'' :: rest => some (readLastQuotes '\'' rest)
  | '\n' :: rest => prepend '\n' (readLiteralLines rest)
  | '\r' :: '\n' :: rest => prepend '\n' (readLiteralLines rest)
  | char :: rest => if isText char then prepend char (readLiteralLines rest) else none

/-- Drop a line end that directly follows the opening quotes. -/
def dropNewline (chars : List Char) : List Char :=
  (readNewline chars).getD chars

/-- Take a string on one line, as it may also stand for a key. -/
def readLineString : Reader String
  | '"' :: rest => (readBasic rest).map fun (chars, rest) => (String.ofList chars, rest)
  | '\'' :: rest => (readLiteral rest).map fun (chars, rest) => (String.ofList chars, rest)
  | _ => none

/-- Take a string of any kind. -/
def readString : Reader String
  | '"' :: '"' :: '"' :: rest =>
      (readBasicLines false (dropNewline rest)).map fun (chars, rest) =>
        (String.ofList chars, rest)
  | '\'' :: '\'' :: '\'' :: rest =>
      (readLiteralLines (dropNewline rest)).map fun (chars, rest) => (String.ofList chars, rest)
  | rest => readLineString rest

end UniformBlock.Toml
