import UniformBlock.Text.Combining
import UniformBlock.Text.Invisible

/-!
# Texts

How texts are trimmed, lined up in columns and quoted.  Blanks are the twenty-five
code points with the Unicode property `White_Space`.  The width of a column counts
characters, and a text that is already wide enough is left as it is.  A quoted text
stands between double quotes; a quote, a backslash and the usual controls are written
with a backslash, and a character that would not show by itself is written by its code
point.
-/

namespace UniformBlock.Text

/-! ## Blanks -/

/-- Whether a character has the Unicode property `White_Space`. -/
def isBlank (char : Char) : Bool :=
  let code := char.toNat
  (0x09 ≤ code && code ≤ 0x0D) || code == 0x20 || code == 0x85 || code == 0xA0 ||
    code == 0x1680 || (0x2000 ≤ code && code ≤ 0x200A) || code == 0x2028 ||
    code == 0x2029 || code == 0x202F || code == 0x205F || code == 0x3000

/-- The characters left once the blanks at both ends are removed. -/
def trim (chars : List Char) : List Char :=
  ((chars.dropWhile isBlank).reverse.dropWhile isBlank).reverse

@[simp]
theorem trim_nil : trim [] = [] :=
  rfl

/-! ## Columns -/

/-- A run of spaces. -/
def spaces (count : Nat) : String :=
  String.ofList (List.replicate count ' ')

/-- Fill with spaces on the left, so that texts line up at their ends. -/
def alignRight (width : Nat) (text : String) : String :=
  spaces (width - text.length) ++ text

/-- Fill with spaces on the right, so that texts line up at their starts. -/
def alignLeft (width : Nat) (text : String) : String :=
  text ++ spaces (width - text.length)

/-! ## Quotes -/

/-- A code point in lower-case hexadecimal, without leading zeros. -/
def hexadecimal (code : Nat) : List Char :=
  Nat.toDigits 16 code

/-- Whether a character may stand for itself between quotes.  The ASCII space
is the one separator that does. -/
def isPlain (char : Char) : Bool :=
  char == ' ' || !(isInvisible char || isCombining char)

/-- The form of one character between quotes. -/
def escape (char : Char) : List Char :=
  if char = '\x00' then ['\\', '0']
  else if char = '\t' then ['\\', 't']
  else if char = '\n' then ['\\', 'n']
  else if char = '\r' then ['\\', 'r']
  else if char = '"' then ['\\', '"']
  else if char = '\\' then ['\\', '\\']
  else if isPlain char then [char]
  else ['\\', 'u', '\x7b'] ++ hexadecimal char.toNat ++ ['\x7d']

/-- A text between double quotes. -/
def quote (text : String) : String :=
  String.ofList (['"'] ++ text.toList.flatMap escape ++ ['"'])

end UniformBlock.Text
