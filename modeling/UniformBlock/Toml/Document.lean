import UniformBlock.Toml.Numbers
import UniformBlock.Toml.Strings
import UniformBlock.Toml.Table

/-!
# TOML documents

A document is a sequence of sections: a header and the assignments below it.
Reading first takes the statements off the text and then defines the tables in
order, so that a syntax error and a table that is defined twice both refuse the
document.
-/

namespace UniformBlock.Toml

/-- Dotted keys have fewer names than this, and values are nested less deep. -/
def depthLimit : Nat :=
  80

/-! ## Keys -/

/-- Whether a character may stand in a key without quotes. -/
def isBare (char : Char) : Bool :=
  char.isAlphanum || char = '_' || char = '-'

/-- Take one name of a key. -/
def readName : Reader String := fun chars =>
  let bare := chars.takeWhile isBare
  if bare = [] then readLineString chars
  else some (String.ofList bare, chars.dropWhile isBare)

/-- Take the names of a dotted key, with spaces around each. -/
def readNames : Nat → Reader (List String)
  | 0, _ => none
  | limit + 1, chars => do
      let (name, rest) ← readName (skipSpaces chars)
      match skipSpaces rest with
      | '.' :: rest =>
          let (names, rest) ← readNames limit rest
          return (name :: names, rest)
      | rest => return ([name], rest)

/-- Take a key. -/
def readKey : Reader (List String) :=
  readNames (depthLimit - 1)

/-- Take a key, an equals sign and a value. -/
def readAssignment (value : Reader Value) : Reader (List String × Value) := fun chars => do
  let (path, rest) ← readKey chars
  let rest ← expect '=' rest
  let (value, rest) ← value (skipSpaces rest)
  return ((path, value), rest)

/-! ## Values -/

/-- Take a value that contains no other. -/
def readScalar : Reader Value
  | 't' :: 'r' :: 'u' :: 'e' :: rest => some (.truth true, rest)
  | 'f' :: 'a' :: 'l' :: 's' :: 'e' :: rest => some (.truth false, rest)
  | char :: rest =>
      if char = '"' ∨ char = '\'' then
        (readString (char :: rest)).map fun (content, rest) => (.text content, rest)
      else
        readNumber (char :: rest)
  | [] => none

/-- Take the items of an array and its closing bracket.  A comma may follow the
last item. -/
def readItems (value : Reader Value) : Nat → Reader (List Value)
  | 0, _ => none
  | fuel + 1, chars =>
      match skipLines false chars with
      | ']' :: rest => some ([], rest)
      | chars => do
          let (item, rest) ← value chars
          match skipLines false rest with
          | ']' :: rest => return ([item], rest)
          | ',' :: rest =>
              let (items, rest) ← readItems value fuel rest
              return (item :: items, rest)
          | _ => none

/-- Take the assignments of an inline table that is not empty, and its closing
brace. -/
def readFields (value : Reader Value) : Nat → Reader (List (List String × Value))
  | 0, _ => none
  | fuel + 1, chars => do
      let (assignment, rest) ← readAssignment value chars
      match skipSpaces rest with
      | '\x7d' :: rest => return ([assignment], rest)
      | ',' :: rest =>
          let (assignments, rest) ← readFields value fuel rest
          return (assignment :: assignments, rest)
      | _ => none

/-- Take an inline table after its opening brace. -/
def readInlineTable (value : Reader Value) : Reader Value := fun chars =>
  match skipSpaces chars with
  | '\x7d' :: rest => some (.table [], rest)
  | chars => do
      let (assignments, rest) ← readFields value chars.length chars
      let nodes ← Nodes.assignAll [] assignments
      return (.table (Node.finishEntries nodes), rest)

/-- Take a value that is nested at most so deep. -/
def readValue : Nat → Reader Value
  | 0, chars => readScalar chars
  | depth + 1, chars =>
      match chars with
      | '[' :: rest =>
          (readItems (readValue depth) chars.length rest).map fun (items, rest) =>
            (.array items, rest)
      | '\x7b' :: rest => readInlineTable (readValue depth) rest
      | chars => readScalar chars

/-! ## Statements -/

/-- One line of a document that says something. -/
inductive Statement where
  /-- The header of a table. -/
  | table (path : List String)
  /-- The header of a new element of an array of tables. -/
  | element (path : List String)
  | assignment (path : List String) (value : Value)

/-- Take a header after its opening brackets; it closes with as many. -/
def readHeader (brackets : Nat) : Reader (List String) := fun chars => do
  let (path, rest) ← readKey chars
  let rest ← (List.replicate brackets ']').foldlM (fun rest bracket => expect bracket rest) rest
  return (path, ← readLineEnd rest)

/-- Take one statement, with the end of its line. -/
def readStatement : Reader Statement
  | '[' :: '[' :: rest => (readHeader 2 rest).map fun (path, rest) => (.element path, rest)
  | '[' :: rest => (readHeader 1 rest).map fun (path, rest) => (.table path, rest)
  | rest => do
      let ((path, value), rest) ← readAssignment (readValue (depthLimit - 1)) rest
      return (.assignment path value, ← readLineEnd rest)

/-- Read the statements of a document. -/
def readStatements : Nat → List Char → Option (List Statement)
  | 0, _ => none
  | fuel + 1, chars =>
      match skipSpaces chars with
      | [] => some []
      | '\n' :: rest => readStatements fuel rest
      | '\r' :: '\n' :: rest => readStatements fuel rest
      | '#' :: rest => (readLineEnd ('#' :: rest)).bind (readStatements fuel)
      | chars => do
          let (statement, rest) ← readStatement chars
          return statement :: (← readStatements fuel rest)

/-! ## Sections -/

/-- The assignments at the front of some statements. -/
def leadingAssignments : List Statement → List (List String × Value)
  | .assignment path value :: rest => (path, value) :: leadingAssignments rest
  | _ => []

/-- Define the tables of all headers in order; assignments belong to the header
above them. -/
def defineSections (nodes : Nodes) : List Statement → Option Nodes
  | [] => some nodes
  | .table path :: rest =>
      (nodes.atPath (Nodes.define (leadingAssignments rest)) path).bind fun nodes =>
        defineSections nodes rest
  | .element path :: rest =>
      (nodes.atPath (Nodes.append (leadingAssignments rest)) path).bind fun nodes =>
        defineSections nodes rest
  | .assignment _ _ :: rest => defineSections nodes rest

/-- The text without a byte order mark in front. -/
def dropByteOrderMark : List Char → List Char
  | '\ufeff' :: rest => rest
  | rest => rest

/-- Read a document as one table. -/
def parse (text : String) : Option Entries := do
  let chars := dropByteOrderMark text.toList
  let statements ← readStatements (chars.length + 1) chars
  let root ← Nodes.assignAll [] (leadingAssignments statements)
  return Node.finishEntries (← defineSections root statements)

end UniformBlock.Toml
