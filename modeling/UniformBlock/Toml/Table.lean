import UniformBlock.Keyed
import UniformBlock.Toml.Value

/-!
# TOML tables under construction

A TOML document defines its tables piece by piece, and most tables may be
defined only once.  While a document is read, each table therefore remembers how
it came to be, and the rules below say which later lines may still add to it.
-/

namespace UniformBlock.Toml

/-- How a table came to be. -/
inductive Origin where
  /-- By its own header, or as an inline table. -/
  | defined
  /-- By a dotted key that goes through it. -/
  | dotted
  /-- By the header of a table inside it. -/
  | implied
  deriving DecidableEq, Repr

/-- A value, a table that may still grow, or an array of tables. -/
inductive Node where
  | value (value : Value)
  | table (origin : Origin) (entries : List (String × Node))
  | tables (elements : List (List (String × Node)))

/-- The entries of a table under construction. -/
abbrev Nodes :=
  List (String × Node)

namespace Nodes

/-- Set the entry with a name. -/
def put (nodes : Nodes) (name : String) (node : Node) : Nodes :=
  Keyed.put Prod.fst (name, node) nodes

/-! ## Assignments -/

/-- Assign a value to a dotted key.  The key's tables are made as needed; tables
with a definition of their own are closed, and the last table on the way must
have come from a dotted key itself. -/
def assign (value : Value) : List String → Nodes → Option Nodes
  | [], _ => none
  | [name], nodes =>
      match nodes.lookup name with
      | none => some (nodes.put name (.value value))
      | some _ => none
  | name :: next :: rest, nodes =>
      match nodes.lookup name with
      | none => (assign value (next :: rest) []).map fun inner =>
          nodes.put name (.table .dotted inner)
      | some (.table origin inner) =>
          if origin = .defined ∨ (rest = [] ∧ origin ≠ .dotted) then
            none
          else
            (assign value (next :: rest) inner).map fun inner =>
              nodes.put name (.table origin inner)
      | some (.tables elements) =>
          if rest = [] then
            none
          else
            elements.getLast?.bind fun last =>
              (assign value (next :: rest) last).map fun last =>
                nodes.put name (.tables (elements.dropLast ++ [last]))
      | some (.value _) => none

/-- Assign values to dotted keys, one after the other. -/
def assignAll (nodes : Nodes) (assignments : List (List String × Value)) : Option Nodes :=
  assignments.foldlM (fun nodes (path, value) => nodes.assign value path) nodes

/-! ## Headers -/

/-- Define the table with a name.  Only a table that was merely implied may be
defined later, and it keeps what it holds. -/
def define (assignments : List (List String × Value)) (name : String) (nodes : Nodes) :
    Option Nodes :=
  match nodes.lookup name with
  | none => (assignAll [] assignments).map fun inner => nodes.put name (.table .defined inner)
  | some (.table .implied inner) =>
      (assignAll inner assignments).map fun inner => nodes.put name (.table .defined inner)
  | some _ => none

/-- Add a table to the array of tables with a name. -/
def append (assignments : List (List String × Value)) (name : String) (nodes : Nodes) :
    Option Nodes :=
  match nodes.lookup name with
  | none => (assignAll [] assignments).map fun inner => nodes.put name (.tables [inner])
  | some (.tables elements) =>
      (assignAll [] assignments).map fun inner => nodes.put name (.tables (elements ++ [inner]))
  | some _ => none

/-- Go to the table that holds the last name of a path and change it there.  The
tables on the way are implied as needed, and an array of tables stands for its
last element. -/
def atPath (change : String → Nodes → Option Nodes) : List String → Nodes → Option Nodes
  | [], _ => none
  | [name], nodes => change name nodes
  | name :: next :: rest, nodes =>
      match nodes.lookup name with
      | none => (atPath change (next :: rest) []).map fun inner =>
          nodes.put name (.table .implied inner)
      | some (.table origin inner) => (atPath change (next :: rest) inner).map fun inner =>
          nodes.put name (.table origin inner)
      | some (.tables elements) =>
          elements.getLast?.bind fun last =>
            (atPath change (next :: rest) last).map fun last =>
              nodes.put name (.tables (elements.dropLast ++ [last]))
      | some (.value _) => none

end Nodes

/-! ## Finished tables -/

mutual

/-- The value of a finished node. -/
def Node.finish : Node → Value
  | .value plain => plain
  | .table _ entries => .table (Node.finishEntries entries)
  | .tables elements => .array (Node.finishElements elements)

/-- The entries of a finished table. -/
def Node.finishEntries : List (String × Node) → Entries
  | [] => []
  | (name, node) :: rest => (name, node.finish) :: Node.finishEntries rest

/-- The items of a finished array of tables. -/
def Node.finishElements : List (List (String × Node)) → List Value
  | [] => []
  | entries :: rest => .table (Node.finishEntries entries) :: Node.finishElements rest

end

end UniformBlock.Toml
