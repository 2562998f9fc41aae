import ParamSql.KeyedList
import ParamSql.Toml.Basic

/-!
# Settings trees

How the lines of a settings text build its values. A table that is opened
stays open only in ways the format allows: it is defined once, a table made by
a dotted key is not given a header of its own, and what stands in braces is
finished where it stands.
-/

namespace ParamSql.Toml

/-- How a table came to be. -/
inductive Origin
  /-- Defined under a header of its own. -/
  | header
  /-- Passed through on the way to a table with a header. -/
  | passed
  /-- Made by a dotted key. -/
  | dotted
deriving DecidableEq

/-- A tree under construction. -/
inductive Node
  /-- A finished value. -/
  | value (v : Value)
  | table (origin : Origin) (entries : List (String × Node))
  /-- Tables under one repeated header; the last of them is open. -/
  | tables (finished : List (List (String × Node))) (current : List (String × Node))

abbrev Entries := List (String × Node)

mutual

/-- The value of a tree. -/
def Node.finish : Node → Value
  | .value v => v
  | .table _ entries => .table (finishEntries entries)
  | .tables finished last => .list (finishTables finished ++ [.table (finishEntries last)])

def finishEntries : List (String × Node) → List (String × Value)
  | [] => []
  | (key, node) :: rest => (key, node.finish) :: finishEntries rest

def finishTables : List (List (String × Node)) → List Value
  | [] => []
  | entries :: rest => .table (finishEntries entries) :: finishTables rest

end

namespace Entries

/-- Put a node under a key, in the place of the one it had. -/
def put (key : String) (node : Node) (entries : Entries) : Entries :=
  replaceOrAppend Prod.fst (key, node) entries

/-- Add a value under a dotted key. Tables on the way are made as needed. The
way does not lead through a table that a header defined, except the last under
a repeated header, and the table that takes the value is made by dotted keys
itself. -/
def insertValue (v : Value) : (path : List String) → Entries → Option Entries
  | [], _ => none
  | [key], entries =>
    if (entries.lookup key).isSome then none else some (put key (.value v) entries)
  | key :: path, entries =>
    match entries.lookup key with
    | none => (insertValue v path []).map fun inner => put key (.table .dotted inner) entries
    | some (.table origin inner) =>
      if origin = .header ∨ (origin = .passed ∧ path.length = 1) then none
      else (insertValue v path inner).map fun inner => put key (.table origin inner) entries
    | some (.tables finished last) =>
      if path.length = 1 then none
      else (insertValue v path last).map fun last => put key (.tables finished last) entries
    | some (.value _) => none

/-- Change what stands under the last key of a path, through the open tables
on the way to it. -/
def update (change : Option Node → Option Node) : (path : List String) → Entries → Option Entries
  | [], _ => none
  | [key], entries => (change (entries.lookup key)).map fun node => put key node entries
  | key :: path, entries =>
    match entries.lookup key with
    | none => (update change path []).map fun inner => put key (.table .passed inner) entries
    | some (.table origin inner) =>
      (update change path inner).map fun inner => put key (.table origin inner) entries
    | some (.tables finished last) =>
      (update change path last).map fun last => put key (.tables finished last) entries
    | some (.value _) => none

/-- Define a table by its header, which at most has been passed through. -/
def defineTable : List String → Entries → Option Entries :=
  update fun
    | none => some (.table .header [])
    | some (.table .passed inner) => some (.table .header inner)
    | some _ => none

/-- Begin the next of the tables under one header. -/
def beginTable : List String → Entries → Option Entries :=
  update fun
    | none => some (.tables [] [])
    | some (.tables finished last) => some (.tables (finished ++ [last]) [])
    | some _ => none

/-- Add a value under a dotted key of the table that a header opened. -/
def insertUnder (header path : List String) (v : Value) (entries : Entries) : Option Entries :=
  if header = [] then insertValue v path entries
  else update (fun
    | some (.table origin inner) => (insertValue v path inner).map (.table origin ·)
    | some (.tables finished last) => (insertValue v path last).map (.tables finished ·)
    | _ => none) header entries

end Entries

end ParamSql.Toml
