/-!
# File trees

A tree of files as a value: what stands at each absolute path, and the
directory from which relative paths start.
-/

namespace ParamSql

inductive FileEntry
  | directory
  | file (content : List UInt8)
deriving DecidableEq

structure FileTree where
  workingDirectory : List String
  /-- Entries by absolute path; the directories above them are there, too. -/
  entries : List (List String × FileEntry)

namespace FileTree

def standsAt? (t : FileTree) (path : List String) : Option FileEntry :=
  match t.entries.lookup path with
  | some e => some e
  | none =>
    if path.isPrefixOf t.workingDirectory || t.entries.any (fun e => path.isPrefixOf e.1) then
      some .directory
    else none

/-- Follow the steps of a path; each has to start from a directory. -/
def walk? (t : FileTree) : (here : List String) → (steps : List String) → Option (List String)
  | here, [] => some here
  | here, step :: steps =>
    if t.standsAt? here ≠ some .directory then none
    else if step = "" ∨ step = "." then walk? t here steps
    else if step = ".." then walk? t here.dropLast steps
    else walk? t (here ++ [step]) steps

/-- What a path leads to; an empty path leads nowhere. -/
def find? (t : FileTree) (path : String) : Option FileEntry :=
  if path = "" then none
  else
    let start := if path.startsWith "/" then [] else t.workingDirectory
    (t.walk? start (path.splitOn "/")).bind t.standsAt?

end FileTree

end ParamSql
