import ParamSql.Toml.Scalar

/-!
# Reading settings texts

A settings text is lines of headers and of keys with their values. Each reader
takes what it reads off the front of a text and returns the rest; a text that
is malformed anywhere has no value.
-/

namespace ParamSql.Toml

abbrev Reader (α : Type) := List Char → Option (α × List Char)

/-- Characters that comments and texts cannot hold. -/
def isControl (c : Char) : Bool := (c.toNat < 0x20 && c != '\t') || c.toNat == 0x7f

def skipBlanks (cs : List Char) : List Char := cs.dropWhile fun c => c == ' ' || c == '\t'

/-- A line break in front. -/
def takeLineBreak? : List Char → Option (List Char)
  | '\n' :: cs => some cs
  | '\x0d' :: '\n' :: cs => some cs
  | _ => none

/-- Drop a comment up to the end of its line. -/
def skipComment? : List Char → Option (List Char)
  | '#' :: cs =>
    let rest := cs.dropWhile fun c => !isControl c
    if rest = [] ∨ (takeLineBreak? rest).isSome then some rest else none
  | cs => some cs

/-- Drop blanks, comments and line breaks. -/
def skipLines? : (fuel : Nat) → List Char → Option (List Char)
  | 0, _ => none
  | fuel + 1, cs =>
    (skipComment? (skipBlanks cs)).bind fun rest =>
      match takeLineBreak? rest with
      | some more => skipLines? fuel more
      | none => some rest

/-- What may follow on a line: blanks, a comment, and the end of the line. -/
def endLine? (cs : List Char) : Option (List Char) :=
  (skipComment? (skipBlanks cs)).bind fun rest =>
    if rest = [] then some [] else takeLineBreak? rest

/-- A character given by hexadecimal digits. -/
def takeCodePoint? (width : Nat) (cs : List Char) : Option (Char × List Char) :=
  let ds := cs.take width
  let n := valueInBase 16 ds
  if ds.length = width ∧ ds.all (isDigitOf 16) ∧ n.isValidChar then
    some (Char.ofNat n, cs.drop width)
  else none

/-- A character behind a backslash. -/
def takeEscape? : List Char → Option (Char × List Char)
  | 'b' :: cs => some ('\x08', cs)
  | 't' :: cs => some ('\t', cs)
  | 'n' :: cs => some ('\n', cs)
  | 'f' :: cs => some ('\x0c', cs)
  | 'r' :: cs => some ('\x0d', cs)
  | 'e' :: cs => some ('\x1b', cs)
  | '"' :: cs => some ('"', cs)
  | '\\' :: cs => some ('\\', cs)
  | 'x' :: cs => takeCodePoint? 2 cs
  | 'u' :: cs => takeCodePoint? 4 cs
  | 'U' :: cs => takeCodePoint? 8 cs
  | _ => none

/-- Drop blanks and line breaks. -/
def skipSpace : List Char → List Char
  | '\x0d' :: '\n' :: cs => skipSpace cs
  | c :: cs => if c = ' ' ∨ c = '\t' ∨ c = '\n' then skipSpace cs else c :: cs
  | [] => []

/-- Drop blanks and line breaks behind a backslash at the end of a line. -/
def skipContinuation? (cs : List Char) : Option (List Char) :=
  (takeLineBreak? (skipBlanks cs)).map skipSpace

/-- The rest of a text in one line, up to its closing quote. -/
def takeQuoted? (quote : Char) (escapes : Bool) : (fuel : Nat) → Reader (List Char)
  | 0, _ => none
  | _ + 1, [] => none
  | fuel + 1, c :: cs =>
    if c = quote then some ([], cs)
    else if escapes ∧ c = '\\' then
      (takeEscape? cs).bind fun (d, rest) =>
        (takeQuoted? quote escapes fuel rest).map fun (ds, rest) => (d :: ds, rest)
    else if isControl c then none
    else (takeQuoted? quote escapes fuel cs).map fun (ds, rest) => (c :: ds, rest)

/-- The rest of a text in several lines. It ends at three quotes, and up to two
more in front of them belong to it. -/
def takeQuotedLines? (quote : Char) (escapes : Bool) : (fuel : Nat) → Reader (List Char)
  | 0, _ => none
  | _ + 1, [] => none
  | fuel + 1, c :: cs =>
    if c = quote then
      let run := (c :: cs).takeWhile (· = quote)
      let rest := (c :: cs).drop run.length
      if run.length < 3 then
        (takeQuotedLines? quote escapes fuel rest).map fun (ds, rest) => (run ++ ds, rest)
      else if run.length ≤ 5 then some (run.drop 3, rest)
      else none
    else if escapes ∧ c = '\\' then
      match skipContinuation? cs with
      | some rest => takeQuotedLines? quote escapes fuel rest
      | none =>
        (takeEscape? cs).bind fun (d, rest) =>
          (takeQuotedLines? quote escapes fuel rest).map fun (ds, rest) => (d :: ds, rest)
    else match takeLineBreak? (c :: cs) with
      | some rest =>
        let lineBreak := (c :: cs).take (cs.length + 1 - rest.length)
        (takeQuotedLines? quote escapes fuel rest).map fun (ds, rest) => (lineBreak ++ ds, rest)
      | none =>
        if isControl c then none
        else (takeQuotedLines? quote escapes fuel cs).map fun (ds, rest) => (c :: ds, rest)

/-- A text between quotes; three of them begin a text of several lines, and a
line break right behind those is dropped. -/
def takeText? (severalLines : Bool) : Reader String
  | c :: cs =>
    if c = '"' ∨ c = '\x27' then
      let escapes : Bool := c == '"'
      if [c, c].isPrefixOf cs ∧ severalLines then
        let body := cs.drop 2
        (takeQuotedLines? c escapes (body.length + 1) ((takeLineBreak? body).getD body)).map
          fun (ds, rest) => (String.ofList ds, rest)
      else
        (takeQuoted? c escapes (cs.length + 1) cs).map fun (ds, rest) => (String.ofList ds, rest)
    else none
  | [] => none

def isBareKeyCharacter (c : Char) : Bool := c.isAlphanum || c == '_' || c == '-'

def takeSimpleKey? (cs : List Char) : Option (String × List Char) :=
  let name := cs.takeWhile isBareKeyCharacter
  if name ≠ [] then some (String.ofList name, cs.drop name.length) else takeText? false cs

/-- How many lists and tables may be open at a time, and how many parts a key
may have. -/
def mostNested : Nat := 80

/-- The parts of a key, with dots between them. -/
def takeKeyParts? : (fuel : Nat) → Reader (List String)
  | 0, _ => none
  | fuel + 1, cs =>
    (takeSimpleKey? (skipBlanks cs)).bind fun (part, rest) =>
      match skipBlanks rest with
      | '.' :: more => (takeKeyParts? fuel more).map fun (parts, rest) => (part :: parts, rest)
      | rest => some ([part], rest)

def takeKey? (cs : List Char) : Option (List String × List Char) :=
  (takeKeyParts? (cs.length + 1) cs).filter (·.1.length ≤ mostNested)

/-- Characters that end a word. -/
def isDelimiter (c : Char) : Bool :=
  c ∈ ['.', '=', ',', '[', ']', '\x7b', '\x7d', ' ', '\t', '#', '\x0d', '\n']

/-- Whether a word begins with this character; within a word quotes may stand. -/
def beginsWord (c : Char) : Bool := !isDelimiter c && c != '"' && c != '\x27'

/-- A run of words with dots among them, and with blanks in front of words;
`inWord` tells whether a word is open. -/
def takeWords (inWord : Bool) : List Char → List Char × List Char
  | [] => ([], [])
  | c :: cs =>
    let next := (skipBlanks (c :: cs)).head?
    if c = '.' then
      let (run, rest) := takeWords false cs
      (c :: run, rest)
    else if (c = ' ' ∨ c = '\t') ∧ next.any beginsWord then
      let (run, rest) := takeWords false cs
      (c :: run, rest)
    else if beginsWord c ∨ (inWord ∧ !isDelimiter c) then
      let (run, rest) := takeWords true cs
      (c :: run, rest)
    else ([], c :: cs)

def takeScalar? (cs : List Char) : Option (Value × List Char) :=
  let (run, rest) := takeWords false cs
  (scalar? run).map fun v => (v, rest)

mutual

/-- A value in which at most `depth` lists and tables are open at a time. -/
def takeValue? : (fuel depth : Nat) → Reader Value
  | 0, _, _ => none
  | fuel + 1, depth, cs =>
    match cs, depth with
    | '"' :: _, _ | '\x27' :: _, _ => (takeText? true cs).map fun (s, rest) => (.text s, rest)
    | '[' :: _, 0 | '\x7b' :: _, 0 => none
    | '[' :: more, depth + 1 =>
      (takeItems? fuel depth more).map fun (items, rest) => (.list items, rest)
    | '\x7b' :: more, depth + 1 =>
      (takeEntries? fuel depth [] more).map fun (entries, rest) =>
        (.table (finishEntries entries), rest)
    | _, _ => takeScalar? cs

/-- The items of a list up to its closing bracket; a comma may follow the last. -/
def takeItems? : (fuel depth : Nat) → Reader (List Value)
  | 0, _, _ => none
  | fuel + 1, depth, cs =>
    (skipLines? (cs.length + 1) cs).bind fun cs =>
      match cs with
      | ']' :: rest => some ([], rest)
      | _ => (takeValue? fuel depth cs).bind fun (item, rest) =>
        (skipLines? (rest.length + 1) rest).bind fun rest =>
          match rest with
          | ',' :: rest =>
            (takeItems? fuel depth rest).map fun (items, rest) => (item :: items, rest)
          | ']' :: rest => some ([item], rest)
          | _ => none

/-- The entries of a table in braces; a comma may follow the last. Lines may
end anywhere but within a key. -/
def takeEntries? : (fuel depth : Nat) → Entries → Reader Entries
  | 0, _, _, _ => none
  | fuel + 1, depth, entries, cs =>
    (skipLines? (cs.length + 1) cs).bind fun cs =>
      match cs with
      | '\x7d' :: rest => some (entries, rest)
      | _ => (takeKey? cs).bind fun (path, rest) =>
        (skipLines? (rest.length + 1) rest).bind fun rest =>
          match rest with
          | '=' :: rest =>
            (skipLines? (rest.length + 1) rest).bind fun rest =>
              (takeValue? fuel depth rest).bind fun (v, rest) =>
                (entries.insertValue v path).bind fun entries =>
                  (skipLines? (rest.length + 1) rest).bind fun rest =>
                    match rest with
                    | ',' :: rest => takeEntries? fuel depth entries rest
                    | '\x7d' :: rest => some (entries, rest)
                    | _ => none
          | _ => none

end

/-- The tree so far and the header of the table that lines add to. -/
structure Progress where
  entries : Entries := []
  header : List String := []

/-- A header in single or double brackets. -/
def takeHeader? (p : Progress) (cs : List Char) : Option (Progress × List Char) :=
  match cs with
  | '[' :: '[' :: cs =>
    (takeKey? cs).bind fun (path, rest) =>
      match rest with
      | ']' :: ']' :: rest =>
        (p.entries.beginTable path).map fun entries => (⟨entries, path⟩, rest)
      | _ => none
  | '[' :: cs =>
    (takeKey? cs).bind fun (path, rest) =>
      match rest with
      | ']' :: rest => (p.entries.defineTable path).map fun entries => (⟨entries, path⟩, rest)
      | _ => none
  | _ => none

/-- A key and its value. -/
def takeKeyValue? (p : Progress) (cs : List Char) : Option (Progress × List Char) :=
  (takeKey? cs).bind fun (path, rest) =>
    match skipBlanks rest with
    | '=' :: rest =>
      (takeValue? (2 * rest.length + 2) mostNested (skipBlanks rest)).bind fun (v, rest) =>
        (p.entries.insertUnder p.header path v).map fun entries => ({ p with entries }, rest)
    | _ => none

/-- The lines of a text from `p` on. -/
def readLines? : (fuel : Nat) → Progress → List Char → Option Entries
  | 0, _, _ => none
  | fuel + 1, p, cs =>
    (skipLines? (cs.length + 1) cs).bind fun cs =>
      match cs with
      | [] => some p.entries
      | '[' :: _ =>
        (takeHeader? p cs).bind fun (p, rest) => (endLine? rest).bind (readLines? fuel p)
      | _ => (takeKeyValue? p cs).bind fun (p, rest) => (endLine? rest).bind (readLines? fuel p)

/-- The entries that a settings text defines; a byte order mark in front of it
is dropped. -/
def read? (text : String) : Option (List (String × Value)) :=
  let cs := match text.toList with
    | '\ufeff' :: cs => cs
    | cs => cs
  (readLines? (cs.length + 1) {} cs).map finishEntries

instance : TomlReader where
  read? := read?
  isReadable := Value.isReadable

end ParamSql.Toml
