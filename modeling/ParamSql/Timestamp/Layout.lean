import ParamSql.Binary64.Reading
import ParamSql.Text.Blank
import ParamSql.Timestamp.Spelling
import ParamSql.Timestamp.Text

/-!
# Layouts of timestamps

A format describes a layout, which is a list of items. Reading follows a
layout item by item, skipping blanks in front of each number, and accepts a
text only as a whole.
-/

namespace ParamSql.Timestamp

/-- One item of a layout. -/
inductive Item
  | year
  | month
  | day
  | hour
  | minute
  | second
  /-- An optional point and digits; those after the ninth are ignored. -/
  | fraction
  | literal (c : Char)
  /-- Any number of blanks, or none. -/
  | blanks
deriving DecidableEq

abbrev Layout := List Item

/-- The layout that a format describes. -/
def layoutOf : List Char → Layout
  | '%' :: 'Y' :: cs => .year :: layoutOf cs
  | '%' :: 'm' :: cs => .month :: layoutOf cs
  | '%' :: 'd' :: cs => .day :: layoutOf cs
  | '%' :: 'H' :: cs => .hour :: layoutOf cs
  | '%' :: 'M' :: cs => .minute :: layoutOf cs
  | '%' :: 'S' :: cs => .second :: layoutOf cs
  | '%' :: '.' :: 'f' :: cs => .fraction :: layoutOf cs
  | ' ' :: cs => .blanks :: layoutOf cs
  | c :: cs => .literal c :: layoutOf cs
  | [] => []

/-- The numbers read so far; second 60 stands for a leap second. -/
structure Parts where
  year : Int := 0
  month : Nat := 0
  day : Nat := 0
  hour : Option Nat := none
  minute : Option Nat := none
  second : Nat := 0
  nanosecond : Nat := 0

/-- Up to `most` digits in front, and what follows them. -/
def takeNumber? (most : Nat) (cs : List Char) : Option (Nat × List Char) :=
  let run := (cs.takeWhile Char.isDigit).take most
  if run = [] then none else some (digitsValue run, cs.drop run.length)

/-- A year of up to four digits, or of any number of them after a sign. -/
def takeYear? : List Char → Option (Int × List Char)
  | '-' :: cs => (takeNumber? cs.length cs).map fun (n, rest) => (-(n : Int), rest)
  | '+' :: cs => (takeNumber? cs.length cs).map fun (n, rest) => ((n : Int), rest)
  | cs => (takeNumber? 4 cs).map fun (n, rest) => ((n : Int), rest)

/-- A number of one or two digits behind blanks, at most `limit`. -/
def takeField? (limit : Nat) (cs : List Char) : Option (Nat × List Char) :=
  (takeNumber? 2 (Text.dropBlanks cs)).filter (·.1 ≤ limit)

/-- The nanoseconds that a point and digits denote. -/
def takeFraction? : List Char → Option (Nat × List Char)
  | '.' :: cs =>
    let run := cs.takeWhile Char.isDigit
    let nine := run.take 9
    if run = [] then none
    else some (digitsValue nine * Nat.pow 10 (9 - nine.length), cs.dropWhile Char.isDigit)
  | cs => some (0, cs)

/-- Read one item. -/
def Item.read? (item : Item) (cs : List Char) (p : Parts) : Option (Parts × List Char) :=
  match item with
  | .year => (takeYear? (Text.dropBlanks cs)).map fun (n, rest) => ({ p with year := n }, rest)
  | .month => (takeField? 12 cs).map fun (n, rest) => ({ p with month := n }, rest)
  | .day => (takeField? 31 cs).map fun (n, rest) => ({ p with day := n }, rest)
  | .hour => (takeField? 23 cs).map fun (n, rest) => ({ p with hour := some n }, rest)
  | .minute => (takeField? 59 cs).map fun (n, rest) => ({ p with minute := some n }, rest)
  | .second => (takeField? 60 cs).map fun (n, rest) => ({ p with second := n }, rest)
  | .fraction => (takeFraction? cs).map fun (n, rest) => ({ p with nanosecond := n }, rest)
  | .literal c => match cs with
    | d :: rest => if c = d then some (p, rest) else none
    | [] => none
  | .blanks => some (p, Text.dropBlanks cs)

/-- Read the items of a layout in turn; nothing may be left over. -/
def Layout.read? : Layout → List Char → Parts → Option Parts
  | [], cs, p => if cs = [] then some p else none
  | item :: layout, cs, p => (item.read? cs p).bind fun (p, rest) => Layout.read? layout rest p

/-- The timestamp that the numbers denote, if the date exists and there is a time. -/
def Parts.toTimestamp? (p : Parts) : Option Timestamp := do
  let hour ← p.hour
  let minute ← p.minute
  if p.second = 60 then
    ofParts? p.year p.month p.day hour minute 59 (1000000000 + p.nanosecond)
  else ofParts? p.year p.month p.day hour minute p.second p.nanosecond

def Parts.toDate? (p : Parts) : Option Calendar.Date :=
  if date : Calendar.IsDate p.year p.month p.day then some ⟨p.year, p.month, p.day, date⟩ else none

def readParts? (format text : String) : Option Parts :=
  (layoutOf format.toList).read? text.toList {}

instance : TimestampText where
  serialize t := t.spelling.text 'T'
  display t := t.spelling.text ' '
  read? format text := (readParts? format text).bind Parts.toTimestamp?
  readDate? format text := (readParts? format text).bind Parts.toDate?

end ParamSql.Timestamp
