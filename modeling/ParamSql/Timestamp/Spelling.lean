import ParamSql.Timestamp.Basic

/-!
# Digits of timestamps

A timestamp is written as the digits of its numbers, with signs and marks between them.
-/

namespace ParamSql

/-- The digits of a date and a time of day. -/
structure Spelling where
  year : List Char
  month : List Char
  day : List Char
  hour : List Char
  minute : List Char
  second : List Char
  /-- Behind a point, which is not there without digits. -/
  fraction : List Char

namespace Spelling

/-- `year-month-day` -/
def dateText (s : Spelling) : List Char := s.year ++ '-' :: (s.month ++ '-' :: s.day)

/-- `hour:minute:second[.fraction]` -/
def timeText (s : Spelling) : List Char :=
  s.hour ++ ':' :: (s.minute ++ ':' :: (s.second ++
    if s.fraction = [] then [] else '.' :: s.fraction))

def text (separator : Char) (s : Spelling) : String :=
  String.ofList (s.dateText ++ separator :: s.timeText)

end Spelling

namespace Timestamp

/-- Decimal digits with zeros in front up to a width. -/
def padded (width n : Nat) : List Char :=
  let ds := Nat.toDigits 10 n
  List.replicate (width - ds.length) '0' ++ ds

/-- Four digits for the years 0 to 9999, and a sign before at least four
digits for all others. -/
def yearDigits (year : Int) : List Char :=
  if 0 ≤ year ∧ year ≤ 9999 then padded 4 year.toNat
  else (if year < 0 then '-' else '+') :: padded 4 year.natAbs

/-- Three, six or nine digits, the fewest that are exact, and nothing for a
whole second. -/
def fractionDigits (nanosecond : Nat) : List Char :=
  if nanosecond = 0 then []
  else if nanosecond % 1000000 = 0 then padded 3 (nanosecond / 1000000)
  else if nanosecond % 1000 = 0 then padded 6 (nanosecond / 1000)
  else padded 9 nanosecond

/-- A leap second is counted as one second more. -/
def spelling (t : Timestamp) : Spelling where
  year := yearDigits t.year
  month := padded 2 t.month
  day := padded 2 t.day
  hour := padded 2 t.hour
  minute := padded 2 t.minute
  second := padded 2 (t.second + t.nanosecond / 1000000000)
  fraction := fractionDigits (t.nanosecond % 1000000000)

end Timestamp

end ParamSql
