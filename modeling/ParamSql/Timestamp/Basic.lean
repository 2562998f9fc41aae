/-!
# Timestamps

A date of the Gregorian calendar, carried back before its introduction, with
a time of day. A billion nanoseconds or more are a leap second.
-/

namespace ParamSql

namespace Calendar

def isLeapYear (year : Int) : Bool :=
  year % 4 == 0 && (year % 100 != 0 || year % 400 == 0)

def daysInMonth (year : Int) (month : Nat) : Nat :=
  if month = 2 then (if isLeapYear year then 29 else 28)
  else if month = 4 ∨ month = 6 ∨ month = 9 ∨ month = 11 then 30
  else 31

/-- Years are kept between −262143 and 262142. -/
def IsDate (year : Int) (month day : Nat) : Prop :=
  -262143 ≤ year ∧ year ≤ 262142 ∧ 1 ≤ month ∧ month ≤ 12 ∧ 1 ≤ day ∧ day ≤ daysInMonth year month

instance (year : Int) (month day : Nat) : Decidable (IsDate year month day) :=
  inferInstanceAs (Decidable (_ ∧ _))

/-- Any second can be a leap second, though clocks have them at the end of a minute only. -/
def IsTime (hour minute second nanosecond : Nat) : Prop :=
  hour < 24 ∧ minute < 60 ∧ second < 60 ∧ nanosecond < 2000000000

instance (hour minute second nanosecond : Nat) : Decidable (IsTime hour minute second nanosecond) :=
  inferInstanceAs (Decidable (_ ∧ _))

structure Date where
  year : Int
  month : Nat
  day : Nat
  isDate : IsDate year month day
deriving DecidableEq

end Calendar

structure Timestamp where
  year : Int
  month : Nat
  day : Nat
  hour : Nat
  minute : Nat
  second : Nat
  nanosecond : Nat
  isDate : Calendar.IsDate year month day
  isTime : Calendar.IsTime hour minute second nanosecond
deriving DecidableEq

namespace Timestamp

def date (t : Timestamp) : Calendar.Date := ⟨t.year, t.month, t.day, t.isDate⟩

def midnight (date : Calendar.Date) : Timestamp :=
  ⟨date.year, date.month, date.day, 0, 0, 0, 0, date.isDate, by decide⟩

/-- The timestamp with these parts, if there is one; a leap second is at the end of a minute. -/
def ofParts? (year : Int) (month day hour minute second nanosecond : Nat) : Option Timestamp :=
  if date : Calendar.IsDate year month day then
    if time : Calendar.IsTime hour minute second nanosecond ∧
        (nanosecond < 1000000000 ∨ second = 59) then
      some ⟨year, month, day, hour, minute, second, nanosecond, date, time.1⟩
    else none
  else none

theorem ofParts?_parts (t : Timestamp) (h : t.nanosecond < 1000000000 ∨ t.second = 59) :
    ofParts? t.year t.month t.day t.hour t.minute t.second t.nanosecond = some t := by
  rw [ofParts?, dif_pos t.isDate, dif_pos ⟨t.isTime, h⟩]

end Timestamp

end ParamSql
