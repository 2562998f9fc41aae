import ParamSql.Binary64.Reading
import ParamSql.Timestamp.Basic
import ParamSql.Toml.Tree

/-!
# Scalars of settings

Numbers, truth values, dates and times, each spelled in one run of characters.
How a run begins tells what it is. A number is kept as it is spelled, freed of
the underscores between its digits; whether it can be read is asked only where
its value is.
-/

namespace ParamSql.Toml

def hexValue? (c : Char) : Option Nat :=
  if c.isDigit then some (c.toNat - '0'.toNat)
  else if 'a' ≤ c ∧ c ≤ 'f' then some (c.toNat - 'a'.toNat + 10)
  else if 'A' ≤ c ∧ c ≤ 'F' then some (c.toNat - 'A'.toNat + 10)
  else none

/-- The number that digits of a base spell. -/
def valueInBase (base : Nat) (ds : List Char) : Nat :=
  ds.foldl (fun n c => n * base + (hexValue? c).getD 0) 0

def isDigitOf (base : Nat) (c : Char) : Bool := (hexValue? c).any (· < base)

/-- The characters freed of underscores, each of which has a digit on either
side; `afterDigit` tells whether one stands in front of all. -/
def ungroupedAfter? (isDigit : Char → Bool) : (afterDigit : Bool) → List Char → Option (List Char)
  | _, [] => some []
  | afterDigit, c :: cs =>
    if c = '_' then
      if afterDigit ∧ cs.head?.any isDigit then ungroupedAfter? isDigit false cs else none
    else (ungroupedAfter? isDigit (isDigit c) cs).map (c :: ·)

/-- A number freed of its underscores, for which a sign is as good as a digit. -/
def ungrouped? (isDigit : Char → Bool) : List Char → Option (List Char)
  | [] => some []
  | c :: cs =>
    if c = '+' ∨ c = '-' then (ungroupedAfter? isDigit true cs).map (c :: ·)
    else ungroupedAfter? isDigit false (c :: cs)

/-- The digits of a base behind its mark; with underscores among them they
begin with a digit. -/
def inBase? (base : Nat) (ds : List Char) : Option Value :=
  if '_' ∈ ds ∧ !ds.head?.any (isDigitOf 16) then none
  else (ungroupedAfter? (isDigitOf 16) false ds).map (.integer base)

/-- The run of digits in front, with underscores. -/
def digitRun (cs : List Char) : List Char := cs.takeWhile fun c => c.isDigit || c == '_'

/-- What follows the digits in front; there has to be one. -/
def afterDigits? (cs : List Char) : Option (List Char) :=
  if (digitRun cs).any Char.isDigit then some (cs.drop (digitRun cs).length) else none

def afterFraction? : List Char → Option (List Char)
  | '.' :: cs => afterDigits? cs
  | cs => some cs

def afterExponent? : List Char → Option (List Char)
  | [] => some []
  | c :: cs => if c = 'e' ∨ c = 'E' then afterDigits? (splitSign cs).2 else some (c :: cs)

/-- Digits, a fraction and an exponent, of which the latter two may be absent.
No zero stands in front of other digits. -/
def isDecimal (cs : List Char) : Bool :=
  !(cs.head? == some '0' && 1 < ((digitRun cs).filter Char.isDigit).length) &&
    ((afterDigits? cs).bind afterFraction?).bind afterExponent? == some []

/-- The number of exactly `width` digits. -/
def fixedNumber? (width : Nat) (cs : List Char) : Option Nat :=
  if cs.length = width ∧ cs.all Char.isDigit then some (digitsValue cs) else none

/-- `YYYY-MM-DD` -/
def isDate (cs : List Char) : Bool :=
  match fixedNumber? 4 (cs.take 4), cs.drop 4 with
  | some year, '-' :: rest =>
    match fixedNumber? 2 (rest.take 2), rest.drop 2 with
    | some month, '-' :: day =>
      (fixedNumber? 2 day).any fun day => Calendar.IsDate year month day
    | _, _ => false
  | _, _ => false

/-- `HH:MM[:SS[.fraction]]` -/
def isTime (cs : List Char) : Bool :=
  let within (limit : Nat) (ds : List Char) : Bool := (fixedNumber? 2 ds).any (· ≤ limit)
  match cs.drop 2 with
  | ':' :: rest =>
    within 23 (cs.take 2) && within 59 (rest.take 2) &&
      match rest.drop 2 with
      | [] => true
      | ':' :: seconds =>
        within 60 (seconds.take 2) &&
          match seconds.drop 2 with
          | [] => true
          | '.' :: fraction => fraction ≠ [] && fraction.all Char.isDigit
          | _ => false
      | _ => false
  | _ => false

/-- `Z` or `±HH:MM` -/
def isOffset : List Char → Bool
  | [c] => c == 'Z' || c == 'z'
  | c :: cs => (c == '+' || c == '-') && cs.length == 5 && isTime cs
  | [] => false

/-- A time of day with an offset or without. -/
def isZonedTime (cs : List Char) : Bool :=
  let time := cs.takeWhile fun c => c.isDigit || c == ':' || c == '.'
  let rest := cs.drop time.length
  isTime time && (rest == [] || isOffset rest)

/-- A date, a time of day, or a date and a time joined by `T` or a blank. -/
def isMoment (cs : List Char) : Bool :=
  isDate cs || isTime cs ||
    isDate (cs.take 10) &&
      match cs.drop 10 with
      | c :: time => (c == 'T' || c == 't' || c == ' ') && isZonedTime time
      | [] => false

/-- A number to the base ten, a date or a time; what follows the digits in front
tells which. -/
def decimal? (cs : List Char) : Option Value :=
  let body := (splitSign cs).2
  let rest := body.dropWhile Char.isDigit
  if body = [] then none
  else if rest.head?.any fun c => c == '-' || c == ':' then
    if isMoment cs then some (.moment (String.ofList cs)) else none
  else if ' ' ∈ rest then none
  else if rest.any fun c => c == '.' || c == 'e' || c == 'E' then
    if isDecimal body then (ungrouped? Char.isDigit cs).map .float else none
  else if rest.head?.any (· ≠ '_') ∨ (body.head? = some '0' ∧ 1 < body.length) then none
  else (ungrouped? (isDigitOf 16) cs).map (.integer 10)

/-- The value that a run of characters spells. -/
def scalar? (cs : List Char) : Option Value :=
  match cs with
  | '0' :: 'x' :: ds => inBase? 16 ds
  | '0' :: 'o' :: ds => inBase? 8 ds
  | '0' :: 'b' :: ds => inBase? 2 ds
  | _ =>
    let spelling := String.ofList cs
    if spelling = "true" then some (.boolean true)
    else if spelling = "false" then some (.boolean false)
    else if (splitSign cs).2 ∈ [['i', 'n', 'f'], ['n', 'a', 'n']] then some (.nonFinite spelling)
    else decimal? cs

/-- The whole number that a sign, if any, and digits of a base spell. -/
def readInteger? (base : Nat) (cs : List Char) : Option Int :=
  let (negative, ds) := splitSign cs
  if ds ≠ [] ∧ ds.all (isDigitOf base) then
    some (if negative then -(valueInBase base ds : Int) else valueInBase base ds)
  else none

/-- Whether a whole number has at most 128 bits, signed or not. -/
def fitsInteger (n : Int) : Bool :=
  -170141183460469231731687303715884105728 ≤ n && n ≤ 340282366920938463463374607431768211455

mutual

/-- Whether every number in a value can be read: whole numbers of up to 128
bits, and decimals that round to a finite number. -/
def Value.isReadable : Value → Bool
  | .integer base digits => (readInteger? base digits).any fitsInteger
  | .float digits => (Binary64.ofText? digits).any (!·.isInfinite)
  | .list items => areReadable items
  | .table entries => entriesAreReadable entries
  | _ => true

def areReadable : List Value → Bool
  | [] => true
  | v :: vs => v.isReadable && areReadable vs

def entriesAreReadable : List (String × Value) → Bool
  | [] => true
  | (_, v) :: rest => v.isReadable && entriesAreReadable rest

end

end ParamSql.Toml
