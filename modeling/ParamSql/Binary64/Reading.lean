import ParamSql.Binary64.Rounding
import ParamSql.Text.Case

/-!
# Reading numbers

Whole numbers are an optional sign and digits. Decimals have an optional
sign, digits with an optional point among or around them and an optional
exponent, or are one of the words `inf`, `infinity` and `nan` in any case.
-/

namespace ParamSql

/-- The value of a run of decimal digits. -/
def digitsValue (ds : List Char) : Nat :=
  ds.foldl (fun n c => n * 10 + (c.toNat - '0'.toNat)) 0

/-- Split a leading `+` or `-` off; `true` for `-`. -/
def splitSign : List Char → Bool × List Char
  | '-' :: cs => (true, cs)
  | '+' :: cs => (false, cs)
  | cs => (false, cs)

/-- An optional sign and at least one digit, and nothing else. -/
def readInt? (cs : List Char) : Option Int :=
  let (negative, ds) := splitSign cs
  if ds ≠ [] ∧ ds.all Char.isDigit then
    some (if negative then -(digitsValue ds : Int) else digitsValue ds)
  else none

namespace Binary64

/-- The exponent part: nothing, or `e` or `E` before a whole number. -/
def readExponent? : List Char → Option Int
  | [] => some 0
  | c :: cs => if c.toLower = 'e' then readInt? cs else none

/-- An unsigned decimal with its exponent. -/
def readDecimal? (negative : Bool) (cs : List Char) : Option Binary64 :=
  let whole := cs.takeWhile Char.isDigit
  let rest := cs.dropWhile Char.isDigit
  let (fraction, rest) := match rest with
    | '.' :: tail => (tail.takeWhile Char.isDigit, tail.dropWhile Char.isDigit)
    | _ => ([], rest)
  if whole = [] ∧ fraction = [] then none
  else (readExponent? rest).map fun e =>
    ofDecimal negative (digitsValue (whole ++ fraction)) (e - fraction.length)

/-- The number nearest to a decimal text; `none` for any other text. -/
def ofText? (cs : List Char) : Option Binary64 :=
  let (negative, body) := splitSign cs
  let word := body.map Char.toLower
  if word = ['i', 'n', 'f'] ∨ word = ['i', 'n', 'f', 'i', 'n', 'i', 't', 'y'] then
    some (infinity negative)
  else if word = ['n', 'a', 'n'] then some nan
  else readDecimal? negative body

end Binary64

end ParamSql
