import ParamSql.Binary64.Basic

/-!
# Shortest decimal of a double-precision number

Among the decimals that round to a number, `shortest` picks one of fewest
digits, and of those the nearest; on a tie the greater. It is written out
without an exponent.
-/

namespace ParamSql.Binary64

/-- A magnitude `digits * 10 ^ exponent`. -/
structure Decimal where
  digits : Nat
  exponent : Int
deriving DecidableEq, Inhabited

/-- `a * 10 ^ p ≤ b * 2 ^ q`, compared on whole numbers. -/
def decimalLe (a : Nat) (p : Int) (b : Nat) (q : Int) : Bool :=
  a * tenTo p * twoTo (-q) ≤ b * twoTo q * tenTo (-p)

def binaryLe (b : Nat) (q : Int) (a : Nat) (p : Int) : Bool :=
  b * twoTo q * tenTo (-p) ≤ a * tenTo p * twoTo (-q)

/-- Whether a decimal rounds to the magnitude of `x`: it lies between the
midpoints to the two neighbours, which themselves round to an even `x`. -/
def roundsTo (x : Binary64) (d : Decimal) : Bool :=
  let m := x.significand
  let q := x.exponent - 2
  let below := if x.fractionField = 0 ∧ 1 < x.exponentField then 4 * m - 1 else 4 * m - 2
  let above := 4 * m + 2
  if m % 2 = 0 then
    binaryLe below q d.digits d.exponent && decimalLe d.digits d.exponent above q
  else
    !decimalLe d.digits d.exponent below q && !binaryLe above q d.digits d.exponent

/-- Greatest `k` with `10 ^ k` at most the magnitude of a nonzero number. -/
def decimalOrder (x : Binary64) : Int :=
  let (num, den) := dyadic x.significand x.exponent
  ((Nat.toDigits 10 (num * tenTo 340 / den)).length : Int) - 341

/-- Of the two neighbours of `x` among the multiples of `10 ^ p`, the nearer
one that rounds to `x`. -/
def nearestOnGrid? (x : Binary64) (p : Int) : Option Decimal :=
  let (num, den) := dyadic x.significand x.exponent
  let low := num * tenTo (-p) / (den * tenTo p)
  let lower : Decimal := ⟨low, p⟩
  let upper : Decimal := ⟨low + 1, p⟩
  let upperNearer :=
    (2 * low + 1) * (den * tenTo p) ≤ 2 * (num * tenTo (-p))
  match x.roundsTo lower, x.roundsTo upper with
  | true, true => some (if upperNearer then upper else lower)
  | true, false => some lower
  | false, true => some upper
  | false, false => none

/-- First grid with a hit, from `digits` significant digits on. -/
def searchGrids (x : Binary64) (order : Int) : (fuel digits : Nat) → Option Decimal
  | 0, _ => none
  | fuel + 1, digits =>
    match nearestOnGrid? x (order - digits + 1) with
    | some d => some d
    | none => searchGrids x order fuel (digits + 1)

/-- Drop the zeros at the end of the digits. -/
def Decimal.stripZeros (d : Decimal) : (fuel : Nat) → Decimal
  | 0 => d
  | fuel + 1 =>
    if d.digits ≠ 0 ∧ d.digits % 10 = 0 then
      stripZeros ⟨d.digits / 10, d.exponent + 1⟩ fuel
    else d

/-- The shortest decimal of a finite nonzero number; seventeen digits always
suffice. -/
def shortest (x : Binary64) : Decimal :=
  (((searchGrids x x.decimalOrder 17 1).getD ⟨0, 0⟩).stripZeros 17)

/-- Digits around a decimal point, with no point for a whole number. -/
def Decimal.positional (d : Decimal) : List Char :=
  let ds := Nat.toDigits 10 d.digits
  let places := (-d.exponent).toNat
  if places = 0 then ds ++ List.replicate d.exponent.toNat '0'
  else
    let padded := List.replicate (places + 1 - ds.length) '0' ++ ds
    let whole := padded.length - places
    padded.take whole ++ '.' :: padded.drop whole

/-- The text of a number: shortest digits, never an exponent. -/
def text (x : Binary64) : String :=
  let sign := if x.negative then "-" else ""
  if x.isNaN then "NaN"
  else if x.isInfinite then sign ++ "inf"
  else if x.isZero then sign ++ "0"
  else sign ++ String.ofList x.shortest.positional

end ParamSql.Binary64
