/-!
# Double-precision numbers

A double-precision number is its 64 bits: a sign, eleven bits of exponent and
52 bits of fraction. A finite one denotes `± significand * 2 ^ exponent`
exactly, and everything here is computed on those two whole numbers.
-/

namespace ParamSql

structure Binary64 where
  bits : UInt64
deriving DecidableEq, Inhabited

namespace Binary64

/-- What the sign counts in the bits: `2 ^ 63`. -/
def signWeight : Nat := 9223372036854775808

/-- What one step of the exponent counts in the bits: `2 ^ 52`. -/
def exponentWeight : Nat := 4503599627370496

def negative (x : Binary64) : Bool := x.bits.toNat / signWeight == 1

def exponentField (x : Binary64) : Nat := x.bits.toNat / exponentWeight % 2048

def fractionField (x : Binary64) : Nat := x.bits.toNat % exponentWeight

def isFinite (x : Binary64) : Bool := x.exponentField < 2047

def isNaN (x : Binary64) : Bool := x.exponentField == 2047 && x.fractionField != 0

def isInfinite (x : Binary64) : Bool := x.exponentField == 2047 && x.fractionField == 0

def isZero (x : Binary64) : Bool := x.exponentField == 0 && x.fractionField == 0

/-- Whole number `m` of the magnitude `m * 2 ^ exponent`. -/
def significand (x : Binary64) : Nat :=
  if x.exponentField = 0 then x.fractionField else exponentWeight + x.fractionField

def exponent (x : Binary64) : Int := (max x.exponentField 1 : Nat) - 1075

/-- Equality of numbers: zero equals minus zero, and NaN equals nothing. -/
def sameNumber (x y : Binary64) : Bool :=
  !x.isNaN && !y.isNaN && (x == y || x.isZero && y.isZero)

/-- The bit pattern of a sign and a magnitude. -/
def ofMagnitude (negative : Bool) (magnitude : Nat) : Binary64 :=
  ⟨UInt64.ofNat ((if negative then signWeight else 0) + magnitude)⟩

def zero (negative : Bool) : Binary64 := ofMagnitude negative 0

def infinity (negative : Bool) : Binary64 := ofMagnitude negative (2047 * exponentWeight)

def nan : Binary64 := ofMagnitude false (2047 * exponentWeight + exponentWeight / 2)

/-- `2 ^ e`, or one if `e` is negative. -/
def twoTo (e : Int) : Nat := Nat.pow 2 e.toNat

/-- `10 ^ e`, or one if `e` is negative. -/
def tenTo (e : Int) : Nat := Nat.pow 10 e.toNat

/-- Numerator and denominator of the magnitude `m * 2 ^ e`. -/
def dyadic (m : Nat) (e : Int) : Nat × Nat := (m * twoTo e, twoTo (-e))

/-- The whole number a finite number with no fractional part denotes. -/
def toInt? (x : Binary64) : Option Int :=
  if x.isFinite then
    let (num, den) := dyadic x.significand x.exponent
    if num % den = 0 then
      let n : Int := num / den
      some (if x.negative then -n else n)
    else none
  else none

end Binary64

end ParamSql
