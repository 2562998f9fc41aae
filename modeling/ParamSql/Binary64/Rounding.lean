import ParamSql.Binary64.Basic

/-!
# Rounding to double precision

`ofRatio` is the number nearest to a fraction, the one with an even
significand on a tie. Whole numbers and decimals are rounded through it.
-/

namespace ParamSql

/-- The whole number nearest to `num / den`, the even one on a tie. -/
def roundedQuotient (num den : Nat) : Nat :=
  let q := num / den
  let r := num % den
  if den < 2 * r ∨ (2 * r = den ∧ q % 2 = 1) then q + 1 else q

@[simp] theorem roundedQuotient_one (n : Nat) : roundedQuotient n 1 = n := by
  simp [roundedQuotient, Nat.mod_one]

namespace Binary64

/-- Greatest `e` with `2 ^ e ≤ num / den`, for positive operands. -/
def binaryOrder (num den : Nat) : Int :=
  let guess : Int := (num.log2 : Int) - den.log2
  if den * twoTo guess ≤ num * twoTo (-guess) then guess else guess - 1

/-- The number nearest to `± num / den`; magnitudes past the largest finite
number become infinite. -/
def ofRatio (negative : Bool) (num den : Nat) : Binary64 :=
  if num = 0 then zero negative else
    let e := max (binaryOrder num den - 52) (-1074)
    let m := roundedQuotient (num * twoTo (-e)) (den * twoTo e)
    ofMagnitude negative (min ((e + 1074).toNat * exponentWeight + m) (2047 * exponentWeight))

def ofInt (n : Int) : Binary64 := ofRatio (n < 0) n.natAbs 1

/-- The number nearest to `± digits * 10 ^ exponent`. Decimals of more than
310 places before the point are infinite and those below `10 ^ -330` zero, so
no power past those is ever computed. -/
def ofDecimal (negative : Bool) (digits : Nat) (exponent : Int) : Binary64 :=
  let places := (Nat.toDigits 10 digits).length
  if digits = 0 then zero negative
  else if 310 < exponent + places then infinity negative
  else if exponent + places < -330 then zero negative
  else ofRatio negative (digits * tenTo exponent) (tenTo (-exponent))

end Binary64

end ParamSql
