import Mathlib.Algebra.Order.Field.Rat
import Mathlib.Data.Rat.Cast.Order
import Mathlib.Tactic.Linarith
import Mathlib.Tactic.NormNum
import ParamSql.Binary64.Rounding

/-!
# The numbers that doubles denote

A finite double denotes a dyadic fraction, taken here as it is. Which doubles denote whole
numbers, and which whole numbers of more than 53 bits are denoted by the double nearest to them:
those that are multiples of the distance between two doubles of their size.
-/

namespace ParamSql

namespace Binary64

def magnitude (x : Binary64) : ℚ := x.significand * (2 : ℚ) ^ x.exponent

/-- The number that a finite double denotes. -/
def value (x : Binary64) : ℚ := if x.negative then -x.magnitude else x.magnitude

theorem twoTo_div_twoTo_neg (e : ℤ) : (twoTo e : ℚ) / twoTo (-e) = 2 ^ e := by
  obtain ⟨k, rfl | rfl⟩ := e.eq_nat_or_neg
  · simp [twoTo]
  · simp [twoTo]

theorem twoTo_pos (e : ℤ) : 0 < twoTo e := Nat.two_pow_pos _

theorem dyadic_eq_magnitude (x : Binary64) :
    ((dyadic x.significand x.exponent).1 : ℚ) / (dyadic x.significand x.exponent).2 =
      x.magnitude := by
  rw [magnitude, ← twoTo_div_twoTo_neg, dyadic, Nat.cast_mul, mul_div_assoc]

theorem natCast_eq_magnitude_iff {x : Binary64} {k : ℕ} :
    (k : ℚ) = x.magnitude ↔
      (dyadic x.significand x.exponent).1 % (dyadic x.significand x.exponent).2 = 0 ∧
        (dyadic x.significand x.exponent).1 / (dyadic x.significand x.exponent).2 = k := by
  have hden : 0 < (dyadic x.significand x.exponent).2 := twoTo_pos _
  rw [← dyadic_eq_magnitude]
  generalize (dyadic x.significand x.exponent).1 = num at hden
  generalize (dyadic x.significand x.exponent).2 = den at hden
  have hden' : (den : ℚ) ≠ 0 := Nat.cast_ne_zero.2 hden.ne'
  rw [eq_div_iff hden']
  constructor
  · intro h
    have heq : k * den = num := by exact_mod_cast h
    rw [← heq]
    exact ⟨Nat.mul_mod_left k den, Nat.mul_div_cancel k hden⟩
  · rintro ⟨hmod, rfl⟩
    exact_mod_cast Nat.div_mul_cancel (Nat.dvd_of_mod_eq_zero hmod)

theorem magnitude_nonneg (x : Binary64) : 0 ≤ x.magnitude :=
  mul_nonneg (Nat.cast_nonneg _) (zpow_nonneg (by norm_num) _)

theorem value_eq_intCast_iff {x : Binary64} {n : ℤ} :
    x.value = n ↔ ∃ k : ℕ, (k : ℚ) = x.magnitude ∧ n = if x.negative then -(k : ℤ) else k := by
  have hpos := x.magnitude_nonneg
  unfold value
  constructor
  · intro h
    refine ⟨n.natAbs, ?_, ?_⟩
    · rw [Nat.cast_natAbs, Int.cast_abs, ← h]
      split
      · rw [abs_neg, abs_of_nonneg hpos]
      · exact abs_of_nonneg hpos
    · cases hnegative : x.negative with
      | true =>
        rw [hnegative, if_pos rfl] at h
        have hn : n ≤ 0 := by
          rw [← Int.cast_nonpos (R := ℚ), ← h]
          exact neg_nonpos.2 hpos
        rw [if_pos rfl]
        omega
      | false =>
        rw [hnegative, if_neg Bool.false_ne_true] at h
        have hn : 0 ≤ n := by
          rw [← Int.cast_nonneg_iff (R := ℚ), ← h]
          exact hpos
        rw [if_neg Bool.false_ne_true]
        omega
  · rintro ⟨k, hk, rfl⟩
    rw [← hk]
    split <;> push_cast <;> rfl

theorem toInt?_eq_some_iff {x : Binary64} {n : ℤ} :
    x.toInt? = some n ↔ x.isFinite = true ∧ x.value = n := by
  simp only [value_eq_intCast_iff, natCast_eq_magnitude_iff]
  unfold toInt?
  generalize dyadic x.significand x.exponent = fraction
  obtain ⟨num, den⟩ := fraction
  by_cases hfinite : x.isFinite = true
  · by_cases hmod : num % den = 0
    · simp only [hfinite, hmod, if_true, true_and, Option.some.injEq]
      constructor
      · rintro rfl
        exact ⟨num / den, rfl, by push_cast; rfl⟩
      · rintro ⟨k, rfl, rfl⟩
        push_cast
        rfl
    · simp [hfinite, hmod]
  · simp [hfinite]

theorem significand_lt (x : Binary64) : x.significand < 2 ^ 53 := by
  have hfraction : x.fractionField < exponentWeight := Nat.mod_lt _ (by decide)
  unfold significand exponentWeight at *
  split <;> omega

/-- Past the reach of the significand there are no fractions. -/
theorem exists_natCast_eq_magnitude {x : Binary64} (h : 2 ^ 53 ≤ x.magnitude) :
    ∃ k : ℕ, (k : ℚ) = x.magnitude := by
  have hsignificand : (x.significand : ℚ) < 2 ^ 53 := by exact_mod_cast x.significand_lt
  have hexponent : 0 ≤ x.exponent := by
    by_contra hneg
    have hpow : (2 : ℚ) ^ x.exponent ≤ 1 := zpow_le_one_of_nonpos₀ (by norm_num) (by omega)
    have hle : x.magnitude ≤ x.significand * 1 :=
      mul_le_mul_of_nonneg_left hpow (Nat.cast_nonneg _)
    linarith
  obtain ⟨j, hj⟩ := Int.eq_ofNat_of_zero_le hexponent
  refine ⟨x.significand * 2 ^ j, ?_⟩
  rw [magnitude, hj, zpow_natCast]
  push_cast
  rfl

end Binary64

end ParamSql
