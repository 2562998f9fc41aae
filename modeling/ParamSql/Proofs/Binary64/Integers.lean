import Mathlib.Tactic.Ring
import ParamSql.Proofs.Binary64.Exact

/-!
# Integers as doubles

A natural number of 53 bits and more is rounded to a multiple of the distance between the doubles
of its size. The double nearest to it denotes it exactly when it is such a multiple itself.
-/

namespace ParamSql

theorem roundedQuotient_mul_eq_iff {num den : ℕ} :
    roundedQuotient num den * den = num ↔ den ∣ num := by
  constructor
  · intro h
    exact ⟨roundedQuotient num den, by rw [Nat.mul_comm, h]⟩
  · rintro ⟨k, rfl⟩
    rcases Nat.eq_zero_or_pos den with rfl | hden
    · simp
    · have hexact : roundedQuotient (den * k) den = k := by
        unfold roundedQuotient
        dsimp only
        rw [Nat.mul_mod_right, Nat.mul_div_cancel_left k hden, if_neg (by omega)]
      rw [hexact, Nat.mul_comm]

theorem roundedQuotient_bounds (num den : ℕ) :
    num / den ≤ roundedQuotient num den ∧ roundedQuotient num den ≤ num / den + 1 := by
  unfold roundedQuotient
  dsimp only
  split <;> omega

namespace Binary64

theorem toNat_bits_ofMagnitude {m : ℕ} (h : m < signWeight) :
    (ofMagnitude false m).bits.toNat = m := by
  rw [ofMagnitude, if_neg Bool.false_ne_true, Nat.zero_add, UInt64.toNat_ofNat']
  exact Nat.mod_eq_of_lt (Nat.lt_trans h (by decide))

theorem fields_of_bits {x : Binary64} {e m : ℕ} (he : e < 2048) (hm : m < exponentWeight)
    (h : x.bits.toNat = e * exponentWeight + m) :
    x.negative = false ∧ x.exponentField = e ∧ x.fractionField = m := by
  unfold negative exponentField fractionField exponentWeight signWeight at *
  refine ⟨?_, by omega, by omega⟩
  rw [Nat.div_eq_of_lt (by omega)]
  rfl

/-- The double with `k` steps of the exponent below a significand of 53 bits. A significand that
rounding has carried to 54 bits is one step more. -/
theorem magnitude_ofMagnitude {k m : ℕ} (hk : k < 2045) (hlow : 2 ^ 52 ≤ m) (hhigh : m ≤ 2 ^ 53) :
    (ofMagnitude false (k * exponentWeight + m)).isFinite = true ∧
      (ofMagnitude false (k * exponentWeight + m)).negative = false ∧
      (ofMagnitude false (k * exponentWeight + m)).magnitude = m * 2 ^ ((k : ℤ) - 1074) := by
  have hbits := toNat_bits_ofMagnitude (m := k * exponentWeight + m)
    (by unfold exponentWeight signWeight; omega)
  generalize ofMagnitude false (k * exponentWeight + m) = x at hbits
  have hweight : exponentWeight = 2 ^ 52 := by norm_num [exponentWeight]
  rcases Nat.lt_or_eq_of_le hhigh with hlt | rfl
  · obtain ⟨d, rfl⟩ := Nat.exists_eq_add_of_le hlow
    have hd : d < exponentWeight := by omega
    have hsplit : x.bits.toNat = (k + 1) * exponentWeight + d := by rw [hbits, hweight]; ring
    obtain ⟨hnegative, hexponent, hfraction⟩ := fields_of_bits (by omega) hd hsplit
    refine ⟨by simp only [isFinite, hexponent, decide_eq_true_eq]; omega, hnegative, ?_⟩
    have hexp : (((max (k + 1) 1 : ℕ) : ℤ) - 1075) = (k : ℤ) - 1074 := by omega
    rw [magnitude, significand, exponent, hexponent, hfraction, if_neg (by omega), hexp, hweight]
  · have hsplit : x.bits.toNat = (k + 2) * exponentWeight + 0 := by rw [hbits, hweight]; ring
    obtain ⟨hnegative, hexponent, hfraction⟩ := fields_of_bits (by omega) (by omega) hsplit
    refine ⟨by simp only [isFinite, hexponent, decide_eq_true_eq]; omega, hnegative, ?_⟩
    have hexp : (((max (k + 2) 1 : ℕ) : ℤ) - 1075) = ((k : ℤ) - 1074) + 1 := by omega
    rw [magnitude, significand, exponent, hexponent, hfraction, if_neg (by omega), hexp,
      zpow_add_one₀ (by norm_num), hweight]
    push_cast
    ring

/-- The distance between the doubles of the size of a number of 53 bits or more. -/
def spacing (n : ℕ) : ℕ := 2 ^ (n.log2 - 52)

theorem binaryOrder_one {n : ℕ} (hn : n ≠ 0) : binaryOrder n 1 = n.log2 := by
  have hguess : (n.log2 : ℤ) - Nat.log2 1 = n.log2 := by
    rw [show Nat.log2 1 = 0 by decide]
    omega
  have hle : 1 * twoTo n.log2 ≤ n * twoTo (-(n.log2 : ℤ)) := by
    simpa [twoTo] using Nat.log2_self_le hn
  unfold binaryOrder
  rw [hguess, if_pos hle]

variable {n : ℕ} (hlow : 52 ≤ n.log2)

include hlow

theorem div_spacing_bounds : 2 ^ 52 ≤ n / spacing n ∧ n / spacing n < 2 ^ 53 := by
  have hn : n ≠ 0 := by
    rintro rfl
    simp at hlow
  have hpos : 0 < spacing n := Nat.two_pow_pos _
  constructor
  · rw [Nat.le_div_iff_mul_le hpos, spacing, ← Nat.pow_add, Nat.add_sub_cancel' hlow]
    exact Nat.log2_self_le hn
  · rw [Nat.div_lt_iff_lt_mul hpos, spacing, ← Nat.pow_add,
      show 53 + (n.log2 - 52) = n.log2 + 1 by omega]
    exact Nat.lt_log2_self

theorem roundedQuotient_spacing_bounds :
    2 ^ 52 ≤ roundedQuotient n (spacing n) ∧ roundedQuotient n (spacing n) ≤ 2 ^ 53 := by
  have hquotient := div_spacing_bounds hlow
  have hrounded := roundedQuotient_bounds n (spacing n)
  omega

variable (hhigh : n.log2 < 1023)

include hhigh

/-- The significand of the double nearest to a number counts the spacings in it. -/
theorem ofInt_natCast_eq : ofInt n =
    ofMagnitude false ((n.log2 + 1022) * exponentWeight + roundedQuotient n (spacing n)) := by
  have hn : n ≠ 0 := by
    rintro rfl
    simp at hlow
  have hm := (roundedQuotient_spacing_bounds hlow).2
  have hexponent : max (binaryOrder n 1 - 52) (-1074) = ((n.log2 - 52 : ℕ) : ℤ) := by
    rw [binaryOrder_one hn]
    omega
  have hnum : n * twoTo (-((n.log2 - 52 : ℕ) : ℤ)) = n := by simp [twoTo]
  have hden : 1 * twoTo ((n.log2 - 52 : ℕ) : ℤ) = spacing n := by simp [twoTo, spacing]
  have hfield : (((n.log2 - 52 : ℕ) : ℤ) + 1074).toNat = n.log2 + 1022 := by omega
  have hsign : decide ((n : ℤ) < 0) = false := decide_eq_false (by omega)
  unfold ofInt ofRatio
  dsimp only
  rw [Int.natAbs_natCast, if_neg hn, hexponent, hnum, hden, hfield, hsign,
    Nat.min_eq_left (by unfold exponentWeight; omega)]

/-- A natural number becomes the multiple of the spacing that is nearest to it. -/
theorem value_ofInt_natCast :
    (ofInt n).isFinite = true ∧
      (ofInt n).value = (roundedQuotient n (spacing n) * spacing n : ℕ) := by
  obtain ⟨hm, hm'⟩ := roundedQuotient_spacing_bounds hlow
  obtain ⟨hfinite, hnegative, hmagnitude⟩ :=
    magnitude_ofMagnitude (k := n.log2 + 1022) (by omega) hm hm'
  have hexponent : ((n.log2 + 1022 : ℕ) : ℤ) - 1074 = (n.log2 - 52 : ℕ) := by omega
  rw [ofInt_natCast_eq hlow hhigh]
  refine ⟨hfinite, ?_⟩
  rw [value, hnegative, if_neg Bool.false_ne_true, hmagnitude, hexponent, zpow_natCast, spacing]
  push_cast
  rfl

theorem value_ofInt_natCast_eq_iff : (ofInt n).value = n ↔ spacing n ∣ n := by
  rw [(value_ofInt_natCast hlow hhigh).2, Nat.cast_inj, roundedQuotient_mul_eq_iff]

end Binary64

end ParamSql
