import Mathlib.Data.List.Induction
import ParamSql.Binary64.Reading

/-!
# Spellings of whole numbers

A natural number is spelled by its decimal digits, with any number of zeros in front. What is
read back from a spelling is the number, and every run of digits is the spelling of one. With a
sign in front these are the spellings of the whole numbers.
-/

namespace ParamSql

def zeroPadded (zeros n : Nat) : List Char := List.replicate zeros '0' ++ Nat.toDigits 10 n

theorem zeroPadded_ne_nil (zeros n : Nat) : zeroPadded zeros n ≠ [] :=
  List.append_ne_nil_of_right_ne_nil _ Nat.toDigits_ne_nil

theorem isDigit_of_mem_zeroPadded {zeros n : Nat} {c : Char} (h : c ∈ zeroPadded zeros n) :
    c.isDigit = true := by
  rcases List.mem_append.1 h with h | h
  · rw [List.eq_of_mem_replicate h]
    rfl
  · exact Nat.isDigit_of_mem_toDigits (by decide) (by decide) h

theorem digitsValue_eq_ofDigitChars (ds : List Char) :
    digitsValue ds = Nat.ofDigitChars 10 ds 0 := by
  unfold digitsValue
  rw [Nat.ofDigitChars_eq_foldl]
  congr 1
  funext n c
  rw [Nat.mul_comm]

@[simp] theorem digitsValue_zeroPadded (zeros n : Nat) : digitsValue (zeroPadded zeros n) = n := by
  rw [digitsValue_eq_ofDigitChars, zeroPadded, Nat.ofDigitChars_append,
    Nat.ofDigitChars_replicate_zero, Nat.mul_zero, Nat.ofDigitChars_ten_toDigits]

theorem digitsValue_append_singleton (ds : List Char) (c : Char) :
    digitsValue (ds ++ [c]) = digitsValue ds * 10 + (c.toNat - '0'.toNat) := by
  simp [digitsValue]

theorem digitChar_of_isDigit {c : Char} (h : c.isDigit = true) :
    c.toNat - '0'.toNat < 10 ∧ Nat.digitChar (c.toNat - '0'.toNat) = c := by
  have range : 48 ≤ c.toNat ∧ c.toNat ≤ 57 := by
    simpa [Char.isDigit, UInt32.le_iff_toNat_le] using h
  have hlt : c.toNat - '0'.toNat < 10 := by
    change c.toNat - 48 < 10
    omega
  refine ⟨hlt, Char.toNat_inj.1 ?_⟩
  rw [Nat.toNat_digitChar_of_lt_ten hlt]
  change 48 + (c.toNat - 48) = c.toNat
  omega

/-- Every run of digits spells the number read from it, by induction from its last digit. -/
theorem exists_zeroPadded {ds : List Char} (hne : ds ≠ []) (hdigits : ∀ c ∈ ds, c.isDigit = true) :
    ∃ zeros, ds = zeroPadded zeros (digitsValue ds) := by
  induction ds using List.reverseRecOn with
  | nil => exact absurd rfl hne
  | append_singleton front c ih =>
    obtain ⟨hlt, hchar⟩ := digitChar_of_isDigit
      (hdigits c (List.mem_append_right _ List.mem_cons_self))
    rw [digitsValue_append_singleton]
    generalize hd : c.toNat - '0'.toNat = d at hlt hchar
    by_cases hfront : front = []
    · subst hfront
      refine ⟨0, ?_⟩
      rw [show digitsValue [] * 10 + d = d from Nat.zero_add d, zeroPadded,
        Nat.toDigits_of_lt_base hlt, hchar]
      rfl
    · obtain ⟨zeros, hzeros⟩ := ih hfront fun x hx => hdigits x (List.mem_append_left _ hx)
      rcases Nat.eq_zero_or_pos (digitsValue front) with hzero | hpos
      · -- zeros only in front of the digit: one more of them
        refine ⟨zeros + 1, ?_⟩
        rw [hzero] at hzeros ⊢
        rw [show 0 * 10 + d = d by omega, zeroPadded, Nat.toDigits_of_lt_base hlt, hchar, hzeros,
          zeroPadded, Nat.toDigits_zero, ← List.replicate_succ']
      · refine ⟨zeros, ?_⟩
        rw [Nat.mul_comm, zeroPadded, ← Nat.toDigits_append_toDigits (by decide) hpos hlt,
          Nat.toDigits_of_lt_base hlt, hchar, ← List.append_assoc]
        exact congrArg (· ++ [c]) hzeros

/-- The texts that spell a whole number: digits, zeros in front allowed, with or without a sign. -/
inductive SpellsInt : Int → List Char → Prop
  | unsigned (zeros n : Nat) : SpellsInt n (zeroPadded zeros n)
  | plus (zeros n : Nat) : SpellsInt n ('+' :: zeroPadded zeros n)
  | minus (zeros n : Nat) : SpellsInt (-n) ('-' :: zeroPadded zeros n)

theorem splitSign_zeroPadded (zeros n : Nat) :
    splitSign (zeroPadded zeros n) = (false, zeroPadded zeros n) := by
  cases h : zeroPadded zeros n with
  | nil => rfl
  | cons c cs =>
    have hc : c.isDigit = true := isDigit_of_mem_zeroPadded (h ▸ List.mem_cons_self)
    unfold splitSign
    split
    · rename_i heq
      cases heq
      contradiction
    · rename_i heq
      cases heq
      contradiction
    · rfl

theorem readInt?_eq_some_iff {cs : List Char} {n : Int} :
    readInt? cs = some n ↔ SpellsInt n cs := by
  have digits (zeros n : Nat) :
      zeroPadded zeros n ≠ [] ∧ (zeroPadded zeros n).all Char.isDigit = true :=
    ⟨zeroPadded_ne_nil zeros n, List.all_eq_true.2 fun _ => isDigit_of_mem_zeroPadded⟩
  constructor
  · intro h
    unfold readInt? at h
    split at h
    rename_i negative ds hsplit
    split at h
    · rename_i hds
      obtain ⟨zeros, hzeros⟩ := exists_zeroPadded hds.1 (List.all_eq_true.1 hds.2)
      generalize digitsValue ds = m at h hzeros
      subst hzeros
      unfold splitSign at hsplit
      split at hsplit <;> cases hsplit <;> cases h
      · exact .minus zeros m
      · exact .plus zeros m
      · exact .unsigned zeros m
    · contradiction
  · intro h
    cases h with
    | unsigned zeros n =>
      rw [readInt?, splitSign_zeroPadded]
      simp only [if_pos (digits zeros n), digitsValue_zeroPadded, Bool.false_eq_true, if_false]
    | plus zeros n =>
      simp only [readInt?, splitSign, if_pos (digits zeros n), digitsValue_zeroPadded,
        Bool.false_eq_true, if_false]
    | minus zeros n =>
      simp only [readInt?, splitSign, if_pos (digits zeros n), digitsValue_zeroPadded, if_true]

end ParamSql
