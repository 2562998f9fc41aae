import ParamSql.Proofs.Binary64.Exact
import ParamSql.Proofs.Execution.Calls
import ParamSql.Proofs.Text.Digits

/-!
# Scalars as numbers of rows

An executor answers the question for the number of rows by a scalar of any kind. The number of
rows is the whole number that the scalar denotes, and scalars that denote none in the range of
signed integers of 64 bits are refused. Floats past that range are the exception: they become
its greatest number.
-/

namespace ParamSql

namespace Value

/-- What whole number a scalar denotes, if any: truth values are zero and one, floats are taken
for what they are worth exactly, and texts may have blanks around the digits. -/
def Denotes : Value → ℤ → Prop
  | integer m, n => m.toInt = n
  | boolean b, n => (if b then 1 else 0) = n
  | float x, n => x.isFinite = true ∧ x.value = n
  | text s, n => SpellsInt n (Text.trimmed s.toList)
  | _, _ => False

/-- A float past the greatest signed integer of 64 bits. -/
def PastInt64 (v : Value) : Prop := ∃ x, v = float x ∧ x.isFinite = true ∧ 2 ^ 63 ≤ x.value

/-- A count for an answer: it is what the answer denotes, and an answer that denotes no number of
rows is refused. -/
structure CountsExactly (v : Value) (count : Except Error UInt64) : Prop where
  exact : ∀ n, count = .ok n → v.Denotes n.toNat
  refused : (∀ n : ℤ, 0 ≤ n → n < 2 ^ 63 → ¬ v.Denotes n) →
    ∃ expected actual, count = .error (.conversion expected actual)

variable {v : Value} {k : ℤ}

theorem denotes_float_iff {x : Binary64} : (float x).Denotes k ↔ x.toInt? = some k :=
  Binary64.toInt?_eq_some_iff.symm

theorem denotes_text_iff {s : String} :
    (text s).Denotes k ↔ readInt? (Text.trimmed s.toList) = some k :=
  readInt?_eq_some_iff.symm

theorem Denotes.unique {n : ℤ} (hk : v.Denotes k) (hn : v.Denotes n) : n = k := by
  cases v with
  | integer m => exact hn.symm.trans hk
  | boolean b => exact hn.symm.trans hk
  | float x =>
    rw [denotes_float_iff] at hk hn
    exact Option.some.inj (hn.symm.trans hk)
  | text s =>
    rw [denotes_text_iff] at hk hn
    exact Option.some.inj (hn.symm.trans hk)
  | null | timestamp t | bytes bs => exact hk.elim

theorem not_pastInt64_of_denotes (hk : v.Denotes k) (h : k < 2 ^ 63) : ¬ v.PastInt64 := by
  rintro ⟨x, rfl, -, hpast⟩
  have hlt : (k : ℚ) < 2 ^ 63 := by exact_mod_cast h
  rw [hk.2] at hpast
  exact absurd hpast (not_le.2 hlt)

theorem toInt_clampInt64 (n : ℤ) : (clampInt64 n).toInt = max (-2 ^ 63) (min (2 ^ 63 - 1) n) := by
  unfold clampInt64
  rw [Int64.toInt_ofInt_of_le (by omega) (by omega)]
  omega

theorem toCount_of_toInteger {m : Int64} (h : v.toInteger = .ok m) :
    v.toCount = if m.toInt < 0 then .error (.conversion .count "negative integer")
      else .ok (UInt64.ofNat m.toInt.toNat) := by
  have hcount : v.toCount = if m < 0 then .error (.conversion .count "negative integer")
      else .ok m.toUInt64 := by
    rw [toCount, h]
    rfl
  have hneg : m < 0 ↔ m.toInt < 0 := Int64.lt_iff_toInt_lt
  rw [hcount]
  by_cases hm : m.toInt < 0
  · rw [if_pos hm, if_pos (hneg.2 hm)]
  · have hle : 0 ≤ m := Int64.not_lt.1 (hneg.not.2 hm)
    rw [if_neg hm, if_neg (hneg.not.2 hm), ← UInt64.ofNat_toNat (x := m.toUInt64),
      Int64.toNat_toUInt64_of_le hle]
    rfl

theorem toCount_of_error {e : Error} (h : v.toInteger = .error e) : v.toCount = .error e := by
  rw [toCount, h]
  rfl

/-- What becomes of an answer. -/
inductive CountOf (v : Value) : Except Error UInt64 → Prop
  | counted {n : ℕ} (hn : n < 2 ^ 63) (h : v.Denotes n) : CountOf v (.ok (UInt64.ofNat n))
  | clamped (h : v.PastInt64) : CountOf v (.ok 9223372036854775807)
  | refused {expected : Target} {actual : String}
      (hnone : ∀ n : ℤ, 0 ≤ n → n < 2 ^ 63 → ¬ v.Denotes n) (hpast : ¬ v.PastInt64) :
      CountOf v (.error (.conversion expected actual))

theorem countOf_of_denotes {m : Int64} (hk : v.Denotes m.toInt) (h : v.toInteger = .ok m) :
    CountOf v v.toCount := by
  have hlt := m.toInt_lt
  rw [toCount_of_toInteger h]
  split
  · rename_i hneg
    refine .refused (fun n hn _ hdenotes => ?_) (not_pastInt64_of_denotes hk hlt)
    have := hk.unique hdenotes
    omega
  · rename_i hneg
    refine .counted (by omega) ?_
    rwa [Int.toNat_of_nonneg (not_lt.1 hneg)]

theorem exists_toInt?_of_past {x : Binary64} (hfinite : x.isFinite = true)
    (h : 2 ^ 63 ≤ x.value) : ∃ k, x.toInt? = some k ∧ 2 ^ 63 ≤ k := by
  have hmagnitude : x.value = x.magnitude := by
    unfold Binary64.value at h ⊢
    split
    · rename_i hneg
      rw [if_pos hneg] at h
      have := x.magnitude_nonneg
      linarith
    · rfl
  obtain ⟨k, hk⟩ := Binary64.exists_natCast_eq_magnitude (x := x) (by
    rw [← hmagnitude]
    linarith)
  refine ⟨k, Binary64.toInt?_eq_some_iff.2 ⟨hfinite, ?_⟩, ?_⟩
  · rw [hmagnitude, ← hk]
    rfl
  · rw [hmagnitude, ← hk] at h
    exact_mod_cast h

theorem pastInt64_of_toInt? {x : Binary64} (h : x.toInt? = some k) (hk : 2 ^ 63 ≤ k) :
    (float x).PastInt64 := by
  obtain ⟨hfinite, hvalue⟩ := Binary64.toInt?_eq_some_iff.1 h
  refine ⟨x, rfl, hfinite, ?_⟩
  rw [hvalue]
  exact_mod_cast hk

/-- Floats with a fraction, and those that are no numbers, are refused; all others are whole
numbers, below the range, in it or past it. -/
theorem countOf_float (x : Binary64) : CountOf (float x) (float x).toCount := by
  cases hx : x.toInt? with
  | none =>
    have hrefused : (float x).toInteger = .error (.conversion .integer (float x).typeName) := by
      simp only [toInteger, hx]
      rfl
    rw [toCount_of_error hrefused]
    refine .refused (fun n _ _ hdenotes => ?_) ?_
    · rw [denotes_float_iff, hx] at hdenotes
      contradiction
    · rintro ⟨y, hy, hfinite, hpast⟩
      cases hy
      obtain ⟨k, hk, -⟩ := exists_toInt?_of_past hfinite hpast
      rw [hx] at hk
      contradiction
  | some k =>
    have hok : (float x).toInteger = .ok (clampInt64 k) := by simp only [toInteger, hx]
    have hdenotes : (float x).Denotes k := denotes_float_iff.2 hx
    have hclamp := toInt_clampInt64 k
    rcases lt_or_ge k (2 ^ 63) with hlt | hge
    · rcases lt_or_ge k (-2 ^ 63) with hlow | hlow
      · rw [toCount_of_toInteger hok, if_pos (by omega)]
        refine .refused (fun n hn _ hn' => ?_) (not_pastInt64_of_denotes hdenotes hlt)
        have := hdenotes.unique hn'
        omega
      · have hsame : (clampInt64 k).toInt = k := by omega
        exact countOf_of_denotes (hsame.symm ▸ hdenotes) hok
    · have hmax : (clampInt64 k).toInt = (9223372036854775807 : ℕ) := by omega
      rw [toCount_of_toInteger hok, hmax, if_neg (by omega), Int.toNat_natCast]
      exact .clamped (pastInt64_of_toInt? hx hge)

theorem countOf_text (s : String) : CountOf (text s) (text s).toCount := by
  have hpast : ¬ (text s).PastInt64 := by
    rintro ⟨x, hx, -⟩
    contradiction
  cases hs : integerOfText? s with
  | none =>
    have hrefused : (text s).toInteger = .error (.conversion .integer (text s).typeName) := by
      simp only [toInteger, hs]
      rfl
    rw [toCount_of_error hrefused]
    refine .refused (fun n hn hn' hdenotes => ?_) hpast
    rw [denotes_text_iff] at hdenotes
    simp only [integerOfText?, hdenotes, Option.map_eq_none_iff, Option.filter_eq_none_iff,
      Option.some.injEq, forall_eq', decide_eq_true_eq] at hs
    omega
  | some m =>
    have hok : (text s).toInteger = .ok m := by simp only [toInteger, hs]
    refine countOf_of_denotes ?_ hok
    obtain ⟨n, hn, hm⟩ := Option.map_eq_some_iff.1 hs
    obtain ⟨hread, hrange⟩ := Option.filter_eq_some_iff.1 hn
    rw [decide_eq_true_eq] at hrange
    rw [← hm, Int64.toInt_ofInt_of_le (by omega) (by omega), denotes_text_iff]
    exact hread

theorem countOf_toCount (v : Value) : CountOf v v.toCount := by
  cases v with
  | integer m => exact countOf_of_denotes (m := m) rfl rfl
  | boolean b => exact countOf_of_denotes (m := if b then 1 else 0) (by cases b <;> rfl) rfl
  | float x => exact countOf_float x
  | text s => exact countOf_text s
  | null | timestamp t | bytes bs => exact .refused (fun _ _ _ h => h) nofun

theorem toCount_of_denotes {n : ℕ} (hn : n < 2 ^ 63) (h : v.Denotes n) :
    v.toCount = .ok (UInt64.ofNat n) := by
  have hcases := countOf_toCount v
  generalize v.toCount = count at hcases
  cases hcases with
  | counted hm hdenotes =>
    have := h.unique hdenotes
    rw [Int.ofNat_inj.1 this]
  | clamped hpast => exact absurd hpast (not_pastInt64_of_denotes h (by omega))
  | refused hnone _ => exact absurd h (hnone n (by omega) (by omega))

theorem toCount_of_past (h : v.PastInt64) : v.toCount = .ok 9223372036854775807 := by
  have hcases := countOf_toCount v
  generalize v.toCount = count at hcases
  cases hcases with
  | counted hm hdenotes => exact absurd h (not_pastInt64_of_denotes hdenotes (by omega))
  | clamped _ => rfl
  | refused _ hpast => exact absurd h hpast

theorem countsExactly_toCount_iff : v.CountsExactly v.toCount ↔ ¬ v.PastInt64 := by
  constructor
  · intro h hpast
    have hdenotes := h.exact _ (toCount_of_past hpast)
    rw [show (9223372036854775807 : UInt64).toNat = 9223372036854775807 from rfl] at hdenotes
    exact not_pastInt64_of_denotes hdenotes (by norm_num) hpast
  · intro hpast
    have hcases := countOf_toCount v
    generalize v.toCount = count at hcases
    cases hcases with
    | @counted n hn hdenotes =>
      constructor
      · rintro m hm
        cases hm
        rwa [UInt64.toNat_ofNat_of_lt' (by change n < 2 ^ 64; omega)]
      · intro hnone
        exact absurd hdenotes (hnone n (by omega) (by omega))
    | clamped h => exact absurd h hpast
    | refused _ _ => exact ⟨nofun, fun _ => ⟨_, _, rfl⟩⟩

end Value

/-- An executor whose scalars are all the same. -/
def Executor.answering (v : Value) : Executor Unit where
  query _ st := (.ok [], st)
  scalar _ st := (.ok v, st)
  execute _ st := (.ok 0, st)

namespace Select

/-- What is counted comes from the answer to the query for the number of rows. It is exactly what
the answer denotes, or the answer is refused because it denotes no number of rows, unless the
answer is a float past the integers of 64 bits: then the greatest of these is counted. -/
theorem count_exact_iff {σ : Type} (ex : Executor σ) (st : σ) (s : Select) :
    (∀ n, (s.count.run ex st).1 = .ok n → ∃ command v,
      s.countQuery.command false = .ok command ∧ (ex.scalar command st).1 = .ok v) ∧
    ∀ command v, s.countQuery.command false = .ok command → (ex.scalar command st).1 = .ok v →
      (v.CountsExactly (s.count.run ex st).1 ↔ ¬ v.PastInt64) ∧
      (∀ n : ℕ, n < 2 ^ 63 → v.Denotes n → (s.count.run ex st).1 = .ok (UInt64.ofNat n)) ∧
      (v.PastInt64 → (s.count.run ex st).1 = .ok 9223372036854775807) := by
  rw [run_count]
  constructor
  · intro n h
    obtain ⟨command, hcommand, h⟩ := ok_of_bind h
    obtain ⟨v, hv, -⟩ := ok_of_bind h
    exact ⟨command, v, hcommand, hv⟩
  · intro command v hcommand hv
    have hcounted : s.counted ex st = v.toCount := by
      rw [counted, hcommand, Except.bind, hv]
      rfl
    rw [hcounted]
    exact ⟨Value.countsExactly_toCount_iff, fun n hn h => Value.toCount_of_denotes hn h,
      Value.toCount_of_past⟩

/-- Blanks, a sign and zeros around the digits are no matter. -/
theorem count_exact_iff_spelled :
    let s : Select := { dialect := .access, source := .table "T", distinct := true }
    let question : Command :=
      ⟨.select, "SELECT COUNT(*) FROM (SELECT DISTINCT * FROM T) AS COUNT_SRC", []⟩
    let answer : Value := .text " +0042\t"
    let ex := Executor.answering answer
    s.countQuery.command false = .ok question ∧ (ex.scalar question ()).1 = .ok answer ∧
      answer.CountsExactly (s.count.run ex ()).1 ∧ (s.count.run ex ()).1 = .ok 42 := by
  intro s question answer ex
  have command : s.countQuery.command false = .ok question := by
    simp only [s, question]
    decide +kernel
  have denotes : answer.Denotes (42 : ℕ) := .plus 2 42
  obtain ⟨exactly, counted, -⟩ := (count_exact_iff ex () s).2 question answer command rfl
  refine ⟨command, rfl, exactly.2 ?_, counted 42 (by decide) denotes⟩
  exact Value.not_pastInt64_of_denotes denotes (by decide)

/-- The first number past the integers of 64 bits, as a float, is counted as one less. -/
theorem not_countsExactly_past :
    let s : Select := { dialect := .sqlite, source := .table "T" }
    let answer : Value := .float ⟨0x43e0000000000000⟩
    answer.Denotes 9223372036854775808 ∧
      (s.count.run (.answering answer) ()).1 = .ok 9223372036854775807 ∧
      ¬ answer.CountsExactly (s.count.run (.answering answer) ()).1 := by
  intro s answer
  have whole : (⟨0x43e0000000000000⟩ : Binary64).toInt? = some 9223372036854775808 := by
    decide +kernel
  have past : answer.PastInt64 := Value.pastInt64_of_toInt? whole (by norm_num)
  have counted : (s.count.run (.answering answer) ()).1 = answer.toCount := by
    rw [run_count]
    have command : s.countQuery.command false = .ok ⟨.select, "SELECT COUNT(*) FROM T", []⟩ := by
      simp only [s]
      decide +kernel
    rw [Select.counted, command]
    rfl
  rw [counted]
  refine ⟨Value.denotes_float_iff.2 whole, Value.toCount_of_past past, ?_⟩
  exact Value.countsExactly_toCount_iff.not.2 (not_not_intro past)

end Select

end ParamSql
