import ParamSql.Proofs.Text.Digits
import ParamSql.Timestamp.Spelling
import ParamSql.Timestamp.Text

/-!
# Laws of timestamps as text

What is asked of a library that writes timestamps and reads them. A timestamp is written by the
digits of its numbers, and digits that spell a timestamp are read as it; that both fit together is
proved, and is so unless a leap second is within a minute.
-/

namespace ParamSql

structure SpellsPair (ds : List Char) (n : Nat) : Prop where
  length : ds.length = 2
  digits : ∀ c ∈ ds, c.isDigit = true
  value : digitsValue ds = n

/-- Four digits, or a sign before at least four. -/
inductive SpellsYear : List Char → Int → Prop
  | unsigned {ds : List Char} (length : ds.length = 4) (digits : ∀ c ∈ ds, c.isDigit = true) :
    SpellsYear ds (digitsValue ds)
  | positive {ds : List Char} (length : 4 ≤ ds.length) (digits : ∀ c ∈ ds, c.isDigit = true) :
    SpellsYear ('+' :: ds) (digitsValue ds)
  | negative {ds : List Char} (length : 4 ≤ ds.length) (digits : ∀ c ∈ ds, c.isDigit = true) :
    SpellsYear ('-' :: ds) (-digitsValue ds)

namespace Spelling

structure SpellsDate (s : Spelling) (date : Calendar.Date) : Prop where
  year : SpellsYear s.year date.year
  month : SpellsPair s.month date.month
  day : SpellsPair s.day date.day

structure Spells (s : Spelling) (t : Timestamp) : Prop where
  date : s.SpellsDate t.date
  hour : SpellsPair s.hour t.hour
  minute : SpellsPair s.minute t.minute
  /-- A leap second is second 60. -/
  second : t.nanosecond < 1000000000 ∧ SpellsPair s.second t.second ∨
    1000000000 ≤ t.nanosecond ∧ t.second = 59 ∧ SpellsPair s.second 60
  digits : ∀ c ∈ s.fraction, c.isDigit = true
  length : s.fraction.length ≤ 9
  fraction : digitsValue s.fraction * Nat.pow 10 (9 - s.fraction.length) =
    t.nanosecond % 1000000000

end Spelling

open Timestamp in
/-- What is documented of a library for timestamps. -/
class LawfulTimestampText [TimestampText] : Prop where
  /-- Timestamps are serialized as ISO 8601 has them. -/
  serialize_eq : ∀ t, TimestampText.serialize t = t.spelling.text 'T'
  display_eq : ∀ t, TimestampText.display t = t.spelling.text ' '
  read?_serialized : ∀ {s : Spelling} {t : Timestamp}, s.Spells t →
    TimestampText.read? serializedFormat (s.text 'T') = some t
  read?_spaced : ∀ {s : Spelling} {t : Timestamp}, s.Spells t →
    TimestampText.read? spacedFormat (s.text ' ') = some t
  readDate?_date : ∀ {s : Spelling} {date : Calendar.Date}, s.SpellsDate date →
    TimestampText.readDate? dateFormat (String.ofList s.dateText) = some date
  /-- A format without a time of day is not enough for a timestamp. -/
  read?_date : ∀ text, TimestampText.read? dateFormat text = none
  /-- What a format has between its numbers has to stand in the text. -/
  literal : ∀ format ∈ [serializedFormat, spacedFormat], ∀ c ∈ ['T', ':'], c ∈ format.toList →
    ∀ text : String, c ∉ text.toList →
      TimestampText.read? format text = none ∧ TimestampText.readDate? format text = none

theorem Calendar.daysInMonth_le (year : Int) (month : Nat) : daysInMonth year month ≤ 31 := by
  unfold daysInMonth
  split_ifs <;> decide

namespace Timestamp

theorem length_padded {width n : Nat} (hwidth : 0 < width) (hn : n < Nat.pow 10 width) :
    (padded width n).length = width := by
  have hlength := (Nat.length_toDigits_le_iff (by decide) hwidth).2 hn
  simp only [padded, List.length_append, List.length_replicate]
  omega

theorem le_length_padded (width n : Nat) : width ≤ (padded width n).length := by
  simp only [padded, List.length_append, List.length_replicate]
  omega

theorem isDigit_of_mem_padded {width n : Nat} {c : Char} (h : c ∈ padded width n) :
    c.isDigit = true :=
  isDigit_of_mem_zeroPadded h

@[simp] theorem digitsValue_padded (width n : Nat) : digitsValue (padded width n) = n :=
  digitsValue_zeroPadded _ n

theorem spellsPair_padded {n : Nat} (hn : n < 100) : SpellsPair (padded 2 n) n where
  length := length_padded (by decide) hn
  digits _ := isDigit_of_mem_padded
  value := digitsValue_padded 2 n

theorem spellsYear_yearDigits (year : Int) : SpellsYear (yearDigits year) year := by
  unfold yearDigits
  split
  · rename_i hyear
    have spelled := SpellsYear.unsigned
      (length_padded (by decide) (show year.toNat < Nat.pow 10 4 by change _ < 10000; omega))
      fun _ => isDigit_of_mem_padded
    rwa [digitsValue_padded, Int.toNat_of_nonneg hyear.1] at spelled
  · split
    · rename_i hnegative
      have spelled := SpellsYear.negative (le_length_padded 4 year.natAbs)
        fun _ => isDigit_of_mem_padded
      rwa [digitsValue_padded, Int.ofNat_natAbs_of_nonpos (Int.le_of_lt hnegative),
        Int.neg_neg] at spelled
    · rename_i hpositive
      have spelled := SpellsYear.positive (le_length_padded 4 year.natAbs)
        fun _ => isDigit_of_mem_padded
      rwa [digitsValue_padded, Int.natAbs_of_nonneg (Int.not_lt.1 hpositive)] at spelled

/-- Three and six digits are enough where the rest of the nine would be zeros. -/
theorem value_fractionDigits {nanosecond : Nat} (h : nanosecond < 1000000000) :
    (fractionDigits nanosecond).length ≤ 9 ∧
      digitsValue (fractionDigits nanosecond) *
        Nat.pow 10 (9 - (fractionDigits nanosecond).length) = nanosecond := by
  unfold fractionDigits
  split
  · rename_i hzero
    exact ⟨Nat.zero_le 9, hzero.symm⟩
  split
  · rename_i hmillis
    rw [length_padded (by decide) (show nanosecond / 1000000 < 1000 by omega), digitsValue_padded]
    exact ⟨by decide, Nat.div_mul_cancel (Nat.dvd_of_mod_eq_zero hmillis)⟩
  split
  · rename_i hmicros
    rw [length_padded (by decide) (show nanosecond / 1000 < 1000000 by omega), digitsValue_padded]
    exact ⟨by decide, Nat.div_mul_cancel (Nat.dvd_of_mod_eq_zero hmicros)⟩
  · rw [length_padded (by decide) h, digitsValue_padded]
    exact ⟨Nat.le_refl 9, Nat.mul_one nanosecond⟩

theorem isDigit_of_mem_fractionDigits {nanosecond : Nat} {c : Char}
    (h : c ∈ fractionDigits nanosecond) : c.isDigit = true := by
  unfold fractionDigits at h
  split_ifs at h
  · exact absurd h List.not_mem_nil
  all_goals exact isDigit_of_mem_padded h

theorem spellsDate_spelling (t : Timestamp) : t.spelling.SpellsDate t.date := by
  obtain ⟨-, -, -, hmonth, -, hday⟩ := t.isDate
  have hday := Nat.le_trans hday (Calendar.daysInMonth_le t.year t.month)
  exact
    { year := spellsYear_yearDigits t.year
      month := spellsPair_padded (by omega)
      day := spellsPair_padded (by omega) }

theorem spells_spelling (t : Timestamp) (h : t.nanosecond < 1000000000 ∨ t.second = 59) :
    t.spelling.Spells t := by
  obtain ⟨hhour, hminute, hsecond, hnanosecond⟩ := t.isTime
  obtain ⟨length, fraction⟩ := value_fractionDigits (Nat.mod_lt t.nanosecond (by decide))
  have second : SpellsPair t.spelling.second (t.second + t.nanosecond / 1000000000) :=
    spellsPair_padded (by omega)
  constructor
  case date => exact t.spellsDate_spelling
  case hour => exact spellsPair_padded (by omega)
  case minute => exact spellsPair_padded (by omega)
  case second =>
    rcases Nat.lt_or_ge t.nanosecond 1000000000 with hlt | hge
    · rw [Nat.div_eq_of_lt hlt] at second
      exact .inl ⟨hlt, second⟩
    · have hlast := h.resolve_left (Nat.not_lt.2 hge)
      rw [hlast, show t.nanosecond / 1000000000 = 1 by omega] at second
      exact .inr ⟨hge, hlast, second⟩
  case digits => exact fun _ => isDigit_of_mem_fractionDigits
  case length => exact length
  case fraction => exact fraction

/-- The timestamp that is written alike and has no leap second within a minute. -/
def settled (t : Timestamp) : Timestamp :=
  if h : t.nanosecond < 1000000000 ∨ t.second = 59 then t
  else { t with
    second := t.second + 1
    nanosecond := t.nanosecond - 1000000000
    isTime := by
      obtain ⟨hhour, hminute, hsecond, hnanosecond⟩ := t.isTime
      exact ⟨hhour, hminute, by omega, by omega⟩ }

theorem settled_eq_iff (t : Timestamp) :
    t.settled = t ↔ t.nanosecond < 1000000000 ∨ t.second = 59 := by
  unfold settled
  split
  · rename_i h
    exact iff_of_true rfl h
  · rename_i h
    refine iff_of_false (fun heq => ?_) h
    have second := congrArg Timestamp.second heq
    exact absurd second (Nat.succ_ne_self t.second)

theorem nanosecond_settled (t : Timestamp) :
    t.settled.nanosecond < 1000000000 ∨ t.settled.second = 59 := by
  unfold settled
  split
  · assumption
  · obtain ⟨-, -, -, hnanosecond⟩ := t.isTime
    exact .inl (by dsimp only; omega)

theorem spelling_settled (t : Timestamp) : t.settled.spelling = t.spelling := by
  unfold settled
  split
  · rfl
  · obtain ⟨-, -, -, hnanosecond⟩ := t.isTime
    have second : t.second + 1 + (t.nanosecond - 1000000000) / 1000000000 =
        t.second + t.nanosecond / 1000000000 := by omega
    have fraction : (t.nanosecond - 1000000000) % 1000000000 =
        t.nanosecond % 1000000000 := by omega
    simp only [spelling, second, fraction]

theorem spells_settled (t : Timestamp) : t.spelling.Spells t.settled := by
  rw [← t.spelling_settled]
  exact t.settled.spells_spelling t.nanosecond_settled

end Timestamp

theorem SpellsYear.mem {ds : List Char} {year : Int} (h : SpellsYear ds year) {c : Char}
    (hc : c ∈ ds) : c.isDigit = true ∨ c = '+' ∨ c = '-' := by
  cases h with
  | unsigned _ digits => exact .inl (digits c hc)
  | positive _ digits => exact (List.mem_cons.1 hc).elim (.inr ∘ .inl) (.inl ∘ digits c)
  | negative _ digits => exact (List.mem_cons.1 hc).elim (.inr ∘ .inr) (.inl ∘ digits c)

namespace Spelling

variable {s : Spelling} {c : Char}

theorem SpellsDate.mem_dateText {date : Calendar.Date} (h : s.SpellsDate date)
    (hc : c ∈ s.dateText) : c.isDigit = true ∨ c = '+' ∨ c = '-' := by
  simp only [dateText, List.mem_append, List.mem_cons] at hc
  rcases hc with hc | rfl | hc | rfl | hc
  · exact h.year.mem hc
  · exact .inr (.inr rfl)
  · exact .inl (h.month.digits c hc)
  · exact .inr (.inr rfl)
  · exact .inl (h.day.digits c hc)

theorem Spells.mem_timeText {t : Timestamp} (h : s.Spells t) (hc : c ∈ s.timeText) :
    c.isDigit = true ∨ c = ':' ∨ c = '.' := by
  have second : ∀ c ∈ s.second, c.isDigit = true :=
    h.second.elim (·.2.digits) (·.2.2.digits)
  simp only [timeText, List.mem_append, List.mem_cons] at hc
  rcases hc with hc | rfl | hc | rfl | hc | hc
  · exact .inl (h.hour.digits c hc)
  · exact .inr (.inl rfl)
  · exact .inl (h.minute.digits c hc)
  · exact .inr (.inl rfl)
  · exact .inl (second c hc)
  · split at hc
    · contradiction
    · exact (List.mem_cons.1 hc).elim (.inr ∘ .inr) (.inl ∘ h.digits c)

end Spelling

end ParamSql
