import Mathlib.Data.List.Basic
import Mathlib.Data.List.TakeWhile
import ParamSql.Proofs.Timestamp.Laws
import ParamSql.Timestamp.Layout

/-!
# Layouts read what is spelled

Each item of a layout takes the digits that spell its number and stops where they end. Item by
item a layout then reads the date and the time that a text spells, and a text that lacks a letter
of the layout is not read at all.
-/

namespace ParamSql

theorem Text.not_isBlank_of_isDigit {c : Char} (h : c.isDigit = true) : isBlank c = false := by
  obtain ⟨hlt, hchar⟩ := digitChar_of_isDigit h
  have digits : ∀ d < 10, isBlank (Nat.digitChar d) = false := by decide
  exact hchar ▸ digits _ hlt

namespace Timestamp

section Numbers

variable {ds : List Char}

theorem takeWhile_digits_append (hdigits : ∀ c ∈ ds, c.isDigit = true) {behind : List Char}
    (hbehind : behind.takeWhile Char.isDigit = []) :
    (ds ++ behind).takeWhile Char.isDigit = ds := by
  rw [List.takeWhile_append_of_pos hdigits, hbehind, List.append_nil]

theorem takeNumber?_append {most : Nat} (hdigits : ∀ c ∈ ds, c.isDigit = true) (hne : ds ≠ [])
    (hmost : ds.length ≤ most) {behind : List Char} (hbehind : behind.takeWhile Char.isDigit = []) :
    takeNumber? most (ds ++ behind) = some (digitsValue ds, behind) := by
  simp only [takeNumber?, takeWhile_digits_append hdigits hbehind,
    List.take_of_length_le hmost, if_neg hne, List.drop_left]

theorem dropBlanks_append (hdigits : ∀ c ∈ ds, c.isDigit = true) (hne : ds ≠ [])
    (behind : List Char) :
    Text.dropBlanks (ds ++ behind) = ds ++ behind := by
  cases ds with
  | nil => exact absurd rfl hne
  | cons c ds =>
    have blank := Text.not_isBlank_of_isDigit (hdigits c List.mem_cons_self)
    exact List.dropWhile_cons_of_neg (by simp [blank])

theorem takeField?_append {limit n : Nat} (h : SpellsPair ds n) (hn : n ≤ limit)
    (behind : List Char) (hbehind : behind.takeWhile Char.isDigit = []) :
    takeField? limit (ds ++ behind) = some (n, behind) := by
  have hne : ds ≠ [] := List.ne_nil_of_length_pos (by rw [h.length]; decide)
  rw [takeField?, dropBlanks_append h.digits hne,
    takeNumber?_append h.digits hne h.length.le hbehind, h.value]
  simp [hn]

theorem takeYear?_of_isDigit {c : Char} (hc : c.isDigit = true) (cs : List Char) :
    takeYear? (c :: cs) = (takeNumber? 4 (c :: cs)).map fun (n, rest) => ((n : Int), rest) := by
  rw [takeYear?]
  all_goals
    rintro rest ⟨⟩
    exact absurd hc (by decide)

/-- Without a sign a year of four digits is taken, with one a year of any number of them. -/
theorem takeYear?_append {year : Int} (h : SpellsYear ds year) (behind : List Char)
    (hbehind : behind.takeWhile Char.isDigit = []) :
    takeYear? (Text.dropBlanks (ds ++ behind)) = some (year, behind) := by
  have signed {ds : List Char} (hlength : 4 ≤ ds.length) (hdigits : ∀ c ∈ ds, c.isDigit = true) :
      takeNumber? (ds ++ behind).length (ds ++ behind) = some (digitsValue ds, behind) :=
    takeNumber?_append hdigits (List.ne_nil_of_length_pos (by omega)) (by simp) hbehind
  cases h with
  | unsigned length digits =>
    have hne : ds ≠ [] := List.ne_nil_of_length_pos (by omega)
    have number := takeNumber?_append digits hne length.le hbehind
    rw [dropBlanks_append digits hne]
    cases ds with
    | nil => contradiction
    | cons c ds =>
      rw [List.cons_append] at number ⊢
      rw [takeYear?_of_isDigit (digits c List.mem_cons_self), number]
      rfl
  | positive length digits =>
    rw [List.cons_append, Text.dropBlanks, List.dropWhile_cons_of_neg (by decide), takeYear?,
      signed length digits]
    rfl
  | negative length digits =>
    rw [List.cons_append, Text.dropBlanks, List.dropWhile_cons_of_neg (by decide), takeYear?,
      signed length digits]
    rfl

theorem takeFraction?_digits (hdigits : ∀ c ∈ ds, c.isDigit = true) (hlength : ds.length ≤ 9) :
    takeFraction? (if ds = [] then [] else '.' :: ds) =
      some (digitsValue ds * Nat.pow 10 (9 - ds.length), []) := by
  split
  · rename_i hnone
    subst hnone
    rfl
  · rename_i hne
    have taken : ds.takeWhile Char.isDigit = ds := List.takeWhile_eq_self_iff.2 hdigits
    have dropped : ds.dropWhile Char.isDigit = [] := List.dropWhile_eq_nil_iff.2 hdigits
    simp only [takeFraction?, taken, dropped, List.take_of_length_le hlength, if_neg hne]

end Numbers

def dateItems : Layout := [.year, .literal '-', .month, .literal '-', .day]

def timeItems : Layout := [.hour, .literal ':', .minute, .literal ':', .second, .fraction]

theorem layoutOf_serializedFormat :
    layoutOf serializedFormat.toList = dateItems ++ .literal 'T' :: timeItems := by decide

theorem layoutOf_spacedFormat :
    layoutOf spacedFormat.toList = dateItems ++ .blanks :: timeItems := by decide

theorem layoutOf_dateFormat : layoutOf dateFormat.toList = dateItems := by decide

theorem read?_dateItems_append {s : Spelling} {date : Calendar.Date} (h : s.SpellsDate date)
    (layout : Layout) (behind : List Char) (hbehind : behind.takeWhile Char.isDigit = [])
    (p : Parts) :
    Layout.read? (dateItems ++ layout) (s.dateText ++ behind) p =
      layout.read? behind { p with year := date.year, month := date.month, day := date.day } := by
  obtain ⟨-, -, -, hmonth, -, hday⟩ := date.isDate
  have hday := Nat.le_trans hday (Calendar.daysInMonth_le date.year date.month)
  have year := takeYear?_append h.year ('-' :: (s.month ++ '-' :: (s.day ++ behind))) rfl
  have month := takeField?_append h.month hmonth ('-' :: (s.day ++ behind)) rfl
  have day := takeField?_append h.day hday behind hbehind
  simp only [dateItems, Spelling.dateText, List.cons_append, List.append_assoc, List.nil_append,
    Layout.read?, Item.read?, year, month, day, Option.map_some, Option.bind_some, if_true]

variable {s : Spelling} {t : Timestamp}

theorem read?_timeItems (h : s.Spells t) {second : Nat} (hsecond : SpellsPair s.second second)
    (hsixty : second ≤ 60) (p : Parts) :
    Layout.read? timeItems s.timeText p =
      some { p with
        hour := some t.hour
        minute := some t.minute
        second
        nanosecond := t.nanosecond % 1000000000 } := by
  obtain ⟨hhour, hminute, -, -⟩ := t.isTime
  have fraction := takeFraction?_digits h.digits h.length
  rw [h.fraction] at fraction
  generalize hpoint : (if s.fraction = [] then [] else '.' :: s.fraction) = point at fraction
  have behind : point.takeWhile Char.isDigit = [] := by
    rw [← hpoint]
    split <;> rfl
  have second := takeField?_append hsecond hsixty point behind
  have minute := takeField?_append h.minute (Nat.le_of_lt_succ hminute)
    (':' :: (s.second ++ point)) rfl
  have hour := takeField?_append h.hour (Nat.le_of_lt_succ hhour)
    (':' :: (s.minute ++ ':' :: (s.second ++ point))) rfl
  simp only [timeItems, Spelling.timeText, hpoint, Layout.read?, Item.read?, hour, minute, second,
    fraction, Option.map_some, Option.bind_some, if_true]

theorem toTimestamp?_timeItems (h : s.Spells t) :
    (Layout.read? timeItems s.timeText { year := t.year, month := t.month, day := t.day }).bind
      Parts.toTimestamp? = some t := by
  obtain ⟨-, -, hlt, hnanosecond⟩ := t.isTime
  rcases h.second with ⟨hwhole, hsecond⟩ | ⟨hleap, hlast, hsecond⟩
  · rw [read?_timeItems h hsecond (by omega), Nat.mod_eq_of_lt hwhole]
    exact (if_neg hlt.ne).trans (ofParts?_parts t (.inl hwhole))
  · have nanosecond : 1000000000 + t.nanosecond % 1000000000 = t.nanosecond := by omega
    rw [read?_timeItems h hsecond (by decide)]
    change ofParts? t.year t.month t.day t.hour t.minute 59
      (1000000000 + t.nanosecond % 1000000000) = some t
    rw [nanosecond, ← hlast]
    exact ofParts?_parts t (.inr hlast)

theorem takeNumber?_suffix {most n : Nat} {cs rest : List Char}
    (h : takeNumber? most cs = some (n, rest)) : rest <:+ cs := by
  unfold takeNumber? at h
  dsimp only at h
  split at h
  · contradiction
  · obtain ⟨-, rfl⟩ := Prod.mk.inj (Option.some.inj h)
    exact List.drop_suffix _ _

theorem takeField?_suffix {limit n : Nat} {cs rest : List Char}
    (h : takeField? limit cs = some (n, rest)) : rest <:+ cs :=
  (takeNumber?_suffix (Option.filter_eq_some_iff.1 h).1).trans (List.dropWhile_suffix _)

theorem takeYear?_suffix {year : Int} {cs rest : List Char}
    (h : takeYear? cs = some (year, rest)) : rest <:+ cs := by
  unfold takeYear? at h
  split at h
  all_goals
    obtain ⟨⟨n, rest'⟩, hnumber, heq⟩ := Option.map_eq_some_iff.1 h
    obtain ⟨-, rfl⟩ := Prod.mk.inj heq
    have := takeNumber?_suffix hnumber
  · exact this.trans (List.suffix_cons _ _)
  · exact this.trans (List.suffix_cons _ _)
  · exact this

theorem takeFraction?_suffix {n : Nat} {cs rest : List Char}
    (h : takeFraction? cs = some (n, rest)) : rest <:+ cs := by
  unfold takeFraction? at h
  split at h
  · dsimp only at h
    split at h
    · contradiction
    · obtain ⟨-, rfl⟩ := Prod.mk.inj (Option.some.inj h)
      exact (List.dropWhile_suffix _).trans (List.suffix_cons _ _)
  · obtain ⟨-, rfl⟩ := Prod.mk.inj (Option.some.inj h)
    exact List.suffix_rfl

/-- What is behind an item is a rest of the text, a letter stands in the text, and only the hour
is read as one. -/
theorem Item.read?_eq_some {item : Item} {cs rest : List Char} {p q : Parts}
    (h : item.read? cs p = some (q, rest)) :
    rest <:+ cs ∧ (∀ c, item = .literal c → c ∈ cs) ∧ (item ≠ .hour → q.hour = p.hour) := by
  cases item with
  | year =>
    obtain ⟨⟨n, rest'⟩, htaken, heq⟩ := Option.map_eq_some_iff.1 h
    obtain ⟨rfl, rfl⟩ := Prod.mk.inj heq
    exact ⟨(takeYear?_suffix htaken).trans (List.dropWhile_suffix _), nofun, fun _ => rfl⟩
  | month | day | minute | second =>
    obtain ⟨⟨n, rest'⟩, htaken, heq⟩ := Option.map_eq_some_iff.1 h
    obtain ⟨rfl, rfl⟩ := Prod.mk.inj heq
    exact ⟨takeField?_suffix htaken, nofun, fun _ => rfl⟩
  | hour =>
    obtain ⟨⟨n, rest'⟩, htaken, heq⟩ := Option.map_eq_some_iff.1 h
    obtain ⟨-, rfl⟩ := Prod.mk.inj heq
    exact ⟨takeField?_suffix htaken, nofun, fun hne => absurd rfl hne⟩
  | fraction =>
    obtain ⟨⟨n, rest'⟩, htaken, heq⟩ := Option.map_eq_some_iff.1 h
    obtain ⟨rfl, rfl⟩ := Prod.mk.inj heq
    exact ⟨takeFraction?_suffix htaken, nofun, fun _ => rfl⟩
  | literal c =>
    unfold read? at h
    dsimp only at h
    split at h
    · split at h
      · rename_i d rest' heq
        obtain ⟨rfl, rfl⟩ := Prod.mk.inj (Option.some.inj h)
        refine ⟨List.suffix_cons _ _, ?_, fun _ => rfl⟩
        rintro c' ⟨⟩
        exact heq ▸ List.mem_cons_self
      · contradiction
    · contradiction
  | blanks =>
    obtain ⟨rfl, rfl⟩ := Prod.mk.inj (Option.some.inj h)
    exact ⟨List.dropWhile_suffix _, nofun, fun _ => rfl⟩

theorem mem_of_read? {layout : Layout} {cs : List Char} {p q : Parts}
    (h : layout.read? cs p = some q) {c : Char} (hc : .literal c ∈ layout) : c ∈ cs := by
  induction layout generalizing cs p with
  | nil => exact absurd hc List.not_mem_nil
  | cons item layout ih =>
    obtain ⟨⟨p', rest⟩, hitem, hrest⟩ := Option.bind_eq_some_iff.1 h
    obtain ⟨hsuffix, hletter, -⟩ := Item.read?_eq_some hitem
    rcases List.mem_cons.1 hc with hfirst | hmem
    · exact hletter c hfirst.symm
    · exact hsuffix.subset (ih hrest hmem)

theorem readParts?_eq_none {format text : String} {c : Char}
    (hc : .literal c ∈ layoutOf format.toList) (htext : c ∉ text.toList) :
    readParts? format text = none := by
  cases h : readParts? format text with
  | none => rfl
  | some q => exact absurd (mem_of_read? h hc) htext

theorem readParts?_text {s : Spelling} {date : Calendar.Date} (h : s.SpellsDate date)
    {format : String} {item : Item} {layout : Layout} {separator : Char}
    (hformat : layoutOf format.toList = dateItems ++ item :: layout)
    (hseparator : separator.isDigit = false) :
    readParts? format (s.text separator) =
      Layout.read? (item :: layout) (separator :: s.timeText)
        { year := date.year, month := date.month, day := date.day } := by
  have behind : (separator :: s.timeText).takeWhile Char.isDigit = [] :=
    List.takeWhile_cons_of_neg (by simp [hseparator])
  rw [readParts?, Spelling.text, String.toList_ofList, hformat,
    read?_dateItems_append h _ _ behind]

theorem readParts?_date {s : Spelling} {date : Calendar.Date} (h : s.SpellsDate date) :
    readParts? dateFormat (String.ofList s.dateText) =
      some { year := date.year, month := date.month, day := date.day } := by
  have read := read?_dateItems_append h [] [] rfl {}
  rw [List.append_nil, List.append_nil] at read
  rw [readParts?, String.toList_ofList, layoutOf_dateFormat, read]
  rfl

theorem hour_of_read? {layout : Layout} (hlayout : .hour ∉ layout) {cs : List Char} {p q : Parts}
    (h : layout.read? cs p = some q) : q.hour = p.hour := by
  induction layout generalizing cs p with
  | nil =>
    obtain ⟨-, h⟩ := Option.ite_none_right_eq_some.1 h
    rw [← Option.some.inj h]
  | cons item layout ih =>
    obtain ⟨⟨p', rest⟩, hitem, hrest⟩ := Option.bind_eq_some_iff.1 h
    obtain ⟨-, -, hkept⟩ := Item.read?_eq_some hitem
    have first : item ≠ .hour := fun heq => hlayout (heq ▸ List.mem_cons_self)
    rw [ih (fun hmem => hlayout (List.mem_cons_of_mem _ hmem)) hrest, hkept first]

instance : LawfulTimestampText where
  serialize_eq _ := rfl
  display_eq _ := rfl
  read?_serialized {s t} h := by
    change (readParts? _ _).bind _ = _
    rw [readParts?_text h.date layoutOf_serializedFormat rfl]
    exact toTimestamp?_timeItems h
  read?_spaced {s t} h := by
    have blanks : Text.dropBlanks (' ' :: s.timeText) = s.timeText := by
      have hour : s.hour ≠ [] := List.ne_nil_of_length_pos (by rw [h.hour.length]; decide)
      rw [Text.dropBlanks, List.dropWhile_cons_of_pos (by decide)]
      exact dropBlanks_append h.hour.digits hour _
    change (readParts? _ _).bind _ = _
    rw [readParts?_text h.date layoutOf_spacedFormat rfl, Layout.read?, Item.read?, blanks]
    exact toTimestamp?_timeItems h
  readDate?_date {s date} h := by
    change (readParts? _ _).bind _ = _
    rw [readParts?_date h]
    exact dif_pos date.isDate
  read?_date text := by
    change (readParts? _ _).bind _ = none
    cases h : readParts? dateFormat text with
    | none => rfl
    | some p =>
      rw [readParts?, layoutOf_dateFormat] at h
      have hour : p.hour = none := hour_of_read? (by decide) h
      simp [Parts.toTimestamp?, hour]
  literal format hformat c hc hmem text htext := by
    have item : ∀ format ∈ [serializedFormat, spacedFormat], ∀ c ∈ ['T', ':'],
        c ∈ format.toList → .literal c ∈ layoutOf format.toList := by
      intro format hformat c hc hmem
      rcases List.mem_pair.1 hformat with rfl | rfl
      · rw [layoutOf_serializedFormat]
        rcases List.mem_pair.1 hc with rfl | rfl <;> decide
      · rw [layoutOf_spacedFormat]
        rcases List.mem_pair.1 hc with rfl | rfl
        · exact absurd hmem (by decide)
        · decide
    have unread := readParts?_eq_none (item format hformat c hc hmem) htext
    constructor
    · change (readParts? _ _).bind _ = none
      rw [unread]
      rfl
    · change (readParts? _ _).bind _ = none
      rw [unread]
      rfl

end Timestamp

end ParamSql
