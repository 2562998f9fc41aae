import ParamSql.Entity.Serialized
import ParamSql.Proofs.Timestamp.Layout

/-!
# Timestamps survive serialization

The text that a timestamp is serialized to, and the one that it converts to, differ in what stands
between date and time, and each is read by one of the formats that a text is tried in. A column
that accepts timestamps, or the form of the text where no column decides, makes it the timestamp
that it was written from.
-/

namespace ParamSql

namespace Timestamp

variable [TimestampText] [LawfulTimestampText]

theorem readSerialized?_serialize (t : Timestamp) :
    readSerialized? (TimestampText.serialize t) = some t.settled := by
  rw [LawfulTimestampText.serialize_eq]
  exact LawfulTimestampText.read?_serialized t.spells_settled

theorem read?_of_not_mem {text : String} (h : 'T' ∉ text.toList) :
    TimestampText.read? serializedFormat text = none ∧
      TimestampText.readDate? serializedFormat text = none :=
  LawfulTimestampText.literal serializedFormat (by decide) 'T' (by decide) (by decide) text h

theorem not_mem_display (t : Timestamp) : 'T' ∉ (TimestampText.display t).toList := by
  rw [LawfulTimestampText.display_eq, Spelling.text, String.toList_ofList]
  intro h
  rcases List.mem_append.1 h with hdate | htime
  · exact absurd (t.spellsDate_spelling.mem_dateText hdate) (by decide)
  · rcases List.mem_cons.1 htime with hblank | htime
    · exact absurd hblank (by decide)
    · exact absurd (t.spells_settled.mem_timeText htime) (by decide)

theorem readSerialized?_display (t : Timestamp) :
    readSerialized? (TimestampText.display t) = none :=
  (read?_of_not_mem t.not_mem_display).1

theorem read?_serialize (t : Timestamp) : read? (TimestampText.serialize t) = some t.settled := by
  have first := t.readSerialized?_serialize
  unfold readSerialized? at first
  rw [read?, List.findSome?_cons, first]
  rfl

theorem read?_display (t : Timestamp) : read? (TimestampText.display t) = some t.settled := by
  obtain ⟨first, firstDate⟩ := read?_of_not_mem t.not_mem_display
  have second : TimestampText.read? spacedFormat (TimestampText.display t) = some t.settled := by
    rw [LawfulTimestampText.display_eq]
    exact LawfulTimestampText.read?_spaced t.spells_settled
  simp [read?, first, firstDate, second]

/-- A date without a time is refused by the formats with one. -/
theorem read?_dateText (date : Calendar.Date) :
    read? (String.ofList (midnight date).spelling.dateText) = some (midnight date) := by
  have spells := (midnight date).spellsDate_spelling
  generalize htext : String.ofList (midnight date).spelling.dateText = text
  have digits : ∀ c ∈ text.toList, c.isDigit = true ∨ c = '+' ∨ c = '-' := by
    rw [← htext, String.toList_ofList]
    exact fun c hc => spells.mem_dateText hc
  obtain ⟨first, firstDate⟩ := read?_of_not_mem fun h => absurd (digits 'T' h) (by decide)
  obtain ⟨second, secondDate⟩ := LawfulTimestampText.literal spacedFormat (by decide) ':'
    (by decide) (by decide) text fun h => absurd (digits ':' h) (by decide)
  have third : TimestampText.readDate? dateFormat text = some date := by
    rw [← htext]
    exact LawfulTimestampText.readDate?_date spells
  simp [read?, first, firstDate, second, secondDate, third, LawfulTimestampText.read?_date text]

end Timestamp

namespace Serialized

open Timestamp

variable [TimestampText]

theorem toValue_of_read? {text : String} {t : Timestamp} (h : read? text = some t)
    (column : String) (type : StorageType) :
    (Serialized.text text).toValue column (some type) =
      .ok (if type = .date ∨ type = .dateTime then .timestamp t else .text text) := by
  have isTemporal_iff : isTemporal type = true ↔ type = .date ∨ type = .dateTime := by
    cases type <;> decide
  simp only [toValue, textValue, isTemporal_iff, h]
  split_ifs <;> rfl

end Serialized

namespace Timestamp

/-- A timestamp survives being serialized: its text converts back where the column pins no type or
one of timestamps, and stays a text in all other columns. So does its text with a blank, but that
stays a text also where the column pins nothing; and the text of a date converts to the midnight
that begins it. What comes back is the timestamp itself unless it has a leap second within a
minute, which is written as the second behind it. -/
theorem conversion_round_trip [TimestampText] [LawfulTimestampText] (column : String)
    (t : Timestamp) :
    (Serialized.text (TimestampText.serialize t)).toValue column none =
      .ok (.timestamp t.settled) ∧
    (∀ type : StorageType,
      (Serialized.text (TimestampText.serialize t)).toValue column (some type) =
        .ok (if type = .date ∨ type = .dateTime then .timestamp t.settled
          else .text (TimestampText.serialize t))) ∧
    (∃ s, (Value.timestamp t).toText = .ok s ∧
      (Serialized.text s).toValue column none = .ok (.text s) ∧
      ∀ type : StorageType, (Serialized.text s).toValue column (some type) =
        .ok (if type = .date ∨ type = .dateTime then .timestamp t.settled else .text s)) ∧
    (t.settled = t ↔ t.nanosecond < 1000000000 ∨ t.second = 59) ∧
    ∀ (date : Calendar.Date) (type : StorageType), type = .date ∨ type = .dateTime →
      (Serialized.text (String.ofList (midnight date).spelling.dateText)).toValue column
        (some type) = .ok (.timestamp (midnight date)) := by
  refine ⟨?_, Serialized.toValue_of_read? t.read?_serialize column,
    ⟨TimestampText.display t, rfl, ?_, Serialized.toValue_of_read? t.read?_display column⟩,
    t.settled_eq_iff, ?_⟩
  · simp only [Serialized.toValue, Serialized.textValue, readSerialized?_serialize]
  · simp only [Serialized.toValue, Serialized.textValue, readSerialized?_display]
  · intro date type htype
    rw [Serialized.toValue_of_read? (read?_dateText date) column type, if_pos htype]

/-- A leap second of a year with five digits, and the last day of a February in a year with a
sign. -/
theorem conversion_round_trip_leap :
    (∃ t : Timestamp, t.second = 59 ∧ t.nanosecond = 1500000000 ∧
      (Serialized.text "+10000-12-31T23:59:60.500").toValue "at" none = .ok (.timestamp t) ∧
      (Serialized.text "+10000-12-31 23:59:60.500").toValue "at" (some .date) =
        .ok (.timestamp t)) ∧
    (Serialized.text "-0004-02-29").toValue "at" (some .dateTime) =
      .ok (.timestamp (midnight ⟨-4, 2, 29, by decide⟩)) := by
  let t : Timestamp := ⟨10000, 12, 31, 23, 59, 59, 1500000000, by decide, by decide⟩
  obtain ⟨untyped, -, ⟨s, hs, -, typed⟩, settled, midnights⟩ := conversion_round_trip "at" t
  have serialized : TimestampText.serialize t = "+10000-12-31T23:59:60.500" := by decide +kernel
  have spaced : s = "+10000-12-31 23:59:60.500" :=
    (Except.ok.inj hs).symm.trans (by decide +kernel)
  have bare : String.ofList (midnight ⟨-4, 2, 29, by decide⟩).spelling.dateText =
      "-0004-02-29" := by decide +kernel
  have bare_midnight := midnights ⟨-4, 2, 29, by decide⟩ .dateTime (by decide)
  rw [settled.2 (.inr rfl)] at untyped typed
  rw [serialized] at untyped
  rw [spaced] at typed
  rw [bare] at bare_midnight
  exact ⟨⟨t, rfl, rfl, untyped, typed .date⟩, bare_midnight⟩

/-- A leap second within a minute comes back as the second behind it. -/
theorem leap_second_moved :
    ∃ t : Timestamp, t.second = 30 ∧ t.nanosecond = 1500000000 ∧
      TimestampText.serialize t = "2024-05-01T00:00:31.500" ∧
      (Serialized.text "2024-05-01T00:00:31.500").toValue "at" none ≠ .ok (.timestamp t) ∧
      (Serialized.text "2024-05-01T00:00:31.500").toValue "at" none =
        .ok (.timestamp ⟨2024, 5, 1, 0, 0, 31, 500000000, by decide, by decide⟩) := by
  refine ⟨⟨2024, 5, 1, 0, 0, 30, 1500000000, by decide, by decide⟩, rfl, rfl, ?_, ?_, ?_⟩
  · decide +kernel
  · decide +kernel
  · decide +kernel

end Timestamp

end ParamSql
