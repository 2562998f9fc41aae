import ParamSql.Proofs.Binary64.Integers
import ParamSql.Proofs.Statement.Entity
import ParamSql.Timestamp.Layout

/-!
# Integers of entities

An integer property of an entity is bound as an integer of 64 bits or, past these, as the float
nearest to it. The floats between `2 ^ 63` and `2 ^ 64` are the multiples of 2048, so the other
integers there are bound as a number that they are not.
-/

namespace ParamSql

/-- The number that a value is worth exactly; only integers and finite floats are numbers. -/
def Value.number? : Value → Option ℚ
  | integer m => some m.toInt
  | float x => if x.isFinite then some x.value else none
  | _ => none

namespace Serialized

theorem number?_integerValue_of_lt {n : ℤ} (hlow : -2 ^ 63 ≤ n) (hhigh : n < 2 ^ 63) :
    (integerValue n).number? = some (n : ℚ) := by
  rw [integerValue, if_pos (by omega), Value.number?, Int64.toInt_ofInt_of_le hlow hhigh]

theorem number?_integerValue_of_ge {n : ℤ} (hlow : 2 ^ 63 ≤ n) (hhigh : n < 2 ^ 64) :
    (integerValue n).number? = some (n : ℚ) ↔ 2048 ∣ n := by
  obtain ⟨m, rfl⟩ := Int.eq_ofNat_of_zero_le (by omega : 0 ≤ n)
  have hlog : m.log2 = 63 := (Nat.log2_eq_iff (by omega)).2 ⟨by omega, by omega⟩
  obtain ⟨hfinite, -⟩ := Binary64.value_ofInt_natCast (n := m) (by omega) (by omega)
  have hvalue := Binary64.value_ofInt_natCast_eq_iff (n := m) (by omega) (by omega)
  have hspacing : Binary64.spacing m = 2048 := by
    rw [Binary64.spacing, hlog]
    rfl
  rw [integerValue, if_neg (by omega), Value.number?, if_pos hfinite, Option.some.injEq,
    Int.cast_natCast, hvalue, hspacing]
  exact_mod_cast Iff.rfl

theorem number?_integerValue_eq_iff {n : ℤ} (hlow : -2 ^ 63 ≤ n) (hhigh : n < 2 ^ 64) :
    (integerValue n).number? = some (n : ℚ) ↔ n < 2 ^ 63 ∨ 2048 ∣ n := by
  rcases lt_or_ge n (2 ^ 63) with hlt | hge
  · exact iff_of_true (number?_integerValue_of_lt hlow hlt) (.inl hlt)
  · rw [number?_integerValue_of_ge hge hhigh, or_iff_right (not_lt.2 hge)]

theorem error_of_toValue [TimestampText] {column : String} {type : Option StorageType}
    {property : Serialized} {e : Error} (h : property.toValue column type = .error e) :
    (∀ n, property ≠ integer n) ∧ ∃ fault, e = .unsupportedValue column fault := by
  constructor
  · rintro n rfl
    contradiction
  · cases property with
    | null | boolean b | integer n | float x => contradiction
    | text s =>
      simp only [toValue, textValue] at h
      split at h
      · contradiction
      · split at h
        · split at h
          · contradiction
          · exact ⟨_, (Except.error.inj h).symm⟩
        · contradiction
    | list items =>
      simp only [toValue] at h
      split at h
      · split at h
        · contradiction
        · exact ⟨_, (Except.error.inj h).symm⟩
      · exact ⟨_, (Except.error.inj h).symm⟩
    | object properties => exact ⟨_, (Except.error.inj h).symm⟩

end Serialized

namespace AssigningStatement

variable {s s' : AssigningStatement} {m : EntityMapping} {properties : List (String × Serialized)}

theorem exists_settings_of_setEntity [TimestampText]
    (h : s.setEntity m (.ok (.object properties)) = .ok s') :
    ∃ settings, List.Forall₂ Assignment.ConvertsTo (m.present properties) settings ∧
      s' = settings.foldl setColumn s := by
  rw [setEntity_eq] at h
  obtain ⟨as, has, rfl⟩ := ok_of_map h
  have succeeds : Succeeds (Assignment.ofProperties properties m.columns) := ⟨as, has⟩
  rw [Assignment.ofProperties_eq, succeeds_mapM] at succeeds
  obtain ⟨settings, hsettings⟩ := Assignment.exists_settings fun entry hentry =>
    succeeds_map.1 (succeeds entry hentry)
  have same := Except.ok.inj (has.symm.trans (Assignment.ofEntity_eq_ok hsettings))
  refine ⟨settings, hsettings, ?_⟩
  rw [foldl_setColumn, same]

theorem error_of_setEntity [TimestampText] {e : Error}
    (h : s.setEntity m (.ok (.object properties)) = .error e) :
    ∃ entry ∈ m.present properties,
      entry.2.toValue entry.1.name entry.1.storageType = .error e := by
  rw [setEntity_eq] at h
  have failure := error_of_map h
  rw [Assignment.ofEntity] at failure
  change Assignment.ofProperties properties m.columns = .error e at failure
  rw [Assignment.ofProperties_eq] at failure
  obtain ⟨entry, hentry, hfailure⟩ := error_of_mapM failure
  exact ⟨entry, hentry, error_of_map hfailure⟩

/-- Setting an entity fails only for a property that is no integer, and otherwise sets the column
of each property that is there. An integer property sets its column to a value worth exactly this
integer if it fits in 64 bits with a sign, or is a multiple of 2048, and to another number in
every other case. -/
theorem integers_bound_exactly_iff [TimestampText] (s : AssigningStatement) (m : EntityMapping)
    (properties : List (String × Serialized)) :
    (∀ e, s.setEntity m (.ok (.object properties)) = .error e →
      ∃ entry ∈ m.present properties, (∀ n, entry.2 ≠ .integer n) ∧
        ∃ fault, e = .unsupportedValue entry.1.name fault) ∧
    ∀ s', s.setEntity m (.ok (.object properties)) = .ok s' →
      ∃ settings, s' = settings.foldl setColumn s ∧
        List.Forall₂ (fun entry setting => setting.1 = entry.1 ∧
          ∀ n : ℤ, entry.2 = .integer n → -2 ^ 63 ≤ n → n < 2 ^ 64 →
            (setting.2.number? = some (n : ℚ) ↔ n < 2 ^ 63 ∨ 2048 ∣ n))
          (m.present properties) settings := by
  constructor
  · intro e h
    obtain ⟨entry, hentry, hfailure⟩ := error_of_setEntity h
    exact ⟨entry, hentry, Serialized.error_of_toValue hfailure⟩
  · intro s' h
    obtain ⟨settings, hsettings, rfl⟩ := exists_settings_of_setEntity h
    refine ⟨settings, rfl, hsettings.imp fun entry setting hconverts => ?_⟩
    refine ⟨hconverts.1, fun n hn hlow hhigh => ?_⟩
    have hvalue := hconverts.2
    rw [hn] at hvalue
    rw [← Except.ok.inj hvalue]
    exact Serialized.number?_integerValue_eq_iff hlow hhigh

/-- The greatest integer with a sign, whatever type its column pins, and the greatest multiple of
2048 without one. -/
theorem integers_bound_exactly_iff_greatest :
    let s : AssigningStatement := .insert { dialect := .sqlite, table := "T" }
    let columns : List (String × Column) :=
      [("n", { name := "N", storageType := some .string }), ("id", { name := "ID" })]
    let properties : List (String × Serialized) :=
      [("id", .integer 18446744073709549568), ("n", .integer 9223372036854775807)]
    ∃ settings : List (Column × Value),
      s.setEntity { entity := "E", table := "T", columns } (.ok (.object properties)) =
          .ok (settings.foldl setColumn s) ∧
      settings.map (fun setting => (setting.1.name, setting.2.number?)) =
        [("N", some 9223372036854775807), ("ID", some 18446744073709549568)] := by
  intro s columns properties
  obtain ⟨settings, hset, hsettings⟩ :=
    (integers_bound_exactly_iff s { entity := "E", table := "T", columns } properties).2 _ rfl
  refine ⟨settings, congrArg Except.ok hset, ?_⟩
  have present : EntityMapping.present { entity := "E", table := "T", columns } properties =
      [({ name := "N", storageType := some .string }, .integer 9223372036854775807),
        ({ name := "ID" }, .integer 18446744073709549568)] := rfl
  rw [present] at hsettings
  obtain - | ⟨⟨hcolumn, hn⟩, - | ⟨⟨hcolumn', hid⟩, - | -⟩⟩ := hsettings
  rw [List.map_cons, List.map_cons, hcolumn, hcolumn',
    (hn _ rfl (by norm_num) (by norm_num)).2 (by norm_num),
    (hid _ rfl (by norm_num) (by norm_num)).2 (by norm_num)]
  norm_num

/-- The second integer past those with a sign is bound as the first. -/
theorem integer_bound_inexactly :
    let s : AssigningStatement := .insert { dialect := .sqlite, table := "T" }
    let m : EntityMapping := { entity := "E", table := "T", columns := [("id", { name := "id" })] }
    s.setEntity m (.ok (.object [("id", .integer 9223372036854775809)])) =
        .ok (s.withAssignments [.value (.newValue "id" (.float ⟨0x43e0000000000000⟩))]) ∧
      (Value.float ⟨0x43e0000000000000⟩).number? = some 9223372036854775808 := by
  refine ⟨rfl, ?_⟩
  decide +kernel

end AssigningStatement

end ParamSql
