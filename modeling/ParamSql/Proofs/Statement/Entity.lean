import ParamSql.Proofs.Agreement
import ParamSql.Proofs.KeyedList
import ParamSql.Statement.Update
import ParamSql.Timestamp.Layout

/-!
# Setting entities column by column

A mapping holds, for each property in the order in which they were first mapped, the column it was
last mapped to. To set an entity is to set the column of each mapped property that the entity has,
in that order, to the value the property converts to; the first property that does not convert is
what setting the entity fails with.
-/

namespace ParamSql

namespace EntityMapping

def mapAll (m : EntityMapping) (mapped : List (String × Column)) : EntityMapping :=
  mapped.foldl (fun m (property, column) => m.mapColumn property column) m

theorem mapAll_eq (m : EntityMapping) (mapped : List (String × Column)) :
    m.mapAll mapped = { m with
      columns := mapped.foldl (fun columns entry => replaceOrAppend Prod.fst entry columns)
        m.columns } := by
  induction mapped generalizing m with
  | nil => rfl
  | cons entry mapped ih => exact ih (m.mapColumn entry.1 entry.2)

/-- The column of a mapped property that is there, with what the property holds. -/
def held? (properties : List (String × Serialized)) (entry : String × Column) :
    Option (Column × Serialized) :=
  (properties.lookup entry.1).map fun property => (entry.2, property)

/-- The mapped properties that are there, in the order of the mapping. -/
def present (m : EntityMapping) (properties : List (String × Serialized)) :
    List (Column × Serialized) :=
  m.columns.filterMap (held? properties)

theorem present_filter_mapped (m : EntityMapping) (properties : List (String × Serialized)) :
    m.present (properties.filter fun p => p.1 ∈ m.columns.map Prod.fst) =
      m.present properties := by
  have kept (name : String) (hname : name ∈ m.columns.map Prod.fst) :
      (properties.filter fun p => p.1 ∈ m.columns.map Prod.fst).lookup name =
        properties.lookup name := by
    induction properties with
    | nil => rfl
    | cons p properties ih =>
      obtain ⟨other, value⟩ := p
      by_cases hother : other ∈ m.columns.map Prod.fst
      · rw [List.filter_cons_of_pos (by simpa using hother), List.lookup_cons, List.lookup_cons, ih]
      · have hne : (name == other) = false := by
          rw [beq_eq_false_iff_ne]
          rintro rfl
          exact hother hname
        rw [List.filter_cons_of_neg (by simpa using hother), List.lookup_cons, hne, ih]
  refine List.filterMap_congr fun entry hentry => ?_
  rw [held?, held?, kept entry.1 (List.mem_map_of_mem hentry)]

theorem present_filter_present (m : EntityMapping) (properties : List (String × Serialized)) :
    ({ m with columns := m.columns.filter fun c => c.1 ∈ properties.map Prod.fst }
        : EntityMapping).present properties = m.present properties := by
  unfold present
  rw [List.filterMap_filter]
  refine List.filterMap_congr fun entry _ => ?_
  by_cases hname : entry.1 ∈ properties.map Prod.fst
  · rw [if_pos (by simpa using hname)]
  · have absent : properties.lookup entry.1 = none := by
      rw [List.lookup_eq_none_iff]
      intro p hp
      rw [bne_iff_ne]
      intro heq
      rw [heq] at hname
      exact hname (List.mem_map_of_mem hp)
    rw [if_neg (by simpa using hname), held?, absent, Option.map_none]

end EntityMapping

namespace Assignment

/-- The value of a column, with the storage type that the column pins, if it does. -/
def ofColumn (column : Column) (v : Value) : Assignment :=
  match column.storageType with
  | some type => ofTypedValue column.name v type
  | none => ofValue column.name v

/-- What a column is set to: the value that its property converts to. -/
def ConvertsTo [TimestampText] (entry : Column × Serialized) (setting : Column × Value) : Prop :=
  setting.1 = entry.1 ∧ entry.2.toValue entry.1.name entry.1.storageType = .ok setting.2

theorem ofProperty_eq [TimestampText] (column : Column) (property : Serialized) :
    ofProperty column property =
      (property.toValue column.name column.storageType).map (ofColumn column) := rfl

/-- By induction along the mapping, one assignment for each property that is there. -/
theorem ofProperties_eq [TimestampText] (m : EntityMapping)
    (properties : List (String × Serialized)) :
    ofProperties properties m.columns =
      (m.present properties).mapM fun entry => ofProperty entry.1 entry.2 := by
  unfold EntityMapping.present
  induction m.columns with
  | nil => rfl
  | cons entry rest ih =>
    obtain ⟨name, column⟩ := entry
    unfold ofProperties
    cases hproperty : properties.lookup name with
    | none =>
      have held : EntityMapping.held? properties (name, column) = none := by
        rw [EntityMapping.held?, hproperty, Option.map_none]
      rw [List.filterMap_cons_none held]
      exact ih
    | some property =>
      have held : EntityMapping.held? properties (name, column) = some (column, property) := by
        rw [EntityMapping.held?, hproperty, Option.map_some]
      rw [List.filterMap_cons_some held, List.mapM_cons, ← ih]
      rfl

theorem exists_ofColumn_of_mem [TimestampText] {m : EntityMapping}
    {entity : Except String Serialized} {as : List Assignment} (h : ofEntity m entity = .ok as)
    {a : Assignment} (ha : a ∈ as) : ∃ column v, a = ofColumn column v := by
  cases entity with
  | error reason => contradiction
  | ok data =>
    obtain ⟨properties, -, h⟩ := ok_of_bind h
    rw [ofProperties_eq] at h
    obtain ⟨⟨column, property⟩, -, hproperty⟩ := exists_of_mem_mapM h ha
    rw [ofProperty_eq] at hproperty
    obtain ⟨v, -, rfl⟩ := ok_of_map hproperty
    exact ⟨column, v, rfl⟩

theorem ofEntity_eq_ok [TimestampText] {m : EntityMapping}
    {properties : List (String × Serialized)} {settings : List (Column × Value)}
    (h : List.Forall₂ ConvertsTo (m.present properties) settings) :
    ofEntity m (.ok (.object properties)) =
      .ok (settings.map fun setting => ofColumn setting.1 setting.2) := by
  have each : List.Forall₂ (fun entry a => ofProperty entry.1 entry.2 = .ok a)
      (m.present properties) (settings.map fun setting => ofColumn setting.1 setting.2) := by
    rw [List.forall₂_map_right_iff]
    refine h.imp fun entry setting hsetting => ?_
    obtain ⟨hcolumn, hvalue⟩ := hsetting
    rw [ofProperty_eq, hvalue, hcolumn]
    rfl
  exact (ofProperties_eq m properties).trans (mapM_of_forall₂ each)

theorem ofEntity_eq_error [TimestampText] {m : EntityMapping}
    {properties : List (String × Serialized)} {before after : List (Column × Serialized)}
    {column : Column} {property : Serialized} {e : Error}
    (hpresent : m.present properties = before ++ (column, property) :: after)
    (hbefore : ∀ entry ∈ before, Succeeds (entry.2.toValue entry.1.name entry.1.storageType))
    (hproperty : property.toValue column.name column.storageType = .error e) :
    ofEntity m (.ok (.object properties)) = .error e := by
  have failure : ofProperty column property = .error e := by
    rw [ofProperty_eq, hproperty]
    rfl
  have along := ofProperties_eq m properties
  rw [hpresent] at along
  exact along.trans (mapM_eq_error_of_first (fun entry hentry =>
    succeeds_map.2 (hbefore entry hentry)) failure)

/-- A property converts to one value. -/
theorem rightUnique_convertsTo [TimestampText] : Relator.RightUnique ConvertsTo := by
  rintro entry ⟨column, v⟩ ⟨column', v'⟩ ⟨hcolumn, hv⟩ ⟨hcolumn', hv'⟩
  exact Prod.ext (hcolumn.trans hcolumn'.symm) (Except.ok.inj (hv.symm.trans hv'))

theorem exists_settings [TimestampText] {entries : List (Column × Serialized)}
    (h : ∀ entry ∈ entries, Succeeds (entry.2.toValue entry.1.name entry.1.storageType)) :
    ∃ settings, List.Forall₂ ConvertsTo entries settings := by
  induction entries with
  | nil => exact ⟨[], .nil⟩
  | cons entry entries ih =>
    obtain ⟨v, hv⟩ := h entry List.mem_cons_self
    obtain ⟨settings, hsettings⟩ := ih fun entry hentry => h entry (List.mem_cons_of_mem _ hentry)
    exact ⟨(entry.1, v) :: settings, .cons ⟨rfl, hv⟩ hsettings⟩

end Assignment

inductive AssigningStatement
  | insert (i : Insert)
  | update (u : Update)

namespace AssigningStatement

def assignments : AssigningStatement → List Assignment
  | insert i => i.assignments
  | update u => u.assignments

def withAssignments (assignments : List Assignment) : AssigningStatement → AssigningStatement
  | insert i => insert { i with assignments }
  | update u => update { u with assignments }

def set (s : AssigningStatement) (column : String) (v : Value) : AssigningStatement :=
  match s with
  | insert i => insert (i.set column v)
  | update u => update (u.set column v)

def setTyped (s : AssigningStatement) (column : String) (v : Value) (type : StorageType) :
    AssigningStatement :=
  match s with
  | insert i => insert (i.setTyped column v type)
  | update u => update (u.setTyped column v type)

def setEntity [TimestampText] (s : AssigningStatement) (m : EntityMapping)
    (entity : Except String Serialized) : Except Error AssigningStatement :=
  match s with
  | insert i => (i.setEntity m entity).map insert
  | update u => (u.setEntity m entity).map update

/-- The statement with one column set to a value, under the storage type that the column pins,
if it does. -/
def setColumn (s : AssigningStatement) (setting : Column × Value) : AssigningStatement :=
  match setting.1.storageType with
  | some type => s.setTyped setting.1.name setting.2 type
  | none => s.set setting.1.name setting.2

@[simp] theorem assignments_withAssignments (s : AssigningStatement) (as : List Assignment) :
    (s.withAssignments as).assignments = as := by
  cases s <;> rfl

@[simp] theorem withAssignments_withAssignments (s : AssigningStatement)
    (before after : List Assignment) :
    (s.withAssignments before).withAssignments after = s.withAssignments after := by
  cases s <;> rfl

@[simp] theorem withAssignments_assignments (s : AssigningStatement) :
    s.withAssignments s.assignments = s := by
  cases s <;> rfl

theorem setColumn_eq (s : AssigningStatement) (setting : Column × Value) :
    s.setColumn setting = s.withAssignments
      (Assignment.assign s.assignments (.ofColumn setting.1 setting.2)) := by
  obtain ⟨⟨name, type⟩, v⟩ := setting
  cases type <;> cases s <;> rfl

theorem setEntity_eq [TimestampText] (s : AssigningStatement) (m : EntityMapping)
    (entity : Except String Serialized) :
    s.setEntity m entity = (Assignment.ofEntity m entity).map fun more =>
      s.withAssignments (Assignment.assignAll s.assignments more) := by
  cases s with
  | insert i =>
    rw [setEntity, Insert.setEntity]
    cases Assignment.ofEntity m entity <;> rfl
  | update u =>
    rw [setEntity, Update.setEntity]
    cases Assignment.ofEntity m entity <;> rfl

/-- Columns set one after the other, by induction along them: nothing changes but the
assignments. -/
theorem foldl_setColumn (s : AssigningStatement) (settings : List (Column × Value)) :
    settings.foldl setColumn s = s.withAssignments (Assignment.assignAll s.assignments
      (settings.map fun setting => .ofColumn setting.1 setting.2)) := by
  induction settings generalizing s with
  | nil => exact s.withAssignments_assignments.symm
  | cons setting settings ih =>
    rw [List.foldl_cons, ih, setColumn_eq, assignments_withAssignments,
      withAssignments_withAssignments, List.map_cons]
    rfl

/-- What setting an entity by a mapping does to a statement. -/
structure SetsColumnwise [TimestampText] (s : AssigningStatement) (m : EntityMapping) : Prop where
  /-- When every mapped property that is there converts, their columns are set in turn. -/
  each : ∀ properties,
    (∀ entry ∈ m.present properties,
      Succeeds (entry.2.toValue entry.1.name entry.1.storageType)) →
    ∃ settings, List.Forall₂ Assignment.ConvertsTo (m.present properties) settings ∧
      s.setEntity m (.ok (.object properties)) = .ok (settings.foldl setColumn s)
  /-- The first mapped property that does not convert decides the error. -/
  failure : ∀ properties before column property after e,
    m.present properties = before ++ (column, property) :: after →
    (∀ entry ∈ before, Succeeds (entry.2.toValue entry.1.name entry.1.storageType)) →
    property.toValue column.name column.storageType = .error e →
    s.setEntity m (.ok (.object properties)) = .error e
  /-- Properties that are not mapped have no effect. -/
  unmapped : ∀ properties,
    s.setEntity m (.ok (.object (properties.filter fun p => p.1 ∈ m.columns.map Prod.fst))) =
      s.setEntity m (.ok (.object properties))
  /-- Mapped properties that are not there have no effect. -/
  absent : ∀ properties,
    s.setEntity { m with columns := m.columns.filter fun c => c.1 ∈ properties.map Prod.fst }
        (.ok (.object properties)) = s.setEntity m (.ok (.object properties))
  notObject : ∀ data, (∀ properties, data ≠ .object properties) →
    s.setEntity m (.ok data) = .error (.unsupportedValue m.entity .notObject)
  notSerialized : ∀ reason, s.setEntity m (.error reason) = .error (.serialization reason)

theorem setEntity_congr [TimestampText] (s : AssigningStatement) {m m' : EntityMapping}
    {properties properties' : List (String × Serialized)}
    (h : m.present properties = m'.present properties') :
    s.setEntity m (.ok (.object properties)) = s.setEntity m' (.ok (.object properties')) := by
  have same : Assignment.ofEntity m (.ok (.object properties)) =
      Assignment.ofEntity m' (.ok (.object properties')) :=
    calc Assignment.ofProperties properties m.columns
      _ = (m'.present properties').mapM fun entry => Assignment.ofProperty entry.1 entry.2 := by
        rw [Assignment.ofProperties_eq, h]
      _ = _ := (Assignment.ofProperties_eq m' properties').symm
  rw [setEntity_eq, setEntity_eq, same]

/-- By any mapping, that is, the order in which properties were first mapped and the columns they
were last mapped to, an entity is set as its columns are set one by one: the mapped properties
that are there in the order of the mapping, each to the value it converts to. -/
theorem entity_set_columnwise [TimestampText] (s : AssigningStatement) (entity table : String)
    (mapped : List (String × Column)) :
    let m := ({ entity, table } : EntityMapping).mapAll mapped
    m.entity = entity ∧ m.table = table ∧ HoldsLatest Prod.fst mapped m.columns ∧
      s.SetsColumnwise m := by
  intro m
  have mapping := EntityMapping.mapAll_eq { entity, table } mapped
  refine ⟨congrArg EntityMapping.entity mapping, congrArg EntityMapping.table mapping, ?_, ?_⟩
  · rw [show m.columns = _ from congrArg EntityMapping.columns mapping]
    exact HoldsLatest.nil.putAll mapped
  · refine ⟨?_, ?_, ?_, ?_, ?_, ?_⟩
    · intro properties hconverts
      obtain ⟨settings, hsettings⟩ := Assignment.exists_settings hconverts
      refine ⟨settings, hsettings, ?_⟩
      rw [setEntity_eq, Assignment.ofEntity_eq_ok hsettings, foldl_setColumn]
      rfl
    · intro properties before column property after e hpresent hbefore hproperty
      rw [setEntity_eq, Assignment.ofEntity_eq_error hpresent hbefore hproperty]
      rfl
    · intro properties
      exact s.setEntity_congr (m.present_filter_mapped properties)
    · intro properties
      exact s.setEntity_congr (m.present_filter_present properties)
    · intro data hdata
      rw [setEntity_eq]
      cases data with
      | object properties => exact absurd rfl (hdata properties)
      | _ => rfl
    · intro reason
      rw [setEntity_eq]
      rfl

/-- A property mapped again, two properties behind one column, which has an assignment already, and
an entity without one of the mapped properties and with one that is not mapped. -/
theorem entity_set_columnwise_remapped :
    let s : AssigningStatement := .update
      { dialect := .mySql, table := "T", assignments := [.increment "b", .increment "n"] }
    let mapped : List (String × Column) :=
      [("x", { name := "a" }), ("y", { name := "c" }),
        ("x", { name := "b", storageType := some .string }), ("z", { name := "b" })]
    let m := ({ entity := "E", table := "T" } : EntityMapping).mapAll mapped
    s.setEntity m (.ok (.object [("z", .boolean true), ("q", .null), ("x", .integer 1)])) =
        .ok ((s.setTyped "b" (.integer 1) .string).set "b" (.boolean true)) ∧
      s.setEntity m (.ok (.object [("z", .list []), ("q", .null), ("x", .object [])])) =
        .error (.unsupportedValue "b" .object) := by
  intro s mapped m
  obtain ⟨-, -, -, columnwise⟩ := entity_set_columnwise s "E" "T" mapped
  constructor
  · have present : m.present [("z", .boolean true), ("q", .null), ("x", .integer 1)] =
        [({ name := "b", storageType := some .string }, .integer 1),
          ({ name := "b" }, .boolean true)] := rfl
    obtain ⟨settings, hsettings, hset⟩ := columnwise.each
      [("z", .boolean true), ("q", .null), ("x", .integer 1)] (by
        rw [present]
        simp [Serialized.toValue])
    rw [present] at hsettings
    have settled : settings = [({ name := "b", storageType := some .string }, .integer 1),
        ({ name := "b" }, .boolean true)] :=
      Assignment.rightUnique_convertsTo.forall₂ hsettings (.cons ⟨rfl, rfl⟩ (.cons ⟨rfl, rfl⟩ .nil))
    rwa [settled] at hset
  · exact columnwise.failure [("z", .list []), ("q", .null), ("x", .object [])] []
      { name := "b", storageType := some .string } (.object []) [({ name := "b" }, .list [])]
      (.unsupportedValue "b" .object) rfl (fun _ h => absurd h List.not_mem_nil) rfl

end AssigningStatement

end ParamSql
