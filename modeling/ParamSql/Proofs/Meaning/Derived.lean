import Mathlib.Data.List.MinMax
import ParamSql.Proofs.Execution.Calls
import ParamSql.Proofs.Meaning.Count
import ParamSql.Proofs.Select.Building

/-!
# What derived queries answer

The query of a first row and the queries of extreme values are compared with the rows of the
query that they are derived from. The first row is asked for wherever the window of the query
starts, and extreme values are sought within each of its groups.
-/

namespace ParamSql

theorem toList_inj {α : Type*} {a b : Option α} : a.toList = b.toList ↔ a = b := by
  cases a <;> cases b <;> simp

namespace Pagination

variable {α : Type*} {p : Pagination}

def start (p : Pagination) : UInt64 := p.window?.elim 0 (·.start)

theorem head?_slice (hp : p.Valid) (rows : List α) :
    (p.slice rows).head? = rows[p.start.toNat]? := by
  have first {w : Window} (hsize : 1 ≤ w.size.toNat) :
      ((rows.drop w.start.toNat).take w.size.toNat).head? = rows[w.start.toNat]? := by
    rw [List.head?_take, if_neg (by omega), List.head?_drop]
  cases p with
  | unbounded => exact List.head?_eq_getElem?
  | top size => exact first (w := ⟨0, size⟩) hp
  | limit offset size => exact first (w := ⟨offset, size⟩) hp
  | page size index => exact first (w := ⟨pageStart size index, size⟩) hp.1
  | pageWithCount size index _ => exact first (w := ⟨pageStart size index, size⟩) hp.1

theorem slice_top_one (rows : List α) : (top 1).slice rows = rows.head?.toList := List.take_one

/-- Windows of all lists begin like the lists only if they start with them. -/
theorem forall_head?_slice_iff [Nonempty α] (hp : p.Valid) :
    (∀ rows : List α, (p.slice rows).head? = rows.head?) ↔ p.start = 0 := by
  constructor
  · intro h
    obtain ⟨a⟩ := ‹Nonempty α›
    have single := h [a]
    rw [head?_slice hp, List.head?_cons, List.getElem?_eq_some_iff] at single
    obtain ⟨hlt, -⟩ := single
    rw [List.length_singleton, Nat.lt_one_iff] at hlt
    exact UInt64.toNat_inj.1 hlt
  · intro hstart rows
    rw [head?_slice hp, hstart]
    exact List.head?_eq_getElem?.symm

end Pagination

namespace Select

section FirstRow

variable {ρ : Type*} [DecidableEq ρ] (e : Engine ρ) (s : Select)

/-- A query answers the window of its pagination in the rows that it answers without one. -/
theorem rows_eq_slice : s.rows e = s.pagination.slice (s.unbounded.rows e) := by
  rw [rows_eq, rows_unbounded]
  rfl

theorem rows_firstRowQuery : s.firstRowQuery.rows e = (s.unbounded.rows e).head?.toList := by
  rw [rows_eq_slice]
  exact Pagination.slice_top_one _

variable {s}

/-- The query of the first row answers the first row of the query exactly when the row that the
window starts at, if there is one, is like the first row of all; whatever the rows are, this is
so only of windows that start at the first row. -/
theorem firstRowQuery_eq_head_iff [Nonempty ρ] (hs : s.pagination.Valid) :
    (s.firstRowQuery.rows e = (s.rows e).head?.toList ↔
      (s.unbounded.rows e)[s.pagination.start.toNat]? = (s.unbounded.rows e).head?) ∧
    ((∀ rows : List ρ, s.firstRowQuery.pagination.slice rows =
        (s.pagination.slice rows).head?.toList) ↔ s.pagination.start = 0) := by
  constructor
  · rw [rows_firstRowQuery, rows_eq_slice e s, Pagination.head?_slice hs, toList_inj, eq_comm]
  · rw [← Pagination.forall_head?_slice_iff (α := ρ) hs]
    refine forall_congr' fun rows => ?_
    rw [← toList_inj, eq_comm]
    exact Eq.congr_right (Pagination.slice_top_one rows)

end FirstRow

/-- The second page of rows that repeat the first one, and of rows that do not. -/
theorem firstRowQuery_eq_head_iff_repeated :
    let s : Select :=
      { dialect := .mySql
        source := .table "T"
        order := [.ascending "a"]
        pagination := .page 1 2 }
    s.firstRowQuery.rows (.ofColumn [7, 7, 8]) = [7] ∧ s.rows (.ofColumn [7, 7, 8]) = [7] ∧
      s.firstRowQuery.rows (.ofColumn [7, 8, 8]) ≠ (s.rows (.ofColumn [7, 8, 8])).head?.toList := by
  intro s
  have valid : s.pagination.Valid := ⟨Nat.le_refl 1, by decide⟩
  have repeated := (firstRowQuery_eq_head_iff (.ofColumn [7, 7, 8]) valid).1.2 rfl
  have rows : s.rows (.ofColumn [7, 7, 8]) = [7] := rfl
  refine ⟨?_, rows, ?_⟩
  · rw [repeated, rows]
    rfl
  · rw [Ne, (firstRowQuery_eq_head_iff (.ofColumn [7, 8, 8]) valid).1]
    decide

/-- Behind five rows the window begins with the sixth, and the first is asked for. -/
theorem firstRowQuery_limited :
    let s : Select :=
      { dialect := .mySql
        source := .table "T"
        order := [.ascending "a"]
        pagination := .limit 5 10 }
    s.firstRowQuery.command false =
        .ok ⟨.select, "SELECT * FROM T ORDER BY a ASC LIMIT 1", []⟩ ∧
      s.firstRowQuery.rows (.ofColumn [1, 2, 3, 4, 5, 6, 7]) = [1] ∧
      s.rows (.ofColumn [1, 2, 3, 4, 5, 6, 7]) = [6, 7] := by
  intro s
  refine ⟨?_, rfl, rfl⟩
  simp only [s]
  decide +kernel

end Select

inductive Extremum
  | largest
  | smallest
deriving DecidableEq

namespace Extremum

def aggregate : Extremum → Aggregate
  | largest => .max
  | smallest => .min

/-- The order of values in which the extremum comes last. -/
def toward (le : Value → Value → Prop) : Extremum → Value → Value → Prop
  | largest => le
  | smallest => fun x y => le y x

end Extremum

structure IsExtreme (toward : Value → Value → Prop) (values : List Value) (v : Value) : Prop where
  null_iff : v.isNull = true ↔ ∀ x ∈ values, x.isNull = true
  mem : v.isNull = false → v ∈ values
  last : v.isNull = false → ∀ x ∈ values, x.isNull = false → toward x v

/-- A database that has values in its columns, compares them, and finds extremes among them. -/
structure ValueEngine (ρ : Type*) extends Engine ρ where
  /-- What a row has in a column. -/
  cell : String → ρ → Value
  /-- What a row has in its first column. -/
  first : ρ → Value
  le : Value → Value → Prop
  first_entry : ∀ (x : Extremum) column group, IsExtreme (x.toward le) (group.map (cell column))
    (first (entry [.aggregated x.aggregate column] group))

namespace Engine

variable {ρ : Type*} {e : Engine ρ} {keys : List GroupKey} {rows : List ρ}

/-- Rows that agree in every key make one group. -/
theorem groups_eq_singleton {r : ρ} (hr : r ∈ rows)
    (h : ∀ r' ∈ rows, ∀ key ∈ keys, e.groupKey key r' = e.groupKey key r) :
    e.groups keys rows = [rows] := by
  have same : ∀ r' ∈ rows, keys.map (e.groupKey · r') = keys.map (e.groupKey · r) :=
    fun r' hr' => List.map_congr_left (h r' hr')
  have values : rows.map (fun r => keys.map (e.groupKey · r)) =
      List.replicate rows.length (keys.map (e.groupKey · r)) := by
    rw [List.eq_replicate_iff]
    refine ⟨List.length_map _, ?_⟩
    intro v hv
    obtain ⟨r', hr', rfl⟩ := List.mem_map.1 hv
    exact same r' hr'
  have all : rows.filter (fun r' => keys.map (e.groupKey · r') = keys.map (e.groupKey · r)) =
      rows := by
    rw [List.filter_eq_self]
    intro r' hr'
    exact decide_eq_true (same r' hr')
  rw [groups, values, List.replicate_dedup (List.length_pos_of_mem hr).ne', List.map_singleton,
    all]

theorem agree_of_groups_eq_singleton {group : List ρ} (h : e.groups keys rows = [group]) :
    ∃ r ∈ rows, ∀ r' ∈ rows, ∀ key ∈ keys, e.groupKey key r' = e.groupKey key r := by
  obtain ⟨values, hvalues, -⟩ := List.map_eq_singleton_iff.1 h
  have listed : ∀ r ∈ rows, keys.map (e.groupKey · r) = values := by
    intro r hr
    have mem := List.mem_dedup.2 (List.mem_map_of_mem (f := fun r => keys.map (e.groupKey · r)) hr)
    rw [hvalues, List.mem_singleton] at mem
    exact mem
  have some : values ∈ (rows.map fun r => keys.map (e.groupKey · r)).dedup := by
    rw [hvalues]
    exact List.mem_cons_self
  obtain ⟨r, hr, -⟩ := List.mem_map.1 (List.mem_dedup.1 some)
  refine ⟨r, hr, ?_⟩
  intro r' hr'
  exact List.map_inj_left.1 ((listed r' hr').trans (listed r hr).symm)

end Engine

namespace Select

section Aggregate

variable {ρ : Type*} [DecidableEq ρ] {e : Engine ρ} {s : Select} {f : Field}

/-- Whether the rows that pass WHERE are one group. -/
def OneGroup (e : Engine ρ) (s : Select) : Prop :=
  s.grouping = [] ∨ ∃ r ∈ s.filtered e, ∀ r' ∈ s.filtered e, ∀ key ∈ s.grouping,
    e.groupKey key r' = e.groupKey key r

/-- Without HAVING, a query of one aggregate answers a row for each group of the rows that pass
WHERE. -/
theorem rows_aggregateQuery (hf : e.isAggregate f = true) (hhaving : s.having = none) :
    ((s.aggregateQuery f).rows e).Perm
      ((if s.grouping = [] then [s.filtered e] else e.groups s.grouping (s.filtered e)).map
        (e.entry [f])) := by
  have all : e.aggregatesAll (s.aggregateQuery f) = true := by
    simp [Engine.aggregatesAll, aggregateQuery, hf]
  have passing : (e.grouped (s.aggregateQuery f) (s.filtered e)).filter (e.passes s.having) =
      if s.grouping = [] then [s.filtered e] else e.groups s.grouping (s.filtered e) := by
    rw [hhaving, List.filter_eq_self.2 fun group _ => Engine.passes_none group, Engine.grouped,
      if_pos all]
    exact ite_not ..
  rw [rows_eq, Engine.answer_unbounded rfl, Engine.listed_of_not_distinct rfl, ← passing]
  exact (e.arranged_perm _ _).map _

theorem rows_aggregateQuery_of_oneGroup (hf : e.isAggregate f = true) (hhaving : s.having = none)
    (h : s.OneGroup e) : (s.aggregateQuery f).rows e = [e.entry [f] (s.filtered e)] := by
  have rows := rows_aggregateQuery hf hhaving
  rcases h with hgrouping | ⟨r, hr, hkeys⟩
  · rw [if_pos hgrouping] at rows
    exact List.perm_singleton.1 rows
  · rw [Engine.groups_eq_singleton hr hkeys, ite_self] at rows
    exact List.perm_singleton.1 rows

theorem oneGroup_of_rows_aggregateQuery (hf : e.isAggregate f = true) (hhaving : s.having = none)
    {row : ρ} (h : (s.aggregateQuery f).rows e = [row]) : s.OneGroup e := by
  by_cases hgrouping : s.grouping = []
  · exact .inl hgrouping
  have rows := rows_aggregateQuery hf hhaving
  rw [h, if_neg hgrouping, List.singleton_perm, eq_comm, List.map_eq_singleton_iff] at rows
  obtain ⟨group, hgroup, -⟩ := rows
  exact .inr (Engine.agree_of_groups_eq_singleton hgroup)

end Aggregate

end Select

/-- The result of asking for a single value: nothing for null, and otherwise what the value is
converted to. -/
def Value.converted {α : Type} (convert : Value → Except Error α) (v : Value) :
    Except Error (Option α) :=
  if v.isNull then .ok none else (convert v).map some

namespace ValueEngine

variable {ρ : Type*} [DecidableEq ρ] (e : ValueEngine ρ)

/-- What the first row of a query has in its first column; null where there is no row. -/
def scalar (q : Select) : Value := ((q.rows e.toEngine).head?.map e.first).getD .null

def Serves {σ : Type} (ex : Executor σ) (st : σ) (q : Select) : Prop :=
  ∀ command, q.command false = .ok command → (ex.scalar command st).1 = .ok (e.scalar q)

def column (s : Select) (name : String) : List Value := (s.filtered e.toEngine).map (e.cell name)

/-- A query answers one row, and the row begins with an extreme of some values. -/
def Finds (q : Select) (x : Extremum) (values : List Value) : Prop :=
  ∃ row, q.rows e.toEngine = [row] ∧ IsExtreme (x.toward e.le) values (e.first row)

variable {e}

theorem Finds.isExtreme_scalar {q : Select} {x : Extremum} {values : List Value}
    (h : e.Finds q x values) : IsExtreme (x.toward e.le) values (e.scalar q) := by
  obtain ⟨row, hrow, hextreme⟩ := h
  have first : e.scalar q = e.first row := by
    unfold scalar
    rw [hrow]
    rfl
  rw [first]
  exact hextreme

/-- A single value asked for by a query that is rendered is converted from what the executor
answers to its command. -/
theorem Serves.run_convertedScalar {σ α : Type} {ex : Executor σ} {st : σ} {q : Select}
    (h : e.Serves ex st q) (convert : Value → Except Error α) :
    ((q.convertedScalar convert).run ex st).1 =
      (q.command false).bind fun _ => (e.scalar q).converted convert := by
  have asked : ((q.convertedScalar convert).run ex st).1 = (q.command false).bind fun command =>
      (ex.scalar command st).1.bind (Value.converted convert) := by
    rw [Select.convertedScalar, Script.run_bind_fst]
    congr 1
    funext command
    rw [Script.run_bind_fst]
    congr 1
    funext v
    unfold Value.converted
    split
    · rfl
    · rfl
  rw [asked]
  cases hcommand : q.command false with
  | error fault => rfl
  | ok command => exact congrArg (Except.bind · _) (h command hcommand)

theorem finds_iff {s : Select} (hhaving : s.having = none) (x : Extremum) (name : String) :
    e.Finds (s.aggregateQuery (.aggregated x.aggregate name)) x (e.column s name) ↔
      s.OneGroup e.toEngine := by
  constructor
  · rintro ⟨row, hrow, -⟩
    exact Select.oneGroup_of_rows_aggregateQuery rfl hhaving hrow
  · intro h
    exact ⟨_, Select.rows_aggregateQuery_of_oneGroup rfl hhaving h, e.first_entry x name _⟩

theorem extreme_of_oneGroup {σ α : Type} {s : Select} (hhaving : s.having = none)
    (hgroup : s.OneGroup e.toEngine) (x : Extremum) (name : String) {ex : Executor σ} {st : σ}
    (h : e.Serves ex st (s.aggregateQuery (.aggregated x.aggregate name)))
    (convert : Value → Except Error α) :
    ∃ v, IsExtreme (x.toward e.le) (e.column s name) v ∧
      (((s.aggregateQuery (.aggregated x.aggregate name)).convertedScalar convert).run ex st).1 =
        ((s.aggregateQuery (.aggregated x.aggregate name)).command false).bind fun _ =>
          v.converted convert :=
  ⟨_, ((finds_iff hhaving x name).2 hgroup).isExtreme_scalar, h.run_convertedScalar convert⟩

end ValueEngine

namespace Select

variable {ρ : Type*} [DecidableEq ρ] (e : ValueEngine ρ) {s : Select}

/-- The queries of the largest and the smallest value of a column answer one row, with the
extreme of the column over the rows that pass WHERE, exactly when these rows make one group:
without GROUP BY, or when there are any and they agree in every key. Then the extremes are what
is asked for, and nothing is answered only where there are none. -/
theorem extremes_of_filtered_iff (hhaving : s.having = none) (name : String) :
    (e.Finds (s.maxQuery name) .largest (e.column s name) ↔ s.OneGroup e.toEngine) ∧
    (e.Finds (s.minQuery name) .smallest (e.column s name) ↔ s.OneGroup e.toEngine) ∧
    (s.OneGroup e.toEngine →
      ∀ {σ α : Type} (ex : Executor σ) (st : σ) (convert : Value → Except Error α),
        (e.Serves ex st (s.maxQuery name) →
          ∃ v, IsExtreme e.le (e.column s name) v ∧
            ((s.max convert name).run ex st).1 =
              ((s.maxQuery name).command false).bind fun _ => v.converted convert) ∧
        (e.Serves ex st (s.minQuery name) →
          ∃ v, IsExtreme (fun x y => e.le y x) (e.column s name) v ∧
            ((s.min convert name).run ex st).1 =
              ((s.minQuery name).command false).bind fun _ => v.converted convert)) := by
  refine ⟨ValueEngine.finds_iff hhaving .largest name,
    ValueEngine.finds_iff hhaving .smallest name, ?_⟩
  intro hgroup σ α ex st convert
  constructor
  · intro hserves
    exact ValueEngine.extreme_of_oneGroup hhaving hgroup .largest name hserves convert
  · intro hserves
    exact ValueEngine.extreme_of_oneGroup hhaving hgroup .smallest name hserves convert

end Select

def furthest {β : Type*} [LinearOrder β] (measure : Value → β) (values : List Value) : Value :=
  ((values.filter (!·.isNull)).argmax measure).getD .null

theorem isExtreme_furthest {β : Type*} [LinearOrder β] (measure : Value → β)
    (values : List Value) :
    IsExtreme (fun x y => measure x ≤ measure y) values (furthest measure values) := by
  unfold furthest
  cases h : (values.filter (!·.isNull)).argmax measure with
  | none =>
    rw [List.argmax_eq_none, List.filter_eq_nil_iff] at h
    have null : ∀ x ∈ values, x.isNull = true := fun x hx => by simpa using h x hx
    exact ⟨iff_of_true rfl null, nofun, nofun⟩
  | some v =>
    obtain ⟨hv, hnull⟩ := List.mem_filter.1 (List.argmax_mem h)
    rw [Bool.not_eq_true'] at hnull
    refine ⟨iff_of_false ?_ ?_, fun _ => hv, ?_⟩
    · rw [Option.getD_some, hnull]
      exact Bool.false_ne_true
    · intro all
      exact Bool.false_ne_true (hnull.symm.trans (all v hv))
    · intro _ x hx hxnull
      exact List.le_of_mem_argmax (List.mem_filter.2 ⟨hx, by rw [hxnull]; rfl⟩) h

/-- What an integer counts for; other values count for nothing. -/
def Value.amount : Value → Int
  | .integer n => n.toInt
  | _ => 0

/-- A database whose tables have a column of values, `a`, and one of numbers. -/
def ValueEngine.ofPairs (contents : List (Value × Nat)) : ValueEngine (Value × Nat) where
  table _ := contents
  renamed _ r := r
  joined _ _ _ _ _ rows others := rows.flatMap fun r => others.filter (·.2 = r.2)
  rowTruth _ _ := .unknown
  groupTruth _ _ := .unknown
  groupKey key r :=
    match key with
    | .column _ name => if name = "a" then r.1 else .integer (.ofNat r.2)
    | .expression _ => .null
  aggregates _ := false
  entry fields group :=
    let values (name : String) := group.map fun r =>
      if name = "a" then r.1 else .integer (.ofNat r.2)
    match fields with
    | [⟨.column _ name, _, some .max, _⟩] => (furthest Value.amount (values name), 0)
    | [⟨.column _ name, _, some .min, _⟩] =>
      (furthest (fun v => OrderDual.toDual v.amount) (values name), 0)
    | [⟨.all _, _, some .count, _⟩] => (.null, group.length)
    | _ => group.headD (.null, 0)
  arranged _ groups := groups
  number r := r.2
  arranged_perm _ groups := .refl groups
  number_countAll _ := rfl
  cell name r := if name = "a" then r.1 else .integer (.ofNat r.2)
  first r := r.1
  le v w := v.amount ≤ w.amount
  first_entry x column group := by
    cases x with
    | largest => exact isExtreme_furthest Value.amount _
    | smallest => exact isExtreme_furthest (fun v => OrderDual.toDual v.amount) _

namespace Select

/-- Two values and a null in one group, and the largest of them. -/
theorem extremes_of_filtered_iff_agreeing :
    let s : Select :=
      { dialect := .mySql
        source := .table "T"
        distinct := true
        grouping := [.ofColumn "b"]
        pagination := .limit 5 10 }
    let e := ValueEngine.ofPairs [(.integer 3, 1), (.null, 1), (.integer 5, 1)]
    s.having = none ∧ s.OneGroup e.toEngine ∧
      e.Finds (s.maxQuery "a") .largest [.integer 3, .null, .integer 5] ∧
      e.scalar (s.maxQuery "a") = .integer 5 := by
  intro s e
  have agreeing : s.OneGroup e.toEngine := .inr ⟨(.integer 3, 1), by decide⟩
  exact ⟨rfl, agreeing, (extremes_of_filtered_iff e (s := s) rfl "a").1.2 agreeing, by decide⟩

/-- Of two groups each has a largest value, and that of the first is answered. -/
theorem maxQuery_grouped :
    let s : Select :=
      { dialect := .mySql
        source := .table "T"
        fields := [.column "b"]
        grouping := [.ofColumn "b"] }
    let e := ValueEngine.ofPairs [(.integer 3, 1), (.integer 5, 2)]
    (s.maxQuery "a").command false = .ok ⟨.select, "SELECT MAX(a) FROM T GROUP BY b", []⟩ ∧
      ((s.maxQuery "a").rows e.toEngine).map e.first = [.integer 3, .integer 5] ∧
      e.scalar (s.maxQuery "a") = .integer 3 := by
  intro s e
  refine ⟨?_, by decide, by decide⟩
  simp only [s]
  decide +kernel

end Select

end ParamSql
