import ParamSql.Proofs.Meaning.Count
import ParamSql.Proofs.Paging.Reversal
import ParamSql.Proofs.Paging.Plan

/-!
# Pages behind the last row

Where rows cannot be skipped, a page behind the last row is the query itself with a condition
that no row meets joined to its filter. What it answers is what the other clauses make of no
rows: nothing, unless all rows together make one group, which is there even when it is empty.
-/

namespace ParamSql

namespace Engine

variable {ρ : Type*} (e : Engine ρ)

/-- Whether a row passes WHERE, to which a condition that is always false may be joined by AND.
The filter stands in brackets of its own, so that it is joined as a whole. -/
def passesWhere (filter : Option Condition) (alwaysEmpty : Bool) (r : ρ) : Bool :=
  Truth.all ((filter.map fun c => c.truth (e.rowTruth r)).toList ++
    if alwaysEmpty then [.fails] else []) = .holds

theorem not_passesWhere (filter : Option Condition) (r : ρ) :
    e.passesWhere filter true r = false := by
  cases filter with
  | none => rfl
  | some c =>
    have never : (c.truth (e.rowTruth r)).and .fails ≠ .holds := by
      cases c.truth (e.rowTruth r) <;> decide
    simp [passesWhere, Truth.all, never]

/-- Whether all rows together make a row even when there are none. -/
def RowOfNone (s : Select) : Prop :=
  s.grouping = [] ∧ e.aggregatesAll s = true ∧ e.passes s.having [] = true

theorem not_rowOfNone_iff {s : Select} : ¬ e.RowOfNone s ↔
    s.grouping ≠ [] ∨ e.aggregatesAll s = false ∨ e.passes s.having [] = false := by
  unfold RowOfNone
  rw [not_and_or, not_and_or, Bool.not_eq_true, Bool.not_eq_true]

theorem filter_grouped_nil {s : Select} : (e.grouped s []).filter (e.passes s.having) = [[]] ∧
    e.RowOfNone s ∨ (e.grouped s []).filter (e.passes s.having) = [] ∧ ¬ e.RowOfNone s := by
  unfold RowOfNone
  by_cases hgrouping : s.grouping = []
  · rw [filter_grouped hgrouping]
    cases hall : e.aggregatesAll s with
    | false => simp
    | true => cases hpasses : e.passes s.having [] <;> simp [hgrouping]
  · have none : e.grouped s [] = [] := if_pos hgrouping
    simp [none, hgrouping]

variable [DecidableEq ρ]

/-- Rows before the window of the pagination, made of the rows that pass WHERE. -/
def entries (s : Select) (passing : List ρ) : List ρ :=
  let groups := (e.grouped s passing).filter (e.passes s.having)
  let made := (e.arranged s.order groups).map (e.entry s.fields)
  if s.distinct then made.dedup else made

/-- Rows that a query answers, made of the rows of FROM, when its plain form is changed. -/
def baseRows (s : Select) (reversed : Bool) (top : Option UInt64) (alwaysEmpty : Bool)
    (read : List ρ) : List ρ :=
  firstOf top (e.entries (if reversed then s.flipped else s)
    (read.filter (e.passesWhere s.filter alwaysEmpty)))

theorem entries_nil (s : Select) : e.entries s [] = [e.entry s.fields []] ∧ e.RowOfNone s ∨
    e.entries s [] = [] ∧ ¬ e.RowOfNone s := by
  have sorted := e.arranged_perm s.order ((e.grouped s []).filter (e.passes s.having))
  unfold entries
  rcases e.filter_grouped_nil (s := s) with ⟨hone, hrow⟩ | ⟨hnone, hrow⟩
  · rw [hone, List.perm_singleton] at sorted
    simp only [hone, sorted, List.map_singleton, (List.nodup_singleton _).dedup, ite_self]
    exact .inl ⟨trivial, hrow⟩
  · rw [hnone, List.perm_nil] at sorted
    simp only [hnone, sorted, List.map_nil, List.dedup_nil, ite_self]
    exact .inr ⟨trivial, hrow⟩

theorem baseRows_always_empty (s : Select) (reversed : Bool) (read : List ρ) :
    e.baseRows s reversed none true read = [e.entry s.fields []] ∧ e.RowOfNone s ∨
      e.baseRows s reversed none true read = [] ∧ ¬ e.RowOfNone s := by
  have kept : read.filter (e.passesWhere s.filter true) = [] := by
    rw [List.filter_eq_nil_iff]
    intro r _
    rw [e.not_passesWhere]
    exact Bool.false_ne_true
  rw [baseRows, kept]
  -- the direction of the sort keys is no matter to what is made of no rows
  cases reversed with
  | false => exact e.entries_nil s
  | true => exact e.entries_nil s.flipped

end Engine

namespace Select

variable {s : Select} {w : Window} {known : Option UInt64} {count : UInt64}

/-- A page behind the last row is the query with a condition that no row meets. -/
theorem paginated_past_end (hw : s.pagination.window? = some w) (hstart : w.start ≠ 0)
    (hcount : (known <|> s.pagination.recordCount?) = some count) (hpast : count ≤ w.start)
    (reversed : Bool) :
    (s.clauses .access).paginated .access s.pagination known reversed =
      (PagePlan.base reversed none true).document .access (s.clauses .access) := by
  have past : count ≤ w.start ∨ w.size = 0 := .inl hpast
  simp only [Clauses.paginated, hw, hcount, Clauses.page, Clauses.countDependentPage,
    if_neg hstart, if_pos past]
  rfl

/-- The statement for a page behind the last row answers no rows, whatever the tables contain,
exactly when its query groups by keys, or makes no row of all rows together, or keeps the group
of no rows back by HAVING. In every other case it answers the row made of no rows. -/
theorem past_end_empty_iff (hw : s.pagination.window? = some w) (hstart : w.start ≠ 0)
    (hcount : (known <|> s.pagination.recordCount?) = some count) (hpast : count ≤ w.start)
    (reversed : Bool) {ρ : Type*} [DecidableEq ρ] (e : Engine ρ) :
    (s.clauses .access).paginated .access s.pagination known reversed =
        (PagePlan.base reversed none true).document .access (s.clauses .access) ∧
      (e.baseRows s reversed none true (s.read e) = [] ↔
        s.grouping ≠ [] ∨ e.aggregatesAll s = false ∨ e.passes s.having [] = false) ∧
      (e.baseRows s reversed none true (s.read e) ≠ [] →
        e.baseRows s reversed none true (s.read e) = [e.entry s.fields []]) := by
  refine ⟨paginated_past_end hw hstart hcount hpast reversed, ?_⟩
  rw [← e.not_rowOfNone_iff]
  rcases e.baseRows_always_empty s reversed (s.read e) with ⟨hrows, hone⟩ | ⟨hrows, hnone⟩
  · rw [hrows]
    exact ⟨iff_of_false (List.cons_ne_nil _ _) (not_not_intro hone), fun _ => rfl⟩
  · rw [hrows]
    exact ⟨iff_of_true rfl hnone, fun h => absurd rfl h⟩

/-- The groups of a filtered query, in reverse order, and none of them behind the last. -/
theorem past_end_empty_iff_grouped :
    let s : Select :=
      { dialect := .access
        source := .table "T"
        fields := [.column "a", .countAll]
        filter := some (.equal "b" (.integer 1))
        grouping := [.ofColumn "a"]
        order := [.ascending "a"]
        pagination := .limit 5 10 }
    s.commandWithCount 3 true = .ok
        ⟨.select, "SELECT a,COUNT(*) FROM T WHERE (b = @PN_IDX_0) AND (1 = 0) GROUP BY a " ++
          "ORDER BY a DESC", [.bound "b" (some "IDX_0") (.integer 1) .int64]⟩ ∧
      (Engine.ofColumn [1, 2, 3]).baseRows s true none true (s.read (.ofColumn [1, 2, 3])) =
        [] := by
  intro s
  constructor
  · simp only [s]
    decide +kernel
  · have counted : (some 3 <|> s.pagination.recordCount?) = some 3 := rfl
    have past := past_end_empty_iff (s := s) rfl (by decide) counted (by decide) true
      (.ofColumn [1, 2, 3])
    exact past.2.1.2 (.inl (List.cons_ne_nil _ _))

/-- One row is counted, and behind it there is another one, which counts nothing. -/
theorem counted_past_end :
    let s : Select :=
      { dialect := .access
        source := .table "T"
        fields := [.countAll]
        pagination := .limit 5 10 }
    s.commandWithCount 1 false = .ok ⟨.select, "SELECT COUNT(*) FROM T WHERE (1 = 0)", []⟩ ∧
      s.unbounded.rows (.ofColumn [7, 8]) = [2] ∧
      (Engine.ofColumn [7, 8]).baseRows s false none true (s.read (.ofColumn [7, 8])) = [0] := by
  intro s
  refine ⟨?_, rfl, rfl⟩
  simp only [s]
  decide +kernel

end Select

end ParamSql
