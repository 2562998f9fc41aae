import ParamSql.Proofs.Meaning.Query
import ParamSql.Select.Derived

/-!
# What a count query counts

The query of the number of rows is compared with the rows themselves. Around a
distinct or grouped query it counts its rows. In every other case it counts
the rows that the query reads, which are as many as it answers only while
nothing in it makes one row of them all.
-/

namespace ParamSql

namespace Engine

variable {ρ : Type*} {e : Engine ρ} {s t : Select} {read : List ρ}

theorem kept_none (read : List ρ) : e.kept none read = read := by
  simp [kept]

theorem passes_none (group : List ρ) : e.passes none group = true := rfl

/-- Without GROUP BY the groups that pass HAVING are all rows together, if they pass, or each
row alone. -/
theorem filter_grouped (hgrouping : s.grouping = []) (rows : List ρ) :
    (e.grouped s rows).filter (e.passes s.having) =
      if e.aggregatesAll s then (if e.passes s.having rows then [rows] else [])
      else rows.map fun r => [r] := by
  have single : e.grouped s rows = if e.aggregatesAll s then [rows] else rows.map fun r => [r] := by
    unfold grouped
    rw [hgrouping, if_neg (not_not_intro rfl)]
  rw [single]
  by_cases hall : e.aggregatesAll s = true
  · rw [if_pos hall, if_pos hall, List.filter_singleton, Bool.cond_eq_ite]
  · have hhaving : s.having = none := by
      unfold aggregatesAll at hall
      cases hs : s.having with
      | none => rfl
      | some c =>
        rw [hs] at hall
        exact absurd rfl hall
    rw [if_neg hall, if_neg hall, hhaving, List.filter_eq_self]
    intro group _
    exact passes_none group

variable [DecidableEq ρ]

theorem answer_unbounded (h : s.pagination = .unbounded) : e.answer s read = e.listed s read := by
  unfold answer
  rw [h]
  rfl

/-- Sorting does not change how many rows there are, and how many different ones. -/
theorem length_listed_of_order (hfilter : s.filter = t.filter) (hgrouping : s.grouping = t.grouping)
    (hhaving : s.having = t.having) (hfields : s.fields = t.fields)
    (hdistinct : s.distinct = t.distinct) :
    (e.listed s read).length = (e.listed t read).length := by
  have groups : (e.grouped s (e.kept s.filter read)).filter (e.passes s.having) =
      (e.grouped t (e.kept t.filter read)).filter (e.passes t.having) := by
    unfold grouped aggregatesAll
    rw [hfilter, hgrouping, hhaving, hfields]
  unfold listed
  rw [groups, hfields, hdistinct]
  have sorted := (e.arranged_perm s.order _).trans (e.arranged_perm t.order
    ((e.grouped t (e.kept t.filter read)).filter (e.passes t.having))).symm
  have entries := sorted.map (e.entry t.fields)
  dsimp only
  split
  · exact entries.dedup.length_eq
  · exact entries.length_eq

theorem listed_of_not_distinct (hdistinct : s.distinct = false) :
    e.listed s read = (e.arranged s.order
      ((e.grouped s (e.kept s.filter read)).filter (e.passes s.having))).map
        (e.entry s.fields) := by
  unfold listed
  rw [hdistinct]
  rfl

theorem length_listed (hgrouping : s.grouping = []) (hdistinct : s.distinct = false) :
    (e.listed s read).length =
      if e.aggregatesAll s then (if e.passes s.having (e.kept s.filter read) then 1 else 0)
      else (e.kept s.filter read).length := by
  rw [listed_of_not_distinct hdistinct, List.length_map, (e.arranged_perm _ _).length_eq,
    filter_grouped hgrouping]
  split
  · split <;> rfl
  · rw [List.length_map]

theorem number_listed_countAll (hgrouping : s.grouping = []) (hdistinct : s.distinct = false)
    (hfields : s.fields = [.countAll]) :
    (e.listed s read).head?.map e.number =
      if e.passes s.having (e.kept s.filter read) then some (e.kept s.filter read).length
      else none := by
  have hall : e.aggregatesAll s = true := by
    unfold aggregatesAll
    rw [hfields, Bool.or_eq_true]
    exact .inr rfl
  have sorted := e.arranged_perm s.order
    ((e.grouped s (e.kept s.filter read)).filter (e.passes s.having))
  rw [filter_grouped hgrouping, if_pos hall] at sorted
  rw [listed_of_not_distinct hdistinct, filter_grouped hgrouping, if_pos hall, hfields]
  by_cases hpasses : e.passes s.having (e.kept s.filter read) = true
  · rw [if_pos hpasses] at sorted ⊢
    rw [if_pos hpasses, List.perm_singleton.1 sorted]
    exact congrArg some (e.number_countAll _)
  · rw [if_neg hpasses] at sorted ⊢
    rw [if_neg hpasses, List.perm_nil.1 sorted]
    rfl

end Engine

namespace Select

variable {ρ : Type*} [DecidableEq ρ] (e : Engine ρ) (s : Select)

/-- The number that the count query of a query answers. -/
def counted? : Option Nat := (s.countQuery.rows e).head?.map e.number

def filtered : List ρ := e.kept s.filter (s.read e)

theorem rows_unbounded : s.unbounded.rows e = e.listed s.unbounded (s.read e) := by
  rw [rows_eq, Engine.answer_unbounded rfl]
  rfl

variable {s} in
theorem number_rows_countAll (hgrouping : s.grouping = []) (hdistinct : s.distinct = false)
    (hfields : s.fields = [.countAll]) (hpagination : s.pagination = .unbounded) :
    (s.rows e).head?.map e.number =
      if e.passes s.having (s.filtered e) then some (s.filtered e).length else none := by
  rw [rows_eq, Engine.answer_unbounded hpagination,
    Engine.number_listed_countAll hgrouping hdistinct hfields]
  rfl

theorem counted?_of_wrapped (h : s.distinct = true ∨ s.grouping ≠ []) :
    s.counted? e = some (s.unbounded.rows e).length := by
  have query : s.countQuery =
      ((ofQuery s.dialect s.unordered).named countSource).addField .countAll := if_pos h
  have having : s.countQuery.having = none := by
    rw [query]
    rfl
  have filtered : s.countQuery.filtered e = (s.unordered.rows e).map (e.renamed countSource) := by
    rw [query]
    exact Engine.kept_none _
  have inner : (s.unordered.rows e).length = (s.unbounded.rows e).length := by
    have unordered : s.unordered.rows e = e.listed s.unordered (s.read e) := by
      rw [rows_eq, Engine.answer_unbounded rfl]
      rfl
    rw [unordered, rows_unbounded]
    exact Engine.length_listed_of_order rfl rfl rfl rfl rfl
  rw [counted?, number_rows_countAll e (by rw [query]; rfl) (by rw [query]; rfl)
    (by rw [query]; rfl) (by rw [query]; rfl), having, if_pos (Engine.passes_none _), filtered,
    List.length_map, inner]

theorem counted?_of_plain (hdistinct : s.distinct = false) (hgrouping : s.grouping = []) :
    s.counted? e =
      if e.passes s.having (s.filtered e) then some (s.filtered e).length else none := by
  have query : s.countQuery = { s.unordered with fields := [.countAll] } := by
    refine if_neg ?_
    rintro (h | h)
    · rw [hdistinct] at h
      contradiction
    · exact h hgrouping
  have counted := number_rows_countAll e (s := { s.unordered with fields := [.countAll] })
    hgrouping hdistinct rfl rfl
  rw [counted?, query]
  exact counted

/-- The number that the count query answers is the number of rows of the query without
paging, exactly when the query is distinct or grouped, or makes a row of each row it
filters, or makes one of the only one. -/
theorem counted?_eq_length_iff :
    s.counted? e = some (s.unbounded.rows e).length ↔
      s.distinct = true ∨ s.grouping ≠ [] ∨ e.aggregatesAll s = false ∨
        e.passes s.having (s.filtered e) = true ∧ (s.filtered e).length = 1 := by
  by_cases hwrapped : s.distinct = true ∨ s.grouping ≠ []
  · rw [← or_assoc]
    exact iff_of_true (s.counted?_of_wrapped e hwrapped) (.inl hwrapped)
  obtain ⟨hdistinct, hgrouping⟩ := not_or.1 hwrapped
  rw [Bool.not_eq_true] at hdistinct
  have hgrouping := not_not.1 hgrouping
  have length : (s.unbounded.rows e).length =
      if e.aggregatesAll s then (if e.passes s.having (s.filtered e) then 1 else 0)
      else (s.filtered e).length := by
    rw [rows_unbounded]
    exact Engine.length_listed (s := s.unbounded) hgrouping hdistinct
  rw [s.counted?_of_plain e hdistinct hgrouping, length]
  cases hall : e.aggregatesAll s with
  | false =>
    have hhaving : s.having = none := by
      unfold Engine.aggregatesAll at hall
      rw [Bool.or_eq_false_iff] at hall
      exact Option.isSome_eq_false_iff.1 hall.1 |> Option.isNone_iff_eq_none.1
    simp [hhaving, Engine.passes_none]
  | true =>
    cases hpasses : e.passes s.having (s.filtered e) with
    | false => simp [hdistinct, hgrouping]
    | true => simp [hdistinct, hgrouping]

end Select

def Engine.ofColumn (contents : List Nat) : Engine Nat where
  table _ := contents
  renamed _ r := r
  joined _ _ _ _ _ rows others := rows.flatMap fun r => others.filter (· = r)
  rowTruth _ _ := .unknown
  groupTruth _ _ := .unknown
  groupKey _ r := .integer (.ofNat r)
  aggregates _ := false
  entry fields group :=
    match fields.head?.bind (·.aggregate) with
    | some .count => group.length
    | some .sum => group.foldl Nat.add 0
    | _ => group.headD 0
  arranged _ groups := groups
  number r := r
  arranged_perm _ groups := .refl groups
  number_countAll _ := rfl

/-- The sum over two rows is one row, and two are counted. -/
theorem Select.counted?_sum :
    let s : Select :=
      { dialect := .sqlite
        source := .table "T"
        fields := [.aggregated .sum "a"] }
    s.unbounded.rows (.ofColumn [1, 2]) = [3] ∧ s.counted? (.ofColumn [1, 2]) = some 2 := by
  intro s
  exact ⟨rfl, rfl⟩

end ParamSql
