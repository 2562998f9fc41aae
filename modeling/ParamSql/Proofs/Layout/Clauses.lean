import ParamSql.Proofs.Layout.Fragment
import ParamSql.Proofs.Paging.Form

/-!
# Layout of queries and their pages

The clauses of a query stand in the order of the SQL standard. A page puts its
query between parentheses, or appends a limit to it, and has its own clauses in
the same order.
-/

namespace ParamSql

open Document Text

structure Clauses.Closed (d : Dialect) (c : Clauses) : Prop where
  fields : ∀ f ∈ c.fields, Document.Closed d f.document
  source : Document.Closed d c.source
  filter : ∀ e ∈ c.filter, Document.Closed d e
  grouping : ∀ k ∈ c.grouping, AllBalanced k.texts
  having : ∀ e ∈ c.having, Document.Closed d e
  order : ∀ k ∈ c.order, Document.Closed d k.expression

namespace Clauses.Closed

variable {d : Dialect} {c : Clauses}

theorem fieldEntries (h : c.Closed d) {leading : Option Document}
    (hleading : ∀ e ∈ leading, Document.Closed d e) :
    Document.Closed d (separatedBy comma (c.fieldEntries leading)) := by
  have own : ∀ e ∈ (if c.fields = [] then [[.token .star]] else c.fields.map (·.document)),
      Document.Closed d e := by
    intro e he
    split at he
    · obtain rfl := List.mem_singleton.1 he
      exact .star
    · obtain ⟨f, hf, rfl⟩ := List.mem_map.1 he
      exact h.fields f hf
  apply Laid.separatedBy .comma
  intro e he
  cases leading with
  | none => exact own e he
  | some entry =>
    rcases List.mem_cons.1 he with rfl | he
    · exact hleading _ rfl
    · exact own e he

theorem whereClause {filter : Option Document} (h : ∀ e ∈ filter, Document.Closed d e)
    (alwaysEmpty : Bool) : Laid d [] [.WHERE] (whereClause filter alwaysEmpty) := by
  have word : Laid d [] [.WHERE] (clause .WHERE) :=
    (Laid.clause .WHERE).weaken (List.nil_sublist _) (.refl _)
  have never : Document.Closed d alwaysFalse := .raw (by decide)
  cases filter with
  | none =>
    cases alwaysEmpty with
    | false => exact Laid.nil.weaken (.refl _) (List.nil_sublist _)
    | true => exact word.appendClosed never
  | some e =>
    have filtered := word.appendClosed (h e rfl)
    cases alwaysEmpty with
    | false => exact filtered
    | true => exact (filtered.appendClosed (.clause .AND)).appendClosed never

theorem orderEntry {key : Document} (h : Document.Closed d key) (direction : Direction)
    (reversed : Bool) : Document.Closed d (orderEntry key direction reversed) := by
  have word : Document.Closed d (keyword (direction.effective reversed).keyword) := by
    cases direction.effective reversed with
    | ascending => exact .keyword .ASC
    | descending => exact .keyword .DESC
  exact (h.append .space).append word

theorem orderList (h : c.Closed d) (reversed : Bool) :
    ∀ e ∈ c.orderList reversed, Document.Closed d e := by
  intro e he
  unfold Clauses.orderList at he
  split at he
  · contradiction
  · obtain rfl := Option.some.inj he
    apply Laid.separatedBy .comma
    intro entry hentry
    obtain ⟨k, hk, rfl⟩ := List.mem_map.1 hentry
    exact orderEntry (h.order k hk) k.direction reversed

theorem outerEntries {keys : List (String × Direction)}
    (h : AllBalanced (keys.map Prod.fst)) (reversed : Bool) :
    ∀ e ∈ outerEntries keys reversed, Document.Closed d e := by
  intro e he
  unfold Clauses.outerEntries at he
  split at he
  · contradiction
  · obtain rfl := Option.some.inj he
    apply Laid.separatedBy .comma
    intro entry hentry
    obtain ⟨key, hkey, rfl⟩ := List.mem_map.1 hentry
    exact orderEntry (.identifier (h _ (List.mem_map_of_mem hkey))) key.2 reversed

theorem base (h : c.Closed d) (options : BaseOptions)
    (hleading : ∀ e ∈ options.leading, Document.Closed d e) :
    Laid d [.SELECT, .FROM] [.SELECT, .TOP, .FROM, .WHERE, .GROUP_BY, .HAVING, .ORDER_BY]
      (c.base options) := by
  have distinct : Document.Closed d
      (if c.distinct then keyword .DISTINCT ++ Document.space else []) :=
    .given fun _ => (Laid.keyword .DISTINCT).append .space
  have top : Laid d [] [.TOP] (options.top.elim [] fun n =>
      keyword .TOP ++ Document.space ++ rowCount n ++ Document.space) :=
    .optional fun n _ => (((Laid.keyword .TOP).appendClosed .space).appendClosed
      (.rowCount n)).appendClosed .space
  have keys : Document.Closed d (separatedBy comma (c.grouping.map GroupKey.document)) := by
    apply Laid.separatedBy .comma
    intro e he
    obtain ⟨k, hk, rfl⟩ := List.mem_map.1 he
    exact .groupKey (h.grouping k hk)
  have grouping : Laid d [] [.GROUP_BY] (if c.grouping = [] then []
      else clause .GROUP_BY ++ separatedBy comma (c.grouping.map GroupKey.document)) :=
    .omitted fun _ => (Laid.clause .GROUP_BY).appendClosed keys
  have having : Laid d [] [.HAVING] (c.having.elim [] (clause .HAVING ++ ·)) :=
    .optional fun e he => (Laid.clause .HAVING).appendClosed (h.having e he)
  have order : Laid d [] [.ORDER_BY]
      (if options.omitOrder then [] else orderBy (c.orderList options.reversed)) :=
    .omitted fun _ => .orderBy (h.orderList options.reversed)
  have select := (((Laid.keyword (d := d) .SELECT).appendClosed .space).appendClosed
    distinct).append top
  have fields := select.appendClosed (h.fieldEntries hleading)
  have source := (fields.append (.clause .FROM)).appendClosed h.source
  rw [Clauses.base_eq]
  exact (((source.append (whereClause h.filter options.alwaysEmpty)).append grouping).append
    having).append order

theorem rowNumbering {order : Option Document} (h : ∀ e ∈ order, Document.Closed d e) :
    Document.Closed d (rowNumbering order) := by
  have fronts : ∀ front ∈ "ROW_NUMBER() OVER(".toList.inits, 0 ≤ excess front := by decide
  have one : excess "ROW_NUMBER() OVER(".toList = 1 := by decide
  have entries : Document.Closed d (order.getD (raw "(SELECT NULL)")) := by
    cases order with
    | none => exact .raw (by decide)
    | some e => exact h e rfl
  have inner := ((Laid.keyword (d := d) .ORDER_BY).appendClosed .space).appendClosed entries
  have ranking : Document.Closed d (.token (.raw "ROW_NUMBER() OVER(") ::
      (keyword .ORDER_BY ++ Document.space ++ order.getD (raw "(SELECT NULL)")) ++
      [.token .closing]) := inner.enclosed rfl fronts one
  exact (ranking.append (.clause .AS)).append (.identifier (by decide))

end Clauses.Closed

/-- Clauses of a query in the order of the SQL standard, with the limits of the dialects. -/
def Keyword.queryOrder : List Keyword :=
  [.SELECT, .TOP, .FROM, .WHERE, .GROUP_BY, .HAVING, .ORDER_BY, .LIMIT, .OFFSET]

section Plan

open Clauses (rowNumberColumn innerPage outerPage numberedTable numberedSource)

variable {d : Dialect} {c : Clauses}

theorem Numbering.laid (h : c.Closed d) {numbering : Numbering}
    (hnames : AllBalanced numbering.names) :
    Laid d [.SELECT, .FROM] Keyword.queryOrder (numbering.document d c) := by
  have select := (Laid.keyword (d := d) .SELECT).appendClosed .space
  have column : Document.Closed d (identifier rowNumberColumn) := .identifier (by decide)
  have star (name : String) (hname : Balanced name.toList) :
      Document.Closed d (qualified (some name) [.token .star]) := by
    refine .qualified ?_ .star
    intro text htext
    obtain rfl := List.mem_singleton.1 htext
    exact hname
  cases numbering with
  | inline reversed =>
    have ranks : ∀ e ∈ some (Clauses.rowNumbering (c.orderList reversed)),
        Document.Closed d e := by
      intro e he
      obtain rfl := Option.some.inj he
      exact Clauses.Closed.rowNumbering (h.orderList reversed)
    exact (h.base { reversed, leading := some _, omitOrder := true } ranks).weaken
      (.refl _) (by decide)
  | outside keys reversed =>
    have ranks : Document.Closed d (Clauses.rowNumbering (Clauses.outerEntries keys reversed)) :=
      Clauses.Closed.rowNumbering (Clauses.Closed.outerEntries hnames reversed)
    have inner := (h.base { reversed, omitOrder := true } nofun).parenthesized
    have fields := ((select.appendClosed ranks).appendClosed .comma).appendClosed
      (star numberedSource (by decide))
    have source := (fields.append (.clause .FROM)).appendClosed inner
    exact (source.appendClosed (.tableAlias (by decide))).weaken (.refl _) (by decide)
  | counted reversed =>
    have inner := (h.base { reversed } nofun).parenthesized
    have number : Document.Closed d (raw "ROWNUM") := .raw (by decide)
    have fields := ((((select.appendClosed (star innerPage (by decide))).appendClosed
      .comma).appendClosed number).appendClosed .space).appendClosed column
    have source := (fields.append (.clause .FROM)).appendClosed inner
    have label : Document.Closed d (identifier innerPage) := .identifier (by decide)
    exact ((source.appendClosed .space).appendClosed label).weaken (.refl _) (by decide)

/-- By induction on the plan: it holds its query between parentheses, or with a limit behind
it, and its own clauses around that in order. -/
theorem PagePlan.laid (h : c.Closed d) {plan : PagePlan} (hlimits : plan.LimitsBase)
    (hnames : AllBalanced plan.names) :
    Laid d [.SELECT, .FROM] Keyword.queryOrder (plan.document d c) := by
  have column : Document.Closed d (identifier rowNumberColumn) := .identifier (by decide)
  induction plan with
  | base reversed top alwaysEmpty =>
    exact (h.base { reversed, top, alwaysEmpty } nofun).weaken (.refl _) (by decide)
  | limit style inner start size _ =>
    obtain ⟨reversed, rfl⟩ := hlimits
    have query := h.base { reversed } nofun
    cases style with
    | offset =>
      exact ((query.appendClosed .space).append (.limitOffset (some size) (some start))).weaken
        (.refl _) (by decide)
    | comma =>
      have first : Document.Closed d (if start = 0 then [] else rowCount start ++ comma) :=
        .omitted fun _ => (Laid.rowCount start).append .comma
      have limit := (Laid.clause (d := d) .LIMIT).weaken (List.nil_sublist _) (.refl _)
      exact (((query.append limit).appendClosed first).appendClosed (.rowCount size)).weaken
        (.refl _) (by decide)
  | firstRows inner size ih =>
    have number : Document.Closed d (raw "ROWNUM") := .raw (by decide)
    have atMost : Document.Closed d [.token (.mark .lessOrEqual)] := .mark (by decide)
    have rows : Laid d [.SELECT, .FROM] [.SELECT, .TOP, .FROM]
        (selectAllFrom d (inner.document d c) none none) :=
      .selectAllFrom (ih hlimits hnames) none nofun
    have filter := (((rows.append (.clause .WHERE)).appendClosed number).appendClosed
      .space).appendClosed atMost
    exact ((filter.appendClosed .space).appendClosed (.rowCount size)).weaken
      (by decide) (by decide)
  | resorted inner top name keys reversed ih =>
    have label : AllBalanced (some name).toList := by
      simpa [AllBalanced] using hnames.right.head
    have rows := Laid.selectAllFrom (ih hlimits hnames.left) top label
    have order := Clauses.Closed.outerEntries (d := d) hnames.right.tail reversed
    exact (rows.append (.orderBy order)).weaken (.refl _) (by decide)
  | between numbering name first last sorted =>
    have rows := Laid.selectAllFrom (Numbering.laid h hnames.left) none hnames.right
    have range := (((((Laid.clause (d := d) .WHERE).appendClosed column).appendClosed
      (.clause .BETWEEN)).appendClosed (.rowCount first)).appendClosed (.clause .AND)).appendClosed
      (.rowCount last)
    have order : Laid d [] [.ORDER_BY]
        (if sorted then clause .ORDER_BY ++ identifier rowNumberColumn else []) :=
      .given fun _ => (Laid.clause .ORDER_BY).appendClosed column
    exact ((rows.append range).append order).weaken (by decide) (by decide)

theorem PagePlan.document_eq_cons (plan : PagePlan) :
    ∃ rest, plan.document d c = .token (.keyword .SELECT) :: rest := by
  induction plan with
  | base reversed top alwaysEmpty => exact ⟨_, rfl⟩
  | limit style inner start size ih =>
    obtain ⟨rest, hrest⟩ := ih
    cases style <;> exact ⟨_, by rw [document, hrest]; rfl⟩
  | firstRows inner size ih => exact ⟨_, rfl⟩
  | resorted inner top name keys reversed ih => exact ⟨_, rfl⟩
  | between numbering name first last sorted => exact ⟨_, rfl⟩

end Plan

namespace Clauses.Closed

variable {d : Dialect} {c : Clauses} {p : Pagination} {recordCount : Option UInt64}
  {reversed : Bool}

theorem paginated (h : c.Closed d) (hnames : PagePlan.SortsByName d c.distinct c.grouping p →
      AllBalanced (c.order.filterMap (·.outputName))) :
    Laid d [.SELECT, .FROM] Keyword.queryOrder (c.paginated d p recordCount reversed) := by
  intro b tokens b' hfill
  obtain ⟨plan, hlimits, names, hplan⟩ := PagePlan.forms_paginated (no_fault_of_fill hfill)
  have fixed : AllBalanced PagePlan.fixedNames := by
    unfold AllBalanced
    decide
  have balanced : AllBalanced plan.names := by
    intro name hname
    rcases names name hname with hfixed | ⟨hsorts, hmem⟩
    · exact fixed name hfixed
    · exact hnames hsorts name hmem
  rw [← hplan] at hfill
  exact PagePlan.laid h hlimits balanced b tokens b' hfill

end Clauses.Closed

end ParamSql
