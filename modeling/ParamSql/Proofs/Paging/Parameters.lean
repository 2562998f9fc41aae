import ParamSql.Proofs.Binding.Alignment
import ParamSql.Proofs.Paging.Contents
import ParamSql.Proofs.Paging.Form

/-!
# A page binds what its query binds

However a page is put together, the fields, the source, the joins, the filter
and HAVING of its query stand in it once and in this order. As long as the sort
keys bind nothing, a page has the parameters of the query without paging, under
the same names.
-/

namespace ParamSql

open Document

theorem Document.isConstant_applyAggregate (d : Dialect) (aggregate : Option Aggregate)
    (distinct : Bool) {e : Document} (h : e.isConstant = true) :
    (applyAggregate d aggregate distinct e).isConstant = true := by
  cases aggregate with
  | none => exact h
  | some a =>
    have word : isConstant (if distinct then keyword .DISTINCT ++ space else []) = true := by
      cases distinct <;> rfl
    unfold applyAggregate
    rw [isConstant_append, isConstant_parenthesized, isConstant_append, word, h]
    cases d.aggregateName a <;> rfl

theorem Document.holes_rowCount (n : UInt64) : (rowCount n).holes = [] :=
  holes_of_isConstant (isConstant_rowCount n)

theorem Document.holes_selectAllFrom (d : Dialect) (inner : Document) (top : Option UInt64)
    (name : Option String) : (selectAllFrom d inner top name).holes = inner.holes := by
  rw [holes_eq_filterMap, filterMap_selectAllFrom Piece.skipsText_hole?, ← holes_eq_filterMap]
  cases top with
  | none => rfl
  | some n =>
    rw [Option.elim, ← holes_eq_filterMap, holes_rowCount, List.nil_append]

namespace Clauses

/-- What a query binds in its own clauses, ORDER BY left out. -/
def bindings (c : Clauses) : List Parameter :=
  c.fields.flatMap (·.document.holes) ++ c.source.holes ++ c.filter.elim [] holes ++
    c.having.elim [] holes

def OrderIsConstant (c : Clauses) : Prop := ∀ k ∈ c.order, k.expression.isConstant = true

theorem body_hole? (c : Clauses) : c.body Piece.hole? = c.bindings := by
  have same : holes = fun d => d.filterMap Piece.hole? := funext holes_eq_filterMap
  simp only [body, bindings, same]

theorem OrderIsConstant.sortKeys_hole? {c : Clauses} (h : c.OrderIsConstant) :
    c.sortKeys Piece.hole? = [] := by
  refine List.flatMap_eq_nil_iff.2 fun k hk => ?_
  rw [← holes_eq_filterMap]
  exact holes_of_isConstant (h k hk)

theorem holes_base {c : Clauses} (h : c.OrderIsConstant) (options : BaseOptions)
    (hleading : ∀ entry ∈ options.leading, entry.holes = []) :
    (c.base options).holes = c.bindings := by
  have top : options.top.elim [] (fun n => (rowCount n).filterMap Piece.hole?) = [] := by
    cases options.top with
    | none => rfl
    | some n => exact (holes_eq_filterMap _).symm.trans (holes_rowCount n)
  have leading : options.leading.elim [] (·.filterMap Piece.hole?) = [] := by
    cases hoptions : options.leading with
    | none => rfl
    | some entry => exact (holes_eq_filterMap entry).symm.trans (hleading entry hoptions)
  rw [holes_eq_filterMap, c.filterMap_base Piece.skipsText_hole?, top, leading, h.sortKeys_hole?,
    body_hole?]
  simp

end Clauses

section Plan

variable {c : Clauses} (h : c.OrderIsConstant) (d : Dialect)

include h

theorem Numbering.holes_document (numbering : Numbering) :
    (numbering.document d c).holes = c.bindings := by
  have hf := Piece.skipsText_hole?
  cases numbering with
  | inline reversed =>
    rw [document]
    refine Clauses.holes_base h _ ?_
    intro entry hentry
    obtain rfl := Option.some.inj hentry
    rw [holes_eq_filterMap, Clauses.filterMap_rowNumbering hf, c.filterMap_orderList hf,
      h.sortKeys_hole?]
  | outside keys reversed =>
    have ranking : (Clauses.rowNumbering (Clauses.outerEntries keys reversed)).holes = [] := by
      rw [holes_eq_filterMap, Clauses.filterMap_rowNumbering hf, Clauses.filterMap_outerEntries hf]
    have words : (keyword .SELECT ++ space).holes = [] := rfl
    have star : (comma ++ (qualified (some Clauses.numberedSource) [.token .star] ++
        clause .FROM)).holes = [] := rfl
    rw [document, holes_append_constant _ (by simp), holes_append, holes_parenthesized,
      List.append_assoc, List.append_assoc, holes_append, holes_append, words, ranking, star]
    exact Clauses.holes_base h { reversed, omitOrder := true } (by simp)
  | counted reversed =>
    rw [document, List.append_assoc, holes_append_constant _ (by simp),
      holes_constant_append (by simp), holes_parenthesized]
    exact Clauses.holes_base h _ (by simp)

/-- By induction on the plan: it holds its query once, between parts that bind nothing. -/
theorem PagePlan.holes_document (plan : PagePlan) : (plan.document d c).holes = c.bindings := by
  have hf := Piece.skipsText_hole?
  induction plan with
  | base reversed top alwaysEmpty =>
    rw [document]
    exact Clauses.holes_base h _ (by simp)
  | limit style inner start size ih =>
    cases style with
    | offset =>
      rw [document, List.append_assoc, holes_append_constant _ (by simp), ih]
    | comma =>
      have first : isConstant (if start = 0 then [] else rowCount start ++ comma) = true := by
        split <;> simp
      rw [document, List.append_assoc, List.append_assoc,
        holes_append_constant _ (by simp [first]), ih]
  | firstRows inner size ih =>
    simp only [document, List.append_assoc]
    rw [holes_append_constant _ (by simp), holes_selectAllFrom, ih]
  | resorted inner top name keys reversed ih =>
    have order : (orderBy (Clauses.outerEntries keys reversed)).holes = [] := by
      rw [holes_eq_filterMap, filterMap_orderBy hf, Clauses.filterMap_outerEntries hf]
    rw [document, holes_append, holes_selectAllFrom, ih, order, List.append_nil]
  | between numbering name first last sorted =>
    have order : isConstant (if sorted then
        clause .ORDER_BY ++ identifier Clauses.rowNumberColumn else []) = true := by
      cases sorted <;> simp
    rw [document, List.append_assoc, holes_append_constant _ (by simp [order]),
      holes_selectAllFrom, numbering.holes_document h]

end Plan

def Select.SortsWithoutQueries (s : Select) : Prop :=
  ∀ k ∈ s.order, ∀ q, k.field.source ≠ .query q

theorem Field.isConstant_expressionDocument (d : Dialect) {f : Field}
    (h : ∀ q, f.source ≠ .query q) : (f.expressionDocument d).isConstant = true := by
  obtain ⟨source, name, aggregate, distinct⟩ := f
  rw [expressionDocument]
  apply isConstant_applyAggregate
  cases source with
  | column table name => simp [FieldSource.document]
  | all table => simp [FieldSource.document]
  | expression sql => simp [FieldSource.document]
  | query q => exact absurd rfl (h q)

theorem isConstant_orderClauses (d : Dialect) {keys : List OrderKey}
    (h : ∀ k ∈ keys, ∀ q, k.field.source ≠ .query q) :
    ∀ k ∈ orderClauses d keys, k.expression.isConstant = true := by
  induction keys with
  | nil =>
    intro k hk
    exact absurd hk List.not_mem_nil
  | cons key keys ih =>
    obtain ⟨field, direction⟩ := key
    intro k hk
    rcases List.mem_cons.1 hk with rfl | hk
    · exact field.isConstant_expressionDocument d (h ⟨field, direction⟩ List.mem_cons_self)
    · exact ih (fun key hkey => h key (List.mem_cons_of_mem _ hkey)) k hk

theorem Select.SortsWithoutQueries.orderIsConstant {s : Select} (h : s.SortsWithoutQueries)
    (d : Dialect) : (s.clauses d).OrderIsConstant := by
  cases s
  exact isConstant_orderClauses d h

theorem Select.unfilled_paginated (s : Select) (d : Dialect) (p : Pagination)
    (recordCount : Option UInt64) (reversed : Bool) :
    ((s.clauses d).paginated d p recordCount reversed).Unfilled := by
  have self : s.Corresponds Eq Eq s := s.corresponds_self fun _ _ => rfl
  exact ((self.clauses d).paginated d p recordCount reversed).unfilled

theorem Select.SortsWithoutQueries.holes_paginated {s : Select} (h : s.SortsWithoutQueries)
    {d : Dialect} {p : Pagination} {recordCount : Option UInt64} {reversed : Bool} {b : Binder}
    {x : List Token × Binder}
    (hx : ((s.clauses d).paginated d p recordCount reversed).fill b = .ok x) :
    ((s.clauses d).paginated d p recordCount reversed).holes = (s.clauses d).bindings := by
  obtain ⟨plan, -, -, hplan⟩ := PagePlan.forms_paginated (no_fault_of_fill hx)
  rw [← hplan]
  exact plan.holes_document (h.orderIsConstant d) d

theorem Select.SortsWithoutQueries.binder_eq {s : Select} (h : s.SortsWithoutQueries)
    {d : Dialect} {p : Pagination} {recordCount : Option UInt64} {reversed : Bool} {b : Binder}
    {x : List Token × Binder}
    (hx : ((s.clauses d).paginated d p recordCount reversed).fill b = .ok x) :
    x.2 = ⟨b.next + (s.clauses d).bindings.countP Parameter.isPending,
      b.parameters ++ Binder.recorded b.next (s.clauses d).bindings⟩ := by
  obtain ⟨hnext, hparameters, -⟩ := fill_spec (s.unfilled_paginated d p recordCount reversed) hx
  rw [h.holes_paginated hx] at hnext hparameters
  rw [← hnext, ← hparameters]

theorem Select.clauses_unbounded (s : Select) (d : Dialect) :
    s.unbounded.clauses d = s.clauses d := by
  cases s
  rfl

namespace RootStatement

theorem parameters_of_output {s : Select} (h : s.SortsWithoutQueries)
    {recordCount : Option UInt64} {reversed : Bool} {tokens : List Token} {ps : List Parameter}
    (hout : (select s recordCount reversed).output = .ok (tokens, ps)) :
    ps = Binder.recorded 0 (s.clauses s.dialect).bindings := by
  obtain ⟨b, hfill, rfl⟩ := output_eq_ok.1 hout
  exact congrArg Binder.parameters (h.binder_eq hfill)

/-- A page of a query and the query without paging have the same parameters:
what the fields, the source with its joins, the filter and HAVING bind. Inside a
statement the one leaves the binder as the other does. -/
theorem page_parameters_eq_unpaged {s : Select} (h : s.SortsWithoutQueries) :
    (∀ (recordCount recordCount' : Option UInt64) (reversed reversed' : Bool)
        (tokens tokens' : List Token) (ps ps' : List Parameter),
      (select s recordCount reversed).output = .ok (tokens, ps) →
      (select s.unbounded recordCount' reversed').output = .ok (tokens', ps') →
      ps = ps' ∧ ps = Binder.recorded 0 (s.clauses s.dialect).bindings) ∧
    ∀ (d : Dialect) (b : Binder) (x y : List Token × Binder),
      (s.document d).fill b = .ok x → (s.unbounded.document d).fill b = .ok y → x.2 = y.2 := by
  have unpaged : s.unbounded.SortsWithoutQueries := h
  constructor
  · intro recordCount recordCount' reversed reversed' tokens tokens' ps ps' hpage hwhole
    have hps := parameters_of_output h hpage
    have hps' := parameters_of_output unpaged hwhole
    have same : s.unbounded.clauses s.unbounded.dialect = s.clauses s.dialect :=
      s.clauses_unbounded s.dialect
    rw [same] at hps'
    exact ⟨hps.trans hps'.symm, hps⟩
  · intro d b x y hpage hwhole
    have hx := h.binder_eq hpage
    have hy := unpaged.binder_eq hwhole
    rw [s.clauses_unbounded] at hy
    exact hx.trans hy.symm

/-- A page within the first half, in three levels around its query: a pending
parameter in the source, a fixed one in the filter and a pending one in HAVING. -/
theorem page_parameters_eq_unpaged_front :
    let s : Select :=
      { dialect := .access
        source := .query
          { dialect := .mySql
            source := .table "u"
            filter := some (.basic "c" .equal [.pending "c" (.integer 1)]) }
        sourceAlias := some "t"
        fields := [.column "a"]
        filter := some (.basic "b" .equal [.oldValue "b" (.integer 2)])
        grouping := [.column none "a"]
        having := some (.basic "a" .lessThan [.pending "a" (.integer 3)])
        order := [.descending "a"]
        pagination := .limit 3 4 }
    ∃ tokens ps tokens' ps', (select s (some 9) true).output = .ok (tokens, ps) ∧
      (select s.unbounded none false).output = .ok (tokens', ps') ∧
      ps.map Parameter.name? = [some "IDX_0", some "OLD_b", some "IDX_1"] ∧ ps = ps' := by
  intro s
  have sorts : s.SortsWithoutQueries := by
    intro k hk q
    obtain rfl := List.mem_singleton.1 hk
    exact nofun
  have paged : ∃ tokens ps, (select s (some 9) true).output = .ok (tokens, ps) ∧
      ps.map Parameter.name? = [some "IDX_0", some "OLD_b", some "IDX_1"] := by
    simp only [s]
    exact ⟨_, _, rfl, rfl⟩
  have whole : ∃ tokens ps, (select s.unbounded none false).output = .ok (tokens, ps) := by
    simp only [s]
    exact ⟨_, _, rfl⟩
  obtain ⟨tokens, ps, h, hnames⟩ := paged
  obtain ⟨tokens', ps', h'⟩ := whole
  have same := (page_parameters_eq_unpaged sorts).1 _ _ _ _ _ _ _ _ h h'
  exact ⟨tokens, ps, tokens', ps', h, h', hnames, same.1⟩

end RootStatement

end ParamSql
