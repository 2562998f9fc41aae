import ParamSql.Proofs.Binding.Alignment
import ParamSql.Proofs.Layout.Query

/-!
# Layout of statements

A statement closes every parenthesis it opens, and outside parentheses it has
its own clauses in the order of the SQL standard, each once at most. Its texts
have to close theirs, and so have the names by which a page sorts from outside:
of an unnamed column that is what follows the last dot, a part of a text that
need not be balanced when the text is.
-/

namespace ParamSql

open Document Text

def Assignment.texts (named : Select → List String) : Assignment → List String
  | value parameter => parameter.column :: parameter.texts
  | query column inner => column :: inner.texts named

theorem Assignment.balanced_column {named : Select → List String} {a : Assignment}
    (h : AllBalanced (a.texts named)) : Balanced a.column.toList := by
  cases a with
  | value parameter => exact h.head
  | query column inner => exact h.head

theorem Assignment.closed {d : Dialect} {a : Assignment}
    (h : AllBalanced (a.texts (Select.sortNames d))) : Document.Closed d (a.document d) := by
  cases a with
  | value parameter => exact .hole h.tail
  | query column inner =>
    exact ((Select.closed h.tail).page (Select.texts_named h.tail) none false).parenthesized

theorem Assignment.separated_closed {d : Dialect} {as : List Assignment}
    {named : Select → List String} {f : Assignment → Document}
    (h : AllBalanced (as.flatMap (Assignment.texts named)))
    (hf : ∀ a, AllBalanced (a.texts named) → Document.Closed d (f a)) :
    Document.Closed d (separatedBy comma (as.map f)) := by
  apply Laid.separatedBy .comma
  intro e he
  obtain ⟨a, ha, rfl⟩ := List.mem_map.1 he
  apply hf
  intro text htext
  exact h text (List.mem_flatMap.2 ⟨a, ha, htext⟩)

theorem requireAssignments_laid {d : Dialect} {required order : List Keyword}
    {as : List Assignment} {e : Document} (h : Laid d required order e) :
    Laid d required order (requireAssignments as e) := by
  cases as with
  | nil => exact .failing _
  | cons _ _ => exact h

theorem filterClause_laid {d : Dialect} {filter : Option Condition}
    (h : AllBalanced (optionalTexts (Select.sortNames d) filter)) :
    Laid d [] [.WHERE] (filterClause d filter) := by
  apply Clauses.Closed.whereClause
  intro e he
  cases filter with
  | none => contradiction
  | some c =>
    obtain rfl := Option.some.inj he
    exact Condition.closed h

namespace RootStatement

/-- Texts that a statement is made from, and for each query within it the further
ones that `named` gives. -/
def texts (named : Select → List String) : RootStatement → List String
  | select s _ _ => s.texts named
  | insert i => i.table :: i.assignments.flatMap (Assignment.texts named)
  | update u =>
    u.table :: u.assignments.flatMap (Assignment.texts named) ++ optionalTexts named u.filter
  | delete d => d.table :: optionalTexts named d.filter
  | condition _ c => c.texts named

def requiredClauses : RootStatement → List Keyword
  | select _ _ _ => [.SELECT, .FROM]
  | insert _ => [.INSERT, .INTO, .VALUES]
  | update _ => [.UPDATE, .SET]
  | delete _ => [.DELETE, .FROM]
  | condition _ _ => []

def clauseOrder : RootStatement → List Keyword
  | select _ _ _ => Keyword.queryOrder
  | insert _ => [.INSERT, .INTO, .VALUES]
  | update _ => [.UPDATE, .SET, .WHERE]
  | delete _ => [.DELETE, .FROM, .WHERE]
  | condition _ _ => []

theorem laid {r : RootStatement} (h : AllBalanced (r.texts (Select.sortNames r.dialect))) :
    Laid r.dialect r.requiredClauses r.clauseOrder r.document := by
  cases r with
  | select s recordCount reversed =>
    exact (Select.closed h).page (Select.texts_named h) recordCount reversed
  | insert i =>
    have columns : Document.Closed i.dialect
        (separatedBy comma (i.assignments.map fun a => identifier a.column)) :=
      Assignment.separated_closed h.tail fun a ha => .identifier (Assignment.balanced_column ha)
    have values : Document.Closed i.dialect
        (separatedBy comma (i.assignments.map fun a => a.document i.dialect)) :=
      Assignment.separated_closed h.tail fun a ha => Assignment.closed ha
    have table := (((Laid.keyword (d := i.dialect) .INSERT).append (.clause .INTO)).appendClosed
      (.identifier h.head)).appendClosed .space
    have first := table.appendClosed ((Laid.space.append columns).append .space).parenthesized
    exact requireAssignments_laid ((first.append (.clause .VALUES)).appendClosed
      ((Laid.space.append values).append .space).parenthesized)
  | update u =>
    have equal : Document.Closed u.dialect [.token (.mark .equal)] := .mark (by decide)
    have changes : Document.Closed u.dialect (separatedBy comma (u.assignments.map fun a =>
        identifier a.column ++ .token (.mark .equal) :: a.document u.dialect)) :=
      Assignment.separated_closed h.tail.left fun a ha =>
        (Laid.identifier (Assignment.balanced_column ha)).append
          (equal.append (Assignment.closed ha))
    have table := ((Laid.keyword (d := u.dialect) .UPDATE).appendClosed .space).appendClosed
      (.identifier h.left.head)
    exact requireAssignments_laid (((table.append (.clause .SET)).appendClosed changes).append
      (filterClause_laid h.right))
  | delete d =>
    have table := ((Laid.keyword (d := d.dialect) .DELETE).append (.clause .FROM)).appendClosed
      (.identifier h.head)
    exact table.append (filterClause_laid h.tail)
  | condition d c => exact Condition.closed h

theorem head_select {s : Select} {recordCount : Option UInt64} {reversed : Bool}
    {b : Binder} {x : List Token × Binder}
    (hx : (select s recordCount reversed).document.fill b = .ok x) :
    ∃ rest, x.1 = .keyword .SELECT :: rest := by
  obtain ⟨tokens, b'⟩ := x
  obtain ⟨plan, -, -, hplan⟩ := PagePlan.forms_paginated (no_fault_of_fill hx)
  obtain ⟨rest, hrest⟩ := plan.document_eq_cons (d := s.dialect) (c := s.clauses s.dialect)
  have document : (select s recordCount reversed).document = .token (.keyword .SELECT) :: rest :=
    hplan.symm.trans hrest
  rw [document] at hx
  obtain ⟨tail, htail, -⟩ := fill_token_eq_ok.1 hx
  exact ⟨tail, htail⟩

/-- A rendered statement closes the parentheses it opens. Outside of them it has the
clauses it requires and no others than those of its order, in this order and each
once at most; every SELECT with something in front of it is within parentheses. -/
theorem balanced_in_order {r : RootStatement}
    (h : AllBalanced (r.texts (Select.sortNames r.dialect))) {tokens : List Token}
    {ps : List Parameter} (hout : r.output = .ok (tokens, ps)) :
    Balanced (Token.textOf r.dialect tokens).toList ∧
      r.requiredClauses.Sublist (Token.outerClauses r.dialect 0 tokens) ∧
      (Token.outerClauses r.dialect 0 tokens).Sublist r.clauseOrder ∧
      ∀ front back, tokens = front ++ .keyword .SELECT :: back → front ≠ [] →
        0 < excess (Token.textOf r.dialect front).toList := by
  obtain ⟨b, hfill, rfl⟩ := output_eq_ok.1 hout
  have whole := laid h _ _ _ hfill
  refine ⟨whole.balanced, whole.required, whole.ordered, ?_⟩
  rintro front back rfl hfront
  refine whole.depth_pos rfl ?_
  cases r with
  | select s recordCount reversed =>
    obtain ⟨rest, hrest⟩ := head_select hfill
    obtain ⟨first, others, rfl⟩ := List.exists_cons_of_ne_nil hfront
    obtain ⟨rfl, -⟩ := List.cons.inj hrest
    have first : (Token.outerClauses s.dialect 0 (.keyword .SELECT :: others)) =
        .SELECT :: Token.outerClauses s.dialect
          (0 + excess (Token.text s.dialect (.keyword .SELECT)).toList) others := rfl
    have once : (clauseOrder (select s recordCount reversed)).count .SELECT = 1 := rfl
    rw [once, dialect, first, List.count_cons_self]
    omega
  | insert i => exact Nat.zero_le _
  | update u => exact Nat.zero_le _
  | delete d => exact Nat.zero_le _
  | condition d c => exact Nat.zero_le _

/-- A page of distinct rows by their numbers, over a join with a query: four queries
within each other, of which one is outside parentheses. -/
theorem balanced_in_order_ranked :
    let newest : Select :=
      { dialect := .oracle
        source := .table "V"
        order := [.descending "c"]
        pagination := .top 3 }
    let s : Select :=
      { dialect := .sqlServer
        source := .table "T"
        distinct := true
        joins := [⟨.left, "T", "b", .query newest 0, "b"⟩]
        order := [.ascending "T.a"]
        pagination := .limit 10 5 }
    ∃ tokens ps, (select s none false).output = .ok (tokens, ps) ∧
      Token.outerClauses .sqlServer 0 tokens = [.SELECT, .FROM, .WHERE, .ORDER_BY] ∧
      Balanced (Token.textOf .sqlServer tokens).toList ∧
      tokens.count (.keyword .SELECT) = 4 := by
  intro newest s
  have texts : AllBalanced ((select s none false).texts (Select.sortNames .sqlServer)) := by
    simp only [s, newest]
    unfold AllBalanced
    decide
  have rendered : ∃ tokens ps, (select s none false).output = .ok (tokens, ps) ∧
      Token.outerClauses .sqlServer 0 tokens = [.SELECT, .FROM, .WHERE, .ORDER_BY] ∧
      tokens.count (.keyword .SELECT) = 4 := by
    simp only [s, newest]
    exact ⟨_, _, rfl, by decide +kernel, by decide +kernel⟩
  obtain ⟨tokens, ps, hout, hclauses, hcount⟩ := rendered
  have layout := balanced_in_order (r := select s none false) texts hout
  exact ⟨tokens, ps, hout, hclauses, layout.1, hcount⟩

/-- All texts of this query are balanced. The page sorts by `a)` from outside, and
closes a parenthesis too many. -/
theorem unbalanced_outer_name :
    let s : Select :=
      { dialect := .sqlServer
        source := .table "T"
        distinct := true
        order := [.ascending "f(t.a)"]
        pagination := .limit 10 5 }
    AllBalanced ((select s none false).texts fun _ => []) ∧
      ∃ tokens ps, (select s none false).output = .ok (tokens, ps) ∧
        ¬ Balanced (Token.textOf .sqlServer tokens).toList := by
  intro s
  have texts : AllBalanced ((select s none false).texts fun _ => []) := by
    simp only [s]
    unfold AllBalanced
    decide
  have rendered : ∃ tokens ps, (select s none false).output = .ok (tokens, ps) ∧
      excess (Token.textOf .sqlServer tokens).toList = -1 := by
    simp only [s]
    exact ⟨_, _, rfl, by decide +kernel⟩
  obtain ⟨tokens, ps, hout, hexcess⟩ := rendered
  refine ⟨texts, tokens, ps, hout, ?_⟩
  intro balanced
  have closed := balanced.closed
  rw [hexcess] at closed
  exact absurd closed (by decide)

end RootStatement

end ParamSql
