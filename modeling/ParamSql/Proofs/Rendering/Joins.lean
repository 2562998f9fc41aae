import ParamSql.Proofs.Layout.Query
import ParamSql.Proofs.Paging.Parameters
import ParamSql.Proofs.Paging.Success
import ParamSql.Proofs.Rendering.Pieces

/-!
# Joins are nested to the left

All parentheses of a FROM clause are opened in front of its source, and one is closed behind each
join but the last. What comes out is the recursion on the joins: each join past the first applies
to all before it in parentheses. The source is filled first, and then one join after the other.
-/

namespace ParamSql

open Document

namespace Token

/-- A source with joins, each past the first behind all before it in parentheses. -/
def leftNested (source : List Token) : List (List Token) → List Token
  | [] => source
  | first :: later =>
    later.foldl (fun before join => parenthesized before ++ space :: join)
      (source ++ space :: first)

variable (source : List Token)

theorem leftNested_concat (joins : List (List Token)) (join : List Token) :
    leftNested source (joins ++ [join]) =
      (if joins = [] then source else parenthesized (leftNested source joins)) ++
        space :: join := by
  cases joins with
  | nil => rfl
  | cons first later =>
    rw [if_neg (List.cons_ne_nil _ _), List.cons_append, leftNested, List.foldl_concat,
      leftNested]

theorem leftNested_take (joins : List (List Token)) (k : Nat) (hk : k < joins.length) :
    leftNested source (joins.take (k + 1)) =
      (if k = 0 then source else parenthesized (leftNested source (joins.take k))) ++
        space :: joins[k] := by
  have empty : joins.take k = [] ↔ k = 0 := by
    rw [List.take_eq_nil_iff]
    constructor
    · rintro (hzero | rfl)
      · exact hzero
      · exact absurd hk (Nat.not_lt_zero k)
    · exact .inl
  rw [List.take_succ_eq_append_getElem hk, leftNested_concat]
  simp only [empty]

/-- By induction along the joins from the last on, all but one of them bring a pair of
parentheses. -/
theorem count_leftNested {sign : Token} (hsign : sign = .opening ∨ sign = .closing)
    (joins : List (List Token)) :
    (leftNested source joins).count sign =
      (source ++ joins.flatten).count sign + (joins.length - 1) := by
  have pair (tokens : List Token) : (parenthesized tokens).count sign = tokens.count sign + 1 := by
    rcases hsign with rfl | rfl <;> simp [parenthesized]
  have blank (tokens : List Token) : (space :: tokens).count sign = tokens.count sign := by
    rcases hsign with rfl | rfl <;> simp
  induction joins using List.reverseRecOn with
  | nil => simp [leftNested]
  | append_singleton joins join ih =>
    rw [leftNested_concat, List.count_append, blank]
    by_cases hjoins : joins = []
    · simp [hjoins]
    · have : 0 < joins.length := List.length_pos_iff.2 hjoins
      rw [if_neg hjoins, pair, ih, List.flatten_concat]
      simp only [List.count_append, List.length_append, List.length_singleton]
      omega

end Token

namespace Document

/-- Documents filled one after the other, each from where the one before it left the binder. -/
inductive FilledInOrder : Binder → List Document → List (List Token) → Binder → Prop
  | nil (b : Binder) : FilledInOrder b [] [] b
  | cons {d : Document} {ds : List Document} {tokens : List Token} {parts : List (List Token)}
    {b b₁ b₂ : Binder} (first : d.fill b = .ok (tokens, b₁)) (rest : FilledInOrder b₁ ds parts b₂) :
    FilledInOrder b (d :: ds) (tokens :: parts) b₂

theorem FilledInOrder.length_eq {b b' : Binder} {ds : List Document} {parts : List (List Token)}
    (h : FilledInOrder b ds parts b') : parts.length = ds.length := by
  induction h with
  | nil b => rfl
  | cons _ _ ih => rw [List.length_cons, List.length_cons, ih]

/-- A join behind all before it in parentheses. -/
def joinBehind (before join : Document) : Document := parenthesized before ++ space ++ join

theorem joinedSource_cons (source first : Document) (later : List Document) :
    joinedSource source (first :: later) =
      later.foldl joinBehind (source ++ space ++ first) := by
  induction later generalizing source first with
  | nil => exact (List.append_assoc source space first).symm
  | cons second later ih => rw [joinedSource_cons_cons, ih, List.foldl_cons, joinBehind]

theorem fill_behind {before join : Document} {b b' : Binder} {tokens : List Token}
    (h : (before ++ space ++ join).fill b = .ok (tokens, b')) :
    ∃ front back b₁, before.fill b = .ok (front, b₁) ∧ join.fill b₁ = .ok (back, b') ∧
      tokens = front ++ .space :: back := by
  have blank : space = ofTokens [.space] := rfl
  rw [List.append_assoc, blank] at h
  obtain ⟨front, b₁, behind, hfront, hbehind, rfl⟩ := fill_append_eq_ok.1 h
  obtain ⟨back, rfl, hback⟩ := fill_ofTokens_append_eq_ok.1 hbehind
  exact ⟨front, back, b₁, hfront, hback, rfl⟩

/-- By induction along the later joins, what stands before them is filled first. -/
theorem fill_foldl_joinBehind {before : Document} {later : List Document} {b b' : Binder}
    {tokens : List Token} (h : (later.foldl joinBehind before).fill b = .ok (tokens, b')) :
    ∃ front parts b₁, before.fill b = .ok (front, b₁) ∧ FilledInOrder b₁ later parts b' ∧
      tokens = parts.foldl (fun before join => Token.parenthesized before ++ .space :: join)
        front := by
  induction later generalizing before with
  | nil => exact ⟨tokens, [], b', h, .nil b', rfl⟩
  | cons join later ih =>
    obtain ⟨front, parts, b₂, hfront, hparts, rfl⟩ := ih h
    obtain ⟨outer, part, b₁, houter, hpart, rfl⟩ := fill_behind hfront
    obtain ⟨inner, rfl, hinner⟩ := fill_parenthesized_eq_ok.1 houter
    exact ⟨inner, part :: parts, b₁, hinner, .cons hpart hparts, rfl⟩

theorem fill_joinedSource {source : Document} {joins : List Document} {b b' : Binder}
    {tokens : List Token} (h : (joinedSource source joins).fill b = .ok (tokens, b')) :
    ∃ front parts, FilledInOrder b (source :: joins) (front :: parts) b' ∧
      tokens = Token.leftNested front parts := by
  cases joins with
  | nil =>
    have alone : joinedSource source [] = source := List.append_nil source
    rw [alone] at h
    exact ⟨tokens, [], .cons h (.nil b'), rfl⟩
  | cons first later =>
    rw [joinedSource_cons] at h
    obtain ⟨start, parts, b₂, hstart, hparts, rfl⟩ := fill_foldl_joinBehind h
    obtain ⟨front, part, b₁, hfront, hpart, rfl⟩ := fill_behind hstart
    exact ⟨front, part :: parts, .cons hfront (.cons hpart hparts), rfl⟩

end Document

namespace Clauses

variable (c : Clauses) (options : BaseOptions)

/-- `SELECT [DISTINCT ][TOP n ]fields` -/
def beforeFrom : Document :=
  keyword .SELECT ++ space ++
    (if c.distinct then keyword .DISTINCT ++ space else []) ++
    (match options.top with
      | some n => keyword .TOP ++ space ++ rowCount n ++ space
      | none => []) ++
    separatedBy comma (c.fieldEntries options.leading)

def behindFrom : Document :=
  whereClause c.filter options.alwaysEmpty ++
    (if c.grouping = [] then []
      else clause .GROUP_BY ++ separatedBy comma (c.grouping.map GroupKey.document)) ++
    (match c.having with
      | some h => clause .HAVING ++ h
      | none => []) ++
    (if options.omitOrder then [] else orderBy (c.orderList options.reversed))

theorem base_eq_from :
    c.base options =
      c.beforeFrom options ++ (clause .FROM ++ (c.source ++ c.behindFrom options)) := by
  cases htop : options.top <;> cases hhaving : c.having <;>
    simp [base, beforeFrom, behindFrom, htop, hhaving]

end Clauses

section Plan

variable (d : Dialect) (c : Clauses)

theorem infix_parenthesized (inner : Document) : inner <:+: parenthesized inner :=
  ⟨ofTokens [.opening], ofTokens [.closing], rfl⟩

theorem infix_selectAllFrom (inner : Document) (top : Option UInt64) (name : Option String) :
    inner <:+: selectAllFrom d inner top name := by
  unfold selectAllFrom
  apply List.infix_append_of_infix_left
  apply List.infix_append_of_infix_right
  exact infix_parenthesized inner

theorem Numbering.exists_base (numbering : Numbering) :
    ∃ options, c.base options <:+: numbering.document d c := by
  cases numbering with
  | inline reversed =>
    rw [document]
    exact ⟨_, List.infix_rfl⟩
  | outside keys reversed =>
    refine ⟨{ reversed, omitOrder := true }, ?_⟩
    rw [document]
    apply List.infix_append_of_infix_left
    apply List.infix_append_of_infix_right
    exact infix_parenthesized _
  | counted reversed =>
    refine ⟨{ reversed }, ?_⟩
    rw [document]
    apply List.infix_append_of_infix_left
    apply List.infix_append_of_infix_left
    apply List.infix_append_of_infix_right
    exact infix_parenthesized _

theorem PagePlan.exists_base (plan : PagePlan) :
    ∃ options, c.base options <:+: plan.document d c := by
  induction plan with
  | base reversed top alwaysEmpty => exact ⟨_, List.infix_rfl⟩
  | limit style inner start size ih =>
    obtain ⟨options, hinner⟩ := ih
    refine ⟨options, ?_⟩
    cases style with
    | offset =>
      apply List.infix_append_of_infix_left
      exact List.infix_append_of_infix_left hinner
    | comma =>
      apply List.infix_append_of_infix_left
      apply List.infix_append_of_infix_left
      exact List.infix_append_of_infix_left hinner
  | firstRows inner size ih =>
    obtain ⟨options, hinner⟩ := ih
    refine ⟨options, hinner.trans ((infix_selectAllFrom d _ none none).trans ?_)⟩
    rw [document]
    simp only [List.append_assoc]
    exact List.infix_append_left
  | resorted inner top name keys reversed ih =>
    obtain ⟨options, hinner⟩ := ih
    refine ⟨options, hinner.trans ((infix_selectAllFrom d _ top (some name)).trans ?_)⟩
    exact List.infix_append_left
  | between numbering name first last sorted =>
    obtain ⟨options, hnumbering⟩ := numbering.exists_base d c
    refine ⟨options, hnumbering.trans ((infix_selectAllFrom d _ none name).trans ?_)⟩
    rw [document, List.append_assoc]
    exact List.infix_append_left

end Plan

namespace Select

variable (s : Select) (d : Dialect)

def sourceDocument : Document :=
  s.source.document d ++ s.sourceAlias.elim [] (tableAlias d)

theorem clauses_source :
    (s.clauses d).source = joinedSource (s.sourceDocument d) (s.joins.map (Join.document d)) := by
  have each (joins : List Join) : joinDocuments d joins = joins.map (Join.document d) := by
    induction joins with
    | nil => rfl
    | cons j js ih => rw [joinDocuments, ih, List.map_cons]
  obtain ⟨dialect, source, sourceAlias, fields, distinct, joins, filter, grouping, having, order,
    pagination, nextJoin⟩ := s
  rw [← each]
  cases sourceAlias <;> rfl

theorem exists_base_of_fill {recordCount : Option UInt64} {reversed : Bool} {b : Binder}
    {filled : List Token × Binder}
    (h : ((s.clauses d).paginated d s.pagination recordCount reversed).fill b = .ok filled) :
    ∃ options front back,
      (s.clauses d).paginated d s.pagination recordCount reversed =
        front ++ (s.clauses d).base options ++ back ∧
      (s.pagination = .unbounded → options = { reversed } ∧ front = [] ∧ back = []) := by
  by_cases hpaged : s.pagination = .unbounded
  · refine ⟨{ reversed }, [], [], ?_, fun _ => ⟨rfl, rfl, rfl⟩⟩
    rw [hpaged, List.append_nil]
    rfl
  · obtain ⟨plan, -, -, hplan⟩ := PagePlan.forms_paginated (no_fault_of_fill h)
    obtain ⟨options, front, back, hbase⟩ := plan.exists_base d (s.clauses d)
    exact ⟨options, front, back, hplan.symm.trans hbase.symm, fun hnot => absurd hnot hpaged⟩

/-- A source and joins that a query is rendered with, filled from one binder to another. -/
structure JoinsNested (b₀ : Binder) (source : List Token) (joins : List (List Token))
    (b₁ : Binder) : Prop where
  filled : FilledInOrder b₀ (s.sourceDocument d :: s.joins.map (Join.document d))
    (source :: joins) b₁
  /-- Those of the source come first, and then those of each join. -/
  parameters : b₁.parameters = b₀.parameters ++ Binder.recorded b₀.next
    ((s.sourceDocument d).holes ++ s.joins.flatMap fun j => (j.document d).holes)
  /-- A join applies to all that is before it, in parentheses if there is a join before it. -/
  step : ∀ (k : Nat) (hk : k < joins.length),
    Token.leftNested source (joins.take (k + 1)) =
      (if k = 0 then source else Token.parenthesized (Token.leftNested source (joins.take k))) ++
        .space :: joins[k]
  /-- All joins but one bring a pair of parentheses. -/
  pairs : ∀ sign : Token, sign = .opening ∨ sign = .closing →
    (Token.leftNested source joins).count sign =
      (source ++ joins.flatten).count sign + (s.joins.length - 1)

theorem joinsNested_of_fill {b₀ b₁ : Binder} {tokens : List Token}
    (hsource : (s.clauses d).source.Unfilled)
    (h : (s.clauses d).source.fill b₀ = .ok (tokens, b₁)) :
    ∃ source joins, s.JoinsNested d b₀ source joins b₁ ∧
      tokens = Token.leftNested source joins := by
  obtain ⟨-, hparameters, -⟩ := fill_spec hsource h
  rw [clauses_source] at h hparameters
  obtain ⟨source, joins, hfilled, rfl⟩ := fill_joinedSource h
  have length : joins.length = s.joins.length := by
    have both := hfilled.length_eq
    rw [List.length_cons, List.length_cons, List.length_map] at both
    omega
  refine ⟨source, joins, ?_, rfl⟩
  constructor
  · exact hfilled
  · rw [hparameters, holes_eq_filterMap, filterMap_joinedSource Piece.skipsText_hole?,
      List.flatMap_map]
    simp only [← holes_eq_filterMap]
  · exact Token.leftNested_take source joins
  · intro sign hsign
    rw [← length]
    exact Token.count_leftNested source hsign joins

/-- A query that is rendered, on its own or within another statement, with whatever pagination,
has its FROM clause between its fields and its other clauses: the source with the joins nested to
the left, filled from where the fields left the binder. -/
theorem from_clause_left_nested (recordCount : Option UInt64) (reversed : Bool) {b b' : Binder}
    {tokens : List Token}
    (h : ((s.clauses d).paginated d s.pagination recordCount reversed).fill b =
      .ok (tokens, b')) :
    ∃ (options : BaseOptions) (front back : Document) (before after source : List Token)
      (joins : List (List Token)) (b₀ b₁ : Binder),
      (s.clauses d).paginated d s.pagination recordCount reversed =
        front ++ (s.clauses d).base options ++ back ∧
      tokens = before ++ ([.space, .keyword .FROM, .space] ++
        (Token.leftNested source joins ++ after)) ∧
      (front ++ (s.clauses d).beforeFrom options).fill b = .ok (before, b₀) ∧
      s.JoinsNested d b₀ source joins b₁ ∧
      ((s.clauses d).behindFrom options ++ back).fill b₁ = .ok (after, b') ∧
      (s.pagination = .unbounded → options = { reversed } ∧ front = [] ∧ back = []) := by
  obtain ⟨options, front, back, hpage, hplain⟩ := s.exists_base_of_fill d h
  have word : clause .FROM = ofTokens [.space, .keyword .FROM, .space] := rfl
  have unfilled := s.unfilled_paginated d s.pagination recordCount reversed
  have parts : (s.clauses d).paginated d s.pagination recordCount reversed =
      (front ++ (s.clauses d).beforeFrom options) ++ (ofTokens [.space, .keyword .FROM, .space] ++
        ((s.clauses d).source ++ ((s.clauses d).behindFrom options ++ back))) := by
    rw [hpage, (s.clauses d).base_eq_from, word]
    simp only [List.append_assoc]
  rw [parts] at h unfilled
  obtain ⟨before, b₀, rest, hbefore, hrest, rfl⟩ := fill_append_eq_ok.1 h
  obtain ⟨_, rfl, hbehind⟩ := fill_ofTokens_append_eq_ok.1 hrest
  obtain ⟨clauseTokens, b₁, after, hsource, hafter, rfl⟩ := fill_append_eq_ok.1 hbehind
  have sourceUnfilled : (s.clauses d).source.Unfilled := by
    intro name hmem
    apply unfilled name
    simp [hmem]
  obtain ⟨source, joins, nested, rfl⟩ := s.joinsNested_of_fill d sourceUnfilled hsource
  exact ⟨options, front, back, before, after, source, joins, b₀, b₁, hpage, rfl, hbefore, nested,
    hafter, hplain⟩

/-- A table, a query and another table joined to a query, where the parameter of the source comes
before that of the join. -/
theorem from_clause_left_nested_three :
    let placed : Select :=
      { dialect := .access
        source := .table "orders"
        filter := some (.basic "total" .greaterThan [.pending "total" (.integer 7)]) }
    let lines : Select :=
      { dialect := .access
        source := .table "lines"
        filter := some (.basic "amount" .lessThan [.pending "amount" (.integer 3)]) }
    let s : Select :=
      { dialect := .access
        source := .query placed
        sourceAlias := some "o"
        joins :=
          [⟨.inner, "o", "user", .table "users", "id"⟩,
            ⟨.left, "o", "id", .query lines 0, "order"⟩,
            ⟨.inner, "users", "city", .table "cities", "id"⟩] }
    ∃ tokens b before after source first second third b₀ b₁,
      (s.document .access).fill {} = .ok (tokens, b) ∧
      tokens = before ++ ([.space, .keyword .FROM, .space] ++
        (Token.parenthesized (Token.parenthesized (source ++ .space :: first) ++
          .space :: second) ++ .space :: third ++ after)) ∧
      s.JoinsNested .access b₀ source [first, second, third] b₁ ∧
      b.parameters =
        [.bound "total" (some "IDX_0") (.integer 7) .int64,
          .bound "amount" (some "IDX_1") (.integer 3) .int64] := by
  intro placed lines s
  have fills : (s.document .access).Fills := fills_iff.2 (by decide +kernel)
  obtain ⟨⟨tokens, b⟩, hfill⟩ := fills {}
  obtain ⟨options, front, back, before, after, source, joins, b₀, b₁, -, rfl, -, nested, -, -⟩ :=
    s.from_clause_left_nested .access none false hfill
  have three : joins.length = 3 := by
    have both := nested.filled.length_eq
    simpa [s] using both
  obtain ⟨first, second, third, rfl⟩ := List.length_eq_three.1 three
  refine ⟨_, b, before, after, source, first, second, third, b₀, b₁, hfill, rfl, nested, ?_⟩
  obtain ⟨-, parameters, -⟩ :=
    fill_spec (s.unfilled_paginated .access .unbounded none false) hfill
  rw [parameters]
  decide

end Select

end ParamSql
