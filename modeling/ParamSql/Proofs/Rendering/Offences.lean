import ParamSql.Proofs.Condition.Constructed
import ParamSql.Proofs.Rendering.Assignments

/-!
# Which statements cannot be rendered

Without pagination a statement has two parts that cannot be written: a comparison with more than
two values, and an aggregate that the dialect does not have. The error is that of the first of them
in the text, at any depth; an insertion or update that assigns nothing is refused before any.
-/

namespace ParamSql

open Document

def Dialect.lacks (d : Dialect) : Aggregate → Bool
  | .first | .last => d != .access
  | .stDev | .stDevP | .var | .varP => d == .sqlite
  | .count | .sum | .max | .min | .avg => false

namespace Dialect

variable {d : Dialect} {a : Aggregate}

theorem aggregateName_of_lacks (h : d.lacks a = true) :
    d.aggregateName a = .error (.unsupported d (.aggregate a)) := by
  cases d <;> cases a <;> first | rfl | exact nomatch h

theorem exists_aggregateName (h : d.lacks a = false) : ∃ name, d.aggregateName a = .ok name := by
  cases d <;> cases a <;> first | exact ⟨_, rfl⟩ | exact nomatch h

end Dialect

/-- The error of a node that cannot be written by itself. -/
def Node.offence? (d : Dialect) : Node → Option Error
  | condition (.basic _ operator ps) =>
    if 2 < ps.length then some (.invalidArity operator ps.length) else none
  | field ⟨_, _, some a, _⟩ =>
    if d.lacks a then some (.unsupported d (.aggregate a)) else none
  | _ => none

section Faults

theorem Document.faults_applyAggregate (d : Dialect) (source : FieldSource)
    (newName : Option String) (aggregate : Option Aggregate) (distinct : Bool) (e : Document) :
    (applyAggregate d aggregate distinct e).filterMap Piece.fault? =
      [Node.field ⟨source, newName, aggregate, distinct⟩].filterMap (Node.offence? d) ++
        e.filterMap Piece.fault? := by
  have hf := Piece.skipsText_fault?
  cases aggregate with
  | none => rfl
  | some a =>
    have values : (if distinct then keyword .DISTINCT ++ space else []).filterMap Piece.fault? =
        [] := by
      split <;> rfl
    cases hlacks : d.lacks a with
    | true =>
      have offence : Node.offence? d (.field ⟨source, newName, some a, distinct⟩) =
          some (.unsupported d (.aggregate a)) := if_pos hlacks
      simp only [applyAggregate, Dialect.aggregateName_of_lacks hlacks, List.filterMap_append,
        filterMap_parenthesized hf, values, List.filterMap_cons_some offence]
      rfl
    | false =>
      have none : Node.offence? d (.field ⟨source, newName, some a, distinct⟩) = none :=
        if_neg (by simp [hlacks])
      obtain ⟨name, hname⟩ := Dialect.exists_aggregateName hlacks
      simp only [applyAggregate, hname, List.filterMap_append, filterMap_raw hf,
        filterMap_parenthesized hf, values, List.filterMap_cons_none none]
      rfl

theorem Document.faults_comparison (d : Dialect) (column : String) (operator : Operator)
    (ps : List Parameter) :
    (comparison column operator ps).filterMap Piece.fault? =
      [Node.condition (.basic column operator ps)].filterMap (Node.offence? d) := by
  rw [filterMap_comparison Piece.skipsText_fault?]
  by_cases hps : ps.length ≤ 2
  · have none : Node.offence? d (.condition (.basic column operator ps)) = none :=
      if_neg (by omega)
    rw [if_pos hps, List.filterMap_cons_none none]
    exact List.filterMap_eq_nil_iff.2 fun _ _ => rfl
  · have some : Node.offence? d (.condition (.basic column operator ps)) =
        some (.invalidArity operator ps.length) := if_pos (by omega)
    rw [if_neg hps, List.filterMap_cons_some some]
    rfl

variable (d : Dialect)

theorem Select.faults_paginated {s : Select} (hs : s.pagination = .unbounded)
    (recordCount : Option UInt64) (reversed : Bool) :
    ((s.clauses d).paginated d s.pagination recordCount reversed).filterMap Piece.fault? =
      (s.clauses d).body Piece.fault? ++ (s.clauses d).sortKeys Piece.fault? := by
  rw [hs]
  exact (s.clauses d).faults_base reversed

mutual

theorem Select.faults_clauses : ∀ s : Select, Unpaged s.nodes →
    (s.clauses d).body Piece.fault? ++ (s.clauses d).sortKeys Piece.fault? =
      s.nodes.filterMap (Node.offence? d)
  | ⟨dialect, source, sourceAlias, fields, distinct, joins, filter, grouping, having, order,
      pagination, nextJoin⟩, h => by
    have hf := Piece.skipsText_fault?
    have parts := h.tail
    have inner : Node.offence? d (.query ⟨dialect, source, sourceAlias, fields, distinct, joins,
        filter, grouping, having, order, pagination, nextJoin⟩) = none := rfl
    rw [Select.nodes, List.filterMap_cons_none inner]
    cases sourceAlias <;> simp only [Clauses.body, Clauses.sortKeys, Select.clauses,
      List.filterMap_append, List.append_nil, filterMap_joinedSource hf, filterMap_tableAlias hf,
      faults_fieldClauses fields parts.left.left.left.left.left,
      source.faults_document parts.left.left.left.left.right,
      faults_joinDocuments joins parts.left.left.left.right,
      faults_optionalDocument filter parts.left.left.right,
      faults_optionalDocument having parts.left.right,
      faults_orderClauses order parts.right, List.append_assoc]

theorem Select.faults_document (q : Select) (h : Unpaged q.nodes) :
    (q.document d).filterMap Piece.fault? = q.nodes.filterMap (Node.offence? d) :=
  (q.faults_paginated d (h q q.query_mem_nodes) none false).trans (q.faults_clauses h)

theorem Source.faults_document : ∀ s : Source, Unpaged s.nodes →
    (s.document d).filterMap Piece.fault? = s.nodes.filterMap (Node.offence? d)
  | .table _, _ => rfl
  | .query q, h => by
    rw [Source.document, filterMap_parenthesized Piece.skipsText_fault?]
    exact q.faults_document h

theorem FieldSource.faults_document : ∀ s : FieldSource, Unpaged s.nodes →
    (s.document d).filterMap Piece.fault? = s.nodes.filterMap (Node.offence? d)
  | .column table name, _ => by
    rw [FieldSource.document, filterMap_qualified Piece.skipsText_fault?]
    rfl
  | .all table, _ => by
    rw [FieldSource.document, filterMap_qualified Piece.skipsText_fault?]
    rfl
  | .expression _, _ => rfl
  | .query q, h => by
    rw [FieldSource.document, filterMap_parenthesized Piece.skipsText_fault?]
    exact q.faults_document h

theorem Field.faults_expressionDocument : ∀ f : Field, Unpaged f.nodes →
    (f.expressionDocument d).filterMap Piece.fault? = f.nodes.filterMap (Node.offence? d)
  | ⟨source, newName, aggregate, distinct⟩, h => by
    rw [Field.expressionDocument, faults_applyAggregate d source newName,
      source.faults_document h.tail, ← List.filterMap_append, List.singleton_append, Field.nodes]

theorem JoinTarget.faults_document : ∀ t : JoinTarget, Unpaged t.nodes →
    (t.document d).filterMap Piece.fault? = t.nodes.filterMap (Node.offence? d)
  | .table _, _ => rfl
  | .query q number, h => by
    have hf := Piece.skipsText_fault?
    rw [JoinTarget.document, List.filterMap_append, filterMap_parenthesized hf,
      filterMap_tableAlias hf, List.append_nil]
    exact q.faults_document h

theorem Join.faults_document : ∀ j : Join, Unpaged j.nodes →
    (j.document d).filterMap Piece.fault? = j.nodes.filterMap (Node.offence? d)
  | ⟨kind, currentTable, currentField, target, otherField⟩, h => by
    have hf := Piece.skipsText_fault?
    rw [Join.document, List.filterMap_append, List.filterMap_append, List.filterMap_append,
      List.filterMap_append, filterMap_joinKind hf, filterMap_clause hf, filterMap_clause hf,
      filterMap_joinCondition hf, List.append_nil, List.append_nil, target.faults_document h]
    rfl

theorem Condition.faults_document : ∀ c : Condition, Unpaged c.nodes →
    (c.document d).filterMap Piece.fault? = c.nodes.filterMap (Node.offence? d)
  | .basic column operator ps, _ => by
    rw [Condition.document, faults_comparison d, Condition.nodes]
  | .columns left operator right, _ => by
    rw [Condition.document, filterMap_columnComparison Piece.skipsText_fault?]
    rfl
  | .inValues column negated ps, _ => by
    rw [Condition.document, filterMap_valueMembership Piece.skipsText_fault?]
    exact List.filterMap_eq_nil_iff.2 fun _ _ => rfl
  | .inQuery column negated q, h => by
    rw [Condition.document, filterMap_membership Piece.skipsText_fault?]
    exact q.faults_document h.tail
  | .not c, h => by
    rw [Condition.document, filterMap_negation Piece.skipsText_fault?]
    exact c.faults_document h.tail
  | .list conjunction cs, h => by
    rw [Condition.document, filterMap_conjunctionList Piece.skipsText_fault?]
    exact faults_conditionDocuments cs h.tail

theorem faults_optionalDocument : ∀ c : Option Condition, Unpaged (optionalNodes c) →
    (optionalDocument d c).elim [] (·.filterMap Piece.fault?) =
      (optionalNodes c).filterMap (Node.offence? d)
  | none, _ => rfl
  | some c, h => c.faults_document h

theorem faults_fieldClauses : ∀ fs : List Field, Unpaged (fieldNodes fs) →
    (fieldClauses d fs).flatMap (·.document.filterMap Piece.fault?) =
      (fieldNodes fs).filterMap (Node.offence? d)
  | [], _ => rfl
  | f :: fs, h => by
    rw [fieldClauses, List.flatMap_cons, faults_fieldClauses fs h.right,
      filterMap_namedField Piece.skipsText_fault?, f.faults_expressionDocument h.left, fieldNodes,
      List.filterMap_append]

theorem faults_orderClauses : ∀ ks : List OrderKey, Unpaged (orderNodes ks) →
    (orderClauses d ks).flatMap (·.expression.filterMap Piece.fault?) =
      (orderNodes ks).filterMap (Node.offence? d)
  | [], _ => rfl
  | ⟨field, _⟩ :: ks, h => by
    rw [orderClauses, List.flatMap_cons, faults_orderClauses ks h.right,
      field.faults_expressionDocument h.left, orderNodes, List.filterMap_append]

theorem faults_joinDocuments : ∀ js : List Join, Unpaged (joinNodes js) →
    (joinDocuments d js).flatMap (·.filterMap Piece.fault?) =
      (joinNodes js).filterMap (Node.offence? d)
  | [], _ => rfl
  | j :: js, h => by
    rw [joinDocuments, List.flatMap_cons, faults_joinDocuments js h.right,
      j.faults_document h.left, joinNodes, List.filterMap_append]

theorem faults_conditionDocuments : ∀ cs : List Condition, Unpaged (conditionNodes cs) →
    (conditionDocuments d cs).flatMap (·.filterMap Piece.fault?) =
      (conditionNodes cs).filterMap (Node.offence? d)
  | [], _ => rfl
  | c :: cs, h => by
    rw [conditionDocuments, List.flatMap_cons, faults_conditionDocuments cs h.right,
      c.faults_document h.left, conditionNodes, List.filterMap_append]

end

theorem faults_filterClause (filter : Option Condition) (h : Unpaged (optionalNodes filter)) :
    (filterClause d filter).filterMap Piece.fault? =
      (optionalNodes filter).filterMap (Node.offence? d) := by
  rw [filterClause, Clauses.filterMap_whereClause Piece.skipsText_fault?]
  cases filter with
  | none => rfl
  | some c => exact c.faults_document d h

theorem Assignment.faults_document (as : List Assignment)
    (h : Unpaged (as.flatMap Assignment.nodes)) :
    (as.flatMap fun a => (a.document d).filterMap Piece.fault?) =
      (as.flatMap Assignment.nodes).filterMap (Node.offence? d) := by
  induction as with
  | nil => rfl
  | cons a as ih =>
    rw [List.flatMap_cons] at h
    have first : (a.document d).filterMap Piece.fault? =
        a.nodes.filterMap (Node.offence? d) := by
      cases a with
      | value p => rfl
      | query column inner =>
        rw [Assignment.document, filterMap_parenthesized Piece.skipsText_fault?]
        exact inner.faults_document d h.left
    rw [List.flatMap_cons, List.flatMap_cons, first, ih h.right, List.filterMap_append]

end Faults

namespace RootStatement

def AssignsNothing : RootStatement → Prop
  | insert i => i.assignments = []
  | update u => u.assignments = []
  | select _ _ _ | delete _ | condition _ _ => False

variable {r : RootStatement}

theorem document_of_assignsNothing (h : r.AssignsNothing) :
    r.document = failing (.missingArgument .assignments) := by
  cases r with
  | insert i =>
    have none : i.assignments = [] := h
    rw [document, Insert.document, none]
    rfl
  | update u =>
    have none : u.assignments = [] := h
    rw [document, Update.document, none]
    rfl
  | _ => exact h.elim

theorem faults_document (hr : Unpaged r.nodes) (h : ¬ r.AssignsNothing) :
    r.document.filterMap Piece.fault? = r.nodes.filterMap (Node.offence? r.dialect) := by
  cases r with
  | select s recordCount reversed =>
    exact (s.faults_paginated s.dialect (hr s s.query_mem_nodes) recordCount reversed).trans
      (s.faults_clauses s.dialect hr)
  | insert i =>
    rw [document, Insert.document_eq h, List.filterMap_append, List.filterMap_append,
      faults_ofTokens, faults_ofTokens, List.nil_append, List.append_nil,
      filterMap_separatedBy (filterMap_comma Piece.skipsText_fault?), List.flatMap_map]
    exact Assignment.faults_document i.dialect i.assignments hr
  | update u =>
    have same : (update u).dialect = u.dialect := rfl
    rw [document, Update.document_eq h, List.filterMap_append, List.filterMap_append,
      faults_ofTokens, List.nil_append, faults_filterClause u.dialect u.filter hr.right,
      filterMap_separatedBy (filterMap_comma Piece.skipsText_fault?), List.flatMap_map, nodes, same,
      List.filterMap_append, ← Assignment.faults_document u.dialect u.assignments hr.left]
    simp only [List.filterMap_append, faults_ofTokens, List.nil_append]
  | delete d => exact faults_filterClause d.dialect d.filter hr
  | condition d c => exact c.faults_document d hr

theorem render_eq_error {e : Error} :
    r.render = .error e ↔ (r.document.filterMap Piece.fault?).head? = some e := by
  rw [← firstFault?_eq_head?, ← fill_eq_error_iff r.document {}]
  unfold render Document.render
  cases r.document.fill {} <;> simp [Except.map]

theorem unpaged_render_eq_error (hr : Unpaged r.nodes) {e : Error} :
    r.render = .error e ↔
      r.AssignsNothing ∧ e = .missingArgument .assignments ∨
        ¬ r.AssignsNothing ∧ r.nodes.findSome? (Node.offence? r.dialect) = some e := by
  rw [render_eq_error]
  by_cases h : r.AssignsNothing
  · rw [document_of_assignsNothing h]
    simp [h, failing, Piece.fault?, eq_comm]
  · rw [faults_document hr h, List.head?_filterMap]
    simp [h]

/-- One node that cannot be written is enough, wherever it is. -/
theorem unpaged_fails_iff (hr : Unpaged r.nodes) :
    ¬ Succeeds r.render ↔ r.AssignsNothing ∨ ∃ n ∈ r.nodes, n.offence? r.dialect ≠ none := by
  constructor
  · intro hfails
    obtain ⟨e, he⟩ := error_of_not_succeeds hfails
    rcases (unpaged_render_eq_error hr).1 he with ⟨hnothing, -⟩ | ⟨-, hfirst⟩
    · exact .inl hnothing
    · obtain ⟨n, hn, hoffence⟩ := List.exists_of_findSome?_eq_some hfirst
      exact .inr ⟨n, hn, Option.ne_none_iff_exists'.2 ⟨e, hoffence⟩⟩
  · intro hoffends
    have failed : ∃ e, r.render = .error e := by
      by_cases hnothing : r.AssignsNothing
      · exact ⟨_, (unpaged_render_eq_error hr).2 (.inl ⟨hnothing, rfl⟩)⟩
      · obtain ⟨n, hn, hoffence⟩ := hoffends.resolve_left hnothing
        have first : r.nodes.findSome? (Node.offence? r.dialect) ≠ none := by
          intro hnone
          exact hoffence (List.findSome?_eq_none_iff.1 hnone n hn)
        obtain ⟨e, he⟩ := Option.ne_none_iff_exists'.1 first
        exact ⟨e, (unpaged_render_eq_error hr).2 (.inr ⟨hnothing, he⟩)⟩
    obtain ⟨e, he⟩ := failed
    rw [he]
    exact not_succeeds_error e

end RootStatement

/-- Of a statement without pagination at any depth, the error is that of the first node in the text
that its dialect cannot write, when it assigns something where it has to. It is rendered when there
is no such node. Conditions from the constructors and translated predicates have none, as long as
there is no query in them. -/
theorem unpaged_fails_iff_offence :
    (∀ r : RootStatement, Unpaged r.nodes →
      (¬ Succeeds r.render ↔
        r.AssignsNothing ∨ ∃ n ∈ r.nodes, n.offence? r.dialect ≠ none) ∧
      ∀ e, r.render = .error e ↔
        r.AssignsNothing ∧ e = .missingArgument .assignments ∨
          ¬ r.AssignsNothing ∧ r.nodes.findSome? (Node.offence? r.dialect) = some e) ∧
    ∀ c : Condition, c.Constructed → (∀ q, .query q ∉ c.nodes) → ∀ d, Succeeds (c.render d) := by
  constructor
  · intro r hr
    exact ⟨r.unpaged_fails_iff hr, fun e => r.unpaged_render_eq_error hr⟩
  · intro c hc alone d
    obtain ⟨text, ps, hrender⟩ := (hc.fillsAlone alone d).render d
    exact ⟨_, hrender⟩

/-- An assigned query with an aggregate that SQLite does not have, in front of comparisons with too
many values in the query and around it. -/
theorem unpaged_fails_iff_offence_nested :
    let three (column : String) : List Parameter :=
      [.pending column .null, .pending column .null, .pending column .null]
    let inner : Select :=
      { dialect := .access
        source := .table "S"
        fields := [{ source := .column none "x", aggregate := some .stDev }]
        filter := some (.not (.basic "y" .between (three "y"))) }
    let statement (d : Dialect) : RootStatement := .update
      { dialect := d
        table := "T"
        assignments := [.query "a" inner]
        filter := some (.basic "z" .equal (three "z")) }
    let plain : Condition := .not (.combine .or (.isNull "a") (.between "b" .null .null))
    (statement .sqlite).render = .error (.unsupported .sqlite (.aggregate .stDev)) ∧
      (statement .oracle).render = .error (.invalidArity .between 3) ∧
      (RootStatement.insert { dialect := .sqlite, table := "T" }).render =
        .error (.missingArgument .assignments) ∧
      Succeeds (plain.render .mySql) := by
  intro three inner statement plain
  obtain ⟨statements, conditions⟩ := unpaged_fails_iff_offence
  have assigns (d : Dialect) : ¬ (statement d).AssignsNothing := List.cons_ne_nil _ _
  have unpaged (d : Dialect) : Unpaged (statement d).nodes := by
    intro q hq
    obtain rfl : q = inner := by
      simpa [statement, RootStatement.nodes, Assignment.nodes, inner, Select.nodes, fieldNodes,
        Field.nodes, FieldSource.nodes, Source.nodes, joinNodes, optionalNodes, Condition.nodes,
        orderNodes] using hq
    rfl
  refine ⟨?_, ?_, ?_, ?_⟩
  · exact ((statements _ (unpaged .sqlite)).2 _).2 (.inr ⟨assigns .sqlite, rfl⟩)
  · exact ((statements _ (unpaged .oracle)).2 _).2 (.inr ⟨assigns .oracle, rfl⟩)
  · exact ((statements (.insert { dialect := .sqlite, table := "T" }) nofun).2 _).2
      (.inl ⟨rfl, rfl⟩)
  · refine conditions plain ?_ ?_ .mySql
    · exact .not (.combine .or (.isNull "a") (.between "b" .null .null))
    · have nodes : ∃ a b c e, plain.nodes =
          [.condition a, .condition b, .condition c, .condition e] := ⟨_, _, _, _, rfl⟩
      obtain ⟨a, b, c, e, hnodes⟩ := nodes
      rw [hnodes]
      simp

end ParamSql
