import ParamSql.Condition.Basic
import ParamSql.Proofs.Paging.Contents

/-!
# Pieces of conditions, fields and joins

The pieces of one kind that stand in a fragment of a statement, when words, marks, names and SQL
text are none of them: those of its parts, from left to right. A condition that joins others keeps
theirs whether or not it takes their members in as its own.
-/

namespace ParamSql

variable {β : Type*} {f : Piece → Option β} (hf : SkipsText f)

namespace Document

include hf

theorem filterMap_operatorTokens (operator : Operator) :
    (ofTokens operator.tokens).filterMap f = [] := by
  cases operator <;> simp [ofTokens, Operator.tokens, hf.keyword, hf.mark]

theorem filterMap_comparison (column : String) (operator : Operator) (ps : List Parameter) :
    (comparison column operator ps).filterMap f =
      if ps.length ≤ 2 then ps.filterMap fun p => f (.hole p)
      else [Piece.fault (.invalidArity operator ps.length)].filterMap f := by
  have operand : (operands operator ps).filterMap f =
      if ps.length ≤ 2 then ps.filterMap fun p => f (.hole p)
      else [Piece.fault (.invalidArity operator ps.length)].filterMap f := by
    match ps with
    | [] => rfl
    | [p] =>
      rw [operands, List.filterMap_append, filterMap_space hf]
      rfl
    | [low, high] =>
      rw [operands, List.filterMap_append, List.filterMap_append, List.filterMap_append,
        filterMap_space hf, filterMap_clause hf, List.nil_append, List.append_nil,
        ← List.filterMap_append]
      rfl
    | p :: q :: r :: ps =>
      rw [if_neg (by simp)]
      rfl
  rw [comparison, filterMap_parenthesized hf, List.filterMap_append, List.filterMap_append,
    List.filterMap_append, filterMap_identifier hf, filterMap_space hf,
    filterMap_operatorTokens hf, operand]
  rfl

theorem filterMap_columnComparison (left : String) (operator : Operator) (right : String) :
    (columnComparison left operator right).filterMap f = [] := by
  simp [columnComparison, filterMap_parenthesized hf, filterMap_identifier hf, filterMap_space hf,
    filterMap_operatorTokens hf]

theorem filterMap_membership (column : String) (negated : Bool) (elements : Document) :
    (membership column negated elements).filterMap f = elements.filterMap f := by
  cases negated <;>
    simp [membership, filterMap_parenthesized hf, filterMap_identifier hf, filterMap_space hf,
      filterMap_keyword hf]

theorem filterMap_valueMembership (column : String) (negated : Bool) (ps : List Parameter) :
    (valueMembership column negated ps).filterMap f = ps.filterMap fun p => f (.hole p) := by
  unfold valueMembership
  by_cases hps : ps = []
  · rw [if_pos hps, filterMap_raw hf, hps]
    rfl
  · rw [if_neg hps, filterMap_membership hf, filterMap_separatedBy (filterMap_comma hf),
      List.flatMap_map]
    exact (List.filterMap_eq_flatMap_toList _ ps).symm

theorem filterMap_negation (inner : Document) :
    (negation inner).filterMap f = inner.filterMap f := by
  simp [negation, filterMap_parenthesized hf, filterMap_keyword hf]

theorem filterMap_conjunctionList (conjunction : Conjunction) (members : List Document) :
    (conjunctionList conjunction members).filterMap f = members.flatMap (·.filterMap f) := by
  rw [conjunctionList, filterMap_parenthesized hf, filterMap_separatedBy (filterMap_clause hf _)]

theorem filterMap_namedField (expression : Document) (name : Option String) :
    (namedField expression name).filterMap f = expression.filterMap f := by
  cases name with
  | none => rfl
  | some name => simp [namedField, filterMap_clause hf, filterMap_identifier hf]

theorem filterMap_joinKind (kind : JoinKind) : kind.document.filterMap f = [] := by
  cases kind <;> simp [JoinKind.document, filterMap_keyword hf, filterMap_space hf]

theorem filterMap_joinCondition (currentTable currentField otherTable otherField : String) :
    (joinCondition currentTable currentField otherTable otherField).filterMap f = [] := by
  unfold joinCondition
  split <;>
    simp [filterMap_identifier hf, filterMap_space hf, filterMap_qualified hf, hf.mark]

theorem filterMap_joinedSource (source : Document) (joins : List Document) :
    (joinedSource source joins).filterMap f =
      source.filterMap f ++ joins.flatMap (·.filterMap f) := by
  have openings (n : Nat) : (List.replicate n (Piece.token .opening)).filterMap f = [] := by
    simp [hf.mark]
  have closings : ∀ joins : List Document,
      (joinedSource.close joins).filterMap f = joins.flatMap (·.filterMap f) := by
    intro joins
    induction joins with
    | nil => rfl
    | cons j js ih =>
      cases js with
      | nil => simp [joinedSource.close, filterMap_space hf]
      | cons k ks =>
        have unfolded : joinedSource.close (j :: k :: ks) =
            space ++ j ++ .token .closing :: joinedSource.close (k :: ks) := rfl
        rw [unfolded, List.filterMap_append, List.filterMap_append, filterMap_space hf,
          List.filterMap_cons_none (hf.mark .closing), ih]
        rfl
  rw [joinedSource, List.filterMap_append, List.filterMap_append, openings, closings,
    List.nil_append]

end Document

namespace Condition

open Document

include hf

omit hf in
theorem conditionDocuments_append (d : Dialect) (as bs : List Condition) :
    conditionDocuments d (as ++ bs) = conditionDocuments d as ++ conditionDocuments d bs := by
  induction as with
  | nil => rfl
  | cons a as ih => simp only [List.cons_append, conditionDocuments, ih]

theorem filterMap_membersFor (d : Dialect) (j : Conjunction) (c : Condition) :
    (conditionDocuments d (c.membersFor j)).flatMap (·.filterMap f) =
      (c.document d).filterMap f := by
  have single (c : Condition) :
      (conditionDocuments d [c]).flatMap (·.filterMap f) = (c.document d).filterMap f := by
    simp [conditionDocuments]
  cases c with
  | list inner members =>
    by_cases h : inner = j
    · simp only [membersFor, if_pos h]
      exact (filterMap_conjunctionList hf inner _).symm
    · simp only [membersFor, if_neg h]
      exact single _
  | _ => exact single _

theorem filterMap_combine (d : Dialect) (j : Conjunction) (a b : Condition) :
    ((combine j a b).document d).filterMap f =
      (a.document d).filterMap f ++ (b.document d).filterMap f := by
  have members : (combine j a b).document d =
      conjunctionList j (conditionDocuments d (a.membersFor j ++ b.membersFor j)) := rfl
  rw [members, filterMap_conjunctionList hf, conditionDocuments_append, List.flatMap_append,
    filterMap_membersFor hf, filterMap_membersFor hf]

end Condition

end ParamSql
