import ParamSql.Proofs.Predicate.Constants
import ParamSql.Proofs.Query.Nodes

/-!
# Conditions that are put together

The constructors and the connectives make no comparison with more values than its operator takes,
and neither does a translated predicate. Such a condition is rendered in every dialect, as long as
there is no query in it.
-/

namespace ParamSql

open Document

namespace Condition

/-- Conditions that the constructors make, where they do not refuse what they are given, and
translated predicates. -/
inductive Constructed : Condition → Prop
  | ofParameters {column : String} {operator : Operator} {ps : List Parameter} {c : Condition}
    (h : ofParameters column operator ps = .ok c) : Constructed c
  | compare {column : String} {operator : Operator} {v : Value} {c : Condition}
    (h : compare column operator v = .ok c) : Constructed c
  | isNull (column : String) : Constructed (isNull column)
  | isNotNull (column : String) : Constructed (isNotNull column)
  | equal (column : String) (v : Value) : Constructed (equal column v)
  | notEqual (column : String) (v : Value) : Constructed (notEqual column v)
  | greaterThan (column : String) (v : Value) : Constructed (greaterThan column v)
  | lessThan (column : String) (v : Value) : Constructed (lessThan column v)
  | greaterThanOrEqual (column : String) (v : Value) : Constructed (greaterThanOrEqual column v)
  | lessThanOrEqual (column : String) (v : Value) : Constructed (lessThanOrEqual column v)
  | like (column pattern : String) : Constructed (like column pattern)
  | notLike (column pattern : String) : Constructed (notLike column pattern)
  | likeMatch (column pattern : String) (mode : LikeMatch) (negated : Bool) :
    Constructed (likeMatch column pattern mode negated)
  | between (column : String) (low high : Value) : Constructed (between column low high)
  | notBetween (column : String) (low high : Value) : Constructed (notBetween column low high)
  | equalColumns (left right : String) : Constructed (equalColumns left right)
  | compareColumns {left right : String} {operator : Operator} {c : Condition}
    (h : compareColumns left operator right = .ok c) : Constructed c
  | ofValues (column : String) (negated : Bool) (vs : List Value) :
    Constructed (ofValues column negated vs)
  | inQuery (column : String) (negated : Bool) (q : Select) :
    Constructed (.inQuery column negated q)
  | not {c : Condition} (h : Constructed c) : Constructed (.not c)
  | combine (j : Conjunction) {a b : Condition} (ha : Constructed a) (hb : Constructed b) :
    Constructed (combine j a b)
  | combineOptional {j : Conjunction} {a b : Option Condition} {c : Condition}
    (ha : ∀ x ∈ a, Constructed x) (hb : ∀ x ∈ b, Constructed x)
    (h : combineOptional j a b = some c) : Constructed c
  | joined {j : Conjunction} {cs : List Condition} {c : Condition}
    (each : ∀ x ∈ cs, Constructed x) (h : joined j cs = some c) : Constructed c
  | translated {resolve : Resolver} {p : Predicate} {c : Condition}
    (h : p.toCondition resolve = .ok c) : Constructed c

/-- Whether a condition without a query in it is rendered in every dialect. -/
def FillsAlone (c : Condition) : Prop :=
  (∀ q, .query q ∉ c.nodes) → ∀ d, (c.document d).Fills

theorem fillsAlone_basic (column : String) (operator : Operator) {ps : List Parameter}
    (h : ps.length ≤ 2) : (basic column operator ps).FillsAlone := by
  intro _ d
  rw [fills_iff, document, filterMap_comparison Piece.skipsText_fault?, if_pos h]
  exact List.filterMap_eq_nil_iff.2 fun _ _ => rfl

theorem fillsAlone_of_ofParameters {column : String} {operator : Operator} {ps : List Parameter}
    {c : Condition} (h : ofParameters column operator ps = .ok c) : c.FillsAlone := by
  unfold ofParameters at h
  split at h
  · exact nomatch h
  split at h
  · exact nomatch h
  · rename_i harity
    obtain rfl := Except.ok.inj h
    have := operator.arity_le_two
    exact fillsAlone_basic column operator (by omega)

theorem fillsAlone_columns (left : String) (operator : Operator) (right : String) :
    (columns left operator right).FillsAlone := by
  intro _ d
  rw [fills_iff]
  exact filterMap_columnComparison Piece.skipsText_fault? left operator right

theorem FillsAlone.not {c : Condition} (h : c.FillsAlone) : (Condition.not c).FillsAlone := by
  intro alone d
  rw [fills_iff, document, filterMap_negation Piece.skipsText_fault?]
  exact fills_iff.1 (h (fun q hq => alone q (List.mem_cons_of_mem _ hq)) d)

theorem FillsAlone.combine {a b : Condition} (ha : a.FillsAlone) (hb : b.FillsAlone)
    (j : Conjunction) : (Condition.combine j a b).FillsAlone := by
  intro alone d
  have left := ha (fun q hq => alone q (query_mem_combine (.inl hq) j)) d
  have right := hb (fun q hq => alone q (query_mem_combine (.inr hq) j)) d
  rw [fills_iff, filterMap_combine Piece.skipsText_fault?, fills_iff.1 left, fills_iff.1 right]
  rfl

end Condition

namespace Predicate

variable {resolve : Resolver} {q : Select}

theorem not_query_constantsFor (column : Except Error Column) (vs : List Value) :
    .query q ∉ constantsFor column vs := by
  cases column with
  | error e => exact List.not_mem_nil
  | ok column => simp [constantsFor]

theorem not_query_compare {left right : Predicate} {comparison : Comparison} :
    .query q ∉ contributions resolve (compare left comparison right) := by
  have tested (column : Except Error Column) (v : Value) :
      .query q ∉ if v.isNull then [] else constantsFor column [v] := by
    split
    · exact List.not_mem_nil
    · exact not_query_constantsFor column [v]
  cases left with
  | member entity property =>
    cases right with
    | constant v => exact tested _ v
    | _ => exact List.not_mem_nil
  | constant v =>
    cases right with
    | member entity property => exact tested _ v
    | _ => exact List.not_mem_nil
  | _ => exact List.not_mem_nil

theorem query_mem_of_argumentContributions {column : Except Error Column} {m : Method}
    {argument : Predicate} (h : .query q ∈ argumentContributions column m argument) :
    argument = query q := by
  cases argument with
  | constant v => exact absurd h (not_query_constantsFor column _)
  | values vs => exact absurd h (not_query_constantsFor column _)
  | query inner =>
    obtain rfl := Contribution.query.inj (List.mem_singleton.1 h)
    rfl
  | _ => exact absurd h List.not_mem_nil

theorem CallBecomes.query_mem {column : Column} {m : Method} {arguments : List Predicate}
    {c : Condition} (h : CallBecomes column m arguments c)
    (hq : .query q ∈ arguments.flatMap (argumentContributions (.ok column) m)) :
    .query q ∈ c.nodes := by
  obtain ⟨argument, hargument, hq⟩ := List.mem_flatMap.1 hq
  obtain rfl := query_mem_of_argumentContributions hq
  cases h with
  | inQuery negated inner =>
    obtain rfl := Predicate.query.inj (List.mem_singleton.1 hargument)
    exact List.mem_cons_of_mem _ q.query_mem_nodes
  | inValues negated h => rcases h with rfl | rfl <;> simp at hargument
  | _ => simp at hargument

/-- By induction along the forms of a predicate, the queries in it are in its condition. -/
theorem Becomes.query_mem {p : Predicate} {c : Condition} (h : Becomes resolve p c)
    (hq : .query q ∈ p.contributions resolve) : .query q ∈ c.nodes := by
  induction h with
  | and _ _ hleft hright =>
    exact Condition.query_mem_combine ((List.mem_append.1 hq).imp hleft hright) .and
  | or _ _ hleft hright =>
    exact Condition.query_mem_combine ((List.mem_append.1 hq).imp hleft hright) .or
  | not _ ih => exact List.mem_cons_of_mem _ (ih hq)
  | call hcolumn h =>
    rw [contributions, hcolumn] at hq
    exact h.query_mem hq
  | member _ => exact absurd hq (not_query_constantsFor _ _)
  | _ => exact absurd hq not_query_compare

end Predicate

theorem Condition.Constructed.fillsAlone {c : Condition} (h : c.Constructed) : c.FillsAlone := by
  have value (column : String) (operator : Operator) (v : Value) :
      (basic column operator [.pending column v]).FillsAlone :=
    fillsAlone_basic column operator (by simp)
  have range (column : String) (operator : Operator) (low high : Value) :
      (basic column operator [.pending column low, .pending column high]).FillsAlone :=
    fillsAlone_basic column operator (by simp)
  induction h with
  | ofParameters h => exact fillsAlone_of_ofParameters h
  | compare h => exact fillsAlone_of_ofParameters h
  | isNull column => exact fillsAlone_basic column .isNull (by simp)
  | isNotNull column => exact fillsAlone_basic column .isNotNull (by simp)
  | equal column v => exact value column .equal v
  | notEqual column v => exact value column .notEqual v
  | greaterThan column v => exact value column .greaterThan v
  | lessThan column v => exact value column .lessThan v
  | greaterThanOrEqual column v => exact value column .greaterThanOrEqual v
  | lessThanOrEqual column v => exact value column .lessThanOrEqual v
  | like column pattern => exact value column .like (.text pattern)
  | notLike column pattern => exact value column .notLike (.text pattern)
  | likeMatch column pattern mode negated => exact value column _ (.text (mode.apply pattern))
  | between column low high => exact range column .between low high
  | notBetween column low high => exact range column .notBetween low high
  | equalColumns left right => exact fillsAlone_columns left .equal right
  | compareColumns h =>
    unfold Condition.compareColumns at h
    split at h
    · exact nomatch h
    · obtain rfl := Except.ok.inj h
      exact fillsAlone_columns _ _ _
  | ofValues column negated vs =>
    intro _ d
    rw [fills_iff]
    refine (filterMap_valueMembership Piece.skipsText_fault? column negated _).trans ?_
    exact List.filterMap_eq_nil_iff.2 fun _ _ => rfl
  | inQuery column negated q =>
    intro alone
    exact absurd (List.mem_cons_of_mem _ q.query_mem_nodes) (alone q)
  | not _ ih => exact ih.not
  | combine j _ _ ha hb => exact ha.combine hb j
  | @combineOptional j _ _ _ _ _ h ha hb =>
    exact forall_combineOptional (fun _ _ hleft hright => hleft.combine hright j) ha hb _ h
  | @joined j _ _ _ h each =>
    exact forall_joined (fun _ _ hleft hright => hleft.combine hright j) each _ h
  | translated h =>
    intro alone d
    refine (Predicate.fills_toCondition d h).2 fun q hq => ?_
    exact absurd ((Predicate.becomes_of_toCondition h).query_mem hq) (alone q)

end ParamSql
