import ParamSql.Proofs.Paging.Success
import ParamSql.Proofs.Predicate.Translation
import ParamSql.Proofs.Rendering.Pieces

/-!
# Constants of a predicate

What a predicate contributes to the parameters of a statement: its constants, each for the column
it is compared with, and what the queries in it bind. Translated and rendered, a predicate has
these parameters and no others, from left to right.
-/

namespace ParamSql

open Document

/-- A document rendered on its own records what its holes hold. -/
theorem Document.parameters_of_render {d : Dialect} {doc : Document} (hdoc : doc.Unfilled)
    {text : String} {ps : List Parameter} (h : doc.render d = .ok (text, ps)) :
    ps = Binder.recorded 0 doc.holes := by
  obtain ⟨⟨tokens, b⟩, hfill, hb⟩ := ok_of_map h
  obtain ⟨-, rfl⟩ := Prod.mk.inj hb
  obtain ⟨-, hparameters, -⟩ := fill_spec hdoc hfill
  exact hparameters

theorem Document.fills_of_fill {doc : Document} {b : Binder} {filled : List Token × Binder}
    (h : doc.fill b = .ok filled) : doc.Fills := by
  intro b'
  obtain ⟨tokens, last, hfill⟩ := fill_eq_ok_of_no_fault (no_fault_of_fill h) b'
  exact ⟨_, hfill⟩

theorem Document.Fills.render {doc : Document} (h : doc.Fills) (d : Dialect) :
    ∃ text ps, doc.render d = .ok (text, ps) := by
  obtain ⟨filled, hfilled⟩ := h {}
  rw [Document.render, hfilled]
  exact ⟨_, _, rfl⟩

/-- The parameters that a query records where it stands in a statement, from left to right. -/
def Select.binds (d : Dialect) (q : Select) : List Parameter :=
  (q.document d).holes.filter Parameter.isBound

theorem Select.binds_namedAs {d : Dialect} {q : Select} {text : String} {ps : List Parameter}
    (h : (q.document d).render d = .ok (text, ps)) :
    List.Forall₂ Parameter.NamedAs (q.binds d) ps := by
  rw [parameters_of_render (q.unfilled_paginated d q.pagination none false) h]
  exact Binder.recorded_namedAs 0 _

namespace Method

/-- The pattern that a method makes from a text; all but the LIKE methods leave it as it is. -/
def pattern : Method → String → String
  | likeAll, s | notLikeAll, s => "%" ++ s ++ "%"
  | likeStartWith, s | notLikeStartWith, s => s ++ "%"
  | likeEndWith, s | notLikeEndWith, s => "%" ++ s
  | _, s => s

/-- The value that a method sends for a constant among its arguments. -/
def sent (m : Method) : Value → Value
  | .text s => .text (m.pattern s)
  | v => v

end Method

/-- A constant for a column, or a query that binds parameters of its own. -/
inductive Contribution
  | constant (column : Column) (v : Value)
  | query (inner : Select)

namespace Contribution

def parameters (d : Dialect) : Contribution → List Parameter
  | constant column v => [.bound column.name none v (column.storageType.getD v.storageType)]
  | query inner => inner.binds d

def document (d : Dialect) : Contribution → Document
  | constant column v => [.hole (Predicate.parameter column v)]
  | query inner => inner.document d

theorem bound_holes (d : Dialect) (x : Contribution) :
    (x.document d).holes.filter Parameter.isBound = x.parameters d := by
  cases x with
  | constant column v =>
    rw [document, Predicate.parameter_eq]
    rfl
  | query inner => rfl

end Contribution

namespace Predicate

section Walk

variable (resolve : Resolver)

def constantsFor : Except Error Column → List Value → List Contribution
  | .ok column, vs => vs.map (.constant column)
  | .error _, _ => []

def argumentContributions (column : Except Error Column) (m : Method) :
    Predicate → List Contribution
  | constant v => constantsFor column [m.sent v]
  | values vs => constantsFor column vs
  | query inner => [.query inner]
  | _ => []

/-- What a predicate contributes, from left to right. Nothing is compared with null, and a member
on its own is compared with true. -/
def contributions : Predicate → List Contribution
  | compare (member entity property) _ (constant v)
  | compare (constant v) _ (member entity property) =>
    if v.isNull then [] else constantsFor (resolve entity property) [v]
  | compare _ _ _ => []
  | and left right | or left right => contributions left ++ contributions right
  | not inner => contributions inner
  | call m target arguments =>
    arguments.flatMap (argumentContributions (target.column resolve) m)
  | member entity property => constantsFor (resolve entity property) [.boolean true]
  | constant _ | values _ | query _ => []

end Walk

variable (d : Dialect) {resolve : Resolver} {column : Column} {c : Condition}

/-- Constants among the arguments are contributed, as far as the method sends them as they are. -/
theorem contributions_constants (column : Column) {m : Method} (hm : ∀ v, m.sent v = v)
    (vs : List Value) :
    (vs.map constant).flatMap (argumentContributions (.ok column) m) =
      vs.map (.constant column) := by
  induction vs with
  | nil => rfl
  | cons v vs ih =>
    rw [List.map_cons, List.flatMap_cons, ih, argumentContributions, hm]
    rfl

section Pieces

variable {β : Type*} {f : Piece → Option β} (hf : SkipsText f)

def contributed (f : Piece → Option β) (d : Dialect) (xs : List Contribution) : List β :=
  xs.flatMap fun x => (x.document d).filterMap f

theorem contributed_append (f : Piece → Option β) (xs ys : List Contribution) :
    contributed f d (xs ++ ys) = contributed f d xs ++ contributed f d ys :=
  List.flatMap_append

theorem contributed_constants (f : Piece → Option β) (column : Column) (vs : List Value) :
    contributed f d (vs.map (.constant column)) =
      (vs.map (parameter column)).filterMap fun p => f (.hole p) := by
  induction vs with
  | nil => rfl
  | cons v vs ih =>
    rw [List.map_cons, List.map_cons, ← List.singleton_append, contributed_append, ih,
      ← List.singleton_append (x := parameter column v), List.filterMap_append]
    simp [contributed, Contribution.document, List.filterMap_cons]

include hf

theorem filterMap_basic (operator : Operator) (vs : List Value) (hvs : vs.length ≤ 2) :
    ((Condition.basic column.name operator (vs.map (parameter column))).document d).filterMap f =
      contributed f d (vs.map (.constant column)) := by
  rw [Condition.document, filterMap_comparison hf, if_pos (by simpa using hvs),
    contributed_constants]

theorem CallBecomes.filterMap {m : Method} {arguments : List Predicate}
    (h : CallBecomes column m arguments c) :
    (c.document d).filterMap f =
      contributed f d (arguments.flatMap (argumentContributions (.ok column) m)) := by
  cases h with
  | inQuery negated q =>
    rw [Condition.document, filterMap_membership hf]
    exact (List.append_nil _).symm
  | @inValues negated arguments vs harguments =>
    have sent (v : Value) : (if negated then Method.notIn else .isIn).sent v = v := by
      cases negated <;> cases v <;> rfl
    have listed : arguments.flatMap (argumentContributions (.ok column)
        (if negated then .notIn else .isIn)) = vs.map (.constant column) := by
      rcases harguments with rfl | rfl
      · exact List.append_nil _
      · exact contributions_constants column sent vs
    rw [listed, contributed_constants, Condition.document, filterMap_valueMembership hf]
  | range negated low high =>
    have sent (v : Value) : (if negated then Method.notBetween else .between).sent v = v := by
      cases negated <;> cases v <;> rfl
    rw [filterMap_basic d hf _ [low, high] (by simp)]
    exact congrArg (contributed f d) (contributions_constants column sent [low, high]).symm
  | like mode negated s =>
    have sent : (mode.method negated).sent (.text s) = .text (mode.apply s) := by
      cases mode <;> cases negated <;> rfl
    rw [filterMap_basic d hf _ [.text (mode.apply s)] (by simp), List.flatMap_singleton,
      argumentContributions, sent]
    rfl
  | nullTest negated => exact filterMap_basic d hf _ [] (by simp)

/-- By induction along the forms of a predicate, its condition becomes a document with the pieces
of what it contributes. -/
theorem Becomes.filterMap {p : Predicate} (h : Becomes resolve p c) :
    (c.document d).filterMap f = contributed f d (p.contributions resolve) := by
  have constant {entity property : String} {column : Column}
      (hcolumn : resolve entity property = .ok column) (operator : Operator) {v : Value}
      (hv : v.isNull = false) :
      ((Condition.basic column.name operator ([v].map (parameter column))).document d).filterMap f =
        contributed f d
          (if v.isNull then [] else constantsFor (resolve entity property) [v]) := by
    rw [hv, hcolumn]
    exact filterMap_basic d hf operator [v] (by simp)
  have null (column : Column) (contribution : List Contribution) (operator : Operator) {v : Value}
      (hv : v.isNull = true) :
      ((Condition.basic column.name operator []).document d).filterMap f =
        contributed f d (if v.isNull then [] else contribution) := by
    rw [if_pos hv]
    exact filterMap_basic d hf operator [] (by simp)
  induction h with
  | columns _ _ comparison => exact filterMap_columnComparison hf _ _ _
  | constantRight hcolumn comparison hv => exact constant hcolumn _ hv
  | constantLeft hcolumn comparison hv => exact constant hcolumn _ hv
  | nullRight _ negated hv => exact null _ _ _ hv
  | nullLeft _ negated hv => exact null _ _ _ hv
  | and _ _ hleft hright =>
    rw [Condition.and, Condition.filterMap_combine hf, hleft, hright, contributions,
      contributed_append]
  | or _ _ hleft hright =>
    rw [Condition.or, Condition.filterMap_combine hf, hleft, hright, contributions,
      contributed_append]
  | not _ ih => rw [Condition.document, filterMap_negation hf, ih, contributions]
  | call hcolumn h =>
    rw [contributions, hcolumn]
    exact h.filterMap d hf
  | member hcolumn =>
    rw [contributions, hcolumn]
    exact filterMap_basic d hf .equal [.boolean true] (by simp)

end Pieces

/-- A translated predicate is rendered just when the queries in it are. -/
theorem fills_toCondition {p : Predicate} (h : p.toCondition resolve = .ok c) :
    (c.document d).Fills ↔
      ∀ inner, .query inner ∈ p.contributions resolve → (inner.document d).Fills := by
  rw [fills_iff, (becomes_of_toCondition h).filterMap d Piece.skipsText_fault?, contributed,
    List.flatMap_eq_nil_iff]
  constructor
  · intro none inner hinner
    exact fills_iff.2 (none _ hinner)
  · intro queries x hx
    cases x with
    | constant column v => rfl
    | query inner => exact fills_iff.1 (queries inner hx)

theorem bound_toCondition {p : Predicate} (h : p.toCondition resolve = .ok c) :
    (c.document d).holes.filter Parameter.isBound =
      (p.contributions resolve).flatMap (Contribution.parameters d) := by
  rw [holes_eq_filterMap, (becomes_of_toCondition h).filterMap d Piece.skipsText_hole?, contributed,
    List.filter_flatMap]
  refine List.flatMap_congr fun x _ => ?_
  rw [← holes_eq_filterMap, x.bound_holes d]

/-- A translated predicate has the parameters that it contributes, once and in order: each constant
under the name of its column and with the storage type that the column pins, or else its own. What
it contributes for a query is what the query has when it is rendered alone. When no parameter of
the queries has a name yet, the names are numbered from zero on. -/
theorem translation_keeps_constants {p : Predicate} (htranslated : p.toCondition resolve = .ok c)
    {text : String} {ps : List Parameter} (hrendered : c.render d = .ok (text, ps)) :
    List.Forall₂ Parameter.NamedAs
      ((p.contributions resolve).flatMap (Contribution.parameters d)) ps ∧
    (∀ inner, .query inner ∈ p.contributions resolve → ∃ text own,
      (inner.document d).render d = .ok (text, own) ∧
      List.Forall₂ Parameter.NamedAs (inner.binds d) own) ∧
    ((∀ inner, .query inner ∈ p.contributions resolve →
        ∀ r ∈ inner.binds d, r.name? = none) →
      ps.map Parameter.name? =
        (List.range ps.length).map fun k => some (Binder.indexedName k)) := by
  have bound := bound_toCondition d htranslated
  have unfilled : (c.document d).Unfilled := (RootStatement.condition d c).document_unfilled
  have recorded := parameters_of_render unfilled hrendered
  refine ⟨?_, ?_, ?_⟩
  · rw [recorded, ← bound]
    exact Binder.recorded_namedAs 0 _
  · intro inner hinner
    have fills : (c.document d).Fills := by
      obtain ⟨filled, hfilled, -⟩ := ok_of_map hrendered
      exact fills_of_fill hfilled
    obtain ⟨text, own, hown⟩ := ((fills_toCondition d htranslated).1 fills inner hinner).render d
    exact ⟨text, own, hown, inner.binds_namedAs hown⟩
  · intro pending
    have unnamed : ∀ r ∈ (c.document d).holes, r.name? = none := by
      intro r hr
      cases r with
      | raw column sql type => rfl
      | bound column name v type =>
        have hbound := List.mem_filter.2 ⟨hr, Parameter.isBound_bound column name v type⟩
        rw [bound] at hbound
        obtain ⟨x, hx, hmem⟩ := List.mem_flatMap.1 hbound
        cases x with
        | constant column' w =>
          rw [List.mem_singleton.1 hmem]
          rfl
        | query inner => exact pending inner hx _ hmem
    rw [recorded, Binder.names_recorded_of_unnamed unnamed, List.range_eq_range']

/-- Constants on the left, in a query, among wildcards and within a range, where the column of one
property pins a storage type; null and another member contribute nothing. -/
theorem translation_keeps_constants_users :
    let resolve : Resolver := fun _ property =>
      .ok { name := property, storageType := if property = "age" then some .int16 else none }
    let orders : Select :=
      { dialect := .mySql
        source := .table "orders"
        filter := some (.basic "total" .greaterThan [.pending "total" (.integer 7)]) }
    let p :=
      and (compare (constant (.integer 18)) .lessOrEqual (member "user" "age"))
        (or (and (compare (member "user" "mail") .notEqual (constant .null))
            (call .notIn (member "user" "id") [query orders]))
          (not (and (call .likeStartWith (member "user" "name") [constant (.text "A")])
            (and (compare (member "user" "first") .equal (member "user" "last"))
              (call .between (member "user" "age")
                [constant (.integer 1), constant (.integer 2)])))))
    ∃ c text ps, p.toCondition resolve = .ok c ∧ c.render .oracle = .ok (text, ps) ∧
      List.Forall₂ Parameter.NamedAs
        [.bound "age" none (.integer 18) .int16, .bound "total" none (.integer 7) .int64,
          .bound "name" none (.text "A%") .string, .bound "age" none (.integer 1) .int16,
          .bound "age" none (.integer 2) .int16] ps ∧
      ps.map Parameter.name? =
        (List.range ps.length).map fun k => some (Binder.indexedName k) := by
  intro resolve orders p
  have translated : ∃ c, p.toCondition resolve = .ok c := ⟨_, rfl⟩
  obtain ⟨c, hc⟩ := translated
  have only : ∀ inner, .query inner ∈ p.contributions resolve → inner = orders := by
    simp [p, contributions, constantsFor, argumentContributions, column, resolve, Value.isNull]
  have fills : (c.document .oracle).Fills := by
    refine (fills_toCondition .oracle hc).2 fun inner hinner => ?_
    rw [only inner hinner]
    exact fills_iff.2 rfl
  obtain ⟨text, ps, hps⟩ := fills.render .oracle
  obtain ⟨contributed, -, numbered⟩ := translation_keeps_constants .oracle hc hps
  refine ⟨c, text, ps, hc, hps, contributed, numbered fun inner hinner => ?_⟩
  rw [only inner hinner]
  decide

end Predicate

end ParamSql
