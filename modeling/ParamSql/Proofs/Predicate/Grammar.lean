import ParamSql.Predicate.Meaning
import ParamSql.Proofs.Agreement

/-!
# The grammar of predicates

Which predicates have a condition: a grammar of trees over the members that
resolve. A predicate is translated if and only if the grammar generates it.
Any other one is answered with an error, which is one of the resolver or a
refusal of the predicate.
-/

namespace ParamSql

theorem Value.isNull_eq_true {v : Value} : v.isNull = true ↔ v = .null := by
  cases v <;> simp [isNull]

namespace Predicate

def Resolves (resolve : Resolver) (p : Predicate) : Prop :=
  ∃ entity property column, p = member entity property ∧ resolve entity property = .ok column

def Takes (arguments : List Predicate) : Method → Prop
  | .isIn | .notIn =>
    (∃ inner, arguments = [query inner]) ∨ (∃ vs, arguments = [values vs]) ∨
      ∃ vs : List Value, arguments = vs.map constant
  | .between | .notBetween => ∃ low high, arguments = [constant low, constant high]
  | .like | .notLike | .likeAll | .notLikeAll | .likeStartWith | .notLikeStartWith
  | .likeEndWith | .notLikeEndWith => ∃ pattern, arguments = [constant (.text pattern)]
  | .isNull | .isNotNull => arguments = []

/-- A constant that a member can be compared with: null is only equal or not. -/
def Comparable (c : Comparison) (v : Value) : Prop :=
  v = .null → c = .equal ∨ c = .notEqual

inductive Accepted (resolve : Resolver) : Predicate → Prop
  | member {p : Predicate} (resolved : Resolves resolve p) : Accepted resolve p
  | members {l r : Predicate} (c : Comparison) (left : Resolves resolve l)
    (right : Resolves resolve r) : Accepted resolve (compare l c r)
  | constantRight {p : Predicate} {c : Comparison} {v : Value} (resolved : Resolves resolve p)
    (comparable : Comparable c v) : Accepted resolve (compare p c (constant v))
  | constantLeft {p : Predicate} {c : Comparison} {v : Value} (resolved : Resolves resolve p)
    (comparable : Comparable c v) : Accepted resolve (compare (constant v) c p)
  | and {l r : Predicate} (left : Accepted resolve l) (right : Accepted resolve r) :
    Accepted resolve (and l r)
  | or {l r : Predicate} (left : Accepted resolve l) (right : Accepted resolve r) :
    Accepted resolve (or l r)
  | not {p : Predicate} (inner : Accepted resolve p) : Accepted resolve (not p)
  | call {p : Predicate} {arguments : List Predicate} {m : Method}
    (resolved : Resolves resolve p) (takes : Takes arguments m) :
    Accepted resolve (call m p arguments)

variable {resolve : Resolver}

section Leaves

theorem resolves_member {entity property : String} :
    Resolves resolve (member entity property) ↔ Succeeds (resolve entity property) := by
  constructor
  · rintro ⟨entity', property', column, heq, hcolumn⟩
    cases heq
    exact ⟨column, hcolumn⟩
  · rintro ⟨column, hcolumn⟩
    exact ⟨entity, property, column, rfl, hcolumn⟩

theorem not_resolves {p : Predicate} (h : p.kind ≠ .member) : ¬ Resolves resolve p := by
  rintro ⟨entity, property, -, rfl, -⟩
  exact h rfl

theorem succeeds_column {p : Predicate} : Succeeds (p.column resolve) ↔ Resolves resolve p := by
  cases p with
  | member entity property => exact resolves_member.symm
  | _ => exact iff_of_false (not_succeeds_error _) (not_resolves (by simp [kind]))

theorem succeeds_constantArgument {p : Predicate} {m : Method} :
    Succeeds (p.constantArgument m) ↔ ∃ v, p = constant v := by
  cases p with
  | constant v => exact iff_of_true (succeeds_ok v) ⟨v, rfl⟩
  | _ => exact iff_of_false (not_succeeds_error _) (by simp)

theorem forall_constant_iff {arguments : List Predicate} :
    (∀ p ∈ arguments, ∃ v, p = constant v) ↔ ∃ vs : List Value, arguments = vs.map constant := by
  induction arguments with
  | nil => exact iff_of_true (fun p hp => absurd hp List.not_mem_nil) ⟨[], rfl⟩
  | cons p arguments ih =>
    rw [List.forall_mem_cons, ih]
    constructor
    · rintro ⟨⟨v, rfl⟩, vs, rfl⟩
      exact ⟨v :: vs, rfl⟩
    · rintro ⟨vs, hvs⟩
      cases vs with
      | nil => exact nomatch hvs
      | cons v vs =>
        obtain ⟨hp, harguments⟩ := List.cons.inj hvs
        exact ⟨⟨v, hp⟩, vs, harguments⟩

end Leaves

section Comparisons

theorem succeeds_compareConstant {p : Predicate} {c : Comparison} {operator : Operator}
    {v : Value} :
    Succeeds (p.compareConstant resolve c operator v) ↔ Resolves resolve p ∧ Comparable c v := by
  rw [← succeeds_column]
  refine succeeds_bind_iff fun column => ?_
  cases hv : v.isNull with
  | false =>
    refine iff_of_true (succeeds_ok _) fun hnull => ?_
    rw [Value.isNull_eq_true.2 hnull] at hv
    exact nomatch hv
  | true =>
    have hnull := Value.isNull_eq_true.1 hv
    cases c with
    | equal => exact iff_of_true (succeeds_ok _) fun _ => .inl rfl
    | notEqual => exact iff_of_true (succeeds_ok _) fun _ => .inr rfl
    | _ => exact iff_of_false (not_succeeds_error _) fun h => by simpa using h hnull

/-- Columns are compared by an operator of one operand, so the check of the
arity never fails. -/
theorem compareColumns_operator (left right : String) (c : Comparison) :
    Condition.compareColumns left c.operator right = .ok (.columns left c.operator right) := by
  rw [Condition.compareColumns, if_neg (by simp)]

theorem succeeds_compareMembers {e e' q q' : String} {c : Comparison} :
    Succeeds (compareOperands resolve (member e q) c (member e' q')) ↔
      Resolves resolve (member e q) ∧ Resolves resolve (member e' q') := by
  rw [← succeeds_column, ← succeeds_column]
  refine succeeds_bind_iff fun left => ?_
  simp only [compareColumns_operator]
  exact succeeds_bind_ok

/-- The operands of a comparison: members, or a member and a constant. -/
def Operands (resolve : Resolver) (l : Predicate) (c : Comparison) (r : Predicate) : Prop :=
  (Resolves resolve l ∧ Resolves resolve r) ∨
    (∃ v, r = constant v ∧ Resolves resolve l ∧ Comparable c v) ∨
      ∃ v, l = constant v ∧ Resolves resolve r ∧ Comparable c v

theorem Resolves.kind_eq {p : Predicate} (h : Resolves resolve p) : p.kind = .member := by
  obtain ⟨entity, property, -, rfl, -⟩ := h
  rfl

theorem Operands.kinds {l r : Predicate} {c : Comparison} (h : Operands resolve l c r) :
    (l.kind = .member ∧ (r.kind = .member ∨ r.kind = .constant)) ∨
      (l.kind = .constant ∧ r.kind = .member) := by
  rcases h with ⟨hl, hr⟩ | ⟨v, rfl, hl, -⟩ | ⟨v, rfl, hr, -⟩
  · exact .inl ⟨hl.kind_eq, .inl hr.kind_eq⟩
  · exact .inl ⟨hl.kind_eq, .inr rfl⟩
  · exact .inr ⟨rfl, hr.kind_eq⟩

theorem operands_members {e e' q q' : String} {c : Comparison} :
    Operands resolve (member e q) c (member e' q') ↔
      Resolves resolve (member e q) ∧ Resolves resolve (member e' q') := by
  simp [Operands]

theorem operands_constantRight {e q : String} {c : Comparison} {v : Value} :
    Operands resolve (member e q) c (constant v) ↔
      Resolves resolve (member e q) ∧ Comparable c v := by
  have hv : ¬ Resolves resolve (constant v) := not_resolves (by simp [kind])
  simp [Operands, hv]

theorem operands_constantLeft {e q : String} {c : Comparison} {v : Value} :
    Operands resolve (constant v) c (member e q) ↔
      Resolves resolve (member e q) ∧ Comparable c v := by
  have hv : ¬ Resolves resolve (constant v) := not_resolves (by simp [kind])
  simp [Operands, hv]

theorem succeeds_compareOperands {l r : Predicate} {c : Comparison} :
    Succeeds (compareOperands resolve l c r) ↔ Operands resolve l c r := by
  cases l with
  | member e q =>
    cases r with
    | member e' q' => exact succeeds_compareMembers.trans operands_members.symm
    | constant v => exact succeeds_compareConstant.trans operands_constantRight.symm
    | _ =>
      refine iff_of_false (not_succeeds_error _) fun h => ?_
      simpa [kind] using h.kinds
  | constant v =>
    cases r with
    | member e q => exact succeeds_compareConstant.trans operands_constantLeft.symm
    | _ =>
      refine iff_of_false (not_succeeds_error _) fun h => ?_
      simpa [kind] using h.kinds
  | _ =>
    refine iff_of_false (not_succeeds_error _) fun h => ?_
    simpa [kind] using h.kinds

end Comparisons

section Calls

variable {column : Column} {m : Method}

theorem succeeds_constants {arguments : List Predicate} {build : List Value → Condition} :
    Succeeds ((arguments.mapM (constantArgument m)).bind fun vs => .ok (build vs)) ↔
      ∃ vs : List Value, arguments = vs.map constant := by
  rw [succeeds_bind_ok, succeeds_mapM, ← forall_constant_iff]
  exact forall₂_congr fun p _ => succeeds_constantArgument

/-- A single query and a single list of values are looked for before constants are. -/
theorem succeeds_membershipCondition {negated : Bool} {arguments : List Predicate} :
    Succeeds (membershipCondition column m negated arguments) ↔
      (∃ inner, arguments = [query inner]) ∨ (∃ vs, arguments = [values vs]) ∨
        ∃ vs : List Value, arguments = vs.map constant := by
  unfold membershipCondition
  split
  · rename_i inner
    exact iff_of_true (succeeds_ok _) (.inl ⟨inner, rfl⟩)
  · rename_i vs
    exact iff_of_true (succeeds_ok _) (.inr (.inl ⟨vs, rfl⟩))
  · rename_i hquery hvalues
    rw [or_iff_right (fun ⟨inner, h⟩ => hquery inner h), or_iff_right fun ⟨vs, h⟩ => hvalues vs h]
    exact succeeds_constants

theorem succeeds_rangeCondition {operator : Operator} {arguments : List Predicate} :
    Succeeds (rangeCondition column m operator arguments) ↔
      ∃ low high, arguments = [constant low, constant high] := by
  unfold rangeCondition
  split
  · rename_i low high
    have bounds : (∃ l h, [low, high] = [constant l, constant h]) ↔
        Succeeds (low.constantArgument m) ∧ Succeeds (high.constantArgument m) := by
      simp [succeeds_constantArgument]
    rw [bounds]
    exact succeeds_bind_iff fun l => succeeds_bind_ok
  · rename_i hpair
    refine iff_of_false (not_succeeds_error _) ?_
    rintro ⟨low, high, h⟩
    exact hpair _ _ h

theorem succeeds_likeCondition {mode : LikeMatch} {negated : Bool} {arguments : List Predicate} :
    Succeeds (likeCondition column m mode negated arguments) ↔
      ∃ pattern, arguments = [constant (.text pattern)] := by
  unfold likeCondition
  split
  · rename_i p
    cases p with
    | constant v =>
      cases v with
      | text s => exact iff_of_true (succeeds_ok _) ⟨s, rfl⟩
      | _ => exact iff_of_false (not_succeeds_error _) (by simp)
    | _ => exact iff_of_false (not_succeeds_error _) (by simp)
  · rename_i hsingle
    refine iff_of_false (not_succeeds_error _) ?_
    rintro ⟨pattern, h⟩
    exact hsingle _ h

theorem succeeds_nullTestCondition {test : Condition} {arguments : List Predicate} :
    Succeeds (nullTestCondition m test arguments) ↔ arguments = [] := by
  cases arguments with
  | nil => exact iff_of_true (succeeds_ok _) rfl
  | cons p arguments => exact iff_of_false (not_succeeds_error _) (by simp)

theorem succeeds_callCondition {arguments : List Predicate} :
    Succeeds (callCondition column m arguments) ↔ Takes arguments m := by
  cases m with
  | isIn => exact succeeds_membershipCondition
  | notIn => exact succeeds_membershipCondition
  | between => exact succeeds_rangeCondition
  | notBetween => exact succeeds_rangeCondition
  | isNull => exact succeeds_nullTestCondition
  | isNotNull => exact succeeds_nullTestCondition
  | _ => exact succeeds_likeCondition

end Calls

section Trees

variable {l r : Predicate}

theorem accepted_member {entity property : String} :
    Accepted resolve (member entity property) ↔ Resolves resolve (member entity property) := by
  constructor
  · intro h
    cases h with
    | member resolved => exact resolved
  · exact .member

theorem accepted_compare {c : Comparison} :
    Accepted resolve (compare l c r) ↔ Operands resolve l c r := by
  constructor
  · intro h
    cases h with
    | member resolved => exact nomatch resolved.kind_eq
    | members _ left right => exact .inl ⟨left, right⟩
    | constantRight resolved comparable => exact .inr (.inl ⟨_, rfl, resolved, comparable⟩)
    | constantLeft resolved comparable => exact .inr (.inr ⟨_, rfl, resolved, comparable⟩)
  · rintro (⟨left, right⟩ | ⟨v, rfl, resolved, comparable⟩ | ⟨v, rfl, resolved, comparable⟩)
    · exact .members c left right
    · exact .constantRight resolved comparable
    · exact .constantLeft resolved comparable

theorem accepted_and : Accepted resolve (and l r) ↔ Accepted resolve l ∧ Accepted resolve r := by
  constructor
  · intro h
    cases h with
    | member resolved => exact nomatch resolved.kind_eq
    | and left right => exact ⟨left, right⟩
  · rintro ⟨left, right⟩
    exact .and left right

theorem accepted_or : Accepted resolve (or l r) ↔ Accepted resolve l ∧ Accepted resolve r := by
  constructor
  · intro h
    cases h with
    | member resolved => exact nomatch resolved.kind_eq
    | or left right => exact ⟨left, right⟩
  · rintro ⟨left, right⟩
    exact .or left right

theorem accepted_not : Accepted resolve (not l) ↔ Accepted resolve l := by
  constructor
  · intro h
    cases h with
    | member resolved => exact nomatch resolved.kind_eq
    | not inner => exact inner
  · exact .not

theorem accepted_call {m : Method} {arguments : List Predicate} :
    Accepted resolve (call m l arguments) ↔ Resolves resolve l ∧ Takes arguments m := by
  constructor
  · intro h
    cases h with
    | member resolved => exact nomatch resolved.kind_eq
    | call resolved takes => exact ⟨resolved, takes⟩
  · rintro ⟨resolved, takes⟩
    exact .call resolved takes

/-- What stands for a value is no predicate by itself. -/
theorem not_accepted (h : l.kind = .constant ∨ l.kind = .valueList ∨ l.kind = .query) :
    ¬ Accepted resolve l := by
  intro accepted
  cases accepted with
  | member resolved =>
    rw [resolved.kind_eq] at h
    simp at h
  | _ => simp [kind] at h

/-- By induction along the tree, a node is translated where the grammar has it. -/
theorem succeeds_toCondition (resolve : Resolver) :
    ∀ p : Predicate, Succeeds (p.toCondition resolve) ↔ Accepted resolve p
  | compare l c r => succeeds_compareOperands.trans accepted_compare.symm
  | and l r => by
    rw [accepted_and, ← succeeds_toCondition resolve l, ← succeeds_toCondition resolve r]
    exact succeeds_bind_iff fun left => succeeds_bind_ok
  | or l r => by
    rw [accepted_or, ← succeeds_toCondition resolve l, ← succeeds_toCondition resolve r]
    exact succeeds_bind_iff fun left => succeeds_bind_ok
  | not p => by
    rw [accepted_not, ← succeeds_toCondition resolve p]
    exact succeeds_map
  | call m target arguments => by
    rw [accepted_call, ← succeeds_column]
    exact succeeds_bind_iff fun column => succeeds_callCondition
  | member entity property => by
    rw [accepted_member, ← succeeds_column]
    exact succeeds_map
  | constant _ => iff_of_false (not_succeeds_error _) (not_accepted (.inl rfl))
  | values _ => iff_of_false (not_succeeds_error _) (not_accepted (.inr (.inl rfl)))
  | query _ => iff_of_false (not_succeeds_error _) (not_accepted (.inr (.inr rfl)))

end Trees

section Errors

variable {column : Column} {m : Method} {e : Error}

/-- A predicate of a shape that has no condition. -/
def Refusal (e : Error) : Prop := ∃ fault, e = .unsupportedPredicate fault

theorem refusal_of_error {fault : PredicateFault}
    (h : (.error (.unsupportedPredicate fault) : Except Error α) = .error e) : Refusal e :=
  ⟨fault, (Except.error.inj h).symm⟩

theorem refusal_of_constantArgument {p : Predicate} (h : p.constantArgument m = .error e) :
    Refusal e := by
  cases p with
  | constant v => exact nomatch h
  | _ => exact refusal_of_error h

theorem refusal_of_membershipCondition {negated : Bool} {arguments : List Predicate}
    (h : membershipCondition column m negated arguments = .error e) : Refusal e := by
  unfold membershipCondition at h
  split at h
  · exact nomatch h
  · exact nomatch h
  · rcases error_of_bind h with h | ⟨vs, -, h⟩
    · obtain ⟨p, -, hp⟩ := error_of_mapM h
      exact refusal_of_constantArgument hp
    · exact nomatch h

theorem refusal_of_rangeCondition {operator : Operator} {arguments : List Predicate}
    (h : rangeCondition column m operator arguments = .error e) : Refusal e := by
  unfold rangeCondition at h
  split at h
  · rcases error_of_bind h with h | ⟨low, -, h⟩
    · exact refusal_of_constantArgument h
    · rcases error_of_bind h with h | ⟨high, -, h⟩
      · exact refusal_of_constantArgument h
      · exact nomatch h
  · exact refusal_of_error h

theorem refusal_of_likeCondition {mode : LikeMatch} {negated : Bool}
    {arguments : List Predicate}
    (h : likeCondition column m mode negated arguments = .error e) : Refusal e := by
  unfold likeCondition at h
  split at h
  · rcases error_of_bind h with h | ⟨v, -, h⟩
    · exact refusal_of_constantArgument h
    · cases v with
      | text s => exact nomatch h
      | _ => exact refusal_of_error h
  · exact refusal_of_error h

theorem refusal_of_nullTestCondition {test : Condition} {arguments : List Predicate}
    (h : nullTestCondition m test arguments = .error e) : Refusal e := by
  cases arguments with
  | nil => exact nomatch h
  | cons p arguments => exact refusal_of_error h

theorem refusal_of_callCondition {arguments : List Predicate}
    (h : callCondition column m arguments = .error e) : Refusal e := by
  cases m with
  | isIn => exact refusal_of_membershipCondition h
  | notIn => exact refusal_of_membershipCondition h
  | between => exact refusal_of_rangeCondition h
  | notBetween => exact refusal_of_rangeCondition h
  | isNull => exact refusal_of_nullTestCondition h
  | isNotNull => exact refusal_of_nullTestCondition h
  | _ => exact refusal_of_likeCondition h

/-- A refusal, or an error of the resolver. -/
def Explained (resolve : Resolver) (e : Error) : Prop :=
  Refusal e ∨ ∃ entity property, resolve entity property = .error e

theorem explained_of_column {p : Predicate} (h : p.column resolve = .error e) :
    Explained resolve e := by
  cases p with
  | member entity property => exact .inr ⟨entity, property, h⟩
  | _ => exact .inl (refusal_of_error h)

theorem explained_of_compareConstant {p : Predicate} {c : Comparison} {operator : Operator}
    {v : Value} (h : p.compareConstant resolve c operator v = .error e) :
    Explained resolve e := by
  rcases error_of_bind h with h | ⟨column, -, h⟩
  · exact explained_of_column h
  · cases hv : v.isNull with
    | false =>
      rw [hv] at h
      exact nomatch h
    | true =>
      simp only [hv, if_true] at h
      cases c with
      | equal => exact nomatch h
      | notEqual => exact nomatch h
      | _ => exact .inl (refusal_of_error h)

theorem explained_of_compareMembers {en en' q q' : String} {c : Comparison}
    (h : compareOperands resolve (member en q) c (member en' q') = .error e) :
    Explained resolve e := by
  rcases error_of_bind h with h | ⟨left, -, h⟩
  · exact explained_of_column h
  · rcases error_of_bind h with h | ⟨right, -, h⟩
    · exact explained_of_column h
    · rw [compareColumns_operator] at h
      exact nomatch h

theorem explained_of_compareOperands {l r : Predicate} {c : Comparison}
    (h : compareOperands resolve l c r = .error e) : Explained resolve e := by
  cases l with
  | member en q =>
    cases r with
    | member en' q' => exact explained_of_compareMembers h
    | constant v => exact explained_of_compareConstant h
    | _ => exact .inl (refusal_of_error h)
  | constant v =>
    cases r with
    | member en q => exact explained_of_compareConstant h
    | _ => exact .inl (refusal_of_error h)
  | _ => exact .inl (refusal_of_error h)

theorem operands_eq_error {x y : Except Error Condition}
    {build : Condition → Condition → Condition} :
    (x.bind fun a => y.bind fun b => .ok (build a b)) = .error e ↔
      x = .error e ∨ Succeeds x ∧ y = .error e := by
  constructor
  · intro h
    rcases error_of_bind h with h | ⟨a, ha, h⟩
    · exact .inl h
    · rcases error_of_bind h with h | ⟨b, -, h⟩
      · exact .inr ⟨⟨a, ha⟩, h⟩
      · exact nomatch h
  · rintro (rfl | ⟨⟨a, rfl⟩, rfl⟩)
    · rfl
    · rfl

/-- By induction along the tree, an error is one that some leaf, comparison or call gave. -/
theorem explained_of_toCondition (resolve : Resolver) (e : Error) :
    ∀ p : Predicate, p.toCondition resolve = .error e → Explained resolve e
  | compare _ _ _, h => explained_of_compareOperands h
  | and l r, h => by
    rcases operands_eq_error.1 h with h | ⟨-, h⟩
    · exact explained_of_toCondition resolve e l h
    · exact explained_of_toCondition resolve e r h
  | or l r, h => by
    rcases operands_eq_error.1 h with h | ⟨-, h⟩
    · exact explained_of_toCondition resolve e l h
    · exact explained_of_toCondition resolve e r h
  | not p, h => explained_of_toCondition resolve e p (error_of_map h)
  | call _ _ _, h => by
    rcases error_of_bind h with h | ⟨column, -, h⟩
    · exact explained_of_column h
    · exact .inl (refusal_of_callCondition h)
  | member entity property, h => .inr ⟨entity, property, error_of_map h⟩
  | constant _, h => .inl (refusal_of_error h)
  | values _, h => .inl (refusal_of_error h)
  | query _, h => .inl (refusal_of_error h)

end Errors

/-- A predicate has a condition if and only if the grammar generates it. Any other
one is answered with an error, which for two operands is that of the left one
where it has one; the arity that columns are compared with is never wrong. -/
theorem toCondition_accepts_grammar (resolve : Resolver) :
    (∀ p : Predicate, (∃ c, p.toCondition resolve = .ok c) ↔ Accepted resolve p) ∧
    (∀ p : Predicate, ¬ Accepted resolve p →
      ∃ e, p.toCondition resolve = .error e ∧ Explained resolve e) ∧
    (∀ (l r : Predicate) (e : Error),
      ((and l r).toCondition resolve = .error e ↔
        l.toCondition resolve = .error e ∨
          (∃ c, l.toCondition resolve = .ok c) ∧ r.toCondition resolve = .error e) ∧
      ((or l r).toCondition resolve = .error e ↔
        l.toCondition resolve = .error e ∨
          (∃ c, l.toCondition resolve = .ok c) ∧ r.toCondition resolve = .error e)) ∧
    ∀ (left right : String) (c : Comparison),
      Condition.compareColumns left c.operator right = .ok (.columns left c.operator right) := by
  refine ⟨succeeds_toCondition resolve, ?_, ?_, compareColumns_operator⟩
  · intro p refused
    have failed : ¬ Succeeds (p.toCondition resolve) :=
      fun h => refused ((succeeds_toCondition resolve p).1 h)
    obtain ⟨e, he⟩ := error_of_not_succeeds failed
    exact ⟨e, he, explained_of_toCondition resolve e p he⟩
  · intro l r e
    exact ⟨operands_eq_error, operands_eq_error⟩

/-- A null on the left and a membership among nothing are accepted under a negation;
a null that is compared is refused before a member that nobody knows. -/
theorem toCondition_accepts_grammar_users :
    let resolve : Resolver := fun entity property =>
      if entity = "user" then .ok { name := property } else .error (.unknownEntity entity)
    let accepted := not (and (compare (constant .null) .equal (member "user" "name"))
      (call .isIn (member "user" "age") []))
    let refused := or (compare (member "user" "age") .greater (constant .null))
      (member "order" "id")
    (Accepted resolve accepted ∧ ∃ c, accepted.toCondition resolve = .ok c) ∧
      ¬ Accepted resolve refused ∧
      refused.toCondition resolve =
        .error (.unsupportedPredicate (.nullComparison .greater)) := by
  intro resolve accepted refused
  obtain ⟨grammar, -, errors, -⟩ := toCondition_accepts_grammar resolve
  have translated : ∃ c, accepted.toCondition resolve = .ok c := ⟨_, rfl⟩
  have first : (compare (member "user" "age") .greater (constant .null)).toCondition resolve =
      .error (.unsupportedPredicate (.nullComparison .greater)) := rfl
  have failed : refused.toCondition resolve =
      .error (.unsupportedPredicate (.nullComparison .greater)) :=
    (errors _ _ _).2.2 (.inl first)
  refine ⟨⟨(grammar accepted).1 translated, translated⟩, fun h => ?_, failed⟩
  obtain ⟨c, hc⟩ := (grammar refused).2 h
  rw [failed] at hc
  exact nomatch hc

end Predicate

end ParamSql
