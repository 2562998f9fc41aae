import ParamSql.Proofs.Meaning.Predicate

/-!
# What predicates become

The conditions that predicates are translated into, with one case for each form that a predicate
may have. What is shown of these conditions is shown by induction along the cases, and not from
how a translation is carried out.
-/

namespace ParamSql

def LikeMatch.method : LikeMatch → (negated : Bool) → Method
  | exact, false => .like
  | exact, true => .notLike
  | contains, false => .likeAll
  | contains, true => .notLikeAll
  | startsWith, false => .likeStartWith
  | startsWith, true => .notLikeStartWith
  | endsWith, false => .likeEndWith
  | endsWith, true => .notLikeEndWith

namespace Predicate

theorem parameter_eq (column : Column) (v : Value) :
    parameter column v =
      .bound column.name none v (column.storageType.getD v.storageType) := by
  unfold parameter
  cases column.storageType <;> rfl

/-- What a method with its arguments becomes for a column. -/
inductive CallBecomes (column : Column) : Method → List Predicate → Condition → Prop
  | inQuery (negated : Bool) (q : Select) :
    CallBecomes column (if negated then .notIn else .isIn) [query q]
      (.inQuery column.name negated q)
  /-- The values come as one list or as an argument each. -/
  | inValues (negated : Bool) {arguments : List Predicate} {vs : List Value}
    (h : arguments = [values vs] ∨ arguments = vs.map constant) :
    CallBecomes column (if negated then .notIn else .isIn) arguments
      (.inValues column.name negated (vs.map (parameter column)))
  | range (negated : Bool) (low high : Value) :
    CallBecomes column (if negated then .notBetween else .between) [constant low, constant high]
      (.basic column.name (if negated then .notBetween else .between)
        ([low, high].map (parameter column)))
  | like (mode : LikeMatch) (negated : Bool) (s : String) :
    CallBecomes column (mode.method negated) [constant (.text s)]
      (.basic column.name (if negated then .notLike else .like)
        ([.text (mode.apply s)].map (parameter column)))
  | nullTest (negated : Bool) :
    CallBecomes column (if negated then .isNotNull else .isNull) []
      (.basic column.name (if negated then .isNotNull else .isNull) [])

/-- What a predicate becomes. -/
inductive Becomes (resolve : Resolver) : Predicate → Condition → Prop
  | columns {entity property entity' property' : String} {left right : Column}
    (hleft : resolve entity property = .ok left) (hright : resolve entity' property' = .ok right)
    (comparison : Comparison) :
    Becomes resolve (compare (member entity property) comparison (member entity' property'))
      (.columns left.name comparison.operator right.name)
  | constantRight {entity property : String} {column : Column}
    (hcolumn : resolve entity property = .ok column) (comparison : Comparison) {v : Value}
    (hv : v.isNull = false) :
    Becomes resolve (compare (member entity property) comparison (constant v))
      (.basic column.name comparison.operator ([v].map (parameter column)))
  | constantLeft {entity property : String} {column : Column}
    (hcolumn : resolve entity property = .ok column) (comparison : Comparison) {v : Value}
    (hv : v.isNull = false) :
    Becomes resolve (compare (constant v) comparison (member entity property))
      (.basic column.name comparison.operator.swapped ([v].map (parameter column)))
  /-- Null is tested for on either side. -/
  | nullRight {entity property : String} {column : Column}
    (hcolumn : resolve entity property = .ok column) (negated : Bool) {v : Value}
    (hv : v.isNull = true) :
    Becomes resolve
      (compare (member entity property) (if negated then .notEqual else .equal) (constant v))
      (.basic column.name (if negated then .isNotNull else .isNull) [])
  | nullLeft {entity property : String} {column : Column}
    (hcolumn : resolve entity property = .ok column) (negated : Bool) {v : Value}
    (hv : v.isNull = true) :
    Becomes resolve
      (compare (constant v) (if negated then .notEqual else .equal) (member entity property))
      (.basic column.name (if negated then .isNotNull else .isNull) [])
  | and {left right : Predicate} {l r : Condition} (hleft : Becomes resolve left l)
    (hright : Becomes resolve right r) : Becomes resolve (and left right) (l.and r)
  | or {left right : Predicate} {l r : Condition} (hleft : Becomes resolve left l)
    (hright : Becomes resolve right r) : Becomes resolve (or left right) (l.or r)
  | not {inner : Predicate} {c : Condition} (h : Becomes resolve inner c) :
    Becomes resolve (not inner) (.not c)
  | call {m : Method} {target : Predicate} {arguments : List Predicate} {column : Column}
    {c : Condition} (hcolumn : target.column resolve = .ok column)
    (h : CallBecomes column m arguments c) : Becomes resolve (call m target arguments) c
  | member {entity property : String} {column : Column}
    (hcolumn : resolve entity property = .ok column) :
    Becomes resolve (member entity property)
      (.basic column.name .equal ([.boolean true].map (parameter column)))

variable {resolve : Resolver} {column : Column} {m : Method} {c : Condition}
  {arguments : List Predicate}

section Arguments

theorem argument_of_constantArgument {p : Predicate} {v : Value}
    (h : p.constantArgument m = .ok v) : p = constant v := by
  cases p with
  | constant w => exact congrArg constant (Except.ok.inj h)
  | _ => exact absurd h refusal_ne_ok

theorem arguments_of_constantArguments {vs : List Value}
    (h : arguments.mapM (constantArgument m) = .ok vs) : arguments = vs.map constant := by
  have along := forall₂_of_mapM h
  clear h
  induction along with
  | nil => rfl
  | cons head _ ih => rw [argument_of_constantArgument head, ih, List.map_cons]

end Arguments

section Calls

theorem membershipCondition_becomes {negated : Bool}
    (h : membershipCondition column m negated arguments = .ok c) :
    CallBecomes column (if negated then .notIn else .isIn) arguments c := by
  unfold membershipCondition at h
  split at h
  · obtain rfl := Except.ok.inj h
    exact .inQuery negated _
  · obtain rfl := Except.ok.inj h
    exact .inValues negated (.inl rfl)
  · obtain ⟨vs, hvs, h⟩ := ok_of_bind h
    obtain rfl := Except.ok.inj h
    exact .inValues negated (.inr (arguments_of_constantArguments hvs))

theorem rangeCondition_becomes (negated : Bool)
    (h : rangeCondition column m (if negated then .notBetween else .between) arguments = .ok c) :
    CallBecomes column (if negated then .notBetween else .between) arguments c := by
  unfold rangeCondition at h
  split at h
  · obtain ⟨low, hlow, h⟩ := ok_of_bind h
    obtain ⟨high, hhigh, h⟩ := ok_of_bind h
    obtain rfl := Except.ok.inj h
    rw [argument_of_constantArgument hlow, argument_of_constantArgument hhigh]
    exact .range negated low high
  · exact absurd h refusal_ne_ok

theorem likeCondition_becomes {mode : LikeMatch} {negated : Bool}
    (h : likeCondition column m mode negated arguments = .ok c) :
    CallBecomes column (mode.method negated) arguments c := by
  unfold likeCondition at h
  split at h
  · obtain ⟨v, hv, h⟩ := ok_of_bind h
    rw [argument_of_constantArgument hv]
    cases v with
    | text s =>
      obtain rfl := Except.ok.inj h
      exact .like mode negated s
    | _ => exact absurd h refusal_ne_ok
  · exact absurd h refusal_ne_ok

theorem nullTestCondition_becomes (negated : Bool)
    (h : nullTestCondition m (.basic column.name (if negated then .isNotNull else .isNull) [])
      arguments = .ok c) :
    CallBecomes column (if negated then .isNotNull else .isNull) arguments c := by
  cases arguments with
  | nil =>
    obtain rfl := Except.ok.inj h
    exact .nullTest negated
  | cons p arguments => exact absurd h refusal_ne_ok

theorem callCondition_becomes (h : callCondition column m arguments = .ok c) :
    CallBecomes column m arguments c := by
  cases m with
  | isIn => exact membershipCondition_becomes h
  | notIn => exact membershipCondition_becomes h
  | between => exact rangeCondition_becomes false h
  | notBetween => exact rangeCondition_becomes true h
  | like => exact likeCondition_becomes h
  | notLike => exact likeCondition_becomes h
  | likeAll => exact likeCondition_becomes h
  | notLikeAll => exact likeCondition_becomes h
  | likeStartWith => exact likeCondition_becomes h
  | notLikeStartWith => exact likeCondition_becomes h
  | likeEndWith => exact likeCondition_becomes h
  | notLikeEndWith => exact likeCondition_becomes h
  | isNull => exact nullTestCondition_becomes false h
  | isNotNull => exact nullTestCondition_becomes true h

end Calls

theorem compareOperands_becomes {left right : Predicate} {comparison : Comparison}
    (h : compareOperands resolve left comparison right = .ok c) :
    Becomes resolve (compare left comparison right) c := by
  cases left with
  | member entity property =>
    cases right with
    | member entity' property' =>
      obtain ⟨l, hl, h⟩ := ok_of_bind h
      obtain ⟨r, hr, h⟩ := ok_of_bind h
      rw [Condition.compareColumns, if_neg (by simp)] at h
      obtain rfl := Except.ok.inj h
      exact .columns hl hr comparison
    | constant v =>
      obtain ⟨column, hcolumn, hc⟩ := compareConstant_eq_ok h
      rcases hc with ⟨hv, rfl, rfl⟩ | ⟨hv, rfl, rfl⟩ | ⟨hv, rfl⟩
      · exact .nullRight hcolumn false hv
      · exact .nullRight hcolumn true hv
      · exact .constantRight hcolumn comparison hv
    | _ => exact absurd h refusal_ne_ok
  | constant v =>
    cases right with
    | member entity property =>
      obtain ⟨column, hcolumn, hc⟩ := compareConstant_eq_ok h
      rcases hc with ⟨hv, rfl, rfl⟩ | ⟨hv, rfl, rfl⟩ | ⟨hv, rfl⟩
      · exact .nullLeft hcolumn false hv
      · exact .nullLeft hcolumn true hv
      · exact .constantLeft hcolumn comparison hv
    | _ => exact absurd h refusal_ne_ok
  | _ => exact absurd h refusal_ne_ok

/-- A translated predicate has one of the forms, by induction along it. -/
theorem becomes_of_toCondition :
    ∀ {p : Predicate} {c : Condition}, p.toCondition resolve = .ok c → Becomes resolve p c
  | compare _ _ _, _, h => compareOperands_becomes h
  | and left right, _, h => by
    obtain ⟨l, hl, h⟩ := ok_of_bind h
    obtain ⟨r, hr, h⟩ := ok_of_bind h
    obtain rfl := Except.ok.inj h
    exact .and (becomes_of_toCondition hl) (becomes_of_toCondition hr)
  | or left right, _, h => by
    obtain ⟨l, hl, h⟩ := ok_of_bind h
    obtain ⟨r, hr, h⟩ := ok_of_bind h
    obtain rfl := Except.ok.inj h
    exact .or (becomes_of_toCondition hl) (becomes_of_toCondition hr)
  | not inner, _, h => by
    obtain ⟨c, hc, rfl⟩ := ok_of_map h
    exact .not (becomes_of_toCondition hc)
  | call m target arguments, _, h => by
    obtain ⟨column, hcolumn, h⟩ := ok_of_bind h
    exact .call hcolumn (callCondition_becomes h)
  | member entity property, _, h => by
    obtain ⟨column, hcolumn, rfl⟩ := ok_of_map h
    exact .member hcolumn
  | constant _, _, h => absurd h refusal_ne_ok
  | values _, _, h => absurd h refusal_ne_ok
  | query _, _, h => absurd h refusal_ne_ok

end Predicate

end ParamSql
