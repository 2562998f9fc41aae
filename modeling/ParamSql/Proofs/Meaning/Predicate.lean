import ParamSql.Predicate.Meaning
import ParamSql.Proofs.Agreement
import ParamSql.Proofs.Meaning.Condition

/-!
# Predicates and their conditions say the same

A predicate has a truth of its own at a row: members stand for what their
columns hold, and nothing is known of columns and operators beyond that. The
condition a predicate is translated into is as true as the predicate, at every
row and for every way of comparing.
-/

namespace ParamSql.Predicate

section Meaning

variable (resolve : Resolver) (i : Interpretation)

def operand? : Predicate → Option Value
  | member entity property =>
    (resolve entity property).toOption.map fun column => i.cell column.name
  | constant v => some v
  | _ => none

def isNullConstant : Predicate → Bool
  | constant v => v.isNull
  | _ => false

/-- Two values compared. A null that is written down, on either side, is tested
for; all other values are left to the database. -/
def compared (x y : Value) : Comparison → (nullLeft nullRight : Bool) → Truth
  | .equal, _, true => .ofBool x.isNull
  | .equal, true, false => .ofBool y.isNull
  | .notEqual, _, true => .ofBool !x.isNull
  | .notEqual, true, false => .ofBool !y.isNull
  | c, _, _ => i.compare c x y

def comparison? (left : Predicate) (c : Comparison) (right : Predicate) : Option Truth := do
  let x ← left.operand? resolve i
  let y ← right.operand? resolve i
  some (compared i x y c left.isNullConstant right.isNullConstant)

/-- Whether a value is among the rows of a query, a list of values or the arguments. -/
def membership? (x : Value) : List Predicate → Option Truth
  | [query q] => some (i.contains q x)
  | [values ys] => some (.any (ys.map (i.compare .equal x)))
  | arguments => do
    let ys ← arguments.mapM (operand? resolve i)
    some (.any (ys.map (i.compare .equal x)))

def range? (x : Value) : List Predicate → Option Truth
  | [low, high] => do
    let l ← low.operand? resolve i
    let h ← high.operand? resolve i
    some ((i.compare .lessOrEqual l x).and (i.compare .lessOrEqual x h))
  | _ => none

def matching? (pattern : String → String) (x : Value) : List Predicate → Option Truth
  | [argument] => do
    match ← argument.operand? resolve i with
    | .text s => some (i.like x (.text (pattern s)))
    | _ => none
  | _ => none

def nullTest? (x : Value) : List Predicate → Option Truth
  | [] => some (.ofBool x.isNull)
  | _ => none

def call? (x : Value) (arguments : List Predicate) : Method → Option Truth
  | .isIn => membership? resolve i x arguments
  | .notIn => (membership? resolve i x arguments).map .not
  | .between => range? resolve i x arguments
  | .notBetween => (range? resolve i x arguments).map .not
  | .like => matching? resolve i (fun s => s) x arguments
  | .notLike => (matching? resolve i (fun s => s) x arguments).map .not
  | .likeAll => matching? resolve i (fun s => "%" ++ s ++ "%") x arguments
  | .notLikeAll => (matching? resolve i (fun s => "%" ++ s ++ "%") x arguments).map .not
  | .likeStartWith => matching? resolve i (fun s => s ++ "%") x arguments
  | .notLikeStartWith => (matching? resolve i (fun s => s ++ "%") x arguments).map .not
  | .likeEndWith => matching? resolve i (fun s => "%" ++ s) x arguments
  | .notLikeEndWith => (matching? resolve i (fun s => "%" ++ s) x arguments).map .not
  | .isNull => nullTest? x arguments
  | .isNotNull => (nullTest? x arguments).map .not

/-- Truth of a predicate at a row; none for what is not true or false by itself. -/
def truth? : Predicate → Option Truth
  | compare left c right => comparison? resolve i left c right
  | and left right => do
    let s ← truth? left
    let t ← truth? right
    some (s.and t)
  | or left right => do
    let s ← truth? left
    let t ← truth? right
    some (s.or t)
  | not inner => (truth? inner).map .not
  | call method target arguments => do
    let x ← target.operand? resolve i
    call? resolve i x arguments method
  | p@(member ..) => (p.operand? resolve i).map fun x => i.compare .equal x (.boolean true)
  | constant _ | values _ | query _ => none

end Meaning

variable {resolve : Resolver} {i : Interpretation}

theorem refusal_ne_ok {fault : PredicateFault} {a : α} :
    (.error (.unsupportedPredicate fault) : Except Error α) ≠ .ok a := nofun

@[simp] theorem operand?_constant (v : Value) : (constant v).operand? resolve i = some v := rfl

theorem operand?_of_column {p : Predicate} {column : Column} (h : p.column resolve = .ok column) :
    p.operand? resolve i = some (i.cell column.name) := by
  cases p with
  | member entity property =>
    have resolved : resolve entity property = .ok column := h
    simp [operand?, resolved, Except.toOption]
  | _ => exact absurd h refusal_ne_ok

theorem operand?_of_constantArgument {p : Predicate} {m : Method} {v : Value}
    (h : p.constantArgument m = .ok v) : p.operand? resolve i = some v := by
  cases p with
  | constant w => exact congrArg some (Except.ok.inj h)
  | _ => exact absurd h refusal_ne_ok

theorem operands_of_constantArguments {arguments : List Predicate} {m : Method} {vs : List Value}
    (h : arguments.mapM (constantArgument m) = .ok vs) :
    arguments.mapM (operand? resolve i) = some vs := by
  have along := forall₂_of_mapM h
  clear h
  induction along with
  | nil => rfl
  | cons head _ ih =>
    rw [List.mapM_cons, operand?_of_constantArgument head, ih]
    rfl

@[simp] theorem parameter_sent (i : Interpretation) (column : Column) (v : Value) :
    i.parameter (parameter column v) = v := by
  unfold parameter
  cases column.storageType <;> rfl

theorem parameters_sent (i : Interpretation) (column : Column) (vs : List Value) :
    (vs.map (parameter column)).map i.parameter = vs := by
  simp [Function.comp_def]

theorem basic_truth (i : Interpretation) (column : Column) (operator : Operator)
    (vs : List Value) :
    (Condition.basic column.name operator (vs.map (parameter column))).truth i.atom =
      i.test (i.cell column.name) operator vs := by
  rw [Condition.truth, Interpretation.atom, parameters_sent]

theorem inValues_truth (i : Interpretation) (column : Column) (negated : Bool)
    (vs : List Value) :
    (Condition.inValues column.name negated (vs.map (parameter column))).truth i.atom =
      Interpretation.signed negated (.any (vs.map (i.compare .equal (i.cell column.name)))) := by
  rw [Condition.truth, Interpretation.atom, parameters_sent]
  rfl

theorem compareConstant_eq_ok {target : Predicate} {c : Comparison} {operator : Operator}
    {v : Value} {condition : Condition}
    (h : target.compareConstant resolve c operator v = .ok condition) :
    ∃ column, target.column resolve = .ok column ∧
      (v.isNull = true ∧ c = .equal ∧ condition = .isNull column.name ∨
        v.isNull = true ∧ c = .notEqual ∧ condition = .isNotNull column.name ∨
        v.isNull = false ∧
          condition = .basic column.name operator ([v].map (parameter column))) := by
  obtain ⟨column, hcolumn, h⟩ := ok_of_bind h
  refine ⟨column, hcolumn, ?_⟩
  cases hv : v.isNull with
  | false =>
    simp only [hv] at h
    exact .inr (.inr ⟨rfl, (Except.ok.inj h).symm⟩)
  | true =>
    simp only [hv, if_true] at h
    cases c with
    | equal => exact .inl ⟨rfl, rfl, (Except.ok.inj h).symm⟩
    | notEqual => exact .inr (.inl ⟨rfl, rfl, (Except.ok.inj h).symm⟩)
    | _ => exact absurd h refusal_ne_ok

theorem comparison?_eq {left right : Predicate} {x y : Value}
    (hx : left.operand? resolve i = some x) (hy : right.operand? resolve i = some y)
    (c : Comparison) :
    comparison? resolve i left c right =
      some (compared i x y c left.isNullConstant right.isNullConstant) := by
  simp [comparison?, hx, hy]

theorem compared_false (x y : Value) (c : Comparison) :
    compared i x y c false false = i.compare c x y := by
  cases c <;> rfl

theorem comparison?_member_constant {entity property : String} {c : Comparison} {v : Value}
    {condition : Condition}
    (h : (member entity property).compareConstant resolve c c.operator v = .ok condition) :
    comparison? resolve i (member entity property) c (constant v) =
      some (condition.truth i.atom) := by
  obtain ⟨column, hcolumn, cases⟩ := compareConstant_eq_ok h
  simp only [comparison?_eq (operand?_of_column hcolumn) (operand?_constant v), isNullConstant]
  rcases cases with ⟨hv, rfl, rfl⟩ | ⟨hv, rfl, rfl⟩ | ⟨hv, rfl⟩
  · rw [hv]
    rfl
  · rw [hv]
    rfl
  · rw [hv, compared_false, basic_truth, i.test_operator]

/-- With the constant on the left the operator is the swapped one. -/
theorem comparison?_constant_member {entity property : String} {c : Comparison} {v : Value}
    {condition : Condition}
    (h : (member entity property).compareConstant resolve c c.operator.swapped v =
      .ok condition) :
    comparison? resolve i (constant v) c (member entity property) =
      some (condition.truth i.atom) := by
  obtain ⟨column, hcolumn, cases⟩ := compareConstant_eq_ok h
  simp only [comparison?_eq (operand?_constant v) (operand?_of_column hcolumn), isNullConstant]
  rcases cases with ⟨hv, rfl, rfl⟩ | ⟨hv, rfl, rfl⟩ | ⟨hv, rfl⟩
  · rw [hv]
    rfl
  · rw [hv]
    rfl
  · rw [hv, compared_false, basic_truth, i.test_swapped]

theorem comparison?_member_member {e e' q q' : String} {c : Comparison} {condition : Condition}
    (h : compareOperands resolve (member e q) c (member e' q') = .ok condition) :
    comparison? resolve i (member e q) c (member e' q') = some (condition.truth i.atom) := by
  obtain ⟨left, hleft, h⟩ := ok_of_bind h
  obtain ⟨right, hright, h⟩ := ok_of_bind h
  rw [Condition.compareColumns, if_neg (by simp)] at h
  obtain rfl := Except.ok.inj h
  simp only [comparison?_eq (operand?_of_column hleft) (operand?_of_column hright),
    isNullConstant, compared_false, ← i.test_operator]
  rfl

theorem compareOperands_truth {left right : Predicate} {c : Comparison} {condition : Condition}
    (h : compareOperands resolve left c right = .ok condition) :
    comparison? resolve i left c right = some (condition.truth i.atom) := by
  cases left with
  | member entity property =>
    cases right with
    | member entity' property' => exact comparison?_member_member h
    | constant v => exact comparison?_member_constant h
    | _ => exact absurd h refusal_ne_ok
  | constant v =>
    cases right with
    | member entity property => exact comparison?_constant_member h
    | _ => exact absurd h refusal_ne_ok
  | _ => exact absurd h refusal_ne_ok

theorem membership?_of_operands {x : Value} {arguments : List Predicate} {ys : List Value}
    (h : arguments.mapM (operand? resolve i) = some ys) :
    membership? resolve i x arguments = some (.any (ys.map (i.compare .equal x))) := by
  unfold membership?
  split
  · exact nomatch h
  · exact nomatch h
  · rw [h]
    rfl

theorem membershipCondition_truth {column : Column} {m : Method} {negated : Bool}
    {arguments : List Predicate} {condition : Condition}
    (h : membershipCondition column m negated arguments = .ok condition) :
    (membership? resolve i (i.cell column.name) arguments).map (Interpretation.signed negated) =
      some (condition.truth i.atom) := by
  unfold membershipCondition at h
  split at h
  · obtain rfl := Except.ok.inj h
    rfl
  · obtain rfl := Except.ok.inj h
    exact congrArg some (inValues_truth i column negated _).symm
  · obtain ⟨vs, hvs, h⟩ := ok_of_bind h
    obtain rfl := Except.ok.inj h
    rw [membership?_of_operands (operands_of_constantArguments hvs)]
    exact congrArg some (inValues_truth i column negated vs).symm

/-- The low end is compared with the column, and the condition compares the
column with it. -/
theorem rangeCondition_truth {column : Column} {m : Method} (negated : Bool)
    {arguments : List Predicate} {condition : Condition}
    (h : rangeCondition column m (if negated then .notBetween else .between) arguments =
      .ok condition) :
    (range? resolve i (i.cell column.name) arguments).map (Interpretation.signed negated) =
      some (condition.truth i.atom) := by
  unfold rangeCondition at h
  split at h
  · rename_i low high
    obtain ⟨l, hl, h⟩ := ok_of_bind h
    obtain ⟨u, hu, h⟩ := ok_of_bind h
    obtain rfl : Condition.basic column.name (if negated then .notBetween else .between)
      ([l, u].map (parameter column)) = condition := Except.ok.inj h
    have meaning : range? resolve i (i.cell column.name) [low, high] =
        some ((i.compare .lessOrEqual l (i.cell column.name)).and
          (i.compare .lessOrEqual (i.cell column.name) u)) := by
      simp [range?, operand?_of_constantArgument hl, operand?_of_constantArgument hu]
    rw [meaning, basic_truth, i.compare_mirrored .lessOrEqual l]
    cases negated <;> rfl
  · exact absurd h refusal_ne_ok

theorem likeCondition_truth {column : Column} {m : Method} (mode : LikeMatch) {negated : Bool}
    {arguments : List Predicate} {condition : Condition}
    (h : likeCondition column m mode negated arguments = .ok condition) :
    (matching? resolve i mode.apply (i.cell column.name) arguments).map
      (Interpretation.signed negated) = some (condition.truth i.atom) := by
  unfold likeCondition at h
  split at h
  · obtain ⟨v, hv, h⟩ := ok_of_bind h
    cases v with
    | text s =>
      obtain rfl : Condition.basic column.name (if negated then .notLike else .like)
        ([.text (mode.apply s)].map (parameter column)) = condition := Except.ok.inj h
      rw [matching?, operand?_of_constantArgument hv, basic_truth]
      cases negated <;> rfl
    | _ => exact absurd h refusal_ne_ok
  · exact absurd h refusal_ne_ok

theorem nullTestCondition_truth {column : Column} {m : Method} (negated : Bool)
    {arguments : List Predicate} {condition : Condition}
    (h : nullTestCondition m (if negated then .isNotNull column.name else .isNull column.name)
      arguments = .ok condition) :
    (nullTest? (i.cell column.name) arguments).map (Interpretation.signed negated) =
      some (condition.truth i.atom) := by
  unfold nullTestCondition at h
  split at h
  · obtain rfl := Except.ok.inj h
    cases negated with
    | false => rfl
    | true => exact congrArg some (Truth.not_ofBool (i.cell column.name).isNull)
  · exact absurd h refusal_ne_ok

theorem callCondition_truth {column : Column} {m : Method} {arguments : List Predicate}
    {condition : Condition} (h : callCondition column m arguments = .ok condition) :
    call? resolve i (i.cell column.name) arguments m = some (condition.truth i.atom) := by
  have plain (t : Option Truth) : t = t.map (Interpretation.signed false) := by cases t <;> rfl
  cases m with
  | isIn => exact (plain _).trans (membershipCondition_truth h)
  | notIn => exact membershipCondition_truth h
  | between => exact (plain _).trans (rangeCondition_truth false h)
  | notBetween => exact rangeCondition_truth true h
  | like => exact (plain _).trans (likeCondition_truth .exact h)
  | notLike => exact likeCondition_truth .exact h
  | likeAll => exact (plain _).trans (likeCondition_truth .contains h)
  | notLikeAll => exact likeCondition_truth .contains h
  | likeStartWith => exact (plain _).trans (likeCondition_truth .startsWith h)
  | notLikeStartWith => exact likeCondition_truth .startsWith h
  | likeEndWith => exact (plain _).trans (likeCondition_truth .endsWith h)
  | notLikeEndWith => exact likeCondition_truth .endsWith h
  | isNull => exact (plain _).trans (nullTestCondition_truth false h)
  | isNotNull => exact nullTestCondition_truth true h

/-- The condition of a predicate is as true as the predicate, by induction along it. -/
theorem toCondition_truth (resolve : Resolver) (i : Interpretation) :
    ∀ (p : Predicate) (c : Condition), p.toCondition resolve = .ok c →
      p.truth? resolve i = some (c.truth i.atom)
  | compare _ _ _, _, h => compareOperands_truth h
  | and left right, _, h => by
    obtain ⟨l, hl, h⟩ := ok_of_bind h
    obtain ⟨r, hr, h⟩ := ok_of_bind h
    obtain rfl := Except.ok.inj h
    have joined := Condition.truth_combine i.atom .and l r
    rw [truth?, toCondition_truth resolve i left l hl, toCondition_truth resolve i right r hr]
    exact congrArg some joined.symm
  | or left right, _, h => by
    obtain ⟨l, hl, h⟩ := ok_of_bind h
    obtain ⟨r, hr, h⟩ := ok_of_bind h
    obtain rfl := Except.ok.inj h
    have joined := Condition.truth_combine i.atom .or l r
    rw [truth?, toCondition_truth resolve i left l hl, toCondition_truth resolve i right r hr]
    exact congrArg some joined.symm
  | not inner, _, h => by
    obtain ⟨c, hc, h⟩ := ok_of_map h
    obtain rfl := h
    rw [truth?, toCondition_truth resolve i inner c hc]
    rfl
  | call m target arguments, _, h => by
    obtain ⟨column, hcolumn, h⟩ := ok_of_bind h
    rw [truth?, operand?_of_column hcolumn]
    exact callCondition_truth h
  | member entity property, _, h => by
    obtain ⟨column, hcolumn, h⟩ := ok_of_map h
    obtain rfl := h
    have resolved : (member entity property).column resolve = .ok column := hcolumn
    rw [truth?, operand?_of_column resolved]
    exact congrArg some (basic_truth i column .equal [.boolean true]).symm
  | constant _, _, h => absurd h refusal_ne_ok
  | values _, _, h => absurd h refusal_ne_ok
  | query _, _, h => absurd h refusal_ne_ok

end ParamSql.Predicate

namespace ParamSql

def Comparison.accepts : Comparison → Ordering → Bool
  | equal, o => o.isEq
  | notEqual, o => o.isNe
  | greater, o => o.isGT
  | less, o => o.isLT
  | greaterOrEqual, o => o.isGE
  | lessOrEqual, o => o.isLE

theorem Comparison.accepts_mirrored (c : Comparison) (o : Ordering) :
    c.mirrored.accepts o.swap = c.accepts o := by
  cases c <;> cases o <;> rfl

def Interpretation.ofIntegers (cell : String → Value) : Interpretation where
  cell
  expression _ := .null
  compare c
    | .integer m, .integer n => .ofBool (c.accepts (Ord.compare m.toInt n.toInt))
    | _, _ => .unknown
  compare_mirrored c x y := by
    cases x with
    | integer m =>
      cases y with
      | integer n =>
        have swapped : Ord.compare n.toInt m.toInt = (Ord.compare m.toInt n.toInt).swap :=
          Std.OrientedOrd.eq_swap
        simp only [swapped, c.accepts_mirrored]
      | _ => rfl
    | _ => cases y <;> rfl
  like _ _ := .unknown
  contains _ _ := .unknown

/-- A constant on the left, a null written down, a range that ends in null and
a membership that a null leaves open, at a row without a name. -/
theorem Predicate.toCondition_truth_unknown :
    let resolve : Resolver := fun _ property => .ok { name := property }
    let row := Interpretation.ofIntegers fun column =>
      if column = "age" then .integer 21 else .null
    let age := member "user" "age"
    let name := member "user" "name"
    let p := Predicate.or
      (.not (.and (.compare (.constant (.integer 18)) .less age)
        (.compare (.constant .null) .equal name)))
      (.and (.call .between age [.constant (.integer 3), .constant .null])
        (.or (.call .isIn age [.constant .null, .constant (.integer 4)])
          (.compare name .notEqual age)))
    ∃ c, p.toCondition resolve = .ok c ∧ p.truth? resolve row = some .unknown ∧
      c.truth row.atom = .unknown := by
  intro resolve row age name p
  have translated : ∃ c, p.toCondition resolve = .ok c := ⟨_, rfl⟩
  obtain ⟨c, hc⟩ := translated
  have meaning : p.truth? resolve row = some .unknown := by decide
  have kept := toCondition_truth resolve row p c hc
  exact ⟨c, hc, meaning, Option.some.inj (kept.symm.trans meaning)⟩

end ParamSql
