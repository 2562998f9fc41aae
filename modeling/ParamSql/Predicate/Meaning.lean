import ParamSql.Condition.Basic
import ParamSql.Entity.Mapping
import ParamSql.Predicate.Basic

/-!
# What predicates mean

A predicate becomes a condition once its members are resolved to columns. The
storage type that a column pins is the one its constants are sent as.
-/

namespace ParamSql.Predicate

private def refusal (fault : PredicateFault) : Except Error α :=
  .error (.unsupportedPredicate fault)

def parameter (column : Column) (v : Value) : Parameter :=
  match column.storageType with
  | some type => (Parameter.pending column.name v).withStorageType type
  | none => .pending column.name v

private def basic (column : Column) (operator : Operator) (vs : List Value) : Condition :=
  .basic column.name operator (vs.map (parameter column))

private def inside (column : Column) (negated : Bool) (vs : List Value) : Condition :=
  .inValues column.name negated (vs.map (parameter column))

/-- The column of a member. -/
def column (resolve : Resolver) : Predicate → Except Error Column
  | member entity property => resolve entity property
  | p => refusal (.notMember p.kind)

/-- The constant that an argument has to be. -/
def constantArgument (method : Method) : Predicate → Except Error Value
  | constant v => .ok v
  | p => refusal (.notConstant p.kind method)

/-- A member compared with a constant; null is tested for, not compared with. -/
def compareConstant (resolve : Resolver) (target : Predicate) (comparison : Comparison)
    (operator : Operator) (v : Value) : Except Error Condition := do
  let column ← target.column resolve
  if v.isNull then
    match comparison with
    | .equal => .ok (.isNull column.name)
    | .notEqual => .ok (.isNotNull column.name)
    | _ => refusal (.nullComparison comparison)
  else .ok (basic column operator [v])

/-- A comparison of a member with a member or a constant, on either side. -/
def compareOperands (resolve : Resolver) (left : Predicate) (comparison : Comparison)
    (right : Predicate) : Except Error Condition :=
  match left, right with
  | member .., constant v => left.compareConstant resolve comparison comparison.operator v
  | constant v, member .. =>
    right.compareConstant resolve comparison comparison.operator.swapped v
  | member .., member .. => do
    let l ← left.column resolve
    let r ← right.column resolve
    Condition.compareColumns l.name comparison.operator r.name
  | _, _ => refusal (.comparisonOperands comparison)

/-- Membership in a query, in a list of values, or in the arguments. -/
def membershipCondition (column : Column) (method : Method) (negated : Bool) :
    List Predicate → Except Error Condition
  | [query inner] => .ok (.inQuery column.name negated inner)
  | [values vs] => .ok (inside column negated vs)
  | arguments => do
    let vs ← arguments.mapM (constantArgument method)
    .ok (inside column negated vs)

def rangeCondition (column : Column) (method : Method) (operator : Operator) :
    List Predicate → Except Error Condition
  | [low, high] => do
    let l ← low.constantArgument method
    let h ← high.constantArgument method
    .ok (basic column operator [l, h])
  | arguments => refusal (.argumentCount method 2 arguments.length)

def likeCondition (column : Column) (method : Method) (mode : LikeMatch) (negated : Bool) :
    List Predicate → Except Error Condition
  | [pattern] => do
    match ← pattern.constantArgument method with
    | .text s =>
      .ok (basic column (if negated then .notLike else .like) [.text (mode.apply s)])
    | v => refusal (.patternNotText method v.typeName)
  | arguments => refusal (.argumentCount method 1 arguments.length)

def nullTestCondition (method : Method) (test : Condition) :
    List Predicate → Except Error Condition
  | [] => .ok test
  | arguments => refusal (.argumentCount method 0 arguments.length)

def callCondition (column : Column) (method : Method) (arguments : List Predicate) :
    Except Error Condition :=
  match method with
  | .isIn => membershipCondition column method false arguments
  | .notIn => membershipCondition column method true arguments
  | .between => rangeCondition column method .between arguments
  | .notBetween => rangeCondition column method .notBetween arguments
  | .like => likeCondition column method .exact false arguments
  | .notLike => likeCondition column method .exact true arguments
  | .likeAll => likeCondition column method .contains false arguments
  | .notLikeAll => likeCondition column method .contains true arguments
  | .likeStartWith => likeCondition column method .startsWith false arguments
  | .notLikeStartWith => likeCondition column method .startsWith true arguments
  | .likeEndWith => likeCondition column method .endsWith false arguments
  | .notLikeEndWith => likeCondition column method .endsWith true arguments
  | .isNull => nullTestCondition method (.isNull column.name) arguments
  | .isNotNull => nullTestCondition method (.isNotNull column.name) arguments

/-- The condition a predicate means. A member on its own has to be true. -/
def toCondition (resolve : Resolver) : Predicate → Except Error Condition
  | compare left comparison right => compareOperands resolve left comparison right
  | and left right => do
    let l ← toCondition resolve left
    let r ← toCondition resolve right
    .ok (l.and r)
  | or left right => do
    let l ← toCondition resolve left
    let r ← toCondition resolve right
    .ok (l.or r)
  | not inner => (toCondition resolve inner).map .not
  | call method target arguments =>
    (target.column resolve).bind fun column => callCondition column method arguments
  | member entity property =>
    (resolve entity property).map fun column => basic column .equal [.boolean true]
  | p@(constant _) | p@(values _) | p@(query _) => refusal (.notBoolean p.kind)

end ParamSql.Predicate
