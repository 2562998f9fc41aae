import ParamSql.Condition.Operator

/-!
# Vocabulary of predicates

Comparisons, the methods that can be called on a member, and the kinds of
nodes a predicate is made of.
-/

namespace ParamSql

inductive Comparison
  | equal
  | notEqual
  | greater
  | less
  | greaterOrEqual
  | lessOrEqual
deriving DecidableEq, Repr

namespace Comparison

def symbol : Comparison → String
  | equal => "=="
  | notEqual => "!="
  | greater => ">"
  | less => "<"
  | greaterOrEqual => ">="
  | lessOrEqual => "<="

def operator : Comparison → Operator
  | equal => .equal
  | notEqual => .notEqual
  | greater => .greaterThan
  | less => .lessThan
  | greaterOrEqual => .greaterThanOrEqual
  | lessOrEqual => .lessThanOrEqual

@[simp] theorem arity_operator (c : Comparison) : c.operator.arity = 1 := by
  cases c <;> rfl

end Comparison

/-- Methods that test a member against arguments. -/
inductive Method
  | isIn
  | notIn
  | between
  | notBetween
  | like
  | notLike
  | likeAll
  | notLikeAll
  | likeStartWith
  | notLikeStartWith
  | likeEndWith
  | notLikeEndWith
  | isNull
  | isNotNull
deriving DecidableEq, Repr

namespace Method

def name : Method → String
  | isIn => "In"
  | notIn => "NotIn"
  | between => "Between"
  | notBetween => "NotBetween"
  | like => "Like"
  | notLike => "NotLike"
  | likeAll => "LikeAll"
  | notLikeAll => "NotLikeAll"
  | likeStartWith => "LikeStartWith"
  | notLikeStartWith => "NotLikeStartWith"
  | likeEndWith => "LikeEndWith"
  | notLikeEndWith => "NotLikeEndWith"
  | isNull => "IsNull"
  | isNotNull => "IsNotNull"

def all : List Method :=
  [isIn, notIn, between, notBetween, like, notLike, likeAll, notLikeAll, likeStartWith,
   notLikeStartWith, likeEndWith, notLikeEndWith, isNull, isNotNull]

theorem mem_all (m : Method) : m ∈ all := by cases m <;> decide

/-- The method of a name. -/
def ofName? (name : String) : Option Method := all.find? fun m => m.name == name

@[simp] theorem ofName?_name (m : Method) : ofName? m.name = some m := by
  cases m <;> decide

end Method

/-- What a node of a predicate is. -/
inductive NodeKind
  | comparison
  | conjunction
  | disjunction
  | negation
  | call
  | member
  | constant
  | valueList
  | query
deriving DecidableEq, Repr

def NodeKind.name : NodeKind → String
  | comparison => "comparison"
  | conjunction => "AND"
  | disjunction => "OR"
  | negation => "NOT"
  | call => "method call"
  | member => "member"
  | constant => "constant"
  | valueList => "value list"
  | query => "query"

end ParamSql
