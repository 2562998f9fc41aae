/-!
# Operators of conditions

Comparison operators with their arity, their symbol and the operator that holds
with the operands changed, the two conjunctions, and where the wildcards of a
LIKE pattern go.
-/

namespace ParamSql

inductive Operator
  | isNull
  | isNotNull
  | equal
  | notEqual
  | greaterThan
  | lessThan
  | greaterThanOrEqual
  | lessThanOrEqual
  | like
  | notLike
  | between
  | notBetween
deriving DecidableEq, Repr

namespace Operator

def all : List Operator :=
  [isNull, isNotNull, equal, notEqual, greaterThan, lessThan, greaterThanOrEqual,
   lessThanOrEqual, like, notLike, between, notBetween]

theorem mem_all (op : Operator) : op ∈ all := by cases op <;> decide

def arity : Operator → Nat
  | isNull | isNotNull => 0
  | between | notBetween => 2
  | _ => 1

def symbol : Operator → String
  | isNull => "IS NULL"
  | isNotNull => "IS NOT NULL"
  | equal => "="
  | notEqual => "<>"
  | greaterThan => ">"
  | lessThan => "<"
  | greaterThanOrEqual => ">="
  | lessThanOrEqual => "<="
  | like => "LIKE"
  | notLike => "NOT LIKE"
  | between => "BETWEEN"
  | notBetween => "NOT BETWEEN"

/-- The operator that holds when the operands change places. -/
def swapped : Operator → Operator
  | greaterThan => lessThan
  | lessThan => greaterThan
  | greaterThanOrEqual => lessThanOrEqual
  | lessThanOrEqual => greaterThanOrEqual
  | op => op

@[simp] theorem swapped_swapped (op : Operator) : op.swapped.swapped = op := by
  cases op <;> rfl

@[simp] theorem arity_swapped (op : Operator) : op.swapped.arity = op.arity := by
  cases op <;> rfl

theorem arity_le_two (op : Operator) : op.arity ≤ 2 := by
  cases op <;> decide

end Operator

/-- How the members of a list of conditions are joined. -/
inductive Conjunction
  | and
  | or
deriving DecidableEq, Repr

/-- Where a LIKE pattern gets wildcards. -/
inductive LikeMatch
  | exact
  | contains
  | startsWith
  | endsWith
deriving DecidableEq, Repr

namespace LikeMatch

/-- The pattern with `%` on the sides that may continue. -/
def apply (mode : LikeMatch) (pattern : String) : String :=
  match mode with
  | exact => pattern
  | contains => "%" ++ pattern ++ "%"
  | startsWith => pattern ++ "%"
  | endsWith => "%" ++ pattern

end LikeMatch

end ParamSql
