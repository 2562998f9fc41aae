import ParamSql.Aggregate
import ParamSql.Condition.Operator
import ParamSql.Dialect.Basic
import ParamSql.Parameter
import ParamSql.Query.Pagination

/-!
# Queries

A SELECT statement and all that it is made of: its source, fields, joins,
conditions, grouping and order. Each of these may hold further queries.
-/

namespace ParamSql

inductive Direction
  | ascending
  | descending
deriving DecidableEq, Repr

namespace Direction

def flipped : Direction → Direction
  | ascending => descending
  | descending => ascending

@[simp] theorem flipped_flipped (d : Direction) : d.flipped.flipped = d := by
  cases d <;> rfl

/-- The direction to sort in, the other one when everything is reversed. -/
def effective (d : Direction) (reversed : Bool) : Direction := if reversed then d.flipped else d

end Direction

inductive JoinKind
  | inner
  | left
  | right
  | full
deriving DecidableEq, Repr

/-- An entry of GROUP BY. -/
inductive GroupKey
  | column (table : Option String) (name : String)
  | expression (sql : String)
deriving DecidableEq, Repr

mutual

structure Select where
  dialect : Dialect
  source : Source
  sourceAlias : Option String := none
  fields : List Field := []
  distinct : Bool := false
  joins : List Join := []
  filter : Option Condition := none
  grouping : List GroupKey := []
  having : Option Condition := none
  order : List OrderKey := []
  pagination : Pagination := .unbounded
  /-- Number of the next joined query; starts again at zero past the last word. -/
  nextJoin : UInt32 := 0

/-- What a query reads from. -/
inductive Source
  | table (name : String)
  | query (inner : Select)

/-- What a field selects. -/
inductive FieldSource
  | column (table : Option String) (name : String)
  | all (table : Option String)
  | expression (sql : String)
  | query (inner : Select)

/-- An entry of the field list. -/
structure Field where
  source : FieldSource
  newName : Option String := none
  aggregate : Option Aggregate := none
  /-- Whether the aggregate looks at distinct values only. -/
  distinct : Bool := false

/-- An entry of ORDER BY. -/
structure OrderKey where
  field : Field
  direction : Direction

/-- The other side of a join; a query is numbered within its statement. -/
inductive JoinTarget
  | table (name : String)
  | query (inner : Select) (number : UInt32)

structure Join where
  kind : JoinKind
  currentTable : String
  currentField : String
  target : JoinTarget
  otherField : String

/-- A condition on the columns of a row. -/
inductive Condition
  | basic (column : String) (operator : Operator) (parameters : List Parameter)
  /-- Two columns compared with each other. -/
  | columns (left : String) (operator : Operator) (right : String)
  | inValues (column : String) (negated : Bool) (parameters : List Parameter)
  | inQuery (column : String) (negated : Bool) (query : Select)
  | not (inner : Condition)
  | list (conjunction : Conjunction) (members : List Condition)

end

end ParamSql
