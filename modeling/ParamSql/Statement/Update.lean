import ParamSql.Predicate.Meaning
import ParamSql.Statement.Insert

/-!
# Updates
-/

namespace ParamSql

/-- ` WHERE filter`, or nothing without a filter. -/
def filterClause (d : Dialect) (filter : Option Condition) : Document :=
  Clauses.whereClause (filter.map (Condition.document d)) false

structure Update where
  dialect : Dialect
  table : String
  assignments : List Assignment := []
  filter : Option Condition := none

namespace Update

def assign (u : Update) (a : Assignment) : Update :=
  { u with assignments := Assignment.assign u.assignments a }

def set (u : Update) (column : String) (v : Value) : Update := u.assign (.ofValue column v)

def setTyped (u : Update) (column : String) (v : Value) (type : StorageType) : Update :=
  u.assign (.ofTypedValue column v type)

def setExpression (u : Update) (column sql : String) : Except Error Update :=
  (Assignment.ofExpression column sql).map u.assign

def setQuery (u : Update) (column : String) (inner : Select) : Update :=
  u.assign (.query column inner)

/-- Set every mapped property of an entity. -/
def setEntity [TimestampText] (u : Update) (m : EntityMapping)
    (entity : Except String Serialized) : Except Error Update :=
  (Assignment.ofEntity m entity).map fun more =>
    { u with assignments := Assignment.assignAll u.assignments more }

def increase (u : Update) (column : String) : Update := u.assign (.increment column)

def decrease (u : Update) (column : String) : Update := u.assign (.decrement column)

def andWhere (u : Update) (c : Option Condition) : Update :=
  { u with filter := Condition.andOptional u.filter c }

def orWhere (u : Update) (c : Option Condition) : Update :=
  { u with filter := Condition.orOptional u.filter c }

/-- Update only rows whose column still has the value it had. -/
def whereUnchanged (u : Update) (column : String) (v : Value) : Update :=
  u.andWhere (some (.basic column .equal [.oldValue column v]))

def wherePredicate (u : Update) (resolve : Resolver) (p : Predicate) : Except Error Update :=
  (p.toCondition resolve).map fun c => u.andWhere (some c)

open Document in
/-- `UPDATE table SET column=value,...[ WHERE filter]` -/
def document (u : Update) : Document :=
  requireAssignments u.assignments <|
    keyword .UPDATE ++ space ++ identifier u.table ++ clause .SET ++
      separatedBy comma (u.assignments.map fun a =>
        identifier a.column ++ .token (.mark .equal) :: a.document u.dialect) ++
      filterClause u.dialect u.filter

def command (u : Update) : Except Error Command :=
  Command.ofDocument .update u.dialect u.document

end Update

end ParamSql
