import ParamSql.Emission.Query
import ParamSql.Statement.Delete

/-!
# Emitting changes

Insertions, updates and deletions. What is assigned is rendered column by
column, and the filter of an update after all of it.
-/

namespace ParamSql

open Token

def Assignment.emit (d : Dialect) : Assignment → Emission (List Token)
  | value parameter => do return [← parameter.emit]
  | query _ inner => do return parenthesized (← inner.emit d)

/-- ` WHERE filter`, or nothing without a filter. -/
def emitFilter (d : Dialect) (filter : Option Condition) : Emission (List Token) :=
  Parts.clausePart .WHERE (emitOptional d filter)

/-- Some assignment has to be there before anything is rendered. -/
def emitAssignments (assignments : List Assignment) (statement : Emission (List Token)) :
    Emission (List Token) :=
  match assignments with
  | [] => throw (.missingArgument .assignments)
  | _ :: _ => statement

def Insert.emit (i : Insert) : Emission (List Token) := emitAssignments i.assignments do
  let values ← i.assignments.mapM (Assignment.emit i.dialect)
  return keyword .INSERT :: clause .INTO ++ [identifier i.table, space] ++
    parenthesized (space :: listed (i.assignments.map fun a => [identifier a.column]) ++ [space]) ++
    clause .VALUES ++ parenthesized (space :: listed values ++ [space])

def Update.emit (u : Update) : Emission (List Token) := emitAssignments u.assignments do
  let changes ← u.assignments.mapM fun a => do
    return [identifier a.column, mark .equal] ++ (← a.emit u.dialect)
  let filter ← emitFilter u.dialect u.filter
  return [keyword .UPDATE, space, identifier u.table] ++ clause .SET ++ listed changes ++ filter

def Delete.emit (x : Delete) : Emission (List Token) := do
  let filter ← emitFilter x.dialect x.filter
  return keyword .DELETE :: clause .FROM ++ [identifier x.table] ++ filter

end ParamSql
