import ParamSql.Statement.Assignment
import ParamSql.Statement.Command

/-!
# Insertions
-/

namespace ParamSql

structure Insert where
  dialect : Dialect
  table : String
  assignments : List Assignment := []

/-- Some assignment has to be there before anything is rendered. -/
def requireAssignments (assignments : List Assignment) (d : Document) : Document :=
  match assignments with
  | [] => Document.failing (.missingArgument .assignments)
  | _ :: _ => d

namespace Insert

def assign (i : Insert) (a : Assignment) : Insert :=
  { i with assignments := Assignment.assign i.assignments a }

def set (i : Insert) (column : String) (v : Value) : Insert := i.assign (.ofValue column v)

def setTyped (i : Insert) (column : String) (v : Value) (type : StorageType) : Insert :=
  i.assign (.ofTypedValue column v type)

def setExpression (i : Insert) (column sql : String) : Except Error Insert :=
  (Assignment.ofExpression column sql).map i.assign

def setQuery (i : Insert) (column : String) (inner : Select) : Insert :=
  i.assign (.query column inner)

/-- Insert every mapped property of an entity. -/
def setEntity [TimestampText] (i : Insert) (m : EntityMapping)
    (entity : Except String Serialized) : Except Error Insert :=
  (Assignment.ofEntity m entity).map fun more =>
    { i with assignments := Assignment.assignAll i.assignments more }

open Document in
/-- `INSERT INTO table ( columns ) VALUES ( values )` -/
def document (i : Insert) : Document :=
  requireAssignments i.assignments <|
    keyword .INSERT ++ clause .INTO ++ identifier i.table ++ space ++
      parenthesized (space ++
        separatedBy comma (i.assignments.map fun a => identifier a.column) ++ space) ++
      clause .VALUES ++
      parenthesized (space ++
        separatedBy comma (i.assignments.map fun a => a.document i.dialect) ++ space)

def command (i : Insert) : Except Error Command :=
  Command.ofDocument .insert i.dialect i.document

end Insert

/-- The command that fetches the identity generated last. -/
def Dialect.identityCommand (d : Dialect) : Except Error Command :=
  d.identityQuery.map fun text => { kind := .select, text, parameters := [] }

end ParamSql
