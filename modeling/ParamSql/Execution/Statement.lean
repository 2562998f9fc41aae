import ParamSql.Execution.Script
import ParamSql.Select.Derived
import ParamSql.Select.Filter
import ParamSql.Statement.Delete
import ParamSql.Value.Conversion

/-!
# Running statements

The scripts of the operations on statements. A page that needs the number of
all rows asks for it first. Retrieval is for queries alone.
-/

namespace ParamSql

open Script

namespace Select

/-- The number of rows of the query without its pagination. -/
def count (s : Select) : Script UInt64 := do
  let command ← ofExcept (s.countQuery.command false)
  let answer ← scalarOf command
  ofExcept answer.toCount

def convertedScalar (q : Select) (convert : Value → Except Error α) : Script (Option α) := do
  let command ← ofExcept (q.command false)
  let answer ← scalarOf command
  if answer.isNull then pure none
  else ofExcept ((convert answer).map some)

def max (s : Select) (convert : Value → Except Error α) (column : String) : Script (Option α) :=
  (s.maxQuery column).convertedScalar convert

def min (s : Select) (convert : Value → Except Error α) (column : String) : Script (Option α) :=
  (s.minQuery column).convertedScalar convert

def firstRow (s : Select) : Script (Option Row) := do
  let command ← ofExcept (s.firstRowQuery.command false)
  let rows ← rowsOf command
  pure rows.head?

/-- Whether the page cannot be rendered before the rows are counted. -/
def needsCount (s : Select) : Bool :=
  match s.pagination.window? with
  | some w => w.start != 0 && s.dialect.needsRecordCount && s.pagination.recordCount?.isNone
  | none => false

/-- The command of the page asked for. -/
def pageCommand (s : Select) : Script Command :=
  if s.needsCount then do
    let n ← s.count
    ofExcept (s.commandWithCount n false)
  else ofExcept (s.command false)

def queryRows (s : Select) : Script (List Row) := do
  let command ← s.pageCommand
  rowsOf command

def queryScalar (s : Select) : Script Value := do
  let command ← s.pageCommand
  scalarOf command

end Select

namespace Insert

/-- Run an insertion and fetch the identity it generated. Where no identity
can be fetched nothing is inserted. -/
def executeForIdentity (i : Insert) : Script Value := do
  let identity ← ofExcept i.dialect.identityCommand
  let command ← ofExcept i.command
  let _ ← affectedBy command
  scalarOf identity

end Insert

inductive Statement
  | select (s : Select)
  | insert (i : Insert)
  | update (u : Update)
  | delete (d : Delete)

namespace Statement

def kind : Statement → StatementKind
  | select _ => .select
  | insert _ => .insert
  | update _ => .update
  | delete _ => .delete

def dialect : Statement → Dialect
  | select s => s.dialect
  | insert i => i.dialect
  | update u => u.dialect
  | delete d => d.dialect

def command : Statement → Except Error Command
  | select s => s.command false
  | insert i => i.command
  | update u => u.command
  | delete d => d.command

/-- Run a statement for the number of rows it affects. -/
def execute (s : Statement) : Script UInt64 := do
  let command ← ofExcept s.command
  affectedBy command

private def notSupported (s : Statement) (retrieval : Retrieval) : Script α :=
  ofExcept (.error (.notSupportedFor s.kind retrieval))

def queryRows : Statement → Script (List Row)
  | select s => s.queryRows
  | s => s.notSupported .rows

def queryScalar : Statement → Script Value
  | select s => s.queryScalar
  | s => s.notSupported .scalar

def queryFirstRow : Statement → Script (Option Row)
  | select s => s.firstRow
  | s => s.notSupported .firstRow

end Statement

end ParamSql
