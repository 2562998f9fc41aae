/-!
# Dialects

The six dialects of SQL and the small facts in which they differ: their
names, the mark in front of a placeholder, how a table is given another name,
and how they cut a page out of a result.
-/

namespace ParamSql

inductive Dialect
  | access
  | sqlServer
  | mySql
  | sqlite
  | postgres
  | oracle
deriving DecidableEq, Repr

/-- How a dialect pages through a result. -/
inductive PagingStrategy
  /-- Any page in one query by an offset. -/
  | offsetNative
  /-- The first rows natively, deeper pages by numbering the rows. -/
  | topNative
  /-- Every page by numbering the rows. -/
  | rowNumber
  /-- Deeper pages need the number of all rows first. -/
  | countDependent
deriving DecidableEq, Repr

namespace Dialect

/-- The dialect assumed where nothing says otherwise. -/
instance : Inhabited Dialect := ⟨sqlServer⟩

def all : List Dialect := [access, sqlServer, mySql, sqlite, postgres, oracle]

theorem mem_all (d : Dialect) : d ∈ all := by cases d <;> decide

def name : Dialect → String
  | access => "access"
  | sqlServer => "sqlserver"
  | mySql => "mysql"
  | sqlite => "sqlite"
  | postgres => "postgres"
  | oracle => "oracle"

def placeholderMark : Dialect → String
  | oracle => ":"
  | _ => "@"

def pagingStrategy : Dialect → PagingStrategy
  | access => .countDependent
  | sqlServer => .topNative
  | oracle => .rowNumber
  | mySql | sqlite | postgres => .offsetNative

/-- Whether a page past the first needs the number of all rows. -/
def needsRecordCount (d : Dialect) : Bool := d.pagingStrategy == .countDependent

/-- Whether the new name of a table may follow the word AS. -/
def namesTablesWithAs : Dialect → Bool
  | oracle => false
  | _ => true

theorem needsRecordCount_iff (d : Dialect) : d.needsRecordCount = true ↔ d = access := by
  cases d <;> decide

end Dialect

end ParamSql
