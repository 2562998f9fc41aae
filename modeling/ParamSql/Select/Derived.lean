import ParamSql.Rendering.Query
import ParamSql.Select.Builder
import ParamSql.Statement.Command

/-!
# Queries derived from a query

The number of rows of a query, extreme values of a column over it and its
first row, each as another query, and the commands of a query.
-/

namespace ParamSql.Select

/-- Name of a query whose rows are counted from outside. -/
def countSource : String := "COUNT_SRC"

/-- The query without order and pagination. -/
def unordered (s : Select) : Select := { s with order := [], pagination := .unbounded }

/-- The number of rows. Distinct and grouped rows are counted from outside. -/
def countQuery (s : Select) : Select :=
  if s.distinct ∨ s.grouping ≠ [] then
    ((ofQuery s.dialect s.unordered).named countSource).addField .countAll
  else { s.unordered with fields := [.countAll] }

/-- One field over the same source, joins and filters. -/
def aggregateQuery (s : Select) (field : Field) : Select :=
  { s.unordered with distinct := false, fields := [field] }

def maxQuery (s : Select) (column : String) : Select :=
  s.aggregateQuery (.aggregated .max column)

def minQuery (s : Select) (column : String) : Select :=
  s.aggregateQuery (.aggregated .min column)

/-- The same query up to its first row. -/
def firstRowQuery (s : Select) : Select := { s with pagination := .top 1 }

/-- The command of a query, in reverse order on demand. -/
def command (s : Select) (reversed : Bool) : Except Error Command :=
  Command.ofDocument .select s.dialect (s.rootDocument none reversed)

/-- The command of a query whose number of rows is known. -/
def commandWithCount (s : Select) (recordCount : UInt64) (reversed : Bool) :
    Except Error Command :=
  Command.ofDocument .select s.dialect (s.rootDocument (some recordCount) reversed)

end ParamSql.Select
