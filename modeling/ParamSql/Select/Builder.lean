import ParamSql.Condition.Basic
import ParamSql.Query.Field

/-!
# Building queries

Each function adds to a query. Numbers of rows and page numbers are checked
where they are given.
-/

namespace ParamSql.Select

def ofTable (d : Dialect) (table : String) : Select := { dialect := d, source := .table table }

def ofQuery (d : Dialect) (inner : Select) : Select := { dialect := d, source := .query inner }

/-- Give the source another name. -/
def named (s : Select) (name : String) : Select := { s with sourceAlias := some name }

/-- The name the source is known by: the one given to it, or that of its table. -/
def sourceName? (s : Select) : Option String :=
  match s.sourceAlias, s.source with
  | some name, _ => some name
  | none, .table name => some name
  | none, .query _ => none

def addFields (s : Select) (fields : List Field) : Select := { s with fields := s.fields ++ fields }

def addField (s : Select) (field : Field) : Select := s.addFields [field]

def addColumns (s : Select) (names : List String) : Select := s.addFields (names.map Field.column)

def addColumn (s : Select) (name : String) : Select := s.addField (.column name)

def onlyDistinct (s : Select) : Select := { s with distinct := true }

def addJoin (s : Select) (join : Join) : Select := { s with joins := s.joins ++ [join] }

/-- Join a table to a table named explicitly. -/
def joinFrom (s : Select) (kind : JoinKind)
    (currentTable currentField otherTable otherField : String) : Select :=
  s.addJoin { kind, currentTable, currentField, target := .table otherTable, otherField }

/-- Join a table to the source; a source without a name is left out. -/
def join (s : Select) (kind : JoinKind) (currentField otherTable otherField : String) : Select :=
  s.joinFrom kind (s.sourceName?.getD "") currentField otherTable otherField

/-- Join a query to the source, numbered within this statement. -/
def joinQuery (s : Select) (kind : JoinKind) (currentField : String) (inner : Select)
    (otherField : String) : Select :=
  { s with
    nextJoin := s.nextJoin + 1
    joins := s.joins ++ [{
      kind, currentTable := s.sourceName?.getD "", currentField
      target := .query inner s.nextJoin, otherField }] }

/-- Let only rows pass that also meet a condition, if there is one. -/
def andWhere (s : Select) (c : Option Condition) : Select :=
  { s with filter := Condition.andOptional s.filter c }

/-- Let rows pass that meet a condition instead, if there is one. -/
def orWhere (s : Select) (c : Option Condition) : Select :=
  { s with filter := Condition.orOptional s.filter c }

/-- Group by a key, unless the query already does. -/
def groupBy (s : Select) (key : GroupKey) : Select :=
  if key ∈ s.grouping then s else { s with grouping := s.grouping ++ [key] }

def andHaving (s : Select) (c : Option Condition) : Select :=
  { s with having := Condition.andOptional s.having c }

def orderBy (s : Select) (key : OrderKey) : Select := { s with order := s.order ++ [key] }

private def requireSize (size : UInt64) (p : Pagination) : Except Error Pagination :=
  if size = 0 then .error (.invalidPagination .emptySize) else .ok p

private def requirePage (size index : UInt64) (p : Pagination) : Except Error Pagination :=
  (requireSize size p).bind fun p =>
    if index = 0 then .error (.invalidPagination .zeroIndex) else .ok p

private def paged (s : Select) (p : Except Error Pagination) : Except Error Select :=
  p.map fun pagination => { s with pagination }

/-- The first rows. -/
def top (s : Select) (size : UInt64) : Except Error Select :=
  s.paged (requireSize size (.top size))

/-- Rows from `offset` on, counted from zero. -/
def limit (s : Select) (offset size : UInt64) : Except Error Select :=
  s.paged (requireSize size (.limit offset size))

/-- A page of rows, counted from one. -/
def page (s : Select) (size index : UInt64) : Except Error Select :=
  s.paged (requirePage size index (.page size index))

/-- A page of a result whose number of rows is known. -/
def pageWithCount (s : Select) (size index recordCount : UInt64) : Except Error Select :=
  s.paged (requirePage size index (.pageWithCount size index recordCount))

def unbounded (s : Select) : Select := { s with pagination := .unbounded }

end ParamSql.Select
