import ParamSql.Error
import ParamSql.Query.Basic
import ParamSql.Text.Blank

/-!
# Fields, sort keys and group keys

Constructors of the entries of the field list, of ORDER BY and of GROUP BY,
and the name under which a field is seen from outside its query.
-/

namespace ParamSql

/-- Text of an expression, which must not be blank. -/
def requireExpression (sql : String) : Except Error String :=
  if Text.isAllBlank sql then .error (.missingArgument .function) else .ok sql

/-- What follows the last dot of a name. -/
def lastSegment (name : String) : String :=
  String.ofList (name.toList.reverse.takeWhile (· ≠ '.')).reverse

namespace Field

def column (name : String) : Field := { source := .column none name }

def all : Field := { source := .all none }

def expression (sql : String) : Except Error Field :=
  (requireExpression sql).map fun sql => { source := .expression sql }

def ofQuery (inner : Select) : Field := { source := .query inner }

def withAggregate (f : Field) (a : Aggregate) : Field := { f with aggregate := some a }

/-- Qualify a column or a star with a table; other fields stay as they are. -/
def withTable (f : Field) (table : String) : Field :=
  match f.source with
  | .column _ name => { f with source := .column (some table) name }
  | .all _ => { f with source := .all (some table) }
  | .expression _ | .query _ => f

def withName (f : Field) (name : String) : Field := { f with newName := some name }

def distinctValues (f : Field) : Field := { f with distinct := true }

def countAll : Field := all.withAggregate .count

/-- An aggregate of a column. -/
def aggregated (a : Aggregate) (name : String) : Field := (column name).withAggregate a

/-- The name of a field outside its query: the name given to it, or the last
segment of a plain column. -/
def outputName? (f : Field) : Option String :=
  match f.newName, f.source, f.aggregate with
  | some name, _, _ => some name
  | none, .column _ name, none => some (lastSegment name)
  | none, _, _ => none

/-- Whether the field stands for all columns. -/
def isStar (f : Field) : Bool :=
  match f.source, f.aggregate with
  | .all _, none => true
  | _, _ => false

end Field

namespace OrderKey

def ascending (name : String) : OrderKey := ⟨.column name, .ascending⟩

def descending (name : String) : OrderKey := ⟨.column name, .descending⟩

def withTable (k : OrderKey) (table : String) : OrderKey :=
  { k with field := k.field.withTable table }

end OrderKey

namespace GroupKey

def ofColumn (name : String) : GroupKey := .column none name

def ofExpression (sql : String) : Except Error GroupKey :=
  (requireExpression sql).map .expression

end GroupKey

end ParamSql
