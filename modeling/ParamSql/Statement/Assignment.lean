import ParamSql.Entity.Serialized
import ParamSql.KeyedList
import ParamSql.Rendering.Query

/-!
# Assignments

Values given to columns by an insertion or an update. A list of assignments
holds one for each column, in the order in which the columns were first
assigned; a later assignment takes the place of an earlier one.
-/

namespace ParamSql

inductive Assignment
  | value (parameter : Parameter)
  | query (column : String) (inner : Select)

namespace Assignment

def column : Assignment → String
  | value parameter => parameter.column
  | query column _ => column

/-- A new value of a column. -/
def ofValue (column : String) (v : Value) : Assignment := value (.newValue column v)

def ofTypedValue (column : String) (v : Value) (type : StorageType) : Assignment :=
  value ((Parameter.newValue column v).withStorageType type)

/-- SQL text for a column, which must not be blank. -/
def ofExpression (column sql : String) : Except Error Assignment :=
  (requireExpression sql).map fun sql => value (.sql column sql)

/-- A column one more than it was. -/
def increment (column : String) : Assignment := value (.sql column (column ++ "+1"))

/-- A column one less than it was. -/
def decrement (column : String) : Assignment := value (.sql column (column ++ "-1"))

/-- Put an assignment in the place of one for the same column, or at the end. -/
def assign (assignments : List Assignment) (a : Assignment) : List Assignment :=
  replaceOrAppend column a assignments

def assignAll (assignments : List Assignment) (more : List Assignment) : List Assignment :=
  more.foldl assign assignments

/-- The assignment of a property present in an entity. -/
def ofProperty [TimestampText] (column : Column) (property : Serialized) :
    Except Error Assignment :=
  (property.toValue column.name column.storageType).map fun v =>
    match column.storageType with
    | some type => ofTypedValue column.name v type
    | none => ofValue column.name v

/-- Assignments for the mapped properties present in an object, in the order
of the mapping. -/
def ofProperties [TimestampText] (properties : List (String × Serialized)) :
    List (String × Column) → Except Error (List Assignment)
  | [] => .ok []
  | (name, column) :: rest => do
    match properties.lookup name with
    | none => ofProperties properties rest
    | some property =>
      let first ← ofProperty column property
      let others ← ofProperties properties rest
      .ok (first :: others)

/-- Assignments for an entity, which may have failed to serialize. -/
def ofEntity [TimestampText] (m : EntityMapping) (entity : Except String Serialized) :
    Except Error (List Assignment) :=
  match entity with
  | .error reason => .error (.serialization reason)
  | .ok data => (data.properties m).bind fun properties => ofProperties properties m.columns

/-- What stands for the assigned value. -/
def document (d : Dialect) : Assignment → Document
  | value parameter => [.hole parameter]
  | query _ inner => Document.parenthesized (inner.document d)

end Assignment

end ParamSql
