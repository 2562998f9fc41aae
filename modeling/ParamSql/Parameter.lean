import ParamSql.Value.Basic

/-!
# Parameters

A bound parameter becomes a placeholder in the text and an entry in the list
of parameters of a command; until then it may wait for a name. A raw parameter
is SQL text put in its place.
-/

namespace ParamSql

inductive Parameter
  | bound (column : String) (name : Option String) (value : Value) (storageType : StorageType)
  | raw (column sql : String) (storageType : StorageType)
deriving DecidableEq

namespace Parameter

/-- A parameter that is named where its statement is rendered. -/
def pending (column : String) (value : Value) : Parameter :=
  bound column none value value.storageType

def newValue (column : String) (value : Value) : Parameter :=
  bound column (some ("NEW_" ++ column)) value value.storageType

def oldValue (column : String) (value : Value) : Parameter :=
  bound column (some ("OLD_" ++ column)) value value.storageType

/-- SQL text in place of a value. -/
def sql (column text : String) : Parameter := raw column text .string

def withStorageType : Parameter → StorageType → Parameter
  | bound column name value _, type => bound column name value type
  | raw column sql _, type => raw column sql type

def column : Parameter → String
  | bound column .. => column
  | raw column .. => column

def name? : Parameter → Option String
  | bound _ name .. => name
  | raw .. => none

/-- The value to bind; of a raw parameter, its SQL as a text. -/
def value : Parameter → Value
  | bound _ _ value _ => value
  | raw _ sql _ => .text sql

def storageType : Parameter → StorageType
  | bound _ _ _ type => type
  | raw _ _ type => type

def isBound : Parameter → Bool
  | bound .. => true
  | raw .. => false

def sql? : Parameter → Option String
  | bound .. => none
  | raw _ sql _ => some sql

/-- Equality up to the name and the storage type. -/
def same (p q : Parameter) : Bool :=
  p.column == q.column && p.value.same q.value && p.isBound == q.isBound

@[simp] theorem same_withStorageType (p q : Parameter) (type : StorageType) :
    (p.withStorageType type).same q = p.same q := by
  cases p <;> rfl

end Parameter

end ParamSql
