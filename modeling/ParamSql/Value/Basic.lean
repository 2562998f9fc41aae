import ParamSql.Binary64.Basic
import ParamSql.Timestamp.Basic

/-!
# Values

The values that parameters carry and that result rows hold, the storage type
inferred for each, and equality of values, under which NaN differs from itself.
-/

namespace ParamSql

/-- Column types a parameter can be sent as. -/
inductive StorageType
  | boolean
  | byte
  | int16
  | int32
  | int64
  | single
  | double
  | decimal
  | string
  | ansiString
  | date
  | dateTime
  | binary
  | guid
  | object
deriving DecidableEq, Repr, Inhabited

namespace StorageType

def all : List StorageType :=
  [boolean, byte, int16, int32, int64, single, double, decimal, string, ansiString, date,
   dateTime, binary, guid, object]

theorem mem_all (t : StorageType) : t ∈ all := by cases t <;> decide

end StorageType

inductive Value
  | null
  | boolean (b : Bool)
  | integer (n : Int64)
  | float (x : Binary64)
  | text (s : String)
  | timestamp (t : Timestamp)
  | bytes (bs : List UInt8)
deriving DecidableEq, Inhabited

namespace Value

/-- The storage type a value is sent as unless a column pins another. -/
def storageType : Value → StorageType
  | null => .object
  | boolean _ => .boolean
  | integer _ => .int64
  | float _ => .double
  | text _ => .string
  | timestamp _ => .dateTime
  | bytes _ => .binary

def typeName : Value → String
  | null => "null"
  | boolean _ => "bool"
  | integer _ => "int"
  | float _ => "float"
  | text _ => "string"
  | timestamp _ => "datetime"
  | bytes _ => "bytes"

def isNull : Value → Bool
  | null => true
  | _ => false

def text? : Value → Option String
  | text s => some s
  | _ => none

/-- Equality of values of one type; floats compare as numbers. -/
def same : Value → Value → Bool
  | float x, float y => x.sameNumber y
  | a, b => a == b

theorem same_of_isNaN {x : Binary64} (h : x.isNaN = true) : same (float x) (float x) = false := by
  simp [same, Binary64.sameNumber, h]

theorem typeName_eq_of_same {a b : Value} (h : same a b = true) : a.typeName = b.typeName := by
  unfold same at h
  split at h
  · rfl
  · rw [beq_iff_eq.1 h]

end Value

end ParamSql
