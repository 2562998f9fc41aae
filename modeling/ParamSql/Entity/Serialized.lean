import ParamSql.Entity.Mapping
import ParamSql.Value.Conversion

/-!
# Serialized entities

The data an entity serializes to, and the values its properties bind as. The
storage type that a column pins decides how texts and lists are read.
-/

namespace ParamSql

inductive Serialized
  | null
  | boolean (b : Bool)
  | integer (n : Int)
  | float (x : Binary64)
  | text (s : String)
  | list (items : List Serialized)
  | object (properties : List (String × Serialized))

namespace Serialized

/-- An item of a list of bytes. -/
def byte? : Serialized → Option UInt8
  | integer n => if 0 ≤ n ∧ n < 256 then some (UInt8.ofNat n.toNat) else none
  | _ => none

/-- Whether a column of this type holds timestamps. -/
def isTemporal : StorageType → Bool
  | .date | .dateTime => true
  | _ => false

/-- Integers past 64 bits become the nearest float. -/
def integerValue (n : Int) : Value :=
  if -9223372036854775808 ≤ n ∧ n ≤ 9223372036854775807 then .integer (Int64.ofInt n)
  else .float (Binary64.ofInt n)

/-- A text for a column: a timestamp where the column holds those, and where
the column pins nothing and the text is a serialized timestamp. -/
def textValue [TimestampText] (column s : String) : Option StorageType → Except Error Value
  | none => .ok (match Timestamp.readSerialized? s with
    | some t => .timestamp t
    | none => .text s)
  | some type =>
    if isTemporal type then
      match Timestamp.read? s with
      | some t => .ok (.timestamp t)
      | none => .error (.unsupportedValue column .notTimestamp)
    else .ok (.text s)

/-- The value a property binds as in a column. -/
def toValue [TimestampText] (column : String) (type : Option StorageType) :
    Serialized → Except Error Value
  | null => .ok .null
  | boolean b => .ok (.boolean b)
  | integer n => .ok (integerValue n)
  | float x => .ok (.float x)
  | text s => textValue column s type
  | list items =>
    if type = some .binary then
      match items.mapM byte? with
      | some bs => .ok (.bytes bs)
      | none => .error (.unsupportedValue column .notByteArray)
    else .error (.unsupportedValue column .list)
  | object _ => .error (.unsupportedValue column .object)

/-- The properties of an entity, which must be an object. -/
def properties (m : EntityMapping) : Serialized → Except Error (List (String × Serialized))
  | object properties => .ok properties
  | _ => .error (.unsupportedValue m.entity .notObject)

end Serialized

end ParamSql
