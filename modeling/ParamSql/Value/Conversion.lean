import ParamSql.Binary64.Reading
import ParamSql.Binary64.Shortest
import ParamSql.Error
import ParamSql.Text.Blank
import ParamSql.Timestamp.Text
import ParamSql.Value.Basic

/-!
# Conversions of values

What a value from a result is worth as an integer, a float, a text or a truth
value, and as a number of rows. Each conversion either gives an answer or names
the type it could not convert.
-/

namespace ParamSql.Value

private def refuse (expected : Target) (v : Value) : Except Error α :=
  .error (.conversion expected v.typeName)

/-- Whole numbers of 64 bits, nearest to a whole number outside their range. -/
def clampInt64 (n : Int) : Int64 :=
  Int64.ofInt (max (-9223372036854775808) (min 9223372036854775807 n))

/-- A whole number in range, read from text with blanks around it. -/
def integerOfText? (s : String) : Option Int64 :=
  ((readInt? (Text.trimmed s.toList)).filter fun n =>
    -9223372036854775808 ≤ n ∧ n ≤ 9223372036854775807).map Int64.ofInt

/-- Integers, truth values as 0 and 1, texts that spell an integer, and floats
without a fraction, which are clamped to 64 bits. -/
def toInteger : Value → Except Error Int64
  | integer n => .ok n
  | boolean b => .ok (if b then 1 else 0)
  | float x => match x.toInt? with
    | some n => .ok (clampInt64 n)
    | none => refuse .integer (float x)
  | text s => match integerOfText? s with
    | some n => .ok n
    | none => refuse .integer (text s)
  | v => refuse .integer v

/-- Floats, integers rounded to the nearest float, and texts that spell one. -/
def toFloat : Value → Except Error Binary64
  | float x => .ok x
  | integer n => .ok (Binary64.ofInt n.toInt)
  | text s => match Binary64.ofText? (Text.trimmed s.toList) with
    | some x => .ok x
    | none => refuse .float (text s)
  | v => refuse .float v

/-- Everything but null and bytes has a text. -/
def toText [TimestampText] : Value → Except Error String
  | text s => .ok s
  | integer n => .ok (toString n.toInt)
  | float x => .ok x.text
  | boolean b => .ok (if b then "true" else "false")
  | timestamp t => .ok (TimestampText.display t)
  | v => refuse .text v

def toBoolean : Value → Except Error Bool
  | boolean b => .ok b
  | integer n => .ok (n != 0)
  | v => refuse .boolean v

/-- A number of rows: an integer that is not negative. -/
def toCount (v : Value) : Except Error UInt64 := do
  let n ← v.toInteger
  if n < 0 then .error (.conversion .count "negative integer")
  else .ok n.toUInt64

end ParamSql.Value
