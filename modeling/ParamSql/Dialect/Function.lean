import ParamSql.Error

/-!
# Scalar functions of the dialects

The text of scalar functions and of the query for a generated identity, and
the name an aggregate has in a dialect. Arguments are put in as they are.
-/

namespace ParamSql

/-- Parts of a date or time of day. -/
inductive DatePart
  | year
  | quarter
  | month
  | week
  | dayOfYear
  | day
  | weekday
  | hour
  | minute
  | second
deriving DecidableEq, Repr

namespace Dialect

/-- A function applied to texts of arguments. -/
private def call (function : String) (arguments : List String) : String :=
  function ++ "(" ++ String.intercalate "," arguments ++ ")"

def upper (d : Dialect) (expression : String) : String :=
  call (if d = access then "UCASE" else "UPPER") [expression]

def lower (d : Dialect) (expression : String) : String :=
  call (if d = access then "LCASE" else "LOWER") [expression]

def trimLeft (_ : Dialect) (expression : String) : String := call "LTRIM" [expression]

def trimRight (_ : Dialect) (expression : String) : String := call "RTRIM" [expression]

def trim (d : Dialect) (expression : String) : String :=
  if d = sqlServer then call "LTRIM" [call "RTRIM" [expression]] else call "TRIM" [expression]

def length (d : Dialect) (expression : String) : String :=
  match d with
  | access | sqlServer => call "LEN" [expression]
  | mySql => call "CHAR_LENGTH" [expression]
  | sqlite | postgres | oracle => call "LENGTH" [expression]

/-- `fallback` where the expression is null. -/
def ifNull (d : Dialect) (expression fallback : String) : String :=
  match d with
  | access => call "IIF" [call "ISNULL" [expression], fallback, expression]
  | sqlServer => call "ISNULL" [expression, fallback]
  | mySql | sqlite => call "IFNULL" [expression, fallback]
  | postgres => call "COALESCE" [expression, fallback]
  | oracle => call "NVL" [expression, fallback]

/-- `length` characters from the one-based position `start` on. -/
def substring (d : Dialect) (expression : String) (start length : UInt32) : String :=
  let function := match d with
    | access => "MID"
    | sqlite | oracle => "SUBSTR"
    | sqlServer | mySql | postgres => "SUBSTRING"
  call function [expression, toString start.toNat, toString length.toNat]

def round (_ : Dialect) (expression : String) (digits : UInt32) : String :=
  call "ROUND" [expression, toString digits.toNat]

def currentTimestamp : Dialect → String
  | access | mySql | postgres => "NOW()"
  | sqlServer => "GETDATE()"
  | sqlite => "DATETIME('now','localtime')"
  | oracle => "SYSDATE"

private def accessInterval : DatePart → String
  | .year => "yyyy"
  | .quarter => "q"
  | .month => "m"
  | .week => "ww"
  | .dayOfYear => "y"
  | .day => "d"
  | .weekday => "w"
  | .hour => "h"
  | .minute => "n"
  | .second => "s"

private def sqlServerInterval : DatePart → String
  | .year => "year"
  | .quarter => "quarter"
  | .month => "month"
  | .week => "week"
  | .dayOfYear => "dayofyear"
  | .day => "day"
  | .weekday => "weekday"
  | .hour => "hour"
  | .minute => "minute"
  | .second => "second"

private def mySqlFunction : DatePart → String
  | .year => "YEAR"
  | .quarter => "QUARTER"
  | .month => "MONTH"
  | .week => "WEEK"
  | .dayOfYear => "DAYOFYEAR"
  | .day => "DAY"
  | .weekday => "DAYOFWEEK"
  | .hour => "HOUR"
  | .minute => "MINUTE"
  | .second => "SECOND"

/-- The specifier of a part; the quarter has none. -/
private def sqliteSpecifier? : DatePart → Option String
  | .year => some "%Y"
  | .quarter => none
  | .month => some "%m"
  | .week => some "%W"
  | .dayOfYear => some "%j"
  | .day => some "%d"
  | .weekday => some "%w"
  | .hour => some "%H"
  | .minute => some "%M"
  | .second => some "%S"

private def postgresField : DatePart → String
  | .year => "year"
  | .quarter => "quarter"
  | .month => "month"
  | .week => "week"
  | .dayOfYear => "doy"
  | .day => "day"
  | .weekday => "dow"
  | .hour => "hour"
  | .minute => "minute"
  | .second => "second"

private def oracleFormat : DatePart → String
  | .year => "YYYY"
  | .quarter => "Q"
  | .month => "MM"
  | .week => "WW"
  | .dayOfYear => "DDD"
  | .day => "DD"
  | .weekday => "D"
  | .hour => "HH24"
  | .minute => "MI"
  | .second => "SS"

private def quoted (text : String) : String := "'" ++ text ++ "'"

def datePart (d : Dialect) (expression : String) (part : DatePart) : String :=
  match d with
  | access => call "DATEPART" [quoted (accessInterval part), expression]
  | sqlServer => call "DATEPART" [sqlServerInterval part, expression]
  | mySql => call (mySqlFunction part) [expression]
  | sqlite =>
    let number (specifier : String) :=
      call "CAST" [call "STRFTIME" [quoted specifier, expression] ++ " AS INTEGER"]
    match sqliteSpecifier? part with
    | some specifier => number specifier
    | none => "((" ++ number "%m" ++ "+2)/3)"
  | postgres => call "DATE_PART" [quoted (postgresField part), expression]
  | oracle => call "TO_NUMBER" [call "TO_CHAR" [expression, quoted (oracleFormat part)]]

/-- Query for the identity generated by the last insertion. -/
def identityQuery : Dialect → Except Error String
  | access => .ok "SELECT @@IDENTITY"
  | sqlServer => .ok "SELECT SCOPE_IDENTITY()"
  | mySql => .ok "SELECT LAST_INSERT_ID()"
  | sqlite => .ok "SELECT LAST_INSERT_ROWID()"
  | postgres => .ok "SELECT LASTVAL()"
  | oracle => .error (.unsupported oracle .identity)

def commonAggregate (d : Dialect) (a : Aggregate) : Except Error String :=
  if a.isCommon then .ok a.name else .error (.unsupported d (.aggregate a))

/-- Statistics under their standard names, and the common aggregates. -/
def standardAggregate (d : Dialect) (a : Aggregate) : Except Error String :=
  match a.standardStatistic? with
  | some name => .ok name
  | none => d.commonAggregate a

def aggregateName (d : Dialect) (a : Aggregate) : Except Error String :=
  match d, a with
  | access, a => .ok a.name
  | sqlServer, .stDev | sqlServer, .stDevP | sqlServer, .var | sqlServer, .varP => .ok a.name
  | sqlServer, a => sqlServer.commonAggregate a
  | mySql, a => mySql.standardAggregate a
  | postgres, a => postgres.standardAggregate a
  | sqlite, a => sqlite.commonAggregate a
  | oracle, .stDev => .ok "STDDEV"
  | oracle, .stDevP => .ok "STDDEV_POP"
  | oracle, .var => .ok "VARIANCE"
  | oracle, .varP => .ok "VAR_POP"
  | oracle, a => oracle.commonAggregate a

end Dialect

end ParamSql
