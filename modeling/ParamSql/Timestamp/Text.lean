import ParamSql.Timestamp.Basic

/-!
# Timestamps as text

A library writes timestamps and reads them in formats. Which formats a text is tried in, and in
which order, is decided here.
-/

namespace ParamSql

/-- How a library writes timestamps and reads them. -/
class TimestampText where
  /-- The text that a timestamp is serialized to. -/
  serialize : Timestamp → String
  /-- The text that a timestamp is displayed as. -/
  display : Timestamp → String
  /-- The timestamp that the whole of a text holds in a format. -/
  read? (format text : String) : Option Timestamp
  /-- The date that the whole of a text holds in a format, which may have a time of day too. -/
  readDate? (format text : String) : Option Calendar.Date

namespace Timestamp

/-- The layout that timestamps are serialized to. -/
def serializedFormat : String := "%Y-%m-%dT%H:%M:%S%.f"

def spacedFormat : String := "%Y-%m-%d %H:%M:%S%.f"

def dateFormat : String := "%Y-%m-%d"

variable [TimestampText]

def readSerialized? (text : String) : Option Timestamp := TimestampText.read? serializedFormat text

/-- A timestamp in the first format that a text is read in; where there is only a date, its
midnight. -/
def read? (text : String) : Option Timestamp :=
  [serializedFormat, spacedFormat, dateFormat].findSome? fun format =>
    TimestampText.read? format text <|> (TimestampText.readDate? format text).map midnight

end Timestamp

end ParamSql
