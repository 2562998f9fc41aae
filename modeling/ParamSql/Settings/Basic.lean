import ParamSql.Dialect.Detection
import ParamSql.Settings.Expansion
import ParamSql.Toml.Basic

/-!
# Settings

Named connections, read from a settings text. The dialect of a connection is
the one it names, or else the one its connection string is found to be for.
-/

namespace ParamSql

structure Connection where
  dialectName : Option String := none
  /-- May hold references to environment variables. -/
  connectionString : String
deriving DecidableEq, Repr

namespace Connection

def resolvedString (c : Connection) (env : Environment) : Except SettingsError String :=
  env.expand c.connectionString

def dialect (c : Connection) (env : Environment) : Except Error Dialect :=
  match c.dialectName with
  | some name => Dialect.ofName name
  | none =>
    match c.resolvedString env with
    | .ok s => Dialect.detect s
    | .error e => .error (.settings e)

end Connection

structure Settings where
  connections : List (String × Connection) := []
deriving DecidableEq, Repr

namespace Settings

open Toml (Value)

def text? : Value → Option String
  | .text s => some s
  | _ => none

/-- Whether all of these can be read. -/
def areReadable [TomlReader] (entries : List (String × Value)) : Bool :=
  entries.all fun entry => TomlReader.isReadable entry.2

/-- A connection is a table with a connection string and perhaps the name of a
dialect, or a list of the two. What a list holds beyond these is not looked at,
while a table is read as a whole. -/
def connection? [TomlReader] : Value → Option Connection
  | .table entries => do
    guard (areReadable entries)
    let dialectName ← match entries.lookup "dialect" with
      | some v => (text? v).map some
      | none => some none
    let connectionString ← (entries.lookup "connection_string").bind text?
    some { dialectName, connectionString }
  | .list (dialectName :: connectionString :: _) => do
    let dialectName ← text? dialectName
    let connectionString ← text? connectionString
    some { dialectName, connectionString }
  | _ => none

def namedConnection? [TomlReader] (entry : String × Value) : Option (String × Connection) :=
  (connection? entry.2).map fun c => (entry.1, c)

/-- The connections of a settings tree, if it is made as settings are. All that
stands beside them is read and left aside. -/
def ofEntries? [TomlReader] (entries : List (String × Value)) : Option Settings :=
  if areReadable (entries.filter (·.1 ≠ "connections")) then
    match entries.lookup "connections" with
    | none => some {}
    | some (.table named) =>
      (named.mapM namedConnection?).map fun connections => { connections }
    | some _ => none
  else none

def ofText [TomlReader] (text : String) : Except SettingsError Settings :=
  match (TomlReader.read? text).bind ofEntries? with
  | some settings => .ok settings
  | none => .error .malformed

def connection (s : Settings) (name : String) : Except SettingsError Connection :=
  match s.connections.lookup name with
  | some c => .ok c
  | none => .error (.connectionNotFound name)

/-- The connection named `default`, or else the first by name. -/
def defaultConnection? (s : Settings) : Option (String × Connection) :=
  match s.connections.lookup "default" with
  | some c => some ("default", c)
  | none => s.connections.foldl (fun least entry =>
      match least with
      | some l => if entry.1 < l.1 then some entry else some l
      | none => some entry) none

end Settings

end ParamSql
