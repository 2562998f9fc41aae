import ParamSql.Settings.Basic
import ParamSql.Settings.FileTree
import ParamSql.Toml.Reader

/-!
# Loading settings

Where settings are looked for: in the file that a variable names, in the
working directory, and in the configuration directory of the user. Without any
of these there are no connections. Here the texts get the reader of
`Toml.Reader`.
-/

namespace ParamSql.Settings

/-- The variable that names a settings file. -/
def fileVariable : String := "SQLSHAPE_CONFIG"

def localFile : String := "sqlshape.toml"

/-- The settings in a file. -/
def ofFile [TomlReader] (files : FileTree) (path : String) : Except SettingsError Settings :=
  match files.find? path with
  | none => .error (.fileNotFound path)
  | some .directory => .error .unreadable
  | some (.file content) =>
    match String.fromUTF8? ⟨content.toArray⟩ with
    | some text => ofText text
    | none => .error .unreadable

/-- The configuration directory of the user: the one named by a variable, if
that is an absolute path, or one in the home directory. -/
def userDirectory? (env : Environment) : Option String :=
  match (env "XDG_CONFIG_HOME").filter (·.startsWith "/") with
  | some directory => some directory
  | none => ((env "HOME").filter (· ≠ "")).map (· ++ "/.config")

def userFile? (env : Environment) : Option String :=
  (userDirectory? env).map (· ++ "/sqlshape/config.toml")

/-- The settings of the first file that is there. -/
def load [TomlReader] (files : FileTree) (env : Environment) : Except SettingsError Settings :=
  match env fileVariable with
  | some path => ofFile files path
  | none =>
    match [some localFile, userFile? env].filterMap id |>.find? (files.find? · |>.isSome) with
    | some path => ofFile files path
    | none => .ok {}

end ParamSql.Settings
