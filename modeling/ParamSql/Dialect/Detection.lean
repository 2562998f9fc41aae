import ParamSql.Error
import ParamSql.Text.Pattern

/-!
# Finding the dialect

The dialect of a name, and a guess at the dialect behind a connection string:
the scheme of a URL decides if there is one, and otherwise the first dialect
one of whose marks occurs.
-/

namespace ParamSql.Dialect

def names : List (Dialect × List String) :=
  [(access, ["access", "msaccess", "jet"]),
   (sqlServer, ["sqlserver", "mssql", "tsql"]),
   (mySql, ["mysql", "mariadb"]),
   (sqlite, ["sqlite", "sqlite3"]),
   (postgres, ["postgres", "postgresql", "pgsql"]),
   (oracle, ["oracle"])]

/-- The dialect of a name, with blanks around it and letters in any case. -/
def ofName? (name : String) : Option Dialect :=
  let key := (Text.trimmed name.toList).map Char.toLower
  (names.find? fun (_, known) => known.any fun n => n.toList == key).map (·.1)

/-- The dialect of a name; an unknown name is reported as it was given. -/
def ofName (name : String) : Except Error Dialect :=
  match ofName? name with
  | some d => .ok d
  | none => .error (.dialectNotRecognized name)

@[simp] theorem ofName?_name (d : Dialect) : ofName? d.name = some d := by
  cases d <;> decide +kernel

def isAsciiLetter (c : Char) : Bool := c.isAlpha

def isSchemeCharacter (c : Char) : Bool :=
  c.isAlphanum || c == '+' || c == '.' || c == '-'

/-- The scheme of a URL, up to a `+` in it. -/
def scheme? (text : String) : Option String :=
  let body := Text.dropBlanks text.toList
  let scheme := body.takeWhile isSchemeCharacter
  let rest := body.dropWhile isSchemeCharacter
  if scheme.head?.any isAsciiLetter && [':', '/', '/'].isPrefixOf rest then
    some (String.ofList (scheme.takeWhile (· ≠ '+')))
  else none

section Marks

open Text Pattern

private def word (text : String) : Pattern := wordBoundary ++ literal text ++ wordBoundary

/-- A name, an equals sign and a value, with blanks between them. -/
private def setting (name value : String) : Pattern :=
  literal name ++ blanks ++ literal "=" ++ blanks ++ literal value

private def anyOf (first : String) (others : List String) : Pattern :=
  others.foldl (fun p text => choice p (literal text)) (literal first)

def accessMark : Pattern :=
  (literal "microsoft." ++ anyOf "jet" ["ace"] ++ literal ".oledb") <|>
  (literal "." ++ anyOf "mdb" ["accdb"] ++ wordBoundary) <|>
  literal "\x7bmicrosoft access driver"

def oracleMark : Pattern :=
  (literal "(description" ++ blanks ++ literal "=") <|> literal "oraoledb" <|> word "oracle"

def sqliteMark : Pattern :=
  (start ++ blanks ++ literal "sqlite:") <|>
  (literal "." ++ anyOf "db" ["sqlite", "sqlite3"] ++ blanks ++ anyOf ";" [""] ++ blanks ++
    finish) <|>
  (wordBoundary ++ setting "version" "3" ++ wordBoundary)

def mySqlMark : Pattern :=
  word "mysql" <|>
  (wordBoundary ++ literal "uid" ++ blanks ++ literal "=" ++ anything ++ wordBoundary ++
    setting "port" "3306" ++ wordBoundary)

def postgresMark : Pattern :=
  word "npgsql" <|>
  (wordBoundary ++ setting "port" "5432" ++ wordBoundary) <|>
  (wordBoundary ++ literal "postgres")

def sqlServerMark : Pattern :=
  (wordBoundary ++ anyOf "initial catalog" ["integrated security", "trusted_connection"] ++
    blanks ++ literal "=") <|>
  word "sqloledb" <|> word "sql server"

/-- The marks in the order in which they are looked for. -/
def marks : List (Dialect × Pattern) :=
  [(access, accessMark), (oracle, oracleMark), (sqlite, sqliteMark), (mySql, mySqlMark),
   (postgres, postgresMark), (sqlServer, sqlServerMark)]

end Marks

/-- The dialect that a connection string is for, as far as can be told. -/
def detect? (connectionString : String) : Option Dialect :=
  match scheme? connectionString with
  | some scheme => ofName? scheme
  | none => (marks.find? fun (_, mark) => mark.occursIn connectionString).map (·.1)

def detect (connectionString : String) : Except Error Dialect :=
  match detect? connectionString with
  | some d => .ok d
  | none => .error (.dialectNotRecognized connectionString)

end ParamSql.Dialect
