/-!
# Kinds of statements
-/

namespace ParamSql

inductive StatementKind
  | select
  | insert
  | update
  | delete
deriving DecidableEq, Repr

def StatementKind.keyword : StatementKind → String
  | select => "SELECT"
  | insert => "INSERT"
  | update => "UPDATE"
  | delete => "DELETE"

end ParamSql
