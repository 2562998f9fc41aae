import ParamSql.Statement.Update

/-!
# Deletions
-/

namespace ParamSql

structure Delete where
  dialect : Dialect
  table : String
  filter : Option Condition := none

namespace Delete

def andWhere (d : Delete) (c : Option Condition) : Delete :=
  { d with filter := Condition.andOptional d.filter c }

def orWhere (d : Delete) (c : Option Condition) : Delete :=
  { d with filter := Condition.orOptional d.filter c }

def wherePredicate (d : Delete) (resolve : Resolver) (p : Predicate) : Except Error Delete :=
  (p.toCondition resolve).map fun c => d.andWhere (some c)

open Document in
/-- `DELETE FROM table[ WHERE filter]` -/
def document (d : Delete) : Document :=
  keyword .DELETE ++ clause .FROM ++ identifier d.table ++ filterClause d.dialect d.filter

def command (d : Delete) : Except Error Command :=
  Command.ofDocument .delete d.dialect d.document

end Delete

end ParamSql
