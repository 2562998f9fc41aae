import ParamSql.Predicate.Meaning
import ParamSql.Select.Builder

/-!
# Filtering queries by predicates
-/

namespace ParamSql.Select

/-- Let only rows pass that also meet a predicate. -/
def wherePredicate (s : Select) (resolve : Resolver) (p : Predicate) : Except Error Select :=
  (p.toCondition resolve).map fun c => s.andWhere (some c)

end ParamSql.Select
