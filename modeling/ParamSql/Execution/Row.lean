import ParamSql.Text.Case
import ParamSql.Value.Basic

/-!
# Rows of a result
-/

namespace ParamSql

structure Row where
  columns : List String
  values : List Value
deriving DecidableEq

namespace Row

def ofPairs (pairs : List (String × Value)) : Row := ⟨pairs.map (·.1), pairs.map (·.2)⟩

/-- The value of the first column of a name, whatever the case of its letters. -/
def get? (r : Row) (column : String) : Option Value :=
  (r.columns.findIdx? (Text.sameIgnoringCase · column)).bind (r.values[·]?)

def at? (r : Row) (index : Nat) : Option Value := r.values[index]?

def length (r : Row) : Nat := r.values.length

def isEmpty (r : Row) : Bool := r.values.isEmpty

end Row

end ParamSql
