/-!
# Tables of code points

A class of characters is a sorted list of inclusive ranges of code points.
-/

namespace ParamSql.Text

/-- Membership in a table sorted by its lower ends; the search stops at the
first range that starts past `n`. -/
def covers : List (Nat × Nat) → Nat → Bool
  | [], _ => false
  | (low, high) :: rest, n => low ≤ n && (n ≤ high || covers rest n)

end ParamSql.Text
