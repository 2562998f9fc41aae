import ParamSql.Condition.Basic
import ParamSql.Predicate.Vocabulary
import ParamSql.Proofs.Meaning.Truth

/-!
# Truth of conditions

What a database makes of a condition at a row. Comparisons, LIKE and membership
in a query are the database's own; the theory asks no more of them than that a
comparison may be read from either side.
-/

namespace ParamSql

def Comparison.mirrored : Comparison → Comparison
  | equal => equal
  | notEqual => notEqual
  | greater => less
  | less => greater
  | greaterOrEqual => lessOrEqual
  | lessOrEqual => greaterOrEqual

theorem Comparison.operator_mirrored (c : Comparison) :
    c.mirrored.operator = c.operator.swapped := by
  cases c <;> rfl

/-- A row and the way a database reads conditions at it. -/
structure Interpretation where
  /-- What a column holds; null where it holds nothing. -/
  cell : String → Value
  /-- What SQL text in place of a value stands for. -/
  expression : String → Value
  compare : Comparison → Value → Value → Truth
  compare_mirrored : ∀ c x y, compare c x y = compare c.mirrored y x
  /-- Whether a value matches a pattern. -/
  like : Value → Value → Truth
  /-- Whether a query has a value among its rows. -/
  contains : Select → Value → Truth

namespace Interpretation

variable (i : Interpretation)

def parameter : Parameter → Value
  | .bound _ _ value _ => value
  | .raw _ sql _ => i.expression sql

/-- A value tested by an operator with its operands; with another number of
operands than it takes, nothing is known. -/
def test (x : Value) : Operator → List Value → Truth
  | .isNull, [] => .ofBool x.isNull
  | .isNotNull, [] => .ofBool !x.isNull
  | .equal, [y] => i.compare .equal x y
  | .notEqual, [y] => i.compare .notEqual x y
  | .greaterThan, [y] => i.compare .greater x y
  | .lessThan, [y] => i.compare .less x y
  | .greaterThanOrEqual, [y] => i.compare .greaterOrEqual x y
  | .lessThanOrEqual, [y] => i.compare .lessOrEqual x y
  | .like, [pattern] => i.like x pattern
  | .notLike, [pattern] => (i.like x pattern).not
  | .between, [low, high] =>
    (i.compare .greaterOrEqual x low).and (i.compare .lessOrEqual x high)
  | .notBetween, [low, high] =>
    ((i.compare .greaterOrEqual x low).and (i.compare .lessOrEqual x high)).not
  | _, _ => .unknown

theorem test_operator (x y : Value) (c : Comparison) :
    i.test x c.operator [y] = i.compare c x y := by
  cases c <;> rfl

theorem test_swapped (x y : Value) (c : Comparison) :
    i.test x c.operator.swapped [y] = i.compare c y x := by
  rw [← c.operator_mirrored, i.test_operator, i.compare_mirrored c y x]

def equalsAny (x : Value) (ys : List Value) : Truth := .any (ys.map (i.compare .equal x))

/-- The truth of a test, or of its opposite. -/
def signed (negated : Bool) (t : Truth) : Truth := if negated then t.not else t

def atom : Condition → Truth
  | .basic column operator ps => i.test (i.cell column) operator (ps.map i.parameter)
  | .columns left operator right => i.test (i.cell left) operator [i.cell right]
  | .inValues column negated ps =>
    signed negated (i.equalsAny (i.cell column) (ps.map i.parameter))
  | .inQuery column negated q => signed negated (i.contains q (i.cell column))
  | .not _ | .list _ _ => .unknown

end Interpretation

namespace Condition

section

variable (atom : Condition → Truth)

mutual

/-- Truth of a condition, from that of the conditions that are not made of others. -/
def truth : Condition → Truth
  | .not c => (truth c).not
  | .list conjunction members => conjunction.joinAll (truths members)
  | .basic column operator ps => atom (.basic column operator ps)
  | .columns left operator right => atom (.columns left operator right)
  | .inValues column negated ps => atom (.inValues column negated ps)
  | .inQuery column negated q => atom (.inQuery column negated q)

def truths : List Condition → List Truth
  | [] => []
  | c :: cs => truth c :: truths cs

end

end

variable {atom : Condition → Truth}

theorem truths_append (as bs : List Condition) :
    truths atom (as ++ bs) = truths atom as ++ truths atom bs := by
  induction as with
  | nil => rfl
  | cons a as ih => simp only [List.cons_append, truths, ih]

/-- What a condition adds to a list says as much as the condition. -/
theorem joinAll_membersFor (j : Conjunction) (c : Condition) :
    j.joinAll (truths atom (c.membersFor j)) = truth atom c := by
  cases c with
  | list inner members =>
    by_cases h : inner = j
    · subst h
      simp only [membersFor, if_true, truth]
    · simp only [membersFor, h, if_false, truths, j.joinAll_singleton]
  | _ => exact j.joinAll_singleton _

variable (atom) in
/-- Joining conditions joins their truth, whatever lists are taken apart for it. -/
theorem truth_combine (j : Conjunction) (a b : Condition) :
    truth atom (combine j a b) = j.join (truth atom a) (truth atom b) := by
  calc truth atom (combine j a b)
    _ = j.joinAll (truths atom (a.membersFor j) ++ truths atom (b.membersFor j)) := by
      rw [combine, truth, truths_append]
    _ = j.join (truth atom a) (truth atom b) := by
      rw [j.joinAll_append, joinAll_membersFor, joinAll_membersFor]

end Condition

end ParamSql
