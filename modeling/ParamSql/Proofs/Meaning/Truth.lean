import ParamSql.Condition.Operator

/-!
# Three truth values

What SQL knows of a condition at a row: that it holds, that it fails, or
nothing, as happens where a null is compared. The connectives are Kleene's: an
unknown part leaves the whole unknown unless the other parts settle it.
-/

namespace ParamSql

inductive Truth
  | holds
  | fails
  | unknown
deriving DecidableEq

namespace Truth

def ofBool (b : Bool) : Truth := if b then holds else fails

def not : Truth → Truth
  | holds => fails
  | fails => holds
  | unknown => unknown

def and : Truth → Truth → Truth
  | holds, t => t
  | fails, _ => fails
  | unknown, fails => fails
  | unknown, _ => unknown

def or : Truth → Truth → Truth
  | fails, t => t
  | holds, _ => holds
  | unknown, holds => holds
  | unknown, _ => unknown

/-- The conjunction of any number of truth values; that of none holds. -/
def all (ts : List Truth) : Truth := ts.foldr and holds

/-- The disjunction of any number of truth values; that of none fails. -/
def any (ts : List Truth) : Truth := ts.foldr or fails

theorem not_ofBool (b : Bool) : (ofBool b).not = ofBool !b := by cases b <;> rfl

@[simp] theorem and_holds (t : Truth) : t.and holds = t := by cases t <;> rfl

@[simp] theorem or_fails (t : Truth) : t.or fails = t := by cases t <;> rfl

theorem and_assoc (s t u : Truth) : (s.and t).and u = s.and (t.and u) := by
  cases s <;> cases t <;> cases u <;> rfl

theorem or_assoc (s t u : Truth) : (s.or t).or u = s.or (t.or u) := by
  cases s <;> cases t <;> cases u <;> rfl

theorem all_append (ts us : List Truth) : all (ts ++ us) = (all ts).and (all us) := by
  induction ts with
  | nil => rfl
  | cons t ts ih =>
    calc all (t :: ts ++ us)
      _ = t.and (all (ts ++ us)) := rfl
      _ = (t.and (all ts)).and (all us) := by rw [ih, and_assoc]

theorem any_append (ts us : List Truth) : any (ts ++ us) = (any ts).or (any us) := by
  induction ts with
  | nil => rfl
  | cons t ts ih =>
    calc any (t :: ts ++ us)
      _ = t.or (any (ts ++ us)) := rfl
      _ = (t.or (any ts)).or (any us) := by rw [ih, or_assoc]

end Truth

namespace Conjunction

def join : Conjunction → Truth → Truth → Truth
  | and => Truth.and
  | or => Truth.or

/-- Any number of truth values joined. -/
def joinAll : Conjunction → List Truth → Truth
  | and => Truth.all
  | or => Truth.any

@[simp] theorem joinAll_singleton (j : Conjunction) (t : Truth) : j.joinAll [t] = t := by
  cases j with
  | and => exact t.and_holds
  | or => exact t.or_fails

theorem joinAll_append (j : Conjunction) (ts us : List Truth) :
    j.joinAll (ts ++ us) = j.join (j.joinAll ts) (j.joinAll us) := by
  cases j with
  | and => exact Truth.all_append ts us
  | or => exact Truth.any_append ts us

end Conjunction

end ParamSql
