import ParamSql.Error
import ParamSql.Query.Basic

/-!
# Conditions

Constructors of conditions and the connectives. A list of conditions takes
the members of a list with the same conjunction in as its own. The optional
connectives treat an absent condition as nothing: combined with it, every
condition stays as it is.
-/

namespace ParamSql.Condition

/-- A basic condition, with as many parameters as its operator takes. -/
def ofParameters (column : String) (operator : Operator) (parameters : List Parameter) :
    Except Error Condition :=
  if column = "" then .error (.missingArgument .column)
  else if parameters.length ≠ operator.arity then
    .error (.invalidArity operator parameters.length)
  else .ok (.basic column operator parameters)

def compare (column : String) (operator : Operator) (value : Value) : Except Error Condition :=
  ofParameters column operator [.pending column value]

private def single (operator : Operator) (column : String) (value : Value) : Condition :=
  .basic column operator [.pending column value]

private def range (operator : Operator) (column : String) (low high : Value) : Condition :=
  .basic column operator [.pending column low, .pending column high]

def isNull (column : String) : Condition := .basic column .isNull []

def isNotNull (column : String) : Condition := .basic column .isNotNull []

def equal : String → Value → Condition := single .equal

def notEqual : String → Value → Condition := single .notEqual

def greaterThan : String → Value → Condition := single .greaterThan

def lessThan : String → Value → Condition := single .lessThan

def greaterThanOrEqual : String → Value → Condition := single .greaterThanOrEqual

def lessThanOrEqual : String → Value → Condition := single .lessThanOrEqual

def like (column pattern : String) : Condition := single .like column (.text pattern)

def notLike (column pattern : String) : Condition := single .notLike column (.text pattern)

/-- LIKE with the wildcards that `mode` puts around the pattern. -/
def likeMatch (column pattern : String) (mode : LikeMatch) (negated : Bool) : Condition :=
  single (if negated then .notLike else .like) column (.text (mode.apply pattern))

def between : String → Value → Value → Condition := range .between

def notBetween : String → Value → Value → Condition := range .notBetween

def equalColumns (left right : String) : Condition := .columns left .equal right

def compareColumns (left : String) (operator : Operator) (right : String) :
    Except Error Condition :=
  if operator.arity ≠ 1 then .error (.invalidArity operator 1)
  else .ok (.columns left operator right)

/-- Membership of a column in a list of values, or its opposite. -/
def ofValues (column : String) (negated : Bool) (values : List Value) : Condition :=
  .inValues column negated (values.map (.pending column))

/-- The conditions that a condition adds to a list of a conjunction. -/
def membersFor (conjunction : Conjunction) : Condition → List Condition
  | .list inner members => if inner = conjunction then members else [.list inner members]
  | c => [c]

/-- Two conditions joined into one list. -/
def combine (conjunction : Conjunction) (left right : Condition) : Condition :=
  .list conjunction (left.membersFor conjunction ++ right.membersFor conjunction)

def and : Condition → Condition → Condition := combine .and

def or : Condition → Condition → Condition := combine .or

/-- Two optional conditions joined; an absent one leaves the other as it is. -/
def combineOptional (conjunction : Conjunction) : Option Condition → Option Condition →
    Option Condition
  | some left, some right => some (combine conjunction left right)
  | some c, none => some c
  | none, c => c

def andOptional : Option Condition → Option Condition → Option Condition := combineOptional .and

def orOptional : Option Condition → Option Condition → Option Condition := combineOptional .or

def notOptional (c : Option Condition) : Option Condition := c.map .not

/-- All conditions joined by one conjunction; nothing for none. -/
def joined (conjunction : Conjunction) (cs : List Condition) : Option Condition :=
  cs.foldl (fun acc c => combineOptional conjunction acc (some c)) none

def all : List Condition → Option Condition := joined .and

def any : List Condition → Option Condition := joined .or

@[simp] theorem combineOptional_none (conjunction : Conjunction) (c : Option Condition) :
    combineOptional conjunction c none = c := by
  cases c <;> rfl

@[simp] theorem none_combineOptional (conjunction : Conjunction) (c : Option Condition) :
    combineOptional conjunction none c = c := by
  cases c <;> rfl

@[simp] theorem membersFor_combine (conjunction : Conjunction) (a b : Condition) :
    (combine conjunction a b).membersFor conjunction =
      a.membersFor conjunction ++ b.membersFor conjunction := by
  simp [combine, membersFor]

section Connectives

variable {P : Condition → Prop} {conjunction : Conjunction}

theorem forall_combineOptional
    (hcombine : ∀ left right, P left → P right → P (combine conjunction left right))
    {a b : Option Condition} (ha : ∀ c ∈ a, P c) (hb : ∀ c ∈ b, P c) :
    ∀ c ∈ combineOptional conjunction a b, P c := by
  cases a with
  | none =>
    rw [none_combineOptional]
    exact hb
  | some left =>
    cases b with
    | none => exact ha
    | some right =>
      intro c hc
      obtain rfl := Option.some.inj hc
      exact hcombine left right (ha left rfl) (hb right rfl)

/-- By induction along the conditions, what is joined so far keeps it. -/
theorem forall_joined
    (hcombine : ∀ left right, P left → P right → P (combine conjunction left right))
    {cs : List Condition} (h : ∀ c ∈ cs, P c) : ∀ c ∈ joined conjunction cs, P c := by
  have along (acc : Option Condition) (hacc : ∀ c ∈ acc, P c) :
      ∀ c ∈ cs.foldl (fun acc c => combineOptional conjunction acc (some c)) acc, P c := by
    induction cs generalizing acc with
    | nil => exact hacc
    | cons c cs ih =>
      refine ih (fun e he => h e (List.mem_cons_of_mem _ he)) _ ?_
      refine forall_combineOptional hcombine hacc fun e he => ?_
      obtain rfl := Option.some.inj he
      exact h c List.mem_cons_self
  exact along none nofun

end Connectives

end ParamSql.Condition
