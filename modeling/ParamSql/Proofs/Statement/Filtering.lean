import ParamSql.Proofs.Statement.Root

/-!
# Statements that are filtered step by step

Queries, updates and deletions are given their conditions one after the other, each of them with
the conjunction that joins it to those before. All that such a sequence of calls does is to fold
the conditions into the WHERE clause.
-/

namespace ParamSql

open Condition (combineOptional)

/-- A condition that is given to a WHERE clause, if there is one, and how it joins those before. -/
structure FilterCall where
  conjunction : Conjunction
  condition : Option Condition

namespace FilterCall

def present? (call : FilterCall) : Option (Conjunction × Condition) :=
  call.condition.map fun c => (call.conjunction, c)

/-- The conditions that are there, each with its conjunction. -/
def present (calls : List FilterCall) : List (Conjunction × Condition) :=
  calls.filterMap present?

@[simp] theorem present_cons_none (j : Conjunction) (calls : List FilterCall) :
    present (⟨j, none⟩ :: calls) = present calls := rfl

@[simp] theorem present_cons_some (j : Conjunction) (c : Condition) (calls : List FilterCall) :
    present (⟨j, some c⟩ :: calls) = (j, c) :: present calls := rfl

theorem present_eq_nil_iff (calls : List FilterCall) :
    present calls = [] ↔ ∀ call ∈ calls, call.condition = none := by
  simp [present, present?, List.filterMap_eq_nil_iff]

def joinTo (call : FilterCall) (filter : Option Condition) : Option Condition :=
  combineOptional call.conjunction filter call.condition

end FilterCall

inductive FilteredStatement
  | select (s : Select)
  | update (u : Update)
  | delete (d : Delete)

namespace FilteredStatement

def filter : FilteredStatement → Option Condition
  | select s => s.filter
  | update u => u.filter
  | delete d => d.filter

def withFilter (filter : Option Condition) : FilteredStatement → FilteredStatement
  | select s => select { s with filter }
  | update u => update { u with filter }
  | delete d => delete { d with filter }

def andWhere (c : Option Condition) : FilteredStatement → FilteredStatement
  | select s => select (s.andWhere c)
  | update u => update (u.andWhere c)
  | delete d => delete (d.andWhere c)

def orWhere (c : Option Condition) : FilteredStatement → FilteredStatement
  | select s => select (s.orWhere c)
  | update u => update (u.orWhere c)
  | delete d => delete (d.orWhere c)

def apply (s : FilteredStatement) (call : FilterCall) : FilteredStatement :=
  match call.conjunction with
  | .and => s.andWhere call.condition
  | .or => s.orWhere call.condition

def run (s : FilteredStatement) (calls : List FilterCall) : FilteredStatement :=
  calls.foldl apply s

/-- The statement as it is rendered on its own. -/
def root (s : FilteredStatement) (recordCount : Option UInt64) (reversed : Bool) : RootStatement :=
  match s with
  | select s => .select s recordCount reversed
  | update u => .update u
  | delete d => .delete d

@[simp] theorem filter_withFilter (s : FilteredStatement) (filter : Option Condition) :
    (s.withFilter filter).filter = filter := by
  cases s <;> rfl

@[simp] theorem withFilter_withFilter (s : FilteredStatement) (before after : Option Condition) :
    (s.withFilter before).withFilter after = s.withFilter after := by
  cases s <;> rfl

@[simp] theorem withFilter_filter (s : FilteredStatement) : s.withFilter s.filter = s := by
  cases s with
  | select s =>
    cases s
    rfl
  | update u => rfl
  | delete d => rfl

theorem apply_eq (s : FilteredStatement) (call : FilterCall) :
    s.apply call = s.withFilter (call.joinTo s.filter) := by
  obtain ⟨conjunction, c⟩ := call
  cases conjunction with
  | and => cases s <;> rfl
  | or => cases s <;> rfl

/-- A whole run, by induction along the calls: nothing changes but the WHERE clause. -/
theorem run_eq (s : FilteredStatement) (calls : List FilterCall) :
    s.run calls = s.withFilter (calls.foldl (fun filter call => call.joinTo filter) s.filter) := by
  induction calls generalizing s with
  | nil => exact s.withFilter_filter.symm
  | cons call calls ih =>
    calc s.run (call :: calls)
      _ = (s.withFilter (call.joinTo s.filter)).run calls := by rw [← apply_eq]; rfl
      _ = _ := by rw [ih, filter_withFilter, withFilter_withFilter, List.foldl_cons]

theorem filter_run (s : FilteredStatement) (calls : List FilterCall) :
    (s.run calls).filter = calls.foldl (fun filter call => call.joinTo filter) s.filter := by
  rw [run_eq, filter_withFilter]

end FilteredStatement

end ParamSql
