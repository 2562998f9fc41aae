import Mathlib.Data.List.ReduceOption
import ParamSql.Proofs.Statement.Filtering

/-!
# Conditions joined in groups

However optional conditions are put in brackets and given to a WHERE clause, what becomes of them
depends on those that are there and on their order alone. With one conjunction they make up
nothing if there is none of them, the condition itself if there is one, and one list otherwise, in
which the lists of that conjunction have been replaced by their members.
-/

namespace ParamSql

namespace Condition

variable (j : Conjunction)

/-- Conditions with the members of each list of a conjunction in its place. -/
def spliced : List Condition → List Condition
  | [] => []
  | .list inner members :: cs =>
    if inner = j then members ++ spliced cs else .list inner members :: spliced cs
  | c :: cs => c :: spliced cs

theorem spliced_eq (cs : List Condition) : spliced j cs = cs.flatMap (membersFor j) := by
  induction cs with
  | nil => rfl
  | cons c cs ih =>
    cases c with
    | list inner members =>
      rw [spliced, ih, List.flatMap_cons, membersFor]
      split <;> rfl
    | _ => exact congrArg (List.cons _) ih

theorem spliced_append (as bs : List Condition) :
    spliced j (as ++ bs) = spliced j as ++ spliced j bs := by
  simp only [spliced_eq, List.flatMap_append]

def gathered : List Condition → Option Condition
  | [] => none
  | [c] => some c
  | c :: d :: cs => some (.list j (spliced j (c :: d :: cs)))

theorem gathered_of_two_le {cs : List Condition} (h : 2 ≤ cs.length) :
    gathered j cs = some (.list j (spliced j cs)) := by
  match cs with
  | _ :: _ :: _ => rfl

theorem exists_gathered {cs : List Condition} (h : cs ≠ []) :
    ∃ c, gathered j cs = some c ∧ c.membersFor j = spliced j cs := by
  match cs with
  | [c] => exact ⟨c, rfl, by rw [spliced_eq, List.flatMap_singleton]⟩
  | c :: d :: cs => exact ⟨_, rfl, by rw [membersFor, if_pos rfl]⟩

@[simp] theorem gathered_toList (c : Option Condition) : gathered j c.toList = c := by
  cases c <;> rfl

/-- Joining what has been gathered gathers all of it. -/
theorem combineOptional_gathered (as bs : List Condition) :
    combineOptional j (gathered j as) (gathered j bs) = gathered j (as ++ bs) := by
  by_cases ha : as = []
  · rw [ha, List.nil_append, gathered, none_combineOptional]
  by_cases hb : bs = []
  · rw [hb, List.append_nil, gathered, combineOptional_none]
  obtain ⟨a, hgathered, hmembers⟩ := exists_gathered j ha
  obtain ⟨b, hgathered', hmembers'⟩ := exists_gathered j hb
  have two : 2 ≤ (as ++ bs).length := by
    have := List.length_pos_iff.2 ha
    have := List.length_pos_iff.2 hb
    rw [List.length_append]
    omega
  rw [hgathered, hgathered', gathered_of_two_le j two, spliced_append, ← hmembers, ← hmembers']
  rfl

/-- Each operand is gathered from what there is of it, and lists are joined associatively. -/
theorem combineOptional_assoc (a b c : Option Condition) :
    combineOptional j (combineOptional j a b) c = combineOptional j a (combineOptional j b c) := by
  have all (x y : Option Condition) :
      combineOptional j x y = gathered j (x.toList ++ y.toList) := by
    rw [← combineOptional_gathered, gathered_toList, gathered_toList]
  calc combineOptional j (combineOptional j a b) c
    _ = combineOptional j (gathered j (a.toList ++ b.toList)) (gathered j c.toList) := by
      rw [all a b, gathered_toList]
    _ = combineOptional j (gathered j a.toList) (gathered j (b.toList ++ c.toList)) := by
      rw [combineOptional_gathered, combineOptional_gathered, List.append_assoc]
    _ = combineOptional j a (combineOptional j b c) := by rw [all b c, gathered_toList]

/-- By induction along the conditions, all that is behind is gathered. -/
theorem joined_eq_gathered (cs : List Condition) : joined j cs = gathered j cs := by
  have along (before : List Condition) :
      cs.foldl (fun acc c => combineOptional j acc (some c)) (gathered j before) =
        gathered j (before ++ cs) := by
    induction cs generalizing before with
    | nil => rw [List.foldl_nil, List.append_nil]
    | cons c cs ih =>
      have step : combineOptional j (gathered j before) (some c) = gathered j (before ++ [c]) :=
        combineOptional_gathered j before [c]
      rw [List.foldl_cons, step, ih, List.append_assoc, List.singleton_append]
  exact along []

/-- Optional conditions in brackets. -/
inductive Bracketing
  | single (c : Option Condition)
  | pair (left right : Bracketing)

namespace Bracketing

def leaves : Bracketing → List (Option Condition)
  | single c => [c]
  | pair left right => left.leaves ++ right.leaves

/-- The conditions joined as the brackets say. -/
def value : Bracketing → Option Condition
  | single c => c
  | pair left right => combineOptional j left.value right.value

theorem value_eq_gathered (g : Bracketing) : g.value j = gathered j g.leaves.reduceOption := by
  induction g with
  | single c =>
    cases c with
    | none => rfl
    | some c => rfl
  | pair left right ihl ihr =>
    rw [value, ihl, ihr, combineOptional_gathered, leaves, List.reduceOption_append]

end Bracketing

end Condition

open Condition

variable (j : Conjunction)

/-- Groups of conditions, each of them joined first and given in one call. -/
def groupCalls (groups : List Bracketing) : List FilterCall :=
  groups.map fun g => ⟨j, g.value j⟩

theorem FilteredStatement.run_groupCalls (s : FilteredStatement) (groups : List Bracketing) :
    s.run (groupCalls j groups) =
      s.withFilter (gathered j (s.filter :: groups.flatMap Bracketing.leaves).reduceOption) := by
  have along (before : List (Option Condition)) :
      (groupCalls j groups).foldl (fun filter call => call.joinTo filter)
          (gathered j before.reduceOption) =
        gathered j (before ++ groups.flatMap Bracketing.leaves).reduceOption := by
    induction groups generalizing before with
    | nil => rw [List.flatMap_nil, List.append_nil]; rfl
    | cons g groups ih =>
      calc (groupCalls j (g :: groups)).foldl _ (gathered j before.reduceOption)
        _ = (groupCalls j groups).foldl (fun filter call => call.joinTo filter)
              (combineOptional j (gathered j before.reduceOption) (g.value j)) := rfl
        _ = _ := by
          rw [g.value_eq_gathered, combineOptional_gathered, ← List.reduceOption_append, ih,
            List.flatMap_cons, List.append_assoc]
  have start : gathered j [s.filter].reduceOption = s.filter := by
    cases s.filter <;> rfl
  rw [run_eq, ← start, along [s.filter], start]
  rfl

/-- Joining optional conditions is associative, and an absent one leaves the other as it is. So a
statement that is given conditions in groups, in whatever brackets, is the one that is given each
of them on its own, and it is rendered like that one. -/
theorem grouping_immaterial :
    (∀ a b c, andOptional (andOptional a b) c = andOptional a (andOptional b c)) ∧
    (∀ a b c, orOptional (orOptional a b) c = orOptional a (orOptional b c)) ∧
    (∀ c, andOptional none c = c ∧ andOptional c none = c ∧
      orOptional none c = c ∧ orOptional c none = c) ∧
    (∀ cs, Condition.all cs = gathered .and cs ∧ Condition.any cs = gathered .or cs) ∧
    ∀ j : Conjunction,
      (∀ g : Bracketing, g.value j = gathered j g.leaves.reduceOption) ∧
      ∀ (s : FilteredStatement) (groups : List Bracketing),
        let conditions := groups.flatMap Bracketing.leaves
        s.run (groupCalls j groups) =
          s.withFilter (gathered j (s.filter :: conditions).reduceOption) ∧
        ∀ recordCount reversed,
          ((s.run (groupCalls j groups)).root recordCount reversed).render =
            ((s.run (conditions.map fun c => ⟨j, c⟩)).root recordCount reversed).render := by
  refine ⟨combineOptional_assoc .and, combineOptional_assoc .or, ?_, ?_, fun j => ⟨?_, ?_⟩⟩
  · intro c
    exact ⟨none_combineOptional .and c, combineOptional_none .and c,
      none_combineOptional .or c, combineOptional_none .or c⟩
  · intro cs
    exact ⟨joined_eq_gathered .and cs, joined_eq_gathered .or cs⟩
  · exact Bracketing.value_eq_gathered j
  · intro s groups conditions
    have run := s.run_groupCalls j groups
    refine ⟨run, fun recordCount reversed => ?_⟩
    -- a condition given on its own is a group of one
    have alone : conditions.map (fun c => (⟨j, c⟩ : FilterCall)) =
        groupCalls j (conditions.map .single) := by
      rw [groupCalls, List.map_map]
      rfl
    have leaves : (conditions.map Bracketing.single).flatMap Bracketing.leaves = conditions := by
      rw [List.flatMap_map]
      exact List.flatMap_singleton' conditions
    rw [alone, run, s.run_groupCalls, leaves]

/-- A list of the same conjunction is spliced in, and one of the other conjunction stays. -/
example :
    (Bracketing.pair (.pair (.single (some (isNull "a"))) (.single none))
        (.pair (.single (some (.list .or [isNull "b", isNull "c"])))
          (.single (some (.list .and [isNull "d", isNull "e"]))))).value .and =
      some (.list .and
        [isNull "a", .list .or [isNull "b", isNull "c"], isNull "d", isNull "e"]) :=
  rfl

end ParamSql
