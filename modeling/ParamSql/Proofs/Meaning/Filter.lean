import ParamSql.Proofs.Meaning.Condition
import ParamSql.Proofs.Statement.Filtering

/-!
# Truth of filters

The connectives join the truth of conditions, and so do the calls that filter a statement: at
every row, a WHERE clause says what the conditions that were given say from left to right, each
joined to all before it.
-/

namespace ParamSql

namespace Conjunction

theorem join_assoc (j : Conjunction) (s t u : Truth) :
    j.join (j.join s t) u = j.join s (j.join t u) := by
  cases j with
  | and => exact Truth.and_assoc s t u
  | or => exact Truth.or_assoc s t u

theorem joinAll_cons (j : Conjunction) (t : Truth) (ts : List Truth) :
    j.joinAll (t :: ts) = j.join t (j.joinAll ts) := by
  cases j <;> rfl

end Conjunction

namespace Condition

variable (atom : Condition → Truth)

/-- By induction along the conditions, each is joined to those before. -/
theorem truth_joined (j : Conjunction) (c : Condition) (cs : List Condition) :
    ∃ e, joined j (c :: cs) = some e ∧ truth atom e = j.joinAll ((c :: cs).map (truth atom)) := by
  have along (c : Condition) :
      ∃ e, cs.foldl (fun acc c => combineOptional j acc (some c)) (some c) = some e ∧
        truth atom e = j.joinAll ((c :: cs).map (truth atom)) := by
    induction cs generalizing c with
    | nil => exact ⟨c, rfl, (j.joinAll_singleton _).symm⟩
    | cons d cs ih =>
      obtain ⟨e, he, htruth⟩ := ih (combine j c d)
      refine ⟨e, he, ?_⟩
      rw [htruth, List.map_cons, List.map_cons, List.map_cons, j.joinAll_cons, j.joinAll_cons,
        j.joinAll_cons, truth_combine, j.join_assoc]
  exact along c

/-- Truth of conditions given one after the other, from the first of them on. -/
def foldedTruth : List (Conjunction × Condition) → Option Truth
  | [] => none
  | (_, c) :: rest => some (rest.foldl (fun t (j, d) => j.join t (truth atom d)) (truth atom c))

/-- By induction along the calls: a clause that is there stands in front of those to come. -/
theorem truth_foldl_joinTo (calls : List FilterCall) (filter : Option Condition) :
    (calls.foldl (fun filter call => call.joinTo filter) filter).map (truth atom) =
      foldedTruth atom (FilterCall.present (⟨.and, filter⟩ :: calls)) := by
  induction calls generalizing filter with
  | nil => cases filter <;> rfl
  | cons call calls ih =>
    obtain ⟨j, c⟩ := call
    rw [List.foldl_cons, ih]
    cases c with
    | none =>
      rw [FilterCall.joinTo, combineOptional_none]
      cases filter <;> rfl
    | some c =>
      cases filter with
      | none => rfl
      | some b =>
        have joined : truth atom (combine j b c) = j.join (truth atom b) (truth atom c) :=
          truth_combine atom j b c
        simp only [FilterCall.joinTo, combineOptional, FilterCall.present_cons_some, foldedTruth,
          joined, List.foldl_cons]

end Condition

open Condition

/-- At every row, given by the truth of single conditions: AND and OR join the truth of what they
join, whatever lists there are in it, and the WHERE clause of a statement that was given
conditions is absent if there is none of them, and else joins their truth from left to right. The
clause from before counts as given first. -/
theorem filters_keep_truth (atom : Condition → Truth) :
    (∀ a b : Condition, truth atom (a.and b) = (truth atom a).and (truth atom b)) ∧
    (∀ a b : Condition, truth atom (a.or b) = (truth atom a).or (truth atom b)) ∧
    (∀ c cs, ∃ e, Condition.all (c :: cs) = some e ∧
      truth atom e = Truth.all ((c :: cs).map (truth atom))) ∧
    (∀ c cs, ∃ e, Condition.any (c :: cs) = some e ∧
      truth atom e = Truth.any ((c :: cs).map (truth atom))) ∧
    ∀ (s : FilteredStatement) (calls : List FilterCall),
      let given := ⟨.and, s.filter⟩ :: calls
      ((s.run calls).filter = none ↔ ∀ call ∈ given, call.condition = none) ∧
      ∀ first rest, FilterCall.present given = first :: rest →
        ∃ c, (s.run calls).filter = some c ∧
          truth atom c =
            rest.foldl (fun t (j, d) => j.join t (truth atom d)) (truth atom first.2) := by
  refine ⟨truth_combine atom .and, truth_combine atom .or, truth_joined atom .and,
    truth_joined atom .or, ?_⟩
  intro s calls given
  have folded : (s.run calls).filter.map (truth atom) =
      foldedTruth atom (FilterCall.present given) := by
    rw [s.filter_run]
    exact truth_foldl_joinTo atom calls s.filter
  constructor
  · rw [← FilterCall.present_eq_nil_iff, ← Option.map_eq_none_iff (f := truth atom), folded]
    cases FilterCall.present given <;> simp [foldedTruth]
  · intro first rest hpresent
    rw [hpresent] at folded
    exact Option.map_eq_some_iff.1 folded

/-- Calls of both kinds, some without a condition: the clause says `(a OR b) AND c`, which a row
fails that has a value in the last column. -/
theorem filters_keep_truth_mixed :
    let calls : List FilterCall :=
      [⟨.and, none⟩, ⟨.and, some (.basic "a" .isNull [])⟩, ⟨.or, some (.basic "b" .isNull [])⟩,
        ⟨.or, none⟩, ⟨.and, some (.basic "c" .isNull [])⟩]
    let s : FilteredStatement := .update { dialect := .mySql, table := "T" }
    ∃ c, (s.run calls).filter = some c ∧
      truth (fun | .basic "c" .. => .fails | _ => .holds) c = .fails := by
  intro calls s
  obtain ⟨-, -, -, -, filters⟩ :=
    filters_keep_truth fun | .basic "c" .. => .fails | _ => .holds
  obtain ⟨c, hfilter, htruth⟩ := (filters s calls).2 _ _ rfl
  exact ⟨c, hfilter, htruth.trans rfl⟩

end ParamSql
