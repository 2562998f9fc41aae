import ParamSql.Proofs.Paging.RowPlan

/-!
# Answers that leave no choice

A statement around a query whose rows can be ranked has one answer. Each layer keeps it so: what it
sorts by ranks the rows, or it leaves them as they come.
-/

namespace ParamSql

theorem compareBy_map {α β : Type*} (f : α → β) (keys : List ((β → β → Ordering) × Direction))
    (a b : α) :
    compareBy (keys.map fun (cmp, direction) => (fun x y => cmp (f x) (f y), direction)) a b =
      compareBy keys (f a) (f b) := by
  induction keys with
  | nil => rfl
  | cons key keys ih => simp only [List.map_cons, compareBy, ih]

theorem Ranked.map {α β : Type*} {f : α → β} {cmp : β → β → Ordering} {cmp' : α → α → Ordering}
    {L : List α} (h : Ranked cmp' L) (hcmp : ∀ a b, cmp (f a) (f b) = cmp' a b) :
    Ranked cmp (L.map f) := by
  refine List.pairwise_map.2 (List.Pairwise.imp ?_ h)
  intro a b hab
  rwa [hcmp, hcmp]

namespace Layer

variable {α : Type*} {layer : Layer} {cmp : Document → α → α → Ordering}

theorem arranges_iff {L m : List α} (hL : Ranked (compareKeys cmp layer.order) L)
    (hperm : m.Perm L) (sorted : List α) : layer.Arranges cmp m sorted ↔ sorted = L := by
  unfold Arranges
  split
  · rename_i hnone
    have kept : Sorts (compareKeys cmp layer.order) m m := by
      refine ⟨.refl m, ?_⟩
      rw [hnone]
      exact List.pairwise_of_forall fun _ _ => nofun
    rw [(hL.sorts_iff hperm m).1 kept]
  · exact hL.sorts_iff hperm sorted

theorem cut_map {β : Type*} (layer : Layer) (f : α → β) (l : List α) :
    layer.cut (l.map f) = (layer.cut l).map f := by
  unfold cut
  cases layer.top <;> cases layer.limit <;> simp

end Layer

theorem filter_positions {α : Type*} (start size : Nat) (l : List α) :
    (((l.zipIdx 1).filter fun row => start + 1 ≤ row.2 ∧ row.2 ≤ start + size).map Prod.fst) =
      (l.drop start).take size := by
  simp only [Nat.succ_le_iff]
  rw [filter_zipIdx, Nat.add_sub_cancel, Nat.add_sub_cancel, List.drop_take,
    Nat.add_sub_cancel_left]

theorem dedup_unnumbered {ρ : Type*} [DecidableEq ρ] (l : List ρ) :
    (unnumbered l).dedup = unnumbered l.dedup :=
  List.dedup_map_of_injective (fun _ _ h => congrArg Prod.fst h) l

theorem map_fst_unnumbered {ρ : Type*} (l : List ρ) : (unnumbered l).map Prod.fst = l := by
  simp [unnumbered, Function.comp_def]

variable {σ ρ : Type*} {s : Select} {r : RowReading s σ ρ} {d : Dialect} {reversed : Bool}
  {R L : List ρ}

/-- The sort keys of a query, with the directions to sort in. -/
def Clauses.ownKeys (c : Clauses) (reversed : Bool) : List SortKey :=
  c.order.map fun k => (k.expression, k.direction.effective reversed)

def nameKeys (keys : List (String × Direction)) (reversed : Bool) : List SortKey :=
  keys.map fun (name, direction) => ([.token (.identifier name)], direction.effective reversed)

namespace RowReading

theorem compareKeys_ownKeys (a b : ρ × Nat) :
    compareKeys r.byText ((s.clauses d).ownKeys reversed) a b = r.order d reversed a.1 b.1 := by
  rw [order, ← compareBy_map, List.map_map, compareKeys, Clauses.ownKeys, List.map_map]
  rfl

theorem compareKeys_nameKeys (keys : List (String × Direction)) (a b : ρ × Nat) :
    compareKeys (r.byColumn none) (nameKeys keys reversed) a b =
      r.outerOrder keys reversed a.1 b.1 := by
  rw [outerOrder, ← compareBy_map, List.map_map, compareKeys, nameKeys, List.map_map]
  rfl

theorem compareKeys_label (label : String) (a b : ρ × Nat) :
    compareKeys (r.byColumn (some label)) [([.token (.identifier label)], .ascending)] a b =
      compare a.2 b.2 := by
  simp only [compareKeys, List.map_cons, List.map_nil, compareBy, byColumn, if_true,
    Direction.orient]
  exact Ordering.then_eq

end RowReading

variable [DecidableEq ρ]

namespace RowPlan

variable (r) in
/-- These rows and no others are answered, without numbers. -/
def Gives (plan : RowPlan) (L : List ρ) : Prop :=
  plan.label = none ∧ ∀ rows, plan.Yields r rows ↔ rows = unnumbered L

variable (r) in
/-- Some rows are answered, which are these in any order, without numbers. -/
def GivesUnsorted (plan : RowPlan) (L : List ρ) : Prop :=
  plan.label = none ∧ (∃ rows, plan.Yields r rows) ∧
    ∀ rows, plan.Yields r rows → ∃ l : List ρ, l.Perm L ∧ rows = unnumbered l

variable (r) in
/-- These rows are answered under their numbers, in any order. -/
def GivesNumbered (plan : RowPlan) (label : String) (L : List ρ) : Prop :=
  plan.label = some label ∧ ∀ rows, plan.Yields r rows ↔ rows.Perm (L.zipIdx 1)

theorem perm_unnumbered {alwaysEmpty : Bool} {l : List ρ} (h : l.Perm (r.selected alwaysEmpty)) :
    (if s.distinct then (unnumbered l).dedup else unnumbered l).Perm
      (unnumbered (r.rows alwaysEmpty)) := by
  unfold RowReading.rows
  split
  · rw [dedup_unnumbered]
    exact h.dedup.map _
  · exact h.map _

theorem gives_own {alwaysEmpty : Bool} (hL : Ranked (r.order d reversed) L)
    (hperm : (r.rows alwaysEmpty).Perm L) (top : Option Nat) (limit : Option (Nat × Nat)) :
    let layer : Layer := ⟨s.distinct, none, (s.clauses d).ownKeys reversed, top, limit⟩
    (own alwaysEmpty layer).Gives r (layer.cut L) := by
  intro layer
  have ranked : Ranked (compareKeys r.byText layer.order) (unnumbered L) :=
    hL.map fun _ _ => RowReading.compareKeys_ownKeys _ _
  have arranged {l : List ρ} (hl : l.Perm (r.selected alwaysEmpty)) :=
    layer.arranges_iff ranked ((perm_unnumbered hl).trans (hperm.map _))
  refine ⟨rfl, fun rows => ?_⟩
  constructor
  · rintro ⟨l, hl, _, rfl, sorted, hsorted, rfl⟩
    rw [(arranged hl sorted).1 hsorted]
    exact layer.cut_map _ L
  · rintro rfl
    exact ⟨_, .refl _, _, rfl, _, (arranged (.refl _) _).2 rfl, (layer.cut_map _ L).symm⟩

theorem givesUnsorted_own :
    (own false ⟨s.distinct, none, [], none, none⟩).GivesUnsorted r (r.rows false) := by
  refine ⟨rfl, ⟨_, _, .refl _, _, rfl, _, rfl, rfl⟩, ?_⟩
  rintro rows ⟨l, hl, _, rfl, _, rfl, rfl⟩
  refine ⟨if s.distinct then l.dedup else l, ?_, ?_⟩
  · unfold RowReading.rows
    split
    · exact hl.dedup
    · exact hl
  · dsimp only [Layer.cut, Option.elim]
    split
    · exact dedup_unnumbered l
    · rfl

/-- Rows numbered along their own order, which no DISTINCT comes behind. -/
theorem givesNumbered_own (hL : Ranked (r.order d reversed) L) (hperm : (r.rows false).Perm L)
    (hdistinct : s.distinct = false) (label : String) :
    (own false ⟨false, some ⟨.along ((s.clauses d).ownKeys reversed), label⟩, [], none,
      none⟩).GivesNumbered r label L := by
  have ranked : Ranked (compareKeys r.byText ((s.clauses d).ownKeys reversed)) (unnumbered L) :=
    hL.map fun _ _ => RowReading.compareKeys_ownKeys _ _
  have rows : r.rows false = r.selected false := by simp [RowReading.rows, hdistinct]
  have sorted {l : List ρ} (hl : l.Perm (r.selected false)) :=
    ranked.sorts_iff ((hl.trans (rows ▸ hperm)).map fun row => (row, 0))
  have numbers : renumbered (unnumbered L) = L.zipIdx 1 := by
    rw [renumbered, map_fst_unnumbered]
  refine ⟨rfl, fun rows => ?_⟩
  constructor
  · rintro ⟨l, hl, ranked, ⟨m, hm, hranked⟩, _, rfl, rfl⟩
    rw [(sorted hl m).1 hm, numbers] at hranked
    exact hranked
  · intro hrows
    refine ⟨_, .refl _, rows, ⟨unnumbered L, (sorted (.refl _) _).2 rfl, ?_⟩, rows, rfl, rfl⟩
    rw [numbers]
    exact hrows

variable {inner : RowPlan}

theorem Gives.firstRows (h : inner.Gives r L) (n : Nat) :
    (derived inner (.first n) ⟨false, none, [], none, none⟩).Gives r (L.take n) := by
  refine ⟨h.1, fun rows => ?_⟩
  have taken : (unnumbered L).take n = unnumbered (L.take n) := List.map_take.symm
  constructor
  · rintro ⟨l, hl, _, rfl, _, rfl, rfl⟩
    rw [(h.2 l).1 hl]
    exact taken
  · rintro rfl
    exact ⟨_, (h.2 _).2 rfl, _, rfl, _, rfl, taken.symm⟩

theorem Gives.resorted {l : List ρ} (h : inner.Gives r l) {keys : List (String × Direction)}
    (hL : Ranked (r.outerOrder keys reversed) L) (hperm : l.Perm L) (top : Option Nat) :
    let layer : Layer := ⟨false, none, nameKeys keys reversed, top, none⟩
    (derived inner .all layer).Gives r (layer.cut L) := by
  intro layer
  have ranked : Ranked (compareKeys (r.byColumn inner.label) layer.order) (unnumbered L) := by
    rw [h.1]
    exact hL.map fun _ _ => RowReading.compareKeys_nameKeys keys _ _
  have arranged := layer.arranges_iff ranked (hperm.map fun row => (row, 0))
  refine ⟨h.1, fun rows => ?_⟩
  constructor
  · rintro ⟨m, hm, _, rfl, sorted, hsorted, rfl⟩
    rw [(h.2 _).1 hm] at hsorted
    rw [(arranged sorted).1 hsorted]
    exact layer.cut_map _ L
  · rintro rfl
    exact ⟨_, (h.2 _).2 rfl, _, rfl, _, (arranged _).2 rfl, (layer.cut_map _ L).symm⟩

/-- Rows numbered along an order by names around their query. -/
theorem GivesUnsorted.numbered {m : List ρ} (h : inner.GivesUnsorted r m)
    {keys : List (String × Direction)} (hL : Ranked (r.outerOrder keys reversed) L)
    (hperm : m.Perm L) (label : String) :
    (derived inner .all ⟨false, some ⟨.along (nameKeys keys reversed), label⟩, [], none,
      none⟩).GivesNumbered r label L := by
  have ranked : Ranked (compareKeys (r.byColumn inner.label) (nameKeys keys reversed))
      (unnumbered L) := by
    rw [h.1]
    exact hL.map fun _ _ => RowReading.compareKeys_nameKeys keys _ _
  have sorted {l : List ρ} (hl : l.Perm m) :=
    ranked.sorts_iff ((hl.trans hperm).map fun row => (row, 0))
  have numbers : renumbered (unnumbered L) = L.zipIdx 1 := by
    rw [renumbered, map_fst_unnumbered]
  refine ⟨rfl, fun rows => ?_⟩
  constructor
  · rintro ⟨given, hgiven, ranked, ⟨ordered, hordered, hranked⟩, _, rfl, rfl⟩
    obtain ⟨l, hl, rfl⟩ := h.2.2 given hgiven
    rw [(sorted hl ordered).1 hordered, numbers] at hranked
    exact hranked
  · intro hrows
    obtain ⟨given, hgiven⟩ := h.2.1
    obtain ⟨l, hl, rfl⟩ := h.2.2 given hgiven
    refine ⟨_, hgiven, rows, ⟨unnumbered L, (sorted hl _).2 rfl, ?_⟩, rows, rfl, rfl⟩
    rw [numbers]
    exact hrows

theorem GivesNumbered.between {label : String} (h : inner.GivesNumbered r label L)
    (start size : Nat) (answer : List ρ) :
    (∃ rows, (derived inner (.between (start + 1) (start + size)) ⟨false, none,
      [([.token (.identifier label)], .ascending)], none, none⟩).Yields r rows ∧
      rows.map Prod.fst = answer) ↔ answer = (L.drop start).take size := by
  let layer : Layer :=
    ⟨false, none, [([.token (.identifier label)], .ascending)], none, none⟩
  let kept := (L.zipIdx 1).filter fun row => start + 1 ≤ row.2 ∧ row.2 ≤ start + size
  have ranked : Ranked (compareKeys (r.byColumn inner.label) layer.order) kept := by
    rw [h.1]
    exact ((ranked_zipIdx L 1).sublist List.filter_sublist).congr
      fun a _ b _ => RowReading.compareKeys_label label a b
  have window : kept.map Prod.fst = (L.drop start).take size := filter_positions start size L
  have arranged {rows : List (ρ × Nat)} (hrows : rows.Perm (L.zipIdx 1)) :=
    layer.arranges_iff ranked (hrows.filter fun row => start + 1 ≤ row.2 ∧ row.2 ≤ start + size)
  constructor
  · rintro ⟨_, ⟨rows, hrows, _, rfl, sorted, hsorted, rfl⟩, rfl⟩
    rw [(arranged ((h.2 _).1 hrows) _).1 hsorted]
    exact window
  · rintro rfl
    exact ⟨kept, ⟨_, (h.2 _).2 (.refl _), _, rfl, _, (arranged (.refl _) _).2 rfl, rfl⟩, window⟩

theorem Gives.counted (h : inner.Gives r L) (label : String) (start size : Nat)
    (answer : List ρ) :
    (∃ rows, (derived (derived inner .all ⟨false, some ⟨.counted, label⟩, [], none, none⟩)
      (.between (start + 1) (start + size)) ⟨false, none, [], none, none⟩).Yields r rows ∧
      rows.map Prod.fst = answer) ↔ answer = (L.drop start).take size := by
  have numbers : renumbered (unnumbered L) = L.zipIdx 1 := by
    rw [renumbered, map_fst_unnumbered]
  have window := filter_positions start size L
  constructor
  · rintro ⟨_, ⟨_, ⟨given, hgiven, _, rfl, _, rfl, rfl⟩, _, rfl, _, rfl, rfl⟩, rfl⟩
    rw [(h.2 given).1 hgiven]
    change ((renumbered (unnumbered L)).filter _).map Prod.fst = _
    rw [numbers]
    exact window
  · rintro rfl
    refine ⟨_, ⟨_, ⟨_, (h.2 _).2 rfl, _, rfl, _, rfl, rfl⟩, _, rfl, _, rfl, rfl⟩, ?_⟩
    change ((renumbered (unnumbered L)).filter _).map Prod.fst = _
    rw [numbers]
    exact window

theorem Gives.answers (h : inner.Gives r L) (answer : List ρ) :
    (∃ rows, inner.Yields r rows ∧ rows.map Prod.fst = answer) ↔ answer = L := by
  constructor
  · rintro ⟨rows, hrows, rfl⟩
    rw [(h.2 rows).1 hrows, map_fst_unnumbered]
  · rintro rfl
    exact ⟨_, (h.2 _).2 rfl, map_fst_unnumbered answer⟩

end RowPlan

end ParamSql
