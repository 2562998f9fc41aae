import Mathlib.Data.List.Forall2
import Mathlib.Data.List.Pairwise
import ParamSql.Query.Basic

/-!
# Sorting rows

What a database may answer when it sorts: any arrangement of the rows in which
no row comes before one that it follows. Where no two rows tie there is only one
such arrangement, and the opposite directions turn it around.
-/

namespace ParamSql

variable {α : Type*}

def Direction.orient : Direction → Ordering → Ordering
  | ascending, o => o
  | descending, o => o.swap

@[simp] theorem Direction.orient_flipped (d : Direction) (o : Ordering) :
    d.flipped.orient o = (d.orient o).swap := by
  cases d <;> simp [flipped, orient]

theorem Direction.effective_not (d : Direction) (reversed : Bool) :
    d.effective (!reversed) = (d.effective reversed).flipped := by
  cases reversed <;> simp [effective]

def compareBy : List ((α → α → Ordering) × Direction) → α → α → Ordering
  | [], _, _ => .eq
  | (cmp, direction) :: keys, a, b => (direction.orient (cmp a b)).then (compareBy keys a b)

theorem compareBy_congr {keys keys' : List ((α → α → Ordering) × Direction)} {a b : α}
    (h : List.Forall₂ (fun key key' => key.1 a b = key'.1 a b ∧ key.2 = key'.2) keys keys') :
    compareBy keys a b = compareBy keys' a b := by
  induction h with
  | nil => rfl
  | cons hkey _ ih => simp only [compareBy, hkey.1, hkey.2, ih]

theorem compareBy_flipped (keys : List ((α → α → Ordering) × Direction)) (a b : α) :
    compareBy (keys.map fun (cmp, direction) => (cmp, direction.flipped)) a b =
      (compareBy keys a b).swap := by
  induction keys with
  | nil => rfl
  | cons key keys ih =>
    simp only [List.map_cons, compareBy, ih, Direction.orient_flipped, Ordering.swap_then]

theorem compareBy_swap {keys : List ((α → α → Ordering) × Direction)} {a b : α}
    (h : ∀ key ∈ keys, key.1 b a = (key.1 a b).swap) :
    compareBy keys b a = (compareBy keys a b).swap := by
  induction keys with
  | nil => rfl
  | cons key keys ih =>
    obtain ⟨cmp, direction⟩ := key
    have hcmp : cmp b a = (cmp a b).swap := h _ List.mem_cons_self
    have hkeys := ih fun key hkey => h key (List.mem_cons_of_mem _ hkey)
    have horient : direction.orient (cmp a b).swap = (direction.orient (cmp a b)).swap := by
      cases direction <;> rfl
    simp only [compareBy, hcmp, hkeys, horient, Ordering.swap_then]

/-- The rows of `l`, sorted; rows that tie stand in any order. -/
def Sorts (cmp : α → α → Ordering) (l sorted : List α) : Prop :=
  sorted.Perm l ∧ sorted.Pairwise fun a b => cmp a b ≠ .gt

/-- Every row comes strictly before the ones that follow it. -/
def Ranked (cmp : α → α → Ordering) (l : List α) : Prop :=
  l.Pairwise fun a b => cmp a b = .lt ∧ cmp b a = .gt

variable {cmp : α → α → Ordering} {l m : List α}

theorem Ranked.eq_of_le (h : Ranked cmp l) {a b : α} (ha : a ∈ l) (hb : b ∈ l)
    (hab : cmp a b ≠ .gt) (hba : cmp b a ≠ .gt) : a = b := by
  by_contra hne
  have apart : l.Pairwise fun a b => cmp a b = .gt ∨ cmp b a = .gt := h.imp fun hlt => .inr hlt.2
  have : Std.Symm fun a b => cmp a b = .gt ∨ cmp b a = .gt := ⟨fun _ _ => Or.symm⟩
  rcases apart.forall ha hb hne with hgt | hgt
  · exact hab hgt
  · exact hba hgt

/-- Rows that can be ranked are sorted in one way. -/
theorem Ranked.sorts_iff (h : Ranked cmp l) (hm : m.Perm l) (sorted : List α) :
    Sorts cmp m sorted ↔ sorted = l := by
  have hle : l.Pairwise fun a b => cmp a b ≠ .gt := h.imp fun hlt => by simp [hlt.1]
  constructor
  · rintro ⟨hperm, hsorted⟩
    have hl : sorted.Perm l := hperm.trans hm
    exact hl.eq_of_pairwise (fun a b ha hb => h.eq_of_le (hl.subset ha) hb) hsorted hle
  · rintro rfl
    exact ⟨hm.symm, hle⟩

theorem Ranked.sublist (h : Ranked cmp l) (hm : m.Sublist l) : Ranked cmp m :=
  List.Pairwise.sublist hm h

/-- Ranked by the opposite comparison, rows come in the opposite order. -/
theorem Ranked.reverse (h : Ranked cmp l) {opposite : α → α → Ordering}
    (hopposite : ∀ a b, opposite a b = (cmp a b).swap) : Ranked opposite l.reverse := by
  rw [Ranked, List.pairwise_reverse]
  refine h.imp ?_
  intro a b hab
  simp [hopposite, hab.1, hab.2]

theorem Ranked.congr (h : Ranked cmp l) {cmp' : α → α → Ordering}
    (hcmp : ∀ a ∈ l, ∀ b ∈ l, cmp' a b = cmp a b) : Ranked cmp' l := by
  refine List.Pairwise.imp_of_mem ?_ h
  intro a b ha hb hab
  rw [hcmp a ha b hb, hcmp b hb a ha]
  exact hab

theorem ranked_zipIdx (l : List α) (k : Nat) :
    Ranked (fun a b : α × Nat => compare a.2 b.2) (l.zipIdx k) := by
  have increasing : (l.zipIdx k).Pairwise fun a b => a.2 < b.2 := by
    rw [← List.pairwise_map (f := Prod.snd) (R := (· < ·)), List.zipIdx_map_snd]
    exact List.pairwise_lt_range'
  exact increasing.imp fun h => ⟨Nat.compare_eq_lt.2 h, Nat.compare_eq_gt.2 h⟩

theorem filter_zipIdx (l : List α) (k start last : Nat) :
    ((l.zipIdx k).filter fun row => start < row.2 ∧ row.2 ≤ last).map Prod.fst =
      (l.take (last + 1 - k)).drop (start + 1 - k) := by
  induction l generalizing k with
  | nil => simp
  | cons a l ih =>
    rw [List.zipIdx_cons, List.filter_cons]
    by_cases hlast : k ≤ last
    · have htake : last + 1 - k = (last + 1 - (k + 1)) + 1 := by omega
      by_cases hstart : start < k
      · have hdrop : start + 1 - k = 0 := by omega
        have hdrop' : start + 1 - (k + 1) = 0 := by omega
        rw [if_pos (by simp [hstart, hlast]), List.map_cons, ih, htake, List.take_succ_cons, hdrop,
          hdrop', List.drop_zero, List.drop_zero]
      · have hdrop : start + 1 - k = (start + 1 - (k + 1)) + 1 := by omega
        rw [if_neg (by simp [hstart]), ih, htake, List.take_succ_cons, hdrop, List.drop_succ_cons]
    · have htake : last + 1 - k = 0 := by omega
      have htake' : last + 1 - (k + 1) = 0 := by omega
      rw [if_neg (by simp [hlast]), ih, htake, htake']
      simp

end ParamSql
