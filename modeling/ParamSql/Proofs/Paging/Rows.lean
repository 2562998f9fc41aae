import Mathlib.Data.List.Dedup
import ParamSql.Proofs.Agreement
import ParamSql.Proofs.Paging.Sorting
import ParamSql.Rendering.Query

/-!
# Rows of a query

What a database makes of a query without paging: which rows there are, and how
the sort keys compare them. Sorted by keys that leave no ties, they stand in
one order, and in the opposite one when every direction is turned around.
-/

namespace ParamSql

theorem Clauses.forall₂_outerKeys {c : Clauses} {keys : List (String × Direction)}
    (h : c.outerKeys = .ok keys) :
    List.Forall₂ (fun k key => c.outerName k = .ok key.1 ∧ k.direction = key.2) c.order keys := by
  refine (forall₂_of_mapM h).imp fun k key hkey => ?_
  cases hname : c.outerName k with
  | error e =>
    rw [hname] at hkey
    contradiction
  | ok name =>
    rw [hname] at hkey
    obtain rfl : (name, k.direction) = key := Except.ok.inj hkey
    exact ⟨rfl, rfl⟩

/-- What a database makes of a query: the rows that its source and its filter
leave, what the field list, the grouping and HAVING make of them, and how rows
compare, by an expression within the query and by a name around it. -/
structure RowReading (s : Select) (σ ρ : Type*) where
  source : List σ
  select : List σ → List ρ
  byExpression : Document → ρ → ρ → Ordering
  byName : String → ρ → ρ → Ordering
  byExpression_swap : ∀ e a b, byExpression e b a = (byExpression e a b).swap
  /-- An aggregate over all rows makes a row of none. -/
  select_nil : (s.grouping ≠ [] ∨ ∀ f ∈ s.fields, f.aggregate = none) → select [] = []

namespace RowReading

variable {σ ρ : Type*} [DecidableEq ρ] {s : Select} (r : RowReading s σ ρ) (d : Dialect)

/-- Rows before DISTINCT; there is no source row behind a filter that is always false. -/
def selected (alwaysEmpty : Bool) : List ρ := r.select (if alwaysEmpty then [] else r.source)

/-- Rows of the query without paging, in any order. -/
def rows (alwaysEmpty : Bool) : List ρ :=
  if s.distinct then (r.selected alwaysEmpty).dedup else r.selected alwaysEmpty

def order (reversed : Bool) : ρ → ρ → Ordering :=
  compareBy <| (s.clauses d).order.map fun k =>
    (r.byExpression k.expression, if reversed then k.direction.flipped else k.direction)

def outerOrder (keys : List (String × Direction)) (reversed : Bool) : ρ → ρ → Ordering :=
  compareBy <| keys.map fun (name, direction) => (r.byName name, direction.effective reversed)

/-- All rows of the query without paging, in the order asked for, which leaves no ties. -/
def Lists (reversed : Bool) (R : List ρ) : Prop :=
  R.Perm (r.rows false) ∧ R.Pairwise fun a b => r.order d reversed a b = .lt

/-- The names by which a query around this one sorts denote its sort keys. -/
def NamesDenote (R : List ρ) : Prop :=
  ∀ k ∈ (s.clauses d).order, ∀ name, (s.clauses d).outerName k = .ok name →
    ∀ a ∈ R, ∀ b ∈ R, r.byName name a b = r.byExpression k.expression a b

end RowReading

def firstOf {ρ : Type*} (top : Option UInt64) (l : List ρ) : List ρ :=
  match top with
  | some n => l.take n.toNat
  | none => l

namespace RowReading

variable {σ ρ : Type*} {s : Select} {r : RowReading s σ ρ} {d : Dialect} {reversed : Bool}
  {R : List ρ}

theorem order_swap (a b : ρ) : r.order d reversed b a = (r.order d reversed a b).swap := by
  apply compareBy_swap
  intro key hkey
  obtain ⟨k, -, rfl⟩ := List.mem_map.1 hkey
  exact r.byExpression_swap k.expression a b

theorem order_not (a b : ρ) : r.order d (!reversed) a b = (r.order d reversed a b).swap := by
  rw [order, order, ← compareBy_flipped, List.map_map]
  cases reversed <;> simp [Function.comp_def]

theorem outerOrder_not (keys : List (String × Direction)) (a b : ρ) :
    r.outerOrder keys (!reversed) a b = (r.outerOrder keys reversed a b).swap := by
  rw [outerOrder, outerOrder, ← compareBy_flipped, List.map_map]
  simp only [Direction.effective_not, Function.comp_def]

/-- An order around the query, by names that denote its sort keys. -/
theorem outerOrder_eq {keys : List (String × Direction)}
    (hkeys : (s.clauses d).outerKeys = .ok keys) (hnames : r.NamesDenote d R) {a b : ρ}
    (ha : a ∈ R) (hb : b ∈ R) : r.outerOrder keys reversed a b = r.order d reversed a b := by
  refine (compareBy_congr ?_).symm
  rw [List.forall₂_map_left_iff, List.forall₂_map_right_iff]
  have named := (List.forall₂_and_left _ _).2
    ⟨fun k (hk : k ∈ (s.clauses d).order) => hk, Clauses.forall₂_outerKeys hkeys⟩
  refine named.imp ?_
  rintro k ⟨name, direction⟩ ⟨hk, hname, rfl⟩
  exact ⟨(hnames k hk name hname a ha b hb).symm, rfl⟩

end RowReading

variable {σ ρ : Type*} [DecidableEq ρ] {s : Select} {r : RowReading s σ ρ} {d : Dialect}
  {reversed : Bool} {R : List ρ}

namespace RowReading

theorem Lists.ranked (h : r.Lists d reversed R) : Ranked (r.order d reversed) R := by
  refine h.2.imp ?_
  intro a b hab
  have hba : r.order d reversed b a = .gt := by
    rw [order_swap, hab]
    rfl
  exact ⟨hab, hba⟩

theorem Lists.ranked_reverse (h : r.Lists d reversed R) :
    Ranked (r.order d (!reversed)) R.reverse :=
  h.ranked.reverse order_not

theorem Lists.outer_ranked (h : r.Lists d reversed R) {keys : List (String × Direction)}
    (hkeys : (s.clauses d).outerKeys = .ok keys) (hnames : r.NamesDenote d R) :
    Ranked (r.outerOrder keys reversed) R := by
  refine h.ranked.congr ?_
  intro a ha b hb
  exact outerOrder_eq hkeys hnames ha hb

end RowReading

end ParamSql
