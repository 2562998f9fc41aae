import Mathlib.Data.List.Forall2
import ParamSql.Error

/-!
# Results of computations that may fail

What a success tells of the steps before it, and agreement: two computations
agree when both fail with the same error or both succeed with related results.
-/

namespace ParamSql

theorem ok_of_bind {x : Except Error α} {f : α → Except Error β} {b : β}
    (h : x.bind f = .ok b) : ∃ a, x = .ok a ∧ f a = .ok b := by
  cases x with
  | error e => exact nomatch h
  | ok a => exact ⟨a, rfl, h⟩

theorem error_of_bind {x : Except Error α} {f : α → Except Error β} {e : Error}
    (h : x.bind f = .error e) : x = .error e ∨ ∃ a, x = .ok a ∧ f a = .error e := by
  cases x with
  | error e' => exact .inl (congrArg Except.error (Except.error.inj h))
  | ok a => exact .inr ⟨a, rfl, h⟩

theorem error_of_map {x : Except Error α} {f : α → β} {e : Error} (h : x.map f = .error e) :
    x = .error e := by
  cases x with
  | error e' => exact congrArg Except.error (Except.error.inj h)
  | ok a => exact nomatch h

theorem ok_of_map {x : Except Error α} {f : α → β} {b : β} (h : x.map f = .ok b) :
    ∃ a, x = .ok a ∧ f a = b := by
  cases x with
  | error e => exact nomatch h
  | ok a => exact ⟨a, rfl, Except.ok.inj h⟩

theorem forall₂_of_mapM {α β : Type*} {f : α → Except Error β} {xs : List α} {ys : List β}
    (h : xs.mapM f = .ok ys) : List.Forall₂ (fun x y => f x = .ok y) xs ys := by
  induction xs generalizing ys with
  | nil =>
    obtain rfl : [] = ys := Except.ok.inj h
    exact .nil
  | cons x xs ih =>
    rw [List.mapM_cons] at h
    cases hx : f x with
    | error e =>
      rw [hx] at h
      contradiction
    | ok y =>
      cases hxs : xs.mapM f with
      | error e =>
        rw [hx, hxs] at h
        contradiction
      | ok rest =>
        rw [hx, hxs] at h
        obtain rfl : y :: rest = ys := Except.ok.inj h
        exact .cons hx (ih hxs)

theorem error_of_mapM {α β : Type*} {f : α → Except Error β} {xs : List α} {e : Error}
    (h : xs.mapM f = .error e) : ∃ x ∈ xs, f x = .error e := by
  induction xs with
  | nil => exact nomatch h
  | cons x xs ih =>
    rw [List.mapM_cons] at h
    cases hx : f x with
    | error e' =>
      rw [hx] at h
      obtain rfl : e' = e := Except.error.inj h
      exact ⟨x, List.mem_cons_self, hx⟩
    | ok y =>
      cases hxs : xs.mapM f with
      | error e' =>
        rw [hx, hxs] at h
        obtain rfl : e' = e := Except.error.inj h
        obtain ⟨x', hx', hfail⟩ := ih hxs
        exact ⟨x', List.mem_cons_of_mem _ hx', hfail⟩
      | ok rest =>
        rw [hx, hxs] at h
        exact nomatch h

/-- A computation that does not fail. -/
def Succeeds (x : Except Error α) : Prop := ∃ a, x = .ok a

@[simp] theorem succeeds_ok (a : α) : Succeeds (.ok a) := ⟨a, rfl⟩

@[simp] theorem not_succeeds_error (e : Error) : ¬ Succeeds (.error e : Except Error α) := by
  rintro ⟨a, ha⟩
  exact nomatch ha

theorem error_of_not_succeeds {x : Except Error α} (h : ¬ Succeeds x) : ∃ e, x = .error e := by
  cases x with
  | error e => exact ⟨e, rfl⟩
  | ok a => exact absurd (succeeds_ok a) h

theorem succeeds_map {x : Except Error α} {f : α → β} : Succeeds (x.map f) ↔ Succeeds x := by
  cases x <;> simp [Except.map]

theorem succeeds_bind {x : Except Error α} {f : α → Except Error β} :
    Succeeds (x.bind f) ↔ ∃ a, x = .ok a ∧ Succeeds (f a) := by
  cases x <;> simp [Except.bind]

theorem succeeds_bind_iff {x : Except Error α} {f : α → Except Error β} {P : Prop}
    (h : ∀ a, Succeeds (f a) ↔ P) : Succeeds (x.bind f) ↔ Succeeds x ∧ P := by
  rw [succeeds_bind]
  constructor
  · rintro ⟨a, ha, hf⟩
    exact ⟨⟨a, ha⟩, (h a).1 hf⟩
  · rintro ⟨⟨a, ha⟩, hP⟩
    exact ⟨a, ha, (h a).2 hP⟩

theorem succeeds_bind_ok {x : Except Error α} {f : α → β} :
    Succeeds (x.bind fun a => .ok (f a)) ↔ Succeeds x := by
  rw [← and_true (Succeeds x)]
  exact succeeds_bind_iff fun a => iff_of_true (succeeds_ok _) trivial

theorem succeeds_mapM {α β : Type*} {f : α → Except Error β} {xs : List α} :
    Succeeds (xs.mapM f) ↔ ∀ x ∈ xs, Succeeds (f x) := by
  constructor
  · rintro ⟨ys, hys⟩ x hx
    have along := forall₂_of_mapM hys
    clear hys
    induction along with
    | nil => exact absurd hx List.not_mem_nil
    | cons hy _ ih =>
      rcases List.mem_cons.1 hx with rfl | hx
      · exact ⟨_, hy⟩
      · exact ih hx
  · intro h
    by_contra hfail
    obtain ⟨e, he⟩ := error_of_not_succeeds hfail
    obtain ⟨x, hx, hxe⟩ := error_of_mapM he
    have := h x hx
    rw [hxe] at this
    exact not_succeeds_error e this

theorem exists_of_mem_mapM {α β : Type*} {f : α → Except Error β} {xs : List α} {ys : List β}
    (h : xs.mapM f = .ok ys) {y : β} (hy : y ∈ ys) : ∃ x ∈ xs, f x = .ok y := by
  have along := forall₂_of_mapM h
  clear h
  induction along with
  | nil => exact absurd hy List.not_mem_nil
  | cons hx _ ih =>
    rcases List.mem_cons.1 hy with rfl | hy
    · exact ⟨_, List.mem_cons_self, hx⟩
    · obtain ⟨x, hmem, hx⟩ := ih hy
      exact ⟨x, List.mem_cons_of_mem _ hmem, hx⟩

theorem mapM_of_forall₂ {α β : Type*} {f : α → Except Error β} {xs : List α} {ys : List β}
    (h : List.Forall₂ (fun x y => f x = .ok y) xs ys) : xs.mapM f = .ok ys := by
  induction h with
  | nil => rfl
  | cons hx _ ih =>
    rw [List.mapM_cons, hx, ih]
    rfl

theorem mapM_eq_error_of_first {α β : Type*} {f : α → Except Error β} {before after : List α}
    {x : α} {e : Error} (hbefore : ∀ y ∈ before, Succeeds (f y)) (hx : f x = .error e) :
    (before ++ x :: after).mapM f = .error e := by
  induction before with
  | nil =>
    rw [List.nil_append, List.mapM_cons, hx]
    rfl
  | cons y before ih =>
    obtain ⟨z, hz⟩ := hbefore y List.mem_cons_self
    have rest := ih fun y hy => hbefore y (List.mem_cons_of_mem _ hy)
    rw [List.cons_append, List.mapM_cons, hz, rest]
    rfl

inductive Agree (S : α → β → Prop) : Except Error α → Except Error β → Prop
  | error (e : Error) : Agree S (.error e) (.error e)
  | ok {a : α} {b : β} (h : S a b) : Agree S (.ok a) (.ok b)

namespace Agree

variable {S : α → β → Prop} {T : γ → δ → Prop}

theorem bind {x : Except Error α} {y : Except Error β} (h : Agree S x y) {f : α → Except Error γ}
    {g : β → Except Error δ} (hfg : ∀ a b, S a b → Agree T (f a) (g b)) :
    Agree T (x.bind f) (y.bind g) := by
  cases h with
  | error e => exact .error e
  | ok hab => exact hfg _ _ hab

theorem map {x : Except Error α} {y : Except Error β} (h : Agree S x y) {f : α → γ} {g : β → δ}
    (hfg : ∀ a b, S a b → T (f a) (g b)) : Agree T (x.map f) (y.map g) := by
  cases h with
  | error e => exact .error e
  | ok hab => exact .ok (hfg _ _ hab)

theorem of_ok {x : Except Error α} {y : Except Error β} (h : Agree S x y) {a : α} {b : β}
    (hx : x = .ok a) (hy : y = .ok b) : S a b := by
  subst hx hy
  cases h with
  | ok hab => exact hab

theorem refl {S : α → α → Prop} (hS : ∀ a, S a a) (x : Except Error α) : Agree S x x := by
  cases x with
  | error e => exact .error e
  | ok a => exact .ok (hS a)

end Agree

end ParamSql
