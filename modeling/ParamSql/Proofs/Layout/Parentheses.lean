import Mathlib.Data.List.Infix

/-!
# Parentheses

How many parentheses a text leaves open, and texts that close each parenthesis
they open and no other.
-/

namespace ParamSql.Text

/-- Parentheses that a text opens beyond those that it closes. -/
def excess (cs : List Char) : Int := cs.count '(' - cs.count ')'

@[simp] theorem excess_nil : excess [] = 0 := rfl

@[simp] theorem excess_append (as bs : List Char) :
    excess (as ++ bs) = excess as + excess bs := by
  simp only [excess, List.count_append]
  omega

theorem excess_cons (c : Char) (cs : List Char) : excess (c :: cs) = excess [c] + excess cs :=
  excess_append [c] cs

theorem excess_of_ne {c : Char} (hopening : c ≠ '(') (hclosing : c ≠ ')') : excess [c] = 0 := by
  simp [excess, hopening, hclosing]

theorem excess_opening (cs : List Char) : excess ('(' :: cs) = excess cs + 1 := by
  have one : excess ['('] = 1 := by decide
  rw [excess_cons, one, Int.add_comm]

theorem excess_closing (cs : List Char) : excess (')' :: cs) = excess cs - 1 := by
  have minusOne : excess [')'] = -1 := by decide
  rw [excess_cons, minusOne]
  omega

/-- No front part closes more than it opens, and in the end everything is closed. -/
structure Balanced (cs : List Char) : Prop where
  fronts : ∀ front, front <+: cs → 0 ≤ excess front
  closed : excess cs = 0

instance (cs : List Char) : Decidable (Balanced cs) :=
  decidable_of_iff ((∀ front ∈ cs.inits, 0 ≤ excess front) ∧ excess cs = 0)
    ⟨fun h => ⟨fun front hfront => h.1 front ((List.mem_inits front cs).2 hfront), h.2⟩,
      fun h => ⟨fun front hfront => h.1 front ((List.mem_inits front cs).1 hfront), h.2⟩⟩

theorem front_of_append {front as bs : List Char} (h : front <+: as ++ bs) :
    front <+: as ∨ ∃ rest, rest <+: bs ∧ front = as ++ rest := by
  rcases List.prefix_or_prefix_of_prefix h (List.prefix_append as bs) with hfront | hfront
  · exact .inl hfront
  · obtain ⟨rest, rfl⟩ := hfront
    exact .inr ⟨rest, (List.prefix_append_right_inj as).1 h, rfl⟩

namespace Balanced

theorem nil : Balanced [] := by decide

theorem append {as bs : List Char} (ha : Balanced as) (hb : Balanced bs) :
    Balanced (as ++ bs) := by
  refine ⟨?_, ?_⟩
  · intro front hfront
    rcases front_of_append hfront with hfront | ⟨rest, hrest, rfl⟩
    · exact ha.fronts front hfront
    · have := hb.fronts rest hrest
      rw [excess_append, ha.closed]
      omega
  · rw [excess_append, ha.closed, hb.closed]
    rfl

theorem of_notMem {cs : List Char} (hopening : '(' ∉ cs) (hclosing : ')' ∉ cs) :
    Balanced cs := by
  have flat : ∀ front, front <+: cs → excess front = 0 := by
    intro front hfront
    have ho : front.count '(' = 0 := List.count_eq_zero.2 fun hmem => hopening (hfront.subset hmem)
    have hc : front.count ')' = 0 := List.count_eq_zero.2 fun hmem => hclosing (hfront.subset hmem)
    rw [excess, ho, hc]
    rfl
  refine ⟨?_, flat cs List.prefix_rfl⟩
  intro front hfront
  have := flat front hfront
  omega

theorem enclosed {opener inner : List Char}
    (hopener : ∀ front ∈ opener.inits, 0 ≤ excess front) (hone : excess opener = 1)
    (hinner : Balanced inner) : Balanced (opener ++ inner ++ [')']) := by
  have hclosing : excess [')'] = -1 := by decide
  refine ⟨?_, ?_⟩
  · intro front hfront
    rcases front_of_append hfront with hfront | ⟨rest, hrest, rfl⟩
    · rcases front_of_append hfront with hfront | ⟨rest, hrest, rfl⟩
      · exact hopener front ((List.mem_inits front opener).2 hfront)
      · have := hinner.fronts rest hrest
        rw [excess_append, hone]
        omega
    · rw [excess_append, excess_append, hone, hinner.closed]
      rcases List.prefix_concat_iff.1 (show rest <+: [] ++ [')'] from hrest) with rfl | hnil
      · rw [List.nil_append, hclosing]
        omega
      · rw [List.prefix_nil.1 hnil, excess_nil]
        omega
  · rw [excess_append, excess_append, hone, hinner.closed, hclosing]
    rfl

end Balanced

theorem balanced_digits (n : Nat) : Balanced (toString n).toList := by
  have digits : ∀ c ∈ (toString n).toList, c.isDigit = true := by
    intro c hc
    simp only [Nat.toString_eq_repr, Nat.toList_repr] at hc
    exact Nat.isDigit_of_mem_toDigits (by decide) (by decide) hc
  refine .of_notMem ?_ ?_
  · intro hmem
    exact absurd (digits _ hmem) (by decide)
  · intro hmem
    exact absurd (digits _ hmem) (by decide)

end ParamSql.Text
