import Mathlib.Data.List.Forall2
import ParamSql.Proofs.Layout.Parentheses

/-!
# Groups of a text

A text is read from left to right, and what stands between a parenthesis and the one that closes
it becomes one item of what stands around it. A balanced text opens nothing that it leaves open
and closes nothing that was open before. So it is read as the same items behind whatever text, and
a text that is one group as one item.
-/

namespace ParamSql.Text

/-- A character, or what stands between a parenthesis and the one that closes it. -/
inductive Item
  | letter (c : Char)
  | group (items : List Item)

def letters (text : String) : List Item := text.toList.map .letter

structure Reading where
  items : List Item := []
  outer : List (List Item) := []

namespace Reading

/-- Read one character more. A closing parenthesis that closes nothing stands for itself. -/
def next : Reading → Char → Reading
  | ⟨items, outer⟩, '(' => ⟨[], items :: outer⟩
  | ⟨items, around :: outer⟩, ')' => ⟨around ++ [.group items], outer⟩
  | ⟨items, outer⟩, c => ⟨items ++ [.letter c], outer⟩

def read (r : Reading) (cs : List Char) : Reading := cs.foldl next r

def add (r : Reading) (items : List Item) : Reading := ⟨r.items ++ items, r.outer⟩

variable (r : Reading)

theorem next_of_ne {c : Char} (hopening : c ≠ '(') (hclosing : c ≠ ')') :
    r.next c = r.add [.letter c] := by
  unfold next
  split
  · contradiction
  · contradiction
  · rfl

theorem read_append (as bs : List Char) : r.read (as ++ bs) = (r.read as).read bs :=
  List.foldl_append

theorem add_append (a b : List Item) : r.add (a ++ b) = (r.add a).add b := by
  simp only [add, List.append_assoc]

end Reading

/-- Behind whatever has been read before, the text is read as these items. -/
def ReadAs (cs : List Char) (items : List Item) : Prop := ∀ r : Reading, r.read cs = r.add items

namespace ReadAs

variable {as bs : List Char} {a b : List Item}

theorem nil : ReadAs [] [] := by
  intro r
  rw [Reading.add, List.append_nil]
  rfl

theorem append (ha : ReadAs as a) (hb : ReadAs bs b) : ReadAs (as ++ bs) (a ++ b) := by
  intro r
  rw [Reading.read_append, ha, hb, Reading.add_append]

theorem plain (hopening : '(' ∉ as) (hclosing : ')' ∉ as) : ReadAs as (as.map .letter) := by
  induction as with
  | nil => exact nil
  | cons c cs ih =>
    rw [List.mem_cons, not_or] at hopening hclosing
    have first : ReadAs [c] [.letter c] := fun r =>
      r.next_of_ne (Ne.symm hopening.1) (Ne.symm hclosing.1)
    exact first.append (ih hopening.2 hclosing.2)

theorem enclosed (h : ReadAs as a) : ReadAs ('(' :: as ++ [')']) [.group a] := by
  intro r
  have inside : (r.next '(').read as = ⟨a, r.items :: r.outer⟩ := h _
  calc r.read ('(' :: as ++ [')'])
    _ = ((r.next '(').read as).next ')' := Reading.read_append _ as [')']
    _ = r.add [.group a] := by rw [inside]; rfl

example : ({} : Reading).read "a(b)".toList = ⟨[.letter 'a', .group [.letter 'b']], []⟩ := rfl

/-- Texts between separators are read one after the other. -/
theorem intercalate {separator : List Char} {between : List Item} (hs : ReadAs separator between)
    {texts : List (List Char)} {items : List (List Item)} (h : List.Forall₂ ReadAs texts items) :
    ReadAs (separator.intercalate texts) (between.intercalate items) := by
  induction h with
  | nil => exact nil
  | @cons text a texts items hfirst hrest ih =>
    cases hrest with
    | nil =>
      rw [List.intercalate_singleton, List.intercalate_singleton]
      exact hfirst
    | cons _ _ =>
      rw [List.intercalate_cons_cons, List.intercalate_cons_cons]
      exact (hfirst.append hs).append ih

end ReadAs

/-- By induction along a text that closes more than is open: up to a first closing parenthesis
everything that is open gets closed, and no more. -/
theorem exists_first_closing {depth : Int} {cs : List Char} (hdepth : 0 ≤ depth)
    (h : depth + excess cs < 0) :
    ∃ inner rest, cs = inner ++ ')' :: rest ∧ depth + excess inner = 0 ∧
      ∀ front, front <+: inner → 0 ≤ depth + excess front := by
  induction cs generalizing depth with
  | nil =>
    rw [excess_nil] at h
    omega
  | cons c cs ih =>
    rw [excess_cons] at h
    by_cases hnext : 0 ≤ depth + excess [c]
    · obtain ⟨inner, rest, rfl, hinner, hfronts⟩ := ih hnext (by omega)
      refine ⟨c :: inner, rest, rfl, ?_, ?_⟩
      · rw [excess_cons]
        omega
      · intro front hfront
        rcases List.prefix_cons_iff.1 hfront with rfl | ⟨tail, rfl, htail⟩
        · rw [excess_nil]
          omega
        · have := hfronts tail htail
          rw [excess_cons]
          omega
    · have hclosing : c = ')' := by
        by_contra hclosing
        by_cases hopening : c = '('
        · rw [hopening, excess_opening, excess_nil] at hnext
          omega
        · rw [excess_of_ne hopening hclosing] at hnext
          omega
      subst hclosing
      rw [excess_closing, excess_nil] at hnext
      refine ⟨[], cs, rfl, ?_, ?_⟩
      · rw [excess_nil]
        omega
      · intro front hfront
        rw [List.prefix_nil.1 hfront, excess_nil]
        omega

namespace Balanced

variable {cs : List Char}

/-- The first parenthesis of a balanced text is closed within it, and on both sides of the one
that closes it the text is balanced. -/
theorem exists_closing (h : Balanced ('(' :: cs)) :
    ∃ inner rest, cs = inner ++ ')' :: rest ∧ Balanced inner ∧ Balanced rest := by
  have whole := h.closed
  rw [excess_opening] at whole
  have negative : 0 + excess cs < 0 := by omega
  obtain ⟨inner, rest, rfl, hinner, hfronts⟩ :=
    exists_first_closing (Int.le_refl 0) negative
  simp only [Int.zero_add] at hinner hfronts
  rw [excess_append, excess_closing] at whole
  refine ⟨inner, rest, rfl, ⟨hfronts, hinner⟩, ⟨?_, by omega⟩⟩
  intro front hfront
  have reached : '(' :: inner ++ ')' :: front <+: '(' :: inner ++ ')' :: rest := by
    rw [List.prefix_append_right_inj, List.cons_prefix_cons]
    exact ⟨rfl, hfront⟩
  have := h.fronts _ reached
  rw [List.cons_append, excess_opening, excess_append, excess_closing] at this
  omega

theorem tail {c : Char} (h : Balanced (c :: cs)) (hopening : c ≠ '(') :
    c ≠ ')' ∧ Balanced cs := by
  have hclosing : c ≠ ')' := by
    rintro rfl
    have := h.fronts [')'] (by simp)
    exact absurd this (by decide)
  have zero := excess_of_ne hopening hclosing
  refine ⟨hclosing, ?_, ?_⟩
  · intro front hfront
    have := h.fronts (c :: front) (List.cons_prefix_cons.2 ⟨rfl, hfront⟩)
    rw [excess_cons] at this
    omega
  · have := h.closed
    rw [excess_cons] at this
    omega

/-- By recursion on the length: a group in front is read to where it is closed, and then all that
is behind it. -/
theorem exists_readAs : ∀ {cs : List Char}, Balanced cs → ∃ items, ReadAs cs items
  | [], _ => ⟨[], .nil⟩
  | c :: cs, h => by
    by_cases hopening : c = '('
    · subst hopening
      obtain ⟨inner, rest, rfl, hinner, hrest⟩ := h.exists_closing
      obtain ⟨a, ha⟩ := exists_readAs hinner
      obtain ⟨b, hb⟩ := exists_readAs hrest
      have parts : '(' :: (inner ++ ')' :: rest) = '(' :: inner ++ [')'] ++ rest := by simp
      rw [parts]
      exact ⟨_, ha.enclosed.append hb⟩
    · obtain ⟨hclosing, htail⟩ := h.tail hopening
      obtain ⟨items, hitems⟩ := exists_readAs htail
      have first : ReadAs [c] [.letter c] := fun r => r.next_of_ne hopening hclosing
      exact ⟨_, first.append hitems⟩
termination_by cs => cs.length

end Balanced

/-- A text that begins with a parenthesis which its last character closes: everything between
the two is within the parenthesis. -/
structure ClosedGroup (cs : List Char) : Prop where
  first : cs.head? = some '('
  last : cs.getLast? = some ')'
  closed : excess cs = 0
  inside : ∀ front, front <+: cs → front ≠ [] → front ≠ cs → 1 ≤ excess front

instance (cs : List Char) : Decidable (ClosedGroup cs) :=
  decidable_of_iff (cs.head? = some '(' ∧ cs.getLast? = some ')' ∧ excess cs = 0 ∧
      ∀ front ∈ cs.inits, front ≠ [] → front ≠ cs → 1 ≤ excess front)
    ⟨fun h => ⟨h.1, h.2.1, h.2.2.1, fun front hfront =>
        h.2.2.2 front ((List.mem_inits front cs).2 hfront)⟩,
      fun h => ⟨h.first, h.last, h.closed, fun front hfront =>
        h.inside front ((List.mem_inits front cs).1 hfront)⟩⟩

theorem Balanced.closedGroup {inner : List Char} (h : Balanced inner) :
    ClosedGroup ('(' :: inner ++ [')']) := by
  refine ⟨rfl, List.getLast?_concat, ?_, ?_⟩
  · rw [excess_append, excess_opening, h.closed]
    rfl
  · intro front hfront hne hproper
    rcases List.prefix_concat_iff.1 hfront with rfl | hfront
    · exact absurd rfl hproper
    · rcases List.prefix_cons_iff.1 hfront with rfl | ⟨tail, rfl, htail⟩
      · exact absurd rfl hne
      · have := h.fronts tail htail
        rw [excess_opening]
        omega

namespace ClosedGroup

variable {cs : List Char}

theorem exists_inner (h : ClosedGroup cs) :
    ∃ inner, cs = '(' :: inner ++ [')'] ∧ Balanced inner := by
  obtain ⟨tail, rfl⟩ := List.head?_eq_some_iff.1 h.first
  obtain ⟨front, hfront⟩ := List.getLast?_eq_some_iff.1 h.last
  cases front with
  | nil => exact absurd (List.cons.inj hfront).1 (by decide)
  | cons c inner =>
    obtain ⟨rfl, rfl⟩ : '(' = c ∧ tail = inner ++ [')'] := List.cons.inj hfront
    have whole := h.closed
    rw [excess_opening, excess_append, excess_closing, excess_nil] at whole
    refine ⟨inner, rfl, ?_, by omega⟩
    intro part hpart
    have proper : '(' :: part ≠ '(' :: (inner ++ [')']) := by
      intro heq
      have length := congrArg List.length heq
      have := hpart.length_le
      rw [List.length_cons, List.length_cons, List.length_append, List.length_singleton] at length
      omega
    have := h.inside ('(' :: part)
      (List.cons_prefix_cons.2 ⟨rfl, hpart.trans (List.prefix_append inner [')'])⟩)
      (List.cons_ne_nil _ _) proper
    rw [excess_opening] at this
    omega

theorem balanced (h : ClosedGroup cs) : Balanced cs := by
  refine ⟨?_, h.closed⟩
  intro front hfront
  by_cases hnil : front = []
  · exact Int.le_of_eq (by rw [hnil, excess_nil])
  · by_cases hwhole : front = cs
    · exact Int.le_of_eq (by rw [hwhole, h.closed])
    · have := h.inside front hfront hnil hwhole
      omega

theorem exists_readAs (h : ClosedGroup cs) : ∃ items, ReadAs cs [.group items] := by
  obtain ⟨inner, rfl, hinner⟩ := h.exists_inner
  obtain ⟨items, hitems⟩ := hinner.exists_readAs
  exact ⟨items, hitems.enclosed⟩

end ClosedGroup

end ParamSql.Text
