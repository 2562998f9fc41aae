import ParamSql.Proofs.Document.Filling
import ParamSql.Proofs.Layout.Tokens
import ParamSql.Proofs.Predicate.Translation
import ParamSql.Rendering.Query

/-!
# Lists of conditions are flat

A list that the connectives build has two members or more, and none of them is a list of the
same conjunction. Every condition that is put together from single ones and translated
predicates is of this form, however it is, and none of its lists is written as empty brackets.
-/

namespace ParamSql

namespace Document

theorem mem_tokens_of_fill {d : Document} {b b' : Binder} {tokens : List Token} {t : Token}
    (ht : .token t ∈ d) (h : d.fill b = .ok (tokens, b')) : t ∈ tokens := by
  induction d generalizing b tokens with
  | nil => exact absurd ht List.not_mem_nil
  | cons piece rest ih =>
    cases piece with
    | token u =>
      obtain ⟨tail, rfl, htail⟩ := fill_token_eq_ok.1 h
      rcases List.mem_cons.1 ht with hu | ht
      · cases hu
        exact List.mem_cons_self
      · exact List.mem_cons_of_mem _ (ih ht htail)
    | hole p =>
      obtain ⟨tail, rfl, htail⟩ := fill_hole_eq_ok.1 h
      rcases List.mem_cons.1 ht with hu | ht
      · exact nomatch hu
      · exact List.mem_cons_of_mem _ (ih ht htail)
    | fault e => exact nomatch h

theorem space_mem_separatedBy {separator : Document} (hs : .token .space ∈ separator)
    {ds : List Document} (hds : 2 ≤ ds.length) : .token .space ∈ separatedBy separator ds := by
  match ds with
  | first :: second :: rest =>
    have unfolded : separatedBy separator (first :: second :: rest) =
        first ++ separator ++ separatedBy separator (second :: rest) := rfl
    rw [unfolded, List.mem_append, List.mem_append]
    exact .inl (.inr hs)

end Document

namespace Condition

/-- A condition and all that it negates or joins. What filters a query inside of it belongs to
that query. -/
inductive Within (c : Condition) : Condition → Prop
  | self : Within c c
  | not {inner : Condition} (h : Within c inner) : Within c (.not inner)
  | list {conjunction : Conjunction} {members : List Condition} {m : Condition}
    (hm : m ∈ members) (h : Within c m) : Within c (.list conjunction members)

/-- Members of a list of a conjunction: two or more, and no list of that conjunction. -/
structure Members (conjunction : Conjunction) (members : List Condition) : Prop where
  two_le_length : 2 ≤ members.length
  not_list : ∀ m ∈ members, ∀ inner, m ≠ .list conjunction inner

def Flat (c : Condition) : Prop :=
  ∀ conjunction members, Within (.list conjunction members) c → Members conjunction members

/-- A condition that neither negates nor joins others. -/
def Single : Condition → Prop
  | basic .. | columns .. | inValues .. | inQuery .. => True
  | not _ | list .. => False

section Flat

theorem Single.flat {c : Condition} (h : c.Single) : c.Flat := by
  intro conjunction members hlist
  cases hlist with
  | self => exact h.elim
  | not => exact h.elim
  | list => exact h.elim

theorem Flat.not {c : Condition} (h : c.Flat) : (Condition.not c).Flat := by
  intro conjunction members hlist
  cases hlist with
  | not hinner => exact h conjunction members hinner

theorem Flat.members {conjunction : Conjunction} {members : List Condition}
    (h : (list conjunction members).Flat) : Members conjunction members :=
  h conjunction members .self

theorem Flat.member {conjunction : Conjunction} {members : List Condition}
    (h : (list conjunction members).Flat) {m : Condition} (hm : m ∈ members) : m.Flat := by
  intro inner ms hlist
  exact h inner ms (.list hm hlist)

theorem Members.flat {conjunction : Conjunction} {members : List Condition}
    (h : Members conjunction members) (each : ∀ m ∈ members, m.Flat) :
    (list conjunction members).Flat := by
  intro inner ms hlist
  cases hlist with
  | self => exact h
  | list hm hinner => exact each _ hm inner ms hinner

/-- What a flat condition adds to a list: itself, or the members of a list of that conjunction. -/
theorem Flat.membersFor {c : Condition} (h : c.Flat) (conjunction : Conjunction) :
    0 < (c.membersFor conjunction).length ∧
      ∀ m ∈ c.membersFor conjunction, m.Flat ∧ ∀ inner, m ≠ .list conjunction inner := by
  have alone (hc : ∀ inner, c ≠ .list conjunction inner) :
      0 < [c].length ∧ ∀ m ∈ [c], m.Flat ∧ ∀ inner, m ≠ .list conjunction inner := by
    refine ⟨Nat.one_pos, fun m hm => ?_⟩
    obtain rfl := List.mem_singleton.1 hm
    exact ⟨h, hc⟩
  cases c with
  | list inner members =>
    by_cases hsame : inner = conjunction
    · subst hsame
      have own := h.members
      simp only [Condition.membersFor, if_true]
      refine ⟨by have := own.two_le_length; omega, fun m hm => ?_⟩
      exact ⟨h.member hm, own.not_list m hm⟩
    · simp only [Condition.membersFor, if_neg hsame]
      refine alone fun ms heq => ?_
      injection heq with hconjunction
      exact hsame hconjunction
  | _ =>
    refine alone fun ms heq => ?_
    cases heq

theorem Flat.combine {a b : Condition} (ha : a.Flat) (hb : b.Flat) (conjunction : Conjunction) :
    (Condition.combine conjunction a b).Flat := by
  obtain ⟨hleft, left⟩ := ha.membersFor conjunction
  obtain ⟨hright, right⟩ := hb.membersFor conjunction
  have each : ∀ m ∈ a.membersFor conjunction ++ b.membersFor conjunction,
      m.Flat ∧ ∀ inner, m ≠ .list conjunction inner := by
    intro m hm
    rcases List.mem_append.1 hm with hm | hm
    · exact left m hm
    · exact right m hm
  have members : Members conjunction (a.membersFor conjunction ++ b.membersFor conjunction) := by
    refine ⟨?_, fun m hm => (each m hm).2⟩
    rw [List.length_append]
    omega
  exact members.flat fun m hm => (each m hm).1

theorem flat_combineOptional {a b : Option Condition} (ha : ∀ c ∈ a, c.Flat)
    (hb : ∀ c ∈ b, c.Flat) (conjunction : Conjunction) :
    ∀ c ∈ combineOptional conjunction a b, c.Flat :=
  forall_combineOptional (fun _ _ hleft hright => hleft.combine hright conjunction) ha hb

theorem flat_joined {cs : List Condition} (h : ∀ c ∈ cs, c.Flat) (conjunction : Conjunction) :
    ∀ c ∈ joined conjunction cs, c.Flat :=
  forall_joined (fun _ _ hleft hright => hleft.combine hright conjunction) h

end Flat

end Condition

namespace Predicate

open Condition (Single Flat)

theorem CallBecomes.single {column : Column} {m : Method} {arguments : List Predicate}
    {c : Condition} (h : CallBecomes column m arguments c) : c.Single := by
  cases h <;> trivial

/-- By induction along the forms of a predicate, its condition joins flat ones. -/
theorem Becomes.flat {resolve : Resolver} {p : Predicate} {c : Condition}
    (h : Becomes resolve p c) : c.Flat := by
  induction h with
  | and _ _ hleft hright => exact hleft.combine hright .and
  | or _ _ hleft hright => exact hleft.combine hright .or
  | not _ ih => exact ih.not
  | call _ h => exact h.single.flat
  | _ => exact Single.flat trivial

end Predicate

namespace Condition

/-- A condition that no list has been written into by hand: a single one, or what comes of the
connectives and of predicates. -/
inductive Composed : Condition → Prop
  | single {c : Condition} (h : c.Single) : Composed c
  | not {c : Condition} (h : Composed c) : Composed (.not c)
  | combine (conjunction : Conjunction) {a b : Condition} (ha : Composed a) (hb : Composed b) :
    Composed (combine conjunction a b)
  | combineOptional (conjunction : Conjunction) {a b : Option Condition}
    (ha : ∀ c ∈ a, Composed c) (hb : ∀ c ∈ b, Composed c) {c : Condition}
    (hc : c ∈ combineOptional conjunction a b) : Composed c
  | joined (conjunction : Conjunction) {cs : List Condition} (h : ∀ c ∈ cs, Composed c)
    {c : Condition} (hc : c ∈ joined conjunction cs) : Composed c
  | translated {resolve : Resolver} {p : Predicate} {c : Condition}
    (h : p.toCondition resolve = .ok c) : Composed c

theorem Composed.flat {c : Condition} (h : c.Composed) : c.Flat := by
  induction h with
  | single h => exact h.flat
  | not _ ih => exact ih.not
  | combine conjunction _ _ ha hb => exact ha.combine hb conjunction
  | combineOptional conjunction _ _ hc ha hb => exact flat_combineOptional ha hb conjunction _ hc
  | joined conjunction _ hc ih => exact flat_joined ih conjunction _ hc
  | translated h => exact (Predicate.becomes_of_toCondition h).flat

theorem length_conditionDocuments (d : Dialect) (cs : List Condition) :
    (conditionDocuments d cs).length = cs.length := by
  induction cs with
  | nil => rfl
  | cons c cs ih => rw [conditionDocuments, List.length_cons, List.length_cons, ih]

/-- A list of two members or more is not written as empty brackets: there is a blank in it. -/
theorem Members.text_ne {conjunction : Conjunction} {members : List Condition}
    (h : Members conjunction members) {d : Dialect} {b b' : Binder} {tokens : List Token}
    (hfill : ((list conjunction members).document d).fill b = .ok (tokens, b')) :
    Token.textOf d tokens ≠ "()" := by
  have separated : .token .space ∈ Document.separatedBy (Document.clause conjunction.keyword)
      (conditionDocuments d members) := by
    refine Document.space_mem_separatedBy List.mem_cons_self ?_
    rw [length_conditionDocuments]
    exact h.two_le_length
  have inside : .token .space ∈ (list conjunction members).document d :=
    List.mem_cons_of_mem _ (List.mem_append_left _ separated)
  have blank : ' ' ∈ Token.chars d tokens := by
    obtain ⟨front, back, rfl⟩ :=
      List.append_of_mem (Document.mem_tokens_of_fill inside hfill)
    simp [Token.text, Mark.text]
  intro htext
  rw [Token.chars, htext] at blank
  simp at blank

end Condition

end ParamSql
