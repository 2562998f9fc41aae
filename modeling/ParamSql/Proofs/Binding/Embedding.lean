import ParamSql.Proofs.Statement.Root

/-!
# Embedding a query into a statement

A query or a condition that is rendered behind other parts of a statement is
rendered as it would be on its own, save that its indexed names start where the
statement stands. No name is taken twice, as long as no fixed name looks like an
indexed one.
-/

namespace ParamSql

namespace Binder

/-- The number in an indexed name. -/
def index? (name : String) : Option Nat :=
  let k := Nat.ofDigitChars 10 (name.toList.drop 4) 0
  if name = indexedName k then some k else none

@[simp] theorem index?_indexedName (k : Nat) : index? (indexedName k) = some k := by
  have digits : (indexedName k).toList.drop 4 = Nat.toDigits 10 k := by simp [indexedName]
  simp only [index?, digits, Nat.ofDigitChars_ten_toDigits, if_true]

theorem index?_eq_some {name : String} {k : Nat} : index? name = some k ↔ name = indexedName k := by
  constructor
  · intro h
    simp only [index?, Option.ite_none_right_eq_some, Option.some.injEq] at h
    obtain ⟨hname, rfl⟩ := h
    exact hname
  · rintro rfl
    exact index?_indexedName k

/-- An indexed name with its number `n` higher; any other name as it is. -/
def shiftedName (n : Nat) (name : String) : String :=
  match index? name with
  | some k => indexedName (n + k)
  | none => name

@[simp] theorem shiftedName_indexedName (n k : Nat) :
    shiftedName n (indexedName k) = indexedName (n + k) := by
  simp [shiftedName]

theorem shiftedName_of_not_prefix {name : String} (h : ¬ "IDX_".toList <+: name.toList) (n : Nat) :
    shiftedName n name = name := by
  unfold shiftedName
  cases hk : index? name with
  | none => rfl
  | some k =>
    obtain rfl := index?_eq_some.1 hk
    exact absurd ⟨(toString k).toList, by simp [indexedName]⟩ h

end Binder

namespace Token

/-- A placeholder under its shifted name; any other token as it is. -/
def shifted (n : Nat) : Token → Token
  | placeholder name => placeholder (Binder.shiftedName n name)
  | t => t

theorem placeholders_shifted (n : Nat) (tokens : List Token) :
    placeholders (tokens.map (shifted n)) = (placeholders tokens).map (Binder.shiftedName n) := by
  induction tokens with
  | nil => rfl
  | cons t rest ih =>
    rw [List.map_cons, ← List.singleton_append, placeholders_append, ih,
      ← List.singleton_append (x := t), placeholders_append, List.map_append]
    cases t <;> rfl

end Token

namespace Parameter

/-- A parameter under its shifted name, with the same column, value and storage type. -/
def shifted (n : Nat) : Parameter → Parameter
  | bound column name value type => bound column (name.map (Binder.shiftedName n)) value type
  | raw column sql type => raw column sql type

/-- A name that a parameter has from the start is none of the indexed ones. -/
def Unindexed (p : Parameter) : Prop :=
  ∀ name ∈ p.name?, ¬ "IDX_".toList <+: name.toList

instance (p : Parameter) : Decidable p.Unindexed :=
  inferInstanceAs (Decidable (∀ name ∈ p.name?, ¬ "IDX_".toList <+: name.toList))

end Parameter

namespace Binder

/-- What a binder becomes when all that `f` did from the start is done behind it. -/
def followedBy (b f : Binder) : Binder :=
  ⟨b.next + f.next, b.parameters ++ f.parameters.map (Parameter.shifted b.next)⟩

@[simp] theorem followedBy_empty (b : Binder) : b.followedBy {} = b := by
  simp [followedBy]

theorem bind_followedBy (b f : Binder) {p : Parameter} (hp : p.Unindexed) :
    (b.followedBy f).bind p = ((f.bind p).1.shifted b.next, b.followedBy (f.bind p).2) := by
  match p with
  | .raw .. => rfl
  | .bound _ (some name) _ _ =>
    have hname := shiftedName_of_not_prefix (hp name rfl) b.next
    simp [bind, followedBy, Token.shifted, Parameter.shifted, hname]
  | .bound _ none _ _ =>
    simp [bind, followedBy, Token.shifted, Parameter.shifted, Nat.add_assoc]

end Binder

namespace Document

theorem Unfilled.head_shifted {t : Token} {rest : Document} (h : Unfilled (.token t :: rest))
    (n : Nat) : t.shifted n = t := by
  cases t with
  | placeholder name => exact absurd List.mem_cons_self (h name)
  | _ => rfl

/-- A whole pass behind others, by induction along the document: the binder
reached is the one reached alone, put behind where the pass began. -/
theorem fill_followedBy {d : Document} (hd : d.Unfilled) (hholes : ∀ p ∈ d.holes, p.Unindexed)
    (b f : Binder) :
    d.fill (b.followedBy f) =
      (d.fill f).map fun (tokens, g) => (tokens.map (Token.shifted b.next), b.followedBy g) := by
  induction d generalizing f with
  | nil => rfl
  | cons piece rest ih =>
    cases piece with
    | token t =>
      simp only [fill, ih hd.tail hholes f]
      cases fill rest f with
      | error e => rfl
      | ok result => simp only [Except.map, List.map_cons, hd.head_shifted]
    | hole p =>
      have hp : p.Unindexed := hholes p List.mem_cons_self
      have hrest := ih hd.tail (fun q hq => hholes q (List.mem_cons_of_mem _ hq)) (f.bind p).2
      simp only [fill, b.bind_followedBy f hp, hrest]
      cases fill rest (f.bind p).2 <;> rfl
    | fault e => rfl

/-- A document that holds nothing but the parameters `ps`, filled behind what a
binder has bound so far. -/
theorem Related.fill_shifted {d : Document} {ps : List Parameter} (hps : ∀ p ∈ ps, p.Unindexed)
    (h : d.Related (fun p q => p = q ∧ p ∈ ps) d) (b : Binder) :
    d.fill b =
      (d.fill {}).map fun (tokens, f) => (tokens.map (Token.shifted b.next), b.followedBy f) := by
  have hholes : ∀ p ∈ d.holes, p.Unindexed := fun p hp => hps p (h.holes_mem hp)
  have behind := fill_followedBy h.unfilled hholes b {}
  rwa [b.followedBy_empty] at behind

end Document

/-- An embedded query or condition is the one rendered on its own with its
names shifted, or fails as that one does. -/
theorem fill_embedded :
    (∀ (s : Select) (d : Dialect) (b : Binder), (∀ p ∈ s.parameters, p.Unindexed) →
      (s.document d).fill b = ((s.document d).fill {}).map fun (tokens, f) =>
        (tokens.map (Token.shifted b.next),
          { next := b.next + f.next
            parameters := b.parameters ++ f.parameters.map (Parameter.shifted b.next) })) ∧
    ∀ (c : Condition) (d : Dialect) (b : Binder), (∀ p ∈ c.parameters, p.Unindexed) →
      (c.document d).fill b = ((c.document d).fill {}).map fun (tokens, f) =>
        (tokens.map (Token.shifted b.next),
          { next := b.next + f.next
            parameters := b.parameters ++ f.parameters.map (Parameter.shifted b.next) }) := by
  constructor
  · intro s d b hs
    have self : s.Corresponds Eq (fun p q => p = q ∧ p ∈ s.parameters) s :=
      s.corresponds_self fun p hp => ⟨rfl, hp⟩
    exact (self.document d).fill_shifted hs b
  · intro c d b hc
    have self : c.Corresponds Eq (fun p q => p = q ∧ p ∈ c.parameters) c :=
      c.corresponds_self fun p hp => ⟨rfl, hp⟩
    exact (self.document d).fill_shifted hc b

/-- A ranked page behind two names given out before. -/
theorem fill_embedded_ranked :
    let ranked : Select :=
      { dialect := .oracle
        source := .table "t"
        filter := some (.inValues "a" true [.pending "a" .null, .newValue "a" (.integer 3)])
        order := [⟨.ofQuery
          { dialect := .mySql
            source := .table "u"
            filter := some (.basic "b" .equal [.pending "b" (.text "x")]) }, .descending⟩]
        pagination := .limit 10 5 }
    let before : Binder :=
      ⟨2, [.bound "a" (some "IDX_0") .null .object, .bound "a" (some "IDX_1") .null .object]⟩
    ∃ x, (ranked.document .sqlServer).fill before = .ok x ∧ x.2.next = 4 ∧
      Token.placeholders x.1 = ["IDX_2", "IDX_3", "NEW_a"] := by
  intro ranked before
  have alone : ∃ x, (ranked.document .sqlServer).fill {} = .ok x ∧ x.2.next = 2 ∧
      Token.placeholders x.1 = ["IDX_0", "IDX_1", "NEW_a"] := by
    simp only [ranked]
    exact ⟨_, rfl, rfl, rfl⟩
  have names : ∀ p ∈ ranked.parameters, p.Unindexed := by decide
  obtain ⟨x, hfill, hnext, hnames⟩ := alone
  have embedded := fill_embedded.1 ranked .sqlServer before names
  rw [hfill] at embedded
  refine ⟨_, embedded, ?_, ?_⟩
  · simp only [hnext, before]
  · rw [Token.placeholders_shifted, hnames]
    decide

end ParamSql
