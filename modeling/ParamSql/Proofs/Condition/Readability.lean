import ParamSql.Proofs.Binding.Alignment
import ParamSql.Proofs.Condition.Reader

/-!
# What conditions are rendered into can be read back

The tokens of a rendered condition, with the columns and values of its
parameters, tell which condition it was. Nothing but the brackets keeps apart
the AND between the bounds of a range from the AND between two conditions, and
the NOT in front of LIKE, BETWEEN and IN from the NOT in front of a condition.
What the tokens and values leave out is how a parameter got its name and how
its value is stored.
-/

namespace ParamSql

namespace Parameter

def content (p : Parameter) : String × Value := (p.column, p.value)

/-- The pending parameter of the same content. -/
def bare (p : Parameter) : Parameter := .pending p.column p.value

theorem content_eq_of_bare_eq {p q : Parameter} (h : p.bare = q.bare) : p.content = q.content := by
  injection h with column _ value _
  exact Prod.ext column value

/-- A name is given to a parameter without change to its content. -/
theorem NamedAs.content_eq {p q : Parameter} (h : NamedAs p q) : p.content = q.content := by
  cases h <;> rfl

end Parameter

theorem Binder.map_content_recorded {n : Nat} {ps : List Parameter}
    (h : ∀ p ∈ ps, p.isBound = true) :
    ps.map Parameter.content = (recorded n ps).map Parameter.content := by
  have named := recorded_namedAs n ps
  rw [List.filter_eq_self.2 h] at named
  rw [← List.forall₂_eq_eq_eq, List.forall₂_map_left_iff, List.forall₂_map_right_iff]
  exact named.imp fun _ _ hp => hp.content_eq

namespace Document

/-- Tokens as a document again, with a pending parameter in the place of each
placeholder. -/
def refill : List Token → List (String × Value) → Document
  | .placeholder _ :: tokens, (column, value) :: contents =>
    .hole (.pending column value) :: refill tokens contents
  | t :: tokens, contents => .token t :: refill tokens contents
  | [], _ => []

theorem refill_cons {t : Token} (h : ∀ name, t ≠ .placeholder name) (tokens : List Token)
    (contents : List (String × Value)) :
    refill (t :: tokens) contents = .token t :: refill tokens contents := by
  cases t with
  | placeholder name => exact absurd rfl (h name)
  | _ => rfl

/-- What a document was filled with, put into the place of the placeholders. -/
theorem Related.refill {d e : Document} {b b' : Binder} {tokens : List Token}
    (h : d.Related (fun p q => p.isBound = true ∧ q = p.bare) e)
    (hfill : d.fill b = .ok (tokens, b')) :
    Document.refill tokens (d.holes.map Parameter.content) = e := by
  induction h generalizing b tokens with
  | nil =>
    cases hfill
    rfl
  | cons hpiece _ ih =>
    cases hpiece with
    | token ht =>
      obtain ⟨tail, rfl, htail⟩ := fill_token_eq_ok.1 hfill
      rw [refill_cons ht, Document.holes, ih htail]
    | @hole p q hp =>
      obtain ⟨hbound, rfl⟩ := hp
      obtain ⟨tail, rfl, htail⟩ := fill_hole_eq_ok.1 hfill
      have placeholder : ∃ name, (b.bind p).1 = .placeholder name := by
        cases p with
        | raw column sql type => contradiction
        | bound column name value type => cases name <;> exact ⟨_, rfl⟩
      obtain ⟨name, hname⟩ := placeholder
      rw [hname, Document.holes, List.map_cons, Parameter.content, Document.refill, ih htail]
      rfl
    | fault e =>
      rw [fill] at hfill
      contradiction

end Document

namespace Condition

def bare : Condition → Condition
  | .basic column operator ps => .basic column operator (ps.map Parameter.bare)
  | .columns left operator right => .columns left operator right
  | .inValues column negated ps => .inValues column negated (ps.map Parameter.bare)
  | .inQuery column negated q => .inQuery column negated q
  | .not c => .not c.bare
  | .list conjunction members => .list conjunction (bareMembers members)
where
  bareMembers : List Condition → List Condition
    | [] => []
    | c :: cs => c.bare :: bareMembers cs

theorem length_bareMembers (cs : List Condition) : (bare.bareMembers cs).length = cs.length := by
  induction cs with
  | nil => rfl
  | cons c cs ih => simp only [bare.bareMembers, List.length_cons, ih]

theorem bound_of_mem_bare {ps : List Parameter} {p : Parameter}
    (hp : p ∈ ps.map Parameter.bare) : p.isBound = true := by
  obtain ⟨q, -, rfl⟩ := List.mem_map.1 hp
  rfl

theorem forall₂_bare {ps : List Parameter} (h : ∀ p ∈ ps, p.isBound = true) :
    List.Forall₂ (fun p q => p.isBound = true ∧ q = p.bare) ps (ps.map Parameter.bare) := by
  rw [List.forall₂_map_right_iff]
  exact List.forall₂_same.2 fun p hp => ⟨h p hp, rfl⟩

theorem forall₂_content {ps qs : List Parameter}
    (h : ps.map Parameter.bare = qs.map Parameter.bare) :
    List.Forall₂ (fun p q => p.content = q.content) ps qs := by
  rw [← List.forall₂_eq_eq_eq, List.forall₂_map_left_iff, List.forall₂_map_right_iff] at h
  exact h.imp fun _ _ => Parameter.content_eq_of_bare_eq

mutual

theorem Readable.bare : ∀ {c : Condition}, c.Readable → c.bare.Readable
  | .basic _ _ _, h => ⟨List.length_map _ |>.trans h.1, fun _ hp => bound_of_mem_bare hp⟩
  | .columns _ _ _, h => h
  | .inValues _ _ _, h => ⟨mt List.map_eq_nil_iff.1 h.1, fun _ hp => bound_of_mem_bare hp⟩
  | .inQuery _ _ _, h => h.elim
  | .not c, h => Readable.bare (c := c) h
  | .list _ members, h =>
    ⟨(length_bareMembers members).symm ▸ h.1, allReadable_bareMembers h.2⟩

theorem allReadable_bareMembers : ∀ {cs : List Condition}, Readable.allReadable cs →
    Readable.allReadable (bare.bareMembers cs)
  | [], _ => trivial
  | _ :: _, h => ⟨Readable.bare h.1, allReadable_bareMembers h.2⟩

end

mutual

theorem Readable.corresponds_bare : ∀ {c : Condition}, c.Readable →
    c.Corresponds Eq (fun p q => p.isBound = true ∧ q = p.bare) c.bare
  | .basic _ _ _, h => ⟨rfl, rfl, forall₂_bare h.2⟩
  | .columns _ _ _, _ => ⟨rfl, rfl, rfl⟩
  | .inValues _ _ _, h => ⟨rfl, rfl, forall₂_bare h.2⟩
  | .inQuery _ _ _, h => h.elim
  | .not c, h => Readable.corresponds_bare (c := c) h
  | .list _ _, h => ⟨rfl, conditionsCorrespond_bareMembers h.2⟩

theorem conditionsCorrespond_bareMembers : ∀ {cs : List Condition}, Readable.allReadable cs →
    ConditionsCorrespond Eq (fun p q => p.isBound = true ∧ q = p.bare) cs (bare.bareMembers cs)
  | [], _ => trivial
  | _ :: _, h => ⟨Readable.corresponds_bare h.1, conditionsCorrespond_bareMembers h.2⟩

end

mutual

/-- Only names and storage types are left out of a bare condition. -/
theorem corresponds_of_bare_eq : ∀ {c e : Condition}, c.bare = e.bare →
    c.Corresponds Eq (fun p q => p.content = q.content) e
  | .basic _ _ _, .basic _ _ _, h => by
    injection h with column operator ps
    exact ⟨column, operator, forall₂_content ps⟩
  | .columns _ _ _, .columns _ _ _, h => by
    injection h with left operator right
    exact ⟨left, operator, right⟩
  | .inValues _ _ _, .inValues _ _ _, h => by
    injection h with column negated ps
    exact ⟨column, negated, forall₂_content ps⟩
  | .inQuery _ _ q, .inQuery _ _ _, h => by
    injection h with column negated hq
    subst hq
    exact ⟨column, negated, q.corresponds_self fun _ _ => rfl⟩
  | .not c, .not e, h => by
    injection h with hc
    exact corresponds_of_bare_eq (c := c) (e := e) hc
  | .list _ _, .list _ _, h => by
    injection h with conjunction members
    exact ⟨conjunction, conditionsCorrespond_of_bareMembers_eq members⟩

theorem conditionsCorrespond_of_bareMembers_eq : ∀ {cs es : List Condition},
    bare.bareMembers cs = bare.bareMembers es →
      ConditionsCorrespond Eq (fun p q => p.content = q.content) cs es
  | [], [], _ => trivial
  | _ :: _, _ :: _, h => by
    injection h with head tail
    exact ⟨corresponds_of_bare_eq head, conditionsCorrespond_of_bareMembers_eq tail⟩

end

end Condition

def Reader.decode? (tokens : List Token) (contents : List (String × Value)) : Option Condition :=
  read? (Document.refill tokens contents)

namespace Condition

theorem Readable.output {c : Condition} (h : c.Readable) (d : Dialect) :
    ∃ tokens ps, (RootStatement.condition d c).output = .ok (tokens, ps) := by
  have read := Reader.run_document d h [] []
  obtain ⟨tokens, b, hfill⟩ :=
    Document.fill_eq_ok_of_no_fault (Reader.fault_notMem_of_run read) {}
  exact ⟨tokens, b.parameters, RootStatement.output_eq_ok.2 ⟨b, hfill, rfl⟩⟩

theorem Readable.decode?_output {c : Condition} (h : c.Readable) {d : Dialect}
    {tokens : List Token} {ps : List Parameter}
    (houtput : (RootStatement.condition d c).output = .ok (tokens, ps)) :
    Reader.decode? tokens (ps.map Parameter.content) = some c.bare := by
  obtain ⟨b, hfill, rfl⟩ := RootStatement.output_eq_ok.1 houtput
  have related : (c.document d).Related (fun p q => p.isBound = true ∧ q = p.bare)
      (c.bare.document d) := Corresponds.document d h.corresponds_bare
  have hbound : ∀ p ∈ (c.document d).holes, p.isBound = true :=
    (List.forall₂_and_left _ _).1 related.holes |>.1
  obtain ⟨-, hparameters, -⟩ := Document.fill_spec related.unfilled hfill
  rw [List.nil_append] at hparameters
  rw [hparameters, ← Binder.map_content_recorded hbound, Reader.decode?, related.refill hfill]
  exact Reader.read?_document h.bare d

/-- Every readable condition is rendered, and the tokens with the contents of the
parameters give it back. Two of them that are rendered alike, in whatever
dialects, are the same but for the names and storage types of their parameters. -/
theorem rendering_read_back :
    (∀ (d : Dialect) (c : Condition), c.Readable →
      ∃ tokens ps, (RootStatement.condition d c).output = .ok (tokens, ps) ∧
        Reader.decode? tokens (ps.map Parameter.content) = some c.bare) ∧
    ∀ (d d' : Dialect) (c c' : Condition), c.Readable → c'.Readable →
      ∀ (tokens : List Token) (ps ps' : List Parameter),
        (RootStatement.condition d c).output = .ok (tokens, ps) →
        (RootStatement.condition d' c').output = .ok (tokens, ps') →
        ps.map Parameter.content = ps'.map Parameter.content →
        c.Corresponds Eq (fun p q => p.content = q.content) c' := by
  constructor
  · intro d c hc
    obtain ⟨tokens, ps, houtput⟩ := hc.output d
    exact ⟨tokens, ps, houtput, hc.decode?_output houtput⟩
  · intro d d' c c' hc hc' tokens ps ps' houtput houtput' hcontent
    have read := hc.decode?_output houtput
    have read' := hc'.decode?_output houtput'
    rw [← hcontent, read] at read'
    exact corresponds_of_bare_eq (Option.some.inj read')

/-- A range in a list in a list, a negated negative test and a membership, once
with parameters that wait for names and once with these names fixed and the
values stored in other ways. -/
theorem rendering_read_back_nested :
    let c (p q r s : Parameter) : Condition :=
      .list .or
        [.list .and [.basic "a" .between [p, q], .not (.basic "b" .notLike [r])],
          .list .or [.inValues "c" true [s], .columns "d" .lessThan "e"]]
    let pending := c (.pending "a" (.integer 1)) (.pending "a" (.integer 2))
      (.pending "b" (.text "x")) (.pending "c" .null)
    let fixed := c (.bound "a" (some "IDX_0") (.integer 1) .object)
      (.bound "a" (some "IDX_1") (.integer 2) .object)
      (.bound "b" (some "IDX_2") (.text "x") .object) (.bound "c" (some "IDX_3") .null .string)
    (∃ tokens ps, (RootStatement.condition .mySql fixed).output = .ok (tokens, ps) ∧
        Reader.decode? tokens (ps.map Parameter.content) = some pending) ∧
      pending.Corresponds Eq (fun p q => p.content = q.content) fixed := by
  intro c pending fixed
  have readable : pending.Readable ∧ fixed.Readable := by
    simp [pending, fixed, c, Readable, Readable.allReadable, Operator.arity, Parameter.pending]
  have same : ∃ tokens ps ps',
      (RootStatement.condition .mySql pending).output = .ok (tokens, ps) ∧
      (RootStatement.condition .mySql fixed).output = .ok (tokens, ps') ∧
      ps.map Parameter.content = ps'.map Parameter.content :=
    ⟨_, _, _, rfl, rfl, rfl⟩
  obtain ⟨tokens, ps, ps', hpending, hfixed, hcontent⟩ := same
  exact ⟨rendering_read_back.1 .mySql fixed readable.2,
    rendering_read_back.2 .mySql .mySql pending fixed readable.1 readable.2 tokens ps ps'
      hpending hfixed hcontent⟩

end Condition

end ParamSql
