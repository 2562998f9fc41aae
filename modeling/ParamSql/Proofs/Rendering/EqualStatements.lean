import ParamSql.Proofs.Agreement
import ParamSql.Proofs.Binding.Alignment
import ParamSql.Proofs.Query.Sameness

/-!
# Equal queries are rendered alike

Equality of queries leaves the names and the storage types of parameters out of
account. Neither has a say in what a statement is rendered into but for the
names in its placeholders: equal statements have the same tokens up to these
and equal parameters, or fail for the same reason. Where no parameter comes
with a name, the names given are the same too, and so is the text.
-/

namespace ParamSql

namespace Token

def nameless : Token → Token
  | placeholder _ => placeholder ""
  | t => t

theorem eq_or_placeholders_of_nameless_eq {x y : Token} (h : x.nameless = y.nameless) :
    x = y ∨ ∃ name name', x = placeholder name ∧ y = placeholder name' := by
  cases x <;> cases y <;> simp_all [nameless]

/-- Nothing but the names in placeholders is lost with them. -/
theorem eq_of_nameless_eq {xs ys : List Token} (h : xs.map nameless = ys.map nameless)
    (hnames : placeholders xs = placeholders ys) : xs = ys := by
  induction xs generalizing ys with
  | nil => exact (List.map_eq_nil_iff.1 h.symm).symm
  | cons x xs ih =>
    cases ys with
    | nil => exact nomatch h
    | cons y ys =>
      obtain ⟨hhead, htail⟩ := List.cons.inj h
      rcases eq_or_placeholders_of_nameless_eq hhead with rfl | ⟨name, name', rfl, rfl⟩
      · rw [← List.singleton_append, ← List.singleton_append (l := ys), placeholders_append,
          placeholders_append] at hnames
        rw [ih htail (List.append_cancel_left hnames)]
      · obtain ⟨rfl, hrest⟩ := List.cons.inj hnames
        rw [ih htail hrest]

end Token

theorem Parameter.Same.value_same {p q : Parameter} (h : p.Same q) :
    p.value.same q.value = true :=
  (Bool.and_eq_true_iff.1 (Bool.and_eq_true_iff.1 h).1).2

theorem Parameter.Same.isBound_eq {p q : Parameter} (h : p.Same q) : p.isBound = q.isBound :=
  beq_iff_eq.1 (Bool.and_eq_true_iff.1 h).2

namespace Binder

def SameParameters (b b' : Binder) : Prop :=
  List.Forall₂ Parameter.Same b.parameters b'.parameters

theorem bind_same {p q : Parameter} (h : p.Same q) {b b' : Binder}
    (hparameters : b.SameParameters b') :
    (b.bind p).1.nameless = (b'.bind q).1.nameless ∧
      (b.bind p).2.SameParameters (b'.bind q).2 := by
  cases p with
  | raw column sql type =>
    cases q with
    | raw column' sql' type' =>
      -- raw text is the value of its parameter, so equality does look at it
      have htext : Value.text sql = .text sql' := beq_iff_eq.1 h.value_same
      exact ⟨congrArg Token.raw (Value.text.inj htext), hparameters⟩
    | bound column' name' v' type' => exact nomatch h.isBound_eq
  | bound column name v type =>
    cases q with
    | raw column' sql' type' => exact nomatch h.isBound_eq
    | bound column' name' v' type' =>
      cases name <;> cases name' <;>
        exact ⟨rfl, List.rel_append hparameters (.cons h .nil)⟩

end Binder

/-- Tokens and parameters that differ at most in the names of the parameters and their types. -/
def SameUpToNames (x y : List Token × List Parameter) : Prop :=
  x.1.map Token.nameless = y.1.map Token.nameless ∧ List.Forall₂ Parameter.Same x.2 y.2

namespace Select.Corresponds

variable {R : Parameter → Parameter → Prop} {s t : Select}

theorem dialect_eq (h : s.Corresponds Eq R t) : s.dialect = t.dialect := by
  cases s
  cases t
  exact h.1

theorem withDialect (h : s.Corresponds Eq R t) (d : Dialect) :
    ({ s with dialect := d } : Select).Corresponds Eq R { t with dialect := d } := by
  cases s
  cases t
  exact ⟨rfl, h.2⟩

end Select.Corresponds

namespace RootStatement

/-- Two statements that both fail for the same reason, or are both rendered: into the same
tokens but for the names in placeholders, with parameters that are equal one by one. When no
parameter of either has a name of its own, they have one text. -/
structure RenderedAlike (r r' : RootStatement) : Prop where
  outputs : Agree SameUpToNames r.output r'.output
  texts : (∀ p ∈ r.parameters, p.name? = none) → (∀ p ∈ r'.parameters, p.name? = none) →
    r.render.map Prod.fst = r'.render.map Prod.fst

/-- Names in the text of a statement whose parameters have none of their own. -/
theorem placeholders_of_unnamed {r : RootStatement} (h : ∀ p ∈ r.parameters, p.name? = none)
    {tokens : List Token} {ps : List Parameter} (hout : r.output = .ok (tokens, ps)) :
    (Token.placeholders tokens).map some =
      (List.range' 0 ps.length).map fun k => some (Binder.indexedName k) := by
  obtain ⟨b, hfill, rfl⟩ := output_eq_ok.1 hout
  obtain ⟨-, hparameters, hnames⟩ := Document.fill_spec r.document_unfilled hfill
  rw [List.nil_append] at hparameters
  rw [hnames, hparameters]
  exact Binder.names_recorded_of_unnamed fun p hp => h p (r.holes_mem_parameters hp)

theorem Corresponds.renderedAlike {r r' : RootStatement}
    (h : r.Corresponds Eq Parameter.Same r') : r.RenderedAlike r' := by
  have dialect : r.dialect = r'.dialect := h.dialect_eq
  have start : Binder.SameParameters {} {} := .nil
  have outputs : Agree SameUpToNames r.output r'.output :=
    (h.document.fill_agree Token.nameless (fun hsame hb => Binder.bind_same hsame hb) start).map
      fun x y hxy => hxy
  refine ⟨outputs, ?_⟩
  intro hr hr'
  rw [r.render_eq_output, r'.render_eq_output, dialect]
  cases hx : r.output with
  | error e =>
    rw [hx] at outputs
    generalize r'.output = y at outputs
    cases outputs
    rfl
  | ok x =>
    cases hy : r'.output with
    | error e =>
      rw [hx, hy] at outputs
      exact nomatch outputs
    | ok y =>
      obtain ⟨htokens, hparameters⟩ := outputs.of_ok hx hy
      have names : (Token.placeholders x.1).map some = (Token.placeholders y.1).map some := by
        rw [placeholders_of_unnamed hr hx, placeholders_of_unnamed hr' hy, hparameters.length_eq]
      have tokens : x.1 = y.1 := Token.eq_of_nameless_eq htokens
        ((List.map_inj_right fun _ _ => Option.some.inj).1 names)
      simp only [Except.map, tokens]

end RootStatement

/-- Equal conditions and equal queries are rendered alike in every dialect, in either direction
and whatever number of rows is known. -/
theorem equal_statements_rendered_alike :
    (∀ c e : Condition, c.same e = true → ∀ d : Dialect,
      (RootStatement.condition d c).RenderedAlike (.condition d e)) ∧
    ∀ s t : Select, s.same t = true → ∀ (recordCount : Option UInt64) (reversed : Bool),
      (RootStatement.select s recordCount reversed).RenderedAlike
        (.select t recordCount reversed) ∧
      ∀ d : Dialect,
        (RootStatement.select { s with dialect := d } recordCount reversed).RenderedAlike
          (.select { t with dialect := d } recordCount reversed) := by
  constructor
  · intro c e h d
    have root : (RootStatement.condition d c).Corresponds Eq Parameter.Same (.condition d e) :=
      ⟨rfl, c.corresponds_of_same e h⟩
    exact root.renderedAlike
  · intro s t h recordCount reversed
    have queries : s.Corresponds Eq Parameter.Same t := s.corresponds_of_same t h
    have rooted {s t : Select} (hst : s.Corresponds Eq Parameter.Same t) :
        (RootStatement.select s recordCount reversed).RenderedAlike
          (.select t recordCount reversed) :=
      RootStatement.Corresponds.renderedAlike ⟨hst.dialect_eq, hst, rfl, rfl⟩
    exact ⟨rooted queries, fun d => rooted (queries.withDialect d)⟩

/-- Zero and minus zero, under other names and types, in a deep page and in a nested query. -/
theorem equal_statements_rendered_alike_renamed :
    let query (low high text : Parameter) : Select :=
      { dialect := .sqlServer
        source := .table "t"
        filter := some (.list .or [.basic "a" .between [low, high],
          .inQuery "b" true
            { dialect := .mySql
              source := .table "u"
              filter := some (.inValues "c" false [.sql "c" "c+1", text]) }])
        order := [.ascending "a"]
        pagination := .limit 10 5 }
    let s := query (.newValue "a" (.float (.zero true))) (.pending "a" (.integer 3))
      (.pending "c" (.text "x"))
    let t := query (.bound "a" none (.float (.zero false)) .decimal)
      (.bound "a" (some "N") (.integer 3) .int16) (.oldValue "c" (.text "x"))
    let among (zero : Parameter) : Condition := .inValues "a" false [zero, .sql "a" "b"]
    (s.same t = true ∧ ∃ x y, (RootStatement.select s none true).output = .ok x ∧
      (RootStatement.select t none true).output = .ok y ∧
      Token.placeholders x.1 = ["NEW_a", "IDX_0", "IDX_1"] ∧
      Token.placeholders y.1 = ["IDX_0", "N", "OLD_c"] ∧
      SameUpToNames x y) ∧
    ((among (.pending "a" (.float (.zero true)))).same
        (among (.bound "a" none (.float (.zero false)) .decimal)) = true ∧
      (RootStatement.condition .oracle (among (.pending "a" (.float (.zero true))))).render.map
          Prod.fst =
        (RootStatement.condition .oracle
          (among (.bound "a" none (.float (.zero false)) .decimal))).render.map Prod.fst) := by
  intro query s t among
  have hst : s.same t = true := by decide
  have hzeros : (among (.pending "a" (.float (.zero true)))).same
      (among (.bound "a" none (.float (.zero false)) .decimal)) = true := by decide
  have queries := (equal_statements_rendered_alike.2 s t hst none true).1
  have conditions := equal_statements_rendered_alike.1 _ _ hzeros .oracle
  obtain ⟨x, hx, hxnames⟩ : ∃ x, (RootStatement.select s none true).output = .ok x ∧
      Token.placeholders x.1 = ["NEW_a", "IDX_0", "IDX_1"] := by
    simp only [s, query]
    exact ⟨_, rfl, by decide⟩
  obtain ⟨y, hy, hynames⟩ : ∃ y, (RootStatement.select t none true).output = .ok y ∧
      Token.placeholders y.1 = ["IDX_0", "N", "OLD_c"] := by
    simp only [t, query]
    exact ⟨_, rfl, by decide⟩
  refine ⟨⟨hst, x, y, hx, hy, hxnames, hynames, queries.outputs.of_ok hx hy⟩, hzeros, ?_⟩
  exact conditions.texts (by decide) (by decide)

end ParamSql
