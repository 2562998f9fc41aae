import ParamSql.Proofs.Emission.Statement

/-!
# Placeholders and parameters are aligned

The placeholders of a rendered statement, read from left to right, are the
names of its parameters in their order, although parameters are bound as they
are come to and not as they stand in the text. Every parameter is one that the
statement was given, under a name; those that came without one are numbered
from zero on, whatever stands between them.
-/

namespace ParamSql.RootStatement

theorem holes_mem_parameters (r : RootStatement) {p : Parameter} (hp : p ∈ r.document.holes) :
    p ∈ r.parameters := by
  have self : r.Corresponds Eq (fun p q => p = q ∧ p ∈ r.parameters) r :=
    corresponds_self fun p hp => ⟨rfl, hp⟩
  exact self.document.holes_mem hp

/-- Placeholders come into a document by filling it alone. -/
theorem document_unfilled (r : RootStatement) : r.document.Unfilled := by
  have self : r.Corresponds Eq Eq r := corresponds_self fun _ _ => rfl
  exact self.document.unfilled

theorem output_eq_ok {r : RootStatement} {tokens : List Token} {ps : List Parameter} :
    r.output = .ok (tokens, ps) ↔
      ∃ b, r.document.fill {} = .ok (tokens, b) ∧ b.parameters = ps := by
  unfold output
  cases r.document.fill {} <;> simp [Except.map, Prod.ext_iff]

/-- Names in the text, names of the parameters, and where the names come from:
the parameters are those in the holes of the statement, raw ones left out. -/
theorem placeholders_eq_parameter_names (r : RootStatement) {tokens : List Token}
    {ps : List Parameter} (h : r.emitted = .ok (tokens, ps)) :
    r.render = .ok (Token.textOf r.dialect tokens, ps) ∧
      ps.map Parameter.name? = (Token.placeholders tokens).map some ∧
      (∀ p ∈ ps, p.isBound = true ∧ ∃ name, p.name? = some name) ∧
      (∀ p ∈ r.document.holes, p ∈ r.parameters) ∧
      List.Forall₂ Parameter.NamedAs (r.document.holes.filter Parameter.isBound) ps ∧
      Parameter.namesGiven (r.document.holes.filter Parameter.isBound) ps =
        (List.range (r.document.holes.countP Parameter.isPending)).map fun k =>
          some (Binder.indexedName k) := by
  rw [emitted_eq_output] at h
  have rendered : r.render = .ok (Token.textOf r.dialect tokens, ps) := by
    rw [render_eq_output, h]
    rfl
  obtain ⟨b, hfill, rfl⟩ := output_eq_ok.1 h
  obtain ⟨-, hparameters, hnames⟩ := Document.fill_spec r.document_unfilled hfill
  rw [List.nil_append] at hparameters
  refine ⟨rendered, ?_⟩
  rw [hparameters]
  refine ⟨hnames.symm, ?_, ?_, Binder.recorded_namedAs 0 r.document.holes, ?_⟩
  · intro p hp
    exact Binder.bound_of_mem_recorded hp
  · intro p hp
    exact r.holes_mem_parameters hp
  · rw [Binder.namesGiven_recorded, List.range_eq_range']

/-- A deep page ranked by a nested query: what the ranking binds comes first,
then a fixed name, a raw parameter and a pending one of the filter. -/
theorem placeholders_eq_parameter_names_ranked :
    let ranked := select
      { dialect := .sqlServer
        source := .table "t"
        filter := some (.inValues "a" true
          [.oldValue "a" (.integer 1), .sql "a" "b+1", .pending "a" .null])
        order := [⟨.ofQuery
          { dialect := .oracle
            source := .table "u"
            filter := some (.basic "c" .between [.pending "c" .null, .pending "c" .null]) },
          .descending⟩]
        pagination := .limit 10 5 } none true
    ∃ tokens ps, ranked.emitted = .ok (tokens, ps) ∧
      ps.map Parameter.name? = [some "IDX_0", some "IDX_1", some "OLD_a", some "IDX_2"] ∧
      ps.map Parameter.name? = (Token.placeholders tokens).map some := by
  intro ranked
  have rendered : ∃ tokens ps, ranked.emitted = .ok (tokens, ps) ∧
      ps.map Parameter.name? = [some "IDX_0", some "IDX_1", some "OLD_a", some "IDX_2"] :=
    ⟨_, _, rfl, by decide⟩
  obtain ⟨tokens, ps, h, hnames⟩ := rendered
  exact ⟨tokens, ps, h, hnames, (placeholders_eq_parameter_names ranked h).2.1⟩

end ParamSql.RootStatement
