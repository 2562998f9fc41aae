import ParamSql.Proofs.Statement.Root

/-!
# Dialects of nested queries

Every query holds the dialect it was made for. A statement is written in the
dialect of its root alone: what the queries inside it say of their own dialects,
at any depth, changes neither the text nor the parameters nor the error. A query
inside a statement is written as it would be on its own, had it been made for
the dialect of that statement.
-/

namespace ParamSql

theorem Document.Related.eq_of_eq {d e : Document} (h : d.Related Eq e) : d = e := by
  induction h with
  | nil => rfl
  | cons hpiece _ ih =>
    cases hpiece with
    | token _ => rw [ih]
    | hole hp => rw [hp, ih]
    | fault _ => rw [ih]

/-- The document of a nested query asks for the dialect around it only. -/
theorem Select.document_eq_rootDocument (s : Select) (d : Dialect) :
    s.document d = ({ s with dialect := d } : Select).rootDocument none false := by
  cases s
  rfl

namespace RootStatement

/-- Statements that differ at most in the dialects of their nested queries. -/
def SameButNestedDialects (r r' : RootStatement) : Prop := r.Corresponds (fun _ _ => True) Eq r'

theorem SameButNestedDialects.document_eq {r r' : RootStatement} (h : r.SameButNestedDialects r') :
    r.document = r'.document :=
  (Corresponds.document h).eq_of_eq

/-- Dialects stored inside a statement are never seen from outside it, and a
nested query is the root query of the dialect around it. -/
theorem rendering_independent_of_nested_dialects :
    (∀ r r' : RootStatement, r.SameButNestedDialects r' →
      r.output = r'.output ∧ r.render = r'.render) ∧
    ∀ (s : Select) (d : Dialect) (b : Binder),
      (s.document d).fill b =
        (({ s with dialect := d } : Select).rootDocument none false).fill b := by
  constructor
  · intro r r' h
    have document : r.document = r'.document := h.document_eq
    have dialect : r.dialect = r'.dialect := Corresponds.dialect_eq h
    constructor
    · simp only [output, document]
    · simp only [render, document, dialect]
  · intro s d b
    rw [s.document_eq_rootDocument d]

/-- An aggregate, a page, an alias and a placeholder, in queries of five other
dialects nested in one another, are written in the dialect of the update. -/
theorem rendering_independent_of_nested_dialects_mixed :
    let update (d₁ d₂ d₃ : Dialect) : RootStatement := .update
      { dialect := .oracle
        table := "t"
        assignments := [.query "a"
          { dialect := d₁
            source := .query
              { dialect := d₂
                source := .table "u"
                fields := [(Field.column "b").withAggregate .var]
                filter := some (.inQuery "c" false
                  { dialect := d₃
                    source := .table "v"
                    filter := some (.basic "e" .equal [.pending "e" (.integer 5)])
                    pagination := .limit 10 5 }) }
            sourceAlias := some "x"
            order := [.ascending "b"]
            pagination := .top 1 }] }
    (update .access .sqlServer .mySql).SameButNestedDialects (update .sqlite .postgres .access) ∧
      (update .access .sqlServer .mySql).render = (update .sqlite .postgres .access).render ∧
      ∃ x, (update .access .sqlServer .mySql).render = .ok x := by
  intro update
  have same : (update .access .sqlServer .mySql).SameButNestedDialects
      (update .sqlite .postgres .access) := by
    have innermost := List.Forall₂.cons (R := Eq)
      (rfl : Parameter.pending "e" (.integer 5) = .pending "e" (.integer 5)) .nil
    refine ⟨rfl, rfl, .cons ⟨rfl, trivial, ?_, rfl, trivial, rfl, trivial, trivial, rfl, trivial,
      ⟨⟨⟨⟨rfl, rfl⟩, rfl, rfl, rfl⟩, rfl⟩, trivial⟩, rfl, rfl⟩ .nil, trivial⟩
    exact ⟨trivial, rfl, rfl, ⟨⟨⟨rfl, rfl⟩, rfl, rfl, rfl⟩, trivial⟩, rfl, trivial,
      ⟨rfl, rfl, trivial, rfl, rfl, trivial, rfl, trivial, ⟨rfl, rfl, innermost⟩, rfl, trivial,
        trivial, rfl, rfl⟩, rfl, trivial, trivial, rfl, rfl⟩
  exact ⟨same, (rendering_independent_of_nested_dialects.1 _ _ same).2, _, rfl⟩

end RootStatement

end ParamSql
