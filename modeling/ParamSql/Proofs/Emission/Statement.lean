import ParamSql.Emission.Statement
import ParamSql.Proofs.Emission.Page
import ParamSql.Proofs.Statement.Root

/-!
# Statements are filled with what is emitted

By recursion over the tree of a statement: every part of it binds, when it is rendered, what it
binds by its place in the text. The two orders are the same.
-/

namespace ParamSql

open Document

theorem Select.outerKeys_clauses (s : Select) (d : Dialect) :
    (s.clauses d).outerKeys = Select.outerKeys s.fields s.order := by
  have sees (name : String) : (s.clauses d).projects name =
      (s.fields.isEmpty || s.fields.any fun f =>
        f.isStar || f.outputName?.any (Text.sameIgnoringCase · name)) := by
    rw [Clauses.projects, s.clauses_fields d, List.isEmpty_map, List.any_map]
    rfl
  rw [Clauses.outerKeys, s.clauses_order d, List.mapM_map, Select.outerKeys]
  refine congrFun (congrArg _ (funext fun k => ?_)) _
  simp only [Function.comp_apply, Clauses.outerName, sees]
  cases k.field.outputName? with
  | none => rfl
  | some name =>
    dsimp only
    split <;> rfl

section Tree

variable (d : Dialect)

mutual

theorem Select.parts_eq : ∀ s : Select, s.parts d = (s.clauses d).parts
  | ⟨dialect, source, sourceAlias, fields, distinct, joins, filter, grouping, having, order, p,
      n⟩ => by
    have keys := Select.outerKeys_clauses ⟨dialect, source, sourceAlias, fields, distinct, joins,
      filter, grouping, having, order, p, n⟩ d
    have tables : Emission.joinedSource
        (do return (← source.emit d) ++ sourceAlias.elim [] (Token.tableAlias d))
        (emitJoins d joins) = (joinedSource
          (source.document d ++ sourceAlias.elim [] (tableAlias d))
          (joinDocuments d joins)).emission := by
      rw [emission_joinedSource, emission_append, emission_optionalAlias, emitJoins_eq joins,
        Source.emit_eq source]
      simp only [pure_bind]
    rw [Select.parts, tables, emitFields_eq fields, emitOptional_eq filter,
      emitOptional_eq having, emitOrder_eq order, ← keys]
    cases sourceAlias <;> rfl

theorem Source.emit_eq : ∀ s : Source, s.emit d = (s.document d).emission
  | .table name => rfl
  | .query q => by
    rw [Source.emit, Source.document, emission_parenthesized, Select.parts_eq q,
      Clauses.emission_paginated]

theorem FieldSource.emit_eq : ∀ s : FieldSource, s.emit d = (s.document d).emission
  | .column table name => (emission_qualified table (.identifier name)).symm
  | .all table => (emission_qualified table .star).symm
  | .expression sql => rfl
  | .query q => by
    rw [FieldSource.emit, FieldSource.document, emission_parenthesized, Select.parts_eq q,
      Clauses.emission_paginated]

theorem Field.emitExpression_eq :
    ∀ f : Field, f.emitExpression d = (f.expressionDocument d).emission
  | ⟨source, _, aggregate, distinct⟩ => by
    rw [Field.emitExpression, Field.expressionDocument, emission_applyAggregate,
      FieldSource.emit_eq source]

theorem JoinTarget.emit_eq : ∀ t : JoinTarget, t.emit d = (t.document d).emission
  | .table name => rfl
  | .query q number => by
    simp only [JoinTarget.emit, JoinTarget.document, emission_append, emission_parenthesized,
      emission_tableAlias, Select.parts_eq q, Clauses.emission_paginated, bind_assoc, pure_bind]

theorem Join.emit_eq : ∀ j : Join, j.emit d = (j.document d).emission
  | ⟨kind, currentTable, currentField, target, otherField⟩ => by
    simp only [Join.emit, Join.document, emission_append, emission_joinKind, emission_clause,
      emission_joinCondition, JoinTarget.emit_eq target, bind_assoc, pure_bind,
      List.append_assoc]

theorem Condition.emit_eq : ∀ c : Condition, c.emit d = (c.document d).emission
  | .basic column operator ps => (emission_comparison column operator ps).symm
  | .columns left operator right => (emission_columnComparison left operator right).symm
  | .inValues column negated ps => (emission_valueMembership column negated ps).symm
  | .inQuery column negated q => by
    rw [Condition.emit, Condition.document, emission_membership, Select.parts_eq q,
      Clauses.emission_paginated]
  | .not inner => by
    rw [Condition.emit, Condition.document, emission_negation, Condition.emit_eq inner]
  | .list conjunction members => by
    rw [Condition.emit, Condition.document, emission_conjunctionList, emitConditions_eq members,
      List.mapM_map]
    rfl

theorem emitOptional_eq : ∀ c : Option Condition,
    emitOptional d c = (optionalDocument d c).map emission
  | none => rfl
  | some c => congrArg some (Condition.emit_eq c)

theorem emitFields_eq : ∀ fs : List Field,
    emitFields d fs = (fieldClauses d fs).map (·.document.emission)
  | [] => rfl
  | f :: fs => by
    simp only [emitFields, fieldClauses, List.map_cons, emission_namedField,
      Field.emitExpression_eq f, emitFields_eq fs]

theorem emitOrder_eq : ∀ ks : List OrderKey,
    emitOrder d ks = (orderClauses d ks).map fun k => (k.expression.emission, k.direction)
  | [] => rfl
  | ⟨field, direction⟩ :: ks => by
    simp only [emitOrder, orderClauses, List.map_cons, Field.emitExpression_eq field,
      emitOrder_eq ks]

theorem emitJoins_eq : ∀ js : List Join, emitJoins d js = (joinDocuments d js).map emission
  | [] => rfl
  | j :: js => by
    simp only [emitJoins, joinDocuments, List.map_cons, Join.emit_eq j, emitJoins_eq js]

theorem emitConditions_eq : ∀ cs : List Condition,
    emitConditions d cs = (conditionDocuments d cs).map emission
  | [] => rfl
  | c :: cs => by
    simp only [emitConditions, conditionDocuments, List.map_cons, Condition.emit_eq c,
      emitConditions_eq cs]

end

theorem Select.emit_eq (s : Select) : s.emit d = (s.document d).emission := by
  rw [Select.emit, Select.document, Select.parts_eq, Clauses.emission_paginated]

theorem Assignment.emit_eq (a : Assignment) : a.emit d = (a.document d).emission := by
  cases a with
  | value p => exact (emission_hole p).symm
  | query column inner =>
    rw [Assignment.emit, Assignment.document, emission_parenthesized, Select.emit_eq]

theorem emitFilter_eq (filter : Option Condition) :
    emitFilter d filter = (filterClause d filter).emission := by
  rw [emitFilter, emitOptional_eq, filterClause, Clauses.emission_whereClause]
  cases filter <;> simp [optionalDocument]

end Tree

theorem emitAssignments_eq (as : List Assignment) (e : Document) :
    emitAssignments as e.emission = (requireAssignments as e).emission := by
  cases as <;> rfl

theorem Insert.emit_eq (i : Insert) : i.emit = i.document.emission := by
  have columns : (separatedBy comma (i.assignments.map fun a => identifier a.column)).emission =
      pure (Token.listed (i.assignments.map fun a => [.identifier a.column])) := by
    rw [emission_listed,
      mapM_emission_of_pure fun a : Assignment => emission_identifier a.column, pure_bind]
  have values : Assignment.emit i.dialect = fun a => (a.document i.dialect).emission :=
    funext (Assignment.emit_eq i.dialect)
  rw [Insert.emit, Insert.document, ← emitAssignments_eq, values]
  simp only [emission_append, emission_keyword, emission_clause, emission_identifier,
    emission_space, emission_parenthesized, columns, emission_listed, List.mapM_map,
    Function.comp_def, bind_assoc, pure_bind]
  simp only [List.append_assoc, List.cons_append, List.nil_append]

theorem Update.emit_eq (u : Update) : u.emit = u.document.emission := by
  rw [Update.emit, Update.document, ← emitAssignments_eq]
  simp only [emission_append, emission_keyword, emission_clause, emission_identifier,
    emission_space, emission_token_cons, emission_listed, List.mapM_map, Function.comp_def,
    Assignment.emit_eq, emitFilter_eq, bind_assoc, pure_bind]
  simp only [List.append_assoc, List.cons_append, List.nil_append]

theorem Delete.emit_eq (x : Delete) : x.emit = x.document.emission := by
  rw [Delete.emit, Delete.document]
  simp only [emission_append, emission_keyword, emission_clause, emission_identifier,
    emitFilter_eq, bind_assoc, pure_bind, List.append_assoc, List.cons_append, List.nil_append]

namespace RootStatement

def emit : RootStatement → Emission (List Token)
  | select s recordCount reversed => s.emitRoot recordCount reversed
  | insert i => i.emit
  | update u => u.emit
  | delete x => x.emit
  | condition d c => c.emit d

/-- Tokens emitted for a statement, and the parameters bound on the way. -/
def emitted (r : RootStatement) : Except Error (List Token × List Parameter) :=
  (r.emit {}).map fun (tokens, b) => (tokens, b.parameters)

theorem emit_eq (r : RootStatement) : r.emit = r.document.emission := by
  cases r with
  | select s recordCount reversed =>
    rw [emit, document, Select.emitRoot, Select.rootDocument, Select.parts_eq,
      Clauses.emission_paginated]
  | insert i => exact i.emit_eq
  | update u => exact u.emit_eq
  | delete x => exact x.emit_eq
  | condition d c => exact c.emit_eq d

/-- Binding parameters as they are come to and binding them in the order of the text give the
same statement, or the same error. -/
theorem emitted_eq_output (r : RootStatement) : r.emitted = r.output := by
  rw [emitted, output, emit_eq]
  rfl

end RootStatement

end ParamSql
