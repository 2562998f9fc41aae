import ParamSql.Emission.Query
import ParamSql.Proofs.Document.Filling

/-!
# Documents and what is emitted

A document binds its parameters in the order of the text. It is filled with the tokens that
are emitted part by part, so long as the parts are come to in that order, as those of a fragment
without a query are.
-/

namespace ParamSql

theorem Emission.liftM_ok {α : Type} (a : α) :
    (liftM (Except.ok a : Except Error α) : Emission α) = pure a := rfl

/-- What a document is filled with, from whichever binder. -/
def Document.emission (d : Document) : Emission (List Token) := d.fill

namespace Document

theorem emission_append (d e : Document) :
    (d ++ e).emission = do
      let front ← d.emission
      let back ← e.emission
      return front ++ back := by
  funext b
  simp only [emission, fill_append, bind, StateT.bind]
  cases d.fill b with
  | error _ => rfl
  | ok x =>
    simp only [Except.bind]
    cases e.fill x.2 <;> rfl

@[simp] theorem emission_nil : emission [] = pure [] := rfl

@[simp] theorem emission_ofTokens (tokens : List Token) :
    (ofTokens tokens).emission = pure tokens := by
  funext b
  exact fill_ofTokens tokens b

theorem emission_token_cons (t : Token) (d : Document) :
    emission (.token t :: d) = do return t :: (← d.emission) :=
  (emission_append (ofTokens [t]) d).trans (by rw [emission_ofTokens, pure_bind]; rfl)

@[simp] theorem emission_hole (p : Parameter) :
    emission [.hole p] = do return [← p.emit] := rfl

@[simp] theorem emission_keyword (word : Keyword) :
    (keyword word).emission = pure [.keyword word] := rfl

@[simp] theorem emission_identifier (text : String) :
    (identifier text).emission = pure [.identifier text] := rfl

@[simp] theorem emission_raw (sql : String) : (raw sql).emission = pure [.raw sql] := rfl

@[simp] theorem emission_space : space.emission = pure [.space] := rfl

@[simp] theorem emission_comma : comma.emission = pure [.comma] := rfl

@[simp] theorem emission_clause (word : Keyword) :
    (clause word).emission = pure (Token.clause word) := rfl

theorem emission_parenthesized (d : Document) :
    (parenthesized d).emission = do return Token.parenthesized (← d.emission) := by
  have text : parenthesized d = .token .opening :: (d ++ [.token .closing]) := rfl
  have last : emission [.token .closing] = pure [.closing] := rfl
  simp only [text, emission_token_cons, emission_append, last, bind_assoc, pure_bind,
    Token.parenthesized, List.cons_append]

theorem emission_separatedBy (separator : List Token) (ds : List Document) :
    (separatedBy (ofTokens separator) ds).emission = do
      let parts ← ds.mapM emission
      return separator.intercalate parts := by
  induction ds with
  | nil => simp [separatedBy]
  | cons d ds ih =>
    cases ds with
    | nil => simp [separatedBy]
    | cons e es =>
      have unfolded : separatedBy (ofTokens separator) (d :: e :: es) =
        d ++ ofTokens separator ++ separatedBy (ofTokens separator) (e :: es) := rfl
      rw [unfolded, emission_append, emission_append, ih]
      simp [List.intercalate_cons_cons]

theorem emission_listed (ds : List Document) :
    (separatedBy comma ds).emission = do return Token.listed (← ds.mapM emission) :=
  emission_separatedBy [.comma] ds

/-- Parts that bind nothing can be rendered before one another. -/
theorem mapM_emission_of_pure {α : Type} {f : α → Document} {g : α → List Token}
    (h : ∀ a, (f a).emission = pure (g a)) (as : List α) :
    (as.map f).mapM emission = pure (as.map g) := by
  simp [List.mapM_map, Function.comp_def, h]

theorem emission_rowCount (n : UInt64) :
    (rowCount n).emission = do return [← Emission.rowCount n] := by
  unfold rowCount Emission.rowCount
  split <;> rfl

theorem emission_top (top : Option UInt64) :
    emission (top.elim [] fun n => keyword .TOP ++ space ++ rowCount n ++ space) =
      Emission.topClause top := by
  cases top <;> simp [emission_append, emission_rowCount, Emission.topClause]

theorem emission_groupKey (k : GroupKey) : k.document.emission = pure (Token.groupKey k) := by
  rcases k with ⟨_ | table, name⟩ | sql <;> rfl

theorem emission_groupClause (keys : List GroupKey) :
    emission (if keys = [] then []
      else clause .GROUP_BY ++ separatedBy comma (keys.map GroupKey.document)) =
      pure (Token.groupClause keys) := by
  cases keys with
  | nil => rfl
  | cons k ks =>
    rw [if_neg (List.cons_ne_nil _ _), emission_append, emission_clause, emission_listed,
      mapM_emission_of_pure emission_groupKey]
    rfl

theorem emission_clausePart (word : Keyword) (part : Option Document) :
    emission (part.elim [] (clause word ++ ·)) = Parts.clausePart word (part.map emission) := by
  cases part <;> simp [Parts.clausePart, emission_append]

theorem emission_tableAlias (d : Dialect) (name : String) :
    (tableAlias d name).emission = pure (Token.tableAlias d name) := by
  cases d <;> rfl

theorem emission_optionalAlias (d : Dialect) (name : Option String) :
    emission (name.elim [] (tableAlias d)) = pure (name.elim [] (Token.tableAlias d)) := by
  cases name with
  | none => rfl
  | some name => exact emission_tableAlias d name

theorem emission_qualified (table : Option String) (t : Token) :
    (qualified table [.token t]).emission = pure (Token.qualified table t) := by
  cases table <;> rfl

/-- A query that is rendered before the one around it. Its row count, which stands further in
front, is one that can be written. -/
theorem emission_selectAllFrom (d : Dialect) (inner : Document) {top : Option UInt64}
    (htop : ∀ n ∈ top, n.toNat ≤ 9223372036854775807) (name : Option String) :
    (selectAllFrom d inner top name).emission =
      inner.emission >>= fun tokens => Emission.selectAllFrom d tokens top name := by
  have limit : ∃ tokens, Emission.topClause top = pure tokens := by
    cases top with
    | none => exact ⟨[], rfl⟩
    | some n =>
      have written : Emission.rowCount n = pure (.integer n.toNat) := if_pos (htop n rfl)
      exact ⟨_, by rw [Emission.topClause, written, pure_bind]⟩
  obtain ⟨tokens, hlimit⟩ := limit
  have star : emission [.token .star] = pure [.star] := rfl
  rw [selectAllFrom_eq]
  simp only [emission_append, emission_keyword, emission_space, emission_top, hlimit, star,
    emission_clause, emission_parenthesized, emission_optionalAlias, bind_assoc, pure_bind,
    Emission.selectAllFrom]
  simp only [List.append_assoc, List.cons_append, List.nil_append]

theorem emission_rowNumberRange (column : String) (w : Window) :
    (rowNumberRange column w).emission = Emission.rowNumberRange column w := by
  simp only [rowNumberRange, Emission.rowNumberRange, emission_append, emission_clause,
    emission_identifier, emission_rowCount, bind_assoc, pure_bind, List.append_assoc]

theorem emission_operands (operator : Operator) (ps : List Parameter) :
    (operands operator ps).emission = Emission.operands operator ps := by
  match ps with
  | [] => rfl
  | [p] => simp [operands, Emission.operands, emission_append]
  | [low, high] =>
    simp only [operands, Emission.operands, emission_append, emission_space, emission_hole,
      emission_clause, bind_assoc, pure_bind, List.cons_append, List.nil_append]
  | _ :: _ :: _ :: _ => rfl

theorem emission_comparison (column : String) (operator : Operator) (ps : List Parameter) :
    (comparison column operator ps).emission = Emission.comparison column operator ps := by
  simp only [comparison, Emission.comparison, emission_parenthesized, emission_append,
    emission_identifier, emission_space, emission_ofTokens, emission_operands, bind_assoc,
    pure_bind, List.append_assoc, List.cons_append, List.nil_append]

theorem emission_columnComparison (left : String) (operator : Operator) (right : String) :
    (columnComparison left operator right).emission = pure (Token.parenthesized
      ([.identifier left, .space] ++ operator.tokens ++ [.space, .identifier right])) := by
  simp only [columnComparison, emission_parenthesized, emission_append, emission_identifier,
    emission_space, emission_ofTokens, pure_bind, List.append_assoc, List.cons_append,
    List.nil_append]

theorem emission_membership (column : String) (negated : Bool) (elements : Document) :
    (membership column negated elements).emission = do
      return Token.membership column negated (← elements.emission) := by
  cases negated <;>
    simp [membership, Token.membership, emission_parenthesized, emission_append]

theorem emission_valueMembership (column : String) (negated : Bool) (ps : List Parameter) :
    (valueMembership column negated ps).emission =
      Emission.valueMembership column negated ps := by
  have each (ps : List Parameter) :
      (ps.mapM fun p => do return [← p.emit] : Emission (List (List Token))) = do
        return (← ps.mapM Parameter.emit).map fun t => [t] := by
    induction ps with
    | nil => rfl
    | cons p ps ih => simp only [List.mapM_cons, ih, bind_assoc, pure_bind, List.map_cons]
  unfold valueMembership Emission.valueMembership
  split
  · rfl
  · simp only [emission_membership, emission_listed, List.mapM_map, Function.comp_def,
      emission_hole, each, bind_assoc, pure_bind]

theorem emission_negation (d : Document) :
    (negation d).emission = do
      return Token.parenthesized (.keyword .NOT :: Token.parenthesized (← d.emission)) := by
  simp only [negation, emission_parenthesized, emission_append, emission_keyword, bind_assoc,
    pure_bind, List.cons_append, List.nil_append]

theorem emission_conjunctionList (conjunction : Conjunction) (members : List Document) :
    (conjunctionList conjunction members).emission = do
      let parts ← members.mapM emission
      return Token.parenthesized ((Token.clause conjunction.keyword).intercalate parts) := by
  have separated := emission_separatedBy (Token.clause conjunction.keyword) members
  have text : ofTokens (Token.clause conjunction.keyword) = clause conjunction.keyword := rfl
  rw [text] at separated
  simp only [conjunctionList, emission_parenthesized, separated, bind_assoc, pure_bind]

end Document

open Document

theorem emission_joinKind (kind : JoinKind) :
    kind.document.emission = pure (Token.joinKind kind) := by
  cases kind <;> rfl

theorem emission_joinCondition (currentTable currentField otherTable otherField : String) :
    (joinCondition currentTable currentField otherTable otherField).emission =
      pure (Token.joinCondition currentTable currentField otherTable otherField) := by
  unfold joinCondition Token.joinCondition
  split <;> rfl

theorem emission_joinedSource (source : Document) (joins : List Document) :
    (joinedSource source joins).emission =
      Emission.joinedSource source.emission (joins.map emission) := by
  have closed : (joinedSource.close joins).emission = do
      return Emission.joinedSource.close (← joins.mapM emission) := by
    induction joins with
    | nil => rfl
    | cons j joins ih =>
      cases joins with
      | nil => simp [joinedSource.close, Emission.joinedSource.close, emission_append]
      | cons k ks =>
        simp only [joinedSource.close, emission_append, emission_token_cons, ih, emission_space,
          List.mapM_cons, Emission.joinedSource.close, bind_assoc, pure_bind, List.cons_append,
          List.nil_append]
  have front : emission (List.replicate (joins.length - 1) (.token .opening)) =
      pure (List.replicate (joins.length - 1) .opening) := by
    rw [← emission_ofTokens, ofTokens, List.map_replicate]
  simp only [joinedSource, Emission.joinedSource, emission_append, front, closed,
    List.length_map, List.mapM_map, Function.comp_def, id, bind_assoc, pure_bind,
    List.append_assoc]

theorem emission_applyAggregate (d : Dialect) (aggregate : Option Aggregate) (distinct : Bool)
    (e : Document) :
    (applyAggregate d aggregate distinct e).emission =
      Emission.applyAggregate d aggregate distinct e.emission := by
  cases aggregate with
  | none => rfl
  | some a =>
    have word : emission (if distinct then keyword .DISTINCT ++ space else []) =
        pure (if distinct then [.keyword .DISTINCT, .space] else []) := by
      cases distinct <;> rfl
    unfold applyAggregate Emission.applyAggregate
    dsimp only
    cases hname : d.aggregateName a with
    | error e => rfl
    | ok name =>
      simp only [Emission.liftM_ok, emission_append, emission_raw, emission_parenthesized, word,
        pure_bind, bind_assoc]
      rfl

theorem emission_namedField (e : Document) (name : Option String) :
    (namedField e name).emission = do
      return (← e.emission) ++ name.elim [] fun name =>
        Token.clause .AS ++ [.identifier name] := by
  cases name <;> simp [namedField, emission_append]

end ParamSql
