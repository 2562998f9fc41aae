import ParamSql.Proofs.Columns.Reading
import ParamSql.Proofs.Layout.Query

/-!
# Reading the field list of a query

The fields of a query are entries of its list, whatever stands in them: a nested query, with
its pages and the windows in them, closes all that it opens.
-/

namespace ParamSql

/-- The clauses of a query as they are read: its fields are entries of a list, and everything
else stands in parentheses of its own or behind FROM. -/
structure Clauses.ReadOver (c : Clauses) : Prop where
  fields : ∀ f ∈ c.fields, Document.ReadOver 0 f.document
  source : Document.ReadOver 0 c.source
  filter : ∀ e ∈ c.filter, Document.ReadOver 0 e
  having : ∀ e ∈ c.having, Document.ReadOver 0 e
  order : ∀ k ∈ c.order, Document.ReadOver 0 k.expression

namespace Clauses.ReadOver

open Document

variable {c : Clauses} (h : c.ReadOver)

theorem orderEntry {level : Nat} {key : Document} (h : Document.ReadOver level key)
    (direction : Direction) (reversed : Bool) :
    Document.ReadOver level (orderEntry key direction reversed) := by
  refine (h.append .space).append (.keyword ?_)
  cases direction.effective reversed <;> decide

theorem outerEntries (keys : List (String × Direction)) (reversed : Bool) :
    ∀ e ∈ outerEntries keys reversed, Document.ReadOver 1 e := by
  intro e he
  unfold Clauses.outerEntries at he
  split at he
  · contradiction
  · obtain rfl := Option.some.inj he
    refine .separatedBy .comma ?_
    intro d hd
    obtain ⟨key, -, rfl⟩ := List.mem_map.1 hd
    exact orderEntry (.identifier key.1) key.2 reversed

theorem rowNumbering {order : Option Document} (h : ∀ e ∈ order, Document.ReadOver 1 e) :
    Document.ReadOver 0 (rowNumbering order) where
  head := nofun
  scan stop depth rest hstop hrest := by
    let sorted : Document := space ++ order.getD (raw "(SELECT NULL)")
    let label : Document := clause .AS ++ identifier rowNumberColumn
    have keys : Document.ReadOver 1 sorted := by
      refine Document.ReadOver.space.append ?_
      cases order with
      | none => exact .raw _
      | some entries => exact h entries rfl
    have named : Document.ReadOver 0 label :=
      (Document.ReadOver.clause (by decide)).append (.identifier rowNumberColumn)
    have text : Clauses.rowNumbering order ++ rest =
        .token (.raw "ROW_NUMBER() OVER(") :: .token (.keyword .ORDER_BY) ::
          (sorted ++ .token .closing :: (label ++ rest)) := by
      simp [Clauses.rowNumbering, sorted, label, raw, keyword]
    have on {sql : String} : ¬(depth = 0 ∧ stop (.token (.raw sql)) = true) := fun h =>
      absurd (hstop h.1 _ h.2) (Nat.not_lt.2 (Nat.le_refl 0))
    have opened : depthBehind depth (.token (.raw "ROW_NUMBER() OVER("))
        (.token (.keyword .ORDER_BY) :: (sorted ++ .token .closing :: (label ++ rest))) =
        depth + 1 := by
      simp [depthBehind]
    have nested {p : Prop} : ¬(depth + 1 = 0 ∧ p) := fun h => Nat.succ_ne_zero depth h.1
    have inside := keys.scan stop (depth + 1) (.token .closing :: (label ++ rest))
      (fun h => absurd h (Nat.succ_ne_zero depth)) (not_sortsAtOnce_mark _ _)
    have word (behind : Document) :
        depthBehind (depth + 1) (.token (.keyword .ORDER_BY)) behind = depth + 1 := rfl
    rw [text, upTo, if_neg on, opened, upTo, if_neg nested, word, inside, upTo, if_neg nested,
      depthBehind, Nat.add_sub_cancel, named.scan _ _ _ hstop hrest]
    simp [Clauses.rowNumbering, sorted, label, raw, keyword]

theorem groupKeys (grouping : List GroupKey) :
    Document.ReadOver 1 (separatedBy comma (grouping.map GroupKey.document)) := by
  refine .separatedBy .comma ?_
  intro e he
  obtain ⟨k, -, rfl⟩ := List.mem_map.1 he
  exact .groupKey k

theorem guardedBy {n : UInt64} {doc : Document} (h : Document.ReadOver 2 doc) :
    Document.ReadOver 2 (guardedBy n doc) := by
  unfold Clauses.guardedBy
  split
  · exact .failing _
  · exact h

include h

theorem orderList (reversed : Bool) : ∀ e ∈ c.orderList reversed, Document.ReadOver 1 e := by
  intro e he
  unfold Clauses.orderList at he
  split at he
  · contradiction
  · obtain rfl := Option.some.inj he
    refine .separatedBy .comma ?_
    intro d hd
    obtain ⟨k, hk, rfl⟩ := List.mem_map.1 hd
    exact orderEntry ((h.order k hk).mono (Nat.zero_le 1)) k.direction reversed

theorem fieldEntries {leading : Option Document}
    (hleading : ∀ e ∈ leading, Document.ReadOver 0 e) :
    ∀ e ∈ c.fieldEntries leading, Document.ReadOver 0 e := by
  have own : ∀ e ∈ (if c.fields = [] then [[.token .star]] else c.fields.map (·.document)),
      Document.ReadOver 0 e := by
    intro e he
    split at he
    · obtain rfl := List.mem_singleton.1 he
      exact .mark (by decide)
    · obtain ⟨f, hf, rfl⟩ := List.mem_map.1 he
      exact h.fields f hf
  cases leading with
  | none => exact own
  | some entry =>
    intro e he
    rcases List.mem_cons.1 he with rfl | he
    · exact hleading e rfl
    · exact own e he

theorem whereClause (alwaysEmpty : Bool) :
    Document.ReadOver 2 (whereClause c.filter alwaysEmpty) := by
  have condition : Document.ReadOver 2 (clause .WHERE) := .anyClause _
  have nothing : Document.ReadOver 2 alwaysFalse := .raw _
  cases hfilter : c.filter with
  | none =>
    cases alwaysEmpty with
    | false => exact .nil
    | true => exact condition.append nothing
  | some e =>
    have filtered := condition.append ((h.filter e hfilter).mono (Nat.zero_le 2))
    cases alwaysEmpty with
    | false => exact filtered
    | true => exact (filtered.append (.clause (by decide))).append nothing

theorem base (options : BaseOptions) (hleading : ∀ e ∈ options.leading, Document.ReadOver 0 e) :
    Document.ReadOver 2 (c.base options) := by
  have select : Document.ReadOver 2 (keyword .SELECT ++ space) :=
    (Document.ReadOver.keyword (by decide)).append .space
  have distinct : Document.ReadOver 2 (if c.distinct then keyword .DISTINCT ++ space else []) :=
    .given ((Document.ReadOver.keyword (by decide)).append .space)
  have list : Document.ReadOver 2 (separatedBy comma (c.fieldEntries options.leading)) :=
    .separatedBy .comma fun e he => (h.fieldEntries hleading e he).mono (Nat.zero_le 2)
  have source := h.source.mono (Nat.zero_le 2)
  have group : Document.ReadOver 2 (if c.grouping = [] then []
      else clause .GROUP_BY ++ separatedBy comma (c.grouping.map GroupKey.document)) :=
    .omitted ((Document.ReadOver.anyClause _).append ((groupKeys c.grouping).mono (Nat.le_succ 1)))
  have having : Document.ReadOver 2 (c.having.elim [] (clause .HAVING ++ ·)) :=
    .optional fun e he =>
      (Document.ReadOver.anyClause _).append ((h.having e he).mono (Nat.zero_le 2))
  have order : Document.ReadOver 2 (if options.omitOrder then []
      else orderBy (c.orderList options.reversed)) :=
    .omitted (.orderBy (h.orderList options.reversed))
  rw [Clauses.base_eq]
  exact (((((((select.append distinct).append (.top options.top)).append list).append
    (.anyClause _)).append source).append (h.whereClause options.alwaysEmpty)).append
      group).append having |>.append order

theorem topRows (size : UInt64) (reversed : Bool) : Document.ReadOver 2 (c.topRows size reversed) :=
  h.base _ nofun

theorem numberedRows (d : Dialect) (reversed : Bool) :
    Document.ReadOver 2 (c.numberedRows d reversed) := by
  unfold Clauses.numberedRows
  split
  · unfold outerOrderList
    cases c.outerKeys with
    | error e => exact .failing e
    | ok keys =>
      have numbering := (rowNumbering (outerEntries keys reversed)).mono (Nat.zero_le 2)
      have all : Document.ReadOver 2 (qualified (some numberedSource) [.token .star]) :=
        .qualified _ (.mark (by decide))
      exact ((((((Document.ReadOver.keyword (by decide)).append .space).append numbering).append
        .comma).append all).append (.anyClause _)).append
          (.parenthesized (h.base { reversed, omitOrder := true } nofun)) |>.append
            (.tableAlias d numberedSource)
  · refine h.base _ ?_
    intro e he
    obtain rfl := Option.some.inj he
    exact rowNumbering (h.orderList reversed)

theorem rankedPage (d : Dialect) (w : Window) (reversed : Bool) :
    Document.ReadOver 2 (c.rankedPage d w reversed) := by
  unfold Clauses.rankedPage
  split
  · exact h.topRows _ reversed
  · exact (((Document.ReadOver.selectAllFrom d (h.numberedRows d reversed) none _).append
      (.rowNumberRange _ w)).append (.anyClause _)).append (.identifier _)

theorem countedPage (d : Dialect) (w : Window) (reversed : Bool) :
    Document.ReadOver 2 (c.countedPage d w reversed) := by
  have whole := h.base { reversed } nofun
  unfold Clauses.countedPage
  split
  · exact ((((((Document.ReadOver.selectAllFrom d whole none none).append
      (.anyClause _)).append (.raw _)).append .space).append (.mark (by decide))).append
        .space).append (.rowCount _)
  · have all : Document.ReadOver 2 (qualified (some innerPage) [.token .star]) :=
      .qualified _ (.mark (by decide))
    have select : Document.ReadOver 2 (keyword .SELECT ++ space) :=
      (Document.ReadOver.keyword (by decide)).append .space
    have numbered := ((((((((select.append all).append .comma).append (.raw "ROWNUM")).append
      .space).append (.identifier rowNumberColumn)).append (.anyClause .FROM)).append
        whole.parenthesized).append .space).append (.identifier innerPage)
    exact (Document.ReadOver.selectAllFrom d numbered none none).append (.rowNumberRange _ w)

theorem limitPage (w : Window) (reversed : Bool) :
    Document.ReadOver 2 (c.limitPage w reversed) :=
  (((h.base { reversed } nofun).append (.anyClause _)).append
    (.omitted ((Document.ReadOver.rowCount _).append .comma))).append (.rowCount _)

theorem limitOffsetPage (w : Window) (reversed : Bool) :
    Document.ReadOver 2 (c.limitOffsetPage w reversed) := by
  rw [Clauses.limitOffsetPage, List.append_assoc]
  exact (h.base { reversed } nofun).append (.limitOffset _ _)

theorem frontPage (d : Dialect) (keys : List (String × Direction)) (start take : UInt64)
    (reversed : Bool) : Document.ReadOver 2 (c.frontPage d keys start take reversed) :=
  (Document.ReadOver.selectAllFrom d
    ((Document.ReadOver.selectAllFrom d (h.topRows _ reversed) (some take) _).append
      (.orderBy (outerEntries keys (!reversed)))) none _).append
        (.orderBy (outerEntries keys reversed))

theorem backPage (d : Dialect) (keys : List (String × Direction)) (remaining take : UInt64)
    (reversed : Bool) : Document.ReadOver 2 (c.backPage d keys remaining take reversed) :=
  (Document.ReadOver.selectAllFrom d (h.topRows _ (!reversed)) (some take) _).append
    (.orderBy (outerEntries keys reversed))

theorem countDependentPage (d : Dialect) (w : Window) (recordCount : Option UInt64)
    (reversed : Bool) :
    Document.ReadOver 2 (c.countDependentPage d w recordCount reversed) := by
  unfold Clauses.countDependentPage
  split
  · exact h.topRows _ reversed
  cases recordCount with
  | none => exact .failing _
  | some count =>
    dsimp only
    split
    · exact h.base _ nofun
    split
    · exact .failing _
    cases c.outerKeys with
    | error e => exact .failing e
    | ok keys =>
      dsimp only
      split
      · exact guardedBy (h.frontPage d keys _ _ reversed)
      · exact guardedBy (h.backPage d keys _ _ reversed)

theorem paginated (d : Dialect) (p : Pagination) (recordCount : Option UInt64)
    (reversed : Bool) : Document.ReadOver 2 (c.paginated d p recordCount reversed) := by
  unfold Clauses.paginated
  cases p.window? with
  | none => exact h.base _ nofun
  | some w =>
    cases d with
    | access => exact h.countDependentPage .access w _ reversed
    | sqlServer => exact h.rankedPage .sqlServer w reversed
    | mySql => exact h.limitPage w reversed
    | sqlite | postgres => exact h.limitOffsetPage w reversed
    | oracle => exact h.countedPage .oracle w reversed

end Clauses.ReadOver

namespace Document.ReadOver

variable {level : Nat} {e : Document}

theorem joinedSource (h : ReadOver 0 e) {joins : List Document}
    (hjoins : ∀ j ∈ joins, ReadOver 0 j) : ReadOver 0 (joinedSource e joins) := by
  induction joins generalizing e with
  | nil =>
    have unfolded : ParamSql.joinedSource e [] = e := List.append_nil e
    rw [unfolded]
    exact h
  | cons first joins ih =>
    have joined : ReadOver 0 (e ++ Document.space ++ first) :=
      (h.append .space).append (hjoins first List.mem_cons_self)
    cases joins with
    | nil =>
      have unfolded : ParamSql.joinedSource e [first] = e ++ Document.space ++ first :=
        (List.append_assoc e Document.space first).symm
      rw [unfolded]
      exact joined
    | cons second joins =>
      rw [joinedSource_cons_cons]
      exact ih (joined.mono (Nat.zero_le 2)).parenthesized fun j hj =>
        hjoins j (List.mem_cons_of_mem _ hj)

theorem applyAggregate (d : Dialect) (aggregate : Option Aggregate) (distinct : Bool)
    (h : ReadOver 0 e) : ReadOver 0 (applyAggregate d aggregate distinct e) := by
  cases aggregate with
  | none => exact h
  | some a =>
    have word : ReadOver 2
        (if distinct then Document.keyword .DISTINCT ++ Document.space else []) :=
      .given ((keyword (by decide)).append .space)
    have arguments : ReadOver 0 (Document.parenthesized
        ((if distinct then Document.keyword .DISTINCT ++ Document.space else []) ++ e)) :=
      (word.append (h.mono (Nat.zero_le 2))).parenthesized
    cases hname : d.aggregateName a with
    | error fault =>
      simp only [ParamSql.applyAggregate, hname]
      exact (failing fault).append arguments
    | ok name =>
      simp only [ParamSql.applyAggregate, hname]
      exact (raw name).append arguments

theorem namedField (h : ReadOver level e) (name : Option String) :
    ReadOver level (namedField e name) := by
  cases name with
  | none => exact h
  | some name => exact (h.append (.clause (by decide))).append (.identifier name)

theorem joinKind (kind : JoinKind) : ReadOver level kind.document := by
  cases kind with
  | inner | left | right => exact .keyword (by decide)
  | full =>
    have outer : ReadOver level (Document.keyword .OUTER) := keyword (by decide)
    exact ((keyword (by decide)).append space).append outer

theorem joinCondition (currentTable currentField otherTable otherField : String) :
    ReadOver level (joinCondition currentTable currentField otherTable otherField) := by
  have table : ReadOver level
      (if currentTable = "" then [] else Document.identifier currentTable ++ [.token .dot]) :=
    .omitted ((identifier currentTable).append (.mark (by decide)))
  exact ((((table.append (.identifier currentField)).append .space).append
    (.mark (by decide))).append .space).append (.qualified _ (.identifier otherField))

end Document.ReadOver

section Tree

open Document

variable (d : Dialect)

mutual

/-- The clauses of a query are read as they are written, in any dialect. -/
theorem Select.readOver : ∀ s : Select, (s.clauses d).ReadOver
  | ⟨_, source, sourceAlias, fields, _, joins, filter, _, having, order, _, _⟩ => by
    refine ⟨fieldClauses_readOver fields, .joinedSource (.append (Source.readOver source) ?_)
      (joinDocuments_readOver joins), optionalDocument_readOver filter,
      optionalDocument_readOver having, orderClauses_readOver order⟩
    cases sourceAlias with
    | none => exact .nil
    | some name => exact .tableAlias d name

theorem Source.readOver : ∀ s : Source, Document.ReadOver 0 (s.document d)
  | .table name => .identifier name
  | .query q => .parenthesized ((Select.readOver q).paginated d q.pagination none false)

theorem FieldSource.readOver : ∀ s : FieldSource, Document.ReadOver 0 (s.document d)
  | .column table name => .qualified table (.identifier name)
  | .all table => .qualified table (.mark (by decide))
  | .expression sql => .raw sql
  | .query q => .parenthesized ((Select.readOver q).paginated d q.pagination none false)

theorem Field.readOver : ∀ f : Field, Document.ReadOver 0 (f.expressionDocument d)
  | ⟨source, _, aggregate, distinct⟩ => .applyAggregate d aggregate distinct
      (FieldSource.readOver source)

theorem JoinTarget.readOver : ∀ t : JoinTarget, Document.ReadOver 0 (t.document d)
  | .table name => .identifier name
  | .query q _ =>
    (Document.ReadOver.parenthesized
      ((Select.readOver q).paginated d q.pagination none false)).append (.tableAlias d _)

theorem Join.readOver : ∀ j : Join, Document.ReadOver 0 (j.document d)
  | ⟨kind, _, _, target, _⟩ =>
    ((((Document.ReadOver.joinKind kind).append (.clause (by decide))).append
      (JoinTarget.readOver target)).append (.clause (by decide))).append (.joinCondition _ _ _ _)

theorem Condition.readOver : ∀ c : Condition, Document.ReadOver 0 (c.document d)
  | .basic column operator ps => .comparison column operator ps
  | .columns left operator right => .columnComparison left operator right
  | .inValues column negated ps => .valueMembership column negated ps
  | .inQuery column negated q =>
    .membership column negated ((Select.readOver q).paginated d q.pagination none false)
  | .not c => .negation ((Condition.readOver c).mono (Nat.zero_le 2))
  | .list conjunction cs => .conjunctionList conjunction fun e he =>
    (conditionDocuments_readOver cs e he).mono (Nat.zero_le 2)

theorem optionalDocument_readOver : ∀ c : Option Condition,
    ∀ e ∈ optionalDocument d c, Document.ReadOver 0 e
  | none, _, he => nomatch he
  | some c, _, he => Option.some.inj he ▸ Condition.readOver c

theorem fieldClauses_readOver : ∀ fs : List Field,
    ∀ f ∈ fieldClauses d fs, Document.ReadOver 0 f.document
  | [], _, hf => nomatch hf
  | f :: fs, _, hf => by
    rcases List.mem_cons.1 hf with rfl | hf
    · exact .namedField (Field.readOver f) f.newName
    · exact fieldClauses_readOver fs _ hf

theorem orderClauses_readOver : ∀ ks : List OrderKey,
    ∀ k ∈ orderClauses d ks, Document.ReadOver 0 k.expression
  | [], _, hk => nomatch hk
  | ⟨field, _⟩ :: ks, _, hk => by
    rcases List.mem_cons.1 hk with rfl | hk
    · exact Field.readOver field
    · exact orderClauses_readOver ks _ hk

theorem joinDocuments_readOver : ∀ js : List Join, ∀ e ∈ joinDocuments d js, Document.ReadOver 0 e
  | [], _, he => nomatch he
  | j :: js, _, he => by
    rcases List.mem_cons.1 he with rfl | he
    · exact Join.readOver j
    · exact joinDocuments_readOver js _ he

theorem conditionDocuments_readOver : ∀ cs : List Condition,
    ∀ e ∈ conditionDocuments d cs, Document.ReadOver 0 e
  | [], _, he => nomatch he
  | c :: cs, _, he => by
    rcases List.mem_cons.1 he with rfl | he
    · exact Condition.readOver c
    · exact conditionDocuments_readOver cs _ he

end

end Tree

end ParamSql
