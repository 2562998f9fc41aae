import ParamSql.Proofs.Document.Related
import ParamSql.Proofs.Query.Correspondence
import ParamSql.Rendering.Query

/-!
# Corresponding queries become related documents

Rendering treats the parameters of a query as opaque: of two corresponding
queries it makes documents that are the same piece by piece, with corresponding
parameters in their holes. What a nested query says about its own dialect is
not looked at. The proof goes along the tree; each way of paging contributes
one lemma on clauses.
-/

namespace ParamSql

open Document

variable {R : Parameter → Parameter → Prop}

structure FieldClause.Related (R : Parameter → Parameter → Prop) (f g : FieldClause) : Prop where
  document : f.document.Related R g.document
  outputName : f.outputName = g.outputName
  isStar : f.isStar = g.isStar

structure OrderClause.Related (R : Parameter → Parameter → Prop) (k l : OrderClause) : Prop where
  expression : k.expression.Related R l.expression
  outputName : k.outputName = l.outputName
  direction : k.direction = l.direction

/-- Clauses that are the same but for what their holes hold. -/
structure Clauses.Related (R : Parameter → Parameter → Prop) (c e : Clauses) : Prop where
  distinct : c.distinct = e.distinct
  fields : List.Forall₂ (FieldClause.Related R) c.fields e.fields
  source : c.source.Related R e.source
  filter : Option.Rel (Document.Related R) c.filter e.filter
  grouping : c.grouping = e.grouping
  having : Option.Rel (Document.Related R) c.having e.having
  order : List.Forall₂ (OrderClause.Related R) c.order e.order

theorem forall₂_eq_nil_iff {S : α → β → Prop} {as : List α} {bs : List β}
    (h : List.Forall₂ S as bs) : as = [] ↔ bs = [] := by
  cases h <;> simp

theorem forall₂_mapM_eq {S : α → β → Prop} {f : α → Except Error γ} {g : β → Except Error γ}
    {as : List α} {bs : List β} (h : List.Forall₂ S as bs) (hfg : ∀ a b, S a b → f a = g b) :
    as.mapM f = bs.mapM g := by
  induction h with
  | nil => rfl
  | cons hab _ ih => rw [List.mapM_cons, List.mapM_cons, hfg _ _ hab, ih]

namespace Clauses.Related

variable {c e : Clauses}

theorem order_eq_nil_iff (h : c.Related R e) : c.order = [] ↔ e.order = [] :=
  forall₂_eq_nil_iff h.order

theorem fieldEntries (h : c.Related R e) {leading leading' : Option Document}
    (hl : Option.Rel (Document.Related R) leading leading') :
    List.Forall₂ (Document.Related R) (c.fieldEntries leading) (e.fieldEntries leading') := by
  have own : List.Forall₂ (Document.Related R)
      (if c.fields = [] then [[.token .star]] else c.fields.map (·.document))
      (if e.fields = [] then [[.token .star]] else e.fields.map (·.document)) := by
    by_cases hc : c.fields = []
    · rw [if_pos hc, if_pos ((forall₂_eq_nil_iff h.fields).1 hc)]
      exact .cons (.refl_of_isConstant rfl) .nil
    · rw [if_neg hc, if_neg fun he => hc ((forall₂_eq_nil_iff h.fields).2 he)]
      exact List.rel_map (fun _ _ hf => hf.document) h.fields
  cases hl with
  | none => exact own
  | some hd => exact .cons hd own

theorem whereClause {filter filter' : Option Document}
    (h : Option.Rel (Document.Related R) filter filter') (alwaysEmpty : Bool) :
    (whereClause filter alwaysEmpty).Related R (Clauses.whereClause filter' alwaysEmpty) := by
  cases h with
  | none => exact .refl_of_isConstant (by cases alwaysEmpty <;> rfl)
  | some hf =>
    have hw := hf.constantAppend (clause .WHERE) rfl
    cases alwaysEmpty with
    | false => exact hw
    | true => exact (hw.appendConstant (clause .AND) rfl).appendConstant alwaysFalse rfl

theorem havingClause {having having' : Option Document} :
    Option.Rel (Document.Related R) having having' →
    Document.Related R
      (match having with
        | some d => clause .HAVING ++ d
        | none => [])
      (match having' with
        | some d => clause .HAVING ++ d
        | none => []) := by
  intro h
  cases h with
  | none => exact .nil
  | some hd => exact hd.constantAppend (clause .HAVING) rfl

theorem orderEntry {key key' : Document} (h : key.Related R key') (direction : Direction)
    (reversed : Bool) :
    (orderEntry key direction reversed).Related R (Clauses.orderEntry key' direction reversed) :=
  (h.appendConstant space rfl).appendConstant _ rfl

theorem orderList (h : c.Related R e) (reversed : Bool) :
    Option.Rel (Document.Related R) (c.orderList reversed) (e.orderList reversed) := by
  unfold Clauses.orderList
  by_cases hc : c.order = []
  · rw [if_pos hc, if_pos (h.order_eq_nil_iff.1 hc)]
    exact .none
  · rw [if_neg hc, if_neg fun he => hc (h.order_eq_nil_iff.2 he)]
    refine .some (.separatedBy rfl (List.rel_map (fun k l hk => ?_) h.order))
    rw [hk.direction]
    exact orderEntry hk.expression l.direction reversed

theorem base (h : c.Related R e) (options : BaseOptions) {leading leading' : Option Document}
    (hl : Option.Rel (Document.Related R) leading leading') :
    (c.base { options with leading }).Related R
      (e.base { options with leading := leading' }) := by
  unfold Clauses.base
  rw [h.distinct, h.grouping]
  have head : ∀ {top : Document}, isConstant top = true → isConstant (keyword .SELECT ++ space ++
      (if e.distinct then keyword .DISTINCT ++ space else []) ++ top) = true := by
    intro top htop
    cases e.distinct <;> simp [htop]
  have group : isConstant (if e.grouping = [] then []
      else clause .GROUP_BY ++ separatedBy comma (e.grouping.map GroupKey.document)) = true := by
    split
    · rfl
    · rw [isConstant_append, isConstant_separatedBy rfl (by simp)]
      rfl
  refine .append (.append (.appendConstant (.append (.append (.appendConstant
    (.constantAppend _ (head ?_) (.separatedBy rfl (h.fieldEntries hl))) _ rfl) h.source)
    (whereClause h.filter options.alwaysEmpty)) _ group) ?_) ?_
  · cases options.top <;> simp
  · exact havingClause h.having
  · cases options.omitOrder with
    | true => exact .nil
    | false => exact .orderBy (h.orderList options.reversed)

theorem plainBase (h : c.Related R e) (reversed : Bool) (top : Option UInt64)
    (omitOrder alwaysEmpty : Bool) :
    (c.base { reversed, top, omitOrder, alwaysEmpty }).Related R
      (e.base { reversed, top, omitOrder, alwaysEmpty }) :=
  h.base { reversed, top, omitOrder, alwaysEmpty } .none

theorem projects_eq (h : c.Related R e) (name : String) : c.projects name = e.projects name := by
  have fieldsAny : ∀ {fs gs : List FieldClause}, List.Forall₂ (FieldClause.Related R) fs gs →
      (fs.any fun f => f.isStar || f.outputName.any (Text.sameIgnoringCase · name)) =
        gs.any fun f => f.isStar || f.outputName.any (Text.sameIgnoringCase · name) := by
    intro fs gs hfs
    induction hfs with
    | nil => rfl
    | cons hf _ ih => rw [List.any_cons, List.any_cons, hf.outputName, hf.isStar, ih]
  have empty : c.fields.isEmpty = e.fields.isEmpty := by
    rw [Bool.eq_iff_iff, List.isEmpty_iff, List.isEmpty_iff]
    exact forall₂_eq_nil_iff h.fields
  rw [Clauses.projects, Clauses.projects, empty, fieldsAny h.fields]

theorem outerKeys_eq (h : c.Related R e) : c.outerKeys = e.outerKeys := by
  refine forall₂_mapM_eq h.order fun k l hk => ?_
  have name : c.outerName k = e.outerName l := by
    simp only [Clauses.outerName, hk.outputName, h.projects_eq]
  rw [name, hk.direction]

theorem isConstant_outerEntries (keys : List (String × Direction)) (reversed : Bool)
    {entries : Document} (h : outerEntries keys reversed = some entries) :
    entries.isConstant = true := by
  unfold outerEntries at h
  split at h
  · contradiction
  · obtain rfl := Option.some.inj h
    refine isConstant_separatedBy rfl fun d hd => ?_
    obtain ⟨key, -, rfl⟩ := List.mem_map.1 hd
    rfl

theorem outerOrder (keys : List (String × Direction)) (reversed : Bool) :
    Option.Rel (Document.Related R) (outerEntries keys reversed) (outerEntries keys reversed) := by
  cases h : outerEntries keys reversed with
  | none => exact .none
  | some entries => exact .some (.refl_of_isConstant (isConstant_outerEntries keys reversed h))

theorem rowNumbering {order order' : Option Document}
    (h : Option.Rel (Document.Related R) order order') :
    (rowNumbering order).Related R (Clauses.rowNumbering order') := by
  have entries : (order.getD (raw "(SELECT NULL)")).Related R
      (order'.getD (raw "(SELECT NULL)")) := by
    cases h with
    | none => exact .refl_of_isConstant rfl
    | some hd => exact hd
  exact (((entries.constantAppend _ rfl).appendConstant [.token .closing] rfl).appendConstant
    (clause .AS) rfl).appendConstant _ rfl

theorem numberedRows (h : c.Related R e) (d : Dialect) (reversed : Bool) :
    (c.numberedRows d reversed).Related R (e.numberedRows d reversed) := by
  unfold Clauses.numberedRows Clauses.outerOrderList
  rw [h.distinct, h.grouping, h.outerKeys_eq]
  split
  · cases e.outerKeys with
    | error fault => exact .refl_of_isConstant rfl
    | ok keys =>
      have base := (h.plainBase reversed none true false).parenthesized
      have numbering := (rowNumbering (R := R) (outerOrder keys reversed)).constantAppend
        (keyword .SELECT ++ space) rfl
      exact ((((numbering.appendConstant comma rfl).appendConstant _ (by simp)).appendConstant
        (clause .FROM) rfl).append base).appendConstant _ (isConstant_tableAlias d numberedSource)
  · exact h.base { reversed, omitOrder := true } (.some (rowNumbering (h.orderList reversed)))

theorem topRows (h : c.Related R e) (size : UInt64) (reversed : Bool) :
    (c.topRows size reversed).Related R (e.topRows size reversed) :=
  h.plainBase reversed (some size) false false

theorem limitOffsetPage (h : c.Related R e) (w : Window) (reversed : Bool) :
    (c.limitOffsetPage w reversed).Related R (e.limitOffsetPage w reversed) :=
  ((h.plainBase reversed none false false).appendConstant space rfl).appendConstant _
    (isConstant_limitOffset _ _)

theorem limitPage (h : c.Related R e) (w : Window) (reversed : Bool) :
    (c.limitPage w reversed).Related R (e.limitPage w reversed) := by
  have start : isConstant (if w.start = 0 then [] else rowCount w.start ++ comma) = true := by
    split <;> simp
  exact (((h.plainBase reversed none false false).appendConstant (clause .LIMIT) rfl).appendConstant
    _ start).appendConstant _ (isConstant_rowCount _)

theorem rankedPage (h : c.Related R e) (d : Dialect) (w : Window) (reversed : Bool) :
    (c.rankedPage d w reversed).Related R (e.rankedPage d w reversed) := by
  unfold Clauses.rankedPage
  split
  · exact h.topRows w.size reversed
  · have rows := Document.Related.selectAllFrom d (h.numberedRows d reversed) none
      (some numberedTable)
    exact ((rows.appendConstant _ (isConstant_rowNumberRange _ w)).appendConstant
      (clause .ORDER_BY) rfl).appendConstant _ rfl

theorem countedPage (h : c.Related R e) (d : Dialect) (w : Window) (reversed : Bool) :
    (c.countedPage d w reversed).Related R (e.countedPage d w reversed) := by
  have base := h.plainBase reversed none false false
  unfold Clauses.countedPage
  dsimp only
  split
  · simp only [List.append_assoc]
    exact (Document.Related.selectAllFrom d base none none).appendConstant _ (by simp)
  · have numbered := ((base.parenthesized.constantAppend
      (keyword .SELECT ++ space ++ qualified (some innerPage) [.token .star] ++ comma ++
        raw "ROWNUM" ++ space ++ identifier rowNumberColumn ++ clause .FROM)
      (by simp)).appendConstant space rfl).appendConstant (identifier innerPage) rfl
    exact (Document.Related.selectAllFrom d numbered none none).appendConstant _
      (isConstant_rowNumberRange _ w)

theorem frontPage (h : c.Related R e) (d : Dialect) (keys : List (String × Direction))
    (start take : UInt64) (reversed : Bool) :
    (c.frontPage d keys start take reversed).Related R
      (e.frontPage d keys start take reversed) := by
  have tail := (Document.Related.selectAllFrom d (h.topRows (start + take) reversed) (some take)
    (some innerPage)).append (.orderBy (outerOrder keys (!reversed)))
  exact (Document.Related.selectAllFrom d tail none (some outerPage)).append
    (.orderBy (outerOrder keys reversed))

theorem backPage (h : c.Related R e) (d : Dialect) (keys : List (String × Direction))
    (remaining take : UInt64) (reversed : Bool) :
    (c.backPage d keys remaining take reversed).Related R
      (e.backPage d keys remaining take reversed) :=
  (Document.Related.selectAllFrom d (h.topRows remaining (!reversed)) (some take)
    (some innerPage)).append (.orderBy (outerOrder keys reversed))

theorem guardedBy (n : UInt64) {d e : Document} (h : d.Related R e) :
    (guardedBy n d).Related R (Clauses.guardedBy n e) := by
  unfold Clauses.guardedBy
  split
  · exact .refl_of_isConstant rfl
  · exact h

theorem countDependentPage (h : c.Related R e) (d : Dialect) (w : Window)
    (recordCount : Option UInt64) (reversed : Bool) :
    (c.countDependentPage d w recordCount reversed).Related R
      (e.countDependentPage d w recordCount reversed) := by
  unfold Clauses.countDependentPage
  rw [h.outerKeys_eq]
  simp only [h.order_eq_nil_iff]
  split
  · exact h.topRows w.size reversed
  · cases recordCount with
    | none => exact .refl_of_isConstant rfl
    | some count =>
      dsimp only
      split
      · exact h.plainBase reversed none false true
      · split
        · exact .refl_of_isConstant rfl
        · cases e.outerKeys with
          | error fault => exact .refl_of_isConstant rfl
          | ok keys =>
            dsimp only
            split
            · exact guardedBy _ (h.frontPage d keys _ _ reversed)
            · exact guardedBy _ (h.backPage d keys _ _ reversed)

theorem page (h : c.Related R e) (d : Dialect) (w : Window) (recordCount : Option UInt64)
    (reversed : Bool) :
    (c.page d w recordCount reversed).Related R (e.page d w recordCount reversed) := by
  cases d with
  | access => exact h.countDependentPage .access w recordCount reversed
  | sqlServer => exact h.rankedPage .sqlServer w reversed
  | mySql => exact h.limitPage w reversed
  | sqlite => exact h.limitOffsetPage w reversed
  | postgres => exact h.limitOffsetPage w reversed
  | oracle => exact h.countedPage .oracle w reversed

theorem paginated (h : c.Related R e) (d : Dialect) (p : Pagination)
    (recordCount : Option UInt64) (reversed : Bool) :
    (c.paginated d p recordCount reversed).Related R (e.paginated d p recordCount reversed) := by
  unfold Clauses.paginated
  cases p.window? with
  | none => exact h.plainBase reversed none false false
  | some w => exact h.page d w _ reversed

end Clauses.Related

theorem Document.isConstant_joinKind (kind : JoinKind) : kind.document.isConstant = true := by
  cases kind <;> rfl

theorem Document.isConstant_joinCondition
    (currentTable currentField otherTable otherField : String) :
    (joinCondition currentTable currentField otherTable otherField).isConstant = true := by
  unfold joinCondition
  split <;> rfl

namespace Document.Related

theorem joinedSource {source source' : Document} (hs : Related R source source')
    {joins joins' : List Document} (h : List.Forall₂ (Related R) joins joins') :
    Related R (joinedSource source joins) (joinedSource source' joins') := by
  have closing : ∀ {js js' : List Document}, List.Forall₂ (Related R) js js' →
      Related R (joinedSource.close js) (joinedSource.close js') := by
    intro js js' hjs
    induction hjs with
    | nil => exact .nil
    | cons hj hjs ih =>
      have first := hj.constantAppend space rfl
      cases hjs with
      | nil => exact first
      | cons _ _ => exact first.append (ih.constantAppend [.token .closing] rfl)
  have opening : isConstant (List.replicate (joins.length - 1) (.token .opening)) = true := by
    simp only [isConstant, List.all_eq_true]
    intro piece hmem
    rw [List.eq_of_mem_replicate hmem]
  unfold ParamSql.joinedSource
  rw [← h.length_eq]
  exact (hs.constantAppend _ opening).append (closing h)

theorem applyAggregate (d : Dialect) (aggregate : Option Aggregate) (distinct : Bool)
    {e e' : Document} (h : Related R e e') :
    Related R (applyAggregate d aggregate distinct e) (applyAggregate d aggregate distinct e') := by
  cases aggregate with
  | none => exact h
  | some a =>
    refine Related.constantAppend _ ?_ (h.constantAppend _ ?_).parenthesized
    · cases d.aggregateName a <;> rfl
    · cases distinct <;> rfl

theorem namedField {e e' : Document} (h : Related R e e') (name : Option String) :
    Related R (namedField e name) (namedField e' name) := by
  cases name with
  | none => exact h
  | some name => exact (h.appendConstant (clause .AS) rfl).appendConstant (identifier name) rfl

end Document.Related

/-- Whether a field is a star and the name it has outside are no matter of parameters. -/
theorem Field.Corresponds.outside {D : Dialect → Dialect → Prop} {f g : Field}
    (h : f.Corresponds D R g) : f.outputName? = g.outputName? ∧ f.isStar = g.isStar := by
  obtain ⟨source, name, aggregate, distinct⟩ := f
  obtain ⟨source', name', aggregate', distinct'⟩ := g
  obtain ⟨hsource, rfl, rfl, rfl⟩ := h
  cases source <;> cases source' <;> simp_all [FieldSource.Corresponds, outputName?, isStar]
  cases name <;> rfl

theorem Field.Corresponds.newName_eq {D : Dialect → Dialect → Prop} {f g : Field}
    (h : f.Corresponds D R g) : f.newName = g.newName := by
  obtain ⟨_, name, _, _⟩ := f
  obtain ⟨_, name', _, _⟩ := g
  exact h.2.1

theorem JoinTarget.Corresponds.name_eq {D : Dialect → Dialect → Prop} {t u : JoinTarget}
    (h : t.Corresponds D R u) : t.name = u.name := by
  cases t <;> cases u <;> simp_all [JoinTarget.Corresponds, JoinTarget.name]

section Tree

variable {D : Dialect → Dialect → Prop} (d : Dialect)

theorem Select.Corresponds.pagination_eq :
    ∀ {s t : Select}, s.Corresponds D R t → s.pagination = t.pagination
  | ⟨_, _, _, _, _, _, _, _, _, _, _, _⟩, ⟨_, _, _, _, _, _, _, _, _, _, _, _⟩,
    ⟨_, _, _, _, _, _, _, _, _, _, h, _⟩ => h

theorem Document.Related.nestedPage {s t : Select} (h : (s.clauses d).Related R (t.clauses d))
    (hp : s.pagination = t.pagination) :
    ((s.clauses d).paginated d s.pagination none false).Related R
      ((t.clauses d).paginated d t.pagination none false) := by
  rw [hp]
  exact h.paginated d t.pagination none false

mutual

theorem Select.Corresponds.clauses :
    ∀ {s t : Select}, s.Corresponds D R t → (s.clauses d).Related R (t.clauses d)
  | ⟨_, _, sourceAlias, _, _, _, _, _, _, _, _, _⟩, ⟨_, _, _, _, _, _, _, _, _, _, _, _⟩,
    ⟨_, hsource, rfl, hfields, rfl, hjoins, hfilter, rfl, hhaving, horder, rfl, rfl⟩ => by
    refine ⟨rfl, hfields.clauses, .joinedSource (.appendConstant hsource.document _ ?_)
      hjoins.documents, hfilter.document, rfl, hhaving.document, horder.clauses⟩
    cases sourceAlias with
    | none => rfl
    | some name => exact isConstant_tableAlias d name

theorem Source.Corresponds.document :
    ∀ {s t : Source}, s.Corresponds D R t → (s.document d).Related R (t.document d)
  | .table _, .table _, rfl => .refl_of_isConstant rfl
  | .query _, .query _, h => .parenthesized (.nestedPage d h.clauses h.pagination_eq)

theorem FieldSource.Corresponds.document :
    ∀ {s t : FieldSource}, s.Corresponds D R t → (s.document d).Related R (t.document d)
  | .column table name, .column _ _, ⟨rfl, rfl⟩ =>
    .refl_of_isConstant (isConstant_qualified_identifier table name)
  | .all table, .all _, rfl => .refl_of_isConstant (isConstant_qualified_star table)
  | .expression _, .expression _, rfl => .refl_of_isConstant rfl
  | .query _, .query _, h => .parenthesized (.nestedPage d h.clauses h.pagination_eq)

theorem Field.Corresponds.expressionDocument :
    ∀ {f g : Field}, f.Corresponds D R g →
      (f.expressionDocument d).Related R (g.expressionDocument d)
  | ⟨_, _, aggregate, distinct⟩, ⟨_, _, _, _⟩, ⟨hsource, rfl, rfl, rfl⟩ =>
    .applyAggregate d aggregate distinct hsource.document

theorem JoinTarget.Corresponds.document :
    ∀ {t u : JoinTarget}, t.Corresponds D R u → (t.document d).Related R (u.document d)
  | .table _, .table _, rfl => .refl_of_isConstant rfl
  | .query _ number, .query _ _, ⟨h, rfl⟩ =>
    (Document.Related.parenthesized (.nestedPage d h.clauses h.pagination_eq)).appendConstant _
      (isConstant_tableAlias d (joinName number))

theorem Join.Corresponds.document :
    ∀ {i j : Join}, i.Corresponds D R j → (i.document d).Related R (j.document d)
  | ⟨kind, currentTable, currentField, _, otherField⟩, ⟨_, _, _, _, _⟩,
    ⟨rfl, rfl, rfl, htarget, rfl⟩ => by
    have head : isConstant (kind.document ++ clause .JOIN) = true := by
      rw [isConstant_append, isConstant_joinKind]
      rfl
    simp only [Join.document, htarget.name_eq]
    exact ((htarget.document.constantAppend _ head).appendConstant (clause .ON) rfl).appendConstant
      _ (isConstant_joinCondition _ _ _ _)

theorem Condition.Corresponds.document :
    ∀ {c e : Condition}, c.Corresponds D R e → (c.document d).Related R (e.document d)
  | .basic column operator _, .basic _ _ _, ⟨rfl, rfl, h⟩ => .comparison column operator h
  | .columns left operator right, .columns _ _ _, ⟨rfl, rfl, rfl⟩ =>
    .columnComparison left operator right
  | .inValues column negated _, .inValues _ _ _, ⟨rfl, rfl, h⟩ => .valueMembership column negated h
  | .inQuery column negated _, .inQuery _ _ _, ⟨rfl, rfl, h⟩ =>
    .membership column negated (.nestedPage d h.clauses h.pagination_eq)
  | .not _, .not _, h => .negation (Condition.Corresponds.document h)
  | .list conjunction _, .list _ _, ⟨rfl, h⟩ => .conjunctionList conjunction h.documents

theorem OptionalCorrespond.document :
    ∀ {c e : Option Condition}, OptionalCorrespond D R c e →
      Option.Rel (Document.Related R) (optionalDocument d c) (optionalDocument d e)
  | none, none, _ => .none
  | some _, some _, h => .some (Condition.Corresponds.document h)

theorem FieldsCorrespond.clauses :
    ∀ {fs gs : List Field}, FieldsCorrespond D R fs gs →
      List.Forall₂ (FieldClause.Related R) (fieldClauses d fs) (fieldClauses d gs)
  | [], [], _ => .nil
  | f :: _, g :: _, ⟨h, hs⟩ => by
    have name : f.newName = g.newName := h.newName_eq
    refine .cons ⟨?_, h.outside.1, h.outside.2⟩ hs.clauses
    simp only [name]
    exact .namedField h.expressionDocument g.newName

theorem OrderCorresponds.clauses :
    ∀ {ks ls : List OrderKey}, OrderCorresponds D R ks ls →
      List.Forall₂ (OrderClause.Related R) (orderClauses d ks) (orderClauses d ls)
  | [], [], _ => .nil
  | ⟨_, _⟩ :: _, ⟨_, _⟩ :: _, ⟨⟨h, rfl⟩, hs⟩ =>
    .cons ⟨h.expressionDocument, h.outside.1, rfl⟩ hs.clauses

theorem JoinsCorrespond.documents :
    ∀ {is js : List Join}, JoinsCorrespond D R is js →
      List.Forall₂ (Document.Related R) (joinDocuments d is) (joinDocuments d js)
  | [], [], _ => .nil
  | _ :: _, _ :: _, ⟨h, hs⟩ => .cons h.document hs.documents

theorem ConditionsCorrespond.documents :
    ∀ {cs es : List Condition}, ConditionsCorrespond D R cs es →
      List.Forall₂ (Document.Related R) (conditionDocuments d cs) (conditionDocuments d es)
  | [], [], _ => .nil
  | _ :: _, _ :: _, ⟨h, hs⟩ => .cons (Condition.Corresponds.document h) hs.documents

end

theorem Select.Corresponds.document {s t : Select} (h : s.Corresponds D R t) :
    (s.document d).Related R (t.document d) :=
  .nestedPage d (h.clauses d) h.pagination_eq

end Tree

end ParamSql
