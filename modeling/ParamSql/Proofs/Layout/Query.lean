import ParamSql.Proofs.Layout.Clauses

/-!
# Layout of queries along their tree

The texts that a query is made from, and the proof that it closes all the
parentheses it opens when each of them does. A join past the first closes the
parenthesis that was opened for it in front of the source.
-/

namespace ParamSql

open Document Text

section Texts

variable (named : Select → List String)

mutual

/-- Texts that a query is made from, its parameters included. For it and for each
query within it the further ones that `named` gives are among them. -/
def Select.texts : Select → List String
  | ⟨dialect, source, sourceAlias, fields, distinct, joins, filter, grouping, having, order,
      pagination, nextJoin⟩ =>
    source.texts ++ sourceAlias.toList ++ fieldTexts fields ++ joinTexts joins ++
      optionalTexts filter ++ grouping.flatMap GroupKey.texts ++ optionalTexts having ++
      orderTexts order ++
      named ⟨dialect, source, sourceAlias, fields, distinct, joins, filter, grouping, having,
        order, pagination, nextJoin⟩

def Source.texts : Source → List String
  | .table name => [name]
  | .query q => q.texts

def FieldSource.texts : FieldSource → List String
  | .column table name => table.toList ++ [name]
  | .all table => table.toList
  | .expression sql => [sql]
  | .query q => q.texts

def Field.texts : Field → List String
  | ⟨source, newName, _, _⟩ => source.texts ++ newName.toList

def JoinTarget.texts : JoinTarget → List String
  | .table name => [name]
  | .query q _ => q.texts

def Join.texts : Join → List String
  | ⟨_, currentTable, currentField, target, otherField⟩ =>
    [currentTable, currentField, otherField] ++ target.texts

def Condition.texts : Condition → List String
  | .basic column _ ps => column :: ps.flatMap Parameter.texts
  | .columns left _ right => [left, right]
  | .inValues column _ ps => column :: ps.flatMap Parameter.texts
  | .inQuery column _ q => column :: q.texts
  | .not c => c.texts
  | .list _ cs => conditionTexts cs

def optionalTexts : Option Condition → List String
  | none => []
  | some c => c.texts

def fieldTexts : List Field → List String
  | [] => []
  | f :: fs => f.texts ++ fieldTexts fs

def orderTexts : List OrderKey → List String
  | [] => []
  | ⟨field, _⟩ :: ks => field.texts ++ orderTexts ks

def joinTexts : List Join → List String
  | [] => []
  | j :: js => j.texts ++ joinTexts js

def conditionTexts : List Condition → List String
  | [] => []
  | c :: cs => c.texts ++ conditionTexts cs

end

end Texts

def Select.sortNames (d : Dialect) (s : Select) : List String :=
  if PagePlan.SortsByName d s.distinct s.grouping s.pagination then
    s.order.filterMap (·.field.outputName?)
  else []

theorem Select.texts_named {named : Select → List String} {s : Select}
    (h : AllBalanced (s.texts named)) : AllBalanced (named s) := by
  cases s
  exact h.right

theorem outputNames_orderClauses (d : Dialect) (keys : List OrderKey) :
    (orderClauses d keys).filterMap (·.outputName) =
      keys.filterMap (·.field.outputName?) := by
  induction keys with
  | nil => rfl
  | cons key keys ih =>
    obtain ⟨field, direction⟩ := key
    simp only [orderClauses, List.filterMap_cons, ih]

theorem Select.outputNames_clauses (d : Dialect) (s : Select) :
    (s.clauses d).order.filterMap (·.outputName) = s.order.filterMap (·.field.outputName?) := by
  cases s
  exact outputNames_orderClauses d _

theorem Clauses.Closed.page {d : Dialect} {s : Select} (h : (s.clauses d).Closed d)
    (hnames : AllBalanced (s.sortNames d)) (recordCount : Option UInt64) (reversed : Bool) :
    Laid d [.SELECT, .FROM] Keyword.queryOrder
      ((s.clauses d).paginated d s.pagination recordCount reversed) := by
  apply h.paginated
  intro hsorts
  have same : PagePlan.SortsByName d s.distinct s.grouping s.pagination := by
    cases s
    exact hsorts
  rw [Select.sortNames, if_pos same] at hnames
  rw [s.outputNames_clauses d]
  exact hnames

namespace Document

variable {d : Dialect} {required order : List Keyword} {e : Document}

theorem joinedSource_cons_cons (source first second : Document) (joins : List Document) :
    joinedSource source (first :: second :: joins) =
      joinedSource (parenthesized (source ++ space ++ first)) (second :: joins) := by
  have opening : List.replicate (joins.length + 1) (Piece.token .opening) =
      List.replicate joins.length (.token .opening) ++ [.token .opening] :=
    List.replicate_succ'
  unfold joinedSource
  simp only [List.length_cons, Nat.add_sub_cancel, joinedSource.close, parenthesized, opening,
    List.append_assoc, List.cons_append, List.nil_append]

theorem Laid.joinedSource (h : Closed d e) {joins : List Document}
    (hjoins : ∀ j ∈ joins, Closed d j) : Closed d (joinedSource e joins) := by
  induction joins generalizing e with
  | nil =>
    have unfolded : ParamSql.joinedSource e [] = e := List.append_nil e
    rw [unfolded]
    exact h
  | cons first joins ih =>
    have joined : Closed d (e ++ Document.space ++ first) :=
      (h.append .space).append (hjoins first List.mem_cons_self)
    cases joins with
    | nil =>
      have unfolded : ParamSql.joinedSource e [first] = e ++ Document.space ++ first :=
        (List.append_assoc e Document.space first).symm
      rw [unfolded]
      exact joined
    | cons second joins =>
      rw [joinedSource_cons_cons]
      exact ih joined.parenthesized fun j hj => hjoins j (List.mem_cons_of_mem _ hj)

theorem balanced_aggregateName {a : Aggregate} {name : String}
    (h : d.aggregateName a = .ok name) : Balanced name.toList := by
  have names : ∀ name ∈ (d.aggregateName a).toOption, Balanced name.toList := by
    cases d <;> cases a <;> decide
  exact names name (by rw [h]; rfl)

theorem Laid.applyAggregate (aggregate : Option Aggregate) (distinct : Bool) (h : Closed d e) :
    Closed d (applyAggregate d aggregate distinct e) := by
  cases aggregate with
  | none => exact h
  | some a =>
    have word : Closed d (if distinct then Document.keyword .DISTINCT ++ Document.space else []) :=
      .given fun _ => (Laid.keyword .DISTINCT).append .space
    have arguments := (word.append h).parenthesized
    cases hname : d.aggregateName a with
    | error fault =>
      have absent : Closed d (Document.failing fault) := .failing fault
      simp only [ParamSql.applyAggregate, hname]
      exact absent.append arguments
    | ok name =>
      simp only [ParamSql.applyAggregate, hname]
      have function : Closed d (Document.raw name) := .raw (balanced_aggregateName hname)
      exact function.append arguments

theorem Laid.namedField (h : Closed d e) {name : Option String} (hname : AllBalanced name.toList) :
    Closed d (namedField e name) := by
  cases name with
  | none => exact h
  | some name => exact (h.append (.clause .AS)).append (.identifier hname.head)

theorem Laid.joinKind (kind : JoinKind) : Closed d kind.document := by
  cases kind with
  | inner => exact .keyword .INNER
  | left => exact .keyword .LEFT
  | right => exact .keyword .RIGHT
  | full => exact ((Laid.keyword .FULL).append .space).append (.keyword .OUTER)

theorem balanced_joinName (number : UInt32) : Balanced (joinName number).toList := by
  have stem : Balanced "JT_".toList := by decide
  rw [joinName, String.toList_append]
  exact stem.append (balanced_digits number.toNat)

theorem Laid.joinCondition {currentTable currentField otherTable otherField : String}
    (hcurrent : AllBalanced [currentTable, currentField, otherField])
    (hother : Balanced otherTable.toList) :
    Closed d (joinCondition currentTable currentField otherTable otherField) := by
  have dot : Closed d [.token .dot] := .mark (by decide)
  have equal : Closed d [.token (.mark .equal)] := .mark (by decide)
  have table : Closed d
      (if currentTable = "" then [] else Document.identifier currentTable ++ [.token .dot]) :=
    .omitted fun _ => (Laid.identifier hcurrent.head).append dot
  have other : Closed d
      (Document.qualified (some otherTable) (Document.identifier otherField)) := by
    refine .qualified ?_ (.identifier hcurrent.tail.tail.head)
    intro text htext
    obtain rfl := List.mem_singleton.1 htext
    exact hother
  have left := (table.append (.identifier hcurrent.tail.head)).append .space
  exact ((left.append equal).append .space).append other

end Document

theorem JoinTarget.balanced_name {named : Select → List String} {target : JoinTarget}
    (h : AllBalanced (target.texts named)) : Balanced target.name.toList := by
  cases target with
  | table name => exact h.head
  | query q number => exact balanced_joinName number

section Tree

variable {d : Dialect}

theorem allBalanced_parameters {ps : List Parameter}
    (h : AllBalanced (ps.flatMap Parameter.texts)) : ∀ p ∈ ps, AllBalanced p.texts :=
  fun p hp text htext => h text (List.mem_flatMap.2 ⟨p, hp, htext⟩)

mutual

/-- The clauses of a query close the parentheses they open, in any dialect. -/
theorem Select.closed :
    ∀ {s : Select}, AllBalanced (s.texts (Select.sortNames d)) → (s.clauses d).Closed d
  | ⟨_, _, sourceAlias, _, _, _, _, _, _, _, _, _⟩, h => by
    simp only [Select.texts, allBalanced_append] at h
    obtain ⟨⟨⟨⟨⟨⟨⟨⟨hsource, hlabel⟩, hfields⟩, hjoins⟩, hfilter⟩, hgrouping⟩, hhaving⟩, horder⟩,
      -⟩ := h
    have keys := fun k hk text htext => hgrouping text (List.mem_flatMap.2 ⟨k, hk, htext⟩)
    refine ⟨fieldClauses_closed hfields, .joinedSource (.append (Source.closed hsource) ?_)
      (joinDocuments_closed hjoins), optionalDocument_closed hfilter, keys,
      optionalDocument_closed hhaving, orderClauses_closed horder⟩
    cases sourceAlias with
    | none => exact .nil
    | some name => exact .tableAlias hlabel.head

theorem Source.closed :
    ∀ {s : Source}, AllBalanced (s.texts (Select.sortNames d)) → Document.Closed d (s.document d)
  | .table _, h => .identifier h.head
  | .query _, h => ((Select.closed h).page (Select.texts_named h) none false).parenthesized

theorem FieldSource.closed :
    ∀ {s : FieldSource}, AllBalanced (s.texts (Select.sortNames d)) →
      Document.Closed d (s.document d)
  | .column _ _, h => .qualified h.left (.identifier h.right.head)
  | .all _, h => .qualified h .star
  | .expression _, h => .raw h.head
  | .query _, h => ((Select.closed h).page (Select.texts_named h) none false).parenthesized

theorem Field.closed :
    ∀ {f : Field}, AllBalanced (f.texts (Select.sortNames d)) →
      Document.Closed d (f.expressionDocument d)
  | ⟨_, _, aggregate, distinct⟩, h => .applyAggregate aggregate distinct (FieldSource.closed h.left)

theorem JoinTarget.closed :
    ∀ {t : JoinTarget}, AllBalanced (t.texts (Select.sortNames d)) →
      Document.Closed d (t.document d)
  | .table _, h => .identifier h.head
  | .query _ number, h =>
    ((Select.closed h).page (Select.texts_named h) none false).parenthesized.append
      (.tableAlias (balanced_joinName number))

theorem Join.closed :
    ∀ {j : Join}, AllBalanced (j.texts (Select.sortNames d)) → Document.Closed d (j.document d)
  | ⟨kind, _, _, _, _⟩, h =>
    ((((Laid.joinKind kind).append (.clause .JOIN)).append (JoinTarget.closed h.right)).append
      (.clause .ON)).append (.joinCondition h.left (JoinTarget.balanced_name h.right))

theorem Condition.grouped :
    ∀ {c : Condition}, AllBalanced (c.texts (Select.sortNames d)) → Grouped d (c.document d)
  | .basic _ operator _, h => .comparison h.head operator (allBalanced_parameters h.tail)
  | .columns _ operator _, h => .columnComparison h.head operator h.tail.head
  | .inValues _ negated _, h => .valueMembership h.head negated (allBalanced_parameters h.tail)
  | .inQuery _ negated _, h =>
    .membership h.head negated
      ((Select.closed h.tail).page (Select.texts_named h.tail) none false)
  | .not c, h => .negation (Condition.grouped (c := c) h).closed
  | .list conjunction _, h => .conjunctionList conjunction (conditionDocuments_closed h)

theorem optionalDocument_closed :
    ∀ {c : Option Condition}, AllBalanced (optionalTexts (Select.sortNames d) c) →
      ∀ e ∈ optionalDocument d c, Document.Closed d e
  | none, _, _, he => nomatch he
  | some _, h, _, he => Option.some.inj he ▸ (Condition.grouped h).closed

theorem fieldClauses_closed :
    ∀ {fs : List Field}, AllBalanced (fieldTexts (Select.sortNames d) fs) →
      ∀ f ∈ fieldClauses d fs, Document.Closed d f.document
  | [], _, _, hf => nomatch hf
  | ⟨_, _, _, _⟩ :: _, h, _, hf => by
    rcases List.mem_cons.1 hf with rfl | hf
    · exact .namedField (Field.closed h.left) h.left.right
    · exact fieldClauses_closed h.right _ hf

theorem orderClauses_closed :
    ∀ {ks : List OrderKey}, AllBalanced (orderTexts (Select.sortNames d) ks) →
      ∀ k ∈ orderClauses d ks, Document.Closed d k.expression
  | [], _, _, hk => nomatch hk
  | ⟨_, _⟩ :: _, h, _, hk => by
    rcases List.mem_cons.1 hk with rfl | hk
    · exact Field.closed h.left
    · exact orderClauses_closed h.right _ hk

theorem joinDocuments_closed :
    ∀ {js : List Join}, AllBalanced (joinTexts (Select.sortNames d) js) →
      ∀ e ∈ joinDocuments d js, Document.Closed d e
  | [], _, _, he => nomatch he
  | _ :: _, h, _, he => by
    rcases List.mem_cons.1 he with rfl | he
    · exact Join.closed h.left
    · exact joinDocuments_closed h.right _ he

theorem conditionDocuments_closed :
    ∀ {cs : List Condition}, AllBalanced (conditionTexts (Select.sortNames d) cs) →
      ∀ e ∈ conditionDocuments d cs, Document.Closed d e
  | [], _, _, he => nomatch he
  | _ :: _, h, _, he => by
    rcases List.mem_cons.1 he with rfl | he
    · exact (Condition.grouped h.left).closed
    · exact conditionDocuments_closed h.right _ he

end

theorem Condition.closed {c : Condition} (h : AllBalanced (c.texts (Select.sortNames d))) :
    Document.Closed d (c.document d) := (Condition.grouped h).closed

end Tree

end ParamSql
