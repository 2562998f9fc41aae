import ParamSql.Rendering.Paging

/-!
# Queries as documents

The parts of a query become documents by recursion over its tree. The dialect
is that of the statement around everything; the one a nested query was made
for plays no part.
-/

namespace ParamSql

open Document

/-- The source with its joins. Each join past the first has all before it in
parentheses. -/
def joinedSource (source : Document) (joins : List Document) : Document :=
  List.replicate (joins.length - 1) (.token .opening) ++ source ++ close joins
where
  close : List Document → Document
    | [] => []
    | [j] => space ++ j
    | j :: js => space ++ j ++ .token .closing :: close js

/-- Name of a joined query. -/
def joinName (number : UInt32) : String := "JT_" ++ toString number.toNat

/-- The name by which a join refers to its other side. -/
def JoinTarget.name : JoinTarget → String
  | .table name => name
  | .query _ number => joinName number

def JoinKind.document : JoinKind → Document
  | inner => keyword .INNER
  | left => keyword .LEFT
  | right => keyword .RIGHT
  | full => keyword .FULL ++ space ++ keyword .OUTER

/-- The condition of a join; a nameless current side is left out. -/
def joinCondition (currentTable currentField otherTable otherField : String) : Document :=
  (if currentTable = "" then [] else identifier currentTable ++ [.token .dot]) ++
    identifier currentField ++ space ++ [.token (.mark .equal)] ++ space ++
    qualified (some otherTable) (identifier otherField)

/-- An aggregate around the expression of a field. -/
def applyAggregate (d : Dialect) (aggregate : Option Aggregate) (distinct : Bool)
    (expression : Document) : Document :=
  match aggregate with
  | none => expression
  | some a =>
    (match d.aggregateName a with
      | .ok name => raw name
      | .error e => failing e) ++
      parenthesized ((if distinct then keyword .DISTINCT ++ space else []) ++ expression)

/-- A field with the name given to it. -/
def namedField (expression : Document) : Option String → Document
  | some name => expression ++ clause .AS ++ identifier name
  | none => expression

mutual

/-- The clauses of a query in a dialect. -/
def Select.clauses (d : Dialect) : Select → Clauses
  | ⟨_, source, sourceAlias, fields, distinct, joins, filter, grouping, having, order, _, _⟩ =>
    { distinct
      fields := fieldClauses d fields
      source := joinedSource (source.document d ++ (match sourceAlias with
        | some name => tableAlias d name
        | none => [])) (joinDocuments d joins)
      filter := optionalDocument d filter
      grouping
      having := optionalDocument d having
      order := orderClauses d order }

def Source.document (d : Dialect) : Source → Document
  | .table name => identifier name
  | .query q => parenthesized ((q.clauses d).paginated d q.pagination none false)

def FieldSource.document (d : Dialect) : FieldSource → Document
  | .column table name => qualified table (identifier name)
  | .all table => qualified table [.token .star]
  | .expression sql => raw sql
  | .query q => parenthesized ((q.clauses d).paginated d q.pagination none false)

/-- The expression of a field, without the name given to it. -/
def Field.expressionDocument (d : Dialect) : Field → Document
  | ⟨source, _, aggregate, distinct⟩ => applyAggregate d aggregate distinct (source.document d)

def JoinTarget.document (d : Dialect) : JoinTarget → Document
  | .table name => identifier name
  | .query q number =>
    parenthesized ((q.clauses d).paginated d q.pagination none false) ++
      tableAlias d (joinName number)

def Join.document (d : Dialect) : Join → Document
  | ⟨kind, currentTable, currentField, target, otherField⟩ =>
    kind.document ++ clause .JOIN ++ target.document d ++ clause .ON ++
      joinCondition currentTable currentField target.name otherField

def Condition.document (d : Dialect) : Condition → Document
  | .basic column operator parameters => comparison column operator parameters
  | .columns left operator right => columnComparison left operator right
  | .inValues column negated parameters => valueMembership column negated parameters
  | .inQuery column negated q =>
    membership column negated ((q.clauses d).paginated d q.pagination none false)
  | .not inner => negation (inner.document d)
  | .list conjunction members => conjunctionList conjunction (conditionDocuments d members)

def optionalDocument (d : Dialect) : Option Condition → Option Document
  | none => none
  | some c => some (c.document d)

def fieldClauses (d : Dialect) : List Field → List FieldClause
  | [] => []
  | f :: fs =>
    { document := namedField (f.expressionDocument d) f.newName
      outputName := f.outputName?
      isStar := f.isStar } :: fieldClauses d fs

def orderClauses (d : Dialect) : List OrderKey → List OrderClause
  | [] => []
  | ⟨field, direction⟩ :: ks =>
    { expression := field.expressionDocument d
      outputName := field.outputName?
      direction } :: orderClauses d ks

def joinDocuments (d : Dialect) : List Join → List Document
  | [] => []
  | j :: js => j.document d :: joinDocuments d js

def conditionDocuments (d : Dialect) : List Condition → List Document
  | [] => []
  | c :: cs => c.document d :: conditionDocuments d cs

end

namespace Select

/-- A query as it stands inside another statement. -/
def document (d : Dialect) (q : Select) : Document :=
  (q.clauses d).paginated d q.pagination none false

/-- A query as a statement of its own. -/
def rootDocument (q : Select) (recordCount : Option UInt64) (reversed : Bool) : Document :=
  (q.clauses q.dialect).paginated q.dialect q.pagination recordCount reversed

end Select

/-- A field as it stands in a field list. -/
def Field.document (d : Dialect) (f : Field) : Document :=
  namedField (f.expressionDocument d) f.newName

theorem Select.clauses_distinct (s : Select) (d : Dialect) :
    (s.clauses d).distinct = s.distinct := by
  cases s
  rfl

theorem Select.clauses_fields (s : Select) (d : Dialect) :
    (s.clauses d).fields = s.fields.map fun f => ⟨f.document d, f.outputName?, f.isStar⟩ := by
  have each (fields : List Field) : fieldClauses d fields =
      fields.map fun f => ⟨f.document d, f.outputName?, f.isStar⟩ := by
    induction fields with
    | nil => rfl
    | cons f fields ih =>
      rw [fieldClauses, ih]
      rfl
  cases s
  exact each _

theorem Select.clauses_order (s : Select) (d : Dialect) :
    (s.clauses d).order = s.order.map fun k =>
      ⟨k.field.expressionDocument d, k.field.outputName?, k.direction⟩ := by
  have each (keys : List OrderKey) : orderClauses d keys =
      keys.map fun k => ⟨k.field.expressionDocument d, k.field.outputName?, k.direction⟩ := by
    induction keys with
    | nil => rfl
    | cons k keys ih =>
      obtain ⟨field, direction⟩ := k
      rw [orderClauses, ih]
      rfl
  cases s
  exact each _

/-- A sort key as it stands in ORDER BY. -/
def OrderKey.document (d : Dialect) (k : OrderKey) (reversed : Bool) : Document :=
  Clauses.orderEntry (k.field.expressionDocument d) k.direction reversed

/-- A sort key as a query around its own names it. -/
def OrderKey.outerDocument (k : OrderKey) (reversed : Bool) : Document :=
  match k.field.outputName? with
  | some name => Clauses.orderEntry (identifier name) k.direction reversed
  | none => failing (.invalidPagination .orderUnnamed)

/-- Text and parameters of a condition on its own. -/
def Condition.render (d : Dialect) (c : Condition) : Except Error (String × List Parameter) :=
  (c.document d).render d

end ParamSql
