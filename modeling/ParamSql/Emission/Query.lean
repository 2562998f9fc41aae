import ParamSql.Emission.Paging

/-!
# Emitting queries

Queries and conditions are rendered by recursion over their tree. A query
inside another statement is rendered where that statement comes to it, with
the names that statement has given out so far.
-/

namespace ParamSql

open Token

/-- The names by which a query around this one sorts, which it has to see. -/
def Select.outerKeys (fields : List Field) (order : List OrderKey) :
    Except Error (List (String × Direction)) :=
  order.mapM fun k =>
    match k.field.outputName? with
    | some name =>
      if fields.isEmpty || fields.any fun f =>
          f.isStar || f.outputName?.any (Text.sameIgnoringCase · name) then
        .ok (name, k.direction)
      else .error (.invalidPagination (.orderNotSelected name))
    | none => .error (.invalidPagination .orderUnnamed)

/-- The source with its joins, each past the first with all before it in parentheses. -/
def Emission.joinedSource (source : Emission (List Token))
    (joins : List (Emission (List Token))) : Emission (List Token) := do
  let first ← source
  let rest ← joins.mapM id
  return List.replicate (joins.length - 1) opening ++ first ++ close rest
where
  close : List (List Token) → List Token
    | [] => []
    | [j] => space :: j
    | j :: js => space :: j ++ closing :: close js

/-- An aggregate around what a field selects; its name comes first. -/
def Emission.applyAggregate (d : Dialect) (aggregate : Option Aggregate) (distinct : Bool)
    (source : Emission (List Token)) : Emission (List Token) :=
  match aggregate with
  | none => source
  | some a => do
    let name ← liftM (d.aggregateName a)
    let selected ← source
    return raw name :: parenthesized
      ((if distinct then [keyword .DISTINCT, space] else []) ++ selected)

mutual

/-- The parts of a query in a dialect. -/
def Select.parts (d : Dialect) : Select → Parts
  | ⟨_, source, sourceAlias, fields, distinct, joins, filter, grouping, having, order, _, _⟩ =>
    { distinct
      fields := emitFields d fields
      source := Emission.joinedSource (do
        return (← source.emit d) ++ sourceAlias.elim [] (tableAlias d)) (emitJoins d joins)
      filter := emitOptional d filter
      grouping
      having := emitOptional d having
      order := emitOrder d order
      outerKeys := Select.outerKeys fields order }

def Source.emit (d : Dialect) : Source → Emission (List Token)
  | .table name => pure [identifier name]
  | .query q => do
    return parenthesized (← (q.parts d).paginated d q.pagination none false)

def FieldSource.emit (d : Dialect) : FieldSource → Emission (List Token)
  | .column table name => pure (qualified table (identifier name))
  | .all table => pure (qualified table star)
  | .expression sql => pure [raw sql]
  | .query q => do
    return parenthesized (← (q.parts d).paginated d q.pagination none false)

def Field.emitExpression (d : Dialect) : Field → Emission (List Token)
  | ⟨source, _, aggregate, distinct⟩ =>
    Emission.applyAggregate d aggregate distinct (source.emit d)

def JoinTarget.emit (d : Dialect) : JoinTarget → Emission (List Token)
  | .table name => pure [identifier name]
  | .query q number => do
    let inner ← (q.parts d).paginated d q.pagination none false
    return parenthesized inner ++ tableAlias d (joinName number)

def Join.emit (d : Dialect) : Join → Emission (List Token)
  | ⟨kind, currentTable, currentField, target, otherField⟩ => do
    let other ← target.emit d
    return joinKind kind ++ clause .JOIN ++ other ++ clause .ON ++
      Token.joinCondition currentTable currentField target.name otherField

def Condition.emit (d : Dialect) : Condition → Emission (List Token)
  | .basic column operator parameters => Emission.comparison column operator parameters
  | .columns left operator right =>
    pure (parenthesized ([identifier left, space] ++ operator.tokens ++
      [space, identifier right]))
  | .inValues column negated parameters => Emission.valueMembership column negated parameters
  | .inQuery column negated q => do
    return membership column negated (← (q.parts d).paginated d q.pagination none false)
  | .not inner => do
    return parenthesized (keyword .NOT :: parenthesized (← inner.emit d))
  | .list conjunction members => do
    let parts ← (emitConditions d members).mapM id
    return parenthesized ((clause conjunction.keyword).intercalate parts)

def emitOptional (d : Dialect) : Option Condition → Option (Emission (List Token))
  | none => none
  | some c => some (c.emit d)

def emitFields (d : Dialect) : List Field → List (Emission (List Token))
  | [] => []
  | f :: fs => (do
      return (← f.emitExpression d) ++ f.newName.elim [] fun name =>
        clause .AS ++ [identifier name]) :: emitFields d fs

def emitOrder (d : Dialect) : List OrderKey → List (Emission (List Token) × Direction)
  | [] => []
  | ⟨field, direction⟩ :: ks => (field.emitExpression d, direction) :: emitOrder d ks

def emitJoins (d : Dialect) : List Join → List (Emission (List Token))
  | [] => []
  | j :: js => j.emit d :: emitJoins d js

def emitConditions (d : Dialect) : List Condition → List (Emission (List Token))
  | [] => []
  | c :: cs => c.emit d :: emitConditions d cs

end

/-- A query as it stands inside another statement. -/
def Select.emit (d : Dialect) (q : Select) : Emission (List Token) :=
  (q.parts d).paginated d q.pagination none false

/-- A query as a statement of its own. -/
def Select.emitRoot (q : Select) (recordCount : Option UInt64) (reversed : Bool) :
    Emission (List Token) :=
  (q.parts q.dialect).paginated q.dialect q.pagination recordCount reversed

end ParamSql
