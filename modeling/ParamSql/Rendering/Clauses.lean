import ParamSql.Rendering.Fragment
import ParamSql.Text.Case

/-!
# Clauses of a query

A query whose parts have become documents. `Clauses.base` puts them together
in the order of the SQL standard, with the changes that paging asks for.
-/

namespace ParamSql

/-- An entry of the field list and the name it has outside the query. -/
structure FieldClause where
  document : Document
  outputName : Option String
  isStar : Bool
deriving DecidableEq

structure OrderClause where
  expression : Document
  outputName : Option String
  direction : Direction
deriving DecidableEq

structure Clauses where
  distinct : Bool
  fields : List FieldClause
  /-- Source and joins. -/
  source : Document
  filter : Option Document
  grouping : List GroupKey
  having : Option Document
  order : List OrderClause
deriving DecidableEq

/-- Changes to the plain form of a query. -/
structure BaseOptions where
  /-- Sort in the opposite direction by every key. -/
  reversed : Bool := false
  /-- Keep the first rows only. -/
  top : Option UInt64 := none
  /-- An entry in front of the field list. -/
  leading : Option Document := none
  omitOrder : Bool := false
  /-- Let no row pass the filter. -/
  alwaysEmpty : Bool := false

namespace Clauses

open Document

/-- Condition that no row meets. -/
def alwaysFalse : Document := raw "(1 = 0)"

/-- Entries of the field list; a query without fields selects everything. -/
def fieldEntries (c : Clauses) (leading : Option Document) : List Document :=
  let own := if c.fields = [] then [[.token .star]] else c.fields.map (·.document)
  match leading with
  | some entry => entry :: own
  | none => own

def whereClause (filter : Option Document) (alwaysEmpty : Bool) : Document :=
  match filter, alwaysEmpty with
  | none, false => []
  | none, true => clause .WHERE ++ alwaysFalse
  | some f, false => clause .WHERE ++ f
  | some f, true => clause .WHERE ++ f ++ clause .AND ++ alwaysFalse

/-- A sort key with the direction to sort in. -/
def orderEntry (key : Document) (direction : Direction) (reversed : Bool) : Document :=
  key ++ space ++ keyword (direction.effective reversed).keyword

/-- Entries of ORDER BY, if there are any. -/
def orderList (c : Clauses) (reversed : Bool) : Option Document :=
  if c.order = [] then none
  else some (separatedBy comma
    (c.order.map fun k => orderEntry k.expression k.direction reversed))

/-- The query without paging, changed as the options say. -/
def base (c : Clauses) (options : BaseOptions) : Document :=
  keyword .SELECT ++ space ++
    (if c.distinct then keyword .DISTINCT ++ space else []) ++
    (match options.top with
      | some n => keyword .TOP ++ space ++ rowCount n ++ space
      | none => []) ++
    separatedBy comma (c.fieldEntries options.leading) ++
    clause .FROM ++ c.source ++
    whereClause c.filter options.alwaysEmpty ++
    (if c.grouping = [] then []
      else clause .GROUP_BY ++ separatedBy comma (c.grouping.map GroupKey.document)) ++
    (match c.having with
      | some h => clause .HAVING ++ h
      | none => []) ++
    (if options.omitOrder then [] else orderBy (c.orderList options.reversed))

theorem base_eq (c : Clauses) (options : BaseOptions) :
    c.base options =
      keyword .SELECT ++ space ++ (if c.distinct then keyword .DISTINCT ++ space else []) ++
        (options.top.elim [] fun n => keyword .TOP ++ space ++ rowCount n ++ space) ++
        separatedBy comma (c.fieldEntries options.leading) ++ clause .FROM ++ c.source ++
        whereClause c.filter options.alwaysEmpty ++
        (if c.grouping = [] then []
          else clause .GROUP_BY ++ separatedBy comma (c.grouping.map GroupKey.document)) ++
        c.having.elim [] (clause .HAVING ++ ·) ++
        (if options.omitOrder then [] else orderBy (c.orderList options.reversed)) := by
  unfold base
  cases options.top <;> cases c.having <;> rfl

/-- Whether a query around this one sees a column of this name. -/
def projects (c : Clauses) (name : String) : Bool :=
  c.fields.isEmpty ||
    c.fields.any fun f => f.isStar || f.outputName.any (Text.sameIgnoringCase · name)

/-- The name by which a query around this one sorts like this sort key. -/
def outerName (c : Clauses) (k : OrderClause) : Except Error String :=
  match k.outputName with
  | some name =>
    if c.projects name then .ok name else .error (.invalidPagination (.orderNotSelected name))
  | none => .error (.invalidPagination .orderUnnamed)

/-- The sort keys as a query around this one names them. -/
def outerKeys (c : Clauses) : Except Error (List (String × Direction)) :=
  c.order.mapM fun k => (c.outerName k).map fun name => (name, k.direction)

def outerEntries (keys : List (String × Direction)) (reversed : Bool) : Option Document :=
  if keys = [] then none
  else some (separatedBy comma
    (keys.map fun (name, direction) => orderEntry (identifier name) direction reversed))

/-- Entries of an ORDER BY around this query. -/
def outerOrderList (c : Clauses) (reversed : Bool) : Except Error (Option Document) :=
  c.outerKeys.map fun keys => outerEntries keys reversed

end Clauses

end ParamSql
