import ParamSql.Emission.Basic

/-!
# Emitting pages

The parts of a query, each as what renders it, and the order in which a page
comes to them. The ranking of rows is rendered in front of the query whose
list it begins, and the query that a page is cut out of in front of everything
around it.
-/

namespace ParamSql

/-- The parts of a query that have yet to be rendered. -/
structure Parts where
  distinct : Bool
  fields : List (Emission (List Token))
  /-- Source and joins. -/
  source : Emission (List Token)
  filter : Option (Emission (List Token))
  grouping : List GroupKey
  having : Option (Emission (List Token))
  order : List (Emission (List Token) × Direction)
  /-- The sort keys as a query around this one names them. -/
  outerKeys : Except Error (List (String × Direction))

/-- Changes to the plain form of a query. -/
structure EmissionOptions where
  reversed : Bool := false
  top : Option UInt64 := none
  /-- An entry in front of the field list, which has been rendered before. -/
  leading : Option (List Token) := none
  omitOrder : Bool := false
  alwaysEmpty : Bool := false

namespace Parts

open Token Clauses

variable (q : Parts)

def clausePart (word : Keyword) : Option (Emission (List Token)) → Emission (List Token)
  | some part => do return clause word ++ (← part)
  | none => pure []

def orderEntry (key : List Token) (direction : Direction) (reversed : Bool) : List Token :=
  key ++ [space, keyword (direction.effective reversed).keyword]

/-- Entries of the field list; a query without fields selects everything. -/
def fieldEntries : Emission (List (List Token)) :=
  if q.fields.isEmpty then pure [[star]] else q.fields.mapM id

/-- Entries of ORDER BY, if there are any. -/
def orderList (reversed : Bool) : Emission (Option (List Token)) :=
  if q.order.isEmpty then pure none
  else do
    let entries ← q.order.mapM fun (key, direction) => do
      return orderEntry (← key) direction reversed
    return some (listed entries)

def orderBy (entries : Option (List Token)) : List Token :=
  entries.elim [] (clause .ORDER_BY ++ ·)

def orderClause (omitOrder reversed : Bool) : Emission (List Token) :=
  if omitOrder then pure [] else do return orderBy (← q.orderList reversed)

/-- The query without paging, changed as the options say. -/
def base (options : EmissionOptions) : Emission (List Token) := do
  let limit ← Emission.topClause options.top
  let fields ← q.fieldEntries
  let source ← q.source
  let filter ← clausePart .WHERE q.filter
  let having ← clausePart .HAVING q.having
  let order ← q.orderClause options.omitOrder options.reversed
  return [keyword .SELECT, space] ++ (if q.distinct then [keyword .DISTINCT, space] else []) ++
    limit ++ listed (options.leading.toList ++ fields) ++ clause .FROM ++ source ++ filter ++
    (if options.alwaysEmpty then
      clause (if q.filter.isSome then .AND else .WHERE) ++ [raw "(1 = 0)"] else []) ++
    groupClause q.grouping ++ having ++ order

def topRows (size : UInt64) (reversed : Bool) : Emission (List Token) :=
  q.base { reversed, top := some size }

def limitOffsetPage (w : Window) (reversed : Bool) : Emission (List Token) := do
  let base ← q.base { reversed }
  let size ← Emission.rowCount w.size
  let offset ← Emission.offsetClause w.start
  return base ++ clause .LIMIT ++ [size] ++ offset

def limitPage (w : Window) (reversed : Bool) : Emission (List Token) := do
  let base ← q.base { reversed }
  let start ← Emission.limitStart w.start
  let size ← Emission.rowCount w.size
  return base ++ clause .LIMIT ++ start ++ [size]

def rowNumbering (order : Option (List Token)) : List Token :=
  [raw "ROW_NUMBER() OVER(", keyword .ORDER_BY, space] ++ order.getD [raw "(SELECT NULL)"] ++
    closing :: clause .AS ++ [identifier rowNumberColumn]

def outerEntries (keys : List (String × Direction)) (reversed : Bool) : Option (List Token) :=
  if keys = [] then none
  else some (listed (keys.map fun (name, direction) =>
    orderEntry [identifier name] direction reversed))

/-- The query with its rows numbered. The ranking of a query that is neither
distinct nor grouped binds what its sort keys hold before the query does. -/
def numberedRows (d : Dialect) (reversed : Bool) : Emission (List Token) :=
  if q.distinct ∨ q.grouping ≠ [] then do
    let keys ← liftM q.outerKeys
    let base ← q.base { reversed, omitOrder := true }
    return [keyword .SELECT, space] ++ rowNumbering (outerEntries keys reversed) ++
      comma :: qualified (some numberedSource) star ++ clause .FROM ++ parenthesized base ++
      tableAlias d numberedSource
  else do
    let order ← q.orderList reversed
    q.base { reversed, leading := some (rowNumbering order), omitOrder := true }

def rankedPage (d : Dialect) (w : Window) (reversed : Bool) : Emission (List Token) :=
  if w.start = 0 then q.topRows w.size reversed
  else do
    let numbered ← q.numberedRows d reversed
    let page ← Emission.selectAllFrom d numbered none (some numberedTable)
    let range ← Emission.rowNumberRange rowNumberColumn w
    return page ++ range ++ clause .ORDER_BY ++ [identifier rowNumberColumn]

def countedPage (d : Dialect) (w : Window) (reversed : Bool) : Emission (List Token) := do
  let base ← q.base { reversed }
  if w.start = 0 then
    let page ← Emission.selectAllFrom d base none none
    let size ← Emission.rowCount w.size
    return page ++ clause .WHERE ++ [raw "ROWNUM", space, mark .lessOrEqual, space, size]
  else
    let page ← Emission.selectAllFrom d ([keyword .SELECT, space] ++
      qualified (some innerPage) star ++ comma :: raw "ROWNUM" :: space ::
      identifier rowNumberColumn :: clause .FROM ++ parenthesized base ++
      [space, identifier innerPage]) none none
    let range ← Emission.rowNumberRange rowNumberColumn w
    return page ++ range

/-- The first `start + take` rows are rendered before the queries around them. -/
def frontPage (d : Dialect) (keys : List (String × Direction)) (start take : UInt64)
    (reversed : Bool) : Emission (List Token) := do
  let head ← q.topRows (start + take) reversed
  let tail ← Emission.selectAllFrom d head (some take) (some innerPage)
  let page ← Emission.selectAllFrom d (tail ++ orderBy (outerEntries keys (!reversed))) none
    (some outerPage)
  return page ++ orderBy (outerEntries keys reversed)

def backPage (d : Dialect) (keys : List (String × Direction)) (remaining take : UInt64)
    (reversed : Bool) : Emission (List Token) := do
  let rest ← q.topRows remaining (!reversed)
  let page ← Emission.selectAllFrom d rest (some take) (some innerPage)
  return page ++ orderBy (outerEntries keys reversed)

def countDependentPage (d : Dialect) (w : Window) (recordCount : Option UInt64)
    (reversed : Bool) : Emission (List Token) :=
  if w.start = 0 then q.topRows w.size reversed
  else match recordCount with
    | none => throw (.unsupported d .deepPageWithoutCount)
    | some count =>
      if count ≤ w.start ∨ w.size = 0 then q.base { reversed, alwaysEmpty := true }
      else if q.order.isEmpty then throw (.invalidPagination .orderMissing)
      else do
        let keys ← liftM q.outerKeys
        let remaining := count - w.start
        let take := min w.size remaining
        if w.start ≤ count / 2 then q.frontPage d keys w.start take reversed
        else q.backPage d keys remaining take reversed

def paginated (d : Dialect) (p : Pagination) (recordCount : Option UInt64) (reversed : Bool) :
    Emission (List Token) :=
  match p.window? with
  | none => q.base { reversed }
  | some w =>
    match d with
    | .access => q.countDependentPage .access w (recordCount <|> p.recordCount?) reversed
    | .sqlServer => q.rankedPage .sqlServer w reversed
    | .mySql => q.limitPage w reversed
    | .sqlite | .postgres => q.limitOffsetPage w reversed
    | .oracle => q.countedPage .oracle w reversed

end Parts

end ParamSql
