import ParamSql.Rendering.Clauses

/-!
# Paging

How each dialect cuts a window of rows out of a query. Where rows can be
skipped natively the base query is followed by its limit; elsewhere the rows
are numbered, or carved out of first rows taken in both directions.
-/

namespace ParamSql.Clauses

open Document

/-- Name of the column that numbers the rows. -/
def rowNumberColumn : String := "PAGE_ROW_NUMBER"

/-- Name of the query whose rows are numbered. -/
def numberedTable : String := "PAGE_TABLE"

def numberedSource : String := "PAGE_SRC"

def innerPage : String := "PAGE_INNER"

def outerPage : String := "PAGE_OUTER"

/-- The first rows, taken by TOP. -/
def topRows (c : Clauses) (size : UInt64) (reversed : Bool) : Document :=
  c.base { reversed, top := some size }

/-- The query with no rows. -/
def noRows (c : Clauses) (reversed : Bool) : Document :=
  c.base { reversed, alwaysEmpty := true }

/-- `base LIMIT size[ OFFSET start]` -/
def limitOffsetPage (c : Clauses) (w : Window) (reversed : Bool) : Document :=
  c.base { reversed } ++ space ++ limitOffset (some w.size) (some w.start)

/-- `base LIMIT [start,]size` -/
def limitPage (c : Clauses) (w : Window) (reversed : Bool) : Document :=
  c.base { reversed } ++ clause .LIMIT ++
    (if w.start = 0 then [] else rowCount w.start ++ comma) ++ rowCount w.size

/-- `ROW_NUMBER() OVER(ORDER BY order) AS PAGE_ROW_NUMBER`; without an order
the rows are numbered in any order. -/
def rowNumbering (order : Option Document) : Document :=
  raw "ROW_NUMBER() OVER(" ++ keyword .ORDER_BY ++ space ++
    order.getD (raw "(SELECT NULL)") ++ [.token .closing] ++ clause .AS ++
    identifier rowNumberColumn

/-- The query with its rows numbered. A distinct or grouped query is put
inside another one, so that its result rows are numbered and not the rows it
reads. -/
def numberedRows (d : Dialect) (c : Clauses) (reversed : Bool) : Document :=
  if c.distinct ∨ c.grouping ≠ [] then
    match c.outerOrderList reversed with
    | .error e => failing e
    | .ok order =>
      keyword .SELECT ++ space ++ rowNumbering order ++ comma ++
        qualified (some numberedSource) [.token .star] ++ clause .FROM ++
        parenthesized (c.base { reversed, omitOrder := true }) ++ tableAlias d numberedSource
  else
    c.base { reversed, leading := some (rowNumbering (c.orderList reversed)), omitOrder := true }

/-- The first rows by TOP, and later ones by their numbers. -/
def rankedPage (d : Dialect) (c : Clauses) (w : Window) (reversed : Bool) : Document :=
  if w.start = 0 then c.topRows w.size reversed
  else
    selectAllFrom d (c.numberedRows d reversed) none (some numberedTable) ++
      rowNumberRange rowNumberColumn w ++ clause .ORDER_BY ++ identifier rowNumberColumn

/-- Rows by the number that the database gives them as they come. -/
def countedPage (d : Dialect) (c : Clauses) (w : Window) (reversed : Bool) : Document :=
  let base := c.base { reversed }
  if w.start = 0 then
    selectAllFrom d base none none ++ clause .WHERE ++ raw "ROWNUM" ++ space ++
      [.token (.mark .lessOrEqual)] ++ space ++ rowCount w.size
  else
    let numbered :=
      keyword .SELECT ++ space ++ qualified (some innerPage) [.token .star] ++ comma ++
        raw "ROWNUM" ++ space ++ identifier rowNumberColumn ++ clause .FROM ++
        parenthesized base ++ space ++ identifier innerPage
    selectAllFrom d numbered none none ++ rowNumberRange rowNumberColumn w

/-- A page within the first half: of the first `start + take` rows the last
`take`, found by sorting backward, and sorted forward again. -/
def frontPage (d : Dialect) (c : Clauses) (keys : List (String × Direction))
    (start take : UInt64) (reversed : Bool) : Document :=
  let head := c.topRows (start + take) reversed
  let tail := selectAllFrom d head (some take) (some innerPage) ++
    orderBy (outerEntries keys (!reversed))
  selectAllFrom d tail none (some outerPage) ++ orderBy (outerEntries keys reversed)

/-- A page within the second half: of the last `remaining` rows, taken from
the other end, the first `take`. -/
def backPage (d : Dialect) (c : Clauses) (keys : List (String × Direction))
    (remaining take : UInt64) (reversed : Bool) : Document :=
  selectAllFrom d (c.topRows remaining (!reversed)) (some take) (some innerPage) ++
    orderBy (outerEntries keys reversed)

/-- Put the fault of a row count that cannot be written in front of a
document, so that it is the one reported. -/
def guardedBy (n : UInt64) (d : Document) : Document :=
  match (rowCount n).firstFault? with
  | some e => failing e
  | none => d

/-- Pages by first rows alone. Past the first page the number of all rows has
to be known, and past the last row there is nothing. The larger of the two
numbers of rows a page takes is checked first. -/
def countDependentPage (d : Dialect) (c : Clauses) (w : Window) (recordCount : Option UInt64)
    (reversed : Bool) : Document :=
  if w.start = 0 then c.topRows w.size reversed
  else match recordCount with
    | none => failing (.unsupported d .deepPageWithoutCount)
    | some count =>
      if count ≤ w.start ∨ w.size = 0 then c.noRows reversed
      else if c.order = [] then failing (.invalidPagination .orderMissing)
      else match c.outerKeys with
        | .error e => failing e
        | .ok keys =>
          let remaining := count - w.start
          let take := min w.size remaining
          if w.start ≤ count / 2 then
            guardedBy (w.start + take) (c.frontPage d keys w.start take reversed)
          else
            guardedBy remaining (c.backPage d keys remaining take reversed)

/-- The rows of a window, in the way of a dialect. -/
def page (d : Dialect) (c : Clauses) (w : Window) (recordCount : Option UInt64)
    (reversed : Bool) : Document :=
  match d with
  | .access => c.countDependentPage .access w recordCount reversed
  | .sqlServer => c.rankedPage .sqlServer w reversed
  | .mySql => c.limitPage w reversed
  | .sqlite | .postgres => c.limitOffsetPage w reversed
  | .oracle => c.countedPage .oracle w reversed

/-- The query as its pagination asks; a record count given here wins over the
one that the pagination holds. -/
def paginated (d : Dialect) (c : Clauses) (p : Pagination) (recordCount : Option UInt64)
    (reversed : Bool) : Document :=
  match p.window? with
  | none => c.base { reversed }
  | some w => c.page d w (recordCount <|> p.recordCount?) reversed

end ParamSql.Clauses
