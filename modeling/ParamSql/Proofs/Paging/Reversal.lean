import ParamSql.Proofs.Paging.Sorting
import ParamSql.Proofs.Statement.Root

/-!
# A query in reverse

To render a query in reverse order is to render the query whose own sort keys
have the other direction. No way of paging reads the direction of a sort key
without the flag that reverses it, so the two can be exchanged clause by clause;
queries nested within the query are rendered forward in either case.
-/

namespace ParamSql

theorem Direction.effective_flipped (d : Direction) (reversed : Bool) :
    d.flipped.effective reversed = d.effective (!reversed) := by
  cases reversed <;> simp [effective]

def OrderKey.flipped (k : OrderKey) : OrderKey := { k with direction := k.direction.flipped }

@[simp] theorem OrderKey.flipped_flipped (k : OrderKey) : k.flipped.flipped = k := by
  cases k
  simp [flipped]

/-- The same query with each of its own sort keys in the other direction. -/
def Select.flipped (s : Select) : Select := { s with order := s.order.map OrderKey.flipped }

@[simp] theorem Select.flipped_flipped (s : Select) : s.flipped.flipped = s := by
  cases s
  simp [flipped, Function.comp_def]

@[simp] theorem Select.dialect_flipped (s : Select) : s.flipped.dialect = s.dialect := rfl

@[simp] theorem Select.pagination_flipped (s : Select) : s.flipped.pagination = s.pagination := rfl

def OrderClause.flipped (k : OrderClause) : OrderClause :=
  { k with direction := k.direction.flipped }

namespace Clauses

open Document

def flipped (c : Clauses) : Clauses := { c with order := c.order.map OrderClause.flipped }

def flippedKeys (keys : List (String × Direction)) : List (String × Direction) :=
  keys.map fun (name, direction) => (name, direction.flipped)

theorem orderEntry_flipped (key : Document) (d : Direction) (reversed : Bool) :
    orderEntry key d.flipped reversed = orderEntry key d (!reversed) := by
  simp only [orderEntry, d.effective_flipped]

theorem orderList_flipped (c : Clauses) (reversed : Bool) :
    c.flipped.orderList reversed = c.orderList (!reversed) := by
  simp [orderList, flipped, OrderClause.flipped, orderEntry_flipped, Function.comp_def]

theorem base_flipped (c : Clauses) (options : BaseOptions) :
    c.flipped.base options = c.base { options with reversed := !options.reversed } := by
  simp only [base, c.orderList_flipped]
  rfl

theorem outerEntries_flippedKeys (keys : List (String × Direction)) (reversed : Bool) :
    outerEntries (flippedKeys keys) reversed = outerEntries keys (!reversed) := by
  simp [outerEntries, flippedKeys, orderEntry_flipped, Function.comp_def]

/-- Which names are found outside a query is no matter of directions. -/
theorem outerKeys_flipped (c : Clauses) :
    c.flipped.outerKeys = c.outerKeys.map flippedKeys := by
  have along : ∀ keys : List OrderClause,
      (keys.map OrderClause.flipped).mapM
          (fun k => (c.outerName k).map fun name => (name, k.direction)) =
        (keys.mapM fun k => (c.outerName k).map fun name => (name, k.direction)).map
          flippedKeys := by
    intro keys
    induction keys with
    | nil => rfl
    | cons k keys ih =>
      have head : c.outerName k.flipped = c.outerName k := rfl
      simp only [List.map_cons, List.mapM_cons, ih, head]
      cases c.outerName k with
      | error e => rfl
      | ok name =>
        cases keys.mapM fun k => (c.outerName k).map fun name => (name, k.direction) <;> rfl
  exact along c.order

theorem outerOrderList_flipped (c : Clauses) (reversed : Bool) :
    c.flipped.outerOrderList reversed = c.outerOrderList (!reversed) := by
  unfold outerOrderList
  rw [c.outerKeys_flipped]
  cases c.outerKeys with
  | error e => rfl
  | ok keys => exact congrArg Except.ok (outerEntries_flippedKeys keys reversed)

theorem numberedRows_flipped (d : Dialect) (c : Clauses) (reversed : Bool) :
    c.flipped.numberedRows d reversed = c.numberedRows d (!reversed) := by
  simp only [numberedRows, c.outerOrderList_flipped, c.orderList_flipped, c.base_flipped]
  rfl

theorem rankedPage_flipped (d : Dialect) (c : Clauses) (w : Window) (reversed : Bool) :
    c.flipped.rankedPage d w reversed = c.rankedPage d w (!reversed) := by
  simp only [rankedPage, topRows, c.numberedRows_flipped, c.base_flipped]

theorem countedPage_flipped (d : Dialect) (c : Clauses) (w : Window) (reversed : Bool) :
    c.flipped.countedPage d w reversed = c.countedPage d w (!reversed) := by
  simp only [countedPage, c.base_flipped]

theorem frontPage_flipped (d : Dialect) (c : Clauses) (keys : List (String × Direction))
    (start take : UInt64) (reversed : Bool) :
    c.flipped.frontPage d (flippedKeys keys) start take reversed =
      c.frontPage d keys start take (!reversed) := by
  simp only [frontPage, topRows, c.base_flipped, outerEntries_flippedKeys]

theorem backPage_flipped (d : Dialect) (c : Clauses) (keys : List (String × Direction))
    (remaining take : UInt64) (reversed : Bool) :
    c.flipped.backPage d (flippedKeys keys) remaining take reversed =
      c.backPage d keys remaining take (!reversed) := by
  simp only [backPage, topRows, c.base_flipped, outerEntries_flippedKeys]

theorem countDependentPage_flipped (d : Dialect) (c : Clauses) (w : Window)
    (recordCount : Option UInt64) (reversed : Bool) :
    c.flipped.countDependentPage d w recordCount reversed =
      c.countDependentPage d w recordCount (!reversed) := by
  have unordered : c.flipped.order = [] ↔ c.order = [] := List.map_eq_nil_iff
  have whole (options : BaseOptions) := c.base_flipped options
  unfold countDependentPage
  simp only [topRows, noRows, whole, unordered, c.outerKeys_flipped]
  cases recordCount with
  | none => rfl
  | some count =>
    cases c.outerKeys with
    | error e => rfl
    | ok keys => simp only [Except.map, c.frontPage_flipped, c.backPage_flipped]

theorem page_flipped (d : Dialect) (c : Clauses) (w : Window) (recordCount : Option UInt64)
    (reversed : Bool) :
    c.flipped.page d w recordCount reversed = c.page d w recordCount (!reversed) := by
  cases d with
  | access => exact c.countDependentPage_flipped .access w recordCount reversed
  | sqlServer => exact c.rankedPage_flipped .sqlServer w reversed
  | mySql => simp only [page, limitPage, c.base_flipped]
  | sqlite | postgres => simp only [page, limitOffsetPage, c.base_flipped]
  | oracle => exact c.countedPage_flipped .oracle w reversed

theorem paginated_flipped (d : Dialect) (c : Clauses) (p : Pagination)
    (recordCount : Option UInt64) (reversed : Bool) :
    c.flipped.paginated d p recordCount reversed =
      c.paginated d p recordCount (!reversed) := by
  unfold paginated
  cases p.window? with
  | none => exact c.base_flipped { reversed }
  | some w => exact c.page_flipped d w _ reversed

end Clauses

theorem orderClauses_flipped (d : Dialect) (keys : List OrderKey) :
    orderClauses d (keys.map OrderKey.flipped) =
      (orderClauses d keys).map OrderClause.flipped := by
  induction keys with
  | nil => rfl
  | cons k keys ih =>
    cases k
    simp only [List.map_cons, OrderKey.flipped, orderClauses, ih]
    rfl

theorem Select.clauses_flipped (s : Select) (d : Dialect) :
    s.flipped.clauses d = (s.clauses d).flipped := by
  obtain ⟨_, source, name, fields, distinct, joins, filter, grouping, having, order, _, _⟩ := s
  simp only [flipped, clauses, Clauses.flipped, orderClauses_flipped]

theorem Select.rootDocument_flipped (s : Select) (recordCount : Option UInt64) (reversed : Bool) :
    s.flipped.rootDocument recordCount reversed = s.rootDocument recordCount (!reversed) := by
  simp only [rootDocument, s.clauses_flipped, s.dialect_flipped, s.pagination_flipped,
    Clauses.paginated_flipped]

namespace RootStatement

/-- The flag and the directions of the query's own sort keys do the same: either
alone reverses the statement, and both together leave it as it was. -/
theorem reversed_eq_flipped (s : Select) (recordCount : Option UInt64) :
    (select s recordCount true).output = (select s.flipped recordCount false).output ∧
      (select s recordCount true).render = (select s.flipped recordCount false).render ∧
      (select s.flipped recordCount true).output = (select s recordCount false).output ∧
      (select s.flipped recordCount true).render = (select s recordCount false).render ∧
      s.flipped.flipped = s := by
  have forward : (select s recordCount true).document =
      (select s.flipped recordCount false).document :=
    (s.rootDocument_flipped recordCount false).symm
  have backward : (select s.flipped recordCount true).document =
      (select s recordCount false).document :=
    s.rootDocument_flipped recordCount true
  refine ⟨?_, ?_, ?_, ?_, s.flipped_flipped⟩
  · simp only [output, forward]
  · simp only [render, forward]
    rfl
  · simp only [output, backward]
  · simp only [render, backward]
    rfl

end RootStatement

end ParamSql
