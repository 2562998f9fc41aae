import ParamSql.Dialect.Function
import ParamSql.Document.Basic
import ParamSql.Query.Field

/-!
# Fragments of statements

Documents for the parts of a statement that hold no query: operators, lists of
parameters, names of tables, row counts and group keys.
-/

namespace ParamSql

def Operator.tokens : Operator → List Token
  | isNull => [.keyword .IS_NULL]
  | isNotNull => [.keyword .IS_NOT_NULL]
  | equal => [.mark .equal]
  | notEqual => [.mark .notEqual]
  | greaterThan => [.mark .greater]
  | lessThan => [.mark .less]
  | greaterThanOrEqual => [.mark .greaterOrEqual]
  | lessThanOrEqual => [.mark .lessOrEqual]
  | like => [.keyword .LIKE]
  | notLike => [.keyword .NOT, .space, .keyword .LIKE]
  | between => [.keyword .BETWEEN]
  | notBetween => [.keyword .NOT, .space, .keyword .BETWEEN]

def Conjunction.keyword : Conjunction → Keyword
  | and => .AND
  | or => .OR

def Direction.keyword : Direction → Keyword
  | ascending => .ASC
  | descending => .DESC

namespace Document

/-- Values after an operator: none, one, or two joined by AND. -/
def operands (operator : Operator) : List Parameter → Document
  | [] => []
  | [p] => space ++ [.hole p]
  | [low, high] => space ++ [.hole low] ++ clause .AND ++ [.hole high]
  | ps => failing (.invalidArity operator ps.length)

/-- `(column operator values)` -/
def comparison (column : String) (operator : Operator) (parameters : List Parameter) : Document :=
  parenthesized (identifier column ++ space ++ ofTokens operator.tokens ++
    operands operator parameters)

/-- `(left operator right)` -/
def columnComparison (left : String) (operator : Operator) (right : String) : Document :=
  parenthesized (identifier left ++ space ++ ofTokens operator.tokens ++ space ++
    identifier right)

/-- `(column [NOT] IN (elements))` -/
def membership (column : String) (negated : Bool) (elements : Document) : Document :=
  parenthesized (identifier column ++ space ++
    (if negated then keyword .NOT ++ space else []) ++ keyword .IN ++ space ++
    parenthesized elements)

/-- Membership in a list of values. In an empty list there is nothing, so the
condition is always false, and its negation always true. -/
def valueMembership (column : String) (negated : Bool) (parameters : List Parameter) : Document :=
  if parameters = [] then raw (if negated then "(1 = 1)" else "(1 = 0)")
  else membership column negated (separatedBy comma (parameters.map fun p => [.hole p]))

/-- `(NOT(inner))` -/
def negation (inner : Document) : Document :=
  parenthesized (keyword .NOT ++ parenthesized inner)

/-- `(member AND member ...)` -/
def conjunctionList (conjunction : Conjunction) (members : List Document) : Document :=
  parenthesized (separatedBy (clause conjunction.keyword) members)

/-- A name, qualified by its table if it has one. -/
def qualified (table : Option String) (name : Document) : Document :=
  match table with
  | some t => identifier t ++ .token .dot :: name
  | none => name

/-- The new name of a table, after AS where the dialect allows it. -/
def tableAlias (d : Dialect) (name : String) : Document :=
  space ++ (if d.namesTablesWithAs then keyword .AS ++ space else []) ++ identifier name

/-- An integer in the text; there is none past the largest signed word. -/
def rowCount (n : UInt64) : Document :=
  if n.toNat ≤ 9223372036854775807 then [.token (.integer n.toNat)]
  else failing (.invalidPagination (.countOutOfRange n))

theorem fits_none : ∀ n ∈ (none : Option UInt64), n.toNat ≤ 9223372036854775807 := nofun

theorem fits_some {n : UInt64} (h : n.toNat ≤ 9223372036854775807) :
    ∀ m ∈ some n, m.toNat ≤ 9223372036854775807 := by
  rintro _ ⟨⟩
  exact h

/-- `LIMIT size OFFSET start` from whichever of the two is given; an offset of
zero is left out. -/
def limitOffset (size start : Option UInt64) : Document :=
  let limit := match size with
    | some n => keyword .LIMIT ++ space ++ rowCount n
    | none => []
  match start.filter (· ≠ 0) with
  | some n => limit ++ (if size.isSome then space else []) ++ keyword .OFFSET ++ space ++ rowCount n
  | none => limit

theorem space_append_limitOffset (size start : UInt64) :
    space ++ limitOffset (some size) (some start) =
      clause .LIMIT ++ rowCount size ++
        if start = 0 then [] else clause .OFFSET ++ rowCount start := by
  by_cases hstart : start = 0 <;> simp [limitOffset, Option.filter, hstart, clause]

/-- The first row after `start` and the last row of a window, counted from
one; a position past the largest word is that word. -/
def rowNumberRange (column : String) (w : Window) : Document :=
  clause .WHERE ++ identifier column ++ clause .BETWEEN ++
    rowCount (saturated (w.start.toNat + 1)) ++ clause .AND ++
    rowCount (saturated (w.start.toNat + w.size.toNat))

/-- `SELECT [TOP n ]* FROM (inner)[ alias]` -/
def selectAllFrom (d : Dialect) (inner : Document) (top : Option UInt64) (name : Option String) :
    Document :=
  keyword .SELECT ++ space ++
    (match top with
      | some n => keyword .TOP ++ space ++ rowCount n ++ space
      | none => []) ++
    [.token .star] ++ clause .FROM ++ parenthesized inner ++
    (match name with
      | some name => tableAlias d name
      | none => [])

theorem selectAllFrom_eq (d : Dialect) (inner : Document) (top : Option UInt64)
    (name : Option String) :
    selectAllFrom d inner top name =
      keyword .SELECT ++ space ++
        (top.elim [] fun n => keyword .TOP ++ space ++ rowCount n ++ space) ++
        [.token .star] ++ clause .FROM ++ parenthesized inner ++ name.elim [] (tableAlias d) := by
  cases top <;> cases name <;> rfl

/-- ` ORDER BY entries`, or nothing without entries. -/
def orderBy : Option Document → Document
  | some entries => clause .ORDER_BY ++ entries
  | none => []

end Document

/-- Group keys bind nothing. -/
def GroupKey.document : GroupKey → Document
  | .column table name => Document.qualified table (Document.identifier name)
  | .expression sql => Document.raw sql

end ParamSql
