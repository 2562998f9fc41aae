import ParamSql.Rendering.Query

/-!
# Emitting tokens

Rendering as it happens. Each part of a statement gives its tokens when it is
come to, and the parameters among them are bound there and then, whatever
place the tokens take in the finished text. The first part that cannot be
expressed ends the rendering.
-/

namespace ParamSql

namespace Token

def clause (word : Keyword) : List Token := [space, keyword word, space]

def qualified (table : Option String) (name : Token) : List Token :=
  match table with
  | some t => [identifier t, dot, name]
  | none => [name]

def tableAlias (d : Dialect) (name : String) : List Token :=
  space :: (if d.namesTablesWithAs then [keyword .AS, space] else []) ++ [identifier name]

def membership (column : String) (negated : Bool) (elements : List Token) : List Token :=
  parenthesized ([identifier column, space] ++
    (if negated then [keyword .NOT, space] else []) ++ [keyword .IN, space] ++
    parenthesized elements)

def joinKind : JoinKind → List Token
  | .inner => [keyword .INNER]
  | .left => [keyword .LEFT]
  | .right => [keyword .RIGHT]
  | .full => [keyword .FULL, space, keyword .OUTER]

def joinCondition (currentTable currentField otherTable otherField : String) : List Token :=
  (if currentTable = "" then [] else [identifier currentTable, dot]) ++
    [identifier currentField, space, mark .equal, space] ++
    qualified (some otherTable) (identifier otherField)

def groupKey : GroupKey → List Token
  | .column table name => qualified table (identifier name)
  | .expression sql => [raw sql]

def listed (entries : List (List Token)) : List Token := [comma].intercalate entries

/-- ` GROUP BY keys`, or nothing without keys. -/
def groupClause : List GroupKey → List Token
  | [] => []
  | keys => clause .GROUP_BY ++ listed (keys.map groupKey)

end Token

/-- What is rendered with the names given out and the parameters recorded so far. -/
abbrev Emission := StateT Binder (Except Error)

/-- Bind a parameter as the next one. -/
def Parameter.emit (p : Parameter) : Emission Token := modifyGet fun b => b.bind p

namespace Emission

open Token

def rowCount (n : UInt64) : Emission Token :=
  if n.toNat ≤ 9223372036854775807 then pure (integer n.toNat)
  else throw (.invalidPagination (.countOutOfRange n))

def operands (operator : Operator) : List Parameter → Emission (List Token)
  | [] => pure []
  | [p] => do return [space, ← p.emit]
  | [low, high] => do
    let first ← low.emit
    let second ← high.emit
    return space :: first :: clause .AND ++ [second]
  | ps => throw (.invalidArity operator ps.length)

def comparison (column : String) (operator : Operator) (parameters : List Parameter) :
    Emission (List Token) := do
  let values ← operands operator parameters
  return parenthesized ([identifier column, space] ++ operator.tokens ++ values)

def valueMembership (column : String) (negated : Bool) (parameters : List Parameter) :
    Emission (List Token) :=
  if parameters = [] then pure [raw (if negated then "(1 = 1)" else "(1 = 0)")]
  else do
    let values ← parameters.mapM Parameter.emit
    return membership column negated (listed (values.map fun t => [t]))

/-- `TOP n `, or nothing. -/
def topClause : Option UInt64 → Emission (List Token)
  | some n => do return [keyword .TOP, space, ← rowCount n, space]
  | none => pure []

/-- `start,`, or nothing in front of the first row. -/
def limitStart (start : UInt64) : Emission (List Token) :=
  if start = 0 then pure [] else do return [← rowCount start, comma]

/-- ` OFFSET start`, or nothing in front of the first row. -/
def offsetClause (start : UInt64) : Emission (List Token) :=
  if start = 0 then pure [] else do return clause .OFFSET ++ [← rowCount start]

def rowNumberRange (column : String) (w : Window) : Emission (List Token) := do
  let first ← rowCount (saturated (w.start.toNat + 1))
  let last ← rowCount (saturated (w.start.toNat + w.size.toNat))
  return clause .WHERE ++ [identifier column] ++ clause .BETWEEN ++ [first] ++ clause .AND ++ [last]

/-- `SELECT [TOP n ]* FROM (inner)[ alias]` around a query that has been rendered. -/
def selectAllFrom (d : Dialect) (inner : List Token) (top : Option UInt64)
    (name : Option String) : Emission (List Token) := do
  let limit ← topClause top
  return [keyword .SELECT, space] ++ limit ++ star :: clause .FROM ++ parenthesized inner ++
    name.elim [] (tableAlias d)

end Emission

end ParamSql
