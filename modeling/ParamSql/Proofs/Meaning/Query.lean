import Mathlib.Data.List.Dedup
import ParamSql.Proofs.Meaning.Condition
import ParamSql.Rendering.Query

/-!
# Rows of queries

What a query answers over given tables, read clause by clause in the order of
the SQL standard: the source and its joins, WHERE, GROUP BY, HAVING, the field
list, DISTINCT and the window of rows. Queries that a query reads from are
answered by recursion. All that the clauses do not say is the database's own.
-/

namespace ParamSql

/-- The contents of tables and what a database makes of single rows and groups. -/
structure Engine (ρ : Type*) where
  table : String → List ρ
  /-- A row whose columns go by the name of the source. -/
  renamed : String → ρ → ρ
  /-- Rows joined with those of another side, by a field of either. -/
  joined : JoinKind → (currentTable currentField otherTable otherField : String) →
    List ρ → List ρ → List ρ
  /-- Truth at a row of a condition that is not made of others. -/
  rowTruth : ρ → Condition → Truth
  /-- Truth at a group of a condition that is not made of others. -/
  groupTruth : List ρ → Condition → Truth
  groupKey : GroupKey → ρ → Value
  /-- Whether SQL text applies an aggregate. -/
  aggregates : String → Bool
  /-- The row that a field list makes of a group. -/
  entry : List Field → List ρ → ρ
  arranged : List OrderKey → List (List ρ) → List (List ρ)
  /-- The number in the first column of a row. -/
  number : ρ → Nat
  arranged_perm : ∀ keys groups, (arranged keys groups).Perm groups
  number_countAll : ∀ group, number (entry [.countAll] group) = group.length

def Pagination.slice {α : Type*} (p : Pagination) (rows : List α) : List α :=
  match p.window? with
  | none => rows
  | some w => (rows.drop w.start.toNat).take w.size.toNat

namespace Engine

variable {ρ : Type*} (e : Engine ρ)

def kept (filter : Option Condition) (rows : List ρ) : List ρ :=
  rows.filter fun r => filter.all fun c => c.truth (e.rowTruth r) = .holds

def passes (having : Option Condition) (group : List ρ) : Bool :=
  having.all fun c => c.truth (e.groupTruth group) = .holds

/-- Rows that agree in every key of GROUP BY, a group for each combination of values. -/
def groups (keys : List GroupKey) (rows : List ρ) : List (List ρ) :=
  (rows.map fun r => keys.map (e.groupKey · r)).dedup.map fun values =>
    rows.filter fun r => keys.map (e.groupKey · r) = values

def isAggregate (f : Field) : Bool :=
  f.aggregate.isSome ||
    match f.source with
    | .expression sql => e.aggregates sql
    | _ => false

/-- Whether a query without GROUP BY makes one group of all its rows. -/
def aggregatesAll (s : Select) : Bool := s.having.isSome || s.fields.any e.isAggregate

/-- The groups that each make a row: those of GROUP BY, all rows together, or each row alone. -/
def grouped (s : Select) (rows : List ρ) : List (List ρ) :=
  if s.grouping ≠ [] then e.groups s.grouping rows
  else if e.aggregatesAll s then [rows]
  else rows.map fun r => [r]

variable [DecidableEq ρ]

/-- Rows before the window of the pagination, made of the rows of FROM. -/
def listed (s : Select) (read : List ρ) : List ρ :=
  let passing := (e.grouped s (e.kept s.filter read)).filter (e.passes s.having)
  let entries := (e.arranged s.order passing).map (e.entry s.fields)
  if s.distinct then entries.dedup else entries

def answer (s : Select) (read : List ρ) : List ρ := s.pagination.slice (e.listed s read)

end Engine

section Tree

variable {ρ : Type*} [DecidableEq ρ] (e : Engine ρ)

mutual

def Select.rows : Select → List ρ
  | ⟨dialect, source, sourceAlias, fields, distinct, joins, filter, grouping, having, order,
      pagination, nextJoin⟩ =>
    e.answer ⟨dialect, source, sourceAlias, fields, distinct, joins, filter, grouping, having,
      order, pagination, nextJoin⟩ (joinRows joins (source.rowsAs sourceAlias))

/-- Rows of a source under the name given to it, if one is. -/
def Source.rowsAs : Source → Option String → List ρ
  | .table name, label => label.elim (e.table name) fun l => (e.table name).map (e.renamed l)
  | .query q, label => label.elim q.rows fun l => q.rows.map (e.renamed l)

def JoinTarget.rows : JoinTarget → List ρ
  | .table name => e.table name
  | .query q number => q.rows.map (e.renamed (joinName number))

/-- Rows with those of every join, each join applied to all before it. -/
def joinRows : List Join → List ρ → List ρ
  | [], rows => rows
  | ⟨kind, currentTable, currentField, target, otherField⟩ :: js, rows =>
    joinRows js (e.joined kind currentTable currentField target.name otherField rows target.rows)

end

def Select.read (s : Select) : List ρ := joinRows e s.joins (s.source.rowsAs e s.sourceAlias)

theorem Select.rows_eq (s : Select) : s.rows e = e.answer s (s.read e) := by
  cases s
  rfl

end Tree

end ParamSql
