import ParamSql.Proofs.Paging.Rows
import ParamSql.Proofs.Paging.SelectText

/-!
# What a paged statement answers

A statement that pages through a query is the query itself, or reads from such a statement in
parentheses. Which rows it keeps and in what order is taken from its text: the number of TOP, of
LIMIT and OFFSET and of ROWNUM, the bounds of BETWEEN, the keys of ORDER BY with their directions,
and a condition that no row meets. A database is free in how it arranges rows that are not sorted
or that tie, so a statement has several answers in general.
-/

namespace ParamSql

abbrev SortKey := Document × Direction

inductive Ranking
  /-- Numbers along an order. -/
  | along (keys : List SortKey)
  /-- Numbers of the rows as they come. -/
  | counted

structure NumberColumn where
  ranking : Ranking
  label : String

structure Layer where
  distinct : Bool
  numbers : Option NumberColumn
  order : List SortKey
  top : Option Nat
  /-- How many rows are left out, and how many of the next are kept. -/
  limit : Option (Nat × Nat)

inductive Kept
  | all
  | first (n : Nat)
  | between (first last : Nat)

inductive RowPlan
  | own (alwaysEmpty : Bool) (layer : Layer)
  | derived (inner : RowPlan) (kept : Kept) (layer : Layer)

def RowPlan.label : RowPlan → Option String
  | own _ layer => layer.numbers.map (·.label)
  | derived inner _ layer => (layer.numbers.map (·.label)).or inner.label

/-- The parts of a query without ORDER BY and paging. -/
def Clauses.ownText (c : Clauses) : SelectText where
  distinct := c.distinct
  entries := if c.fields = [] then [[.token .star]] else c.fields.map (·.document)
  source := c.source
  filter := c.filter
  grouping :=
    if c.grouping = [] then none
    else some (Document.separatedBy Document.comma (c.grouping.map GroupKey.document))
  having := c.having

section Reading

open Document

/-- A column without a direction is sorted ascending. -/
def Document.sortKey? (entry : Document) : Option SortKey :=
  match entry.reverse with
  | .token (.keyword .ASC) :: .token .space :: key => some (key.reverse, .ascending)
  | .token (.keyword .DESC) :: .token .space :: key => some (key.reverse, .descending)
  | [.token (.identifier name)] => some ([.token (.identifier name)], .ascending)
  | _ => none

def Document.sortKeys? (text : Document) : Option (List SortKey) :=
  (listFrom 0 [] text).1.mapM sortKey?

/-- The keys of a window, and `(SELECT NULL)` for none. -/
def Document.windowKeys? (text : Document) : Option (List SortKey) :=
  if text = raw "(SELECT NULL)" then some [] else text.sortKeys?

/-- `ROW_NUMBER() OVER(ORDER BY keys) AS label` or `ROWNUM label`. -/
def Document.numberColumn? : Document → Option NumberColumn
  | .token (.raw function) :: .token (.keyword .ORDER_BY) :: .token .space :: rest =>
    match upTo (fun p => p = .token .closing) 0 rest with
    | (keys, [.token .closing, .token .space, .token (.keyword .AS), .token .space,
        .token (.identifier label)]) =>
      if function = "ROW_NUMBER() OVER(" then
        keys.windowKeys?.map fun keys => ⟨.along keys, label⟩
      else none
    | _ => none
  | [.token (.raw counter), .token .space, .token (.identifier label)] =>
    if counter = "ROWNUM" then some ⟨.counted, label⟩ else none
  | _ => none

/-- `ROWNUM <= n` or `column BETWEEN first AND last` for the column of numbers. -/
def Document.kept? (label : Option String) : Document → Option Kept
  | [.token (.raw counter), .token .space, .token (.mark .lessOrEqual), .token .space,
      .token (.integer n)] =>
    if counter = "ROWNUM" then some (.first n.toNat) else none
  | [.token (.identifier column), .token .space, .token (.keyword .BETWEEN), .token .space,
      .token (.integer first), .token .space, .token (.keyword .AND), .token .space,
      .token (.integer last)] =>
    if label = some column then some (.between first.toNat last.toNat) else none
  | _ => none

def Document.derived? : Document → Option Document
  | .token .opening :: rest => some (upTo (fun p => p = .token .closing) 0 rest).1
  | _ => none

namespace SelectText

/-- `LIMIT size`, `LIMIT start,size` or `LIMIT size OFFSET start`. -/
def limit? (t : SelectText) : Option (Option (Nat × Nat)) :=
  match t.limit, t.offset with
  | none, none => some none
  | some [.token (.integer size)], none => some (some (0, size.toNat))
  | some [.token (.integer start), .token .comma, .token (.integer size)], none =>
    some (some (start.toNat, size.toNat))
  | some [.token (.integer size)], some [.token (.integer start)] =>
    some (some (start.toNat, size.toNat))
  | _, _ => none

def layer? (t : SelectText) (numbers : Option NumberColumn) : Option Layer := do
  let order ← t.order.elim (some []) sortKeys?
  let limit ← t.limit?
  return { distinct := t.distinct, numbers, order, top := t.top, limit }

/-- The column of numbers in front of the entries of a query. -/
def ownNumbers? (t own : SelectText) : Option (Option NumberColumn) :=
  if t.entries = own.entries then some none
  else if t.entries.tail = own.entries then
    (t.entries.head?.bind numberColumn?).map some
  else none

/-- The column of numbers beside everything that is read from a statement in parentheses. -/
def derivedNumbers? (t : SelectText) : Option (Option NumberColumn) :=
  match t.entries with
  | [entry] => if entry.isStarEntry then some none else none
  | [first, second] =>
    if second.isStarEntry then (numberColumn? first).map some
    else if first.isStarEntry then (numberColumn? second).map some
    else none
  | _ => none

/-- Whether the condition that no row meets is added to the filter of a query. -/
def alwaysEmpty? (t own : SelectText) : Option Bool :=
  if t.filter = own.filter then some false
  else if t.filter = some ((own.filter.elim [] (· ++ clause .AND)) ++ raw "(1 = 0)") then some true
  else none

def ownPlan? (t own : SelectText) : Option RowPlan :=
  if t.grouping = own.grouping ∧ t.having = own.having then do
    let numbers ← t.ownNumbers? own
    let alwaysEmpty ← t.alwaysEmpty? own
    let layer ← t.layer? numbers
    return .own alwaysEmpty layer
  else none

def derivedPlan? (t : SelectText) (inner : RowPlan) : Option RowPlan :=
  if t.grouping = none ∧ t.having = none then do
    let numbers ← t.derivedNumbers?
    let kept ← t.filter.elim (some .all) (kept? inner.label)
    let layer ← t.layer? numbers
    return .derived inner kept layer
  else none

end SelectText

theorem Document.length_upTo_le (stop : Piece → Bool) (d : Document) :
    (upTo stop 0 d).1.length ≤ d.length ∧ (upTo stop 0 d).2.length ≤ d.length := by
  have whole := congrArg List.length (upTo_append stop 0 d)
  rw [List.length_append] at whole
  omega

theorem Document.length_clauseText?_lt {word : Keyword} {d text : Document}
    (h : d.clauseText? word = some text) : text.length < d.length := by
  have body (e : Document) : e.clauseBody.length ≤ e.length := by
    have front := (length_upTo_le endsClause e).1
    unfold clauseBody
    split
    · rename_i text heq
      simpa [heq] using front
    · rename_i text _ _ heq
      rw [heq] at front
      exact Nat.le_trans (by simp) front
  have behind := (length_upTo_le (isKeyword word) d).2
  unfold clauseText? at h
  split at h
  · contradiction
  · rename_i piece rest heq
    obtain rfl := Option.some.inj h
    rw [heq, List.length_cons] at behind
    have := body (rest.drop 1)
    rw [List.length_drop] at this
    omega

theorem Document.length_derived?_lt {d inner : Document}
    (h : d.selectText.source.derived? = some inner) : inner.length < d.length := by
  unfold derived? at h
  split at h
  · rename_i rest heq
    obtain rfl := Option.some.inj h
    have front := (length_upTo_le (fun p => p = .token .closing) rest).1
    cases hsource : d.clauseText? .FROM with
    | none => simp [selectText, hsource] at heq
    | some source =>
      have source := length_clauseText?_lt hsource
      simp only [selectText, hsource, Option.getD_some] at heq
      rw [heq, List.length_cons] at source
      omega
  · contradiction

/-- What a statement answers, with the query `own` in it. -/
def Document.rowPlan? (own : SelectText) (d : Document) : Option RowPlan :=
  if d.selectText.source = own.source then d.selectText.ownPlan? own
  else
    match hinner : d.selectText.source.derived? with
    | none => none
    | some inner =>
      have := length_derived?_lt hinner
      (inner.rowPlan? own).bind d.selectText.derivedPlan?
termination_by d.length

theorem Document.rowPlan?_of_own {own : SelectText} {d : Document}
    (h : d.selectText.source = own.source) : d.rowPlan? own = d.selectText.ownPlan? own := by
  rw [rowPlan?, if_pos h]

theorem Document.rowPlan?_of_derived {own : SelectText} {d inner : Document}
    (h : d.selectText.source ≠ own.source) (hinner : d.selectText.source.derived? = some inner) :
    d.rowPlan? own = (inner.rowPlan? own).bind d.selectText.derivedPlan? := by
  rw [rowPlan?, if_neg h]
  split
  · rename_i hnone
    rw [hinner] at hnone
    contradiction
  · rename_i found hfound
    rw [hinner] at hfound
    obtain rfl := Option.some.inj hfound
    rfl

end Reading

section Rows

variable {α : Type*}

def compareKeys (cmp : Document → α → α → Ordering) (keys : List SortKey) : α → α → Ordering :=
  compareBy (keys.map fun (key, direction) => (cmp key, direction))

/-- Rows with their numbers from one on, in the place of those they had. -/
def renumbered (l : List (α × Nat)) : List (α × Nat) := (l.map Prod.fst).zipIdx 1

/-- Numbers that follow an order say nothing of where the rows stand. -/
def Ranking.Yields (cmp : Document → α × Nat → α × Nat → Ordering) :
    Ranking → List (α × Nat) → List (α × Nat) → Prop
  | along keys, l, answer =>
    ∃ sorted, Sorts (compareKeys cmp keys) l sorted ∧ answer.Perm (renumbered sorted)
  | counted, l, answer => answer = renumbered l

def Kept.rows : Kept → List (α × Nat) → List (α × Nat)
  | all, l => l
  | first n, l => l.take n
  | between low high, l => l.filter fun row => low ≤ row.2 ∧ row.2 ≤ high

namespace Layer

variable (layer : Layer)

def Ranks (cmp : Document → α × Nat → α × Nat → Ordering) (l answer : List (α × Nat)) : Prop :=
  match layer.numbers with
  | none => answer = l
  | some column => column.ranking.Yields cmp l answer

/-- Without ORDER BY rows are left as they come. -/
def Arranges (cmp : Document → α → α → Ordering) (l answer : List α) : Prop :=
  if layer.order = [] then answer = l else Sorts (compareKeys cmp layer.order) l answer

def cut (l : List α) : List α :=
  let first := layer.top.elim l l.take
  layer.limit.elim first fun (start, size) => (first.drop start).take size

/-- What a statement may answer that selects these rows, each with its number. -/
def Yields [DecidableEq α] (cmp : Document → α × Nat → α × Nat → Ordering)
    (l answer : List (α × Nat)) : Prop :=
  ∃ ranked, layer.Ranks cmp l ranked ∧
    ∃ sorted, layer.Arranges cmp (if layer.distinct then ranked.dedup else ranked) sorted ∧
      answer = layer.cut sorted

end Layer

variable {σ ρ : Type*} [DecidableEq ρ] {s : Select} (r : RowReading s σ ρ)

namespace RowReading

def byText (e : Document) (a b : ρ × Nat) : Ordering := r.byExpression e a.1 b.1

/-- Comparison by a name around a statement, which may be that of its numbers. -/
def byColumn (label : Option String) : Document → ρ × Nat → ρ × Nat → Ordering
  | [.token (.identifier name)], a, b =>
    if label = some name then compare a.2 b.2 else r.byName name a.1 b.1
  | _, _, _ => .eq

end RowReading

def unnumbered (l : List α) : List (α × Nat) := l.map fun row => (row, 0)

/-- Rows that a database may answer, each with its number. -/
def RowPlan.Yields : RowPlan → List (ρ × Nat) → Prop
  | own alwaysEmpty layer, answer =>
    ∃ l, l.Perm (r.selected alwaysEmpty) ∧ layer.Yields r.byText (unnumbered l) answer
  | derived inner kept layer, answer =>
    ∃ l, inner.Yields l ∧ layer.Yields (r.byColumn inner.label) (kept.rows l) answer

/-- Rows that a database may answer to a statement around the query, without their numbers. -/
def RowReading.Answers (d : Dialect) (text : Document) (answer : List ρ) : Prop :=
  ∃ plan, text.rowPlan? (s.clauses d).ownText = some plan ∧
    ∃ rows, plan.Yields r rows ∧ rows.map Prod.fst = answer

end Rows

end ParamSql
