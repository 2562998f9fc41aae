import ParamSql.Proofs.Document.Filling
import ParamSql.Proofs.Paging.Rows

/-!
# Paged statements

The statements by which the dialects page through a query, as plans that say
how the text of each is put together.
-/

namespace ParamSql

namespace Document

theorem toNat_le_of_rowCount {n : UInt64} (h : ∀ e, Piece.fault e ∉ rowCount n) :
    n.toNat ≤ 9223372036854775807 := by
  by_contra hn
  rw [rowCount, if_neg hn] at h
  exact h _ List.mem_cons_self

end Document

theorem Clauses.guardedBy_eq {n : UInt64} {doc : Document}
    (h : ∀ e, Piece.fault e ∉ guardedBy n doc) : guardedBy n doc = doc := by
  unfold guardedBy at h ⊢
  cases hfault : (Document.rowCount n).firstFault? with
  | none => rfl
  | some e =>
    rw [hfault] at h
    exact absurd List.mem_cons_self (h e)

/-- A position that is written has not been cut off at the largest word. -/
theorem toNat_saturated_of_rowCount {n : Nat}
    (h : ∀ e, Piece.fault e ∉ Document.rowCount (saturated n)) : (saturated n).toNat = n := by
  have hle := Document.toNat_le_of_rowCount h
  rw [toNat_saturated] at hle ⊢
  omega

/-- Queries that number rows in a column of their own. -/
inductive Numbering
  /-- Along ORDER BY of the query, within the query. -/
  | inline (reversed : Bool)
  /-- Along an order by name, around the query. -/
  | outside (keys : List (String × Direction)) (reversed : Bool)
  /-- As the sorted rows come. -/
  | counted (reversed : Bool)

/-- How a dialect writes the number of rows to leave out. -/
inductive LimitStyle
  | offset
  | comma

/-- Statements with the rows of a page. -/
inductive PagePlan
  /-- The query, its first rows, or none of its rows. -/
  | base (reversed : Bool) (top : Option UInt64) (alwaysEmpty : Bool)
  | limit (style : LimitStyle) (inner : PagePlan) (start size : UInt64)
  /-- The first rows of a query by ROWNUM. -/
  | firstRows (inner : PagePlan) (size : UInt64)
  /-- Rows of a query, or the first of them, in an order by name. -/
  | resorted (inner : PagePlan) (top : Option UInt64) (name : String)
    (keys : List (String × Direction)) (reversed : Bool)
  /-- Rows by their numbers, and sorted by them or as they come. -/
  | between (numbering : Numbering) (name : Option String) (first last : UInt64) (sorted : Bool)

section Document

open Document Clauses

variable (d : Dialect) (c : Clauses)

def Numbering.document : Numbering → Document
  | inline reversed =>
    c.base { reversed, leading := some (rowNumbering (c.orderList reversed)), omitOrder := true }
  | outside keys reversed =>
    keyword .SELECT ++ space ++ rowNumbering (outerEntries keys reversed) ++ comma ++
      qualified (some numberedSource) [.token .star] ++ clause .FROM ++
      parenthesized (c.base { reversed, omitOrder := true }) ++ tableAlias d numberedSource
  | counted reversed =>
    keyword .SELECT ++ space ++ qualified (some innerPage) [.token .star] ++ comma ++
      raw "ROWNUM" ++ space ++ identifier rowNumberColumn ++ clause .FROM ++
      parenthesized (c.base { reversed }) ++ space ++ identifier innerPage

def PagePlan.document : PagePlan → Document
  | base reversed top alwaysEmpty => c.base { reversed, top, alwaysEmpty }
  | limit .offset inner start size =>
    inner.document ++ space ++ limitOffset (some size) (some start)
  | limit .comma inner start size =>
    inner.document ++ clause .LIMIT ++ (if start = 0 then [] else rowCount start ++ comma) ++
      rowCount size
  | firstRows inner size =>
    selectAllFrom d inner.document none none ++ clause .WHERE ++ raw "ROWNUM" ++ space ++
      [.token (.mark .lessOrEqual)] ++ space ++ rowCount size
  | resorted inner top name keys reversed =>
    selectAllFrom d inner.document top (some name) ++ orderBy (outerEntries keys reversed)
  | between numbering name first last sorted =>
    selectAllFrom d (numbering.document d c) none name ++
      (clause .WHERE ++ identifier rowNumberColumn ++ clause .BETWEEN ++ rowCount first ++
        clause .AND ++ rowCount last) ++
      (if sorted then clause .ORDER_BY ++ identifier rowNumberColumn else [])

end Document

end ParamSql
