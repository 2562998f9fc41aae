import ParamSql.Proofs.Emission.Fragment

/-!
# Pages and what is emitted for them

A page binds in the order of its text what its parts bind, although the ranking of rows is
rendered in front of the query it ranks, and that query in front of the row counts and queries
around it. A row count that is written too late to be the first fault is checked beforehand.
-/

namespace ParamSql

open Document

def Document.optionalEmission (d : Option Document) : Emission (Option (List Token)) :=
  d.elim (pure none) fun d => do return some (← d.emission)

namespace Clauses

def parts (c : Clauses) : Parts where
  distinct := c.distinct
  fields := c.fields.map (·.document.emission)
  source := c.source.emission
  filter := c.filter.map emission
  grouping := c.grouping
  having := c.having.map emission
  order := c.order.map fun k => (k.expression.emission, k.direction)
  outerKeys := c.outerKeys

variable (c : Clauses)

@[simp] theorem parts_distinct : c.parts.distinct = c.distinct := rfl

@[simp] theorem parts_source : c.parts.source = c.source.emission := rfl

@[simp] theorem parts_filter : c.parts.filter = c.filter.map emission := rfl

@[simp] theorem parts_grouping : c.parts.grouping = c.grouping := rfl

@[simp] theorem parts_having : c.parts.having = c.having.map emission := rfl

@[simp] theorem parts_outerKeys : c.parts.outerKeys = c.outerKeys := rfl

theorem emission_whereClause (filter : Option Document) (alwaysEmpty : Bool) :
    (whereClause filter alwaysEmpty).emission = do
      let condition ← Parts.clausePart .WHERE (filter.map emission)
      return condition ++ if alwaysEmpty then
        Token.clause (if filter.isSome then .AND else .WHERE) ++ [.raw "(1 = 0)"] else [] := by
  cases filter <;> cases alwaysEmpty <;>
    simp [whereClause, Parts.clausePart, alwaysFalse, emission_append]

theorem emission_fieldEntries (leading : Option Document) :
    (separatedBy comma (c.fieldEntries leading)).emission = do
      let entry ← optionalEmission leading
      return Token.listed (entry.toList ++ (← c.parts.fieldEntries)) := by
  have own : (if c.fields = [] then [[.token .star]] else c.fields.map (·.document)).mapM
      emission = c.parts.fieldEntries := by
    unfold Parts.fieldEntries
    cases h : c.fields with
    | nil =>
      have star : emission [.token .star] = pure [.star] := rfl
      simp [parts, h, star]
    | cons f fs => simp [parts, h, List.mapM_map, Function.comp_def]
  rw [emission_listed, ← own]
  cases leading <;> simp [optionalEmission, fieldEntries]

theorem emission_orderEntry (key : Document) (direction : Direction) (reversed : Bool) :
    (orderEntry key direction reversed).emission = do
      return Parts.orderEntry (← key.emission) direction reversed := by
  simp [orderEntry, Parts.orderEntry, emission_append]

theorem emission_orderList (reversed : Bool) :
    optionalEmission (c.orderList reversed) = c.parts.orderList reversed := by
  unfold Parts.orderList orderList
  cases h : c.order with
  | nil => simp [parts, h, optionalEmission]
  | cons k ks =>
    simp only [optionalEmission, parts, h, reduceCtorEq, if_false, Option.elim, emission_listed]
    simp [List.mapM_map, Function.comp_def, emission_orderEntry]

theorem emission_orderBy (order : Option Document) :
    (orderBy order).emission = do return Parts.orderBy (← optionalEmission order) := by
  cases order <;> simp [orderBy, Parts.orderBy, optionalEmission, emission_append]

theorem emission_outerEntries (keys : List (String × Direction)) (reversed : Bool) :
    optionalEmission (outerEntries keys reversed) = pure (Parts.outerEntries keys reversed) := by
  unfold outerEntries Parts.outerEntries
  split
  · rfl
  · have entry (key : String × Direction) :
        (orderEntry (identifier key.1) key.2 reversed).emission =
          pure (Parts.orderEntry [.identifier key.1] key.2 reversed) := by
      rw [emission_orderEntry, emission_identifier, pure_bind]
    simp only [optionalEmission, Option.elim, emission_listed, mapM_emission_of_pure entry,
      pure_bind]

theorem emission_rowNumbering (order : Option Document) :
    (rowNumbering order).emission = do
      return Parts.rowNumbering (← optionalEmission order) := by
  cases order <;>
    simp [rowNumbering, Parts.rowNumbering, optionalEmission, emission_append,
      emission_token_cons]

/-- The leading entry is rendered first of all. It is the first in the text to bind anything as
well, unless a row count that cannot be written stands in front of it. -/
theorem emission_base (options : BaseOptions)
    (h : options.top = none ∨ options.leading = none) :
    (c.base options).emission = optionalEmission options.leading >>= fun leading =>
      c.parts.base ⟨options.reversed, options.top, leading, options.omitOrder,
        options.alwaysEmpty⟩ := by
  have distinct : emission (if c.distinct then keyword .DISTINCT ++ space else []) =
      pure (if c.distinct then [.keyword .DISTINCT, .space] else []) := by
    split <;> simp [emission_append]
  have order : emission
      (if options.omitOrder then [] else orderBy (c.orderList options.reversed)) =
      c.parts.orderClause options.omitOrder options.reversed := by
    unfold Parts.orderClause
    split
    · rfl
    · rw [emission_orderBy, emission_orderList]
  rw [base_eq]
  simp only [emission_append, emission_keyword, emission_space, emission_clause, distinct,
    emission_top, emission_fieldEntries, emission_whereClause, emission_groupClause,
    emission_clausePart, order, bind_assoc, pure_bind]
  rcases h with h | h
  · simp only [h, Emission.topClause, Parts.base, parts_distinct, parts_source, parts_filter,
      parts_grouping, parts_having, Option.isSome_map, pure_bind, List.append_assoc,
      List.cons_append, List.nil_append]
    rfl
  · simp only [h, optionalEmission, Option.elim, Parts.base, parts_distinct, parts_source,
      parts_filter, parts_grouping, parts_having, Option.isSome_map, pure_bind,
      List.append_assoc, List.cons_append, List.nil_append]
    rfl

variable (reversed : Bool)

theorem emission_plain : (c.base { reversed }).emission = c.parts.base { reversed } :=
  c.emission_base { reversed } (.inl rfl)

theorem emission_topRows (size : UInt64) :
    (c.topRows size reversed).emission = c.parts.topRows size reversed :=
  c.emission_base { reversed, top := some size } (.inr rfl)

variable (d : Dialect) (w : Window)

theorem emission_limitOffsetPage :
    (c.limitOffsetPage w reversed).emission = c.parts.limitOffsetPage w reversed := by
  have offset : emission (if w.start = 0 then [] else clause .OFFSET ++ rowCount w.start) =
      Emission.offsetClause w.start := by
    unfold Emission.offsetClause
    split <;> simp [emission_append, emission_rowCount]
  rw [limitOffsetPage, List.append_assoc, space_append_limitOffset]
  simp only [Parts.limitOffsetPage, emission_append, emission_plain, emission_clause,
    emission_rowCount, offset, bind_assoc, pure_bind, List.append_assoc]

theorem emission_limitPage :
    (c.limitPage w reversed).emission = c.parts.limitPage w reversed := by
  have start : emission (if w.start = 0 then [] else rowCount w.start ++ comma) =
      Emission.limitStart w.start := by
    unfold Emission.limitStart
    split <;> simp [emission_append, emission_rowCount]
  simp only [limitPage, Parts.limitPage, emission_append, emission_plain, emission_clause, start,
    emission_rowCount, bind_assoc, pure_bind, List.append_assoc]

theorem emission_numberedRows :
    (c.numberedRows d reversed).emission = c.parts.numberedRows d reversed := by
  unfold numberedRows Parts.numberedRows
  by_cases hwrapped : c.distinct ∨ c.grouping ≠ []
  · have hparts : c.parts.distinct = true ∨ c.parts.grouping ≠ [] := hwrapped
    rw [if_pos hwrapped, if_pos hparts, outerOrderList, parts_outerKeys]
    cases c.outerKeys with
    | error e => rfl
    | ok keys =>
      have base : (c.base { reversed, omitOrder := true }).emission =
          c.parts.base { reversed, omitOrder := true } := c.emission_base _ (.inl rfl)
      simp only [Except.map, Emission.liftM_ok, pure_bind, emission_append, emission_keyword,
        emission_space, emission_rowNumbering, emission_outerEntries, emission_comma, qualified,
        emission_token_cons, emission_identifier, emission_clause, emission_parenthesized, base,
        emission_tableAlias, emission_nil, bind_assoc]
      simp only [Token.qualified, List.append_assoc, List.cons_append, List.nil_append]
  · have hparts : ¬(c.parts.distinct = true ∨ c.parts.grouping ≠ []) := hwrapped
    have ranking := emission_rowNumbering (c.orderList reversed)
    rw [emission_orderList] at ranking
    rw [if_neg hwrapped, if_neg hparts, c.emission_base _ (.inl rfl)]
    simp only [optionalEmission, Option.elim, ranking, bind_assoc, pure_bind]

theorem emission_rankedPage :
    (c.rankedPage d w reversed).emission = c.parts.rankedPage d w reversed := by
  unfold rankedPage Parts.rankedPage
  split
  · exact c.emission_topRows reversed w.size
  · have numbered := emission_selectAllFrom d (c.numberedRows d reversed) fits_none
      (some numberedTable)
    simp only [emission_append, numbered, emission_numberedRows, emission_rowNumberRange,
      emission_clause, emission_identifier, bind_assoc, pure_bind, List.append_assoc]

theorem emission_countedPage :
    (c.countedPage d w reversed).emission = c.parts.countedPage d w reversed := by
  have rows (inner : Document) := emission_selectAllFrom d inner fits_none none
  unfold countedPage Parts.countedPage
  by_cases hstart : w.start = 0
  · simp only [hstart, if_true, emission_append, rows, emission_plain, emission_clause,
      emission_raw, emission_space, emission_token_cons, emission_nil, emission_rowCount,
      bind_assoc, pure_bind]
    simp only [List.append_assoc, List.cons_append, List.nil_append]
  · simp only [hstart, if_false, emission_append, rows, emission_plain, emission_clause,
      emission_raw, emission_space, emission_keyword, emission_comma, emission_identifier,
      qualified, emission_token_cons, emission_nil, emission_parenthesized,
      emission_rowNumberRange, bind_assoc, pure_bind]
    simp only [Token.qualified, List.append_assoc, List.cons_append, List.nil_append]

theorem emission_guardedBy (n : UInt64) (doc : Document) :
    (guardedBy n doc).emission =
      if n.toNat ≤ 9223372036854775807 then doc.emission
      else throw (.invalidPagination (.countOutOfRange n)) := by
  unfold guardedBy rowCount
  split <;> rename_i h <;> split at h
  · exact nomatch h
  · obtain rfl := Option.some.inj h
    rw [if_neg ‹_›]
    rfl
  · rw [if_pos ‹_›]
  · exact nomatch h

theorem parts_topRows_of_lt {size : UInt64} (h : ¬size.toNat ≤ 9223372036854775807) :
    c.parts.topRows size reversed = throw (.invalidPagination (.countOutOfRange size)) := by
  have count : Emission.rowCount size = throw (.invalidPagination (.countOutOfRange size)) :=
    if_neg h
  rw [Parts.topRows, Parts.base, Emission.topClause, count]
  rfl

theorem emission_frontPage (keys : List (String × Direction)) {start take : UInt64}
    (h : take ≤ start + take) :
    (guardedBy (start + take) (c.frontPage d keys start take reversed)).emission =
      c.parts.frontPage d keys start take reversed := by
  rw [emission_guardedBy]
  split
  · rename_i hcount
    have hinner := fits_some (Nat.le_trans h hcount)
    simp only [frontPage, Parts.frontPage, emission_append, emission_topRows, emission_orderBy,
      emission_outerEntries, emission_selectAllFrom d _ hinner,
      emission_selectAllFrom d _ fits_none, bind_assoc, pure_bind]
  · rw [Parts.frontPage, parts_topRows_of_lt c reversed ‹_›]
    rfl

theorem emission_backPage (keys : List (String × Direction)) {remaining take : UInt64}
    (h : take ≤ remaining) :
    (guardedBy remaining (c.backPage d keys remaining take reversed)).emission =
      c.parts.backPage d keys remaining take reversed := by
  rw [emission_guardedBy]
  split
  · rename_i hcount
    have hinner := fits_some (Nat.le_trans h hcount)
    simp only [backPage, Parts.backPage, emission_append, emission_topRows, emission_orderBy,
      emission_outerEntries, emission_selectAllFrom d _ hinner, bind_assoc, pure_bind]
  · rw [Parts.backPage, parts_topRows_of_lt c (!reversed) ‹_›]
    rfl

theorem emission_countDependentPage (recordCount : Option UInt64) :
    (c.countDependentPage d w recordCount reversed).emission =
      c.parts.countDependentPage d w recordCount reversed := by
  have noOrder : c.parts.order.isEmpty = true ↔ c.order = [] := by
    simp [parts, List.isEmpty_iff]
  unfold countDependentPage Parts.countDependentPage
  split
  · exact c.emission_topRows reversed w.size
  cases recordCount with
  | none => rfl
  | some count =>
    dsimp only
    split
    · exact c.emission_base { reversed, alwaysEmpty := true } (.inl rfl)
    split
    · rename_i horder
      rw [if_pos (noOrder.2 horder)]
      rfl
    · rename_i hrows horder
      rw [if_neg fun h => horder (noOrder.1 h), parts_outerKeys]
      cases c.outerKeys with
      | error e => rfl
      | ok keys =>
        have hstart : w.start ≤ count := by
          rw [UInt64.le_iff_toNat_le] at hrows ⊢
          omega
        have hremaining := UInt64.toNat_sub_of_le count w.start hstart
        have htake := toNat_min w.size (count - w.start)
        -- The sum does not wrap around, since neither addend goes past the count.
        have hsum : min w.size (count - w.start) ≤ w.start + min w.size (count - w.start) := by
          have hword := count.toNat_lt
          rw [UInt64.le_iff_toNat_le] at hstart
          rw [UInt64.le_iff_toNat_le, UInt64.toNat_add]
          omega
        have hrest : min w.size (count - w.start) ≤ count - w.start := by
          rw [UInt64.le_iff_toNat_le]
          omega
        simp only [Emission.liftM_ok, pure_bind]
        split
        · exact c.emission_frontPage reversed d keys hsum
        · exact c.emission_backPage reversed d keys hrest

theorem emission_paginated (p : Pagination) (recordCount : Option UInt64) :
    (c.paginated d p recordCount reversed).emission =
      c.parts.paginated d p recordCount reversed := by
  unfold paginated Parts.paginated
  cases p.window? with
  | none => exact c.emission_plain reversed
  | some w =>
    cases d with
    | access => exact c.emission_countDependentPage reversed .access w _
    | sqlServer => exact c.emission_rankedPage reversed .sqlServer w
    | mySql => exact c.emission_limitPage reversed w
    | sqlite | postgres => exact c.emission_limitOffsetPage reversed w
    | oracle => exact c.emission_countedPage reversed .oracle w

end Clauses

end ParamSql
