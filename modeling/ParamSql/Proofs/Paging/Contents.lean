import ParamSql.Proofs.Agreement
import ParamSql.Proofs.Document.Filling
import ParamSql.Rendering.Query

/-!
# What stands in a page

The pieces of one kind that a page holds, from left to right: the row counts that the page
writes itself, and around or between them the pieces of its query. Integers, faults and parameters
are such kinds; words, marks, names and SQL text belong to none.
-/

namespace ParamSql

variable {β : Type*}

/-- A choice of pieces that leaves out words, marks, names and SQL text. -/
structure SkipsText (f : Piece → Option β) : Prop where
  keyword : ∀ word, f (.token (.keyword word)) = none
  mark : ∀ sign, f (.token (.mark sign)) = none
  identifier : ∀ text, f (.token (.identifier text)) = none
  raw : ∀ sql, f (.token (.raw sql)) = none

def Token.integer? : Token → Option Int
  | integer n => some n
  | _ => none

/-- Integer literals of a statement, from left to right. -/
def Token.integers (tokens : List Token) : List Int := tokens.filterMap integer?

namespace Piece

def integer? : Piece → Option Int
  | token t => t.integer?
  | hole _ | fault _ => none

def fault? : Piece → Option Error
  | fault e => some e
  | token _ | hole _ => none

theorem skipsText_integer? : SkipsText integer? where
  keyword _ := rfl
  mark _ := rfl
  identifier _ := rfl
  raw _ := rfl

theorem skipsText_fault? : SkipsText fault? where
  keyword _ := rfl
  mark _ := rfl
  identifier _ := rfl
  raw _ := rfl

theorem skipsText_hole? : SkipsText hole? where
  keyword _ := rfl
  mark _ := rfl
  identifier _ := rfl
  raw _ := rfl

end Piece

theorem Document.mem_filterMap_fault? {d : Document} {e : Error} :
    e ∈ d.filterMap Piece.fault? ↔ Piece.fault e ∈ d := by
  rw [List.mem_filterMap]
  constructor
  · rintro ⟨piece, hmem, hfault⟩
    cases piece with
    | fault e' =>
      obtain rfl : e' = e := Option.some.inj hfault
      exact hmem
    | token _ => exact nomatch hfault
    | hole _ => exact nomatch hfault
  · intro hmem
    exact ⟨.fault e, hmem, rfl⟩

variable {f : Piece → Option β} (hf : SkipsText f)

namespace Document

include hf

theorem filterMap_keyword (word : Keyword) : (keyword word).filterMap f = [] := by
  simp [keyword, hf.keyword]

theorem filterMap_mark (sign : Mark) : List.filterMap f [.token (.mark sign)] = [] := by
  simp [hf.mark]

theorem filterMap_space : space.filterMap f = [] := filterMap_mark hf .space

theorem filterMap_comma : comma.filterMap f = [] := filterMap_mark hf .comma

theorem filterMap_clause (word : Keyword) : (clause word).filterMap f = [] := by
  simp [clause, filterMap_keyword hf, filterMap_space hf]

theorem filterMap_identifier (text : String) : (identifier text).filterMap f = [] := by
  simp [identifier, hf.identifier]

theorem filterMap_raw (sql : String) : (raw sql).filterMap f = [] := by
  simp [raw, hf.raw]

theorem filterMap_parenthesized (d : Document) :
    (parenthesized d).filterMap f = d.filterMap f := by
  simp [parenthesized, hf.mark]

theorem filterMap_qualified (table : Option String) (name : Document) :
    (qualified table name).filterMap f = name.filterMap f := by
  cases table with
  | none => rfl
  | some t => simp [qualified, identifier, hf.identifier, hf.mark]

theorem filterMap_tableAlias (d : Dialect) (name : String) :
    (tableAlias d name).filterMap f = [] := by
  unfold tableAlias
  split <;> simp [filterMap_space hf, filterMap_keyword hf, filterMap_identifier hf]

theorem filterMap_groupKey (k : GroupKey) : k.document.filterMap f = [] := by
  cases k with
  | column table name => exact (filterMap_qualified hf table _).trans (filterMap_identifier hf name)
  | expression sql => exact filterMap_raw hf sql

theorem filterMap_orderBy (order : Option Document) :
    (orderBy order).filterMap f = order.elim [] (·.filterMap f) := by
  cases order with
  | none => rfl
  | some entries => simp [orderBy, filterMap_clause hf]

theorem filterMap_limitOffset (size start : UInt64) :
    (limitOffset (some size) (some start)).filterMap f =
      (rowCount size).filterMap f ++ if start = 0 then [] else (rowCount start).filterMap f := by
  by_cases hstart : start = 0
  · simp [limitOffset, Option.filter, hstart, filterMap_keyword hf, filterMap_space hf]
  · simp [limitOffset, Option.filter, hstart, filterMap_keyword hf, filterMap_space hf]

theorem filterMap_rowNumberRange (column : String) (w : Window) :
    (rowNumberRange column w).filterMap f =
      (rowCount (saturated (w.start.toNat + 1))).filterMap f ++
        (rowCount (saturated (w.start.toNat + w.size.toNat))).filterMap f := by
  simp [rowNumberRange, filterMap_clause hf, filterMap_identifier hf]

theorem filterMap_selectAllFrom (d : Dialect) (inner : Document) (top : Option UInt64)
    (name : Option String) :
    (selectAllFrom d inner top name).filterMap f =
      top.elim [] (fun n => (rowCount n).filterMap f) ++ inner.filterMap f := by
  cases top <;> cases name <;>
    simp [selectAllFrom, filterMap_keyword hf, filterMap_space hf, filterMap_clause hf,
      filterMap_parenthesized hf, filterMap_tableAlias hf, hf.mark]

end Document

namespace Clauses

open Document

variable (f) in
/-- Pieces of the clauses of a query, ORDER BY left out. -/
def body (c : Clauses) : List β :=
  c.fields.flatMap (·.document.filterMap f) ++ c.source.filterMap f ++
    c.filter.elim [] (·.filterMap f) ++ c.having.elim [] (·.filterMap f)

variable (f) in
/-- Pieces of the sort keys of a query. -/
def sortKeys (c : Clauses) : List β := c.order.flatMap (·.expression.filterMap f)

include hf

theorem filterMap_fieldEntries (c : Clauses) (leading : Option Document) :
    (separatedBy comma (c.fieldEntries leading)).filterMap f =
      leading.elim [] (·.filterMap f) ++ c.fields.flatMap (·.document.filterMap f) := by
  have own : (if c.fields = [] then [[.token .star]] else c.fields.map (·.document)).flatMap
      (List.filterMap f) = c.fields.flatMap (·.document.filterMap f) := by
    by_cases hfields : c.fields = []
    · rw [if_pos hfields, hfields]
      simp [hf.mark]
    · rw [if_neg hfields, List.flatMap_map]
  rw [filterMap_separatedBy (filterMap_comma hf)]
  cases leading with
  | none => exact own
  | some entry =>
    rw [fieldEntries, List.flatMap_cons, own]
    rfl

theorem filterMap_whereClause (filter : Option Document) (alwaysEmpty : Bool) :
    (whereClause filter alwaysEmpty).filterMap f = filter.elim [] (·.filterMap f) := by
  cases filter <;> cases alwaysEmpty <;>
    simp [whereClause, alwaysFalse, filterMap_clause hf, filterMap_raw hf]

theorem filterMap_orderEntry (key : Document) (direction : Direction) (reversed : Bool) :
    (orderEntry key direction reversed).filterMap f = key.filterMap f := by
  simp [orderEntry, filterMap_space hf, filterMap_keyword hf]

theorem filterMap_orderList (c : Clauses) (reversed : Bool) :
    (c.orderList reversed).elim [] (·.filterMap f) = c.sortKeys f := by
  unfold orderList sortKeys
  by_cases horder : c.order = []
  · rw [if_pos horder, horder]
    rfl
  · rw [if_neg horder, Option.elim, filterMap_separatedBy (filterMap_comma hf),
      List.flatMap_map]
    simp only [filterMap_orderEntry hf]

theorem filterMap_outerEntries (keys : List (String × Direction)) (reversed : Bool) :
    (outerEntries keys reversed).elim [] (·.filterMap f) = [] := by
  unfold outerEntries
  by_cases hkeys : keys = []
  · rw [if_pos hkeys]
    rfl
  · rw [if_neg hkeys, Option.elim, filterMap_separatedBy (filterMap_comma hf),
      List.flatMap_map]
    simp only [filterMap_orderEntry hf, filterMap_identifier hf]
    simp

/-- Whatever the options change, the clauses of a query stand in it once and in their order,
behind what the options put in front of the field list. -/
theorem filterMap_base (c : Clauses) (options : BaseOptions) :
    (c.base options).filterMap f =
      options.top.elim [] (fun n => (rowCount n).filterMap f) ++
        options.leading.elim [] (·.filterMap f) ++ c.body f ++
        if options.omitOrder then [] else c.sortKeys f := by
  have distinct :
      List.filterMap f (if c.distinct then keyword .DISTINCT ++ space else []) = [] := by
    split <;> simp [filterMap_keyword hf, filterMap_space hf]
  have group : List.filterMap f (if c.grouping = [] then []
      else clause .GROUP_BY ++ separatedBy comma (c.grouping.map GroupKey.document)) = [] := by
    split
    · rfl
    · rw [List.filterMap_append, filterMap_clause hf, filterMap_separatedBy (filterMap_comma hf),
        List.flatMap_map]
      simp only [filterMap_groupKey hf]
      simp
  have order : List.filterMap f (if options.omitOrder then []
      else orderBy (c.orderList options.reversed)) =
      if options.omitOrder then [] else c.sortKeys f := by
    split
    · rfl
    · rw [filterMap_orderBy hf, c.filterMap_orderList hf]
  rw [base, body]
  cases options.top <;> cases c.having <;>
    simp only [List.filterMap_append, filterMap_keyword hf, filterMap_space hf, distinct,
      c.filterMap_fieldEntries hf, filterMap_clause hf, filterMap_whereClause hf, group, order,
      Option.elim, List.nil_append, List.append_nil, List.append_assoc]

theorem filterMap_rowNumbering (order : Option Document) :
    (rowNumbering order).filterMap f = order.elim [] (·.filterMap f) := by
  cases order <;>
    simp [rowNumbering, filterMap_raw hf, filterMap_keyword hf, filterMap_space hf,
      filterMap_clause hf, filterMap_identifier hf, hf.mark]

theorem filterMap_topRows (c : Clauses) (size : UInt64) (reversed : Bool) :
    (c.topRows size reversed).filterMap f =
      (rowCount size).filterMap f ++ (c.body f ++ c.sortKeys f) := by
  rw [topRows, c.filterMap_base hf]
  simp

theorem filterMap_noRows (c : Clauses) (reversed : Bool) :
    (c.noRows reversed).filterMap f = c.body f ++ c.sortKeys f := by
  rw [noRows, c.filterMap_base hf]
  simp

theorem filterMap_limitOffsetPage (c : Clauses) (w : Window) (reversed : Bool) :
    (c.limitOffsetPage w reversed).filterMap f =
      c.body f ++ c.sortKeys f ++ ((rowCount w.size).filterMap f ++
        if w.start = 0 then [] else (rowCount w.start).filterMap f) := by
  rw [limitOffsetPage, List.filterMap_append, List.filterMap_append, c.filterMap_base hf,
    filterMap_space hf, filterMap_limitOffset hf]
  simp

theorem filterMap_limitPage (c : Clauses) (w : Window) (reversed : Bool) :
    (c.limitPage w reversed).filterMap f =
      c.body f ++ c.sortKeys f ++ ((if w.start = 0 then [] else (rowCount w.start).filterMap f) ++
        (rowCount w.size).filterMap f) := by
  rw [limitPage, List.filterMap_append, List.filterMap_append, List.filterMap_append,
    c.filterMap_base hf, filterMap_clause hf]
  by_cases hstart : w.start = 0
  · simp [hstart]
  · simp [hstart, filterMap_comma hf]

theorem filterMap_countedPage (d : Dialect) (c : Clauses) (w : Window) (reversed : Bool) :
    (c.countedPage d w reversed).filterMap f =
      c.body f ++ c.sortKeys f ++
        if w.start = 0 then (rowCount w.size).filterMap f
        else (rowNumberRange rowNumberColumn w).filterMap f := by
  have whole := c.filterMap_base hf { reversed }
  unfold countedPage
  by_cases hstart : w.start = 0
  · simp [hstart, whole, filterMap_selectAllFrom hf, filterMap_clause hf, filterMap_raw hf,
      filterMap_space hf, hf.mark]
  · simp [hstart, whole, filterMap_selectAllFrom hf, filterMap_clause hf, filterMap_raw hf,
      filterMap_space hf, filterMap_keyword hf, filterMap_qualified hf, filterMap_comma hf,
      filterMap_identifier hf, filterMap_parenthesized hf, hf.mark]

/-- Numbered within their query, rows come behind the sort keys; numbered around it, they are
numbered by names, or not at all where a name is missing. -/
theorem filterMap_numberedRows (d : Dialect) (c : Clauses) (reversed : Bool) :
    (c.numberedRows d reversed).filterMap f =
      if c.distinct ∨ c.grouping ≠ [] then
        match c.outerKeys with
        | .error e => [Piece.fault e].filterMap f
        | .ok _ => c.body f
      else c.sortKeys f ++ c.body f := by
  unfold numberedRows
  by_cases hwrapped : c.distinct ∨ c.grouping ≠ []
  · rw [if_pos hwrapped, if_pos hwrapped]
    unfold outerOrderList
    cases c.outerKeys with
    | error e => rfl
    | ok keys =>
      have entries := filterMap_outerEntries hf keys reversed
      simp [Except.map, filterMap_keyword hf, filterMap_space hf, filterMap_rowNumbering hf,
        entries, filterMap_comma hf, filterMap_qualified hf, filterMap_clause hf,
        filterMap_parenthesized hf, filterMap_tableAlias hf, hf.mark, c.filterMap_base hf]
  · rw [if_neg hwrapped, if_neg hwrapped, c.filterMap_base hf, Option.elim, Option.elim,
      filterMap_rowNumbering hf, c.filterMap_orderList hf]
    simp

theorem filterMap_rankedPage (d : Dialect) (c : Clauses) (w : Window) (reversed : Bool) :
    (c.rankedPage d w reversed).filterMap f =
      if w.start = 0 then (rowCount w.size).filterMap f ++ (c.body f ++ c.sortKeys f)
      else (c.numberedRows d reversed).filterMap f ++
        (rowNumberRange rowNumberColumn w).filterMap f := by
  unfold rankedPage
  by_cases hstart : w.start = 0
  · rw [if_pos hstart, if_pos hstart, c.filterMap_topRows hf]
  · rw [if_neg hstart, if_neg hstart]
    simp [filterMap_selectAllFrom hf, filterMap_clause hf, filterMap_identifier hf]

theorem filterMap_frontPage (d : Dialect) (c : Clauses) (keys : List (String × Direction))
    (start take : UInt64) (reversed : Bool) :
    (c.frontPage d keys start take reversed).filterMap f =
      (rowCount take).filterMap f ++ (rowCount (start + take)).filterMap f ++
        (c.body f ++ c.sortKeys f) := by
  simp [frontPage, filterMap_selectAllFrom hf, filterMap_orderBy hf, filterMap_outerEntries hf,
    c.filterMap_topRows hf]

theorem filterMap_backPage (d : Dialect) (c : Clauses) (keys : List (String × Direction))
    (remaining take : UInt64) (reversed : Bool) :
    (c.backPage d keys remaining take reversed).filterMap f =
      (rowCount take).filterMap f ++ (rowCount remaining).filterMap f ++
        (c.body f ++ c.sortKeys f) := by
  simp [backPage, filterMap_selectAllFrom hf, filterMap_orderBy hf, filterMap_outerEntries hf,
    c.filterMap_topRows hf]

end Clauses

/-! Faults of a page: its own come from its pagination, the others from its query. -/

namespace Clauses

open Document

omit hf

theorem mem_faults_rowCount {n : UInt64} {e : Error}
    (h : e ∈ (rowCount n).filterMap Piece.fault?) : ∃ fault, e = .invalidPagination fault := by
  unfold rowCount at h
  split at h
  · exact absurd h List.not_mem_nil
  · exact ⟨_, List.mem_singleton.1 h⟩

theorem outerName_eq_error {c : Clauses} {k : OrderClause} {e : Error}
    (h : c.outerName k = .error e) : ∃ fault, e = .invalidPagination fault := by
  unfold outerName at h
  cases houtput : k.outputName with
  | none =>
    rw [houtput] at h
    exact ⟨_, (Except.error.inj h).symm⟩
  | some name =>
    rw [houtput] at h
    dsimp only at h
    split at h
    · contradiction
    · exact ⟨_, (Except.error.inj h).symm⟩

theorem outerKeys_eq_error {c : Clauses} {e : Error} (h : c.outerKeys = .error e) :
    ∃ fault, e = .invalidPagination fault := by
  obtain ⟨k, -, hk⟩ := error_of_mapM h
  exact outerName_eq_error (error_of_map hk)

/-- A fault is one of the pagination or stands in the query. -/
def FaultOf (c : Clauses) (e : Error) : Prop :=
  (∃ fault, e = .invalidPagination fault) ∨ e ∈ (c.base {}).filterMap Piece.fault?

theorem faultOf_iff {c : Clauses} {e : Error} :
    c.FaultOf e ↔ (∃ fault, e = .invalidPagination fault) ∨
      e ∈ c.body Piece.fault? ∨ e ∈ c.sortKeys Piece.fault? := by
  rw [FaultOf, c.filterMap_base Piece.skipsText_fault?]
  simp

theorem mem_faults_guardedBy {n : UInt64} {doc : Document} {e : Error}
    (h : e ∈ (guardedBy n doc).filterMap Piece.fault?) :
    (∃ fault, e = .invalidPagination fault) ∨ e ∈ doc.filterMap Piece.fault? := by
  unfold guardedBy at h
  cases hfault : (rowCount n).firstFault? with
  | none =>
    rw [hfault] at h
    exact .inr h
  | some e' =>
    rw [hfault] at h
    obtain rfl : e = e' := List.mem_singleton.1 h
    exact .inl (mem_faults_rowCount (mem_filterMap_fault?.2 (fault_mem_of_firstFault? hfault)))

theorem faultOf_guardedBy {c : Clauses} {n take last : UInt64} {doc : Document} {e : Error}
    (hdoc : doc.filterMap Piece.fault? = (rowCount take).filterMap Piece.fault? ++
      (rowCount last).filterMap Piece.fault? ++ (c.body Piece.fault? ++ c.sortKeys Piece.fault?))
    (h : e ∈ (guardedBy n doc).filterMap Piece.fault?) : c.FaultOf e := by
  rw [faultOf_iff]
  rcases mem_faults_guardedBy h with hown | h
  · exact .inl hown
  · rw [hdoc] at h
    simp only [List.mem_append] at h
    exact h.imp_left fun h => h.elim mem_faults_rowCount mem_faults_rowCount

theorem mem_faults_countDependentPage {d : Dialect} {c : Clauses} {w : Window}
    {count : Option UInt64} {reversed : Bool} (hcount : w.start = 0 ∨ count ≠ none) {e : Error}
    (h : e ∈ (c.countDependentPage d w count reversed).filterMap Piece.fault?) : c.FaultOf e := by
  have hf := Piece.skipsText_fault?
  rw [faultOf_iff]
  unfold countDependentPage at h
  by_cases hstart : w.start = 0
  · rw [if_pos hstart, c.filterMap_topRows hf] at h
    simp only [List.mem_append] at h
    exact h.imp_left mem_faults_rowCount
  rw [if_neg hstart] at h
  cases count with
  | none => exact absurd rfl (hcount.resolve_left hstart)
  | some n =>
    by_cases hnone : n ≤ w.start ∨ w.size = 0
    · simp only [if_pos hnone] at h
      rw [c.filterMap_noRows hf, List.mem_append] at h
      exact .inr h
    by_cases horder : c.order = []
    · simp only [if_neg hnone, if_pos horder] at h
      exact .inl ⟨_, List.mem_singleton.1 h⟩
    cases hkeys : c.outerKeys with
    | error e' =>
      simp only [if_neg hnone, if_neg horder, hkeys] at h
      obtain rfl : e = e' := List.mem_singleton.1 h
      exact .inl (outerKeys_eq_error hkeys)
    | ok keys =>
      simp only [if_neg hnone, if_neg horder, hkeys] at h
      split at h
      · exact faultOf_iff.1 (faultOf_guardedBy (c.filterMap_frontPage hf _ _ _ _ _) h)
      · exact faultOf_iff.1 (faultOf_guardedBy (c.filterMap_backPage hf _ _ _ _ _) h)

theorem mem_faults_numberedRows {d : Dialect} {c : Clauses} {reversed : Bool} {e : Error}
    (h : e ∈ (c.numberedRows d reversed).filterMap Piece.fault?) : c.FaultOf e := by
  rw [faultOf_iff]
  rw [c.filterMap_numberedRows Piece.skipsText_fault?] at h
  split at h
  · cases hkeys : c.outerKeys with
    | error e' =>
      rw [hkeys] at h
      obtain rfl : e = e' := List.mem_singleton.1 h
      exact .inl (outerKeys_eq_error hkeys)
    | ok keys =>
      rw [hkeys] at h
      exact .inr (.inl h)
  · rw [List.mem_append] at h
    exact .inr h.symm

theorem mem_faults_rowNumberRange {column : String} {w : Window} {e : Error}
    (h : e ∈ (rowNumberRange column w).filterMap Piece.fault?) :
    ∃ fault, e = .invalidPagination fault := by
  rw [filterMap_rowNumberRange Piece.skipsText_fault?, List.mem_append] at h
  exact h.elim mem_faults_rowCount mem_faults_rowCount

/-- A page whose dialect knows all that it needs has no faults but those of its pagination and
those of its query. -/
theorem faultOf_page {d : Dialect} {c : Clauses} {w : Window} {count : Option UInt64}
    {reversed : Bool} (hcount : d = .access → w.start = 0 ∨ count ≠ none) {e : Error}
    (h : Piece.fault e ∈ c.page d w count reversed) : c.FaultOf e := by
  have hf := Piece.skipsText_fault?
  rw [← mem_filterMap_fault?] at h
  cases d with
  | access => exact mem_faults_countDependentPage (hcount rfl) h
  | sqlServer =>
    rw [page, c.filterMap_rankedPage hf] at h
    split at h
    · rw [faultOf_iff]
      simp only [List.mem_append] at h
      exact h.imp_left mem_faults_rowCount
    · rcases List.mem_append.1 h with h | h
      · exact mem_faults_numberedRows h
      · exact .inl (mem_faults_rowNumberRange h)
  | mySql =>
    rw [page, c.filterMap_limitPage hf] at h
    rw [faultOf_iff]
    simp only [List.mem_append] at h
    rcases h with h | h | h
    · exact .inr h
    · split at h
      · exact absurd h List.not_mem_nil
      · exact .inl (mem_faults_rowCount h)
    · exact .inl (mem_faults_rowCount h)
  | sqlite | postgres =>
    rw [page, c.filterMap_limitOffsetPage hf] at h
    rw [faultOf_iff]
    simp only [List.mem_append] at h
    rcases h with h | h | h
    · exact .inr h
    · exact .inl (mem_faults_rowCount h)
    · split at h
      · exact absurd h List.not_mem_nil
      · exact .inl (mem_faults_rowCount h)
  | oracle =>
    rw [page, c.filterMap_countedPage hf] at h
    rw [faultOf_iff]
    simp only [List.mem_append] at h
    rcases h with h | h
    · exact .inr h
    · split at h
      · exact .inl (mem_faults_rowCount h)
      · exact .inl (mem_faults_rowNumberRange h)

end Clauses

end ParamSql
