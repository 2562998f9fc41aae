import Mathlib.Data.List.TakeWhile
import ParamSql.Proofs.Paging.Numbers
import ParamSql.Proofs.Paging.OuterNames
import ParamSql.Proofs.Paging.Parameters

/-!
# Which pages can be rendered

Where rows cannot be skipped, a page past the first one needs the number of all rows, sort keys
that can be named from outside of the query, and literals for the rows that it takes from either
end. The page is rendered if and only if the query without paging is and these are there.
-/

namespace ParamSql

namespace Document

/-- A document that is filled, whatever the binder has seen before. -/
def Fills (d : Document) : Prop := ∀ b, ∃ filled, d.fill b = .ok filled

def Fails (d : Document) (e : Error) : Prop := ∀ b, d.fill b = .error e

theorem firstFault?_eq_head? (d : Document) :
    d.firstFault? = (d.filterMap Piece.fault?).head? := by
  induction d with
  | nil => rfl
  | cons piece rest ih =>
    cases piece with
    | fault e => rfl
    | token t => exact ih
    | hole p => exact ih

theorem fails_iff {d : Document} {e : Error} :
    d.Fails e ↔ (d.filterMap Piece.fault?).head? = some e := by
  rw [← firstFault?_eq_head?]
  constructor
  · intro h
    exact (fill_eq_error_iff d {} e).1 (h {})
  · intro h b
    exact (fill_eq_error_iff d b e).2 h

theorem fills_iff {d : Document} : d.Fills ↔ d.filterMap Piece.fault? = [] := by
  constructor
  · intro h
    obtain ⟨filled, hfilled⟩ := h {}
    refine List.eq_nil_iff_forall_not_mem.2 fun e he => ?_
    exact no_fault_of_fill hfilled e (mem_filterMap_fault?.1 he)
  · intro h b
    have none : ∀ e, Piece.fault e ∉ d := by
      intro e he
      rw [← mem_filterMap_fault?, h] at he
      exact absurd he List.not_mem_nil
    obtain ⟨tokens, b', hfill⟩ := fill_eq_ok_of_no_fault none b
    exact ⟨_, hfill⟩

theorem fails_failing (e : Error) : (failing e).Fails e := fun _ => rfl

theorem Fails.not_fills {d : Document} {e : Error} (h : d.Fails e) : ¬ d.Fills := by
  intro hfills
  obtain ⟨filled, hfilled⟩ := hfills {}
  rw [h {}] at hfilled
  exact nomatch hfilled

/-- What cannot be filled fails with one and the same error for every binder. -/
theorem exists_fails {d : Document} (h : ¬ d.Fills) :
    ∃ e, d.Fails e ∧ Piece.fault e ∈ d := by
  rw [fills_iff] at h
  obtain ⟨e, rest, hcons⟩ := List.exists_cons_of_ne_nil h
  refine ⟨e, fails_iff.2 (by rw [hcons]; rfl), mem_filterMap_fault?.1 ?_⟩
  rw [hcons]
  exact List.mem_cons_self

theorem faults_rowCount {n : UInt64} :
    (rowCount n).filterMap Piece.fault? = [] ↔ n.toNat ≤ 9223372036854775807 := by
  unfold rowCount
  by_cases hn : n.toNat ≤ 9223372036854775807
  · rw [if_pos hn]
    exact iff_of_true rfl hn
  · rw [if_neg hn]
    exact iff_of_false (List.cons_ne_nil _ _) hn

end Document

open Document

/-- What follows the last dot of a text, or all of it. -/
def IsLastSegment (text segment : String) : Prop :=
  '.' ∉ segment.toList ∧ (text = segment ∨ ∃ front, text = front ++ "." ++ segment)

theorem toList_lastSegment (text : String) :
    (lastSegment text).toList = (text.toList.reverse.takeWhile (· ≠ '.')).reverse :=
  String.toList_ofList

theorem isLastSegment_lastSegment (text : String) : IsLastSegment text (lastSegment text) := by
  constructor
  · rw [toList_lastSegment, List.mem_reverse]
    intro h
    simpa using List.mem_takeWhile_imp h
  · have parts := List.takeWhile_append_dropWhile (p := (· ≠ '.')) (l := text.toList.reverse)
    cases hdrop : text.toList.reverse.dropWhile (· ≠ '.') with
    | nil =>
      left
      rw [hdrop, List.append_nil] at parts
      rw [← String.toList_inj, toList_lastSegment, parts, List.reverse_reverse]
    | cons c rest =>
      right
      have hc : c = '.' := by
        have := List.head?_dropWhile_not (· ≠ '.') text.toList.reverse
        rw [hdrop] at this
        simpa using this
      rw [hdrop, hc] at parts
      have forward : text.toList = rest.reverse ++ ['.'] ++ (lastSegment text).toList := by
        calc
          text.toList = (text.toList.reverse.takeWhile (· ≠ '.') ++ '.' :: rest).reverse := by
            rw [parts, List.reverse_reverse]
          _ = rest.reverse ++ ['.'] ++ (lastSegment text).toList := by
            rw [List.reverse_append, List.reverse_cons, toList_lastSegment]
      exact ⟨String.ofList rest.reverse, by rw [← String.toList_inj, forward]; simp⟩

theorem IsLastSegment.eq {text segment : String} (h : IsLastSegment text segment) :
    lastSegment text = segment := by
  obtain ⟨hdot, htext⟩ := h
  have own : ∀ c ∈ segment.toList.reverse, decide (c ≠ '.') = true := by
    intro c hc
    refine decide_eq_true fun h => hdot ?_
    rw [← h]
    exact List.mem_reverse.1 hc
  rw [← String.toList_inj, toList_lastSegment]
  rcases htext with rfl | ⟨front, rfl⟩
  · rw [List.takeWhile_eq_self_iff.2 own, List.reverse_reverse]
  · have reversed : (front ++ "." ++ segment).toList.reverse =
        segment.toList.reverse ++ '.' :: front.toList.reverse := by
      simp
    rw [reversed, List.takeWhile_append_of_pos own, List.takeWhile_cons_of_neg (by simp),
      List.append_nil, List.reverse_reverse]

theorem lastSegment_eq_iff {text segment : String} :
    lastSegment text = segment ↔ IsLastSegment text segment := by
  constructor
  · rintro rfl
    exact isLastSegment_lastSegment text
  · exact IsLastSegment.eq

namespace Field

/-- The name of a field outside of its query: the one given to it, or the last segment of a
column that is not aggregated. -/
inductive Named (f : Field) : String → Prop
  | given {name : String} (given : f.newName = some name) : Named f name
  | column {table : Option String} {text name : String} (unnamed : f.newName = none)
    (source : f.source = .column table text) (plain : f.aggregate = none)
    (segment : IsLastSegment text name) : Named f name

theorem named_iff {f : Field} {name : String} : f.Named name ↔ f.outputName? = some name := by
  obtain ⟨source, newName, aggregate, distinct⟩ := f
  constructor
  · intro h
    cases h with
    | given given =>
      cases given
      rfl
    | column unnamed source plain segment =>
      cases unnamed
      cases source
      cases plain
      exact congrArg some segment.eq
  · intro h
    unfold outputName? at h
    split at h
    · rename_i given
      exact .given (given.trans h)
    · rename_i unnamed source plain
      exact .column unnamed source plain (lastSegment_eq_iff.1 (Option.some.inj h))
    · exact nomatch h

def Star (f : Field) : Prop := (∃ table, f.source = .all table) ∧ f.aggregate = none

theorem star_iff {f : Field} : f.Star ↔ f.isStar = true := by
  obtain ⟨source, newName, aggregate, distinct⟩ := f
  constructor
  · rintro ⟨⟨table, rfl⟩, rfl⟩
    rfl
  · intro h
    unfold isStar at h
    split at h
    · rename_i table source plain
      exact ⟨⟨table, source⟩, plain⟩
    · exact nomatch h

end Field

namespace Select

def Projects (s : Select) (name : String) : Prop :=
  s.fields = [] ∨ ∃ f ∈ s.fields, f.Star ∨
    ∃ other, f.Named other ∧ Text.sameIgnoringCase other name = true

/-- There are sort keys, and a query around this one sees all of them by their names. -/
def SortsFromOutside (s : Select) : Prop :=
  s.order ≠ [] ∧ ∀ k ∈ s.order, ∃ name, k.field.Named name ∧ s.Projects name

theorem projects_iff {s : Select} {d : Dialect} {name : String} :
    (s.clauses d).projects name = true ↔ s.Projects name := by
  have each (f : Field) : (f.isStar || f.outputName?.any (Text.sameIgnoringCase · name)) = true ↔
      f.Star ∨ ∃ other, f.Named other ∧ Text.sameIgnoringCase other name = true := by
    rw [Bool.or_eq_true, ← Field.star_iff, Option.any_eq_true]
    simp only [Field.named_iff]
  rw [Clauses.projects, s.clauses_fields d, Bool.or_eq_true, List.isEmpty_iff, List.map_eq_nil_iff,
    List.any_map, List.any_eq_true]
  exact or_congr_right (exists_congr fun f => and_congr_right fun _ => each f)

theorem succeeds_outerKeys {s : Select} {d : Dialect} :
    Succeeds (s.clauses d).outerKeys ↔
      ∀ k ∈ s.order, ∃ name, k.field.Named name ∧ s.Projects name := by
  have each (k : OrderClause) : Succeeds ((s.clauses d).outerName k) ↔
      ∃ name, k.outputName = some name ∧ s.Projects name := by
    refine exists_congr fun name => ?_
    rw [Clauses.outerName_eq_ok, projects_iff]
  rw [Clauses.outerKeys, succeeds_mapM]
  simp only [succeeds_map, each, s.clauses_order d, List.forall_mem_map, Field.named_iff]

end Select

/-- The row counts in the text of a page between its first row and the last of `count` rows: the
rows taken last, and before them those taken from the nearer end. -/
def Window.literals (w : Window) (count : UInt64) : List Nat :=
  let remaining := count.toNat - w.start.toNat
  let take := min w.size.toNat remaining
  if w.start.toNat ≤ count.toNat / 2 then [take, w.start.toNat + take] else [take, remaining]

namespace Clauses

variable {c : Clauses} {w : Window} {reversed : Bool}

theorem filterMap_whole {β : Type} {f : Piece → Option β} (hf : SkipsText f) (c : Clauses)
    (reversed : Bool) : (c.base { reversed }).filterMap f = c.body f ++ c.sortKeys f := by
  rw [c.filterMap_base hf]
  simp

theorem faults_base (c : Clauses) (reversed : Bool) :
    (c.base { reversed }).filterMap Piece.fault? =
      c.body Piece.fault? ++ c.sortKeys Piece.fault? :=
  c.filterMap_whole Piece.skipsText_fault? reversed

theorem fills_topRows {size : UInt64} :
    (c.topRows size reversed).Fills ↔
      size.toNat ≤ 9223372036854775807 ∧ (c.base { reversed }).Fills := by
  rw [fills_iff, fills_iff, c.filterMap_topRows Piece.skipsText_fault?, faults_base,
    List.append_eq_nil_iff, faults_rowCount]

theorem fills_guardedBy {n : UInt64} {doc : Document} :
    (guardedBy n doc).Fills ↔ n.toNat ≤ 9223372036854775807 ∧ doc.Fills := by
  rw [guardedBy, firstFault?_eq_head?, ← faults_rowCount]
  cases hfaults : (rowCount n).filterMap Piece.fault? with
  | nil => exact (and_iff_right rfl).symm
  | cons e rest =>
    refine iff_of_false ?_ fun h => List.cons_ne_nil _ _ h.1
    rw [fills_iff]
    exact List.cons_ne_nil _ _

/-- A page from the nearer end is rendered when its query is and both its row counts are. -/
theorem fills_nearerPage {d : Dialect} {keys : List (String × Direction)}
    {start take remaining count : UInt64} :
    Fills (if start ≤ count / 2 then
        guardedBy (start + take) (c.frontPage d keys start take reversed)
      else guardedBy remaining (c.backPage d keys remaining take reversed)) ↔
      (∀ n ∈ if start ≤ count / 2 then [take, start + take] else [take, remaining],
        n.toNat ≤ 9223372036854775807) ∧ (c.base { reversed }).Fills := by
  have twice {n m : UInt64} {doc : Document} (hdoc : doc.filterMap Piece.fault? =
      (rowCount n).filterMap Piece.fault? ++ (rowCount m).filterMap Piece.fault? ++
        (c.body Piece.fault? ++ c.sortKeys Piece.fault?)) :
      (guardedBy m doc).Fills ↔
        (∀ k ∈ [n, m], k.toNat ≤ 9223372036854775807) ∧ (c.base { reversed }).Fills := by
    rw [fills_guardedBy, fills_iff, fills_iff, hdoc, faults_base, List.append_eq_nil_iff,
      List.append_eq_nil_iff, faults_rowCount, faults_rowCount, List.forall_mem_cons,
      List.forall_mem_singleton]
    constructor
    · rintro ⟨-, ⟨hn, hm⟩, hbase⟩
      exact ⟨⟨hn, hm⟩, hbase⟩
    · rintro ⟨⟨hn, hm⟩, hbase⟩
      exact ⟨hm, ⟨hn, hm⟩, hbase⟩
  by_cases hhalf : start ≤ count / 2
  · rw [if_pos hhalf, if_pos hhalf]
    exact twice (c.filterMap_frontPage Piece.skipsText_fault? _ _ _ _ _)
  · rw [if_neg hhalf, if_neg hhalf]
    exact twice (c.filterMap_backPage Piece.skipsText_fault? _ _ _ _ _)

end Clauses

namespace Window

variable {w : Window} {count : UInt64}

theorem not_past (h : w.start < count) (hsize : w.size ≠ 0) :
    ¬ (count ≤ w.start ∨ w.size = 0) := by
  rintro (hle | hzero)
  · exact UInt64.not_lt.2 hle h
  · exact hsize hzero

theorem denotes_self (hsize : w.size ≠ 0) : w.Denotes w.start.toNat w.size.toNat := by
  have positive : w.size.toNat ≠ 0 := fun hzero => hsize (UInt64.toNat_inj.1 hzero)
  have := w.start.toNat_lt
  constructor
  · omega
  · omega
  · omega
  · rfl

theorem words_front (hstart : w.start ≠ 0) (hlt : w.start < count) (hsize : w.size ≠ 0) :
    (PageNumbers.words .access w (some count)).front =
      if w.start ≤ count / 2 then
        [min w.size (count - w.start), w.start + min w.size (count - w.start)]
      else [min w.size (count - w.start), count - w.start] := by
  simp only [PageNumbers.words, if_neg hstart, if_neg (not_past hlt hsize)]
  split
  · rfl
  · rfl

/-- No word wraps around: all of them count rows that there are. -/
theorem words_eq_literals (hstart : w.start ≠ 0) (hlt : w.start < count) (hsize : w.size ≠ 0) :
    (PageNumbers.words .access w (some count)).front.map UInt64.toNat = w.literals count := by
  have self := denotes_self hsize
  have before : ¬ count ≤ w.start := UInt64.not_le.2 hlt
  have take := self.toNat_take before
  have sum := self.toNat_start_add_take before
  have remaining := self.toNat_sub before
  have half : w.start ≤ count / 2 ↔ w.start.toNat ≤ count.toNat / 2 := by
    rw [self.start_le_half_iff]
    omega
  have := UInt64.lt_iff_toNat_lt.1 hlt
  rw [words_front hstart hlt hsize, literals]
  by_cases hhalf : w.start ≤ count / 2
  · rw [if_pos hhalf, if_pos (half.1 hhalf)]
    simp only [List.map_cons, List.map_nil, List.cons.injEq, and_true]
    omega
  · rw [if_neg hhalf, if_neg (half.not.1 hhalf)]
    simp only [List.map_cons, List.map_nil, List.cons.injEq, and_true]
    omega

end Window

namespace Select

variable {s : Select} {d : Dialect} {w : Window} {count : UInt64} {reversed : Bool}

theorem fills_firstPage {known : Option UInt64} (hstart : w.start = 0) :
    ((s.clauses d).countDependentPage d w known reversed).Fills ↔
      w.size.toNat ≤ 9223372036854775807 ∧ ((s.clauses d).base { reversed }).Fills := by
  unfold Clauses.countDependentPage
  rw [if_pos hstart, Clauses.fills_topRows]

theorem faults_pastLastRow (hstart : w.start ≠ 0) (hle : count ≤ w.start) :
    ((s.clauses d).countDependentPage d w (some count) reversed).filterMap Piece.fault? =
      ((s.clauses d).base { reversed }).filterMap Piece.fault? := by
  have past : count ≤ w.start ∨ w.size = 0 := .inl hle
  simp only [Clauses.countDependentPage, if_neg hstart, if_pos past]
  rw [Clauses.filterMap_noRows Piece.skipsText_fault?, Clauses.faults_base]

/-- Between the first row and the last, a page needs sort keys, their names and its literals. -/
theorem fills_innerPage (hstart : w.start ≠ 0) (hlt : w.start < count) (hsize : w.size ≠ 0) :
    ((s.clauses d).countDependentPage d w (some count) reversed).Fills ↔
      s.SortsFromOutside ∧ (∀ n ∈ w.literals count, n ≤ 9223372036854775807) ∧
        ((s.clauses d).base { reversed }).Fills := by
  simp only [Clauses.countDependentPage, if_neg hstart, if_neg (Window.not_past hlt hsize)]
  -- sort keys and their names are looked at first, then the row counts together with the query
  by_cases horder : s.order = []
  · have none : (s.clauses d).order = [] := by rw [s.clauses_order d, horder, List.map_nil]
    rw [if_pos none]
    exact iff_of_false (fails_failing _).not_fills fun h => h.1.1 horder
  have some : (s.clauses d).order ≠ [] := by
    rw [s.clauses_order d]
    exact List.map_eq_nil_iff.not.2 horder
  rw [if_neg some]
  cases hkeys : (s.clauses d).outerKeys with
  | error e =>
    refine iff_of_false (fails_failing e).not_fills fun h => ?_
    have named : Succeeds (s.clauses d).outerKeys := succeeds_outerKeys.2 h.1.2
    rw [hkeys] at named
    exact not_succeeds_error e named
  | ok keys =>
    have sorts : s.SortsFromOutside := ⟨horder, succeeds_outerKeys.1 ⟨keys, hkeys⟩⟩
    dsimp only
    rw [and_iff_right sorts, Clauses.fills_nearerPage, ← Window.words_front hstart hlt hsize,
      ← Window.words_eq_literals hstart hlt hsize, List.forall_mem_map]

/-- The integers of a page between the first row and the last: its row counts, and behind them those
of its query. -/
theorem integers_innerPage (hstart : w.start ≠ 0) (hlt : w.start < count) (hsize : w.size ≠ 0)
    (hfills : ((s.clauses d).countDependentPage d w (some count) reversed).Fills) :
    ((s.clauses d).countDependentPage d w (some count) reversed).filterMap Piece.integer? =
      (w.literals count).map Int.ofNat ++
        ((s.clauses d).base { reversed }).filterMap Piece.integer? := by
  have hfault (e : Error) :
      Piece.fault e ∉ (s.clauses d).countDependentPage d w (some count) reversed := by
    obtain ⟨filled, hfilled⟩ := hfills {}
    exact no_fault_of_fill hfilled e
  have words := Window.words_eq_literals hstart hlt hsize
  have fit := ((fills_innerPage hstart hlt hsize).1 hfills).2.1
  rw [← words, List.forall_mem_map] at fit
  rw [Clauses.filterMap_countDependentPage Piece.skipsText_integer? hfault,
    Clauses.written_integers fit, Clauses.filterMap_whole Piece.skipsText_integer?, ← words,
    List.map_map]
  rfl

theorem invalidPagination_of_not_fills {known : Option UInt64}
    (hknown : w.start ≠ 0 → known ≠ none) (hwhole : ((s.clauses d).base { reversed }).Fills)
    (h : ¬ ((s.clauses d).countDependentPage d w known reversed).Fills) :
    ∃ fault, ((s.clauses d).countDependentPage d w known reversed).Fails
      (.invalidPagination fault) := by
  obtain ⟨e, hfails, hmem⟩ := exists_fails h
  have counted : w.start = 0 ∨ known ≠ none := or_iff_not_imp_left.2 hknown
  have origin : (s.clauses d).FaultOf e :=
    Clauses.mem_faults_countDependentPage counted (mem_filterMap_fault?.2 hmem)
  rcases origin with ⟨fault, rfl⟩ | hbase
  · exact ⟨fault, hfails⟩
  · rw [fills_iff, Clauses.faults_base, ← Clauses.faults_base _ false] at hwhole
    rw [hwhole] at hbase
    exact absurd hbase List.not_mem_nil

/-- How the page of a window comes out next to the query without paging, by where the window
starts and what is known of the number of rows. -/
structure PagesAccess (s : Select) (w : Window) (known : Option UInt64) (page whole : Document) :
    Prop where
  first : w.start = 0 → (page.Fills ↔ w.size.toNat ≤ 9223372036854775807 ∧ whole.Fills)
  uncounted : w.start ≠ 0 → known = none →
    page.Fails (.unsupported .access .deepPageWithoutCount)
  /-- Also at the first row of no rows, as far as the size of the window has a literal. -/
  past : ∀ count, known = some count → count ≤ w.start →
    (w.start = 0 → w.size.toNat ≤ 9223372036854775807) →
    (page.Fills ↔ whole.Fills) ∧ ∀ e, page.Fails e ↔ whole.Fails e
  inner : ∀ count, known = some count → w.start ≠ 0 → w.start < count →
    (page.Fills ↔ s.SortsFromOutside ∧
      (∀ n ∈ w.literals count, n ≤ 9223372036854775807) ∧ whole.Fills) ∧
    (page.Fills → page.filterMap Piece.integer? =
      (w.literals count).map Int.ofNat ++ whole.filterMap Piece.integer?)
  invalid : (w.start ≠ 0 → known ≠ none) → whole.Fills → ¬ page.Fills →
    ∃ fault, page.Fails (.invalidPagination fault)

theorem pagesAccess (s : Select) {w : Window} (hsize : w.size ≠ 0) (known : Option UInt64)
    (reversed : Bool) :
    s.PagesAccess w known ((s.clauses .access).countDependentPage .access w known reversed)
      ((s.clauses .access).base { reversed }) where
  first := fills_firstPage
  uncounted hstart hknown := by
    subst hknown
    unfold Clauses.countDependentPage
    rw [if_neg hstart]
    exact fails_failing _
  past count hknown hle hfirst := by
    subst hknown
    have same : ((s.clauses .access).countDependentPage .access w (some count)
        reversed).filterMap Piece.fault? =
        ((s.clauses .access).base { reversed }).filterMap Piece.fault? := by
      by_cases hstart : w.start = 0
      · unfold Clauses.countDependentPage
        rw [if_pos hstart, Clauses.filterMap_topRows Piece.skipsText_fault?,
          faults_rowCount.2 (hfirst hstart), Clauses.faults_base, List.nil_append]
      · exact faults_pastLastRow hstart hle
    constructor
    · rw [fills_iff, fills_iff, same]
    · intro e
      rw [fails_iff, fails_iff, same]
  inner count hknown hstart hlt := by
    subst hknown
    exact ⟨fills_innerPage hstart hlt hsize, integers_innerPage hstart hlt hsize⟩
  invalid := invalidPagination_of_not_fills

/-- A page is rendered by Access just when the query without paging is and the page has what it
needs where it starts: as a statement of its own, whatever record count it is given and in
either direction, and inside of another statement. -/
theorem access_page_fills_iff (s : Select) {w : Window} (hw : s.pagination.window? = some w)
    (hsize : 1 ≤ w.size.toNat) :
    (s.dialect = .access → ∀ (recordCount : Option UInt64) (reversed : Bool),
      s.PagesAccess w (recordCount <|> s.pagination.recordCount?)
        (s.rootDocument recordCount reversed) (s.unbounded.rootDocument recordCount reversed)) ∧
    s.PagesAccess w s.pagination.recordCount? (s.document .access)
      (s.unbounded.document .access) := by
  have positive : w.size ≠ 0 := by
    rintro hzero
    rw [hzero] at hsize
    exact absurd hsize (by decide)
  have paged (known : Option UInt64) (reversed : Bool) :
      (s.clauses .access).paginated .access s.pagination known reversed =
        (s.clauses .access).countDependentPage .access w (known <|> s.pagination.recordCount?)
          reversed := by
    rw [Clauses.paginated, hw]
    rfl
  constructor
  · intro hdialect recordCount reversed
    have page : s.rootDocument recordCount reversed = (s.clauses .access).countDependentPage
        .access w (recordCount <|> s.pagination.recordCount?) reversed := by
      rw [rootDocument, hdialect, paged]
    have whole : s.unbounded.rootDocument recordCount reversed =
        (s.clauses .access).base { reversed } := by
      rw [← hdialect]
      exact congrArg (Clauses.base · { reversed }) (s.clauses_unbounded s.dialect)
    rw [page, whole]
    exact s.pagesAccess positive _ reversed
  · have page : s.document .access = (s.clauses .access).countDependentPage .access w
        s.pagination.recordCount? false := paged none false
    have whole : s.unbounded.document .access = (s.clauses .access).base { reversed := false } :=
      congrArg (Clauses.base · { reversed := false }) (s.clauses_unbounded .access)
    rw [page, whole]
    exact s.pagesAccess positive _ false

/-- The last two of twelve rows, sorted by a column that is selected under its name in other
letters; the same page inside of another statement, where the number of rows is not known. -/
theorem access_page_fills_iff_last :
    let s : Select :=
      { dialect := .access
        source := .table "t"
        fields := [.column "u.ID"]
        order := [⟨.column "v.id", .descending⟩]
        pagination := .page 10 2 }
    (s.rootDocument (some 12) true).Fills ∧
      (s.document .access).Fails (.unsupported .access .deepPageWithoutCount) := by
  intro s
  obtain ⟨root, nested⟩ := s.access_page_fills_iff (w := ⟨10, 10⟩) rfl (by decide)
  have key : Field.Named (.column "v.id") "id" :=
    .column rfl rfl rfl ⟨by decide, .inr ⟨"v", by decide⟩⟩
  have field : Field.Named (.column "u.ID") "ID" :=
    .column rfl rfl rfl ⟨by decide, .inr ⟨"u", by decide⟩⟩
  have sorts : s.SortsFromOutside := by
    refine ⟨List.cons_ne_nil _ _, fun k hk => ⟨"id", ?_, ?_⟩⟩
    · obtain rfl := List.mem_singleton.1 hk
      exact key
    · exact .inr ⟨_, List.mem_cons_self, .inr ⟨"ID", field, by decide⟩⟩
  have whole : (s.unbounded.rootDocument (some 12) true).Fills := by
    rw [fills_iff]
    simp only [s]
    rfl
  constructor
  · refine ((root rfl (some 12) true).inner 12 rfl (by decide) (by decide)).1.2 ⟨sorts, ?_, whole⟩
    decide
  · exact nested.uncounted (by decide) rfl

end Select

end ParamSql
