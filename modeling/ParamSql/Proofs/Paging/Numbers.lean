import ParamSql.Proofs.Binding.Alignment
import ParamSql.Proofs.Paging.Contents
import ParamSql.Proofs.Paging.Plan
import ParamSql.Select.Builder

/-!
# The numbers of a page are exact

Positions of rows are words, and some of them are cut off at the largest word. A page that is
rendered nevertheless holds the numbers that follow from the exact position of its first row;
where one of these has no literal, there is no page.
-/

namespace ParamSql

namespace Document

theorem integers_of_fill {d : Document} {b b' : Binder} {tokens : List Token}
    (h : d.fill b = .ok (tokens, b')) : Token.integers tokens = d.filterMap Piece.integer? := by
  induction d generalizing b tokens with
  | nil =>
    simp only [fill, Except.ok.injEq, Prod.mk.injEq] at h
    obtain ⟨rfl, -⟩ := h
    rfl
  | cons piece rest ih =>
    cases piece with
    | token t =>
      obtain ⟨tail, rfl, htail⟩ := fill_token_eq_ok.1 h
      rw [Token.integers, List.filterMap_cons, List.filterMap_cons, ← ih htail]
      rfl
    | hole p =>
      obtain ⟨tail, rfl, htail⟩ := fill_hole_eq_ok.1 h
      have bound : (b.bind p).1.integer? = none := by
        cases p with
        | raw => rfl
        | bound column name => cases name <;> rfl
      rw [Token.integers, List.filterMap_cons_none bound]
      exact ih htail
    | fault e => simp [fill] at h

end Document

/-- Numbers that a page writes, in front of its query and behind it. -/
structure PageNumbers (α : Type*) where
  front : List α := []
  behind : List α := []

namespace PageNumbers

variable {α : Type*}

def all (numbers : PageNumbers α) : List α := numbers.front ++ numbers.behind

/-- The exact numbers by which a dialect asks for `size` rows from the row `start` on, out of
`count` rows. -/
def exact (d : Dialect) (start size : Int) (count : Option Int) : PageNumbers Int :=
  match d with
  | .access =>
    if start = 0 then { front := [size] }
    else match count with
      | none => {}
      | some n =>
        if n ≤ start then {}
        else if start ≤ n / 2 then { front := [min size (n - start), start + min size (n - start)] }
        else { front := [min size (n - start), n - start] }
  | .sqlServer =>
    if start = 0 then { front := [size] } else { behind := [start + 1, start + size] }
  | .mySql => { behind := if start = 0 then [size] else [start, size] }
  | .sqlite | .postgres => { behind := if start = 0 then [size] else [size, start] }
  | .oracle => { behind := if start = 0 then [size] else [start + 1, start + size] }

def words (d : Dialect) (w : Window) (count : Option UInt64) : PageNumbers UInt64 :=
  let first := saturated (w.start.toNat + 1)
  let last := saturated (w.start.toNat + w.size.toNat)
  match d with
  | .access =>
    if w.start = 0 then { front := [w.size] }
    else match count with
      | none => {}
      | some n =>
        if n ≤ w.start ∨ w.size = 0 then {}
        else
          let take := min w.size (n - w.start)
          if w.start ≤ n / 2 then { front := [take, w.start + take] }
          else { front := [take, n - w.start] }
  | .sqlServer => if w.start = 0 then { front := [w.size] } else { behind := [first, last] }
  | .mySql => { behind := if w.start = 0 then [w.size] else [w.start, w.size] }
  | .sqlite | .postgres => { behind := if w.start = 0 then [w.size] else [w.size, w.start] }
  | .oracle => { behind := if w.start = 0 then [w.size] else [first, last] }

end PageNumbers

namespace Clauses

open Document

variable {β : Type*} {f : Piece → Option β}

variable (f) in
/-- Pieces that a page takes over from its query. Past the first row SQL Server numbers the rows
along the sort keys in front of the query, or around a distinct or grouped one, by names. -/
def takenOver (d : Dialect) (c : Clauses) (w : Window) : List β :=
  if d = .sqlServer ∧ w.start ≠ 0 then
    (if c.distinct ∨ c.grouping ≠ [] then [] else c.sortKeys f) ++ c.body f
  else c.body f ++ c.sortKeys f

variable (f) in
def written (counts : List UInt64) : List β := counts.flatMap fun n => (rowCount n).filterMap f

theorem filterMap_nearerPage (hf : SkipsText f) {d : Dialect} {c : Clauses}
    {keys : List (String × Direction)} {start take remaining count : UInt64} {reversed : Bool}
    (hfault : ∀ e, Piece.fault e ∉
      if start ≤ count / 2 then guardedBy (start + take) (c.frontPage d keys start take reversed)
      else guardedBy remaining (c.backPage d keys remaining take reversed)) :
    List.filterMap f (if start ≤ count / 2 then
        guardedBy (start + take) (c.frontPage d keys start take reversed)
      else guardedBy remaining (c.backPage d keys remaining take reversed)) =
      written f (if start ≤ count / 2 then [take, start + take] else [take, remaining]) ++
        (c.body f ++ c.sortKeys f) := by
  by_cases hhalf : start ≤ count / 2
  · rw [if_pos hhalf] at hfault ⊢
    rw [guardedBy_eq hfault, c.filterMap_frontPage hf, if_pos hhalf]
    simp [written]
  · rw [if_neg hhalf] at hfault ⊢
    rw [guardedBy_eq hfault, c.filterMap_backPage hf, if_neg hhalf]
    simp [written]

theorem filterMap_countDependentPage (hf : SkipsText f) {d : Dialect} {c : Clauses} {w : Window}
    {count : Option UInt64} {reversed : Bool}
    (hfault : ∀ e, Piece.fault e ∉ c.countDependentPage d w count reversed) :
    (c.countDependentPage d w count reversed).filterMap f =
      written f (PageNumbers.words .access w count).front ++ (c.body f ++ c.sortKeys f) := by
  unfold countDependentPage at hfault ⊢
  by_cases hstart : w.start = 0
  · rw [if_pos hstart, c.filterMap_topRows hf]
    simp [PageNumbers.words, hstart, written]
  rw [if_neg hstart] at hfault ⊢
  cases count with
  | none => exact absurd List.mem_cons_self (hfault _)
  | some n =>
    by_cases hnone : n ≤ w.start ∨ w.size = 0
    · simp only [if_pos hnone]
      rw [c.filterMap_noRows hf]
      simp [PageNumbers.words, hstart, hnone, written]
    simp only [if_neg hnone] at hfault ⊢
    by_cases horder : c.order = []
    · simp only [if_pos horder] at hfault
      exact absurd List.mem_cons_self (hfault _)
    simp only [if_neg horder] at hfault ⊢
    cases hkeys : c.outerKeys with
    | error e =>
      simp only [hkeys] at hfault
      exact absurd List.mem_cons_self (hfault e)
    | ok keys =>
      simp only [hkeys] at hfault ⊢
      rw [filterMap_nearerPage hf hfault]
      simp only [PageNumbers.words, if_neg hstart, if_neg hnone]
      split <;> rfl

theorem filterMap_numberedRows_of_no_fault (hf : SkipsText f) {d : Dialect} {c : Clauses}
    {reversed : Bool} (hfault : ∀ e, Piece.fault e ∉ c.numberedRows d reversed) :
    (c.numberedRows d reversed).filterMap f =
      (if c.distinct ∨ c.grouping ≠ [] then [] else c.sortKeys f) ++ c.body f := by
  rw [c.filterMap_numberedRows hf]
  by_cases hwrapped : c.distinct ∨ c.grouping ≠ []
  · rw [if_pos hwrapped, if_pos hwrapped]
    cases hkeys : c.outerKeys with
    | error e =>
      have failed : c.numberedRows d reversed = failing e := by
        rw [numberedRows, if_pos hwrapped, outerOrderList, hkeys]
        rfl
      rw [failed] at hfault
      exact absurd List.mem_cons_self (hfault e)
    | ok keys => rfl
  · rw [if_neg hwrapped, if_neg hwrapped]

/-- A page without faults holds the pieces of its query, and around them its own numbers. -/
theorem filterMap_page (hf : SkipsText f) {d : Dialect} {c : Clauses} {w : Window}
    {count : Option UInt64} {reversed : Bool}
    (hfault : ∀ e, Piece.fault e ∉ c.page d w count reversed) :
    (c.page d w count reversed).filterMap f =
      written f (PageNumbers.words d w count).front ++ c.takenOver f d w ++
        written f (PageNumbers.words d w count).behind := by
  have range := filterMap_rowNumberRange hf rowNumberColumn w
  cases d with
  | access =>
    have behind : (PageNumbers.words .access w count).behind = [] := by
      unfold PageNumbers.words
      cases count <;> dsimp only <;> repeat' split
      all_goals rfl
    rw [page, filterMap_countDependentPage hf hfault, behind]
    simp [takenOver, written]
  | sqlServer =>
    rw [page, c.filterMap_rankedPage hf]
    by_cases hstart : w.start = 0
    · simp [hstart, PageNumbers.words, takenOver, written]
    · have rows : ∀ e, Piece.fault e ∉ c.numberedRows .sqlServer reversed := fun e he =>
        hfault e (by simp [page, rankedPage, hstart, selectAllFrom, parenthesized, he])
      rw [filterMap_numberedRows_of_no_fault hf rows]
      simp [hstart, PageNumbers.words, takenOver, written, range]
  | mySql =>
    rw [page, c.filterMap_limitPage hf]
    by_cases hstart : w.start = 0 <;> simp [hstart, PageNumbers.words, takenOver, written]
  | sqlite | postgres =>
    rw [page, c.filterMap_limitOffsetPage hf]
    by_cases hstart : w.start = 0 <;> simp [hstart, PageNumbers.words, takenOver, written]
  | oracle =>
    rw [page, c.filterMap_countedPage hf]
    by_cases hstart : w.start = 0 <;> simp [hstart, PageNumbers.words, takenOver, written, range]

theorem toNat_le_of_written {counts : List UInt64} (h : written Piece.fault? counts = []) :
    ∀ n ∈ counts, n.toNat ≤ 9223372036854775807 := by
  intro n hn
  refine toNat_le_of_rowCount fun e he => ?_
  have hmem : e ∈ written Piece.fault? counts :=
    List.mem_flatMap.2 ⟨n, hn, mem_filterMap_fault?.2 he⟩
  rw [h] at hmem
  exact absurd hmem List.not_mem_nil

theorem written_integers {counts : List UInt64}
    (h : ∀ n ∈ counts, n.toNat ≤ 9223372036854775807) :
    written Piece.integer? counts = counts.map fun n => (n.toNat : Int) := by
  rw [written, ← List.flatMap_pure_eq_map]
  refine List.flatMap_congr fun n hn => ?_
  rw [rowCount, if_pos (h n hn)]
  rfl

end Clauses

/-- A window of `size` rows from the row `start` on, the start cut off at the largest word. -/
structure Window.Denotes (w : Window) (start size : Int) : Prop where
  start_nonneg : 0 ≤ start
  size_pos : 0 < size
  toNat_start : (w.start.toNat : Int) = min start 18446744073709551615
  toNat_size : (w.size.toNat : Int) = size

namespace Window.Denotes

variable {w : Window} {start size : Int} (h : w.Denotes start size)

include h

theorem start_eq_zero_iff : w.start = 0 ↔ start = 0 := by
  have hzero : w.start = 0 ↔ w.start.toNat = 0 := by
    rw [← UInt64.toNat_inj]
    rfl
  have := h.toNat_start
  have := h.start_nonneg
  rw [hzero]
  omega

theorem size_ne_zero : w.size ≠ 0 := by
  intro hzero
  have hsize := h.toNat_size
  have := h.size_pos
  rw [hzero] at hsize
  simp at hsize
  omega

/-- No count of rows lies beyond a start that is cut off. -/
theorem le_start_iff (count : UInt64) : count ≤ w.start ↔ (count.toNat : Int) ≤ start := by
  have := h.toNat_start
  have := count.toNat_lt
  rw [UInt64.le_iff_toNat_le]
  omega

theorem start_le_half_iff (count : UInt64) :
    w.start ≤ count / 2 ↔ start ≤ (count.toNat : Int) / 2 := by
  have := h.toNat_start
  have := count.toNat_lt
  have htwo : (2 : UInt64).toNat = 2 := rfl
  rw [UInt64.le_iff_toNat_le, UInt64.toNat_div, htwo]
  omega

theorem toNat_sub {count : UInt64} (hlt : ¬count ≤ w.start) :
    ((count - w.start).toNat : Int) = count.toNat - start := by
  have hstart := (h.le_start_iff count).not.1 hlt
  have := h.toNat_start
  have := count.toNat_lt
  rw [UInt64.toNat_sub_of_le _ _ (UInt64.le_iff_toNat_le.2 (by omega))]
  omega

theorem toNat_take {count : UInt64} (hlt : ¬count ≤ w.start) :
    ((min w.size (count - w.start)).toNat : Int) = min size (count.toNat - start) := by
  have hsub := h.toNat_sub hlt
  have := h.toNat_size
  rw [toNat_min]
  omega

/-- The sum does not go past the number of rows, which is a word. -/
theorem toNat_start_add_take {count : UInt64} (hlt : ¬count ≤ w.start) :
    ((w.start + min w.size (count - w.start)).toNat : Int) =
      start + min size (count.toNat - start) := by
  have hstart := (h.le_start_iff count).not.1 hlt
  have htake := h.toNat_take hlt
  have := h.toNat_start
  have := count.toNat_lt
  rw [UInt64.toNat_add]
  omega

theorem toNat_start_of_le (hle : w.start.toNat ≤ 9223372036854775807) :
    (w.start.toNat : Int) = start := by
  have := h.toNat_start
  omega

theorem toNat_first_of_le (hle : (saturated (w.start.toNat + 1)).toNat ≤ 9223372036854775807) :
    ((saturated (w.start.toNat + 1)).toNat : Int) = start + 1 := by
  have := h.toNat_start
  rw [toNat_saturated] at hle ⊢
  omega

theorem toNat_last_of_le
    (hle : (saturated (w.start.toNat + w.size.toNat)).toNat ≤ 9223372036854775807) :
    ((saturated (w.start.toNat + w.size.toNat)).toNat : Int) = start + size := by
  have := h.toNat_start
  have := h.toNat_size
  rw [toNat_saturated] at hle ⊢
  omega

/-- Where each of its numbers has a literal, a page writes the exact numbers. -/
theorem words_eq_exact {d : Dialect} {count : Option UInt64}
    (hle : ∀ n ∈ (PageNumbers.words d w count).all, n.toNat ≤ 9223372036854775807) :
    let exact := PageNumbers.exact d start size (count.map fun n => (n.toNat : Int))
    (PageNumbers.words d w count).front.map (fun n => (n.toNat : Int)) = exact.front ∧
      (PageNumbers.words d w count).behind.map (fun n => (n.toNat : Int)) = exact.behind := by
  have hzero := h.start_eq_zero_iff
  have hsize := h.toNat_size
  by_cases hstart : w.start = 0
  · have hstart' := hzero.1 hstart
    cases d <;> simp [PageNumbers.words, PageNumbers.exact, hstart, hstart', hsize]
  have hstart' := hzero.not.1 hstart
  cases d with
  | access =>
    cases count with
    | none => simp [PageNumbers.words, PageNumbers.exact, hstart, hstart']
    | some n =>
      by_cases hpast : n ≤ w.start
      · have hpast' := (h.le_start_iff n).1 hpast
        simp [PageNumbers.words, PageNumbers.exact, hstart, hstart', hpast, hpast']
      have hpast' := (h.le_start_iff n).not.1 hpast
      have hnone : ¬(n ≤ w.start ∨ w.size = 0) := by simp [hpast, h.size_ne_zero]
      simp only [PageNumbers.words, PageNumbers.exact, Option.map_some, if_neg hstart,
        if_neg hstart', if_neg hnone, if_neg hpast', h.start_le_half_iff n]
      split <;>
        simp only [List.map_cons, List.map_nil, h.toNat_take hpast, h.toNat_start_add_take hpast,
          h.toNat_sub hpast, and_self]
  | sqlServer | oracle =>
    simp only [PageNumbers.words, PageNumbers.all, if_neg hstart] at hle ⊢
    have first := h.toNat_first_of_le (hle _ (by simp))
    have last := h.toNat_last_of_le (hle _ (by simp))
    simp [PageNumbers.exact, hstart', first, last]
  | mySql | sqlite | postgres =>
    simp only [PageNumbers.words, PageNumbers.all, if_neg hstart] at hle ⊢
    have position := h.toNat_start_of_le (hle _ (by simp))
    simp [PageNumbers.exact, hstart', hsize, position]

theorem integers_page {d : Dialect} {c : Clauses} {count : Option UInt64} {reversed : Bool}
    (hfault : ∀ e, Piece.fault e ∉ c.page d w count reversed) :
    let exact := PageNumbers.exact d start size (count.map fun n => (n.toNat : Int))
    (c.page d w count reversed).filterMap Piece.integer? =
        exact.front ++ c.takenOver Piece.integer? d w ++ exact.behind ∧
      ∀ n ∈ exact.all, n ≤ 9223372036854775807 := by
  intro exact
  have none : (c.page d w count reversed).filterMap Piece.fault? = [] :=
    List.eq_nil_iff_forall_not_mem.2 fun e he => hfault e (Document.mem_filterMap_fault?.1 he)
  rw [Clauses.filterMap_page Piece.skipsText_fault? hfault, List.append_eq_nil_iff,
    List.append_eq_nil_iff] at none
  have front := Clauses.toNat_le_of_written none.1.1
  have behind := Clauses.toNat_le_of_written none.2
  have literal : ∀ n ∈ (PageNumbers.words d w count).all, n.toNat ≤ 9223372036854775807 := by
    intro n hn
    exact (List.mem_append.1 hn).elim (front n) (behind n)
  obtain ⟨hfront, hbehind⟩ := h.words_eq_exact literal
  constructor
  · rw [Clauses.filterMap_page Piece.skipsText_integer? hfault, Clauses.written_integers front,
      Clauses.written_integers behind, hfront, hbehind]
  · intro n hn
    rw [PageNumbers.all, ← hfront, ← hbehind, ← List.map_append] at hn
    obtain ⟨word, hword, rfl⟩ := List.mem_map.1 hn
    have := literal word hword
    omega

end Window.Denotes

/-- A call that gives a query its pagination. -/
inductive PageCall
  | top (size : UInt64)
  | limit (offset size : UInt64)
  | page (size index : UInt64)
  | pageWithCount (size index recordCount : UInt64)

namespace PageCall

def apply (s : Select) : PageCall → Except Error Select
  | top size => s.top size
  | limit offset size => s.limit offset size
  | page size index => s.page size index
  | pageWithCount size index recordCount => s.pageWithCount size index recordCount

def start : PageCall → Int
  | top _ => 0
  | limit offset _ => offset.toNat
  | page size index | pageWithCount size index _ => (index.toNat - 1) * size.toNat

def size : PageCall → Int
  | top size | limit _ size | page size _ | pageWithCount size _ _ => size.toNat

def recordCount? : PageCall → Option UInt64
  | pageWithCount _ _ recordCount => some recordCount
  | top _ | limit _ _ | page _ _ => none

def pagination : PageCall → Pagination
  | top size => .top size
  | limit offset size => .limit offset size
  | page size index => .page size index
  | pageWithCount size index recordCount => .pageWithCount size index recordCount

/-- Pages have rows and are counted from one. -/
def Accepted : PageCall → Prop
  | top size | limit _ size => size ≠ 0
  | page size index | pageWithCount size index _ => size ≠ 0 ∧ index ≠ 0

theorem apply_eq_ok {call : PageCall} {s₀ s : Select} (h : call.apply s₀ = .ok s) :
    call.Accepted ∧ s = { s₀ with pagination := call.pagination } := by
  have sized {size : UInt64} {p : Pagination} (h : Except.map
      (fun pagination => { s₀ with pagination }) (if size = 0 then
        .error (Error.invalidPagination .emptySize) else .ok p) = .ok s) :
      size ≠ 0 ∧ s = { s₀ with pagination := p } := by
    split at h
    · contradiction
    · exact ⟨‹_›, (Except.ok.inj h).symm⟩
  have indexed {size index : UInt64} {p : Pagination} (h : Except.map
      (fun pagination => { s₀ with pagination }) (Except.bind (if size = 0 then
        .error (Error.invalidPagination .emptySize) else .ok p) fun p =>
        if index = 0 then .error (Error.invalidPagination .zeroIndex) else .ok p) = .ok s) :
      (size ≠ 0 ∧ index ≠ 0) ∧ s = { s₀ with pagination := p } := by
    by_cases hsize : size = 0
    · rw [if_pos hsize] at h
      contradiction
    · rw [if_neg hsize, Except.bind] at h
      split at h
      · contradiction
      · exact ⟨⟨hsize, ‹_›⟩, (Except.ok.inj h).symm⟩
  cases call with
  | top size => exact sized h
  | limit offset size => exact sized h
  | page size index => exact indexed h
  | pageWithCount size index recordCount => exact indexed h

theorem denotes_pageStart {size index : UInt64} (hsize : 0 < size.toNat)
    (hindex : 0 < index.toNat) :
    Window.Denotes ⟨Pagination.pageStart size index, size⟩
      ((index.toNat - 1) * size.toNat) size.toNat := by
  have hcast : ((index.toNat : Int) - 1) * size.toNat =
      (((index.toNat - 1) * size.toNat : Nat) : Int) := by
    rw [Int.natCast_mul, Int.natCast_sub hindex]
    rfl
  rw [hcast]
  refine ⟨by omega, by omega, ?_, rfl⟩
  simp only [Pagination.pageStart, toNat_saturated]
  omega

/-- A call that is accepted gives a window of exactly as many rows as it asks for, from its first
row on as far as that is a word. -/
theorem denotes_of_apply {call : PageCall} {s₀ s : Select} (h : call.apply s₀ = .ok s) :
    ∃ w, s.pagination.window? = some w ∧ s.pagination.recordCount? = call.recordCount? ∧
      w.Denotes call.start call.size := by
  obtain ⟨haccepted, rfl⟩ := apply_eq_ok h
  have positive {n : UInt64} (hn : n ≠ 0) : 0 < n.toNat := by
    rcases Nat.eq_zero_or_pos n.toNat with hzero | hpos
    · exact absurd (UInt64.toNat_inj.1 hzero) hn
    · exact hpos
  have first {start size : UInt64} (hsize : size ≠ 0) :
      Window.Denotes ⟨start, size⟩ start.toNat size.toNat := by
    have hword := start.toNat_lt
    have hsize' := positive hsize
    exact ⟨by omega, by omega, by dsimp only; omega, rfl⟩
  cases call with
  | top size => exact ⟨_, rfl, rfl, first haccepted⟩
  | limit offset size => exact ⟨_, rfl, rfl, first haccepted⟩
  | page size index =>
    exact ⟨_, rfl, rfl, denotes_pageStart (positive haccepted.1) (positive haccepted.2)⟩
  | pageWithCount size index recordCount =>
    exact ⟨_, rfl, rfl, denotes_pageStart (positive haccepted.1) (positive haccepted.2)⟩

end PageCall

namespace RootStatement

/-- The numbers of a page are exact or there is no page. The tests by which a page is found from
the nearer end hold for the exact start when they hold for the start as a word, and neither the
difference nor the sum of words behind them wraps around. -/
theorem page_numbers_exact {call : PageCall} {s₀ s : Select} (h : call.apply s₀ = .ok s)
    (recordCount : Option UInt64) (reversed : Bool) :
    let numbers := PageNumbers.exact s.dialect call.start call.size
      ((recordCount <|> call.recordCount?).map fun n => (n.toNat : Int))
    ∃ w, s.pagination.window? = some w ∧ (w.size.toNat : Int) = call.size ∧
      (∀ tokens ps, (select s recordCount reversed).output = .ok (tokens, ps) →
        Token.integers tokens = numbers.front ++
          (s.clauses s.dialect).takenOver Piece.integer? s.dialect w ++ numbers.behind) ∧
      (∀ n ∈ numbers.all, 9223372036854775807 < n →
        ∃ e, (select s recordCount reversed).output = .error e) ∧
      ∀ count : UInt64,
        (w.start = 0 ↔ call.start = 0) ∧
        (count ≤ w.start ↔ (count.toNat : Int) ≤ call.start) ∧
        (w.start ≤ count / 2 ↔ call.start ≤ (count.toNat : Int) / 2) ∧
        (¬count ≤ w.start →
          ((count - w.start).toNat : Int) = count.toNat - call.start ∧
          ((w.start + min w.size (count - w.start)).toNat : Int) =
            call.start + min call.size (count.toNat - call.start)) := by
  intro numbers
  obtain ⟨w, hwindow, hcount, hw⟩ := PageCall.denotes_of_apply h
  have hpage : s.rootDocument recordCount reversed = (s.clauses s.dialect).page s.dialect w
      (recordCount <|> call.recordCount?) reversed := by
    rw [Select.rootDocument, Clauses.paginated, hwindow, ← hcount]
  have rendered {tokens : List Token} {b : Binder}
      (hfill : (s.rootDocument recordCount reversed).fill {} = .ok (tokens, b)) :
      Token.integers tokens = numbers.front ++
          (s.clauses s.dialect).takenOver Piece.integer? s.dialect w ++ numbers.behind ∧
        ∀ n ∈ numbers.all, n ≤ 9223372036854775807 := by
    rw [hpage] at hfill
    have hfault := Document.no_fault_of_fill hfill
    obtain ⟨hintegers, hliteral⟩ := hw.integers_page hfault
    exact ⟨(Document.integers_of_fill hfill).trans hintegers, hliteral⟩
  refine ⟨w, hwindow, hw.toNat_size, ?_, ?_, ?_⟩
  · intro tokens ps hout
    obtain ⟨b, hfill, -⟩ := output_eq_ok.1 hout
    exact (rendered hfill).1
  · intro n hn hlarge
    cases hout : (select s recordCount reversed).output with
    | error e => exact ⟨e, rfl⟩
    | ok x =>
      obtain ⟨b, hfill, -⟩ := output_eq_ok.1 hout
      have := (rendered hfill).2 n hn
      omega
  · intro count
    refine ⟨hw.start_eq_zero_iff, hw.le_start_iff count, hw.start_le_half_iff count, ?_⟩
    intro hlt
    exact ⟨hw.toNat_sub hlt, hw.toNat_start_add_take hlt⟩

/-- The second page of four rows out of nine, read from a source that has a page of its own; and
a page that begins past the last word, for which there is no literal. -/
theorem page_numbers_exact_second :
    let s₀ : Select :=
      { dialect := .access
        source := .query { dialect := .mySql, source := .table "u", pagination := .top 7 }
        sourceAlias := some "t"
        fields := [.column "a"]
        order := [.descending "a"] }
    let s : Select := { s₀ with pagination := .page 4 2 }
    let far : Select :=
      { s₀ with dialect := .mySql, pagination := .page 18446744073709551615 3 }
    (∃ tokens ps, (select s (some 9) false).output = .ok (tokens, ps) ∧
      Token.integers tokens = [4, 8, 7]) ∧
    ∃ e, (select far none false).output = .error e := by
  intro s₀ s far
  constructor
  · have paged : (PageCall.page 4 2).apply s₀ = .ok s := rfl
    have rendered : ∃ tokens ps, (select s (some 9) false).output = .ok (tokens, ps) := by
      simp only [s, s₀]
      exact ⟨_, _, rfl⟩
    obtain ⟨tokens, ps, hout⟩ := rendered
    obtain ⟨w, hwindow, -, hintegers, -⟩ := page_numbers_exact paged (some 9) false
    obtain rfl : Window.mk 4 4 = w := Option.some.inj hwindow
    have taken : (s.clauses s.dialect).takenOver Piece.integer? s.dialect ⟨4, 4⟩ = [7] := by
      simp only [s, s₀]
      decide +kernel
    have hpage := hintegers tokens ps hout
    rw [taken] at hpage
    exact ⟨tokens, ps, hout, hpage⟩
  · have paged : (PageCall.page 18446744073709551615 3).apply { s₀ with dialect := .mySql } =
        .ok far := rfl
    obtain ⟨w, -, -, -, hlarge, -⟩ := page_numbers_exact paged none false
    exact hlarge 36893488147419103230 (by decide) (by decide)

end RootStatement

end ParamSql
