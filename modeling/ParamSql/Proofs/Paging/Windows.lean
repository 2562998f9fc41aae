import ParamSql.Proofs.Paging.Plan
import ParamSql.Proofs.Paging.PlanText

/-!
# Every dialect pages the same rows

Whatever way a dialect pages through a query, a page that is rendered, read as it stands, answers
the rows of its window, cut out of the list of all rows in the order asked for, as long as that
order leaves no ties.
-/

namespace ParamSql

open Document SelectText

theorem Select.told (s : Select) (d : Dialect) : (s.clauses d).Told where
  readOver := s.readOver d
  begins := by
    rw [s.clauses_fields d]
    intro f hf
    obtain ⟨f, -, rfl⟩ := List.mem_map.1 hf
    exact f.begins d

variable {σ ρ : Type*} [DecidableEq ρ] {s : Select} {r : RowReading s σ ρ} {d : Dialect}
  {reversed : Bool} {R : List ρ}

namespace RowReading

variable (r d) in
def Shows (text : Document) (L : List ρ) : Prop :=
  ∃ plan, text.Plans (s.clauses d).ownText plan ∧ plan.Gives r L

theorem answers_iff {text : Document} {plan : RowPlan} {L : List ρ}
    (h : text.Plans (s.clauses d).ownText plan)
    (hplan : ∀ answer, (∃ rows, plan.Yields r rows ∧ rows.map Prod.fst = answer) ↔ answer = L)
    (answer : List ρ) : r.Answers d text answer ↔ answer = L := by
  rw [← hplan]
  constructor
  · rintro ⟨plan', hread, hyields⟩
    rw [h.read] at hread
    obtain rfl := Option.some.inj hread
    exact hyields
  · exact fun hyields => ⟨plan, h.read, hyields⟩

theorem Shows.answers {text : Document} {L : List ρ} (h : r.Shows d text L) (answer : List ρ) :
    r.Answers d text answer ↔ answer = L := by
  obtain ⟨plan, htext, hgives⟩ := h
  exact answers_iff htext hgives.answers answer

theorem shows_base (h : r.Lists d reversed R) :
    r.Shows d ((s.clauses d).base { reversed }) R := by
  have plan : ((s.clauses d).base { reversed }).Plans (s.clauses d).ownText
      (.own false ⟨(s.clauses d).distinct, none, (s.clauses d).ownKeys reversed, none, none⟩) :=
    (s.told d).plans_plain rfl fits_none
  rw [s.clauses_distinct d] at plan
  exact ⟨_, plan, RowPlan.gives_own h.ranked h.1.symm none none⟩

theorem toNat_le_of_topRows {c : Clauses} {size : UInt64}
    (h : ∀ e, Piece.fault e ∉ c.topRows size reversed) : size.toNat ≤ 9223372036854775807 :=
  toNat_le_of_rowCount fun e he => h e (by simp [Clauses.topRows, Clauses.base, he])

theorem shows_topRows {L : List ρ} (hL : Ranked (r.order d reversed) L)
    (hperm : (r.rows false).Perm L) {size : UInt64} (hsize : size.toNat ≤ 9223372036854775807) :
    r.Shows d ((s.clauses d).topRows size reversed) (L.take size.toNat) := by
  have plan : ((s.clauses d).topRows size reversed).Plans (s.clauses d).ownText
      (.own false ⟨(s.clauses d).distinct, none, (s.clauses d).ownKeys reversed,
        some size.toNat, none⟩) :=
    (s.told d).plans_plain rfl (fits_some hsize)
  rw [s.clauses_distinct d] at plan
  exact ⟨_, plan, RowPlan.gives_own hL hperm (some size.toNat) none⟩

theorem shows_noRows (h : r.select [] = []) :
    r.Shows d ((s.clauses d).noRows reversed) [] := by
  have plan : ((s.clauses d).noRows reversed).Plans (s.clauses d).ownText
      (.own true ⟨(s.clauses d).distinct, none, (s.clauses d).ownKeys reversed, none, none⟩) :=
    (s.told d).plans_plain rfl fits_none
  rw [s.clauses_distinct d] at plan
  have empty : r.rows true = [] := by simp [RowReading.rows, RowReading.selected, h]
  have ranked : Ranked (r.order d reversed) ([] : List ρ) := .nil
  exact ⟨_, plan, RowPlan.gives_own ranked (.of_eq empty) none none⟩

theorem shows_limited (h : r.Lists d reversed R) {text : Document} {start size : Nat}
    (plan : text.Plans (s.clauses d).ownText
      (.own false ⟨(s.clauses d).distinct, none, (s.clauses d).ownKeys reversed, none,
        some (start, size)⟩)) :
    r.Shows d text ((R.drop start).take size) := by
  rw [s.clauses_distinct d] at plan
  exact ⟨_, plan, RowPlan.gives_own h.ranked h.1.symm none (some (start, size))⟩

theorem shows_limitPage (h : r.Lists d reversed R) {w : Window}
    (hfault : ∀ e, Piece.fault e ∉ (s.clauses d).limitPage w reversed) :
    r.Shows d ((s.clauses d).limitPage w reversed)
      ((R.drop w.start.toNat).take w.size.toNat) := by
  have size : w.size.toNat ≤ 9223372036854775807 :=
    toNat_le_of_rowCount fun e he => hfault e (by simp [Clauses.limitPage, he])
  have start : w.start.toNat ≤ 9223372036854775807 := by
    by_cases hfirst : w.start = 0
    · simp [hfirst]
    · exact toNat_le_of_rowCount fun e he => hfault e (by simp [Clauses.limitPage, hfirst, he])
  exact shows_limited h ((s.told d).plans_limitPage start size)

theorem shows_limitOffsetPage (h : r.Lists d reversed R) {w : Window}
    (hfault : ∀ e, Piece.fault e ∉ (s.clauses d).limitOffsetPage w reversed) :
    r.Shows d ((s.clauses d).limitOffsetPage w reversed)
      ((R.drop w.start.toNat).take w.size.toNat) := by
  rw [Clauses.limitOffsetPage, List.append_assoc, space_append_limitOffset] at hfault
  have size : w.size.toNat ≤ 9223372036854775807 :=
    toNat_le_of_rowCount fun e he => hfault e (by simp [he])
  have start : w.start.toNat ≤ 9223372036854775807 := by
    by_cases hfirst : w.start = 0
    · simp [hfirst]
    · exact toNat_le_of_rowCount fun e he => hfault e (by simp [hfirst, he])
  exact shows_limited h ((s.told d).plans_limitOffsetPage start size)

theorem toNat_rowNumberRange (column : String) {w : Window}
    (h : ∀ e, Piece.fault e ∉ rowNumberRange column w) :
    (saturated (w.start.toNat + 1)).toNat = w.start.toNat + 1 ∧
      (saturated (w.start.toNat + w.size.toNat)).toNat = w.start.toNat + w.size.toNat := by
  constructor
  · exact toNat_saturated_of_rowCount fun e he => h e (by simp [rowNumberRange, he])
  · exact toNat_saturated_of_rowCount fun e he => h e (by simp [rowNumberRange, he])

theorem kept?_rowNumberRange {column : String} {w : Window}
    (h : ∀ e, Piece.fault e ∉ rowNumberRange column w) :
    ∃ filter : Document, rowNumberRange column w = clause .WHERE ++ filter ∧
      Document.ReadOver 1 filter ∧
      filter.kept? (some column) =
        some (.between (w.start.toNat + 1) (w.start.toNat + w.size.toNat)) := by
  let first := rowCount (saturated (w.start.toNat + 1))
  let last := rowCount (saturated (w.start.toNat + w.size.toNat))
  refine ⟨identifier column ++ clause .BETWEEN ++ first ++ clause .AND ++ last, ?_, ?_, ?_⟩
  · simp [rowNumberRange, first, last]
  · exact ((((Document.ReadOver.identifier _).append (.clause rfl)).append
      (.rowCount _)).append (.clause rfl)).append (.rowCount _)
  · obtain ⟨hfirst, hlast⟩ := toNat_rowNumberRange column h
    have fitsFirst : (saturated (w.start.toNat + 1)).toNat ≤ 9223372036854775807 :=
      toNat_le_of_rowCount fun e he => h e (by simp [rowNumberRange, he])
    have fitsLast : (saturated (w.start.toNat + w.size.toNat)).toNat ≤ 9223372036854775807 :=
      toNat_le_of_rowCount fun e he => h e (by simp [rowNumberRange, he])
    have text : identifier column ++ clause .BETWEEN ++ first ++ clause .AND ++ last =
        [.token (.identifier column), .token .space, .token (.keyword .BETWEEN), .token .space,
          .token (.integer (w.start.toNat + 1 : Nat)), .token .space, .token (.keyword .AND),
          .token .space, .token (.integer (w.start.toNat + w.size.toNat : Nat))] := by
      simp only [first, last, rowCount_eq fitsFirst, rowCount_eq fitsLast, hfirst, hlast]
      rfl
    rw [text, Document.kept?, if_pos rfl]
    rfl

theorem answers_countedPage (h : r.Lists d reversed R) {w : Window}
    (hfault : ∀ e, Piece.fault e ∉ (s.clauses d).countedPage d w reversed) (rows : List ρ) :
    r.Answers d ((s.clauses d).countedPage d w reversed) rows ↔
      rows = (R.drop w.start.toNat).take w.size.toNat := by
  unfold Clauses.countedPage at hfault ⊢
  by_cases hstart : w.start = 0
  · rw [if_pos hstart] at hfault ⊢
    obtain ⟨plan, htext, hgives⟩ := shows_base h
    have hsize : w.size.toNat ≤ 9223372036854775807 :=
      toNat_le_of_rowCount fun e he => hfault e (List.mem_append_right _ he)
    let filter : Document := raw "ROWNUM" ++ space ++ [.token (.mark .lessOrEqual)] ++ space ++
      rowCount w.size
    have readOver : Document.ReadOver 1 filter :=
      ((((Document.ReadOver.raw _).append .space).append (.mark (by decide))).append
        .space).append (.rowCount _)
    have kept : filter.kept? plan.label = some (.first w.size.toNat) := by
      simp only [filter, rowCount_eq hsize]
      rfl
    have first := plans_allFrom d htext fits_none none readOver.ofSome .unsorted kept
    simp only [filter, Option.elim, orderBy, List.append_nil, ← List.append_assoc] at first
    rw [hstart]
    exact answers_iff first (hgives.firstRows w.size.toNat).answers rows
  · rw [if_neg hstart] at hfault ⊢
    have numbered := (s.told d).plans_counted reversed
    have written : ∀ e, Piece.fault e ∉ rowNumberRange Clauses.rowNumberColumn w :=
      fun e he => hfault e (List.mem_append_right _ he)
    obtain ⟨filter, hrange, readOver, kept⟩ := kept?_rowNumberRange written
    have page := plans_allFrom d numbered fits_none none readOver.ofSome .unsorted kept
    rw [s.clauses_distinct d] at page
    rw [hrange]
    simp only [Option.elim, orderBy, List.append_nil] at page
    have base := RowPlan.gives_own h.ranked h.1.symm none none
    exact answers_iff page (base.counted Clauses.rowNumberColumn w.start.toNat w.size.toNat) rows

/-- Rows numbered within the query when they are not distinct, around it otherwise. -/
theorem numberedRows_gives (h : r.Lists d reversed R) (hnames : r.NamesDenote d R)
    (hfault : ∀ e, Piece.fault e ∉ (s.clauses d).numberedRows d reversed) :
    ∃ plan, ((s.clauses d).numberedRows d reversed).Plans (s.clauses d).ownText plan ∧
      plan.GivesNumbered r Clauses.rowNumberColumn R := by
  unfold Clauses.numberedRows at hfault ⊢
  by_cases hwrapped : (s.clauses d).distinct ∨ (s.clauses d).grouping ≠ []
  · rw [if_pos hwrapped] at hfault ⊢
    unfold Clauses.outerOrderList at hfault ⊢
    cases hkeys : (s.clauses d).outerKeys with
    | error e =>
      rw [hkeys] at hfault
      exact absurd List.mem_cons_self (hfault e)
    | ok keys =>
      have plan := (s.told d).plans_rankedAround d reversed keys
      rw [s.clauses_distinct d] at plan
      have unsorted : RowPlan.GivesUnsorted r _ (r.rows false) := RowPlan.givesUnsorted_own
      exact ⟨_, plan, unsorted.numbered (h.outer_ranked hkeys hnames) h.1.symm _⟩
  · rw [if_neg hwrapped]
    have hdistinct : s.distinct = false := by
      rw [← s.clauses_distinct d]
      simpa using fun hd => hwrapped (.inl hd)
    have plan := (s.told d).plans_ranked reversed
    rw [s.clauses_distinct d, hdistinct] at plan
    exact ⟨_, plan, RowPlan.givesNumbered_own h.ranked h.1.symm hdistinct _⟩

theorem answers_rankedPage (h : r.Lists d reversed R) (hnames : r.NamesDenote d R) {w : Window}
    (hfault : ∀ e, Piece.fault e ∉ (s.clauses d).rankedPage d w reversed) (rows : List ρ) :
    r.Answers d ((s.clauses d).rankedPage d w reversed) rows ↔
      rows = (R.drop w.start.toNat).take w.size.toNat := by
  unfold Clauses.rankedPage at hfault ⊢
  by_cases hstart : w.start = 0
  · rw [if_pos hstart] at hfault ⊢
    rw [hstart]
    have hsize := toNat_le_of_topRows hfault
    exact (shows_topRows h.ranked h.1.symm hsize).answers rows
  · rw [if_neg hstart] at hfault ⊢
    obtain ⟨plan, htext, hgives⟩ := numberedRows_gives h hnames fun e he =>
      hfault e (by simp [selectAllFrom, parenthesized, he])
    have written : ∀ e, Piece.fault e ∉ rowNumberRange Clauses.rowNumberColumn w :=
      fun e he => hfault e (by simp [he])
    obtain ⟨filter, hrange, readOver, kept⟩ := kept?_rowNumberRange written
    have order : ReadsAs (some (identifier Clauses.rowNumberColumn))
        [(identifier Clauses.rowNumberColumn, .ascending)] := by
      refine ⟨?_, rfl⟩
      rintro - ⟨⟩
      exact .identifier _
    rw [← hgives.1] at kept
    have page := plans_allFrom d htext fits_none (some Clauses.numberedTable) readOver.ofSome order
      kept
    rw [hrange]
    simp only [Option.elim, orderBy] at page
    simp only [List.append_assoc] at page ⊢
    exact answers_iff page (hgives.between w.start.toNat w.size.toNat) rows

/-- Everything of another statement, or its first rows, sorted by names. -/
theorem Shows.resorted {text : Document} {l L : List ρ} (h : r.Shows d text l)
    {keys : List (String × Direction)} (hL : Ranked (r.outerOrder keys reversed) L)
    (hperm : l.Perm L) {top : Option UInt64} (htop : ∀ n ∈ top, n.toNat ≤ 9223372036854775807)
    (name : String) :
    r.Shows d
      (selectAllFrom d text top (some name) ++ orderBy (Clauses.outerEntries keys reversed))
      (firstOf top L) := by
  obtain ⟨plan, htext, hgives⟩ := h
  have page := plans_allFrom d htext htop (some name) .ofNone (readsAs_outerEntries keys reversed)
    rfl
  have cut : Layer.cut ⟨false, none, nameKeys keys reversed, top.map UInt64.toNat, none⟩ L =
      firstOf top L := by
    cases top <;> rfl
  rw [← cut]
  simp only [Option.elim, List.append_nil] at page
  exact ⟨_, page, hgives.resorted hL hperm _⟩

variable {keys : List (String × Direction)}

theorem toNat_le_of_selectAllFrom {inner behind : Document} {top : Option UInt64}
    {name : Option String} (h : ∀ e, Piece.fault e ∉ selectAllFrom d inner top name ++ behind) :
    (∀ n ∈ top, n.toNat ≤ 9223372036854775807) ∧ ∀ e, Piece.fault e ∉ inner := by
  constructor
  · rintro n rfl
    exact toNat_le_of_rowCount fun e he => h e (by simp [selectAllFrom, he])
  · exact fun e he => h e (by simp [selectAllFrom, parenthesized, he])

/-- The first `start + take` rows, the last `take` of them from the far end, and these sorted
forward again. -/
theorem shows_frontPage (h : r.Lists d reversed R) (hkeys : (s.clauses d).outerKeys = .ok keys)
    (hnames : r.NamesDenote d R) {start take : UInt64}
    (hsum : (start + take).toNat = start.toNat + take.toNat)
    (hlength : start.toNat + take.toNat ≤ R.length)
    (hfault : ∀ e, Piece.fault e ∉ (s.clauses d).frontPage d keys start take reversed) :
    r.Shows d ((s.clauses d).frontPage d keys start take reversed)
      ((R.drop start.toNat).take take.toNat) := by
  obtain ⟨houter, htail⟩ := toNat_le_of_selectAllFrom hfault
  obtain ⟨htake, hhead⟩ := toNat_le_of_selectAllFrom htail
  have outer := h.outer_ranked hkeys hnames
  have head := shows_topRows h.ranked h.1.symm (toNat_le_of_topRows hhead)
  -- Turned around, the rows of the page come first.
  have backward := (outer.sublist (R.take_sublist (start + take).toNat)).reverse
    (outerOrder_not keys)
  have tail := head.resorted backward (List.reverse_perm _).symm htake Clauses.innerPage
  have window : firstOf (some take) (R.take (start + take).toNat).reverse =
      ((R.drop start.toNat).take take.toNat).reverse := by
    have hskipped : start.toNat + take.toNat - take.toNat = start.toNat := by omega
    rw [firstOf, List.take_reverse, List.length_take, hsum, Nat.min_eq_left hlength, hskipped,
      List.drop_take, Nat.add_sub_cancel_left]
  have forward := outer.sublist
    (((R.drop start.toNat).take_sublist take.toNat).trans (R.drop_sublist start.toNat))
  exact tail.resorted forward (window ▸ List.reverse_perm _) houter Clauses.outerPage

/-- The last `remaining` rows from the far end, and the first `take` of them sorted forward. -/
theorem shows_backPage (h : r.Lists d reversed R) (hkeys : (s.clauses d).outerKeys = .ok keys)
    (hnames : r.NamesDenote d R) {remaining : UInt64} {start : Nat}
    (hremaining : remaining.toNat = R.length - start) (hstart : start ≤ R.length) {take : UInt64}
    (hfault : ∀ e, Piece.fault e ∉ (s.clauses d).backPage d keys remaining take reversed) :
    r.Shows d ((s.clauses d).backPage d keys remaining take reversed)
      ((R.drop start).take take.toNat) := by
  obtain ⟨htake, hrest⟩ := toNat_le_of_selectAllFrom hfault
  have rest := shows_topRows h.ranked_reverse (h.1.symm.trans (List.reverse_perm R).symm)
    (toNat_le_of_topRows hrest)
  have window : R.reverse.take remaining.toNat = (R.drop start).reverse := by
    have hskipped : R.length - (R.length - start) = start := by omega
    rw [List.take_reverse, hremaining, hskipped]
  have forward := (h.outer_ranked hkeys hnames).sublist (R.drop_sublist start)
  exact rest.resorted forward (window ▸ List.reverse_perm _) htake Clauses.innerPage

theorem shows_deepPage (h : r.Lists d reversed R) (hkeys : (s.clauses d).outerKeys = .ok keys)
    (hnames : r.NamesDenote d R) {count start size remaining take : UInt64}
    (hlength : count.toNat = R.length) (hstart : start.toNat < R.length)
    (hremaining : remaining.toNat = R.length - start.toNat)
    (htake : take.toNat = min size.toNat remaining.toNat)
    (hfault : ∀ e, Piece.fault e ∉
      if start ≤ count / 2 then
        Clauses.guardedBy (start + take) ((s.clauses d).frontPage d keys start take reversed)
      else
        Clauses.guardedBy remaining ((s.clauses d).backPage d keys remaining take reversed)) :
    r.Shows d
      (if start ≤ count / 2 then
        Clauses.guardedBy (start + take) ((s.clauses d).frontPage d keys start take reversed)
      else
        Clauses.guardedBy remaining ((s.clauses d).backPage d keys remaining take reversed))
      ((R.drop start.toNat).take size.toNat) := by
  have window : (R.drop start.toNat).take size.toNat = (R.drop start.toNat).take take.toNat := by
    rw [htake, List.take_eq_take_iff, List.length_drop]
    omega
  have hlast : start.toNat + take.toNat ≤ R.length := by omega
  rw [window]
  by_cases hhalf : start ≤ count / 2
  · rw [if_pos hhalf] at hfault ⊢
    have hguarded := Clauses.guardedBy_eq hfault
    rw [hguarded] at hfault ⊢
    have hsum : (start + take).toNat = start.toNat + take.toNat := by
      have hword := count.toNat_lt
      rw [UInt64.toNat_add]
      omega
    exact shows_frontPage h hkeys hnames hsum hlast hfault
  · rw [if_neg hhalf] at hfault ⊢
    have hguarded := Clauses.guardedBy_eq hfault
    rw [hguarded] at hfault ⊢
    exact shows_backPage h hkeys hnames hremaining (Nat.le_of_lt hstart) hfault

theorem shows_countDependentPage (h : r.Lists d reversed R) (hnames : r.NamesDenote d R)
    (hnil : r.select [] = []) {w : Window} {recordCount : Option UInt64}
    (hcount : ∀ count, recordCount = some count → count.toNat = R.length)
    (hfault : ∀ e, Piece.fault e ∉
      (s.clauses d).countDependentPage d w recordCount reversed) :
    r.Shows d ((s.clauses d).countDependentPage d w recordCount reversed)
      ((R.drop w.start.toNat).take w.size.toNat) := by
  unfold Clauses.countDependentPage at hfault ⊢
  by_cases hstart : w.start = 0
  · rw [if_pos hstart] at hfault ⊢
    rw [hstart]
    exact shows_topRows h.ranked h.1.symm (toNat_le_of_topRows hfault)
  rw [if_neg hstart] at hfault ⊢
  cases recordCount with
  | none => exact absurd List.mem_cons_self (hfault _)
  | some count =>
    have hlength := hcount count rfl
    by_cases hnone : count ≤ w.start ∨ w.size = 0
    · simp only [if_pos hnone]
      have hempty : (R.drop w.start.toNat).take w.size.toNat = [] := by
        rcases hnone with hpast | hsize
        · rw [UInt64.le_iff_toNat_le] at hpast
          rw [List.drop_eq_nil_of_le (by omega), List.take_nil]
        · rw [hsize]
          exact List.take_zero
      rw [hempty]
      exact shows_noRows hnil
    simp only [if_neg hnone] at hfault ⊢
    by_cases horder : (s.clauses d).order = []
    · simp only [if_pos horder] at hfault
      exact absurd List.mem_cons_self (hfault _)
    simp only [if_neg horder] at hfault ⊢
    cases hkeys : (s.clauses d).outerKeys with
    | error e =>
      simp only [hkeys] at hfault
      exact absurd List.mem_cons_self (hfault e)
    | ok keys =>
      simp only [hkeys] at hfault ⊢
      have hbefore : w.start.toNat < count.toNat := by
        rcases Nat.lt_or_ge w.start.toNat count.toNat with hlt | hge
        · exact hlt
        · exact absurd (.inl (UInt64.le_iff_toNat_le.2 hge)) hnone
      have hremaining : (count - w.start).toNat = R.length - w.start.toNat := by
        rw [UInt64.toNat_sub_of_le _ _ (UInt64.le_iff_toNat_le.2 (Nat.le_of_lt hbefore)), hlength]
      exact shows_deepPage h hkeys hnames hlength (hlength ▸ hbefore) hremaining
        (toNat_min w.size _) hfault

end RowReading

namespace Select

/-- A page that is rendered answers the rows of its window and no others, out of those that the
query answers without paging. -/
theorem paginated_answers_window {s : Select} {d : Dialect} {recordCount : Option UInt64}
    {reversed : Bool} {w : Window} (hw : s.pagination.window? = some w) {b : Binder}
    {x : List Token × Binder}
    (hfill : ((s.clauses d).paginated d s.pagination recordCount reversed).fill b = .ok x)
    (hplain : s.grouping ≠ [] ∨ ∀ f ∈ s.fields, f.aggregate = none)
    {σ ρ : Type*} [DecidableEq ρ] (r : RowReading s σ ρ) {R : List ρ}
    (h : r.Lists d reversed R) (hnames : r.NamesDenote d R)
    (hcount : d = .access → ∀ count, (recordCount <|> s.pagination.recordCount?) = some count →
      count.toNat = R.length) :
    (∀ rows, r.Answers d ((s.clauses d).paginated d s.pagination recordCount reversed) rows ↔
      rows = (R.drop w.start.toNat).take w.size.toNat) ∧
    ∀ rows, r.Answers d ((s.clauses d).paginated d .unbounded recordCount reversed) rows ↔
      rows = R := by
  have hpage : (s.clauses d).paginated d s.pagination recordCount reversed =
      (s.clauses d).page d w (recordCount <|> s.pagination.recordCount?) reversed := by
    unfold Clauses.paginated
    rw [hw]
  rw [hpage] at hfill ⊢
  refine ⟨fun rows => ?_, (RowReading.shows_base h).answers⟩
  have hfault := no_fault_of_fill hfill
  cases d with
  | access =>
    exact (RowReading.shows_countDependentPage h hnames (r.select_nil hplain) (hcount rfl)
      hfault).answers rows
  | sqlServer => exact RowReading.answers_rankedPage h hnames hfault rows
  | mySql => exact (RowReading.shows_limitPage h hfault).answers rows
  | sqlite => exact (RowReading.shows_limitOffsetPage h hfault).answers rows
  | postgres => exact (RowReading.shows_limitOffsetPage h hfault).answers rows
  | oracle => exact RowReading.answers_countedPage h hfault rows

/-- The last page of five rows, which is not full, found from the far end. -/
theorem paginated_answers_window_last :
    let s : Select :=
      { dialect := .access
        source := .table "t"
        fields := [.column "a"]
        order := [⟨.column "a", .descending⟩]
        pagination := .limit 3 4 }
    let r : RowReading s Nat Nat :=
      { source := [4, 1, 5, 2, 3]
        select := id
        byExpression := fun _ => compare
        byName := fun _ => compare
        byExpression_swap := fun _ a b => (Nat.compare_swap a b).symm
        select_nil := fun _ => rfl }
    (∀ rows, r.Answers .access (s.rootDocument (some 5) true) rows ↔ rows = [4, 5]) ∧
      ∀ rows, r.Answers .access ((s.clauses .access).paginated .access .unbounded (some 5) true)
        rows ↔ rows = [1, 2, 3, 4, 5] := by
  intro s r
  have rendered : ∃ x, (s.rootDocument (some 5) true).fill {} = .ok x := by
    simp only [s]
    exact ⟨_, rfl⟩
  have listed : r.Lists .access true [1, 2, 3, 4, 5] := by
    constructor
    · decide
    · decide
  obtain ⟨x, hfill⟩ := rendered
  refine paginated_answers_window (R := [1, 2, 3, 4, 5]) (w := ⟨3, 4⟩) rfl hfill ?_ r listed ?_ ?_
  · exact .inr (by decide)
  · exact fun _ _ _ _ _ _ _ _ => rfl
  · rintro - count h
    obtain rfl : 5 = count := Option.some.inj h
    rfl

end Select

end ParamSql
