import ParamSql.Proofs.Paging.Plan

/-!
# Every rendered page is a plan

Whatever the clauses are that a page is made from, a page that is rendered is
the document of a plan. What holds of the documents of all plans, by induction
on the plan, thus holds of every page.
-/

namespace ParamSql

open Document

def Numbering.names : Numbering → List String
  | outside keys _ => keys.map Prod.fst
  | inline _ | counted _ => []

namespace PagePlan

/-- Limits stand behind the query itself, and behind nothing else. -/
def LimitsBase : PagePlan → Prop
  | limit _ inner _ _ => ∃ reversed, inner = base reversed none false
  | firstRows inner _ => inner.LimitsBase
  | resorted inner _ _ _ _ => inner.LimitsBase
  | base _ _ _ | between _ _ _ _ _ => True

/-- Names that a plan gives to its queries, and names by which it sorts. -/
def names : PagePlan → List String
  | base _ _ _ => []
  | limit _ inner _ _ => inner.names
  | firstRows inner _ => inner.names
  | resorted inner _ name keys _ => inner.names ++ name :: keys.map Prod.fst
  | between numbering name _ _ _ => numbering.names ++ name.toList

/-- Names of the queries that a page is cut out of. -/
def fixedNames : List String := [Clauses.innerPage, Clauses.outerPage, Clauses.numberedTable]

/-- A plan for a document. Its names are fixed, and those that sort keys have
outside their query where the plan `sorts` by them. -/
def Forms (d : Dialect) (c : Clauses) (sorts : Prop) (page : Document) : Prop :=
  ∃ plan : PagePlan, plan.LimitsBase ∧
    (∀ name ∈ plan.names, name ∈ fixedNames ∨ sorts ∧ name ∈ c.order.filterMap (·.outputName)) ∧
    plan.document d c = page

variable {d : Dialect} {c : Clauses} {sorts : Prop}

theorem Forms.imp_sorts {page : Document} {sorts' : Prop} (h : Forms d c sorts page)
    (hsorts : sorts → sorts') : Forms d c sorts' page := by
  obtain ⟨plan, hlimits, hnames, hplan⟩ := h
  refine ⟨plan, hlimits, ?_, hplan⟩
  intro name hname
  rcases hnames name hname with hfixed | ⟨hsort, hmem⟩
  · exact .inl hfixed
  · exact .inr ⟨hsorts hsort, hmem⟩

theorem forms_base (reversed : Bool) (top : Option UInt64) (alwaysEmpty : Bool) :
    Forms d c sorts (c.base { reversed, top, alwaysEmpty }) :=
  ⟨base reversed top alwaysEmpty, trivial, nofun, rfl⟩

theorem mem_outputNames_of_outerKeys {keys : List (String × Direction)}
    (h : c.outerKeys = .ok keys) {name : String} (hname : name ∈ keys.map Prod.fst) :
    name ∈ c.order.filterMap (·.outputName) := by
  have named : ∀ {ks : List OrderClause} {keys : List (String × Direction)},
      List.Forall₂ (fun k key => c.outerName k = .ok key.1 ∧ k.direction = key.2) ks keys →
      ∀ key ∈ keys, ∃ k ∈ ks, c.outerName k = .ok key.1 := by
    intro ks keys hkeys
    induction hkeys with
    | nil => exact nofun
    | cons hkey _ ih =>
      intro key hmem
      rcases List.mem_cons.1 hmem with rfl | hmem
      · exact ⟨_, List.mem_cons_self, hkey.1⟩
      · obtain ⟨k, hk, hk'⟩ := ih key hmem
        exact ⟨k, List.mem_cons_of_mem _ hk, hk'⟩
  obtain ⟨key, hkey, rfl⟩ := List.mem_map.1 hname
  obtain ⟨k, hk, houter⟩ := named (Clauses.forall₂_outerKeys h) key hkey
  refine List.mem_filterMap.2 ⟨k, hk, ?_⟩
  unfold Clauses.outerName at houter
  cases houtput : k.outputName with
  | none =>
    rw [houtput] at houter
    contradiction
  | some name =>
    rw [houtput] at houter
    dsimp only at houter
    split at houter
    · exact congrArg some (Except.ok.inj houter)
    · contradiction

theorem forms_rankedPage {w : Window} {reversed : Bool}
    (hfault : ∀ e, Piece.fault e ∉ c.rankedPage d w reversed) :
    Forms d c (w.start ≠ 0 ∧ (c.distinct = true ∨ c.grouping ≠ []))
      (c.rankedPage d w reversed) := by
  unfold Clauses.rankedPage at hfault ⊢
  by_cases hstart : w.start = 0
  · rw [if_pos hstart]
    exact forms_base reversed (some w.size) false
  rw [if_neg hstart] at hfault ⊢
  have numbered : ∃ numbering : Numbering,
      (∀ name ∈ numbering.names, (c.distinct = true ∨ c.grouping ≠ []) ∧
        name ∈ c.order.filterMap (·.outputName)) ∧
      numbering.document d c = c.numberedRows d reversed := by
    have hrows : ∀ e, Piece.fault e ∉ c.numberedRows d reversed := fun e he =>
      hfault e (by simp [selectAllFrom, parenthesized, he])
    unfold Clauses.numberedRows at hrows ⊢
    by_cases hwrapped : c.distinct ∨ c.grouping ≠ []
    · rw [if_pos hwrapped] at hrows ⊢
      unfold Clauses.outerOrderList at hrows ⊢
      cases hkeys : c.outerKeys with
      | error e =>
        rw [hkeys] at hrows
        exact absurd List.mem_cons_self (hrows e)
      | ok keys =>
        refine ⟨.outside keys reversed, ?_, rfl⟩
        intro name hname
        exact ⟨hwrapped, mem_outputNames_of_outerKeys hkeys hname⟩
    · rw [if_neg hwrapped]
      exact ⟨.inline reversed, fun name hname => absurd hname List.not_mem_nil, rfl⟩
  obtain ⟨numbering, hnames, hnumbering⟩ := numbered
  refine ⟨between numbering (some Clauses.numberedTable) (saturated (w.start.toNat + 1))
    (saturated (w.start.toNat + w.size.toNat)) true, trivial, ?_, ?_⟩
  · intro name hname
    rcases List.mem_append.1 hname with hname | hname
    · obtain ⟨hwrapped, hmem⟩ := hnames name hname
      exact .inr ⟨⟨hstart, hwrapped⟩, hmem⟩
    · obtain rfl := List.mem_singleton.1 hname
      exact .inl (by simp [fixedNames])
  · rw [document, hnumbering]
    simp only [rowNumberRange, if_true, List.append_assoc]

theorem forms_countedPage (w : Window) (reversed : Bool) :
    Forms d c sorts (c.countedPage d w reversed) := by
  unfold Clauses.countedPage
  by_cases hstart : w.start = 0
  · rw [if_pos hstart]
    exact ⟨firstRows (base reversed none false) w.size, trivial, nofun, rfl⟩
  · rw [if_neg hstart]
    exact ⟨between (.counted reversed) none _ _ false, trivial, nofun, List.append_nil _⟩

theorem forms_countDependentPage {w : Window} {recordCount : Option UInt64} {reversed : Bool}
    (hfault : ∀ e, Piece.fault e ∉ c.countDependentPage d w recordCount reversed) :
    Forms d c (w.start ≠ 0) (c.countDependentPage d w recordCount reversed) := by
  unfold Clauses.countDependentPage at hfault ⊢
  by_cases hstart : w.start = 0
  · rw [if_pos hstart]
    exact forms_base reversed (some w.size) false
  rw [if_neg hstart] at hfault ⊢
  cases recordCount with
  | none => exact absurd List.mem_cons_self (hfault _)
  | some count =>
    by_cases hnone : count ≤ w.start ∨ w.size = 0
    · simp only [if_pos hnone]
      exact forms_base reversed none true
    simp only [if_neg hnone] at hfault ⊢
    by_cases horder : c.order = []
    · simp only [if_pos horder] at hfault
      exact absurd List.mem_cons_self (hfault _)
    simp only [if_neg horder] at hfault ⊢
    cases hkeys : c.outerKeys with
    | error e =>
      simp only [hkeys] at hfault
      exact absurd List.mem_cons_self (hfault e)
    | ok keys =>
      simp only [hkeys] at hfault ⊢
      have sorted : ∀ fixed ∈ fixedNames, ∀ name ∈ fixed :: keys.map Prod.fst,
          name ∈ fixedNames ∨ w.start ≠ 0 ∧ name ∈ c.order.filterMap (·.outputName) := by
        intro fixed hfixed name hname
        rcases List.mem_cons.1 hname with rfl | hname
        · exact .inl hfixed
        · exact .inr ⟨hstart, mem_outputNames_of_outerKeys hkeys hname⟩
      have inner := sorted Clauses.innerPage (by simp [fixedNames])
      by_cases hhalf : w.start ≤ count / 2
      · rw [if_pos hhalf] at hfault ⊢
        rw [Clauses.guardedBy_eq hfault]
        refine ⟨resorted (resorted (base reversed (some _) false) (some _) _ keys (!reversed))
          none _ keys reversed, trivial, ?_, rfl⟩
        intro name hname
        rcases List.mem_append.1 hname with hname | hname
        · exact inner name hname
        · exact sorted Clauses.outerPage (by simp [fixedNames]) name hname
      · rw [if_neg hhalf] at hfault ⊢
        rw [Clauses.guardedBy_eq hfault]
        exact ⟨resorted (base (!reversed) (some _) false) (some _) _ keys reversed, trivial,
          inner, rfl⟩

/-- Whether the page of a query sorts by the names its sort keys have outside. -/
def SortsByName (d : Dialect) (distinct : Bool) (grouping : List GroupKey) (p : Pagination) :
    Prop :=
  ∃ w ∈ p.window?, w.start ≠ 0 ∧
    (d = .access ∨ d = .sqlServer ∧ (distinct = true ∨ grouping ≠ []))

instance (d : Dialect) (distinct : Bool) (grouping : List GroupKey) (p : Pagination) :
    Decidable (SortsByName d distinct grouping p) := by
  unfold SortsByName
  infer_instance

theorem forms_paginated {p : Pagination} {recordCount : Option UInt64} {reversed : Bool}
    (hfault : ∀ e, Piece.fault e ∉ c.paginated d p recordCount reversed) :
    Forms d c (SortsByName d c.distinct c.grouping p) (c.paginated d p recordCount reversed) := by
  unfold Clauses.paginated at hfault ⊢
  cases hwindow : p.window? with
  | none => exact forms_base reversed none false
  | some w =>
    rw [hwindow] at hfault
    cases d with
    | access =>
      refine (forms_countDependentPage hfault).imp_sorts ?_
      intro hstart
      exact ⟨w, hwindow, hstart, .inl rfl⟩
    | sqlServer =>
      refine (forms_rankedPage hfault).imp_sorts ?_
      intro hwrapped
      exact ⟨w, hwindow, hwrapped.1, .inr ⟨rfl, hwrapped.2⟩⟩
    | mySql =>
      exact ⟨limit .comma (base reversed none false) w.start w.size, ⟨reversed, rfl⟩, nofun, rfl⟩
    | sqlite | postgres =>
      exact ⟨limit .offset (base reversed none false) w.start w.size, ⟨reversed, rfl⟩, nofun, rfl⟩
    | oracle => exact forms_countedPage w reversed

end PagePlan

end ParamSql
