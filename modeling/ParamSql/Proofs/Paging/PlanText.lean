import ParamSql.Proofs.Paging.Answers

/-!
# Paged statements are read as they are meant

The query itself, with what paging changes in it, and the statements around it are put together of
parts that are told apart, so each is read as the plan whose numbers, keys and directions were
written into it.
-/

namespace ParamSql

open Document

namespace Document

theorem sortKey?_orderEntry (key : Document) (direction : Direction) (reversed : Bool) :
    sortKey? (Clauses.orderEntry key direction reversed) =
      some (key, direction.effective reversed) := by
  unfold Clauses.orderEntry sortKey?
  cases direction.effective reversed <;> simp [space, keyword, Direction.keyword]

section Keys

variable {keys : List SortKey} {level : Nat}

theorem readOver_orderEntries (h : ∀ k ∈ keys, ReadOver level k.1) (reversed : Bool) :
    ∀ e ∈ keys.map fun k => Clauses.orderEntry k.1 k.2 reversed, ReadOver level e := by
  intro e he
  obtain ⟨k, hk, rfl⟩ := List.mem_map.1 he
  exact Clauses.ReadOver.orderEntry (h k hk) k.2 reversed

theorem mapM_sortKey?_orderEntries (keys : List SortKey) (reversed : Bool) :
    (keys.map fun k => Clauses.orderEntry k.1 k.2 reversed).mapM sortKey? =
      some (keys.map fun k => (k.1, k.2.effective reversed)) := by
  induction keys with
  | nil => rfl
  | cons k keys ih => simp [sortKey?_orderEntry, ih]

theorem sortKeys?_separatedBy (hne : keys ≠ []) (h : ∀ k ∈ keys, ReadOver 0 k.1)
    (reversed : Bool) :
    sortKeys? (separatedBy comma (keys.map fun k => Clauses.orderEntry k.1 k.2 reversed)) =
      some (keys.map fun k => (k.1, k.2.effective reversed)) := by
  have readOver := readOver_orderEntries h reversed
  cases keys with
  | nil => exact absurd rfl hne
  | cons k keys =>
    have nothing : ¬SortsAtOnce [] := nofun
    have read := listFrom_separatedBy readOver nothing fun _ => rfl
    rw [List.append_nil] at read
    rw [sortKeys?, List.map_cons, read]
    exact mapM_sortKey?_orderEntries (k :: keys) reversed

end Keys

theorem rowCount_eq {n : UInt64} (h : n.toNat ≤ 9223372036854775807) :
    rowCount n = [.token (.integer n.toNat)] := if_pos h

theorem topClause_eq {top : Option UInt64} (h : ∀ n ∈ top, n.toNat ≤ 9223372036854775807) :
    (top.elim [] fun n => keyword .TOP ++ space ++ rowCount n ++ space) =
      (top.map UInt64.toNat).elim [] fun n =>
        keyword .TOP ++ space ++ [.token (.integer n)] ++ space := by
  cases top with
  | none => rfl
  | some n => rw [Option.map_some, Option.elim, Option.elim, rowCount_eq (h n rfl)]

end Document

/-- Entries of an ORDER BY that are read as these sort keys. -/
structure ReadsAs (order : Option Document) (keys : List SortKey) : Prop where
  readOver : ∀ e ∈ order, ReadOver 1 e
  read : order.elim (some []) sortKeys? = some keys

theorem ReadsAs.unsorted : ReadsAs none [] := ⟨nofun, rfl⟩

theorem readsAs_of_keys {keys : List SortKey} (h : ∀ k ∈ keys, ReadOver 0 k.1) (reversed : Bool) :
    ReadsAs
      (if keys = [] then none
        else some (separatedBy comma (keys.map fun k => Clauses.orderEntry k.1 k.2 reversed)))
      (keys.map fun k => (k.1, k.2.effective reversed)) := by
  by_cases hnone : keys = []
  · subst hnone
    exact .unsorted
  · rw [if_neg hnone]
    have readOver := readOver_orderEntries (fun k hk => (h k hk).mono (Nat.zero_le 1)) reversed
    exact ⟨(ReadOver.separatedBy .comma readOver).ofSome, sortKeys?_separatedBy hnone h reversed⟩

theorem Clauses.ReadOver.readsAs_orderList {c : Clauses} (h : c.ReadOver) (reversed : Bool) :
    ReadsAs (c.orderList reversed) (c.ownKeys reversed) := by
  have keys : ∀ k ∈ c.order.map fun k => (k.expression, k.direction),
      Document.ReadOver 0 k.1 := by
    intro k hk
    obtain ⟨k, hmem, rfl⟩ := List.mem_map.1 hk
    exact h.order k hmem
  have reads := readsAs_of_keys keys reversed
  simp only [List.map_eq_nil_iff, List.map_map] at reads
  exact reads

theorem readsAs_outerEntries (keys : List (String × Direction)) (reversed : Bool) :
    ReadsAs (Clauses.outerEntries keys reversed) (nameKeys keys reversed) := by
  have names : ∀ k ∈ keys.map fun key => (identifier key.1, key.2), ReadOver 0 k.1 := by
    intro k hk
    obtain ⟨key, -, rfl⟩ := List.mem_map.1 hk
    exact .identifier key.1
  have reads := readsAs_of_keys names reversed
  simp only [List.map_eq_nil_iff, List.map_map] at reads
  exact reads

namespace ReadsAs

variable {order : Option Document} {keys : List SortKey} (h : ReadsAs order keys)

include h

theorem windowKeys? : (order.getD (raw "(SELECT NULL)")).windowKeys? = some keys := by
  cases order with
  | none =>
    have read := h.read
    rw [Option.elim, Option.some.injEq] at read
    rw [Option.getD_none, Document.windowKeys?, if_pos rfl, read]
  | some e =>
    have read : sortKeys? e = some keys := h.read
    have key : e ≠ raw "(SELECT NULL)" := by
      rintro rfl
      exact nomatch read
    rw [Option.getD_some, Document.windowKeys?, if_neg key, read]

theorem numberColumn? :
    (Clauses.rowNumbering order).numberColumn? = some ⟨.along keys, Clauses.rowNumberColumn⟩ := by
  have readOver : ReadOver 1 (order.getD (raw "(SELECT NULL)")) := by
    cases order with
    | none => exact .raw _
    | some e => exact h.readOver e rfl
  have read := readOver.scan (fun p => p = .token .closing) 0
    [.token .closing, .token .space, .token (.keyword .AS), .token .space,
      .token (.identifier Clauses.rowNumberColumn)]
    (fun _ p hp => by rw [of_decide_eq_true hp]; decide) (not_sortsAtOnce_mark _ _)
  have closes (rest : Document) : upTo (fun p => p = .token .closing) 0 (.token .closing :: rest) =
      ([], .token .closing :: rest) := rfl
  rw [closes, List.append_nil] at read
  have text : Clauses.rowNumbering order = .token (.raw "ROW_NUMBER() OVER(") ::
      .token (.keyword .ORDER_BY) :: .token .space :: (order.getD (raw "(SELECT NULL)") ++
        [.token .closing, .token .space, .token (.keyword .AS), .token .space,
          .token (.identifier Clauses.rowNumberColumn)]) := by
    simp [Clauses.rowNumbering, raw, keyword, space, clause, identifier]
  rw [text, Document.numberColumn?, read]
  simp only [if_true, h.windowKeys?, Option.map_some]

end ReadsAs

/-- A statement around the query `own` that is read as a plan. -/
structure Document.Plans (own : SelectText) (text : Document) (plan : RowPlan) : Prop where
  read : text.rowPlan? own = some plan
  readOver : ReadOver 2 text
  longer : own.source.length ≤ text.length

namespace SelectText

variable {own t : SelectText} {plan : RowPlan}

theorem length_source_le (t : SelectText) : t.source.length ≤ t.document.length := by
  have source : ofClauses t.clauses = clause .FROM ++ t.source ++ ofClauses t.clauses.tail := by
    simp [clauses, ofClauses]
  simp only [document, source, List.length_append]
  omega

theorem Legible.plans_own (h : t.Legible) (hsource : t.source = own.source)
    (hplan : t.ownPlan? own = some plan) : t.document.Plans own plan where
  read := by
    have text := h.selectText_document
    rw [rowPlan?_of_own (by rw [text, hsource]), text, hplan]
  readOver := h.readOver
  longer := hsource ▸ t.length_source_le

theorem derived?_parenthesized {inner : Document} (h : ReadOver 2 inner) (label : Document) :
    (parenthesized inner ++ label).derived? = some inner := by
  have read := h.scan (fun p => p = .token .closing) 0 (.token .closing :: label)
    (fun _ p hp => by rw [of_decide_eq_true hp]; decide) (not_sortsAtOnce_mark _ _)
  have text : parenthesized inner ++ label =
      .token .opening :: (inner ++ .token .closing :: label) := by
    simp [parenthesized]
  rw [text, derived?, read]
  simp [upTo]

theorem Legible.plans_derived (h : t.Legible) {inner label : Document}
    (hsource : t.source = parenthesized inner ++ label) {innerPlan : RowPlan}
    (hinner : inner.Plans own innerPlan) (hplan : t.derivedPlan? innerPlan = some plan) :
    t.document.Plans own plan where
  read := by
    -- The query stands in the source, which is thereby told from the source of the query.
    have longer : own.source.length < t.source.length := by
      have := hinner.longer
      rw [hsource, parenthesized, List.length_append, List.length_append, List.length_cons]
      omega
    have text := h.selectText_document
    have other : t.document.selectText.source ≠ own.source := by
      rw [text]
      intro heq
      rw [heq] at longer
      exact Nat.lt_irrefl _ longer
    have derived : t.document.selectText.source.derived? = some inner := by
      rw [text, hsource, derived?_parenthesized hinner.readOver]
    rw [rowPlan?_of_derived other derived, hinner.read, Option.bind_some, text, hplan]
  readOver := h.readOver
  longer := by
    have source := t.length_source_le
    have := hinner.longer
    rw [hsource, parenthesized, List.length_append, List.length_append, List.length_cons] at source
    omega

end SelectText

namespace Clauses

variable (c : Clauses)

/-- The parts of a query, changed as the options say, with a limit behind it. -/
def text (options : BaseOptions) (limit offset : Option Document) : SelectText :=
  { c.ownText with
    top := options.top.map UInt64.toNat
    entries := options.leading.toList ++ c.ownText.entries
    filter :=
      if options.alwaysEmpty then some (c.filter.elim [] (· ++ clause .AND) ++ raw "(1 = 0)")
      else c.filter
    order := if options.omitOrder then none else c.orderList options.reversed
    limit
    offset }

theorem base_eq_document {options : BaseOptions}
    (htop : ∀ n ∈ options.top, n.toNat ≤ 9223372036854775807) :
    c.base options = (c.text options none none).document := by
  obtain ⟨reversed, top, leading, omitOrder, alwaysEmpty⟩ := options
  have entries : c.fieldEntries leading = leading.toList ++ c.ownText.entries := by
    cases leading <;> rfl
  have filter : whereClause c.filter alwaysEmpty =
      (if alwaysEmpty then some (c.filter.elim [] (· ++ clause .AND) ++ raw "(1 = 0)")
        else c.filter).elim [] (clause .WHERE ++ ·) := by
    cases c.filter <;> cases alwaysEmpty <;> simp [whereClause, alwaysFalse]
  have grouping : (if c.grouping = [] then []
      else clause .GROUP_BY ++ separatedBy comma (c.grouping.map GroupKey.document)) =
      c.ownText.grouping.elim [] (clause .GROUP_BY ++ ·) := by
    unfold ownText
    split <;> rfl
  have order : (if omitOrder then [] else orderBy (c.orderList reversed)) =
      (if omitOrder then none else c.orderList reversed).elim [] (clause .ORDER_BY ++ ·) := by
    cases omitOrder <;> cases c.orderList reversed <;> rfl
  rw [base_eq, topClause_eq htop, entries, filter, grouping, order, SelectText.document_eq]
  simp only [text, SelectText.head, ownText, Option.elim, List.append_nil]

theorem base_limited {options : BaseOptions}
    (htop : ∀ n ∈ options.top, n.toNat ≤ 9223372036854775807) (limit offset : Option Document) :
    c.base options ++ limit.elim [] (clause .LIMIT ++ ·) ++ offset.elim [] (clause .OFFSET ++ ·) =
      (c.text options limit offset).document := by
  rw [c.base_eq_document htop, SelectText.document_eq, SelectText.document_eq]
  simp only [text, Option.elim, List.append_nil]
  rfl

theorem ownText_entries_ne_nil : c.ownText.entries ≠ [] := by
  unfold ownText
  dsimp only
  split
  · exact List.cons_ne_nil _ _
  · rename_i hfields
    exact fun hnil => hfields (List.map_eq_nil_iff.1 hnil)

/-- A query whose fields do not begin with a keyword. -/
structure Told : Prop where
  readOver : c.ReadOver
  begins : ∀ f ∈ c.fields, f.document.Begins

namespace Told

variable {c} (h : c.Told)

include h

theorem entries : ∀ e ∈ c.ownText.entries, Document.ReadOver 0 e ∧ e.Begins := by
  intro e he
  unfold ownText at he
  dsimp only at he
  split at he
  · obtain rfl := List.mem_singleton.1 he
    exact ⟨.mark (by decide), nofun, nofun⟩
  · obtain ⟨f, hf, rfl⟩ := List.mem_map.1 he
    exact ⟨h.readOver.fields f hf, h.begins f hf⟩

variable {options : BaseOptions} {limit offset : Option Document}
  (hleading : ∀ e ∈ options.leading, Document.ReadOver 0 e ∧ e.Begins)
  (hlimit : ∀ e ∈ limit, Document.ReadOver 1 e) (hoffset : ∀ e ∈ offset, Document.ReadOver 1 e)

include hleading hlimit hoffset

theorem legible : (c.text options limit offset).Legible := by
  have all : ∀ e ∈ (c.text options limit offset).entries, Document.ReadOver 0 e ∧ e.Begins := by
    intro e he
    rcases List.mem_append.1 he with he | he
    · exact hleading e (Option.mem_toList.1 he)
    · exact h.entries e he
  constructor
  case entries => exact fun e he => (all e he).1
  case first =>
    cases hlist : (c.text options limit offset).entries with
    | nil => exact absurd (List.append_eq_nil_iff.1 hlist).2 c.ownText_entries_ne_nil
    | cons entry rest => exact ⟨entry, rest, rfl, (all entry (hlist ▸ List.mem_cons_self)).2⟩
  case source => exact h.readOver.source.mono (Nat.zero_le 1)
  case filter =>
    intro e he
    unfold text at he
    dsimp only at he
    split at he
    · obtain rfl := Option.some.inj he
      refine .append (.optional fun f hf => ?_) (.raw _)
      exact ((h.readOver.filter f hf).mono (Nat.zero_le 1)).append (.clause rfl)
    · exact (h.readOver.filter e he).mono (Nat.zero_le 1)
  case grouping =>
    intro e he
    unfold text ownText at he
    dsimp only at he
    split at he
    · contradiction
    · obtain rfl := Option.some.inj he
      exact ReadOver.groupKeys c.grouping
  case having => exact fun e he => (h.readOver.having e he).mono (Nat.zero_le 1)
  case order =>
    intro e he
    unfold text at he
    dsimp only at he
    split at he
    · contradiction
    · exact h.readOver.orderList options.reversed e he
  case limit => exact hlimit
  case offset => exact hoffset

theorem plans_text {numbers : Option NumberColumn}
    (hnumbers : (c.text options limit offset).ownNumbers? c.ownText = some numbers)
    {window : Option (Nat × Nat)} (hwindow : (c.text options limit offset).limit? = some window) :
    (c.text options limit offset).document.Plans c.ownText
      (.own options.alwaysEmpty
        { distinct := c.distinct
          numbers
          order := if options.omitOrder then [] else c.ownKeys options.reversed
          top := options.top.map UInt64.toNat
          limit := window }) := by
  refine (h.legible hleading hlimit hoffset).plans_own rfl ?_
  have filter : (c.text options limit offset).alwaysEmpty? c.ownText =
      some options.alwaysEmpty := by
    unfold SelectText.alwaysEmpty? text
    cases options.alwaysEmpty with
    | false => exact if_pos rfl
    | true =>
      have added : some (c.filter.elim [] (· ++ clause .AND) ++ raw "(1 = 0)") ≠ c.filter := by
        cases c.filter with
        | none => exact nofun
        | some f =>
          intro heq
          have := congrArg List.length (Option.some.inj heq)
          simp [raw] at this
      exact (if_neg added).trans (if_pos rfl)
  have order : (c.text options limit offset).order.elim (some []) sortKeys? =
      some (if options.omitOrder then [] else c.ownKeys options.reversed) := by
    unfold text
    cases options.omitOrder with
    | true => rfl
    | false => exact (h.readOver.readsAs_orderList options.reversed).read
  have same : (c.text options limit offset).grouping = c.ownText.grouping ∧
      (c.text options limit offset).having = c.ownText.having := ⟨rfl, rfl⟩
  rw [SelectText.ownPlan?, if_pos same, hnumbers, filter]
  simp only [SelectText.layer?, order, hwindow, Option.bind_eq_bind, Option.bind_some]
  rfl

end Told

theorem Told.plans_base {c : Clauses} (h : c.Told) {options : BaseOptions}
    (hleading : options.leading = none) {limit offset : Option Document}
    (hlimit : ∀ e ∈ limit, Document.ReadOver 1 e) (hoffset : ∀ e ∈ offset, Document.ReadOver 1 e)
    {window : Option (Nat × Nat)} (hwindow : (c.text options limit offset).limit? = some window) :
    (c.text options limit offset).document.Plans c.ownText
      (.own options.alwaysEmpty
        { distinct := c.distinct
          numbers := none
          order := if options.omitOrder then [] else c.ownKeys options.reversed
          top := options.top.map UInt64.toNat
          limit := window }) := by
  have numbers : (c.text options limit offset).ownNumbers? c.ownText = some none := by
    rw [SelectText.ownNumbers?, text, hleading]
    exact if_pos rfl
  exact h.plans_text (by simp [hleading]) hlimit hoffset numbers hwindow

theorem Told.plans_ranked {c : Clauses} (h : c.Told) (reversed : Bool) :
    let leading := some (rowNumbering (c.orderList reversed))
    (c.base { reversed, leading, omitOrder := true }).Plans c.ownText
      (.own false
        { distinct := c.distinct
          numbers := some ⟨.along (c.ownKeys reversed), rowNumberColumn⟩
          order := []
          top := none
          limit := none }) := by
  intro leading
  have reads := h.readOver.readsAs_orderList reversed
  have begins : ∀ e ∈ leading, Document.ReadOver 0 e ∧ e.Begins := by
    intro e he
    obtain rfl := Option.some.inj he
    exact ⟨ReadOver.rowNumbering reads.readOver, nofun, nofun⟩
  have longer : rowNumbering (c.orderList reversed) :: c.ownText.entries ≠ c.ownText.entries :=
    List.cons_ne_self _ _
  have numbers : (c.text { reversed, leading, omitOrder := true } none none).ownNumbers?
      c.ownText = some (some ⟨.along (c.ownKeys reversed), rowNumberColumn⟩) := by
    rw [SelectText.ownNumbers?]
    refine (if_neg longer).trans ((if_pos rfl).trans ?_)
    exact congrArg (Option.map some) reads.numberColumn?
  rw [c.base_eq_document fits_none]
  exact h.plans_text begins .ofNone .ofNone numbers rfl

end Clauses

namespace SelectText

def around (entries : List Document) (inner label : Document) (top : Option Nat)
    (filter order : Option Document) : SelectText :=
  { top, entries, source := parenthesized inner ++ label, filter, order }

variable {own : SelectText} {inner label : Document} {plan : RowPlan} {entries : List Document}
  {filter order : Option Document} {keys : List SortKey}
  {numbers : Option NumberColumn} {kept : Kept}

theorem plans_around (h : inner.Plans own plan)
    (hentries : ∀ e ∈ entries, ReadOver 0 e)
    (hfirst : ∃ entry rest, entries = entry :: rest ∧ entry.Begins)
    (hlabel : ReadOver 1 label) (top : Option Nat) (hfilter : ∀ e ∈ filter, ReadOver 1 e)
    (horder : ReadsAs order keys)
    (hnumbers : (around entries inner label top filter order).derivedNumbers? = some numbers)
    (hkept : filter.elim (some .all) (kept? plan.label) = some kept) :
    (around entries inner label top filter order).document.Plans own
      (.derived plan kept { distinct := false, numbers, order := keys, top, limit := none }) := by
  have legible : (around entries inner label top filter order).Legible :=
    { entries := hentries
      first := hfirst
      source := (ReadOver.parenthesized h.readOver).append hlabel
      filter := hfilter
      grouping := nofun
      having := nofun
      order := horder.readOver
      limit := nofun
      offset := nofun }
  refine legible.plans_derived rfl h ?_
  have read := horder.read
  have where? : (around entries inner label top filter order).filter.elim (some .all)
      (kept? plan.label) = some kept := hkept
  have none : (around entries inner label top filter order).grouping = none ∧
      (around entries inner label top filter order).having = none := ⟨rfl, rfl⟩
  rw [derivedPlan?, if_pos none, hnumbers, where?]
  simp only [layer?, around, read, limit?, Option.bind_eq_bind, Option.bind_some]
  rfl

theorem plans_allFrom (d : Dialect) (h : inner.Plans own plan) {top : Option UInt64}
    (htop : ∀ n ∈ top, n.toNat ≤ 9223372036854775807) (name : Option String)
    (hfilter : ∀ e ∈ filter, ReadOver 1 e) (horder : ReadsAs order keys)
    (hkept : filter.elim (some .all) (kept? plan.label) = some kept) :
    (selectAllFrom d inner top name ++ filter.elim [] (clause .WHERE ++ ·) ++
      orderBy order).Plans own
      (.derived plan kept
        { distinct := false
          numbers := none
          order := keys
          top := top.map UInt64.toNat
          limit := none }) := by
  let label : Document := name.elim [] (tableAlias d)
  have readOver : ReadOver 1 label := .optional fun name _ => .tableAlias d name
  have star : ∀ e ∈ [[Piece.token .star]], ReadOver 0 e := by
    intro e he
    obtain rfl := List.mem_singleton.1 he
    exact .mark (by decide)
  have around := plans_around h star ⟨_, _, rfl, nofun, nofun⟩ readOver (top.map UInt64.toNat)
    hfilter horder rfl hkept
  have sorted : orderBy order = order.elim [] (clause .ORDER_BY ++ ·) := by
    cases order <;> rfl
  rw [document_eq] at around
  rw [selectAllFrom_eq, topClause_eq htop, sorted]
  simp only [SelectText.around, head, Option.elim, List.append_nil, Bool.false_eq_true, if_false,
    separatedBy, List.append_assoc] at around ⊢
  exact around

end SelectText

open SelectText

namespace Clauses.Told

variable {c : Clauses} (h : c.Told) {reversed : Bool}

include h

theorem plans_plain {options : BaseOptions} (hleading : options.leading = none)
    (htop : ∀ n ∈ options.top, n.toNat ≤ 9223372036854775807) :
    (c.base options).Plans c.ownText
      (.own options.alwaysEmpty
        { distinct := c.distinct
          numbers := none
          order := if options.omitOrder then [] else c.ownKeys options.reversed
          top := options.top.map UInt64.toNat
          limit := none }) := by
  rw [c.base_eq_document htop]
  exact h.plans_base hleading .ofNone .ofNone rfl

theorem plans_limited {limit offset : Option Document}
    (hlimit : ∀ e ∈ limit, Document.ReadOver 1 e) (hoffset : ∀ e ∈ offset, Document.ReadOver 1 e)
    {window : Nat × Nat}
    (hwindow : (c.text { reversed } limit offset).limit? = some (some window)) :
    (c.base { reversed } ++ limit.elim [] (clause .LIMIT ++ ·) ++
      offset.elim [] (clause .OFFSET ++ ·)).Plans c.ownText
      (.own false
        { distinct := c.distinct
          numbers := none
          order := c.ownKeys reversed
          top := none
          limit := some window }) := by
  rw [c.base_limited fits_none]
  exact h.plans_base rfl hlimit hoffset hwindow

theorem plans_limitPage {w : Window} (hstart : w.start.toNat ≤ 9223372036854775807)
    (hsize : w.size.toNat ≤ 9223372036854775807) :
    (c.limitPage w reversed).Plans c.ownText
      (.own false
        { distinct := c.distinct
          numbers := none
          order := c.ownKeys reversed
          top := none
          limit := some (w.start.toNat, w.size.toNat) }) := by
  let limit : Document := (if w.start = 0 then [] else rowCount w.start ++ comma) ++ rowCount w.size
  have readOver : Document.ReadOver 1 limit :=
    (Document.ReadOver.omitted ((Document.ReadOver.rowCount _).append .comma)).append (.rowCount _)
  have window : (c.text { reversed } (some limit) none).limit? =
      some (some (w.start.toNat, w.size.toNat)) := by
    by_cases hfirst : w.start = 0
    · have text : limit = [.token (.integer w.size.toNat)] := by
        simp [limit, hfirst, rowCount_eq hsize]
      rw [text, hfirst]
      rfl
    · have text : limit = [.token (.integer w.start.toNat), .token .comma,
          .token (.integer w.size.toNat)] := by
        simp [limit, hfirst, rowCount_eq hsize, rowCount_eq hstart, comma]
      rw [text]
      rfl
  have page := h.plans_limited readOver.ofSome .ofNone window
  simp only [Option.elim, List.append_nil, limit] at page
  rw [limitPage, List.append_assoc, List.append_assoc]
  exact page

theorem plans_limitOffsetPage {w : Window} (hstart : w.start.toNat ≤ 9223372036854775807)
    (hsize : w.size.toNat ≤ 9223372036854775807) :
    (c.limitOffsetPage w reversed).Plans c.ownText
      (.own false
        { distinct := c.distinct
          numbers := none
          order := c.ownKeys reversed
          top := none
          limit := some (w.start.toNat, w.size.toNat) }) := by
  let offset : Option Document := if w.start = 0 then none else some (rowCount w.start)
  have overOffset : ∀ e ∈ offset, Document.ReadOver 1 e := by
    intro e he
    unfold offset at he
    split at he
    · contradiction
    · exact (Document.ReadOver.rowCount _).ofSome e he
  have window : (c.text { reversed } (some (rowCount w.size)) offset).limit? =
      some (some (w.start.toNat, w.size.toNat)) := by
    unfold offset
    rw [rowCount_eq hsize]
    by_cases hfirst : w.start = 0
    · rw [if_pos hfirst, hfirst]
      rfl
    · rw [if_neg hfirst, rowCount_eq hstart]
      rfl
  have page := h.plans_limited (Document.ReadOver.rowCount w.size).ofSome overOffset window
  have text : offset.elim [] (clause .OFFSET ++ ·) =
      if w.start = 0 then [] else clause .OFFSET ++ rowCount w.start := by
    unfold offset
    split <;> rfl
  rw [text] at page
  rw [limitOffsetPage, List.append_assoc, space_append_limitOffset, ← List.append_assoc]
  exact page

theorem plans_rankedAround (d : Dialect) (reversed : Bool) (keys : List (String × Direction)) :
    (keyword .SELECT ++ space ++ rowNumbering (outerEntries keys reversed) ++ comma ++
      qualified (some numberedSource) [.token .star] ++ clause .FROM ++
      parenthesized (c.base { reversed, omitOrder := true }) ++ tableAlias d numberedSource).Plans
      c.ownText
      (.derived (.own false ⟨c.distinct, none, [], none, none⟩) .all
        { distinct := false
          numbers := some ⟨.along (nameKeys keys reversed), rowNumberColumn⟩
          order := []
          top := none
          limit := none }) := by
  have reads := readsAs_outerEntries keys reversed
  have inner : (c.base { reversed, omitOrder := true }).Plans c.ownText
      (.own false ⟨c.distinct, none, [], none, none⟩) := h.plans_plain rfl fits_none
  let numbering := rowNumbering (outerEntries keys reversed)
  let all := qualified (some numberedSource) [.token .star]
  have entries : ∀ e ∈ [numbering, all], Document.ReadOver 0 e := by
    intro e he
    rcases List.mem_pair.1 he with rfl | rfl
    · exact ReadOver.rowNumbering reads.readOver
    · exact .qualified _ (.mark (by decide))
  have numbers : (around [numbering, all] (c.base { reversed, omitOrder := true })
      (tableAlias d numberedSource) none none none).derivedNumbers? =
      some (some ⟨.along (nameKeys keys reversed), rowNumberColumn⟩) := by
    have star : all.isStarEntry = true := rfl
    simp only [derivedNumbers?, around, star, if_true]
    exact congrArg (Option.map some) reads.numberColumn?
  have plan := plans_around inner entries ⟨_, _, rfl, nofun, nofun⟩ (.tableAlias d numberedSource)
    none .ofNone .unsorted numbers rfl
  have text : (around [numbering, all] (c.base { reversed, omitOrder := true })
      (tableAlias d numberedSource) none none none).document =
      keyword .SELECT ++ space ++ numbering ++ comma ++ all ++ clause .FROM ++
        parenthesized (c.base { reversed, omitOrder := true }) ++ tableAlias d numberedSource := by
    rw [document_eq]
    simp [around, head, separatedBy]
  rw [← text]
  exact plan

theorem plans_counted (reversed : Bool) :
    (keyword .SELECT ++ space ++ qualified (some innerPage) [.token .star] ++ comma ++
      raw "ROWNUM" ++ space ++ identifier rowNumberColumn ++ clause .FROM ++
      parenthesized (c.base { reversed }) ++ space ++ identifier innerPage).Plans c.ownText
      (.derived (.own false ⟨c.distinct, none, c.ownKeys reversed, none, none⟩) .all
        { distinct := false
          numbers := some ⟨.counted, rowNumberColumn⟩
          order := []
          top := none
          limit := none }) := by
  have inner : (c.base { reversed }).Plans c.ownText
      (.own false ⟨c.distinct, none, c.ownKeys reversed, none, none⟩) := h.plans_plain rfl fits_none
  let all := qualified (some innerPage) [.token .star]
  let counter := raw "ROWNUM" ++ space ++ identifier rowNumberColumn
  have entries : ∀ e ∈ [all, counter], Document.ReadOver 0 e := by
    intro e he
    rcases List.mem_pair.1 he with rfl | rfl
    · exact .qualified _ (.mark (by decide))
    · exact ((Document.ReadOver.raw _).append .space).append (.identifier _)
  have label : Document.ReadOver 1 (space ++ identifier innerPage) :=
    Document.ReadOver.space.append (.identifier _)
  have numbers : (around [all, counter] (c.base { reversed }) (space ++ identifier innerPage)
      none none none).derivedNumbers? = some (some ⟨.counted, rowNumberColumn⟩) := rfl
  have plan := plans_around inner entries ⟨_, _, rfl, nofun, nofun⟩ label none .ofNone
    .unsorted numbers rfl
  have text : (around [all, counter] (c.base { reversed }) (space ++ identifier innerPage)
      none none none).document =
      keyword .SELECT ++ space ++ all ++ comma ++ raw "ROWNUM" ++ space ++
        identifier rowNumberColumn ++ clause .FROM ++ parenthesized (c.base { reversed }) ++
        space ++ identifier innerPage := by
    rw [document_eq]
    simp [around, head, separatedBy, counter]
  rw [← text]
  exact plan

end Clauses.Told

end ParamSql
