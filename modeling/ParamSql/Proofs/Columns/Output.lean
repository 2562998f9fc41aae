import ParamSql.Proofs.Columns.Query

/-!
# Columns of a page

The columns of a statement's result, read off its text: an entry of the outermost list, or for a
star all columns of the statement in parentheses behind FROM. Paging keeps the fields of a query
together and in their order. On SQL Server a number comes in front of them past the first page.
-/

namespace ParamSql

namespace Document

def isStarEntry : Document → Bool
  | [.token (.mark .star)] => true
  | [.token (.identifier _), .token (.mark .dot), .token (.mark .star)] => true
  | _ => false

def afterDistinct : Document → Document
  | .token (.keyword .DISTINCT) :: .token (.mark .space) :: rest => rest
  | rest => rest

def afterTop : Document → Document
  | .token (.keyword .TOP) :: .token (.mark .space) :: _ :: .token (.mark .space) :: rest => rest
  | rest => rest

/-- The text of a statement from the first entry of its list on. -/
def listText : Document → Document
  | .token (.keyword .SELECT) :: .token (.mark .space) :: rest => afterTop (afterDistinct rest)
  | _ => []

theorem length_listText_lt (piece : Piece) (d : Document) :
    (listText (piece :: d)).length < d.length + 1 := by
  have distinct (rest : Document) : (afterDistinct rest).length ≤ rest.length := by
    unfold afterDistinct
    split <;> simp
    omega
  have top (rest : Document) : (afterTop rest).length ≤ rest.length := by
    unfold afterTop
    split <;> simp
    omega
  unfold listText
  split
  · rename_i rest heq
    obtain ⟨-, rfl⟩ := List.cons.inj heq
    have := top (afterDistinct rest)
    have := distinct rest
    simp only [List.length_cons]
    omega
  · simp

theorem length_listFrom_le (d : Document) (depth : Nat) (entry : Document) :
    (listFrom depth entry d).2.length ≤ d.length := by
  induction d generalizing depth entry with
  | nil => simp [listFrom]
  | cons piece rest ih =>
    unfold listFrom
    split
    · exact Nat.le_succ_of_le (ih 0 [])
    split
    · simp only [List.length_drop, List.length_cons]
      omega
    · exact Nat.le_succ_of_le (ih _ _)

/-- Entries by which the columns of a statement are named, stars resolved in the statement that
is read from. -/
def outputColumns : Document → List Document
  | [] => []
  | piece :: d =>
    match hsource : (listFrom 0 [] (listText (piece :: d))).2 with
    | .token (.mark .opening) :: inner =>
      have : inner.length < d.length + 1 := by
        have hlist := length_listFrom_le (listText (piece :: d)) 0 []
        have hstart := length_listText_lt piece d
        rw [hsource, List.length_cons] at hlist
        omega
      (listFrom 0 [] (listText (piece :: d))).1.flatMap fun entry =>
        if entry.isStarEntry then outputColumns inner else [entry]
    | _ => (listFrom 0 [] (listText (piece :: d))).1
termination_by d => d.length

theorem outputColumns_of_derived {d inner : Document} {entries : List Document}
    (h : listFrom 0 [] (listText d) = (entries, .token .opening :: inner)) :
    outputColumns d =
      entries.flatMap fun entry => if entry.isStarEntry then outputColumns inner else [entry] := by
  cases d with
  | nil => exact nomatch h
  | cons piece d =>
    rw [outputColumns]
    split
    · rename_i inner' hsource
      dsimp only
      rw [h] at hsource ⊢
      obtain ⟨-, rfl⟩ := List.cons.inj hsource
      rfl
    · rename_i hsource
      exact absurd (congrArg Prod.snd h) (hsource inner)

theorem outputColumns_of_plain {d source : Document} {entries : List Document}
    (h : listFrom 0 [] (listText d) = (entries, source)) (hentries : entries ≠ [[]])
    (hplain : ∀ entry ∈ entries, entry.isStarEntry = false) : outputColumns d = entries := by
  have resolved (columns : List Document) :
      (entries.flatMap fun entry => if entry.isStarEntry then columns else [entry]) = entries := by
    conv_rhs => rw [← List.flatMap_singleton' entries]
    refine List.flatMap_congr fun entry hentry => ?_
    rw [if_neg (by simp [hplain entry hentry])]
  cases d with
  | nil => exact absurd (congrArg Prod.fst h).symm hentries
  | cons piece d =>
    rw [outputColumns]
    split
    · dsimp only
      rw [h]
      exact resolved _
    · rw [h]

/-- A document that begins an entry of a list. -/
structure Begins (e : Document) : Prop where
  nonempty : e ≠ []
  head : ∀ word, e.head? ≠ some (.token (.keyword word))

theorem Begins.cons {piece : Piece} (h : ∀ word, piece ≠ .token (.keyword word))
    (rest : Document) : Begins (piece :: rest) where
  nonempty := List.cons_ne_nil _ _
  head word heq := h word (Option.some.inj heq)

theorem Begins.append {e : Document} (h : e.Begins) (rest : Document) : Begins (e ++ rest) := by
  cases e with
  | nil => exact absurd rfl h.nonempty
  | cons piece e => exact ⟨nofun, h.head⟩

theorem Begins.afterTop {e : Document} (h : e.Begins) : afterTop e = e := by
  unfold Document.afterTop
  split
  · exact absurd rfl (h.head .TOP)
  · rfl

theorem Begins.afterDistinct {e : Document} (h : e.Begins) : afterDistinct e = e := by
  unfold Document.afterDistinct
  split
  · exact absurd rfl (h.head .DISTINCT)
  · rfl

theorem Begins.separatedBy {entry : Document} (h : entry.Begins) (separator : Document)
    (entries : List Document) : Begins (separatedBy separator (entry :: entries)) := by
  cases entries with
  | nil => exact h
  | cons next entries =>
    have unfolded : Document.separatedBy separator (entry :: next :: entries) =
        entry ++ (separator ++ Document.separatedBy separator (next :: entries)) :=
      List.append_assoc _ _ _
    rw [unfolded]
    exact h.append _

theorem listText_select (distinct : Bool) (top : Option UInt64) {list : Document}
    (h : list.Begins) :
    listText (keyword .SELECT ++ space ++ (if distinct then keyword .DISTINCT ++ space else []) ++
      (top.elim [] fun n => keyword .TOP ++ space ++ rowCount n ++ space) ++ list) = list := by
  have first (n : UInt64) :
      afterTop (keyword .TOP ++ space ++ rowCount n ++ space ++ list) = list := by
    unfold rowCount
    split <;> rfl
  have skipped (front : Document) :
      listText (keyword .SELECT ++ space ++ front) = afterTop (afterDistinct front) := rfl
  simp only [List.append_assoc (keyword .SELECT ++ space), skipped]
  cases distinct with
  | true =>
    have word (rest : Document) : afterDistinct (keyword .DISTINCT ++ space ++ rest) = rest := rfl
    cases top with
    | none => exact h.afterTop
    | some n => exact first n
  | false =>
    cases top with
    | none =>
      simp only [Bool.false_eq_true, if_false, Option.elim, List.nil_append]
      rw [h.afterDistinct, h.afterTop]
    | some n => exact first n

/-- The entries of a list are read one by one, in front of what ends the last of them. -/
theorem listFrom_separatedBy {entry : Document} {entries : List Document}
    (h : ∀ e ∈ entry :: entries, ReadOver 0 e) {behind source : Document}
    (hbehind : ¬SortsAtOnce behind) (hends : ∀ last, listFrom 0 last behind = ([last], source)) :
    listFrom 0 [] (separatedBy comma (entry :: entries) ++ behind) =
      (entry :: entries, source) := by
  induction entries generalizing entry with
  | nil =>
    rw [separatedBy, (h entry List.mem_cons_self).list (fun _ => rfl) [] hbehind, hends,
      List.nil_append]
  | cons next entries ih =>
    have rest := ih fun e he => h e (List.mem_cons_of_mem _ he)
    have unfolded : separatedBy comma (entry :: next :: entries) ++ behind =
        entry ++ .token .comma :: (separatedBy comma (next :: entries) ++ behind) := by
      simp [separatedBy, comma]
    rw [unfolded, (h entry List.mem_cons_self).list (fun _ => rfl) []
      (not_sortsAtOnce_mark _ _), listFrom, if_pos ⟨rfl, rfl⟩, rest, List.nil_append]

theorem listFrom_entries {entry : Document} {entries : List Document}
    (h : ∀ e ∈ entry :: entries, ReadOver 0 e) (source : Document) :
    listFrom 0 [] (separatedBy comma (entry :: entries) ++ clause .FROM ++ source) =
      (entry :: entries, source) := by
  rw [List.append_assoc]
  refine listFrom_separatedBy h (not_sortsAtOnce_mark _ _) fun last => ?_
  simp [clause, space, keyword, listFrom, depthBehind]

/-- A statement with these columns, whatever stands behind it. -/
def Outputs (d : Document) (columns : List Document) : Prop :=
  ∀ behind, outputColumns (d ++ behind) = columns

namespace Outputs

variable {d : Document} {columns : List Document}

theorem append (h : d.Outputs columns) (e : Document) : Outputs (d ++ e) columns := by
  intro behind
  rw [List.append_assoc]
  exact h (e ++ behind)

theorem columns_eq (h : d.Outputs columns) : outputColumns d = columns := by
  rw [← h [], List.append_nil]

/-- A statement that reads from another one in parentheses. -/
theorem derived (h : d.Outputs columns) {head : Document} (tail : Document) {entry : Document}
    {entries : List Document} (hread : ∀ e ∈ entry :: entries, ReadOver 0 e)
    (hlist : ∀ behind, listText (head ++ behind) =
      separatedBy comma (entry :: entries) ++ clause .FROM ++
        (.token .opening :: d ++ tail ++ behind)) :
    Outputs head ((entry :: entries).flatMap fun entry =>
      if entry.isStarEntry then columns else [entry]) := by
  intro behind
  have read : listFrom 0 [] (listText (head ++ behind)) =
      (entry :: entries, .token .opening :: (d ++ (tail ++ behind))) := by
    rw [hlist, listFrom_entries hread]
    simp
  rw [outputColumns_of_derived read, h]

theorem plain {head : Document} (tail : Document) {entry : Document} {entries : List Document}
    (hread : ∀ e ∈ entry :: entries, ReadOver 0 e)
    (hplain : ∀ e ∈ entry :: entries, e.isStarEntry = false) (hentry : entry ≠ [])
    (hlist : ∀ behind, listText (head ++ behind) =
      separatedBy comma (entry :: entries) ++ clause .FROM ++ (tail ++ behind)) :
    Outputs head (entry :: entries) := by
  intro behind
  have read : listFrom 0 [] (listText (head ++ behind)) = (entry :: entries, tail ++ behind) := by
    rw [hlist, listFrom_entries hread]
  exact outputColumns_of_plain read (fun hnil => hentry (List.cons.inj hnil).1) hplain

theorem selectAllFrom (h : d.Outputs columns) (dialect : Dialect) (top : Option UInt64)
    (name : Option String) : Outputs (selectAllFrom dialect d top name) columns := by
  have star : ∀ e ∈ [[Piece.token .star]], ReadOver 0 e := by
    intro e he
    obtain rfl := List.mem_singleton.1 he
    exact .mark (by decide)
  have begins : Begins [.token .star] := ⟨nofun, nofun⟩
  let label : Document := .token .closing :: name.elim [] (tableAlias dialect)
  have outputs : Outputs (Document.selectAllFrom dialect d top name)
      ([[.token .star]].flatMap fun entry =>
        if isStarEntry entry then columns else [entry]) := by
    refine h.derived label star ?_
    intro behind
    have list := listText_select false top
      (begins.append (clause .FROM ++ (.token .opening :: d ++ label ++ behind)))
    rw [Document.selectAllFrom_eq]
    simpa [label, separatedBy, parenthesized] using list
  simpa [isStarEntry] using outputs

end Outputs

end Document

/-- A field entry: it does not begin with a keyword, and is no star. -/
structure FieldClause.Plain (f : FieldClause) : Prop where
  begins : f.document.Begins
  noStar : f.document.isStarEntry = false

namespace Clauses

open Document

variable {c : Clauses}

theorem fieldEntries_eq (hfields : c.fields ≠ []) (leading : Option Document) :
    c.fieldEntries leading = leading.toList ++ c.fields.map (·.document) := by
  unfold fieldEntries
  rw [if_neg hfields]
  cases leading <;> rfl

/-- Whatever the options change, the columns of a query are its fields. -/
theorem outputs_base (h : c.ReadOver) (hfields : c.fields ≠ []) (hplain : ∀ f ∈ c.fields, f.Plain)
    (options : BaseOptions) (hleading : ∀ e ∈ options.leading,
      Document.ReadOver 0 e ∧ e.Begins ∧ e.isStarEntry = false) :
    Outputs (c.base options) (options.leading.toList ++ c.fields.map (·.document)) := by
  have hentries := fieldEntries_eq hfields options.leading
  have plain : ∀ e ∈ c.fieldEntries options.leading, e.Begins ∧ e.isStarEntry = false := by
    intro e he
    rw [hentries] at he
    rcases List.mem_append.1 he with he | he
    · exact (hleading e (Option.mem_toList.1 he)).2
    · obtain ⟨f, hf, rfl⟩ := List.mem_map.1 he
      exact ⟨(hplain f hf).begins, (hplain f hf).noStar⟩
  have read := h.fieldEntries fun e he => (hleading e he).1
  rw [← hentries]
  cases hlist : c.fieldEntries options.leading with
  | nil =>
    rw [hentries, List.append_eq_nil_iff, List.map_eq_nil_iff] at hlist
    exact absurd hlist.2 hfields
  | cons entry entries =>
    rw [hlist] at plain read
    have begins := (plain entry List.mem_cons_self).1
    let rest : Document := c.source ++ whereClause c.filter options.alwaysEmpty ++
      (if c.grouping = [] then []
        else clause .GROUP_BY ++ separatedBy comma (c.grouping.map GroupKey.document)) ++
      c.having.elim [] (clause .HAVING ++ ·) ++
      (if options.omitOrder then [] else orderBy (c.orderList options.reversed))
    refine .plain rest read (fun e he => (plain e he).2) begins.nonempty ?_
    intro behind
    have list := listText_select c.distinct options.top
      ((begins.separatedBy comma entries).append
        (clause .FROM ++ (rest ++ behind)))
    rw [Clauses.base_eq, hlist]
    simpa only [rest, List.append_assoc] using list

theorem outputs_unnumbered (h : c.ReadOver) (hfields : c.fields ≠ [])
    (hplain : ∀ f ∈ c.fields, f.Plain) {options : BaseOptions} (hleading : options.leading = none) :
    Outputs (c.base options) (c.fields.map (·.document)) := by
  have outputs := outputs_base h hfields hplain options (by simp [hleading])
  rw [hleading] at outputs
  exact outputs

theorem outputs_numbered {inner first second : Document} {columns : List Document}
    (behind : Document) (h : inner.Outputs columns) (hbegins : first.Begins)
    (hread : ∀ e ∈ [first, second], Document.ReadOver 0 e) :
    Outputs (keyword .SELECT ++ space ++ first ++ comma ++ second ++ clause .FROM ++
      parenthesized inner ++ behind)
      ([first, second].flatMap fun e => if e.isStarEntry then columns else [e]) := by
  let label : Document := .token .closing :: behind
  refine h.derived label hread ?_
  intro rest
  have list := listText_select false none
    (hbegins.append
      (comma ++ second ++ clause .FROM ++ (.token .opening :: inner ++ label ++ rest)))
  simpa [label, separatedBy, parenthesized] using list

variable (h : c.ReadOver) (hfields : c.fields ≠ []) (hplain : ∀ f ∈ c.fields, f.Plain)

include h hfields hplain

theorem outputs_limitOffsetPage (w : Window) (reversed : Bool) :
    Outputs (c.limitOffsetPage w reversed) (c.fields.map (·.document)) :=
  ((outputs_unnumbered h hfields hplain rfl).append _).append _

theorem outputs_limitPage (w : Window) (reversed : Bool) :
    Outputs (c.limitPage w reversed) (c.fields.map (·.document)) :=
  (((outputs_unnumbered h hfields hplain rfl).append _).append _).append _

theorem outputs_topRows (size : UInt64) (reversed : Bool) :
    Outputs (c.topRows size reversed) (c.fields.map (·.document)) :=
  outputs_unnumbered h hfields hplain rfl

theorem outputs_frontPage (d : Dialect) (keys : List (String × Direction)) (start take : UInt64)
    (reversed : Bool) :
    Outputs (c.frontPage d keys start take reversed) (c.fields.map (·.document)) :=
  ((((outputs_topRows h hfields hplain _ reversed).selectAllFrom d _ _).append _).selectAllFrom d
    none _).append _

theorem outputs_backPage (d : Dialect) (keys : List (String × Direction)) (remaining take : UInt64)
    (reversed : Bool) :
    Outputs (c.backPage d keys remaining take reversed) (c.fields.map (·.document)) :=
  ((outputs_topRows h hfields hplain _ (!reversed)).selectAllFrom d _ _).append _

theorem outputs_countDependentPage {d : Dialect} {w : Window} {recordCount : Option UInt64}
    {reversed : Bool}
    (hfault : ∀ e, Piece.fault e ∉ c.countDependentPage d w recordCount reversed) :
    Outputs (c.countDependentPage d w recordCount reversed) (c.fields.map (·.document)) := by
  unfold countDependentPage at hfault ⊢
  by_cases hstart : w.start = 0
  · rw [if_pos hstart]
    exact outputs_topRows h hfields hplain _ reversed
  rw [if_neg hstart] at hfault ⊢
  cases recordCount with
  | none => exact absurd List.mem_cons_self (hfault _)
  | some count =>
    by_cases hnone : count ≤ w.start ∨ w.size = 0
    · simp only [if_pos hnone]
      exact outputs_unnumbered h hfields hplain rfl
    by_cases horder : c.order = []
    · simp only [if_neg hnone, if_pos horder] at hfault
      exact absurd List.mem_cons_self (hfault _)
    cases hkeys : c.outerKeys with
    | error e =>
      simp only [if_neg hnone, if_neg horder, hkeys] at hfault
      exact absurd List.mem_cons_self (hfault e)
    | ok keys =>
      simp only [if_neg hnone, if_neg horder, hkeys] at hfault ⊢
      split at hfault
      · rw [if_pos ‹_›, guardedBy_eq hfault]
        exact outputs_frontPage h hfields hplain d keys _ _ reversed
      · rw [if_neg ‹_›, guardedBy_eq hfault]
        exact outputs_backPage h hfields hplain d keys _ _ reversed

/-- The column in which Oracle numbers the rows of a page. -/
def countedColumn : Document := raw "ROWNUM" ++ space ++ identifier rowNumberColumn

theorem outputs_countedPage (d : Dialect) (w : Window) (reversed : Bool) :
    Outputs (c.countedPage d w reversed)
      (c.fields.map (·.document) ++ if w.start = 0 then [] else [countedColumn]) := by
  have whole : Outputs (c.base { reversed }) (c.fields.map (·.document)) :=
    outputs_unnumbered h hfields hplain rfl
  unfold countedPage
  by_cases hstart : w.start = 0
  · rw [if_pos hstart, if_pos hstart, List.append_nil]
    exact (((((whole.selectAllFrom d none none).append _).append _).append _).append _).append _
      |>.append _
  · rw [if_neg hstart, if_neg hstart]
    have read : ∀ e ∈ [qualified (some innerPage) [.token .star], countedColumn],
        Document.ReadOver 0 e := by
      intro e he
      rcases List.mem_pair.1 he with rfl | rfl
      · exact .qualified _ (.mark (by decide))
      · exact ((Document.ReadOver.raw _).append .space).append (.identifier _)
    have begins : Begins (qualified (some innerPage) [.token .star]) := ⟨nofun, nofun⟩
    have numbered := outputs_numbered (space ++ identifier innerPage) whole begins read
    refine Outputs.append (Outputs.selectAllFrom ?_ d none none) _
    simpa [isStarEntry, countedColumn, qualified, identifier, raw] using numbered

theorem outputs_numberedRows {d : Dialect} {reversed : Bool}
    (hfault : ∀ e, Piece.fault e ∉ c.numberedRows d reversed) :
    ∃ order, Outputs (c.numberedRows d reversed)
      (rowNumbering order :: c.fields.map (·.document)) := by
  have begins (order : Option Document) : Begins (rowNumbering order) := ⟨nofun, nofun⟩
  have noStar (order : Option Document) : isStarEntry (rowNumbering order) = false := rfl
  unfold numberedRows at hfault ⊢
  by_cases hwrapped : c.distinct ∨ c.grouping ≠ []
  · rw [if_pos hwrapped] at hfault ⊢
    unfold outerOrderList at hfault ⊢
    cases hkeys : c.outerKeys with
    | error e =>
      rw [hkeys] at hfault
      exact absurd List.mem_cons_self (hfault e)
    | ok keys =>
      have whole : Outputs (c.base { reversed, omitOrder := true }) (c.fields.map (·.document)) :=
        outputs_unnumbered h hfields hplain rfl
      have read : ∀ e ∈ [rowNumbering (outerEntries keys reversed),
          qualified (some numberedSource) [.token .star]], Document.ReadOver 0 e := by
        intro e he
        rcases List.mem_pair.1 he with rfl | rfl
        · exact ReadOver.rowNumbering (ReadOver.outerEntries keys reversed)
        · exact .qualified _ (.mark (by decide))
      have star : isStarEntry (qualified (some numberedSource) [.token .star]) = true := rfl
      have numbered := outputs_numbered (tableAlias d numberedSource) whole (begins _)
        read
      simp only [List.flatMap_cons, List.flatMap_nil, noStar, star, Bool.false_eq_true, if_false,
        if_true, List.append_nil, List.singleton_append] at numbered
      exact ⟨outerEntries keys reversed, numbered⟩
  · rw [if_neg hwrapped]
    refine ⟨c.orderList reversed, outputs_base h hfields hplain _ ?_⟩
    intro e he
    obtain rfl := Option.some.inj he
    exact ⟨ReadOver.rowNumbering (h.orderList reversed), begins _, noStar _⟩

theorem outputs_rankedPage {d : Dialect} {w : Window} (hstart : w.start ≠ 0) {reversed : Bool}
    (hfault : ∀ e, Piece.fault e ∉ c.rankedPage d w reversed) :
    ∃ order, Outputs (c.rankedPage d w reversed)
      (rowNumbering order :: c.fields.map (·.document)) := by
  unfold rankedPage at hfault ⊢
  rw [if_neg hstart] at hfault ⊢
  have rows : ∀ e, Piece.fault e ∉ c.numberedRows d reversed := fun e he =>
    hfault e (by simp [selectAllFrom, parenthesized, he])
  obtain ⟨order, numbered⟩ := outputs_numberedRows h hfields hplain rows
  exact ⟨order, (((numbered.selectAllFrom d none _).append _).append _).append _⟩

theorem outputs_page {d : Dialect} {w : Window} {count : Option UInt64} {reversed : Bool}
    (hfault : ∀ e, Piece.fault e ∉ c.page d w count reversed)
    (hranked : ¬(d = .sqlServer ∧ w.start ≠ 0)) :
    Outputs (c.page d w count reversed) (c.fields.map (·.document) ++
      if d = .oracle ∧ w.start ≠ 0 then [countedColumn] else []) := by
  cases d with
  | access =>
    rw [if_neg (by simp), List.append_nil]
    exact outputs_countDependentPage h hfields hplain hfault
  | sqlServer =>
    have hstart : w.start = 0 := by simpa using hranked
    rw [if_neg (by simp), List.append_nil, page, rankedPage, if_pos hstart]
    exact outputs_topRows h hfields hplain _ reversed
  | mySql =>
    rw [if_neg (by simp), List.append_nil]
    exact outputs_limitPage h hfields hplain w reversed
  | sqlite | postgres =>
    rw [if_neg (by simp), List.append_nil]
    exact outputs_limitOffsetPage h hfields hplain w reversed
  | oracle =>
    have counted := outputs_countedPage h hfields hplain .oracle w reversed
    by_cases hstart : w.start = 0 <;> simpa [page, hstart] using counted

end Clauses

namespace Field

theorem begins (f : Field) (d : Dialect) : (f.document d).Begins := by
  obtain ⟨source, newName, aggregate, distinct⟩ := f
  cases aggregate with
  | some a =>
    simp only [document, expressionDocument, applyAggregate]
    cases d.aggregateName a <;> cases newName <;> exact .cons (by simp) _
  | none =>
    cases source with
    | column table name | all table =>
      cases table <;> cases newName <;> exact .cons (by simp) _
    | expression sql => cases newName <;> exact .cons (by simp) _
    | query q => cases newName <;> exact .cons (by simp) _

theorem isStarEntry_document {f : Field} (h : f.isStar = false) (d : Dialect) :
    (f.document d).isStarEntry = false := by
  obtain ⟨source, newName, aggregate, distinct⟩ := f
  cases aggregate with
  | some a =>
    simp only [document, expressionDocument, applyAggregate]
    cases d.aggregateName a <;> cases newName <;> rfl
  | none =>
    cases source with
    | column table name => cases table <;> cases newName <;> rfl
    | all table => simp [isStar] at h
    | expression sql => cases newName <;> rfl
    | query q => cases newName <;> rfl

end Field

theorem Select.plain_fields {s : Select} (hstar : ∀ f ∈ s.fields, f.isStar = false) (d : Dialect) :
    (∀ f ∈ (s.clauses d).fields, f.Plain) ∧
      (s.clauses d).fields.map (·.document) = s.fields.map (·.document d) := by
  rw [s.clauses_fields d]
  constructor
  · intro f hf
    obtain ⟨field, hfield, rfl⟩ := List.mem_map.1 hf
    exact ⟨field.begins d, Field.isStarEntry_document (hstar field hfield) d⟩
  · rw [List.map_map]
    rfl

/-- The page begins past the first row. -/
def Pagination.Deep (p : Pagination) : Prop := ∃ w ∈ p.window?, w.start ≠ 0

instance (p : Pagination) : Decidable p.Deep := by
  unfold Pagination.Deep
  infer_instance

namespace Select

open Document

variable {s : Select} (hfields : s.fields ≠ []) (hstar : ∀ f ∈ s.fields, f.isStar = false)
  {d : Dialect} {recordCount : Option UInt64} {reversed : Bool}
  (hfault : ∀ e, Piece.fault e ∉ (s.clauses d).paginated d s.pagination recordCount reversed)

include hfields hstar hfault

theorem columns_of_unranked (hranked : ¬(d = .sqlServer ∧ s.pagination.Deep)) :
    outputColumns ((s.clauses d).paginated d s.pagination recordCount reversed) =
      s.fields.map (·.document d) ++
        if d = .oracle ∧ s.pagination.Deep then [Clauses.countedColumn] else [] := by
  have hread := s.readOver d
  have hclauses : (s.clauses d).fields ≠ [] := by simpa [s.clauses_fields d] using hfields
  obtain ⟨hplain, hdocuments⟩ := s.plain_fields hstar d
  unfold Clauses.paginated at hfault ⊢
  cases hwindow : s.pagination.window? with
  | none =>
    have shallow : ¬s.pagination.Deep := by simp [Pagination.Deep, hwindow]
    rw [if_neg fun h => shallow h.2, List.append_nil, ← hdocuments]
    exact (Clauses.outputs_unnumbered hread hclauses hplain rfl).columns_eq
  | some w =>
    have deep : s.pagination.Deep ↔ w.start ≠ 0 := by simp [Pagination.Deep, hwindow]
    rw [hwindow] at hfault
    simp only [deep] at hranked ⊢
    rw [← hdocuments]
    exact (Clauses.outputs_page hread hclauses hplain hfault hranked).columns_eq

theorem columns_of_ranked (hranked : d = .sqlServer ∧ s.pagination.Deep) :
    ∃ order, outputColumns ((s.clauses d).paginated d s.pagination recordCount reversed) =
      Clauses.rowNumbering order :: s.fields.map (·.document d) := by
  obtain ⟨rfl, w, hwindow, hstart⟩ := hranked
  have hread := s.readOver .sqlServer
  have hclauses : (s.clauses .sqlServer).fields ≠ [] := by
    simpa [s.clauses_fields .sqlServer] using hfields
  obtain ⟨hplain, hdocuments⟩ := s.plain_fields hstar .sqlServer
  unfold Clauses.paginated at hfault ⊢
  rw [hwindow] at hfault ⊢
  obtain ⟨order, ranked⟩ := Clauses.outputs_rankedPage hread hclauses hplain hstart hfault
  rw [← hdocuments]
  exact ⟨order, ranked.columns_eq⟩

end Select

/-- The columns of a page of a query with fields and without stars. Where SQL Server numbers the
rows, past the first page, the number is the first column and the fields follow it; on every other
page the fields are the first columns. Oracle numbers rows in a column behind them. -/
theorem Select.page_columns {s : Select} (hfields : s.fields ≠ [])
    (hstar : ∀ f ∈ s.fields, f.isStar = false) {d : Dialect} {recordCount : Option UInt64}
    {reversed : Bool} {b : Binder} {x : List Token × Binder}
    (hfill : ((s.clauses d).paginated d s.pagination recordCount reversed).fill b = .ok x) :
    let columns := Document.outputColumns
      ((s.clauses d).paginated d s.pagination recordCount reversed)
    let fields := s.fields.map (·.document d)
    (¬(d = .sqlServer ∧ s.pagination.Deep) →
      columns = fields ++
        (if d = .oracle ∧ s.pagination.Deep then [Clauses.countedColumn] else []) ∧
      ∀ (i : Nat) (hi : i < s.fields.length), columns[i]? = some (s.fields[i].document d)) ∧
    (d = .sqlServer ∧ s.pagination.Deep →
      (∃ order, columns = Clauses.rowNumbering order :: fields) ∧
      ∀ (i : Nat) (hi : i < s.fields.length),
        columns[i + 1]? = some (s.fields[i].document d)) := by
  intro columns fields
  have hfault := Document.no_fault_of_fill hfill
  constructor
  · intro hranked
    have unranked : columns = fields ++
        if d = .oracle ∧ s.pagination.Deep then [Clauses.countedColumn] else [] :=
      columns_of_unranked hfields hstar hfault hranked
    refine ⟨unranked, fun i hi => ?_⟩
    have inside : i < fields.length := by simpa [fields] using hi
    rw [unranked, List.getElem?_append_left inside]
    simp [fields, hi]
  · intro hranked
    obtain ⟨order, hcolumns⟩ := columns_of_ranked hfields hstar hfault hranked
    have ranked : columns = Clauses.rowNumbering order :: fields := hcolumns
    refine ⟨⟨order, ranked⟩, fun i hi => ?_⟩
    rw [ranked, List.getElem?_cons_succ]
    simp [fields, hi]

/-- Both fields of a page found from the nearer end, in two statements around its query, and of a
page whose groups are numbered. -/
theorem Select.page_columns_grouped :
    let s (dialect : Dialect) : Select :=
      { dialect
        source := .table "t"
        fields := [.column "a", Field.countAll.withName "n"]
        grouping := [.column none "a"]
        order := [.ascending "a"]
        pagination := .limit 5 10 }
    Document.outputColumns ((s .access).rootDocument (some 40) false) =
        [(Field.column "a").document .access, (Field.countAll.withName "n").document .access] ∧
      (Document.outputColumns ((s .sqlServer).rootDocument none false))[2]? =
        some ((Field.countAll.withName "n").document .sqlServer) := by
  intro s
  have noStar : ∀ f ∈ [Field.column "a", Field.countAll.withName "n"], f.isStar = false := by
    intro f hf
    rcases List.mem_pair.1 hf with rfl | rfl <;> rfl
  have nearer : ∃ x, ((s .access).rootDocument (some 40) false).fill {} = .ok x := by
    simp only [s]
    exact ⟨_, rfl⟩
  have ranked : ∃ x, ((s .sqlServer).rootDocument none false).fill {} = .ok x := by
    simp only [s]
    exact ⟨_, rfl⟩
  obtain ⟨x, hnearer⟩ := nearer
  obtain ⟨y, hranked⟩ := ranked
  constructor
  · exact ((Select.page_columns (s := s .access) nofun noStar hnearer).1 nofun).1
  · have deep : (s .sqlServer).pagination.Deep := ⟨⟨5, 10⟩, rfl, by decide⟩
    exact ((Select.page_columns (s := s .sqlServer) nofun noStar hranked).2 ⟨rfl, deep⟩).2 1
      (by decide)

/-- The first column of a page that SQL Server numbers is not its first field. -/
theorem Select.first_column_ne_first_field :
    let s : Select :=
      { dialect := .sqlServer
        source := .table "T"
        fields := [.column "a"]
        order := [.ascending "a"]
        pagination := .limit 5 10 }
    (∃ x, (s.rootDocument none false).fill {} = .ok x) ∧
      (∀ f ∈ s.fields, f.isStar = false) ∧
      (Document.outputColumns (s.rootDocument none false))[0]? ≠
        some ((Field.column "a").document .sqlServer) := by
  intro s
  have rendered : ∃ x, (s.rootDocument none false).fill {} = .ok x := by
    simp only [s]
    exact ⟨_, rfl⟩
  have noStar : ∀ f ∈ s.fields, f.isStar = false := by
    intro f hf
    obtain rfl := List.mem_singleton.1 hf
    rfl
  have deep : s.pagination.Deep := ⟨⟨5, 10⟩, rfl, by decide⟩
  refine ⟨rendered, noStar, ?_⟩
  obtain ⟨x, hfill⟩ := rendered
  obtain ⟨order, hcolumns⟩ := columns_of_ranked (s := s) (d := .sqlServer) nofun noStar
    (Document.no_fault_of_fill hfill) ⟨rfl, deep⟩
  have columns : Document.outputColumns (s.rootDocument none false) =
      Clauses.rowNumbering order :: s.fields.map (·.document .sqlServer) := hcolumns
  rw [columns, List.getElem?_cons_zero]
  exact nofun

end ParamSql
