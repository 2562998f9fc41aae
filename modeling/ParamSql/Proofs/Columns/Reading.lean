import ParamSql.Proofs.Layout.Fragment

/-!
# Reading a statement

The parts of a statement, read off its text by what stands outside of parentheses: the entries
between SELECT and FROM by the commas, the clauses by their keywords, and a query inside of it by
the parenthesis that closes it. Whatever the texts of a query are, the parentheses that its
rendering writes belong together, so each of its parts is read as one.
-/

namespace ParamSql

/-- Whether a clause behind the list of a statement begins with a keyword. -/
def Keyword.beginsClause : Keyword → Bool
  | FROM | WHERE | GROUP_BY | HAVING | ORDER_BY | LIMIT | OFFSET => true
  | _ => false

/-- What a piece outside of parentheses ends at most: nothing, an entry of a list, a clause, or a
statement. -/
def Piece.rank : Piece → Nat
  | .token (.mark .comma) => 1
  | .token (.keyword word) => if word.beginsClause then 2 else 0
  | .token (.mark .closing) => 3
  | _ => 0

namespace Document

/-- Depth behind a piece. The parenthesis of a window function is part of its name, which stands
directly in front of ORDER BY. -/
def depthBehind (depth : Nat) (piece : Piece) (rest : Document) : Nat :=
  match piece with
  | .token (.mark .opening) => depth + 1
  | .token (.mark .closing) => depth - 1
  | .token (.raw _) => if rest.head? = some (.token (.keyword .ORDER_BY)) then depth + 1 else depth
  | _ => depth

/-- Entries up to FROM, the first of which has been read up to here, and what follows FROM. -/
def listFrom (depth : Nat) (entry : Document) : Document → List Document × Document
  | [] => ([entry], [])
  | piece :: rest =>
    if depth = 0 ∧ piece = .token .comma then
      (entry :: (listFrom 0 [] rest).1, (listFrom 0 [] rest).2)
    else if depth = 0 ∧ piece = .token (.keyword .FROM) then ([entry.dropLast], rest.drop 1)
    else listFrom (depthBehind depth piece rest) (entry ++ [piece]) rest

/-- The text in front of the first piece outside of parentheses to stop at, and the text from
there on. -/
def upTo (stop : Piece → Bool) (depth : Nat) : Document → Document × Document
  | [] => ([], [])
  | piece :: rest =>
    if depth = 0 ∧ stop piece = true then ([], piece :: rest)
    else
      (piece :: (upTo stop (depthBehind depth piece rest) rest).1,
        (upTo stop (depthBehind depth piece rest) rest).2)

theorem upTo_append (stop : Piece → Bool) (depth : Nat) (d : Document) :
    (upTo stop depth d).1 ++ (upTo stop depth d).2 = d := by
  induction d generalizing depth with
  | nil => rfl
  | cons piece rest ih =>
    unfold upTo
    split
    · rfl
    · simp only [List.cons_append, ih]

def endsEntry (piece : Piece) : Bool :=
  piece = .token .comma || piece = .token (.keyword .FROM)

/-- Entries the first of which has been read, in front of what ended it. -/
def entriesBefore (entry : Document) : Document → List Document × Document
  | [] => ([entry], [])
  | piece :: rest =>
    if piece = .token .comma then
      (entry :: (listFrom 0 [] rest).1, (listFrom 0 [] rest).2)
    else ([entry.dropLast], rest.drop 1)

theorem listFrom_eq (depth : Nat) (entry d : Document) :
    listFrom depth entry d =
      entriesBefore (entry ++ (upTo endsEntry depth d).1) (upTo endsEntry depth d).2 := by
  induction d generalizing depth entry with
  | nil => simp [listFrom, upTo, entriesBefore]
  | cons piece rest ih =>
    by_cases hcomma : depth = 0 ∧ piece = .token .comma
    · obtain ⟨rfl, rfl⟩ := hcomma
      simp [listFrom, upTo, endsEntry, entriesBefore]
    by_cases hfrom : depth = 0 ∧ piece = .token (.keyword .FROM)
    · obtain ⟨rfl, rfl⟩ := hfrom
      simp [listFrom, upTo, endsEntry, entriesBefore]
    have inside : ¬(depth = 0 ∧ endsEntry piece = true) := by
      rintro ⟨hzero, hends⟩
      rw [endsEntry, Bool.or_eq_true, decide_eq_true_eq, decide_eq_true_eq] at hends
      rcases hends with hp | hp
      · exact hcomma ⟨hzero, hp⟩
      · exact hfrom ⟨hzero, hp⟩
    rw [listFrom, if_neg hcomma, if_neg hfrom, ih, upTo, if_neg inside, List.append_assoc,
      List.singleton_append]

def SortsAtOnce (e : Document) : Prop := e.head? = some (.token (.keyword .ORDER_BY))

theorem not_sortsAtOnce_mark (sign : Mark) (rest : Document) :
    ¬SortsAtOnce (.token (.mark sign) :: rest) := nofun

/-- A document that is read over: it closes what it opens, and no piece of it outside of
parentheses ends more than `level`. -/
structure ReadOver (level : Nat) (e : Document) : Prop where
  head : ¬e.SortsAtOnce
  scan : ∀ stop depth rest, (depth = 0 → ∀ p, stop p = true → level < p.rank) →
    ¬SortsAtOnce rest →
    upTo stop depth (e ++ rest) = (e ++ (upTo stop depth rest).1, (upTo stop depth rest).2)

namespace ReadOver

variable {level : Nat} {e f : Document}

theorem nil : ReadOver level [] where
  head := nofun
  scan _ _ _ _ _ := rfl

theorem mono {most : Nat} (h : ReadOver level e) (hle : level ≤ most) : ReadOver most e where
  head := h.head
  scan stop depth rest hstop hrest :=
    h.scan stop depth rest (fun hd p hp => Nat.lt_of_le_of_lt hle (hstop hd p hp)) hrest

theorem sortsAtOnce_append (he : ¬e.SortsAtOnce) (hf : ¬f.SortsAtOnce) :
    ¬SortsAtOnce (e ++ f) := by
  cases e with
  | nil => exact hf
  | cons piece e => exact he

theorem append (he : ReadOver level e) (hf : ReadOver level f) : ReadOver level (e ++ f) where
  head := sortsAtOnce_append he.head hf.head
  scan stop depth rest hstop hrest := by
    rw [List.append_assoc, he.scan stop depth _ hstop (sortsAtOnce_append hf.head hrest),
      hf.scan stop depth rest hstop hrest, List.append_assoc]

/-- An entry is read on where it does not end, and nothing ends within parentheses. -/
theorem list (h : ReadOver level e) {depth : Nat} (hdepth : depth = 0 → level = 0)
    (entry : Document) {rest : Document} (hrest : ¬SortsAtOnce rest) :
    listFrom depth entry (e ++ rest) = listFrom depth (entry ++ e) rest := by
  have stops : depth = 0 → ∀ p, endsEntry p = true → level < p.rank := by
    intro hd p hp
    rw [hdepth hd]
    rw [endsEntry, Bool.or_eq_true, decide_eq_true_eq, decide_eq_true_eq] at hp
    rcases hp with rfl | rfl <;> decide
  rw [listFrom_eq depth entry, listFrom_eq depth (entry ++ e), h.scan _ depth rest stops hrest,
    List.append_assoc]

theorem piece {p : Piece} (hopening : p ≠ .token .opening) (hclosing : p ≠ .token .closing)
    (hsort : p ≠ .token (.keyword .ORDER_BY)) (hrank : p.rank ≤ level) : ReadOver level [p] where
  head h := hsort (Option.some.inj h)
  scan stop depth rest hstop hrest := by
    have flat : depthBehind depth p rest = depth := by
      unfold depthBehind
      split
      · contradiction
      · contradiction
      · exact if_neg hrest
      · rfl
    have on : ¬(depth = 0 ∧ stop p = true) := fun h =>
      absurd (hstop h.1 p h.2) (Nat.not_lt.2 hrank)
    rw [List.singleton_append, upTo, if_neg on, flat]
    rfl

theorem keyword {word : Keyword} (h : word.beginsClause = false) :
    ReadOver level (keyword word) := by
  refine piece nofun nofun ?_ ?_
  · rintro hsort
    obtain rfl : word = .ORDER_BY := by injection hsort with hsort; injection hsort
    contradiction
  · simp [Piece.rank, h]

theorem identifier (text : String) : ReadOver level (identifier text) :=
  piece nofun nofun nofun (Nat.zero_le _)

theorem raw (sql : String) : ReadOver level (raw sql) :=
  piece nofun nofun nofun (Nat.zero_le _)

theorem hole (p : Parameter) : ReadOver level [.hole p] :=
  piece nofun nofun nofun (Nat.zero_le _)

theorem failing (e : Error) : ReadOver level (failing e) :=
  piece nofun nofun nofun (Nat.zero_le _)

theorem mark {sign : Mark} (h : sign ≠ .opening ∧ sign ≠ .closing ∧ sign ≠ .comma) :
    ReadOver level [.token (.mark sign)] := by
  refine piece ?_ ?_ nofun ?_
  · exact fun heq => h.1 (by injection heq with heq; injection heq)
  · exact fun heq => h.2.1 (by injection heq with heq; injection heq)
  · cases sign <;> first | exact Nat.zero_le _ | simp at h

theorem space : ReadOver level space := mark (by decide)

theorem comma : ReadOver (level + 1) comma := piece nofun nofun nofun (Nat.le_add_left 1 level)

theorem clause {word : Keyword} (h : word.beginsClause = false) : ReadOver level (clause word) :=
  (space.append (keyword h)).append space

theorem anyClause (word : Keyword) : ReadOver 2 (Document.clause word) where
  head := nofun
  scan stop depth rest hstop hrest := by
    have on {p : Piece} (hp : p.rank ≤ 2) : ¬(depth = 0 ∧ stop p = true) := fun h =>
      absurd (hstop h.1 p h.2) (Nat.not_lt.2 hp)
    have blank : ¬(depth = 0 ∧ stop (.token .space) = true) := on (by decide)
    have word : ¬(depth = 0 ∧ stop (.token (.keyword word)) = true) :=
      on (by cases word <;> decide)
    simp [Document.clause, Document.space, Document.keyword, upTo, depthBehind, blank, word]

theorem parenthesized (h : ReadOver 2 e) : ReadOver level (parenthesized e) where
  head := nofun
  scan stop depth rest hstop hrest := by
    have text : Document.parenthesized e ++ rest =
        .token .opening :: (e ++ .token .closing :: rest) := by
      simp [Document.parenthesized]
    have on : ¬(depth = 0 ∧ stop (.token .opening) = true) := fun h =>
      absurd (hstop h.1 _ h.2) (Nat.not_lt.2 (Nat.zero_le level))
    have inside := h.scan stop (depth + 1) (.token .closing :: rest) nofun
      (not_sortsAtOnce_mark _ _)
    rw [text, upTo, if_neg on, depthBehind, inside, upTo, if_neg nofun]
    simp [depthBehind, Document.parenthesized]

theorem separatedBy {separator : Document} (hs : ReadOver level separator) {ds : List Document}
    (h : ∀ d ∈ ds, ReadOver level d) : ReadOver level (separatedBy separator ds) := by
  induction ds with
  | nil => exact nil
  | cons d ds ih =>
    have hd := h d List.mem_cons_self
    have rest := ih fun e he => h e (List.mem_cons_of_mem _ he)
    cases ds with
    | nil => exact hd
    | cons e es => exact (hd.append hs).append rest

theorem ofNone : ∀ e ∈ (none : Option Document), ReadOver level e := nofun

theorem ofSome (h : ReadOver level e) : ∀ e' ∈ some e, ReadOver level e' := by
  rintro _ ⟨⟩
  exact h

theorem given {p : Prop} [Decidable p] (h : ReadOver level e) :
    ReadOver level (if p then e else []) := by
  split
  · exact h
  · exact nil

theorem omitted {p : Prop} [Decidable p] (h : ReadOver level e) :
    ReadOver level (if p then [] else e) := by
  split
  · exact nil
  · exact h

theorem optional {α : Type} {x : Option α} {f : α → Document}
    (h : ∀ a ∈ x, ReadOver level (f a)) : ReadOver level (x.elim [] f) := by
  cases x with
  | none => exact nil
  | some a => exact h a rfl

theorem rowCount (n : UInt64) : ReadOver level (rowCount n) := by
  unfold Document.rowCount
  split
  · exact piece nofun nofun nofun (Nat.zero_le _)
  · exact failing _

theorem top (n : Option UInt64) : ReadOver level (n.elim [] fun n =>
    Document.keyword .TOP ++ Document.space ++ Document.rowCount n ++ Document.space) :=
  optional fun n _ => (((keyword (by decide)).append space).append (rowCount n)).append space

theorem operatorTokens (operator : Operator) : ReadOver level (ofTokens operator.tokens) := by
  have word {w : Keyword} (h : w.beginsClause = false) :
      ReadOver level [.token (.keyword w)] := keyword h
  have twoWords {w : Keyword} (h : w.beginsClause = false) :
      ReadOver level ([.token (.keyword .NOT)] ++ [.token .space] ++ [.token (.keyword w)]) :=
    ((word (by decide)).append space).append (word h)
  cases operator with
  | isNull | isNotNull | like | between => exact word (by decide)
  | equal | notEqual | greaterThan | lessThan | greaterThanOrEqual | lessThanOrEqual =>
    exact mark (by decide)
  | notLike | notBetween => exact twoWords (by decide)

theorem operands (operator : Operator) (ps : List Parameter) :
    ReadOver level (operands operator ps) := by
  match ps with
  | [] => exact nil
  | [p] => exact space.append (hole p)
  | [low, high] => exact ((space.append (hole low)).append (clause (by decide))).append (hole high)
  | _ :: _ :: _ :: _ => exact failing _

theorem comparison (column : String) (operator : Operator) (ps : List Parameter) :
    ReadOver level (comparison column operator ps) :=
  parenthesized <| (((identifier column).append space).append (operatorTokens operator)).append
    (operands operator ps)

theorem columnComparison (left : String) (operator : Operator) (right : String) :
    ReadOver level (columnComparison left operator right) :=
  parenthesized <| ((((identifier left).append space).append
    (operatorTokens operator)).append space).append (identifier right)

theorem membership (column : String) (negated : Bool) (h : ReadOver 2 e) :
    ReadOver level (membership column negated e) :=
  parenthesized <| (((((identifier column).append space).append
    (given ((keyword (by decide)).append space))).append (keyword (by decide))).append
      space).append (parenthesized h)

theorem valueMembership (column : String) (negated : Bool) (ps : List Parameter) :
    ReadOver level (valueMembership column negated ps) := by
  unfold Document.valueMembership
  split
  · exact raw _
  · refine membership column negated (separatedBy comma ?_)
    intro d hd
    obtain ⟨p, -, rfl⟩ := List.mem_map.1 hd
    exact hole p

theorem negation (h : ReadOver 2 e) : ReadOver level (negation e) :=
  parenthesized ((keyword (by decide)).append (parenthesized h))

theorem conjunctionList (conjunction : Conjunction) {ds : List Document}
    (h : ∀ d ∈ ds, ReadOver 2 d) : ReadOver level (conjunctionList conjunction ds) :=
  parenthesized (separatedBy (clause (by cases conjunction <;> decide)) h)

theorem qualified (table : Option String) (h : ReadOver level e) :
    ReadOver level (qualified table e) := by
  cases table with
  | none => exact h
  | some t =>
    have dot : ReadOver level [.token .dot] := mark (by decide)
    exact (identifier t).append (dot.append h)

theorem groupKey (k : GroupKey) : ReadOver level k.document := by
  cases k with
  | column table name => exact qualified table (identifier name)
  | expression sql => exact raw sql

theorem tableAlias (d : Dialect) (name : String) : ReadOver level (tableAlias d name) :=
  (space.append (given ((keyword (by decide)).append space))).append (identifier name)

theorem limitOffset (size start : UInt64) :
    ReadOver 2 (Document.space ++ limitOffset (some size) (some start)) := by
  rw [space_append_limitOffset]
  exact ((anyClause _).append (rowCount _)).append
    (omitted ((anyClause _).append (rowCount _)))

theorem rowNumberRange (column : String) (w : Window) : ReadOver 2 (rowNumberRange column w) :=
  (((((anyClause _).append (identifier column)).append (clause (by decide))).append
    (rowCount _)).append (clause (by decide))).append (rowCount _)

theorem orderBy {order : Option Document} (h : ∀ e ∈ order, ReadOver 1 e) :
    ReadOver 2 (orderBy order) := by
  cases order with
  | none => exact nil
  | some entries => exact (anyClause _).append ((h entries rfl).mono (Nat.le_succ 1))

theorem selectAllFrom (d : Dialect) (h : ReadOver 2 e) (limit : Option UInt64)
    (name : Option String) : ReadOver 2 (selectAllFrom d e limit name) := by
  have label : ReadOver 2 (name.elim [] (Document.tableAlias d)) :=
    optional fun name _ => tableAlias d name
  have star : ReadOver 2 [.token .star] := mark (by decide)
  rw [Document.selectAllFrom_eq]
  exact ((((((keyword (by decide)).append space).append (top limit)).append star).append
    (anyClause _)).append h.parenthesized).append label

end ReadOver

end Document

end ParamSql
