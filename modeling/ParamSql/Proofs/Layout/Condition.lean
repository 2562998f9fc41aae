import ParamSql.Proofs.Rendering.Joins

/-!
# Conditions as groups

What is written around a condition relies on its own parentheses: a further condition behind it
in a WHERE clause, the words between the members of a list, NOT in front of it. The text of a
condition is one group, read as one item wherever it stands. So all that is put beside it applies
to the whole of it. As for statements, the names by which a page of a query within sorts from
outside have to be balanced.
-/

namespace ParamSql

open Document Text

theorem Keyword.readAs_text (word : Keyword) : ReadAs word.text.toList (letters word.text) := by
  refine .plain ?_ ?_ <;> cases word <;> decide

namespace Token

variable {d : Dialect}

theorem chars_intercalate (separator : List Token) (parts : List (List Token)) :
    chars d (separator.intercalate parts) =
      (chars d separator).intercalate (parts.map (chars d)) := by
  induction parts with
  | nil => rfl
  | cons part parts ih =>
    cases parts with
    | nil => rw [List.intercalate_singleton, List.map_singleton, List.intercalate_singleton]
    | cons next parts =>
      rw [List.intercalate_cons_cons, chars_append, chars_append, ih]
      exact List.intercalate_cons_cons.symm

theorem chars_eq_flatMap (tokens : List Token) :
    chars d tokens = tokens.flatMap fun t => (t.text d).toList := by
  induction tokens with
  | nil => rfl
  | cons t tokens ih => rw [chars_cons, ih, List.flatMap_cons]

def spaced (word : Keyword) : List Token := [.space, .keyword word, .space]

/-- What is put behind the filter of a query that is to have no rows. -/
def andNever : List Token := spaced .AND ++ [.raw "(1 = 0)"]

theorem readAs_keyword (word : Keyword) :
    ReadAs (chars d [.keyword word]) (letters word.text) := by
  rw [chars_singleton]
  exact word.readAs_text

theorem readAs_spaced (word : Keyword) :
    ReadAs (chars d (spaced word)) (letters (" " ++ word.text ++ " ")) := by
  have blank : ReadAs " ".toList (letters " ") := .plain (by decide) (by decide)
  have tokens : spaced word = [.space] ++ [.keyword word] ++ [.space] := rfl
  have items : letters (" " ++ word.text ++ " ") =
      letters " " ++ letters word.text ++ letters " " := by
    simp [letters]
  rw [tokens, chars_append, chars_append, items, chars_singleton .space]
  exact (blank.append (readAs_keyword word)).append blank

theorem readAs_andNever :
    ReadAs (chars d andNever) (letters " AND " ++ [.group (letters "1 = 0")]) := by
  have inner : ReadAs "1 = 0".toList (letters "1 = 0") := .plain (by decide) (by decide)
  have never : ReadAs "(1 = 0)".toList [.group (letters "1 = 0")] := inner.enclosed
  rw [andNever, chars_append, chars_singleton]
  exact (readAs_spaced .AND).append never

theorem readAs_parenthesized {tokens : List Token} {items : List Item}
    (h : ReadAs (chars d tokens) items) :
    ReadAs (chars d (parenthesized tokens)) [.group items] := by
  rw [chars_parenthesized]
  exact h.enclosed

end Token

namespace Clauses

variable (c : Clauses) (options : BaseOptions)

/-- The clauses of a query in front of WHERE. -/
def beforeWhere : Document := c.beforeFrom options ++ (clause .FROM ++ c.source)

def behindWhere : Document :=
  (if c.grouping = [] then []
    else clause .GROUP_BY ++ separatedBy comma (c.grouping.map GroupKey.document)) ++
    ((match c.having with
      | some h => clause .HAVING ++ h
      | none => []) ++
    (if options.omitOrder then [] else orderBy (c.orderList options.reversed)))

theorem base_eq_where :
    c.base options =
      c.beforeWhere options ++ (whereClause c.filter options.alwaysEmpty ++
        c.behindWhere options) := by
  rw [base_eq_from, beforeWhere, behindFrom, behindWhere]
  cases c.having <;> simp only [List.append_assoc]

theorem whereClause_plain (e : Document) :
    whereClause (some e) false = ofTokens (Token.spaced .WHERE) ++ e := rfl

theorem whereClause_never (e : Document) :
    whereClause (some e) true =
      ofTokens (Token.spaced .WHERE) ++ (e ++ ofTokens Token.andNever) := by
  simp only [whereClause, List.append_assoc]
  rfl

end Clauses

namespace Condition

variable {d : Dialect}

/-- Tokens that a condition is rendered into in some place, whose text is one group: behind
whatever text, it is read as one item. -/
structure OneGroup (d : Dialect) (c : Condition) (tokens : List Token) (items : List Item) :
    Prop where
  rendered : ∃ b b', (c.document d).fill b = .ok (tokens, b')
  closed : ClosedGroup (Token.chars d tokens)
  read : ReadAs (Token.chars d tokens) [.group items]

/-- The conditions within a condition are groups of their own in its text, with nothing but the
words that join them beside them. -/
def KeepsGroups (d : Dialect) (tokens : List Token) (items : List Item) : Condition → Prop
  | .not c => ∃ part inner, c.OneGroup d part inner ∧
      tokens = Token.parenthesized (.keyword .NOT :: Token.parenthesized part) ∧
      items = letters "NOT" ++ [.group [.group inner]]
  | .list conjunction members => ∃ parts : List (List Token × List Item),
      List.Forall₂ (fun c part => c.OneGroup d part.1 part.2) members parts ∧
      tokens = Token.parenthesized
        ((Token.spaced conjunction.keyword).intercalate (parts.map (·.1))) ∧
      items = (letters (" " ++ conjunction.keyword.text ++ " ")).intercalate
        (parts.map fun part => [.group part.2])
  | _ => True

theorem exists_oneGroup {c : Condition} (h : AllBalanced (c.texts (Select.sortNames d)))
    {b b' : Binder} {tokens : List Token} (hfill : (c.document d).fill b = .ok (tokens, b')) :
    ∃ items, c.OneGroup d tokens items := by
  have closed := (Condition.grouped h).group b tokens b' hfill
  obtain ⟨items, hitems⟩ := closed.exists_readAs
  exact ⟨items, ⟨b, b', hfill⟩, closed, hitems⟩

theorem exists_members {cs : List Condition}
    (h : AllBalanced (conditionTexts (Select.sortNames d) cs)) {parts : List (List Token)}
    (hparts : List.Forall₂ (fun e part => ∃ b b', Document.fill e b = .ok (part, b'))
      (conditionDocuments d cs) parts) :
    ∃ groups : List (List Token × List Item), parts = groups.map (·.1) ∧
      List.Forall₂ (fun c group => c.OneGroup d group.1 group.2) cs groups := by
  induction cs generalizing parts with
  | nil =>
    obtain rfl := List.forall₂_nil_left_iff.1 hparts
    exact ⟨[], rfl, .nil⟩
  | cons c cs ih =>
    obtain ⟨part, rest, ⟨b, b', hpart⟩, hrest, rfl⟩ := List.forall₂_cons_left_iff.1 hparts
    obtain ⟨items, hitems⟩ := exists_oneGroup h.left hpart
    obtain ⟨groups, rfl, hgroups⟩ := ih h.right hrest
    exact ⟨(part, items) :: groups, rfl, .cons hitems hgroups⟩

theorem readAs_members {cs : List Condition} {groups : List (List Token × List Item)}
    (h : List.Forall₂ (fun c group => c.OneGroup d group.1 group.2) cs groups) :
    List.Forall₂ ReadAs (groups.map fun group => Token.chars d group.1)
      (groups.map fun group => [.group group.2]) := by
  induction h with
  | nil => exact .nil
  | cons hgroup _ ih => exact .cons hgroup.read ih

/-- What stands behind NOT is read as it is alone, within two parentheses. -/
theorem keepsGroups_not {c : Condition} (h : AllBalanced (c.texts (Select.sortNames d)))
    {b b' : Binder} {tokens : List Token}
    (hfill : ((Condition.not c).document d).fill b = .ok (tokens, b')) :
    ∃ items, KeepsGroups d tokens items (.not c) ∧
      ReadAs (Token.chars d tokens) [.group items] := by
  obtain ⟨negated, rfl, hnegated⟩ := fill_parenthesized_eq_ok.1 hfill
  obtain ⟨behind, rfl, hbehind⟩ := fill_token_eq_ok.1 hnegated
  obtain ⟨part, rfl, hpart⟩ := fill_parenthesized_eq_ok.1 hbehind
  obtain ⟨inner, hinner⟩ := exists_oneGroup h hpart
  refine ⟨_, ⟨part, inner, hinner, rfl, rfl⟩, Token.readAs_parenthesized ?_⟩
  have word : ReadAs (Token.chars d [.keyword .NOT]) (letters "NOT") := Token.readAs_keyword .NOT
  rw [← List.singleton_append, Token.chars_append]
  exact word.append (Token.readAs_parenthesized hinner.read)

/-- The members of a list are read as they are alone, with the words between them. -/
theorem keepsGroups_list {conjunction : Conjunction} {members : List Condition}
    (h : AllBalanced (conditionTexts (Select.sortNames d) members)) {b b' : Binder}
    {tokens : List Token}
    (hfill : ((Condition.list conjunction members).document d).fill b = .ok (tokens, b')) :
    ∃ items, KeepsGroups d tokens items (.list conjunction members) ∧
      ReadAs (Token.chars d tokens) [.group items] := by
  obtain ⟨joined, rfl, hjoined⟩ := fill_parenthesized_eq_ok.1 hfill
  obtain ⟨parts, rfl, hparts⟩ := fill_separatedBy (Token.spaced conjunction.keyword) hjoined
  obtain ⟨groups, rfl, hgroups⟩ := exists_members h hparts
  refine ⟨_, ⟨groups, hgroups, rfl, rfl⟩, Token.readAs_parenthesized ?_⟩
  rw [Token.chars_intercalate, List.map_map]
  exact (Token.readAs_spaced conjunction.keyword).intercalate (readAs_members hgroups)

/-- One case for each condition that holds others; in the others the group is all there is. -/
theorem exists_keepsGroups {c : Condition} (h : AllBalanced (c.texts (Select.sortNames d)))
    {b b' : Binder} {tokens : List Token} (hfill : (c.document d).fill b = .ok (tokens, b')) :
    ∃ items, c.OneGroup d tokens items ∧ c.KeepsGroups d tokens items := by
  have closed := (Condition.grouped h).group b tokens b' hfill
  have kept : ∃ items, c.KeepsGroups d tokens items ∧
      ReadAs (Token.chars d tokens) [.group items] := by
    cases c with
    | not c => exact keepsGroups_not (c := c) h hfill
    | list conjunction members => exact keepsGroups_list h hfill
    | _ =>
      obtain ⟨items, hitems⟩ := closed.exists_readAs
      exact ⟨items, trivial, hitems⟩
  obtain ⟨items, hkept, hread⟩ := kept
  exact ⟨items, ⟨⟨b, b', hfill⟩, closed, hread⟩, hkept⟩

/-- For a query that is to have no rows, a further condition is put behind its filter, and all
else stays as it is. -/
theorem exists_oneGroup_of_base {c : Condition} (h : AllBalanced (c.texts (Select.sortNames d)))
    {s : Select} (hs : s.filter = some c) (options : BaseOptions) {b b' : Binder}
    {tokens : List Token}
    (hfill : ((s.clauses d).base { options with alwaysEmpty := true }).fill b =
      .ok (tokens, b')) :
    ∃ front part back items, c.OneGroup d part items ∧
      ((s.clauses d).base { options with alwaysEmpty := false }).fill b =
        .ok (front ++ Token.spaced .WHERE ++ part ++ back, b') ∧
      tokens = front ++ Token.spaced .WHERE ++ part ++ Token.andNever ++ back := by
  have filter : (s.clauses d).filter = some (c.document d) := by
    cases s
    obtain rfl := hs
    rfl
  rw [Clauses.base_eq_where, filter, Clauses.whereClause_never] at hfill
  obtain ⟨front, b₁, rest, hfront, hrest, rfl⟩ := fill_append_eq_ok.1 hfill
  obtain ⟨_, b₂, back, hwhere, hback, rfl⟩ := fill_append_eq_ok.1 hrest
  obtain ⟨_, rfl, hcondition⟩ := fill_ofTokens_append_eq_ok.1 hwhere
  obtain ⟨part, rfl, hpart⟩ := fill_append_ofTokens_eq_ok.1 hcondition
  obtain ⟨items, hitems⟩ := exists_oneGroup h hpart
  refine ⟨front, part, back, items, hitems, ?_, by simp only [List.append_assoc]⟩
  have filtered : (ofTokens (Token.spaced .WHERE) ++ c.document d).fill b₁ =
      .ok (Token.spaced .WHERE ++ part, b₂) := fill_ofTokens_append_eq_ok.2 ⟨part, rfl, hpart⟩
  rw [Clauses.base_eq_where, filter, Clauses.whereClause_plain]
  refine fill_append_eq_ok.2 ⟨front, b₁, Token.spaced .WHERE ++ part ++ back, hfront, ?_, ?_⟩
  · exact fill_append_eq_ok.2 ⟨_, b₂, back, filtered, hback, rfl⟩
  · simp only [List.append_assoc]

/-- The text of a rendered condition is one group, and so is that of each condition within it. Of
a query with the condition as its filter, the text for no rows has a further condition behind the
filter, and the two are read as two groups with AND between them. -/
theorem always_one_group {c : Condition} (h : AllBalanced (c.texts (Select.sortNames d))) :
    (∀ b tokens b', (c.document d).fill b = .ok (tokens, b') →
      ∃ items, c.OneGroup d tokens items ∧ c.KeepsGroups d tokens items) ∧
    ∀ (s : Select) (options : BaseOptions), s.filter = some c → ∀ b tokens b',
      ((s.clauses d).base { options with alwaysEmpty := true }).fill b = .ok (tokens, b') →
      ∃ front part back items, c.OneGroup d part items ∧
        ((s.clauses d).base { options with alwaysEmpty := false }).fill b =
          .ok (front ++ Token.spaced .WHERE ++ part ++ back, b') ∧
        tokens = front ++ Token.spaced .WHERE ++ part ++ Token.andNever ++ back ∧
        ReadAs (Token.chars d (part ++ Token.andNever))
          (.group items :: letters " AND " ++ [.group (letters "1 = 0")]) := by
  refine ⟨fun b tokens b' hfill => exists_keepsGroups h hfill, ?_⟩
  intro s options hs b tokens b' hfill
  obtain ⟨front, part, back, items, hitems, hplain, htokens⟩ :=
    exists_oneGroup_of_base h hs options hfill
  refine ⟨front, part, back, items, hitems, hplain, htokens, ?_⟩
  rw [Token.chars_append]
  exact hitems.read.append Token.readAs_andNever

/-- A page of distinct rows by their numbers, an empty list of values behind NOT and an empty list
of conditions, in the filter of a query for no rows. -/
theorem always_one_group_ranked :
    let page : Select :=
      { dialect := .oracle
        source := .table "T"
        distinct := true
        order := [.ascending "T.a"]
        pagination := .limit 10 5 }
    let c : Condition :=
      .list .or [.inQuery "id" true page, .not (.inValues "b" false []), .list .and []]
    let s : Select := { dialect := .sqlServer, source := .table "U", filter := some c }
    AllBalanced (c.texts (Select.sortNames .sqlServer)) ∧
      ∃ tokens b', ((s.clauses .sqlServer).base { alwaysEmpty := true }).fill {} =
          .ok (tokens, b') ∧
        ∃ front part back items,
          tokens = front ++ Token.spaced .WHERE ++ part ++ Token.andNever ++ back ∧
          ReadAs (Token.chars .sqlServer (part ++ Token.andNever))
            (.group items :: letters " AND " ++ [.group (letters "1 = 0")]) ∧
          ∃ items, c.OneGroup .sqlServer part items ∧ c.KeepsGroups .sqlServer part items := by
  intro page c s
  have texts : AllBalanced (c.texts (Select.sortNames .sqlServer)) := by
    simp only [c, page]
    unfold AllBalanced
    decide
  have rendered : ∃ tokens b',
      ((s.clauses .sqlServer).base { alwaysEmpty := true }).fill {} = .ok (tokens, b') := by
    simp only [s, c, page]
    exact ⟨_, _, rfl⟩
  obtain ⟨tokens, b', hfill⟩ := rendered
  have groups := always_one_group texts
  obtain ⟨front, part, back, items, hpart, -, htokens, hread⟩ :=
    groups.2 s {} rfl {} tokens b' hfill
  obtain ⟨b₁, b₂, hrendered⟩ := hpart.rendered
  exact ⟨texts, tokens, b', hfill, front, part, back, items, htokens, hread,
    groups.1 b₁ part b₂ hrendered⟩

/-- All texts of this condition are balanced. The page within it sorts by `a)` from outside, and
the condition closes a parenthesis too many. -/
theorem group_closed_early :
    let page : Select :=
      { dialect := .sqlServer
        source := .table "T"
        distinct := true
        order := [.ascending "f(t.a)"]
        pagination := .limit 10 5 }
    let c : Condition := .inQuery "id" false page
    let text :=
      "(id IN (SELECT * FROM (SELECT ROW_NUMBER() OVER(ORDER BY a) ASC) AS PAGE_ROW_NUMBER," ++
        "PAGE_SRC.* FROM (SELECT DISTINCT * FROM T) AS PAGE_SRC) AS PAGE_TABLE " ++
        "WHERE PAGE_ROW_NUMBER BETWEEN 11 AND 15 ORDER BY PAGE_ROW_NUMBER))"
    AllBalanced (c.texts fun _ => []) ∧ c.render .sqlServer = .ok (text, []) ∧
      ¬ ClosedGroup text.toList := by
  intro page c text
  have texts : AllBalanced (c.texts fun _ => []) := by
    simp only [c, page]
    unfold AllBalanced
    decide
  -- the characters are taken from each token, which is less to compute than from the whole text
  have rendered : ∃ tokens, (c.document .sqlServer).fill {} = .ok (tokens, {}) ∧
      Token.textOf .sqlServer tokens = text ∧
      excess (tokens.flatMap fun t => (t.text .sqlServer).toList) = -1 := by
    simp only [c, page, text]
    exact ⟨_, rfl, by decide +kernel, by decide +kernel⟩
  obtain ⟨tokens, hfill, htext, hexcess⟩ := rendered
  refine ⟨texts, ?_, ?_⟩
  · rw [Condition.render, Document.render, hfill, ← htext]
    rfl
  · intro group
    have closed := group.closed
    rw [← htext] at closed
    rw [← Token.chars_eq_flatMap, Token.chars, closed] at hexcess
    exact absurd hexcess (by decide)

end Condition

end ParamSql
