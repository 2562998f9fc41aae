import ParamSql.Proofs.Columns.Output

/-!
# Taking a SELECT statement apart

The parts of a statement, read off its text: DISTINCT and TOP in front of the list, the entries of
the list, and the text of each clause from behind its keyword up to the next one. A statement that
is put together of parts that are read over has these parts again.
-/

namespace ParamSql

structure SelectText where
  distinct : Bool := false
  top : Option Nat := none
  entries : List Document
  source : Document
  filter : Option Document := none
  grouping : Option Document := none
  having : Option Document := none
  order : Option Document := none
  limit : Option Document := none
  offset : Option Document := none

namespace Document

def endsClause (piece : Piece) : Bool := 1 < piece.rank

def isKeyword (word : Keyword) (piece : Piece) : Bool := piece = .token (.keyword word)

theorem isKeyword_keyword (word other : Keyword) :
    isKeyword word (.token (.keyword other)) = decide (other = word) := by
  simp [isKeyword]

theorem rank_of_isKeyword {word : Keyword} (hword : word.beginsClause = true) {piece : Piece}
    (h : isKeyword word piece = true) : 1 < piece.rank := by
  rw [of_decide_eq_true h]
  simp [Piece.rank, hword]

/-- The text up to the next clause. -/
def clauseBody (d : Document) : Document :=
  match upTo endsClause 0 d with
  | (text, []) => text
  | (text, _ :: _) => text.dropLast

def clauseText? (word : Keyword) (d : Document) : Option Document :=
  match (upTo (isKeyword word) 0 d).2 with
  | [] => none
  | _ :: rest => some (clauseBody (rest.drop 1))

def selectsDistinct : Document → Bool
  | .token (.keyword .SELECT) :: .token .space :: .token (.keyword .DISTINCT) :: _ => true
  | _ => false

/-- The number of `TOP n` in front of a list. -/
def leadingTop? : Document → Option Nat
  | .token (.keyword .TOP) :: .token .space :: .token (.integer n) :: _ => some n.toNat
  | _ => none

def topCount? : Document → Option Nat
  | .token (.keyword .SELECT) :: .token .space :: rest => leadingTop? (afterDistinct rest)
  | _ => none

def selectText (d : Document) : SelectText where
  distinct := d.selectsDistinct
  top := d.topCount?
  entries := (listFrom 0 [] d.listText).1
  source := (d.clauseText? .FROM).getD []
  filter := d.clauseText? .WHERE
  grouping := d.clauseText? .GROUP_BY
  having := d.clauseText? .HAVING
  order := d.clauseText? .ORDER_BY
  limit := d.clauseText? .LIMIT
  offset := d.clauseText? .OFFSET

theorem Begins.leadingTop? {e : Document} (h : e.Begins) : e.leadingTop? = none := by
  unfold Document.leadingTop?
  split
  · exact absurd rfl (h.head .TOP)
  · rfl

theorem Begins.selectsDistinct {e : Document} (h : e.Begins) :
    selectsDistinct (.token (.keyword .SELECT) :: .token .space :: e) = false := by
  unfold Document.selectsDistinct
  split
  · rename_i heq
    obtain ⟨-, heq⟩ := List.cons.inj heq
    obtain ⟨-, rfl⟩ := List.cons.inj heq
    exact absurd rfl (h.head .DISTINCT)
  · rfl

def ofClauses (clauses : List (Keyword × Document)) : Document :=
  clauses.flatMap fun (word, text) => clause word ++ text

theorem ofClauses_cons (word : Keyword) (text : Document) (clauses : List (Keyword × Document)) :
    ofClauses ((word, text) :: clauses) =
      .token .space :: .token (.keyword word) :: .token .space :: (text ++ ofClauses clauses) := by
  simp [ofClauses, clause, space, keyword]

theorem not_sortsAtOnce_ofClauses (clauses : List (Keyword × Document)) :
    ¬SortsAtOnce (ofClauses clauses) := by
  cases clauses with
  | nil => exact nofun
  | cons first clauses =>
    rw [ofClauses_cons]
    exact not_sortsAtOnce_mark _ _

theorem readOver_ofClauses {clauses : List (Keyword × Document)}
    (h : ∀ c ∈ clauses, ReadOver 1 c.2) : ReadOver 2 (ofClauses clauses) := by
  induction clauses with
  | nil => exact .nil
  | cons c clauses ih =>
    have first := (h c List.mem_cons_self).mono (Nat.le_succ 1)
    exact ((ReadOver.anyClause c.1).append first).append
      (ih fun c hc => h c (List.mem_cons_of_mem _ hc))

theorem clauseBody_append {text : Document} (h : ReadOver 1 text)
    {clauses : List (Keyword × Document)}
    (hclauses : ∀ c ∈ clauses, c.1.beginsClause = true) :
    clauseBody (text ++ ofClauses clauses) = text := by
  have read := h.scan endsClause 0 (ofClauses clauses)
    (fun _ _ hp => of_decide_eq_true hp) (not_sortsAtOnce_ofClauses clauses)
  rw [clauseBody, read]
  cases clauses with
  | nil => simp [ofClauses, upTo]
  | cons first clauses =>
    have ends : endsClause (.token (.keyword first.1)) = true := by
      simp [endsClause, Piece.rank, hclauses first List.mem_cons_self]
    have blank : endsClause (.token .space) = false := rfl
    rw [ofClauses_cons]
    simp [upTo, ends, blank, depthBehind]

/-- Each clause is found behind a text without its keyword, and behind clauses with others. -/
theorem clauseText?_append {word : Keyword} {head : Document}
    (hhead : ∀ rest, ¬SortsAtOnce rest →
      (upTo (isKeyword word) 0 (head ++ rest)).2 =
        (upTo (isKeyword word) 0 rest).2)
    {clauses : List (Keyword × Document)}
    (hclauses : ∀ c ∈ clauses, c.1.beginsClause = true ∧ ReadOver 1 c.2)
    (hword : word.beginsClause = true) :
    clauseText? word (head ++ ofClauses clauses) = clauses.lookup word := by
  -- A clause that is passed becomes part of the head.
  induction clauses generalizing head with
  | nil =>
    have nothing := hhead [] nofun
    rw [List.append_nil] at nothing
    simp [clauseText?, ofClauses, nothing, upTo]
  | cons first clauses ih =>
    obtain ⟨other, text⟩ := first
    obtain ⟨hother, htext⟩ := hclauses _ List.mem_cons_self
    have behind := fun c hc => hclauses c (List.mem_cons_of_mem _ hc)
    by_cases hsame : word = other
    · subst hsame
      have found : (upTo (isKeyword word) 0
          (ofClauses ((word, text) :: clauses))).2 =
          .token (.keyword word) :: .token .space :: (text ++ ofClauses clauses) := by
        have blank : isKeyword word (.token .space) = false := rfl
        simp [ofClauses_cons, upTo, depthBehind, blank, isKeyword_keyword]
      rw [clauseText?, hhead _ (not_sortsAtOnce_ofClauses _), found, List.lookup_cons_self]
      exact congrArg some (clauseBody_append htext fun c hc => (behind c hc).1)
    · have passed : ∀ rest, ¬SortsAtOnce rest →
          (upTo (isKeyword word) 0 (head ++ clause other ++ text ++ rest)).2 =
            (upTo (isKeyword word) 0 rest).2 := by
        intro rest hrest
        have read := htext.scan (isKeyword word) 0 rest (fun _ _ => rank_of_isKeyword hword) hrest
        have blank : isKeyword word (.token .space) = false := rfl
        rw [List.append_assoc, List.append_assoc,
          hhead (clause other ++ (text ++ rest)) (not_sortsAtOnce_mark _ _)]
        simp [clause, space, Document.keyword, upTo, depthBehind, read, blank, isKeyword_keyword,
          Ne.symm hsame]
      have unfolded : head ++ ofClauses ((other, text) :: clauses) =
          head ++ clause other ++ text ++ ofClauses clauses := by
        simp [ofClauses]
      rw [unfolded, ih passed behind, List.lookup_cons, beq_false_of_ne hsame]

end Document

namespace SelectText

open Document

def clauses (t : SelectText) : List (Keyword × Document) :=
  (.FROM, t.source) :: (t.filter.toList.map (Prod.mk .WHERE) ++
    t.grouping.toList.map (Prod.mk .GROUP_BY) ++ t.having.toList.map (Prod.mk .HAVING) ++
    t.order.toList.map (Prod.mk .ORDER_BY) ++ t.limit.toList.map (Prod.mk .LIMIT) ++
    t.offset.toList.map (Prod.mk .OFFSET))

/-- `SELECT [DISTINCT ][TOP n ]entries` -/
def head (t : SelectText) : Document :=
  keyword .SELECT ++ space ++ (if t.distinct then keyword .DISTINCT ++ space else []) ++
    (t.top.elim [] fun n => keyword .TOP ++ space ++ [.token (.integer n)] ++ space) ++
    separatedBy comma t.entries

def document (t : SelectText) : Document := t.head ++ ofClauses t.clauses

theorem document_eq (t : SelectText) :
    t.document = t.head ++ clause .FROM ++ t.source ++ t.filter.elim [] (clause .WHERE ++ ·) ++
      t.grouping.elim [] (clause .GROUP_BY ++ ·) ++ t.having.elim [] (clause .HAVING ++ ·) ++
      t.order.elim [] (clause .ORDER_BY ++ ·) ++ t.limit.elim [] (clause .LIMIT ++ ·) ++
      t.offset.elim [] (clause .OFFSET ++ ·) := by
  have optional (word : Keyword) (text : Option Document) :
      ofClauses (text.toList.map (Prod.mk word)) = text.elim [] (clause word ++ ·) := by
    cases text <;> simp [ofClauses]
  have append (a b : List (Keyword × Document)) : ofClauses (a ++ b) = ofClauses a ++ ofClauses b :=
    List.flatMap_append
  have first (rest : List (Keyword × Document)) :
      ofClauses ((.FROM, t.source) :: rest) = clause .FROM ++ t.source ++ ofClauses rest :=
    List.flatMap_cons
  rw [document, clauses, first]
  simp only [append, optional, List.append_assoc]

/-- Parts that are told apart in a statement. -/
structure Legible (t : SelectText) : Prop where
  entries : ∀ e ∈ t.entries, ReadOver 0 e
  first : ∃ entry rest, t.entries = entry :: rest ∧ entry.Begins
  source : ReadOver 1 t.source
  filter : ∀ e ∈ t.filter, ReadOver 1 e
  grouping : ∀ e ∈ t.grouping, ReadOver 1 e
  having : ∀ e ∈ t.having, ReadOver 1 e
  order : ∀ e ∈ t.order, ReadOver 1 e
  limit : ∀ e ∈ t.limit, ReadOver 1 e
  offset : ∀ e ∈ t.offset, ReadOver 1 e

variable {t : SelectText}

theorem mem_clauses {c : Keyword × Document} :
    c ∈ t.clauses ↔ c = (.FROM, t.source) ∨ (∃ e ∈ t.filter, (.WHERE, e) = c) ∨
      (∃ e ∈ t.grouping, (.GROUP_BY, e) = c) ∨ (∃ e ∈ t.having, (.HAVING, e) = c) ∨
      (∃ e ∈ t.order, (.ORDER_BY, e) = c) ∨ (∃ e ∈ t.limit, (.LIMIT, e) = c) ∨
      ∃ e ∈ t.offset, (.OFFSET, e) = c := by
  simp only [clauses, List.mem_cons, List.mem_append, List.mem_map, Option.mem_toList,
    Option.mem_def, or_assoc]

theorem beginsClause_of_mem_clauses {c : Keyword × Document} (h : c ∈ t.clauses) :
    c.1.beginsClause = true := by
  rcases mem_clauses.1 h with rfl | ⟨_, _, rfl⟩ | ⟨_, _, rfl⟩ | ⟨_, _, rfl⟩ | ⟨_, _, rfl⟩ |
    ⟨_, _, rfl⟩ | ⟨_, _, rfl⟩ <;> rfl

namespace Legible

variable (h : t.Legible)

include h

theorem clauses {c : Keyword × Document} (hc : c ∈ t.clauses) : ReadOver 1 c.2 := by
  rcases mem_clauses.1 hc with rfl | ⟨e, he, rfl⟩ | ⟨e, he, rfl⟩ | ⟨e, he, rfl⟩ | ⟨e, he, rfl⟩ |
    ⟨e, he, rfl⟩ | ⟨e, he, rfl⟩
  · exact h.source
  · exact h.filter e he
  · exact h.grouping e he
  · exact h.having e he
  · exact h.order e he
  · exact h.limit e he
  · exact h.offset e he

theorem head : ReadOver 1 t.head := by
  have select : ReadOver 1 (keyword .SELECT ++ space) :=
    (ReadOver.keyword (by decide)).append .space
  have distinct : ReadOver 1 (if t.distinct then keyword .DISTINCT ++ space else []) :=
    .given ((ReadOver.keyword (by decide)).append .space)
  have count (n : Int) : ReadOver 1 [.token (.integer n)] :=
    .piece nofun nofun nofun (Nat.zero_le 1)
  have top : ReadOver 1
      (t.top.elim [] fun n => keyword .TOP ++ space ++ [.token (.integer n)] ++ space) :=
    .optional fun n _ => (((ReadOver.keyword (by decide)).append .space).append
      (count n)).append .space
  have list : ReadOver 1 (separatedBy comma t.entries) :=
    .separatedBy .comma fun e he => (h.entries e he).mono (Nat.zero_le 1)
  exact ((select.append distinct).append top).append list

theorem readOver : ReadOver 2 t.document :=
  (h.head.mono (Nat.le_succ 1)).append (readOver_ofClauses fun _ hc => h.clauses hc)

theorem clauseText? (word : Keyword) (hword : word.beginsClause = true) :
    t.document.clauseText? word = t.clauses.lookup word := by
  refine clauseText?_append ?_
    (fun c hc => ⟨beginsClause_of_mem_clauses hc, h.clauses hc⟩) hword
  intro rest hrest
  rw [h.head.scan (isKeyword word) 0 rest (fun _ _ => rank_of_isKeyword hword) hrest]

theorem front :
    t.document.selectsDistinct = t.distinct ∧ t.document.topCount? = t.top ∧
      listFrom 0 [] t.document.listText = (t.entries, t.source ++ ofClauses t.clauses.tail) := by
  obtain ⟨entry, rest, hentries, hbegins⟩ := h.first
  let list : Document := separatedBy comma t.entries ++ ofClauses t.clauses
  have begins : list.Begins := by
    simp only [list, hentries]
    exact (hbegins.separatedBy comma rest).append _
  have entries : listFrom 0 [] list = (t.entries, t.source ++ ofClauses t.clauses.tail) := by
    have read := h.entries
    rw [hentries] at read
    have unfolded : list = separatedBy comma (entry :: rest) ++ clause .FROM ++
        (t.source ++ ofClauses t.clauses.tail) := by
      simp [list, hentries, SelectText.clauses, ofClauses]
    rw [unfolded, listFrom_entries read, hentries]
  have text : t.document = .token (.keyword .SELECT) :: .token .space ::
      ((if t.distinct then keyword .DISTINCT ++ space else []) ++
        ((t.top.elim [] fun n => keyword .TOP ++ space ++ [.token (.integer n)] ++ space) ++
          list)) := by
    simp [document, SelectText.head, keyword, space, list]
  rw [← entries, text]
  cases t.distinct with
  | true =>
    cases t.top with
    | none =>
      refine ⟨rfl, begins.leadingTop?, ?_⟩
      exact congrArg (listFrom 0 []) begins.afterTop
    | some n => exact ⟨rfl, rfl, rfl⟩
  | false =>
    cases t.top with
    | none =>
      refine ⟨begins.selectsDistinct, ?_, ?_⟩
      · exact (congrArg leadingTop? begins.afterDistinct).trans begins.leadingTop?
      · refine congrArg (listFrom 0 []) ?_
        exact (congrArg afterTop begins.afterDistinct).trans begins.afterTop
    | some n => exact ⟨rfl, rfl, rfl⟩

/-- A statement is read as the parts it is put together of. -/
theorem selectText_document : t.document.selectText = t := by
  obtain ⟨distinct, top, list⟩ := h.front
  have texts := h.clauseText?
  rw [Document.selectText, distinct, top, list, texts .FROM rfl, texts .WHERE rfl,
    texts .GROUP_BY rfl, texts .HAVING rfl, texts .ORDER_BY rfl, texts .LIMIT rfl,
    texts .OFFSET rfl]
  obtain ⟨_, _, _, _, filter, grouping, having, order, limit, offset⟩ := t
  cases filter <;> cases grouping <;> cases having <;> cases order <;> cases limit <;>
    cases offset <;> rfl

end Legible

end SelectText

end ParamSql
