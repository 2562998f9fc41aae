import ParamSql.Proofs.Document.Filling
import ParamSql.Proofs.Layout.Groups
import ParamSql.Proofs.Layout.Tokens
import ParamSql.Rendering.Fragment

/-!
# Layout of fragments

A document is laid out when, however its holes are filled, its tokens are. The
fragments of a statement are, as soon as the texts they are made from close
the parentheses they open. Those that are conditions are each one group.
-/

namespace ParamSql

open Text

/-- Texts that a parameter brings into a statement: its name in a placeholder,
or the SQL in its place. -/
def Parameter.texts : Parameter → List String
  | bound _ name _ _ => name.toList
  | raw _ sql _ => [sql]

def GroupKey.texts : GroupKey → List String
  | column table name => table.toList ++ [name]
  | expression sql => [sql]

/-- Texts that each close the parentheses they open. -/
def Text.AllBalanced (texts : List String) : Prop := ∀ text ∈ texts, Balanced text.toList

theorem Text.AllBalanced.left {texts texts' : List String} (h : AllBalanced (texts ++ texts')) :
    AllBalanced texts := fun text htext => h text (List.mem_append_left _ htext)

theorem Text.AllBalanced.right {texts texts' : List String} (h : AllBalanced (texts ++ texts')) :
    AllBalanced texts' := fun text htext => h text (List.mem_append_right _ htext)

theorem Text.AllBalanced.head {text : String} {texts : List String}
    (h : AllBalanced (text :: texts)) : Balanced text.toList := h text List.mem_cons_self

theorem Text.AllBalanced.tail {text : String} {texts : List String}
    (h : AllBalanced (text :: texts)) : AllBalanced texts :=
  fun other hother => h other (List.mem_cons_of_mem _ hother)

theorem Text.allBalanced_append {texts texts' : List String} :
    AllBalanced (texts ++ texts') ↔ AllBalanced texts ∧ AllBalanced texts' := by
  constructor
  · intro h
    exact ⟨h.left, h.right⟩
  · rintro ⟨h, h'⟩ text htext
    rcases List.mem_append.1 htext with htext | htext
    · exact h text htext
    · exact h' text htext

namespace Keyword

theorem balanced_text (word : Keyword) : Balanced word.text.toList := by
  cases word <;> decide

end Keyword

namespace Token

theorem balanced_placeholder (d : Dialect) {name : String} (h : Balanced name.toList) :
    Balanced (text d (.placeholder name)).toList := by
  have mark : Balanced (d.placeholderMark ++ "PN_").toList := by cases d <;> decide
  rw [text, String.toList_append]
  exact mark.append h

theorem balanced_bind (d : Dialect) (b : Binder) {p : Parameter} (h : AllBalanced p.texts) :
    Balanced ((b.bind p).1.text d).toList ∧ (b.bind p).1.clause? = none := by
  match p with
  | .raw _ sql _ => exact ⟨h.head, rfl⟩
  | .bound _ (some name) .. => exact ⟨balanced_placeholder d h.head, rfl⟩
  | .bound _ none .. =>
    have index : Balanced (Binder.indexedName b.next).toList := by
      have stem : Balanced "IDX_".toList := by decide
      rw [Binder.indexedName, String.toList_append]
      exact stem.append (balanced_digits b.next)
    exact ⟨balanced_placeholder d index, rfl⟩

end Token

namespace Document

/-- The tokens of a document are laid out, however its holes are filled. -/
def Laid (d : Dialect) (required order : List Keyword) (document : Document) : Prop :=
  ∀ b tokens b', document.fill b = .ok (tokens, b') → Token.Laid d required order tokens

/-- A document laid out without a clause at depth zero. -/
abbrev Closed (d : Dialect) : Document → Prop := Laid d [] []

namespace Laid

variable {d : Dialect} {required required' order order' : List Keyword} {e f : Document}

theorem nil : Closed d [] := by
  intro b tokens b' h
  obtain ⟨rfl, -⟩ := Prod.mk.inj (Except.ok.inj h)
  exact .nil

theorem append (he : Laid d required order e) (hf : Laid d required' order' f) :
    Laid d (required ++ required') (order ++ order') (e ++ f) := by
  intro b tokens b' h
  obtain ⟨front, middle, back, hfront, hback, rfl⟩ := fill_append_eq_ok.1 h
  exact (he _ _ _ hfront).append (hf _ _ _ hback)

theorem weaken (h : Laid d required order e) (hrequired : required'.Sublist required)
    (horder : order.Sublist order') : Laid d required' order' e := by
  intro b tokens b' hfill
  exact (h b tokens b' hfill).weaken hrequired horder

theorem appendClosed (he : Laid d required order e) (hf : Closed d f) :
    Laid d required order (e ++ f) := by
  have whole := he.append hf
  rw [List.append_nil, List.append_nil] at whole
  exact whole

theorem failing (error : Error) : Laid d required order (failing error) := by
  intro b tokens b' h
  exact nomatch h

theorem token {t : Token} (h : Balanced (t.text d).toList) :
    Laid d t.clause?.toList t.clause?.toList [.token t] := by
  intro b tokens b' hfill
  obtain ⟨tail, rfl, htail⟩ := fill_token_eq_ok.1 hfill
  obtain ⟨rfl, -⟩ := Prod.mk.inj (Except.ok.inj htail)
  exact .single h

theorem hole {p : Parameter} (h : AllBalanced p.texts) : Closed d [.hole p] := by
  intro b tokens b' hfill
  obtain ⟨tail, rfl, htail⟩ := fill_hole_eq_ok.1 hfill
  obtain ⟨rfl, -⟩ := Prod.mk.inj (Except.ok.inj htail)
  obtain ⟨balanced, none⟩ := Token.balanced_bind d b h
  have single := Token.Laid.single balanced
  rw [none] at single
  exact single

theorem identifier {text : String} (h : Balanced text.toList) : Closed d (identifier text) :=
  token h

theorem raw {sql : String} (h : Balanced sql.toList) : Closed d (raw sql) := token h

theorem keyword (word : Keyword) :
    Laid d (Token.clause? (.keyword word)).toList (Token.clause? (.keyword word)).toList
      (keyword word) := token word.balanced_text

theorem mark {sign : Mark} (h : Balanced sign.text.toList) : Closed d [.token (.mark sign)] :=
  token h

theorem space : Closed d space := mark (by decide)

theorem comma : Closed d comma := mark (by decide)

theorem star : Closed d [.token .star] := mark (by decide)

theorem clause (word : Keyword) :
    Laid d (Token.clause? (.keyword word)).toList (Token.clause? (.keyword word)).toList
      (clause word) := (space.append (keyword word)).appendClosed space

theorem enclosed {opener : Token} (hclause : opener.clause? = none)
    (hfronts : ∀ front ∈ (opener.text d).toList.inits, 0 ≤ excess front)
    (hone : excess (opener.text d).toList = 1) (h : Laid d required order e) :
    Closed d (.token opener :: e ++ [.token .closing]) := by
  intro b tokens b' hfill
  rw [List.cons_append] at hfill
  obtain ⟨rest, rfl, hrest⟩ := fill_token_eq_ok.1 hfill
  obtain ⟨front, middle, back, hfront, hback, rfl⟩ := fill_append_eq_ok.1 hrest
  obtain ⟨tail, rfl, htail⟩ := fill_token_eq_ok.1 hback
  obtain ⟨rfl, -⟩ := Prod.mk.inj (Except.ok.inj htail)
  exact (h b front middle hfront).enclosed hclause hfronts hone

theorem parenthesized (h : Laid d required order e) : Closed d (parenthesized e) := by
  have fronts : ∀ front ∈ "(".toList.inits, 0 ≤ excess front := by decide
  have one : excess "(".toList = 1 := by decide
  exact h.enclosed rfl fronts one

theorem separatedBy {separator : Document} (hs : Closed d separator) {ds : List Document}
    (h : ∀ e ∈ ds, Closed d e) : Closed d (separatedBy separator ds) := by
  induction ds with
  | nil => exact nil
  | cons e es ih =>
    have head := h e List.mem_cons_self
    cases es with
    | nil => exact head
    | cons f fs =>
      have tail := ih fun g hg => h g (List.mem_cons_of_mem _ hg)
      exact (head.append hs).append tail

theorem given {p : Prop} [Decidable p] (h : p → Laid d required order e) :
    Laid d [] order (if p then e else []) := by
  split
  · exact (h ‹p›).weaken (List.nil_sublist _) (.refl _)
  · exact nil.weaken (.refl _) (List.nil_sublist _)

theorem omitted {p : Prop} [Decidable p] (h : ¬p → Laid d required order e) :
    Laid d [] order (if p then [] else e) := by
  split
  · exact nil.weaken (.refl _) (List.nil_sublist _)
  · exact (h ‹¬p›).weaken (List.nil_sublist _) (.refl _)

theorem optional {α : Type} {x : Option α} {f : α → Document}
    (h : ∀ a ∈ x, Laid d required order (f a)) : Laid d [] order (x.elim [] f) := by
  cases x with
  | none => exact nil.weaken (.refl _) (List.nil_sublist _)
  | some a => exact (h a rfl).weaken (List.nil_sublist _) (.refl _)

theorem rowCount (n : UInt64) : Closed d (rowCount n) := by
  unfold Document.rowCount
  split
  · exact token (balanced_digits n.toNat)
  · exact failing _

theorem operatorTokens (operator : Operator) : Closed d (ofTokens operator.tokens) := by
  have mark (sign : Mark) (h : Balanced sign.text.toList) : Closed d [.token (.mark sign)] :=
    Laid.mark h
  cases operator with
  | isNull => exact keyword .IS_NULL
  | isNotNull => exact keyword .IS_NOT_NULL
  | equal => exact mark .equal (by decide)
  | notEqual => exact mark .notEqual (by decide)
  | greaterThan => exact mark .greater (by decide)
  | lessThan => exact mark .less (by decide)
  | greaterThanOrEqual => exact mark .greaterOrEqual (by decide)
  | lessThanOrEqual => exact mark .lessOrEqual (by decide)
  | like => exact keyword .LIKE
  | notLike => exact (keyword .NOT).append (space.append (keyword .LIKE))
  | between => exact keyword .BETWEEN
  | notBetween => exact (keyword .NOT).append (space.append (keyword .BETWEEN))

theorem operands (operator : Operator) {ps : List Parameter}
    (h : ∀ p ∈ ps, AllBalanced p.texts) : Closed d (operands operator ps) := by
  match ps with
  | [] => exact nil
  | [p] => exact space.append (hole (h p (by simp)))
  | [low, high] =>
    have first : Closed d (Document.space ++ [.hole low]) := space.append (hole (h low (by simp)))
    exact (first.append (clause .AND)).append (hole (h high (by simp)))
  | _ :: _ :: _ :: _ => exact failing _

theorem qualified {table : Option String} (htable : AllBalanced table.toList)
    (h : Laid d required order e) : Laid d required order (qualified table e) := by
  cases table with
  | none => exact h
  | some name =>
    have dot : Closed d [.token .dot] := mark (by decide)
    exact ((identifier htable.head).append dot).append h

theorem tableAlias {name : String} (h : Balanced name.toList) : Closed d (tableAlias d name) := by
  have word : Closed d
      (if d.namesTablesWithAs then Document.keyword .AS ++ Document.space else []) :=
    given fun _ => (keyword .AS).append space
  exact (space.append word).append (identifier h)

theorem limitOffset (size start : Option UInt64) :
    Laid d [] [.LIMIT, .OFFSET] (limitOffset size start) := by
  have limit : Laid d [] [.LIMIT]
      (size.elim [] fun n => Document.keyword .LIMIT ++ Document.space ++ Document.rowCount n) :=
    optional fun n _ => ((keyword .LIMIT).appendClosed space).appendClosed (rowCount n)
  have blank : Closed d (if size.isSome then Document.space else []) := given fun _ => space
  have offset : Laid d [] [.OFFSET] ((start.filter (· ≠ 0)).elim [] fun n =>
      (if size.isSome then Document.space else []) ++ Document.keyword .OFFSET ++
        Document.space ++ Document.rowCount n) :=
    optional fun n _ => ((blank.append (keyword .OFFSET)).appendClosed space).appendClosed
      (rowCount n)
  have whole : Laid d [] [.LIMIT, .OFFSET] _ := limit.append offset
  unfold Document.limitOffset
  cases size <;> cases hstart : start.filter (· ≠ 0) <;>
    simpa only [hstart, Option.elim, List.append_nil, List.append_assoc] using whole

theorem rowNumberRange {column : String} (hcolumn : Balanced column.toList) (w : Window) :
    Laid d [.WHERE] [.WHERE] (rowNumberRange column w) := by
  have left := ((clause .WHERE).appendClosed (identifier hcolumn)).appendClosed
    (clause (d := d) .BETWEEN)
  exact ((left.appendClosed (rowCount _)).appendClosed (clause .AND)).appendClosed (rowCount _)

theorem selectAllFrom (h : Laid d required order e) (top : Option UInt64) {name : Option String}
    (hname : AllBalanced name.toList) :
    Laid d [.SELECT, .FROM] [.SELECT, .TOP, .FROM] (selectAllFrom d e top name) := by
  have first : Laid d [] [.TOP] (top.elim [] fun n =>
      Document.keyword .TOP ++ Document.space ++ Document.rowCount n ++ Document.space) :=
    optional fun n _ => (((keyword .TOP).appendClosed space).appendClosed
      (rowCount n)).appendClosed space
  have last : Closed d (name.elim [] (Document.tableAlias d)) := by
    apply optional
    intro label hlabel
    exact tableAlias (hname label (Option.mem_toList.2 hlabel))
  have front := (((keyword .SELECT).appendClosed space).append first).appendClosed (star (d := d))
  rw [Document.selectAllFrom_eq]
  exact ((front.append (clause .FROM)).appendClosed h.parenthesized).appendClosed last

theorem orderBy {entries : Option Document} (h : ∀ e ∈ entries, Closed d e) :
    Laid d [] [.ORDER_BY] (orderBy entries) := by
  have words : Laid d [] [.ORDER_BY] (entries.elim [] (Document.clause .ORDER_BY ++ ·)) :=
    optional fun e he => (clause .ORDER_BY).appendClosed (h e he)
  cases entries with
  | none => exact words
  | some e => exact words

end Laid

/-- A document whose text is one group, however its holes are filled. -/
structure Grouped (d : Dialect) (document : Document) : Prop where
  closed : Closed d document
  group : ∀ b tokens b', document.fill b = .ok (tokens, b') →
    ClosedGroup (Token.chars d tokens)

theorem Laid.grouped {d : Dialect} {required order : List Keyword} {e : Document}
    (h : Laid d required order e) : Grouped d (Document.parenthesized e) := by
  refine ⟨h.parenthesized, ?_⟩
  intro b tokens b' hfill
  obtain ⟨inner, rfl, hinner⟩ := fill_parenthesized_eq_ok.1 hfill
  rw [Token.chars_parenthesized]
  exact (h b inner b' hinner).balanced.closedGroup

namespace Grouped

variable {d : Dialect} {required order : List Keyword} {e : Document}

theorem comparison {column : String} (hcolumn : Balanced column.toList) (operator : Operator)
    {ps : List Parameter} (h : ∀ p ∈ ps, AllBalanced p.texts) :
    Grouped d (comparison column operator ps) := by
  have left : Closed d (identifier column ++ space) := (Laid.identifier hcolumn).append .space
  exact ((left.append (.operatorTokens operator)).append (.operands operator h)).grouped

theorem columnComparison {left right : String} (hleft : Balanced left.toList)
    (operator : Operator) (hright : Balanced right.toList) :
    Grouped d (columnComparison left operator right) := by
  have front : Closed d (identifier left ++ space) := (Laid.identifier hleft).append .space
  exact (((front.append (.operatorTokens operator)).append .space).append
    (.identifier hright)).grouped

theorem membership {column : String} (hcolumn : Balanced column.toList) (negated : Bool)
    (h : Laid d required order e) : Grouped d (membership column negated e) := by
  have left : Closed d (identifier column ++ space) := (Laid.identifier hcolumn).append .space
  have negation : Closed d (if negated then keyword .NOT ++ space else []) :=
    .given fun _ => (Laid.keyword .NOT).append .space
  exact ((((left.append negation).append (.keyword .IN)).append .space).append
    h.parenthesized).grouped

theorem raw {sql : String} (h : ClosedGroup sql.toList) : Grouped d (raw sql) := by
  refine ⟨.raw h.balanced, ?_⟩
  intro b tokens b' hfill
  obtain ⟨tail, rfl, htail⟩ := fill_token_eq_ok.1 hfill
  obtain ⟨rfl, -⟩ := Prod.mk.inj (Except.ok.inj htail)
  rw [Token.chars_singleton]
  exact h

theorem valueMembership {column : String} (hcolumn : Balanced column.toList) (negated : Bool)
    {ps : List Parameter} (h : ∀ p ∈ ps, AllBalanced p.texts) :
    Grouped d (valueMembership column negated ps) := by
  unfold Document.valueMembership
  split
  · exact raw (by cases negated <;> decide)
  · refine membership hcolumn negated (.separatedBy .comma ?_)
    intro e he
    obtain ⟨p, hp, rfl⟩ := List.mem_map.1 he
    exact .hole (h p hp)

theorem negation (h : Laid d required order e) : Grouped d (negation e) :=
  ((Laid.keyword .NOT).append h.parenthesized).grouped

theorem conjunctionList (conjunction : Conjunction) {ds : List Document}
    (h : ∀ e ∈ ds, Closed d e) : Grouped d (conjunctionList conjunction ds) := by
  have separator : Closed d (clause conjunction.keyword) := by
    cases conjunction with
    | and => exact .clause .AND
    | or => exact .clause .OR
  exact (Laid.separatedBy separator h).grouped

end Grouped

theorem Laid.groupKey {d : Dialect} {k : GroupKey} (h : AllBalanced k.texts) :
    Closed d k.document := by
  cases k with
  | column table name => exact .qualified h.left (.identifier h.right.head)
  | expression sql => exact .raw h.head

end Document

end ParamSql
