import ParamSql.Proofs.Layout.Parentheses
import ParamSql.Token

/-!
# Clauses outside parentheses

The depth of a token is the number of parentheses that the text in front of it
leaves open. The words that open a clause are read off at depth zero: there
they belong to the statement itself, and at any other depth to a query within.
-/

namespace ParamSql

/-- Words that open a clause of a statement. -/
def Keyword.isClause : Keyword → Bool
  | SELECT | TOP | FROM | WHERE | GROUP_BY | HAVING | ORDER_BY | LIMIT | OFFSET => true
  | INSERT | INTO | VALUES | UPDATE | SET | DELETE => true
  | _ => false

namespace Token

open Text

def clause? : Token → Option Keyword
  | keyword word => if word.isClause then some word else none
  | _ => none

def chars (d : Dialect) (tokens : List Token) : List Char := (textOf d tokens).toList

/-- Clauses at depth zero, from left to right, when the first token is at `depth`. -/
def outerClauses (d : Dialect) : Int → List Token → List Keyword
  | _, [] => []
  | depth, t :: ts =>
    (if depth = 0 then t.clause?.toList else []) ++
      outerClauses d (depth + excess (t.text d).toList) ts

variable {d : Dialect}

@[simp] theorem chars_nil : chars d [] = [] := rfl

@[simp] theorem chars_append (a b : List Token) : chars d (a ++ b) = chars d a ++ chars d b := by
  simp [chars, textOf]

@[simp] theorem chars_cons (t : Token) (ts : List Token) :
    chars d (t :: ts) = (t.text d).toList ++ chars d ts := by
  simp [chars, textOf]

theorem chars_singleton (t : Token) : chars d [t] = (t.text d).toList := by
  rw [chars_cons, chars_nil, List.append_nil]

theorem chars_parenthesized (tokens : List Token) :
    chars d (parenthesized tokens) = '(' :: chars d tokens ++ [')'] := by
  simp [parenthesized, text, Mark.text]

theorem outerClauses_append (depth : Int) (a b : List Token) :
    outerClauses d depth (a ++ b) =
      outerClauses d depth a ++ outerClauses d (depth + excess (chars d a)) b := by
  induction a generalizing depth with
  | nil => simp [outerClauses]
  | cons t ts ih =>
    rw [List.cons_append, outerClauses, ih, outerClauses, chars_cons, excess_append,
      List.append_assoc, Int.add_assoc]

theorem outerClauses_inside {depth : Int} {tokens : List Token}
    (h : ∀ front, front <+: chars d tokens → 0 < depth + excess front) :
    outerClauses d depth tokens = [] := by
  induction tokens generalizing depth with
  | nil => rfl
  | cons t ts ih =>
    have here := h [] List.nil_prefix
    have hdepth : depth ≠ 0 := by
      intro hzero
      rw [hzero] at here
      exact absurd here (by decide)
    rw [outerClauses, if_neg hdepth, List.nil_append]
    apply ih
    intro front hfront
    have whole : (t.text d).toList ++ front <+: chars d (t :: ts) := by
      rw [chars_cons]
      exact (List.prefix_append_right_inj _).2 hfront
    have next := h _ whole
    rw [excess_append] at next
    omega

/-- Tokens whose text closes what it opens. The clauses at depth zero are in the
order of `order`, each as often as there at most, and the `required` ones are
among them. -/
structure Laid (d : Dialect) (required order : List Keyword) (tokens : List Token) : Prop where
  balanced : Balanced (chars d tokens)
  required : required.Sublist (outerClauses d 0 tokens)
  ordered : (outerClauses d 0 tokens).Sublist order

namespace Laid

variable {required required' order order' : List Keyword} {a b : List Token}

theorem nil : Laid d [] [] [] := ⟨.nil, .slnil, .slnil⟩

theorem append (ha : Laid d required order a) (hb : Laid d required' order' b) :
    Laid d (required ++ required') (order ++ order') (a ++ b) := by
  have clauses : outerClauses d 0 (a ++ b) = outerClauses d 0 a ++ outerClauses d 0 b := by
    rw [outerClauses_append, ha.balanced.closed, Int.add_zero]
  refine ⟨?_, ?_, ?_⟩
  · rw [chars_append]
    exact ha.balanced.append hb.balanced
  · rw [clauses]
    exact ha.required.append hb.required
  · rw [clauses]
    exact ha.ordered.append hb.ordered

theorem weaken (h : Laid d required order a) (hrequired : required'.Sublist required)
    (horder : order.Sublist order') : Laid d required' order' a :=
  ⟨h.balanced, hrequired.trans h.required, h.ordered.trans horder⟩

theorem single {t : Token} (h : Balanced (t.text d).toList) :
    Laid d t.clause?.toList t.clause?.toList [t] := by
  have clauses : outerClauses d 0 [t] = t.clause?.toList := by simp [outerClauses]
  refine ⟨?_, ?_, ?_⟩
  · rw [chars_cons, chars_nil, List.append_nil]
    exact h
  · rw [clauses]
  · rw [clauses]

/-- Between a token that opens one parenthesis and the one that closes it no clause is at depth
zero. -/
theorem enclosed {opener : Token} (hclause : opener.clause? = none)
    (hfronts : ∀ front ∈ (opener.text d).toList.inits, 0 ≤ excess front)
    (hone : excess (opener.text d).toList = 1) (h : Laid d required order a) :
    Laid d [] [] (opener :: a ++ [closing]) := by
  have inside : outerClauses d 1 a = [] := by
    apply outerClauses_inside
    intro front hfront
    have := h.balanced.fronts front hfront
    omega
  have clauses : outerClauses d 0 (opener :: a ++ [closing]) = [] := by
    rw [List.cons_append, outerClauses, hclause, hone, Int.zero_add,
      outerClauses_append, inside, h.balanced.closed]
    rfl
  refine ⟨?_, ?_, ?_⟩
  · have last : chars d [closing] = [')'] := by simp [text, Mark.text]
    rw [chars_append, chars_cons, last]
    exact .enclosed hfronts hone h.balanced
  · rw [clauses]
  · rw [clauses]

/-- When a clause stands in front as often as the order has it, a further token of
it is within parentheses. -/
theorem depth_pos {front back : List Token} {word : Keyword}
    (h : Laid d required order (front ++ .keyword word :: back)) (hword : word.isClause = true)
    (hfront : order.count word ≤ (outerClauses d 0 front).count word) :
    0 < excess (chars d front) := by
  have hdepth : 0 ≤ excess (chars d front) :=
    h.balanced.fronts _ (by rw [chars_append]; exact List.prefix_append _ _)
  have hne : excess (chars d front) ≠ 0 := by
    intro hzero
    have here : outerClauses d 0 (.keyword word :: back) =
        word :: outerClauses d (0 + excess (text d (.keyword word)).toList) back := by
      simp [outerClauses, clause?, hword]
    have count := h.ordered.count_le word
    rw [outerClauses_append, hzero, Int.add_zero, here, List.count_append,
      List.count_cons_self] at count
    omega
  omega

end Laid

end Token

end ParamSql
