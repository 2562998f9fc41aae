import Mathlib.Data.List.Infix
import ParamSql.Proofs.Predicate.Translation
import ParamSql.Rendering.Query

/-!
# Wildcards of LIKE

The texts that a LIKE pattern matches, and the patterns that the methods of predicates make from a
text without wildcards. They match the text itself, the texts that it occurs in, and those that
begin or end with it.
-/

namespace ParamSql

namespace Text

/-- Whether a LIKE pattern matches a text: `%` stands for any number of characters, `_` for any
one, and every other character for itself. -/
def likeMatches : List Char → List Char → Bool
  | [], cs => cs.isEmpty
  | w :: pattern, cs =>
    if w = '%' then cs.tails.any (likeMatches pattern)
    else match cs with
      | [] => false
      | c :: cs => (w == '_' || w == c) && likeMatches pattern cs

def HasNoWildcard (cs : List Char) : Prop := '%' ∉ cs ∧ '_' ∉ cs

instance (cs : List Char) : Decidable (HasNoWildcard cs) :=
  inferInstanceAs (Decidable (_ ∧ _))

variable {cs pattern : List Char}

@[simp] theorem likeMatches_nil : likeMatches [] cs = true ↔ cs = [] := List.isEmpty_iff

theorem likeMatches_percent :
    likeMatches ('%' :: pattern) cs = true ↔
      ∃ skipped rest, cs = skipped ++ rest ∧ likeMatches pattern rest = true := by
  simp only [likeMatches, if_true, List.any_eq_true, List.mem_tails]
  constructor
  · rintro ⟨rest, ⟨skipped, hskipped⟩, hrest⟩
    exact ⟨skipped, rest, hskipped.symm, hrest⟩
  · rintro ⟨skipped, rest, rfl, hrest⟩
    exact ⟨rest, List.suffix_append skipped rest, hrest⟩

theorem likeMatches_cons {w : Char} (hpercent : w ≠ '%') (hunderscore : w ≠ '_') :
    likeMatches (w :: pattern) cs = true ↔
      ∃ rest, cs = w :: rest ∧ likeMatches pattern rest = true := by
  cases cs with
  | nil =>
    have unmatched : likeMatches (w :: pattern) [] = false := if_neg hpercent
    simp [unmatched]
  | cons c cs =>
    have first : likeMatches (w :: pattern) (c :: cs) =
        ((w == '_' || w == c) && likeMatches pattern cs) := if_neg hpercent
    simp [first, hunderscore, @eq_comm _ w]

/-- By induction along the text: in front of a pattern, it has to stand in front. -/
theorem likeMatches_append {text : List Char} (h : HasNoWildcard text) :
    likeMatches (text ++ pattern) cs = true ↔
      ∃ rest, cs = text ++ rest ∧ likeMatches pattern rest = true := by
  induction text generalizing cs with
  | nil => simp
  | cons w text ih =>
    obtain ⟨hpercent, hunderscore⟩ := h
    rw [List.mem_cons, not_or] at hpercent hunderscore
    rw [List.cons_append, likeMatches_cons (Ne.symm hpercent.1) (Ne.symm hunderscore.1)]
    constructor
    · rintro ⟨rest, rfl, hrest⟩
      obtain ⟨back, rfl, hback⟩ := (ih ⟨hpercent.2, hunderscore.2⟩).1 hrest
      exact ⟨back, rfl, hback⟩
    · rintro ⟨back, rfl, hback⟩
      exact ⟨text ++ back, rfl, (ih ⟨hpercent.2, hunderscore.2⟩).2 ⟨back, rfl, hback⟩⟩

theorem likeMatches_self {text : List Char} (h : HasNoWildcard text) :
    likeMatches text cs = true ↔ cs = text := by
  have whole : likeMatches (text ++ []) cs = true ↔ _ := likeMatches_append h
  simpa using whole

/-- A `%` at the end lets anything follow. -/
theorem likeMatches_append_percent {text : List Char} (h : HasNoWildcard text) :
    likeMatches (text ++ ['%']) cs = true ↔ text <+: cs := by
  have anything (rest : List Char) : likeMatches ['%'] rest = true :=
    likeMatches_percent.2 ⟨rest, [], (List.append_nil rest).symm, rfl⟩
  rw [likeMatches_append h]
  constructor
  · rintro ⟨rest, rfl, -⟩
    exact List.prefix_append text rest
  · rintro ⟨rest, rfl⟩
    exact ⟨rest, rfl, anything rest⟩

end Text

namespace LikeMatch

open Text

/-- What the pattern made from `text` is to match. -/
def Admits : LikeMatch → (text s : String) → Prop
  | exact, text, s => s = text
  | contains, text, s => text.toList <:+: s.toList
  | startsWith, text, s => text.toList <+: s.toList
  | endsWith, text, s => text.toList <:+ s.toList

theorem likeMatches_apply (mode : LikeMatch) {text : String} (h : HasNoWildcard text.toList)
    (s : String) :
    likeMatches (mode.apply text).toList s.toList = true ↔ mode.Admits text s := by
  have front : "%".toList = ['%'] := rfl
  cases mode with
  | exact =>
    rw [apply, likeMatches_self h, String.toList_inj]
    rfl
  | contains =>
    rw [apply, String.toList_append, String.toList_append, front, List.append_assoc,
      List.singleton_append, likeMatches_percent]
    constructor
    · rintro ⟨skipped, rest, hs, hrest⟩
      obtain ⟨back, rfl⟩ := (likeMatches_append_percent h).1 hrest
      exact ⟨skipped, back, by rw [hs, List.append_assoc]⟩
    · rintro ⟨skipped, back, hs⟩
      refine ⟨skipped, text.toList ++ back, by rw [← hs, List.append_assoc], ?_⟩
      exact (likeMatches_append_percent h).2 (List.prefix_append _ back)
  | startsWith =>
    rw [apply, String.toList_append, front]
    exact likeMatches_append_percent h
  | endsWith =>
    rw [apply, String.toList_append, front, List.singleton_append, likeMatches_percent]
    constructor
    · rintro ⟨skipped, rest, hs, hrest⟩
      rw [(likeMatches_self h).1 hrest] at hs
      exact ⟨skipped, hs.symm⟩
    · rintro ⟨skipped, hs⟩
      exact ⟨skipped, text.toList, hs.symm, (likeMatches_self h).2 rfl⟩

end LikeMatch

theorem Operator.textOf_tokens (d : Dialect) (operator : Operator) :
    Token.textOf d operator.tokens = operator.symbol := by
  cases operator <;> rfl

theorem Condition.render_basic (d : Dialect) (column : String) (operator : Operator) (v : Value)
    (type : StorageType) :
    (Condition.basic column operator [.bound column none v type]).render d =
      .ok ("(" ++ column ++ " " ++ operator.symbol ++ " " ++ d.placeholderMark ++ "PN_IDX_0)",
        [.bound column (some "IDX_0") v type]) := by
  let tokens : List Token := .opening :: .identifier column :: .space :: (operator.tokens ++
    [.space, .placeholder "IDX_0", .closing])
  have filled : ((Condition.basic column operator [.bound column none v type]).document d).fill
      {} = .ok (tokens, ⟨1, [.bound column (some "IDX_0") v type]⟩) := by
    cases operator <;> rfl
  have text : Token.textOf d tokens =
      "(" ++ column ++ " " ++ operator.symbol ++ " " ++ d.placeholderMark ++ "PN_IDX_0)" := by
    rw [← operator.textOf_tokens d]
    simp [tokens, Token.textOf, ← String.toList_inj, Token.text, Mark.text]
  rw [render, Document.render, filled, ← text]
  rfl

namespace Predicate

variable {resolve : Resolver} {entity property : String} {column : Column}

/-- Every LIKE method makes its pattern in the one way, whatever it is negated for. -/
theorem callCondition_method (column : Column) (mode : LikeMatch) (negated : Bool) :
    callCondition column (mode.method negated) =
      likeCondition column (mode.method negated) mode negated := by
  cases mode <;> cases negated <;> rfl

theorem toCondition_like (hcolumn : resolve entity property = .ok column) (mode : LikeMatch)
    (negated : Bool) (text : String) :
    (call (mode.method negated) (member entity property) [constant (.text text)]).toCondition
        resolve =
      .ok (.basic column.name (if negated then .notLike else .like)
        [parameter column (.text (mode.apply text))]) := by
  have resolved : (member entity property).column resolve = .ok column := hcolumn
  rw [toCondition, resolved]
  exact congrFun (callCondition_method column mode negated) _

/-- A LIKE method binds a pattern that matches what the name of the method says, when its text has
no wildcards of its own. The opposite method binds the same pattern under NOT LIKE, and the
condition is the one that is built from the text directly. -/
theorem like_methods_match (hcolumn : resolve entity property = .ok column) {text : String}
    (htext : Text.HasNoWildcard text.toList) (mode : LikeMatch) :
    ∃ pattern : String,
      (∀ s : String, Text.likeMatches pattern.toList s.toList = true ↔ mode.Admits text s) ∧
      ∀ negated : Bool, ∃ c,
        (call (mode.method negated) (member entity property) [constant (.text text)]).toCondition
          resolve = .ok c ∧
        c.same (.likeMatch column.name text mode negated) = true ∧
        ∀ d : Dialect, c.render d =
          .ok ("(" ++ column.name ++ (if negated then " NOT LIKE " else " LIKE ") ++
              d.placeholderMark ++ "PN_IDX_0)",
            [.bound column.name (some "IDX_0") (.text pattern)
              (column.storageType.getD .string)]) := by
  refine ⟨mode.apply text, mode.likeMatches_apply htext, fun negated => ?_⟩
  refine ⟨_, toCondition_like hcolumn mode negated text, ?_, fun d => ?_⟩
  · change Condition.same (.basic _ _ [parameter column _]) (.basic _ _ [.pending _ _]) = true
    simp [Condition.same, sameParameters, sameList, parameter_eq, Parameter.same, Parameter.pending,
      Parameter.column, Parameter.value, Parameter.isBound, Value.same]
  · rw [parameter_eq, Condition.render_basic]
    cases negated <;> simp [Operator.symbol, String.append_assoc, Value.storageType]

/-- A name tested against an ending, with a storage type that its column pins. -/
theorem like_methods_match_ending :
    let resolve : Resolver := fun _ property =>
      .ok { name := property, storageType := some .ansiString }
    ∃ c pattern, (call .notLikeEndWith (member "user" "name") [constant (.text "son")]).toCondition
        resolve = .ok c ∧
      Text.likeMatches pattern.toList "Jackson".toList = true ∧
      Text.likeMatches pattern.toList "sonata".toList = false ∧
      c.render .sqlServer = .ok ("(name NOT LIKE @PN_IDX_0)",
        [.bound "name" (some "IDX_0") (.text pattern) .ansiString]) := by
  intro resolve
  have plain : Text.HasNoWildcard "son".toList := by decide
  have resolved : resolve "user" "name" =
      .ok { name := "name", storageType := some .ansiString } := rfl
  obtain ⟨pattern, hmatches, translated⟩ := like_methods_match resolved plain .endsWith
  obtain ⟨c, hc, -, hrender⟩ := translated true
  refine ⟨c, pattern, hc, ?_, ?_, hrender .sqlServer⟩
  · rw [hmatches]
    exact ⟨"Jack".toList, by decide⟩
  · rw [← Bool.not_eq_true, hmatches]
    simp only [LikeMatch.Admits]
    decide

end Predicate

end ParamSql
