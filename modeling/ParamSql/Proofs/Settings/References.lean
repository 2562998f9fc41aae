import Mathlib.Data.List.TakeWhile
import ParamSql.Proofs.Agreement
import ParamSql.Settings.Expansion

/-!
# Texts with references

A text with references is a sequence of segments, each of which ends where it does because of
what it is and of what follows it. Expanding such a text replaces each segment on its own, once,
or reports the first variable that is not set. The texts without such a sequence are those with
a brace that is opened behind a dollar sign and not closed.
-/

namespace ParamSql

namespace Segment

/-- The name of the variable that a segment refers to. -/
def reference? : Segment → Option (List Char)
  | literal _ => none
  | braced name _ => some name
  | bare name => some name
  | dollar => none

/-- What stands in the place of a segment whose variable, if it refers to one, is set. -/
def replacement (env : Environment) : Segment → String
  | literal text => String.ofList text
  | braced name _ => (env (String.ofList name)).getD ""
  | bare name => (env (String.ofList name)).getD ""
  | dollar => "$"

/-- Whether a segment ends where the text behind it begins: a brace is closed by the first that
closes one, and the name of a bare reference is as long as it can be. -/
def Fits : Segment → List Char → Prop
  | literal text, _ => '$' ∉ text
  | braced name closed, _ => closed = true ∧ '\x7d' ∉ name
  | bare name, behind => name ≠ [] ∧ (∀ c ∈ name, isNameCharacter c = true) ∧
      ∀ c ∈ behind.head?, isNameCharacter c = false
  | dollar, behind => ∀ c ∈ behind.head?, c ≠ '\x7b' ∧ isNameCharacter c = false

def spelled (segments : List Segment) : List Char := segments.flatMap spelling

/-- Segments each of which fits in front of those behind it. -/
def WellSpelled : List Segment → Prop
  | [] => True
  | s :: behind => s.Fits (spelled behind) ∧ WellSpelled behind

def unset? (env : Environment) (s : Segment) : Option (List Char) :=
  s.reference?.filter fun name => (env (String.ofList name)).isNone

/-- What segments expand to: what stands in their places side by side, or the report of the first
variable that is not set. -/
def expanded (env : Environment) (segments : List Segment) : Except SettingsError String :=
  match segments.findSome? (unset? env) with
  | some name => .error (.missingVariable (String.ofList name))
  | none => .ok (String.join (segments.map (replacement env)))

/-- A brace opened behind a dollar sign that is not closed in the rest of the text. -/
def HasUnclosed (cs : List Char) : Prop :=
  ∃ behind, '$' :: '\x7b' :: behind <:+ cs ∧ '\x7d' ∉ behind

theorem expansion_eq (env : Environment) (s : Segment) :
    s.expansion env = match s.unset? env with
      | some name => .error (.missingVariable (String.ofList name))
      | none => .ok (s.replacement env) := by
  cases s with
  | literal text | dollar => rfl
  | braced name closed | bare name =>
    cases h : env (String.ofList name) <;>
      simp [expansion, variableValue, unset?, reference?, replacement, Option.filter_some, h]

/-- By induction along the segments, the first of them that cannot be replaced decides. -/
theorem map_join_mapM_expansion (env : Environment) (segments : List Segment) :
    (segments.mapM (expansion env)).map String.join = expanded env segments := by
  have each : segments.mapM (expansion env) = match segments.findSome? (unset? env) with
      | some name => .error (.missingVariable (String.ofList name))
      | none => .ok (segments.map (replacement env)) := by
    induction segments with
    | nil => rfl
    | cons s behind ih =>
      rw [List.mapM_cons, ih, expansion_eq, List.findSome?_cons]
      cases s.unset? env with
      | some name => rfl
      | none => cases behind.findSome? (unset? env) <;> rfl
  rw [each, expanded]
  cases segments.findSome? (unset? env) <;> rfl

theorem expanded_cons (env : Environment) (s : Segment) (behind : List Segment) :
    expanded env (s :: behind) = match s.unset? env with
      | some name => .error (.missingVariable (String.ofList name))
      | none => (expanded env behind).map (s.replacement env ++ ·) := by
  rw [expanded, List.findSome?_cons]
  cases s.unset? env with
  | some name => rfl
  | none =>
    rw [expanded]
    cases behind.findSome? (unset? env) with
    | some name => rfl
    | none =>
      rw [List.map_cons, String.join_cons]
      rfl

/-! ### Splitting a spelled text -/

theorem not_isNameCharacter_dollar : isNameCharacter '$' = false := by decide +kernel

theorem not_isNameCharacter_brace : isNameCharacter '\x7b' = false := by decide +kernel

theorem takeWhile_dropWhile_append {p : Char → Bool} (front behind : List Char)
    (hfront : ∀ c ∈ front, p c = true) (hbehind : ∀ c ∈ behind.head?, p c = false) :
    (front ++ behind).takeWhile p = front ∧ (front ++ behind).dropWhile p = behind := by
  rw [List.takeWhile_append_of_pos hfront, List.dropWhile_append_of_pos hfront]
  cases behind with
  | nil => simp
  | cons c cs => simp [hbehind c rfl]

theorem first_dollar {cs : List Char} (h : ∀ c ∈ cs.head?, c ≠ '\x7b') :
    first '$' cs = if cs.takeWhile isNameCharacter = [] then (dollar, cs)
      else (bare (cs.takeWhile isNameCharacter), cs.dropWhile isNameCharacter) := by
  unfold first
  rw [if_neg (not_not_intro rfl)]
  cases cs with
  | nil => rfl
  | cons c cs =>
    have hc : c ≠ '\x7b' := h c rfl
    split
    · rename_i heq
      exact absurd (List.cons.inj heq).1 hc
    · rfl

theorem first_braced {name : List Char} (hname : '\x7d' ∉ name) (behind : List Char) :
    first '$' ('\x7b' :: (name ++ '\x7d' :: behind)) = (braced name true, behind) := by
  have hfront : ∀ c ∈ name, decide (c ≠ '\x7d') = true := by
    intro c hc
    rw [decide_eq_true_eq]
    rintro rfl
    exact hname hc
  obtain ⟨htake, hdrop⟩ := takeWhile_dropWhile_append name ('\x7d' :: behind) hfront (by simp)
  unfold first
  rw [if_neg (not_not_intro rfl)]
  simp only [htake, hdrop]
  rfl

theorem first_literal {c : Char} (hc : c ≠ '$') (cs : List Char) :
    first c cs = (literal (c :: cs.takeWhile (· ≠ '$')), cs.dropWhile (· ≠ '$')) := by
  unfold first
  rw [if_pos hc]

theorem split_cons (c : Char) (cs : List Char) :
    split (c :: cs) = (first c cs).1 :: split (first c cs).2 := by rw [split]

/-- A segment that begins with a dollar sign is split off as it is. -/
theorem split_spelling_append {s : Segment} {behind : List Char} (h : s.Fits behind)
    (hs : ∀ text, s ≠ literal text) : split (s.spelling ++ behind) = s :: split behind := by
  cases s with
  | literal text => exact absurd rfl (hs text)
  | braced name closed =>
    obtain ⟨rfl, hname⟩ := h
    have hspelling : (braced name true).spelling ++ behind =
        '$' :: '\x7b' :: (name ++ '\x7d' :: behind) := by simp [spelling]
    rw [hspelling, split_cons, first_braced hname]
  | bare name =>
    obtain ⟨hne, hname, hbehind⟩ := h
    obtain ⟨htake, hdrop⟩ := takeWhile_dropWhile_append name behind hname hbehind
    have hbrace : ∀ c ∈ (name ++ behind).head?, c ≠ '\x7b' := by
      rintro c hc rfl
      rw [List.head?_append_of_ne_nil _ hne] at hc
      have := hname _ (List.mem_of_mem_head? hc)
      rw [not_isNameCharacter_brace] at this
      contradiction
    rw [spelling, List.cons_append, split_cons, first_dollar hbrace, htake, hdrop, if_neg hne]
  | dollar =>
    have hnone : ∀ c ∈ ([] : List Char), isNameCharacter c = true := by simp
    have htake : behind.takeWhile isNameCharacter = [] :=
      (takeWhile_dropWhile_append [] behind hnone fun c hc => (h c hc).2).1
    rw [spelling, List.singleton_append, split_cons, first_dollar fun c hc => (h c hc).1, htake,
      if_pos rfl]

theorem split_cons_of_ne {c : Char} (hc : c ≠ '$') (cs : List Char) :
    split (c :: cs) =
      literal (c :: cs.takeWhile (· ≠ '$')) :: split (cs.dropWhile (· ≠ '$')) := by
  rw [split_cons, first_literal hc]

theorem expanded_literal (env : Environment) (text : List Char) (behind : List Segment) :
    expanded env (literal text :: behind) =
      (expanded env behind).map (String.ofList text ++ ·) := expanded_cons env _ behind

theorem expanded_split_cons (env : Environment) {c : Char} (hc : c ≠ '$') (cs : List Char) :
    expanded env (split (c :: cs)) =
      (expanded env (split cs)).map (String.ofList [c] ++ ·) := by
  rw [split_cons_of_ne hc, expanded_literal]
  cases cs with
  | nil => rfl
  | cons d ds =>
    by_cases hd : d = '$'
    · rw [List.takeWhile_cons_of_neg (by simpa using hd),
        List.dropWhile_cons_of_neg (by simpa using hd)]
    · rw [List.takeWhile_cons_of_pos (by simpa using hd),
        List.dropWhile_cons_of_pos (by simpa using hd), split_cons_of_ne hd, expanded_literal]
      cases expanded env (split (ds.dropWhile (· ≠ '$'))) with
      | error e => rfl
      | ok rest =>
        rw [Except.map, Except.map, Except.map, ← String.append_assoc, ← String.ofList_append]
        rfl

theorem expanded_split_append (env : Environment) {text : List Char} (h : '$' ∉ text)
    (cs : List Char) :
    expanded env (split (text ++ cs)) =
      (expanded env (split cs)).map (String.ofList text ++ ·) := by
  induction text with
  | nil => cases h : expanded env (split cs) <;> simp [h, Except.map]
  | cons c text ih =>
    obtain ⟨hc, htext⟩ := List.ne_and_not_mem_of_not_mem_cons h
    rw [List.cons_append, expanded_split_cons env hc.symm, ih htext]
    cases expanded env (split cs) with
    | error e => rfl
    | ok rest =>
      rw [Except.map, Except.map, Except.map, ← String.append_assoc, ← String.ofList_append]
      rfl

/-- However a text is put together of segments that fit, splitting it changes nothing in what it
expands to. By induction along the segments. -/
theorem expanded_split_spelled (env : Environment) {segments : List Segment}
    (h : WellSpelled segments) :
    expanded env (split (spelled segments)) = expanded env segments := by
  induction segments with
  | nil => rw [spelled, List.flatMap_nil, split]
  | cons s behind ih =>
    obtain ⟨hfits, hbehind⟩ := h
    change expanded env (split (s.spelling ++ spelled behind)) = _
    by_cases hs : ∃ text, s = literal text
    · obtain ⟨text, rfl⟩ := hs
      rw [spelling, expanded_split_append env hfits, ih hbehind, expanded_literal]
    · rw [split_spelling_append hfits (not_exists.1 hs), expanded_cons, expanded_cons,
        ih hbehind]

/-! ### Texts without an unclosed brace -/

theorem HasUnclosed.of_suffix {cs ds : List Char} (h : HasUnclosed cs) (hsuffix : cs <:+ ds) :
    HasUnclosed ds := by
  obtain ⟨behind, hbehind, hopen⟩ := h
  exact ⟨behind, hbehind.trans hsuffix, hopen⟩

theorem hasUnclosed_cons {c : Char} {cs : List Char} (h : HasUnclosed (c :: cs)) :
    (c = '$' ∧ ∃ behind, cs = '\x7b' :: behind ∧ '\x7d' ∉ behind) ∨ HasUnclosed cs := by
  obtain ⟨behind, hbehind, hopen⟩ := h
  rcases List.suffix_cons_iff.1 hbehind with heq | hsuffix
  · obtain ⟨rfl, rfl⟩ := List.cons.inj heq
    exact .inl ⟨rfl, behind, rfl, hopen⟩
  · exact .inr ⟨behind, hsuffix, hopen⟩

theorem hasUnclosed_of_append {front cs : List Char} (hfront : '$' ∉ front)
    (h : HasUnclosed (front ++ cs)) : HasUnclosed cs := by
  induction front with
  | nil => exact h
  | cons c front ih =>
    obtain ⟨hc, hfront⟩ := List.ne_and_not_mem_of_not_mem_cons hfront
    rcases hasUnclosed_cons h with ⟨rfl, -⟩ | h
    · exact absurd rfl hc
    · exact ih hfront h

theorem hasUnclosed_of_closing (front : List Char) {cs : List Char}
    (h : HasUnclosed (front ++ '\x7d' :: cs)) : HasUnclosed cs := by
  induction front with
  | nil =>
    rcases hasUnclosed_cons h with ⟨hc, -⟩ | h
    · contradiction
    · exact h
  | cons c front ih =>
    rcases hasUnclosed_cons h with ⟨-, behind, heq, hopen⟩ | h
    · have hmem : '\x7d' ∈ '\x7b' :: behind :=
        heq ▸ List.mem_append_right front List.mem_cons_self
      rcases List.mem_cons.1 hmem with hbrace | hmem
      · contradiction
      · exact absurd hmem hopen
    · exact ih h

theorem not_hasUnclosed_spelled {segments : List Segment} (h : WellSpelled segments) :
    ¬ HasUnclosed (spelled segments) := by
  induction segments with
  | nil =>
    rintro ⟨behind, hbehind, -⟩
    exact absurd (List.suffix_nil.1 hbehind) (List.cons_ne_nil _ _)
  | cons s behind ih =>
    obtain ⟨hfits, hbehind⟩ := h
    refine fun hopen => ih hbehind ?_
    change HasUnclosed (s.spelling ++ spelled behind) at hopen
    cases s with
    | literal text => exact hasUnclosed_of_append hfits hopen
    | braced name closed =>
      obtain ⟨rfl, -⟩ := hfits
      refine hasUnclosed_of_closing ('$' :: '\x7b' :: name) ?_
      simpa [spelling] using hopen
    | bare name =>
      obtain ⟨hne, hname, -⟩ := hfits
      have hdollar : '$' ∉ name := fun hmem =>
        Bool.false_ne_true (not_isNameCharacter_dollar.symm.trans (hname _ hmem))
      rcases hasUnclosed_cons hopen with ⟨-, rest, heq, -⟩ | hopen
      · cases name with
        | nil => exact absurd rfl hne
        | cons c name =>
          have hc : c = '\x7b' := (List.cons.inj heq).1
          have := hname c List.mem_cons_self
          rw [hc, not_isNameCharacter_brace] at this
          contradiction
      · exact hasUnclosed_of_append hdollar hopen
    | dollar =>
      rcases hasUnclosed_cons hopen with ⟨-, rest, heq, -⟩ | hopen
      · have heq : spelled behind = '\x7b' :: rest := heq
        exact absurd rfl (hfits '\x7b' (by rw [heq]; rfl)).1
      · exact hopen

theorem head?_dropWhile {p : Char → Bool} {cs : List Char} :
    ∀ c ∈ (cs.dropWhile p).head?, p c = false := by
  intro c hc
  have h := List.head?_dropWhile_not p cs
  rw [Option.mem_def.1 hc] at h
  simpa using h

theorem fits_first_braced {body : List Char} (hclosed : '\x7d' ∈ body) :
    (first '$' ('\x7b' :: body)).1.Fits (first '$' ('\x7b' :: body)).2 := by
  have hrest : body.dropWhile (· ≠ '\x7d') ≠ [] := by
    rw [ne_eq, List.dropWhile_eq_nil_iff]
    intro hall
    simpa using hall _ hclosed
  change (!(body.dropWhile (· ≠ '\x7d')).isEmpty) = true ∧ '\x7d' ∉ body.takeWhile (· ≠ '\x7d')
  refine ⟨by simpa using hrest, fun hmem => ?_⟩
  simpa using List.mem_takeWhile_imp hmem

theorem fits_first_dollar {cs : List Char} (hhead : ∀ c ∈ cs.head?, c ≠ '\x7b') :
    (first '$' cs).1.Fits (first '$' cs).2 := by
  rw [first_dollar hhead]
  have hname : ∀ d ∈ (cs.dropWhile isNameCharacter).head?, isNameCharacter d = false :=
    head?_dropWhile
  split
  · rename_i hempty
    have hall : cs.dropWhile isNameCharacter = cs := by
      have := List.takeWhile_append_dropWhile (p := isNameCharacter) (l := cs)
      rwa [hempty, List.nil_append] at this
    rw [hall] at hname
    exact fun c hc => ⟨hhead c hc, hname c hc⟩
  · rename_i hne
    exact ⟨hne, fun c hc => List.mem_takeWhile_imp hc, hname⟩

theorem fits_first_literal {c : Char} (hc : c ≠ '$') (cs : List Char) :
    (first c cs).1.Fits (first c cs).2 := by
  rw [first_literal hc]
  intro hmem
  rcases List.mem_cons.1 hmem with heq | hmem
  · exact hc heq.symm
  · simpa using List.mem_takeWhile_imp hmem

theorem fits_first {c : Char} {cs : List Char} (h : ¬ HasUnclosed (c :: cs)) :
    (first c cs).1.Fits (first c cs).2 := by
  by_cases hc : c = '$'
  · subst hc
    by_cases hbrace : ∃ body, cs = '\x7b' :: body
    · obtain ⟨body, rfl⟩ := hbrace
      refine fits_first_braced ?_
      by_contra hopen
      exact h ⟨body, List.suffix_rfl, hopen⟩
    · refine fits_first_dollar ?_
      rintro c hhead rfl
      cases cs with
      | nil => contradiction
      | cons d ds =>
        cases hhead
        exact hbrace ⟨ds, rfl⟩
  · exact fits_first_literal hc cs

/-- A text without an unclosed brace is split into segments that fit. -/
theorem wellSpelled_split {cs : List Char} (h : ¬ HasUnclosed cs) : WellSpelled (split cs) := by
  induction hlength : cs.length using Nat.strongRecOn generalizing cs with
  | _ n ih =>
    cases cs with
    | nil =>
      rw [split]
      trivial
    | cons c cs =>
      have hsuffix : (first c cs).2 <:+ c :: cs := ⟨_, spelling_first c cs⟩
      have hlt : (first c cs).2.length < n := by
        rw [← hlength]
        exact Nat.lt_succ_of_le (length_first_le c cs)
      rw [split_cons]
      refine ⟨?_, ih _ hlt (fun hopen => h (hopen.of_suffix hsuffix)) rfl⟩
      rw [spelled, flatMap_spelling_split]
      exact fits_first h

end Segment

namespace Environment

open Segment

/-- Expanding a text that is spelled by segments that fit replaces each of them by what it stands
for, or reports the first of their variables that is not set; what a variable holds is taken over
as it is. The texts spelled so are exactly those without an unclosed brace, and a text without a
dollar sign stays what it is. -/
theorem expand_by_segments (env : Environment) :
    (∀ segments, WellSpelled segments →
      env.expand (String.ofList (spelled segments)) =
        match segments.findSome? (unset? env) with
        | some name => .error (.missingVariable (String.ofList name))
        | none => .ok (String.join (segments.map (replacement env)))) ∧
    (∀ text : String, (∃ segments, WellSpelled segments ∧
      text = String.ofList (spelled segments)) ↔ ¬ HasUnclosed text.toList) ∧
    ∀ text : String, '$' ∉ text.toList → env.expand text = .ok text := by
  have expand (text : String) : env.expand text = expanded env (split text.toList) :=
    map_join_mapM_expansion env _
  refine ⟨fun segments h => ?_, fun text => ⟨?_, fun h => ?_⟩, fun text h => ?_⟩
  · rw [expand, String.toList_ofList, expanded_split_spelled env h]
    rfl
  · rintro ⟨segments, h, rfl⟩
    rw [String.toList_ofList]
    exact not_hasUnclosed_spelled h
  · refine ⟨split text.toList, wellSpelled_split h, ?_⟩
    rw [spelled, flatMap_spelling_split, String.ofList_toList]
  · have alone : WellSpelled [literal text.toList] := ⟨h, trivial⟩
    have hspelled : spelled [literal text.toList] = text.toList := List.append_nil _
    rw [expand, ← hspelled, expanded_split_spelled env alone, expanded_literal]
    change Except.ok (String.ofList text.toList ++ "") = _
    rw [String.ofList_toList, String.append_empty]

/-- References side by side and at the end of a text, with dollar signs and braces in what the
variables hold; and two variables that are not set. -/
theorem expand_by_segments_adjacent :
    let env : Environment := fun name =>
      if name = "A" then some "$B\x7d" else if name = "B" then some "$\x7bA\x7d" else none
    let segments : List Segment :=
      [.bare ['A'], .braced ['B'] true, .dollar, .dollar, .literal ['-'], .bare ['B']]
    spelled segments = "$A$\x7bB\x7d$$-$B".toList ∧ WellSpelled segments ∧
      env.expand "$A$\x7bB\x7d$$-$B" = .ok "$B\x7d$\x7bA\x7d$$-$\x7bA\x7d" ∧
      env.expand "$A$\x7bC\x7d$D" = .error (.missingVariable "C") := by
  intro env segments
  have named (c : Char) (hc : c = 'A' ∨ c = 'B' ∨ c = 'D') : isNameCharacter c = true := by
    rcases hc with rfl | rfl | rfl <;> decide +kernel
  have hyphen : isNameCharacter '-' = false := by decide +kernel
  have fits : WellSpelled segments := by
    simp [segments, WellSpelled, Fits, spelled, spelling, named, hyphen, not_isNameCharacter_dollar]
  have fits' : WellSpelled [.bare ['A'], .braced ['C'] true, .bare ['D']] := by
    simp [WellSpelled, Fits, spelled, spelling, named, not_isNameCharacter_dollar]
  obtain ⟨expand, -⟩ := expand_by_segments env
  refine ⟨by decide +kernel, fits, ?_, ?_⟩
  · have text : String.ofList (spelled segments) = "$A$\x7bB\x7d$$-$B" := by decide +kernel
    rw [← text, expand segments fits]
    decide +kernel
  · have text : String.ofList (spelled [.bare ['A'], .braced ['C'] true, .bare ['D']]) =
        "$A$\x7bC\x7d$D" := by decide +kernel
    rw [← text, expand _ fits']
    decide +kernel

end Environment

end ParamSql
