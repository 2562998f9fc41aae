import ParamSql.Error
import ParamSql.Text.Letter

/-!
# Environment references

References to environment variables inside a text. A text is split into
segments, and each segment is replaced by what it stands for; what a variable
holds is taken over as it is.
-/

namespace ParamSql

/-- What each variable is set to. -/
abbrev Environment := String → Option String

/-- A piece of text with references. -/
inductive Segment
  /-- Text without a dollar sign. -/
  | literal (text : List Char)
  /-- A name in braces; the closing one may be missing at the end of the text. -/
  | braced (name : List Char) (closed : Bool)
  | bare (name : List Char)
  /-- A dollar sign on its own. -/
  | dollar
deriving DecidableEq

namespace Segment

/-- Characters that the name of a bare reference is made of. -/
def isNameCharacter (c : Char) : Bool := Text.isAlphanumeric c || c == '_'

/-- The text that a segment was read from. -/
def spelling : Segment → List Char
  | literal text => text
  | braced name closed => '$' :: '\x7b' :: name ++ (if closed then ['\x7d'] else [])
  | bare name => '$' :: name
  | dollar => ['$']

/-- The segment in front of a text that is not empty, and what follows it. -/
def first (c : Char) (cs : List Char) : Segment × List Char :=
  if c ≠ '$' then
    (literal (c :: cs.takeWhile (· ≠ '$')), cs.dropWhile (· ≠ '$'))
  else match cs with
    | '\x7b' :: body =>
      let rest := body.dropWhile (· ≠ '\x7d')
      (braced (body.takeWhile (· ≠ '\x7d')) (!rest.isEmpty), rest.tail)
    | _ =>
      let name := cs.takeWhile isNameCharacter
      if name = [] then (dollar, cs) else (bare name, cs.dropWhile isNameCharacter)

theorem length_first_le (c : Char) (cs : List Char) : (first c cs).2.length ≤ cs.length := by
  have drop (p : Char → Bool) (ds : List Char) : (ds.dropWhile p).length ≤ ds.length :=
    (List.dropWhile_suffix p).length_le
  unfold first
  split
  · exact drop _ _
  · split
    · simp only [List.length_tail, List.length_cons]
      exact Nat.le_succ_of_le (Nat.le_trans (Nat.sub_le _ _) (drop _ _))
    · dsimp only
      split
      · exact Nat.le_refl _
      · exact drop _ _

/-- The segments of a text. -/
def split : List Char → List Segment
  | [] => []
  | c :: cs => (first c cs).1 :: split (first c cs).2
termination_by cs => cs.length
decreasing_by exact Nat.lt_succ_of_le (length_first_le c cs)

theorem spelling_first (c : Char) (cs : List Char) :
    (first c cs).1.spelling ++ (first c cs).2 = c :: cs := by
  unfold first
  split
  · simp only [spelling, List.cons_append, List.takeWhile_append_dropWhile]
  · rename_i hc
    have hdollar : c = '$' := by simpa using hc
    subst hdollar
    split
    · rename_i body
      have hbody := List.takeWhile_append_dropWhile (p := (· ≠ '\x7d')) (l := body)
      cases hrest : body.dropWhile (· ≠ '\x7d') with
      | nil =>
        rw [hrest] at hbody
        simpa [spelling, hrest] using hbody
      | cons d rest =>
        rw [hrest] at hbody
        have hd : d = '\x7d' := by
          have hne : body.dropWhile (· ≠ '\x7d') ≠ [] := by
            rw [hrest]
            exact List.cons_ne_nil _ _
          have hhead := List.head_dropWhile_not (· ≠ '\x7d') hne
          simp only [hrest, List.head_cons] at hhead
          simpa using hhead
        subst hd
        simpa [spelling, hrest] using hbody
    · dsimp only
      split
      · simp [spelling]
      · simp only [spelling, List.cons_append, List.takeWhile_append_dropWhile]

/-- Nothing of a text is lost by splitting it. -/
theorem flatMap_spelling_split (cs : List Char) : (split cs).flatMap spelling = cs := by
  induction h : cs.length using Nat.strongRecOn generalizing cs with
  | _ n ih =>
    cases cs with
    | nil => simp [split]
    | cons c cs =>
      have hlen : (first c cs).2.length < n := by
        rw [← h]
        exact Nat.lt_succ_of_le (length_first_le c cs)
      rw [split, List.flatMap_cons, ih _ hlen _ rfl, spelling_first]

/-- The value of a variable. -/
def variableValue (env : Environment) (name : List Char) : Except SettingsError String :=
  match env (String.ofList name) with
  | some value => .ok value
  | none => .error (.missingVariable (String.ofList name))

/-- What a segment stands for. -/
def expansion (env : Environment) : Segment → Except SettingsError String
  | literal text => .ok (String.ofList text)
  | braced name _ => variableValue env name
  | bare name => variableValue env name
  | dollar => .ok "$"

end Segment

/-- A text with its references replaced, from left to right. -/
def Environment.expand (env : Environment) (text : String) : Except SettingsError String :=
  ((Segment.split text.toList).mapM (Segment.expansion env)).map String.join

end ParamSql
