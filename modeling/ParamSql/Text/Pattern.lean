import ParamSql.Text.Blank
import ParamSql.Text.Case
import ParamSql.Text.Letter

/-!
# Patterns

Small patterns over text and whether one occurs in it. A pattern is read as
the set of places it can end at, given the place where it starts; it occurs if
some place to start at has some place to end at.
-/

namespace ParamSql.Text

/-- A place in a text: the character before it, if any, and all after it. -/
structure Place where
  before : Option Char
  after : List Char

namespace Place

def ofText (text : String) : Place := ⟨none, text.toList⟩

private def placesFrom (before : Option Char) : List Char → List Place
  | [] => [⟨before, []⟩]
  | c :: cs => ⟨before, c :: cs⟩ :: placesFrom (some c) cs

/-- The place itself and all behind it. -/
def all (p : Place) : List Place := placesFrom p.before p.after

private def placesWhile (accept : Char → Bool) (before : Option Char) : List Char → List Place
  | [] => [⟨before, []⟩]
  | c :: cs =>
    ⟨before, c :: cs⟩ :: if accept c then placesWhile accept (some c) cs else []

/-- The places reached by passing accepted characters only. -/
def passing (accept : Char → Bool) (p : Place) : List Place := placesWhile accept p.before p.after

/-- Whether a word begins or ends here. -/
def isWordBoundary (p : Place) : Bool :=
  p.before.any isWordCharacter != p.after.head?.any isWordCharacter

end Place

inductive Pattern
  /-- These characters, letters in either case. -/
  | literal (text : String)
  /-- Any number of blanks. -/
  | blanks
  /-- Any number of characters within a line. -/
  | anything
  | wordBoundary
  | start
  | finish
  | sequence (first second : Pattern)
  | choice (first second : Pattern)

namespace Pattern

instance : Append Pattern := ⟨sequence⟩

instance : OrElse Pattern := ⟨fun p q => choice p (q ())⟩

/-- The place behind a literal. -/
def literalEnd? : List Char → Place → Option Place
  | [], p => some p
  | c :: cs, ⟨_, d :: ds⟩ => if folded d = folded c then literalEnd? cs ⟨some d, ds⟩ else none
  | _ :: _, ⟨_, []⟩ => none

/-- The places where the pattern can end when it starts at `p`. -/
def ends : Pattern → Place → List Place
  | literal text, p => (literalEnd? text.toList p).toList
  | blanks, p => p.passing isBlank
  | anything, p => p.passing (· ≠ '\n')
  | wordBoundary, p => if p.isWordBoundary then [p] else []
  | start, p => if p.before.isNone then [p] else []
  | finish, p => if p.after = [] then [p] else []
  | sequence first second, p => (first.ends p).flatMap second.ends
  | choice first second, p => first.ends p ++ second.ends p

/-- Whether the pattern occurs anywhere in a text. -/
def occursIn (pattern : Pattern) (text : String) : Bool :=
  (Place.ofText text).all.any fun p => !(pattern.ends p).isEmpty

end Pattern

end ParamSql.Text
