import ParamSql.Text.CodePoints

/-!
# Blank characters

Which characters count as blank, and trimming. `trimmed` drops exactly the
blank characters at both ends.
-/

namespace ParamSql.Text

/-- Characters with the property White_Space. -/
def blankRanges : List (Nat × Nat) :=
  [(0x9, 0xd), (0x20, 0x20), (0x85, 0x85), (0xa0, 0xa0), (0x1680, 0x1680), (0x2000, 0x200a),
   (0x2028, 0x2029), (0x202f, 0x202f), (0x205f, 0x205f), (0x3000, 0x3000)]

def isBlank (c : Char) : Bool := covers blankRanges c.toNat

theorem isBlank_of_isWhitespace {c : Char} (h : c.isWhitespace = true) : isBlank c = true := by
  simp only [Char.isWhitespace, Bool.or_eq_true, decide_eq_true_eq] at h
  rcases h with ((rfl | rfl) | rfl) | rfl <;> decide

/-- The text without the blank characters in front. -/
def dropBlanks (cs : List Char) : List Char := cs.dropWhile isBlank

def dropBlanksBehind (cs : List Char) : List Char := (dropBlanks cs.reverse).reverse

/-- The text without the blank characters at either end. -/
def trimmed (cs : List Char) : List Char := dropBlanksBehind (dropBlanks cs)

/-- Nothing but blank characters. -/
def isAllBlank (text : String) : Bool := text.toList.all isBlank

end ParamSql.Text
