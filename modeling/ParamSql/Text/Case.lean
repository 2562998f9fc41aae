/-!
# Comparison without regard to case

Column names, row lookups and dialect names compare with the letters A to Z
folded; every other character stands for itself.
-/

namespace ParamSql.Text

/-- The characters with A to Z written small. -/
def lowercased (text : String) : List Char := text.toList.map Char.toLower

/-- Equality up to the case of the letters A to Z. -/
def sameIgnoringCase (a b : String) : Bool := lowercased a == lowercased b

@[simp] theorem sameIgnoringCase_refl (a : String) : sameIgnoringCase a a = true := by
  simp [sameIgnoringCase]

theorem sameIgnoringCase_comm (a b : String) :
    sameIgnoringCase a b = sameIgnoringCase b a := by
  simp [sameIgnoringCase, Bool.beq_comm]

/-- The ASCII letter a character folds to: itself for a small letter, and the
long s and the kelvin sign fold to `s` and `k`. -/
def folded (c : Char) : Char :=
  if c.toNat = 0x17f then 's' else if c.toNat = 0x212a then 'k' else c.toLower

end ParamSql.Text
