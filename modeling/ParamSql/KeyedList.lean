/-!
# Keyed lists

Lists that hold one item for each key, in the order in which the keys came.
An item with a key that is there already takes the place of the old one, and
the others stay as they are.
-/

namespace ParamSql

/-- Put an item in the place of the first one with its key, or at the end. -/
def replaceOrAppend [DecidableEq κ] (key : α → κ) (item : α) : List α → List α
  | [] => [item]
  | a :: rest => if key a = key item then item :: rest else a :: replaceOrAppend key item rest

/-- A new key goes to the end; a known one keeps its place. -/
theorem map_replaceOrAppend [DecidableEq κ] (key : α → κ) (item : α) (items : List α) :
    (replaceOrAppend key item items).map key =
      if key item ∈ items.map key then items.map key else items.map key ++ [key item] := by
  induction items with
  | nil => simp [replaceOrAppend]
  | cons a rest ih =>
    by_cases h : key a = key item
    · simp [replaceOrAppend, h]
    · have hne : key item ≠ key a := fun heq => h heq.symm
      rw [replaceOrAppend, if_neg h, List.map_cons, ih]
      by_cases hmem : key item ∈ rest.map key <;> simp [hmem, hne]

@[simp] theorem lookup_replaceOrAppend_self [DecidableEq κ] (key : κ) (value : β)
    (entries : List (κ × β)) :
    (replaceOrAppend Prod.fst (key, value) entries).lookup key = some value := by
  induction entries with
  | nil => simp [replaceOrAppend]
  | cons entry rest ih =>
    obtain ⟨k, v⟩ := entry
    by_cases h : k = key
    · simp [replaceOrAppend, h]
    · have hne : (key == k) = false := by simpa using fun heq : key = k => h heq.symm
      simp [replaceOrAppend, h, List.lookup_cons, hne, ih]

end ParamSql
