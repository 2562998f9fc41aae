/-!
# Pagination

The range of rows asked for, and the window it denotes: a first row counted
from zero and a number of rows, as words of 64 bits. A first row past the
largest word is that word.
-/

namespace ParamSql

inductive Pagination
  | unbounded
  | top (size : UInt64)
  /-- `size` rows from the row `offset` on, counted from zero. -/
  | limit (offset size : UInt64)
  /-- The `index`-th page of `size` rows, counted from one. -/
  | page (size index : UInt64)
  /-- A page of a result that is known to have `recordCount` rows. -/
  | pageWithCount (size index recordCount : UInt64)
deriving DecidableEq, Repr

/-- `size` rows from the row `start` on. -/
structure Window where
  start : UInt64
  size : UInt64
deriving DecidableEq, Repr

/-- The word nearest to a natural number. -/
def saturated (n : Nat) : UInt64 := UInt64.ofNat (min n 18446744073709551615)

theorem toNat_saturated (n : Nat) : (saturated n).toNat = min n 18446744073709551615 := by
  simp only [saturated, UInt64.toNat_ofNat']
  omega

theorem toNat_min (a b : UInt64) : (min a b).toNat = min a.toNat b.toNat := by
  have hmin : min a b = if a ≤ b then a else b := rfl
  rw [hmin]
  by_cases h : a ≤ b
  · rw [if_pos h, Nat.min_eq_left (UInt64.le_iff_toNat_le.1 h)]
  · have hle : b.toNat ≤ a.toNat := by
      rw [UInt64.le_iff_toNat_le] at h
      omega
    rw [if_neg h, Nat.min_eq_right hle]

namespace Pagination

/-- First row of a page, counted from zero. -/
def pageStart (size index : UInt64) : UInt64 := saturated ((index.toNat - 1) * size.toNat)

def window? : Pagination → Option Window
  | unbounded => none
  | top size => some ⟨0, size⟩
  | limit offset size => some ⟨offset, size⟩
  | page size index => some ⟨pageStart size index, size⟩
  | pageWithCount size index _ => some ⟨pageStart size index, size⟩

def recordCount? : Pagination → Option UInt64
  | pageWithCount _ _ recordCount => some recordCount
  | _ => none

end Pagination

end ParamSql
