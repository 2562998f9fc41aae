import Mathlib.Data.List.Nodup
import ParamSql.KeyedList

/-!
# Keyed lists filled step by step

A keyed list into which items are put one after the other holds the latest item of each key, and
its keys stand in the order in which they first came.
-/

namespace ParamSql

section

variable {α κ : Type} [DecidableEq κ] {key : α → κ} {item : α} {items : List α}

theorem eraseDups_append_singleton (ks : List κ) (k : κ) :
    (ks ++ [k]).eraseDups = if k ∈ ks then ks.eraseDups else ks.eraseDups ++ [k] := by
  rw [List.eraseDups_append]
  by_cases hk : k ∈ ks <;> simp [List.removeAll, List.eraseDups_cons, hk]

theorem mem_replaceOrAppend {x : α} (h : x ∈ replaceOrAppend key item items) :
    x = item ∨ x ∈ items := by
  induction items with
  | nil => exact .inl (List.mem_singleton.1 h)
  | cons a rest ih =>
    rw [replaceOrAppend] at h
    split at h
    · exact (List.mem_cons.1 h).imp_right (List.mem_cons_of_mem _)
    · rcases List.mem_cons.1 h with rfl | h
      · exact .inr List.mem_cons_self
      · exact (ih h).imp_right (List.mem_cons_of_mem _)

theorem nodup_replaceOrAppend (h : (items.map key).Nodup) (item : α) :
    ((replaceOrAppend key item items).map key).Nodup := by
  rw [map_replaceOrAppend]
  split
  · exact h
  · rename_i hnew
    rw [← List.concat_eq_append]
    exact h.concat hnew

theorem mem_replaceOrAppend_of_nodup (hnodup : (items.map key).Nodup) {x : α}
    (h : x ∈ replaceOrAppend key item items) : x = item ∨ x ∈ items ∧ key x ≠ key item := by
  induction items with
  | nil => exact .inl (List.mem_singleton.1 h)
  | cons a rest ih =>
    obtain ⟨hnew, hrest⟩ := List.nodup_cons.1 hnodup
    rw [replaceOrAppend] at h
    split at h
    · rename_i hkey
      rcases List.mem_cons.1 h with rfl | hx
      · exact .inl rfl
      · refine .inr ⟨List.mem_cons_of_mem _ hx, fun hsame => hnew ?_⟩
        rw [hkey, ← hsame]
        exact List.mem_map_of_mem hx
    · rename_i hkey
      rcases List.mem_cons.1 h with rfl | hx
      · exact .inr ⟨List.mem_cons_self, hkey⟩
      · exact (ih hrest hx).imp_right (And.imp_left (List.mem_cons_of_mem _))

end

/-- What a keyed list holds after items have been put into it: one for each key, in the order in
which the keys first came, and of each key the one behind which no other came. -/
structure HoldsLatest {α κ : Type} [DecidableEq κ] (key : α → κ) (put items : List α) : Prop where
  nodup : (items.map key).Nodup
  keys : items.map key = (put.map key).eraseDups
  latest : ∀ item ∈ items, ∃ before after,
    put = before ++ item :: after ∧ ∀ later ∈ after, key later ≠ key item

namespace HoldsLatest

variable {α κ : Type} [DecidableEq κ] {key : α → κ} {before items : List α}

theorem mem_put {put : List α} (h : HoldsLatest key put items) {item : α} (hitem : item ∈ items) :
    item ∈ put := by
  obtain ⟨before, after, rfl, -⟩ := h.latest item hitem
  exact List.mem_append_right _ List.mem_cons_self

theorem nil : HoldsLatest key [] [] where
  nodup := List.nodup_nil
  keys := rfl
  latest := fun _ h => absurd h List.not_mem_nil

theorem put (h : HoldsLatest key before items) (item : α) :
    HoldsLatest key (before ++ [item]) (replaceOrAppend key item items) := by
  have known : key item ∈ items.map key ↔ key item ∈ before.map key := by
    rw [h.keys]
    exact List.mem_eraseDups
  refine ⟨nodup_replaceOrAppend h.nodup item, ?_, ?_⟩
  · rw [map_replaceOrAppend, List.map_append, List.map_singleton, eraseDups_append_singleton,
      ← h.keys]
    by_cases hkey : key item ∈ items.map key
    · rw [if_pos hkey, if_pos (known.1 hkey)]
    · rw [if_neg hkey, if_neg (known.not.1 hkey)]
  · intro x hx
    rcases mem_replaceOrAppend_of_nodup h.nodup hx with rfl | ⟨hmem, hne⟩
    · exact ⟨before, [], rfl, fun _ hlater => absurd hlater List.not_mem_nil⟩
    · obtain ⟨front, back, rfl, hback⟩ := h.latest x hmem
      refine ⟨front, back ++ [item], by rw [List.append_assoc, List.cons_append], ?_⟩
      intro later hlater
      rcases List.mem_append.1 hlater with hlater | hlater
      · exact hback later hlater
      · rw [List.mem_singleton.1 hlater]
        exact hne.symm

theorem putAll (h : HoldsLatest key before items) (more : List α) :
    HoldsLatest key (before ++ more)
      (more.foldl (fun items item => replaceOrAppend key item items) items) := by
  induction more generalizing before items with
  | nil =>
    rw [List.append_nil]
    exact h
  | cons item more ih =>
    have behind := ih (h.put item)
    rwa [List.append_assoc, List.singleton_append] at behind

end HoldsLatest

end ParamSql
