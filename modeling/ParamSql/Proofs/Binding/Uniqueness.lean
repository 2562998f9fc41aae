import Mathlib.Data.List.Pairwise
import ParamSql.Proofs.Binding.Alignment
import ParamSql.Proofs.Binding.Embedding
import ParamSql.Proofs.Statement.Building
import ParamSql.Timestamp.Layout

/-!
# Names that stand for one value

A name that is given out is given out once. So the parameters of a statement
are told apart by their names as far as those are that had a name from the
start. In an update these are the new values, one for each column, and the
values columns had, of which there is one for each call that asks for it.
-/

namespace ParamSql

open Document

theorem newName_not_indexed (column : String) : ¬ "IDX_".toList <+: ("NEW_" ++ column).toList := by
  simp

theorem oldName_not_indexed (column : String) : ¬ "IDX_".toList <+: ("OLD_" ++ column).toList := by
  simp

theorem newName_ne_oldName (a b : String) : "NEW_" ++ a ≠ "OLD_" ++ b := by
  intro h
  have characters := congrArg String.toList h
  simp at characters

namespace Binder

theorem indexedName_injective {k l : Nat} (h : indexedName k = indexedName l) : k = l := by
  have index : index? (indexedName k) = index? (indexedName l) := by rw [h]
  rw [index?_indexedName, index?_indexedName] at index
  exact Option.some.inj index

theorem not_indexed_of_unindexed {p : Parameter} (h : p.Unindexed) (k : Nat) :
    p.name? ≠ some (indexedName k) := by
  intro hname
  refine h (indexedName k) hname ?_
  rw [indexedName, String.toList_append]
  exact List.prefix_append _ _

theorem mem_recorded_of_name {n : Nat} {ps : List Parameter} {p : Parameter} (hp : p ∈ ps)
    {name : String} (hname : p.name? = some name) : p ∈ recorded n ps := by
  induction ps generalizing n with
  | nil => exact absurd hp List.not_mem_nil
  | cons q ps ih =>
    cases q with
    | raw column sql type =>
      rcases List.mem_cons.1 hp with rfl | hp
      · exact nomatch hname
      · exact ih hp
    | bound column given value type =>
      cases given with
      | none =>
        rcases List.mem_cons.1 hp with rfl | hp
        · exact nomatch hname
        · exact List.mem_cons_of_mem _ (ih hp)
      | some given =>
        rcases List.mem_cons.1 hp with rfl | hp
        · exact List.mem_cons_self
        · exact List.mem_cons_of_mem _ (ih hp)

/-- What is recorded had its name from the start, or was given a later one than all before. -/
theorem mem_or_indexed_of_mem_recorded {n : Nat} {ps : List Parameter} {p : Parameter}
    (hp : p ∈ recorded n ps) : p ∈ ps ∨ ∃ k, n ≤ k ∧ p.name? = some (indexedName k) := by
  induction ps generalizing n with
  | nil => exact absurd hp List.not_mem_nil
  | cons q ps ih =>
    cases q with
    | raw column sql type => exact (ih hp).imp_left (List.mem_cons_of_mem _)
    | bound column given value type =>
      cases given with
      | none =>
        rcases List.mem_cons.1 hp with rfl | hp
        · exact .inr ⟨n, Nat.le_refl n, rfl⟩
        · rcases ih hp with hmem | ⟨k, hk, hname⟩
          · exact .inl (List.mem_cons_of_mem _ hmem)
          · exact .inr ⟨k, by omega, hname⟩
      | some given =>
        rcases List.mem_cons.1 hp with rfl | hp
        · exact .inl List.mem_cons_self
        · exact (ih hp).imp_left (List.mem_cons_of_mem _)

/-- Of two places in the record, the names are equal only if both were there from the start. -/
theorem pairwise_recorded {n : Nat} {ps : List Parameter} (h : ∀ p ∈ ps, p.Unindexed) :
    (recorded n ps).Pairwise fun p q => p.name? = q.name? → p ∈ ps ∧ q ∈ ps := by
  induction ps generalizing n with
  | nil => exact .nil
  | cons r ps ih =>
    have hps : ∀ p ∈ ps, p.Unindexed := fun p hp => h p (List.mem_cons_of_mem _ hp)
    have tail (m : Nat) :
        (recorded m ps).Pairwise fun p q => p.name? = q.name? → p ∈ r :: ps ∧ q ∈ r :: ps :=
      (ih hps).imp fun hmem hname =>
        (hmem hname).imp (List.mem_cons_of_mem _) (List.mem_cons_of_mem _)
    cases r with
    | raw column sql type => exact tail n
    | bound column given value type =>
      cases given with
      | some given =>
        refine List.pairwise_cons.2 ⟨?_, tail n⟩
        intro q hq hname
        rcases mem_or_indexed_of_mem_recorded hq with hmem | ⟨k, -, hk⟩
        · exact ⟨List.mem_cons_self, List.mem_cons_of_mem _ hmem⟩
        · exact absurd (hname.trans hk) (not_indexed_of_unindexed (h _ List.mem_cons_self) k)
      | none =>
        -- what follows has other names: its own, or those of later numbers
        refine List.pairwise_cons.2 ⟨?_, tail (n + 1)⟩
        intro q hq hname
        rcases mem_or_indexed_of_mem_recorded hq with hmem | ⟨k, hk, hlater⟩
        · exact absurd hname.symm (not_indexed_of_unindexed (hps q hmem) n)
        · have := indexedName_injective (Option.some.inj (hname.trans hlater))
          omega

/-- Two recorded parameters of one name are the same, or had the name from the start. -/
theorem eq_or_mem_of_name_eq {n : Nat} {ps : List Parameter} (h : ∀ p ∈ ps, p.Unindexed)
    {p q : Parameter} (hp : p ∈ recorded n ps) (hq : q ∈ recorded n ps)
    (hname : p.name? = q.name?) : p = q ∨ p ∈ ps ∧ q ∈ ps := by
  have symmetric : Std.Symm fun p q : Parameter => p.name? = q.name? → p ∈ ps ∧ q ∈ ps :=
    ⟨fun _ _ hmem hname => (hmem hname.symm).symm⟩
  by_cases heq : p = q
  · exact .inl heq
  · exact .inr ((pairwise_recorded h).forall hp hq heq hname)

/-- Equal names stand for equal values, when they do among the names there from the start. -/
theorem values_agree_iff {n : Nat} {ps : List Parameter} (h : ∀ p ∈ ps, p.Unindexed) :
    (∀ p ∈ recorded n ps, ∀ q ∈ recorded n ps, p.name? = q.name? → p.value = q.value) ↔
      ∀ p ∈ ps, ∀ q ∈ ps, ∀ name, p.name? = some name → q.name? = some name →
        p.value = q.value := by
  constructor
  · intro hagree p hp q hq name hpname hqname
    exact hagree p (mem_recorded_of_name hp hpname) q (mem_recorded_of_name hq hqname)
      (hpname.trans hqname.symm)
  · intro hagree p hp q hq hname
    rcases eq_or_mem_of_name_eq h hp hq hname with rfl | ⟨hpmem, hqmem⟩
    · rfl
    · obtain ⟨-, name, hpname⟩ := bound_of_mem_recorded hp
      exact hagree p hpmem q hqmem name hpname (hname.symm.trans hpname)

end Binder

theorem Command.value_parameter?_iff {c : Command}
    (hnamed : ∀ p ∈ c.parameters, ∃ name, p.name? = some name) :
    (∀ p ∈ c.parameters, ∀ q ∈ c.parameters, p.name? = q.name? → p.value = q.value) ↔
      ∀ p ∈ c.parameters, ∀ name, p.name? = some name →
        ∃ q, c.parameter? name = some q ∧ q.value = p.value := by
  constructor
  · intro hagree p hp name hname
    have found : (c.parameter? name).isSome :=
      List.find?_isSome.2 ⟨p, hp, beq_iff_eq.2 hname⟩
    obtain ⟨q, hq⟩ := Option.isSome_iff_exists.1 found
    have hqname : (q.name? == some name) = true :=
      List.find?_some (p := fun q : Parameter => q.name? == some name) hq
    exact ⟨q, hq, hagree q (List.mem_of_find?_eq_some hq) p hp
      ((beq_iff_eq.1 hqname).trans hname.symm)⟩
  · intro hfind p hp q hq hname
    obtain ⟨name, hpname⟩ := hnamed p hp
    obtain ⟨r, hr, hrp⟩ := hfind p hp name hpname
    obtain ⟨r', hr', hrq⟩ := hfind q hq name (hname.symm.trans hpname)
    obtain rfl : r = r' := Option.some.inj (hr.symm.trans hr')
    exact hrp.symm.trans hrq

theorem holes_filterClause (d : Dialect) (c : Option Condition) :
    (filterClause d c).holes = Condition.optionalHoles d c := by
  cases c with
  | none => rfl
  | some c => exact holes_constant_append (isConstant_clause .WHERE) _

theorem Condition.unnamed_of_mem_optionalHoles {d : Dialect} {c : Option Condition}
    (h : ∀ p ∈ optionalParameters c, p.name? = none) :
    ∀ p ∈ optionalHoles d c, p.name? = none := by
  intro p hp
  cases c with
  | none => exact absurd hp List.not_mem_nil
  | some c => exact h p ((RootStatement.condition d c).holes_mem_parameters hp)

theorem Select.holes_document_subset (s : Select) (d : Dialect) :
    ∀ p ∈ (s.document d).holes, p ∈ s.parameters := by
  intro p hp
  have self : s.Corresponds Eq (fun p q => p = q ∧ p ∈ s.parameters) s :=
    s.corresponds_self fun _ hp => ⟨rfl, hp⟩
  exact (self.document d).holes_mem hp

namespace Assignment

theorem Tidy.eq_value {a : Assignment} (h : a.Tidy) {d : Dialect} {p : Parameter}
    (hp : p ∈ (a.document d).holes) {name : String} (hname : p.name? = some name) :
    a = value p ∧ name = "NEW_" ++ p.column := by
  cases a with
  | value q =>
    obtain rfl := List.mem_singleton.1 hp
    rcases h with hnone | hnew
    · rw [hnone] at hname
      contradiction
    · exact ⟨rfl, Option.some.inj (hname.symm.trans hnew)⟩
  | query column inner =>
    have holes : ((query column inner).document d).holes = (inner.document d).holes :=
      holes_parenthesized _
    rw [holes] at hp
    rw [h p (inner.holes_document_subset d p hp)] at hname
    contradiction

theorem TidyAll.name_eq {as : List Assignment} (h : TidyAll as) {d : Dialect} {p : Parameter}
    (hp : p ∈ as.flatMap fun a => (a.document d).holes) {name : String}
    (hname : p.name? = some name) : name = "NEW_" ++ p.column := by
  obtain ⟨a, ha, hpa⟩ := List.mem_flatMap.1 hp
  exact ((h.each a ha).eq_value hpa hname).2

theorem TidyAll.eq_of_name_eq {as : List Assignment} (h : TidyAll as) {d : Dialect}
    {p q : Parameter} (hp : p ∈ as.flatMap fun a => (a.document d).holes)
    (hq : q ∈ as.flatMap fun a => (a.document d).holes) {name : String}
    (hpname : p.name? = some name) (hqname : q.name? = some name) : p = q := by
  obtain ⟨a, ha, hpa⟩ := List.mem_flatMap.1 hp
  obtain ⟨b, hb, hqb⟩ := List.mem_flatMap.1 hq
  obtain ⟨rfl, hpcolumn⟩ := (h.each a ha).eq_value hpa hpname
  obtain ⟨rfl, hqcolumn⟩ := (h.each b hb).eq_value hqb hqname
  have column : p.column = q.column :=
    String.append_right_inj _ |>.1 (hpcolumn.symm.trans hqcolumn)
  have same : value p = value q := List.inj_on_of_nodup_map h.columns ha hb column
  exact value.inj same

end Assignment

namespace Update

theorem holes_document {u : Update} (h : u.assignments ≠ []) :
    u.document.holes =
      (u.assignments.flatMap fun a => (a.document u.dialect).holes) ++
        Condition.optionalHoles u.dialect u.filter := by
  obtain ⟨dialect, table, as, filter⟩ := u
  cases as with
  | nil => exact absurd rfl h
  | cons a as =>
    have entry (a : Assignment) : holes (identifier a.column ++
        .token (.mark .equal) :: a.document dialect) = (a.document dialect).holes := rfl
    have changes : (separatedBy comma ((a :: as).map fun a =>
        identifier a.column ++ .token (.mark .equal) :: a.document dialect)).holes =
          (a :: as).flatMap fun a => (a.document dialect).holes := by
      rw [holes_separatedBy rfl, List.flatMap_map]
      simp only [entry]
    have head : holes (keyword .UPDATE ++ space ++ identifier table ++ clause .SET) = [] := rfl
    unfold document requireAssignments
    rw [holes_append, holes_append, head, List.nil_append, changes, holes_filterClause]

theorem assignments_ne_nil_of_command {u : Update} {c : Command} (h : u.command = .ok c) :
    u.assignments ≠ [] := by
  rintro hnil
  unfold command document requireAssignments at h
  rw [hnil] at h
  exact nomatch h

theorem parameters_of_command {u : Update} {c : Command} (h : u.command = .ok c) :
    c.parameters = Binder.recorded 0
      ((u.assignments.flatMap fun a => (a.document u.dialect).holes) ++
        Condition.optionalHoles u.dialect u.filter) := by
  have hne := assignments_ne_nil_of_command h
  obtain ⟨⟨text, ps⟩, hrender, rfl⟩ := ok_of_map h
  obtain ⟨⟨tokens, b⟩, hfill, hb⟩ := ok_of_map hrender
  obtain ⟨-, rfl⟩ := Prod.mk.inj hb
  obtain ⟨-, hparameters, -⟩ := fill_spec (RootStatement.update u).document_unfilled hfill
  rw [← holes_document hne]
  exact hparameters

/-- Parameters that a filter built by calls binds under a name are original values. -/
theorem eq_oldValue_of_name {calls : List UpdateCall} (hcalls : ∀ call ∈ calls, call.Unnamed)
    {d : Dialect} {p : Parameter}
    (hp : p ∈ calls.flatMap fun call => Condition.optionalHoles d call.condition)
    {name : String} (hname : p.name? = some name) :
    ∃ column v, p = .oldValue column v ∧ .whereUnchanged column v ∈ calls := by
  obtain ⟨call, hcall, hp⟩ := List.mem_flatMap.1 hp
  have unnamed (c : Option Condition) (hc : ∀ p ∈ optionalParameters c, p.name? = none)
      (hp : p ∈ Condition.optionalHoles d c) : False := by
    rw [Condition.unnamed_of_mem_optionalHoles hc p hp] at hname
    contradiction
  cases call with
  | whereUnchanged column v => exact ⟨column, v, List.mem_singleton.1 hp, hcall⟩
  | andWhere c => exact (unnamed c (hcalls _ hcall) hp).elim
  | orWhere c => exact (unnamed c (hcalls _ hcall) hp).elim
  | _ => exact absurd hp List.not_mem_nil

theorem oldValue_mem {calls : List UpdateCall} {column : String} {v : Value}
    (h : .whereUnchanged column v ∈ calls) (d : Dialect) :
    .oldValue column v ∈ calls.flatMap fun call => Condition.optionalHoles d call.condition :=
  List.mem_flatMap.2 ⟨.whereUnchanged column v, h, List.mem_singleton_self _⟩

section

variable {calls : List UpdateCall} (hcalls : ∀ call ∈ calls, call.Unnamed) {d : Dialect}
  {as : List Assignment} (htidy : Assignment.TidyAll as)

include hcalls htidy

theorem unindexed_of_mem : ∀ p ∈ (as.flatMap fun a => (a.document d).holes) ++
    calls.flatMap fun call => Condition.optionalHoles d call.condition, p.Unindexed := by
  intro p hp name hname
  rcases List.mem_append.1 hp with hp | hp
  · obtain rfl := htidy.name_eq hp hname
    exact newName_not_indexed _
  · obtain ⟨column, v, rfl, -⟩ := eq_oldValue_of_name hcalls hp hname
    obtain rfl := Option.some.inj hname
    exact oldName_not_indexed column

/-- The names there are from the start each stand for one value, when no column is asked
to have kept two. -/
theorem originals_agree_iff :
    let holes := (as.flatMap fun a => (a.document d).holes) ++
      calls.flatMap fun call => Condition.optionalHoles d call.condition
    (∀ p ∈ holes, ∀ q ∈ holes, ∀ name, p.name? = some name → q.name? = some name →
        p.value = q.value) ↔
      ∀ column v w, .whereUnchanged column v ∈ calls → .whereUnchanged column w ∈ calls →
        v = w := by
  intro holes
  constructor
  · intro hagree column v w hv hw
    exact hagree (.oldValue column v) (List.mem_append_right _ (oldValue_mem hv d))
      (.oldValue column w) (List.mem_append_right _ (oldValue_mem hw d)) _ rfl rfl
  · intro hone p hp q hq name hpname hqname
    rcases List.mem_append.1 hp with hp | hp <;> rcases List.mem_append.1 hq with hq | hq
    · rw [htidy.eq_of_name_eq hp hq hpname hqname]
    · obtain ⟨column, v, rfl, -⟩ := eq_oldValue_of_name hcalls hq hqname
      exact absurd ((htidy.name_eq hp hpname).symm.trans (Option.some.inj hqname).symm)
        (newName_ne_oldName _ _)
    · obtain ⟨column, v, rfl, -⟩ := eq_oldValue_of_name hcalls hp hpname
      exact absurd ((htidy.name_eq hq hqname).symm.trans (Option.some.inj hpname).symm)
        (newName_ne_oldName _ _)
    · obtain ⟨column, v, rfl, hv⟩ := eq_oldValue_of_name hcalls hp hpname
      obtain ⟨column', w, rfl, hw⟩ := eq_oldValue_of_name hcalls hq hqname
      obtain rfl : column = column' :=
        (String.append_right_inj _).1 (Option.some.inj (hpname.trans hqname.symm))
      exact hone column v w hv hw

end

/-- In an update built by any calls, whose given conditions and queries bind only what
waits for a name, no name stands for two values exactly when no column is asked to have
kept two different values. Each name then leads to the value meant by it. -/
theorem names_agree_iff [TimestampText] {d : Dialect} {table : String} {calls : List UpdateCall}
    {u : Update} (hcalls : ∀ call ∈ calls, call.Unnamed)
    (hrun : ({ dialect := d, table } : Update).run calls = .ok u) {c : Command}
    (hcommand : u.command = .ok c) :
    ((∀ p ∈ c.parameters, ∀ q ∈ c.parameters, p.name? = q.name? → p.value = q.value) ↔
      ∀ column v w, .whereUnchanged column v ∈ calls → .whereUnchanged column w ∈ calls →
        v = w) ∧
    ((∀ p ∈ c.parameters, ∀ q ∈ c.parameters, p.name? = q.name? → p.value = q.value) ↔
      ∀ p ∈ c.parameters, ∀ name, p.name? = some name →
        ∃ q, c.parameter? name = some q ∧ q.value = p.value) := by
  obtain ⟨-, htidy, hfilter⟩ := run_eq_ok .nil hcalls hrun u.dialect
  rw [Condition.optionalHoles, List.nil_append] at hfilter
  have parameters := parameters_of_command hcommand
  rw [hfilter] at parameters
  have hnamed : ∀ p ∈ c.parameters, ∃ name, p.name? = some name := by
    rw [parameters]
    exact fun p hp => (Binder.bound_of_mem_recorded hp).2
  refine ⟨?_, Command.value_parameter?_iff hnamed⟩
  rw [parameters, Binder.values_agree_iff (unindexed_of_mem hcalls htidy)]
  exact originals_agree_iff hcalls htidy

theorem names_agree_iff_guarded :
    let calls : List UpdateCall :=
      [.set "a" (.integer 1), .increase "b", .whereUnchanged "id" (.integer 1),
        .andWhere (some (.basic "c" .equal [.pending "c" (.integer 3)]))]
    ∃ u c, ({ dialect := .sqlServer, table := "T" } : Update).run calls = .ok u ∧
      u.command = .ok c ∧
      ∀ p ∈ c.parameters, ∀ name, p.name? = some name →
        ∃ q, c.parameter? name = some q ∧ q.value = p.value := by
  intro calls
  have hcalls : ∀ call ∈ calls, call.Unnamed := by
    simp [calls, UpdateCall.Unnamed, optionalParameters, Condition.parameters, Parameter.pending,
      Parameter.name?]
  have hrun : ({ dialect := .sqlServer, table := "T" } : Update).run calls = .ok _ := rfl
  refine ⟨_, _, hrun, rfl, ?_⟩
  obtain ⟨agree, found⟩ := names_agree_iff hcalls hrun rfl
  refine found.1 (agree.2 ?_)
  simp only [calls]
  intro column v w hv hw
  simp only [List.mem_cons, List.not_mem_nil, UpdateCall.whereUnchanged.injEq, reduceCtorEq,
    false_or, or_false] at hv hw
  exact hv.2.trans hw.2.symm

/-- A column asked twice to have kept its value, and not the same one: the two values go by
one name, and the one found under it is meant in one of its two places. -/
theorem one_name_two_values :
    let calls : List UpdateCall :=
      [.set "a" (.integer 1), .whereUnchanged "id" (.integer 1),
        .whereUnchanged "id" (.integer 2)]
    ∃ u c, ({ dialect := .sqlServer, table := "T" } : Update).run calls = .ok u ∧
      u.command = .ok c ∧
      c.text = "UPDATE T SET a=@PN_NEW_a WHERE ((id = @PN_OLD_id) AND (id = @PN_OLD_id))" ∧
      c.parameters.map (fun p => (p.name?, p.value)) =
        [(some "NEW_a", .integer 1), (some "OLD_id", .integer 1), (some "OLD_id", .integer 2)] ∧
      (c.parameter? "OLD_id").map (·.value) = some (.integer 1) ∧
      ∃ p ∈ c.parameters, ∃ q ∈ c.parameters, p.name? = q.name? ∧ p.value ≠ q.value := by
  intro calls
  exact ⟨_, _, rfl, rfl, by decide +kernel⟩

end Update

end ParamSql
