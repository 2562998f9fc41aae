import ParamSql.Proofs.Select.Building

/-!
# The name of the source

The source of a query is declared by the last name given to it. A join to the source is written
down with the name that the source has when the join is added, so it refers to the source only
if no other name is given later.
-/

namespace ParamSql

namespace SelectCall

def newName? : SelectCall → Option String
  | named name => some name
  | _ => none

/-- Calls that join to the source by the name it has. -/
def JoinsSource : SelectCall → Prop
  | join .. | joinQuery .. => True
  | _ => False

def KeepsSource : SelectCall → Prop
  | countQuery => False
  | _ => True

def lastName? (calls : List SelectCall) : Option String := (calls.filterMap newName?).getLast?

theorem lastName?_cons (call : SelectCall) (calls : List SelectCall) :
    lastName? (call :: calls) = (lastName? calls).or call.newName? := by
  unfold lastName?
  cases h : call.newName? with
  | none => rw [List.filterMap_cons_none h, Option.or_none]
  | some name =>
    rw [List.filterMap_cons_some h, List.getLast?_cons]
    cases (calls.filterMap newName?).getLast? <;> rfl

end SelectCall

namespace Select

/-- What calls leave of the source and the joins of a query when they give this name to it. -/
structure Renamed (s t : Select) (name : Option String) : Prop where
  source : t.source = s.source
  sourceAlias : t.sourceAlias = name.or s.sourceAlias
  joins : s.joins <+: t.joins

namespace Renamed

variable {s t u : Select} {name later : Option String}

theorem refl (s : Select) : s.Renamed s none := ⟨rfl, rfl, List.prefix_refl _⟩

theorem trans (h : s.Renamed t name) (h' : t.Renamed u later) :
    s.Renamed u (later.or name) where
  source := h'.source.trans h.source
  sourceAlias := by rw [h'.sourceAlias, h.sourceAlias, Option.or_assoc]
  joins := h.joins.trans h'.joins

/-- The source is known by the name given to it, or else as before. -/
theorem sourceName?_eq (h : s.Renamed t name) : t.sourceName? = name.or s.sourceName? := by
  unfold sourceName?
  rw [h.sourceAlias, h.source]
  cases name <;> rfl

end Renamed

variable {s t : Select}

/-- One call renames the source or leaves it alone, and takes no join away. -/
theorem renamed_of_apply {call : SelectCall} (hcall : call.KeepsSource)
    (h : call.apply s = .ok t) : s.Renamed t call.newName? := by
  cases call with
  | countQuery => exact hcall.elim
  | wherePredicate resolve p =>
    obtain ⟨c, -, rfl⟩ := ok_of_map h
    exact ⟨rfl, rfl, List.prefix_refl _⟩
  | paged call =>
    obtain ⟨-, rfl⟩ := PageCall.apply_eq_ok h
    exact ⟨rfl, rfl, List.prefix_refl _⟩
  | addJoin | join | joinFrom | joinQuery =>
    obtain rfl := Except.ok.inj h
    exact ⟨rfl, rfl, List.prefix_append _ _⟩
  | groupBy key =>
    obtain rfl : s.groupBy key = t := Except.ok.inj h
    rw [groupBy_eq]
    exact ⟨rfl, rfl, List.prefix_refl _⟩
  | _ =>
    obtain rfl := Except.ok.inj h
    exact ⟨rfl, rfl, List.prefix_refl _⟩

/-- By induction along the calls, the last name given to the source stays. -/
theorem renamed_of_run {calls : List SelectCall} (hcalls : ∀ call ∈ calls, call.KeepsSource)
    (h : s.run calls = .ok t) : s.Renamed t (SelectCall.lastName? calls) := by
  induction calls generalizing s with
  | nil =>
    obtain rfl : s = t := Except.ok.inj h
    exact .refl s
  | cons call calls ih =>
    obtain ⟨s', hcall, hrest⟩ := ok_of_bind h
    have first := renamed_of_apply (hcalls call List.mem_cons_self) hcall
    rw [SelectCall.lastName?_cons]
    exact first.trans (ih (fun c hc => hcalls c (List.mem_cons_of_mem _ hc)) hrest)

theorem run_append_cons {before after : List SelectCall} {call : SelectCall}
    (h : s.run (before ++ call :: after) = .ok t) :
    ∃ mid next, s.run before = .ok mid ∧ call.apply mid = .ok next ∧ next.run after = .ok t := by
  induction before generalizing s with
  | nil =>
    obtain ⟨next, hcall, hrest⟩ := ok_of_bind h
    exact ⟨s, next, rfl, hcall, hrest⟩
  | cons first before ih =>
    obtain ⟨s', hfirst, hrest⟩ := ok_of_bind h
    obtain ⟨mid, next, hmid, hcall, hafter⟩ := ih hrest
    refine ⟨mid, next, ?_, hcall, hafter⟩
    rw [run, hfirst]
    exact hmid

theorem joins_of_joinsSource {call : SelectCall} (hcall : call.JoinsSource)
    (h : call.apply s = .ok t) : s.Renamed t none ∧
      ∃ added, t.joins = s.joins ++ [added] ∧ added.currentTable = s.sourceName?.getD "" := by
  cases call with
  | join | joinQuery =>
    obtain rfl := Except.ok.inj h
    exact ⟨⟨rfl, rfl, List.prefix_append _ _⟩, _, rfl, rfl⟩
  | _ => exact hcall.elim

theorem named_comm_iff {call : SelectCall} (hcall : call.JoinsSource) (s : Select)
    (name : String) :
    (call.apply s).map (·.named name) = call.apply (s.named name) ↔
      name = s.sourceName?.getD "" := by
  rw [eq_comm (a := name)]
  cases s
  cases call with
  | join => simp [SelectCall.apply, Except.map, join, joinFrom, addJoin, named, sourceName?]
  | joinQuery => simp [SelectCall.apply, Except.map, joinQuery, named, sourceName?]
  | _ => exact hcall.elim

theorem source_declared {name : String} (h : s.sourceName? = some name) (d : Dialect) :
    ∃ front, (s.clauses d).source =
      joinedSource (front ++ Document.identifier name) (joinDocuments d s.joins) := by
  obtain ⟨_, source, sourceAlias, _, _, joins, _, _, _, _, _, _⟩ := s
  cases sourceAlias with
  | some label =>
    obtain rfl : label = name := Option.some.inj h
    exact ⟨_, congrArg (joinedSource · _) (List.append_assoc _ _ _).symm⟩
  | none =>
    cases source with
    | table own =>
      obtain rfl : own = name := Option.some.inj h
      exact ⟨[], congrArg (joinedSource · _) (List.append_nil _)⟩
    | query inner => contradiction

/-- A join to the source stands in the query that all calls make, with the name that the source
had when it was added. This is the name that the source has in the end, by which FROM declares
it, exactly when the last name given to it after the join, if there is one, is the same; and
only that name could have been given to the source before the join as well as after it. -/
theorem join_refers_to_source_iff {before after : List SelectCall} {call : SelectCall}
    (hcall : call.JoinsSource) (hafter : ∀ later ∈ after, later.KeepsSource)
    (h : s.run (before ++ call :: after) = .ok t) :
    ∃ mid added, s.run before = .ok mid ∧ t.joins[mid.joins.length]? = some added ∧
      added.currentTable = mid.sourceName?.getD "" ∧
      (added.currentTable = t.sourceName?.getD "" ↔
        ∀ name, SelectCall.lastName? after = some name → name = mid.sourceName?.getD "") ∧
      (∀ name, t.sourceName? = some name → ∀ d, ∃ front, (t.clauses d).source =
        joinedSource (front ++ Document.identifier name) (joinDocuments d t.joins)) ∧
      ∀ name, (call.apply mid).map (·.named name) = call.apply (mid.named name) ↔
        name = mid.sourceName?.getD "" := by
  obtain ⟨mid, next, hmid, hnext, hrest⟩ := run_append_cons h
  obtain ⟨kept, added, hjoins, htable⟩ := joins_of_joinsSource hcall hnext
  have rest := renamed_of_run hafter hrest
  refine ⟨mid, added, hmid, ?_, htable, ?_, fun _ => source_declared, named_comm_iff hcall mid⟩
  · obtain ⟨more, hmore⟩ := rest.joins
    rw [← hmore, hjoins, List.append_assoc, List.getElem?_append_right (Nat.le_refl _),
      Nat.sub_self]
    rfl
  · rw [htable, rest.sourceName?_eq, kept.sourceName?_eq, Option.none_or]
    cases SelectCall.lastName? after with
    | none => exact iff_of_true rfl nofun
    | some name => simp [eq_comm]

/-- A query joined to a source that is given its name twice. -/
theorem join_refers_to_source_iff_named :
    let before : List SelectCall :=
      [.named "A", .joinFrom .left "A" "id" "U" "tid", .named "X"]
    let call : SelectCall := .joinQuery .inner "id" (.ofTable .oracle "V") "tid"
    let after : List SelectCall := [.named "B", .addColumn "a", .named "X", .onlyDistinct]
    ∃ t added, (ofTable .mySql "T").run (before ++ call :: after) = .ok t ∧
      t.joins[1]? = some added ∧ added.currentTable = t.sourceName?.getD "" := by
  intro before call after
  have run : ∃ t mid, (ofTable .mySql "T").run (before ++ call :: after) = .ok t ∧
      (ofTable .mySql "T").run before = .ok mid ∧ mid.joins.length = 1 ∧
      mid.sourceName? = some "X" := ⟨_, _, rfl, rfl, rfl, rfl⟩
  obtain ⟨t, mid, ht, hmid, hlength, hname⟩ := run
  have joins : call.JoinsSource := trivial
  have later : ∀ c ∈ after, c.KeepsSource := by simp [after, SelectCall.KeepsSource]
  obtain ⟨mid', added, hmid', hadded, -, same, -, -⟩ :=
    join_refers_to_source_iff joins later ht
  obtain rfl : mid = mid' := Except.ok.inj (hmid.symm.trans hmid')
  refine ⟨t, added, ht, hlength ▸ hadded, same.2 ?_⟩
  intro name hlast
  obtain rfl : "X" = name := Option.some.inj hlast
  rw [hname]
  rfl

/-- A source named behind the join to it is not found by the join. -/
theorem join_before_named :
    let s := ((ofTable .mySql "T").join .inner "id" "U" "tid").named "X"
    s.sourceName? = some "X" ∧ s.joins.map (·.currentTable) = ["T"] ∧
      s.command false =
        .ok ⟨.select, "SELECT * FROM T AS X INNER JOIN U ON T.id = U.tid", []⟩ := by
  intro s
  refine ⟨rfl, rfl, ?_⟩
  simp only [s]
  decide +kernel

end Select

end ParamSql
