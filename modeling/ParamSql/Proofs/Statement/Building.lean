import ParamSql.Proofs.Rendering.Pieces
import ParamSql.Proofs.Statement.Entity
import ParamSql.Proofs.Statement.Root

/-!
# Building updates

The calls that build an update, and what any sequence of them leaves behind:
one assignment for each column, where a bound value is named after its column,
and a filter that binds what its conditions bind, in the order in which they
were added.
-/

namespace ParamSql

open Document

namespace Assignment

/-- A bound value goes by the name of its column, and nothing else has a name yet. -/
def Tidy : Assignment → Prop
  | value p => p.name? = none ∨ p.name? = some ("NEW_" ++ p.column)
  | query _ inner => ∀ p ∈ inner.parameters, p.name? = none

structure TidyAll (as : List Assignment) : Prop where
  columns : (as.map column).Nodup
  each : ∀ a ∈ as, a.Tidy

theorem TidyAll.nil : TidyAll [] := ⟨List.nodup_nil, fun _ h => absurd h List.not_mem_nil⟩

theorem TidyAll.assign {as : List Assignment} {a : Assignment} (h : TidyAll as) (ha : a.Tidy) :
    TidyAll (assign as a) := by
  refine ⟨nodup_replaceOrAppend h.columns a, fun b hb => ?_⟩
  rcases mem_replaceOrAppend hb with rfl | hb
  · exact ha
  · exact h.each b hb

theorem TidyAll.assignAll {as more : List Assignment} (h : TidyAll as)
    (hmore : ∀ a ∈ more, a.Tidy) : TidyAll (assignAll as more) := by
  induction more generalizing as with
  | nil => exact h
  | cons a more ih =>
    exact ih (h.assign (hmore a List.mem_cons_self)) fun b hb => hmore b (List.mem_cons_of_mem _ hb)

theorem tidy_of_ofExpression {column sql : String} {a : Assignment}
    (h : ofExpression column sql = .ok a) : a.Tidy := by
  obtain ⟨_, -, rfl⟩ := ok_of_map h
  exact .inl rfl

theorem tidy_ofColumn (column : Column) (v : Value) : (ofColumn column v).Tidy := by
  obtain ⟨name, type⟩ := column
  cases type <;> exact .inr rfl

theorem tidy_of_ofEntity [TimestampText] {m : EntityMapping} {entity : Except String Serialized}
    {as : List Assignment} (h : ofEntity m entity = .ok as) : ∀ a ∈ as, a.Tidy := by
  intro a ha
  obtain ⟨column, v, rfl⟩ := exists_ofColumn_of_mem h ha
  exact tidy_ofColumn column v

end Assignment

inductive UpdateCall
  | set (column : String) (v : Value)
  | setTyped (column : String) (v : Value) (type : StorageType)
  | setExpression (column sql : String)
  | setQuery (column : String) (inner : Select)
  | setEntity (m : EntityMapping) (entity : Except String Serialized)
  | increase (column : String)
  | decrease (column : String)
  | whereUnchanged (column : String) (v : Value)
  | andWhere (c : Option Condition)
  | orWhere (c : Option Condition)

namespace UpdateCall

def apply [TimestampText] (u : Update) : UpdateCall → Except Error Update
  | set column v => .ok (u.set column v)
  | setTyped column v type => .ok (u.setTyped column v type)
  | setExpression column sql => u.setExpression column sql
  | setQuery column inner => .ok (u.setQuery column inner)
  | setEntity m entity => u.setEntity m entity
  | increase column => .ok (u.increase column)
  | decrease column => .ok (u.decrease column)
  | whereUnchanged column v => .ok (u.whereUnchanged column v)
  | andWhere c => .ok (u.andWhere c)
  | orWhere c => .ok (u.orWhere c)

def condition : UpdateCall → Option Condition
  | whereUnchanged column v => some (.basic column .equal [.oldValue column v])
  | andWhere c | orWhere c => c
  | _ => none

/-- No parameter of a given query or condition has a name yet. -/
def Unnamed : UpdateCall → Prop
  | setQuery _ inner => ∀ p ∈ inner.parameters, p.name? = none
  | andWhere c | orWhere c => ∀ p ∈ optionalParameters c, p.name? = none
  | _ => True

/-- All that a call can do: make tidy assignments, and join its condition to the filter. -/
def Effect (call : UpdateCall) (u u' : Update) : Prop :=
  ∃ more j, (∀ a ∈ more, Assignment.Tidy a) ∧
    u' = { u with
      assignments := Assignment.assignAll u.assignments more
      filter := Condition.combineOptional j u.filter call.condition }

section

variable {call : UpdateCall} {u u' : Update}

theorem effect_of_assignAll {more : List Assignment} (hmore : ∀ a ∈ more, a.Tidy)
    (hcondition : call.condition = none) :
    call.Effect u { u with assignments := Assignment.assignAll u.assignments more } := by
  refine ⟨more, .and, hmore, ?_⟩
  rw [hcondition, Condition.combineOptional_none]

theorem effect_of_assign {a : Assignment} (ha : a.Tidy) (hcondition : call.condition = none) :
    call.Effect u (u.assign a) := by
  have single : ∀ b ∈ [a], b.Tidy := by
    intro b hb
    rw [List.mem_singleton.1 hb]
    exact ha
  exact effect_of_assignAll single hcondition

theorem effect_of_combine (j : Conjunction) :
    call.Effect u { u with filter := Condition.combineOptional j u.filter call.condition } :=
  ⟨[], j, fun _ ha => absurd ha List.not_mem_nil, rfl⟩

theorem effect_of_apply [TimestampText] (hcall : call.Unnamed) (h : call.apply u = .ok u') :
    call.Effect u u' := by
  cases call with
  | set column v =>
    obtain rfl := Except.ok.inj h
    exact effect_of_assign (.inr rfl) rfl
  | setTyped column v type =>
    obtain rfl := Except.ok.inj h
    exact effect_of_assign (.inr rfl) rfl
  | setExpression column sql =>
    obtain ⟨a, ha, rfl⟩ := ok_of_map h
    exact effect_of_assign (Assignment.tidy_of_ofExpression ha) rfl
  | setQuery column inner =>
    obtain rfl := Except.ok.inj h
    exact effect_of_assign hcall rfl
  | setEntity m entity =>
    obtain ⟨more, hmore, rfl⟩ := ok_of_map h
    exact effect_of_assignAll (Assignment.tidy_of_ofEntity hmore) rfl
  | increase column =>
    obtain rfl := Except.ok.inj h
    exact effect_of_assign (.inl rfl) rfl
  | decrease column =>
    obtain rfl := Except.ok.inj h
    exact effect_of_assign (.inl rfl) rfl
  | whereUnchanged column v =>
    obtain rfl := Except.ok.inj h
    exact effect_of_combine .and
  | andWhere c =>
    obtain rfl := Except.ok.inj h
    exact effect_of_combine .and
  | orWhere c =>
    obtain rfl := Except.ok.inj h
    exact effect_of_combine .or

end

end UpdateCall

/-- An update after a sequence of calls; the first that fails ends it. -/
def Update.run [TimestampText] (u : Update) : List UpdateCall → Except Error Update
  | [] => .ok u
  | call :: calls => (call.apply u).bind fun u => u.run calls

namespace Condition

variable (d : Dialect)

theorem holes_combine (j : Conjunction) (a b : Condition) :
    ((combine j a b).document d).holes = (a.document d).holes ++ (b.document d).holes := by
  rw [holes_eq_filterMap, filterMap_combine Piece.skipsText_hole?, ← holes_eq_filterMap,
    ← holes_eq_filterMap]

def optionalHoles : Option Condition → List Parameter
  | none => []
  | some c => (c.document d).holes

theorem optionalHoles_combineOptional (j : Conjunction) (a b : Option Condition) :
    optionalHoles d (combineOptional j a b) = optionalHoles d a ++ optionalHoles d b := by
  cases a with
  | none => rw [none_combineOptional, optionalHoles, List.nil_append]
  | some a =>
    cases b with
    | none => rw [combineOptional_none, optionalHoles, optionalHoles, List.append_nil]
    | some b => exact holes_combine d j a b

end Condition

/-- What a sequence of calls leaves behind, by induction along the calls: the assignments
stay tidy, and every condition is in the filter, where it was added. -/
theorem Update.run_eq_ok [TimestampText] {calls : List UpdateCall} {u u' : Update}
    (hu : Assignment.TidyAll u.assignments) (hcalls : ∀ call ∈ calls, call.Unnamed)
    (h : u.run calls = .ok u') (d : Dialect) :
    u'.dialect = u.dialect ∧ Assignment.TidyAll u'.assignments ∧
      Condition.optionalHoles d u'.filter = Condition.optionalHoles d u.filter ++
        calls.flatMap fun call => Condition.optionalHoles d call.condition := by
  induction calls generalizing u with
  | nil =>
    obtain rfl : u = u' := Except.ok.inj h
    exact ⟨rfl, hu, (List.append_nil _).symm⟩
  | cons call calls ih =>
    obtain ⟨u₁, hcall, hrest⟩ := ok_of_bind h
    obtain ⟨more, j, hmore, rfl⟩ :=
      UpdateCall.effect_of_apply (hcalls call List.mem_cons_self) hcall
    obtain ⟨hdialect, htidy, hfilter⟩ := ih (hu.assignAll hmore)
      (fun call hmem => hcalls call (List.mem_cons_of_mem _ hmem)) hrest
    refine ⟨hdialect, htidy, ?_⟩
    rw [hfilter, Condition.optionalHoles_combineOptional, List.flatMap_cons, List.append_assoc]

end ParamSql
