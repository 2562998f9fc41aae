import ParamSql.Proofs.Statement.Building
import ParamSql.Proofs.Statement.Filtering

/-!
# Assignments made by calls

What a call assigns depends on the call alone, and all that it does with the assignments that are
there is to put its own among them. So whatever the order of the calls and whatever they assign,
a statement holds the latest assignment of each column, in the order in which the columns were
first assigned.
-/

namespace ParamSql

namespace Assignment

/-- A bound value goes by the name of its column. -/
def Named : Assignment → Prop
  | value p => p.isBound = true → p.name? = some ("NEW_" ++ p.column)
  | query _ _ => True

theorem named_ofColumn (column : Column) (v : Value) : (ofColumn column v).Named := by
  obtain ⟨name, type⟩ := column
  cases type <;> exact fun _ => rfl

theorem named_of_ofEntity [TimestampText] {m : EntityMapping} {entity : Except String Serialized}
    {as : List Assignment} (h : ofEntity m entity = .ok as) : ∀ a ∈ as, a.Named := by
  intro a ha
  obtain ⟨column, v, rfl⟩ := exists_ofColumn_of_mem h ha
  exact named_ofColumn column v

end Assignment

namespace UpdateCall

def made [TimestampText] : UpdateCall → Except Error (List Assignment)
  | set column v => .ok [.ofValue column v]
  | setTyped column v type => .ok [.ofTypedValue column v type]
  | setExpression column sql => (Assignment.ofExpression column sql).map fun a => [a]
  | setQuery column inner => .ok [.query column inner]
  | setEntity m entity => Assignment.ofEntity m entity
  | increase column => .ok [.increment column]
  | decrease column => .ok [.decrement column]
  | whereUnchanged .. | andWhere _ | orWhere _ => .ok []

theorem named_of_made [TimestampText] {call : UpdateCall} {as : List Assignment}
    (h : call.made = .ok as) : ∀ a ∈ as, a.Named := by
  have single {a : Assignment} (h : [a] = as) (ha : a.Named) : ∀ b ∈ as, b.Named := by
    subst h
    intro b hb
    rwa [List.mem_singleton.1 hb]
  have none (h : [] = as) : ∀ b ∈ as, b.Named := by
    subst h
    exact fun b hb => absurd hb List.not_mem_nil
  cases call with
  | set column v => exact single (Except.ok.inj h) (fun _ => rfl)
  | setTyped column v type => exact single (Except.ok.inj h) (fun _ => rfl)
  | setExpression column sql =>
    obtain ⟨a, ha, h⟩ := ok_of_map h
    obtain ⟨text, -, rfl⟩ := ok_of_map ha
    exact single h (fun hbound => nomatch hbound)
  | setQuery column inner => exact single (Except.ok.inj h) trivial
  | setEntity m entity => exact Assignment.named_of_ofEntity h
  | increase column => exact single (Except.ok.inj h) (fun hbound => nomatch hbound)
  | decrease column => exact single (Except.ok.inj h) (fun hbound => nomatch hbound)
  | whereUnchanged column v => exact none (Except.ok.inj h)
  | andWhere c => exact none (Except.ok.inj h)
  | orWhere c => exact none (Except.ok.inj h)

def filterCall (call : UpdateCall) : FilterCall where
  conjunction := match call with
    | orWhere _ => .or
    | _ => .and
  condition := call.condition

/-- What a single call does: it puts its assignments among those that are there, and gives its
condition to the filter. -/
theorem apply_eq [TimestampText] (call : UpdateCall) (u : Update) :
    call.apply u = call.made.map fun made => { u with
      assignments := Assignment.assignAll u.assignments made
      filter := call.filterCall.joinTo u.filter } := by
  obtain ⟨dialect, table, assignments, filter⟩ := u
  cases call with
  | setExpression column sql =>
    rw [apply, Update.setExpression, made]
    cases Assignment.ofExpression column sql <;> cases filter <;> rfl
  | setEntity m entity =>
    rw [apply, Update.setEntity, made]
    cases Assignment.ofEntity m entity <;> cases filter <;> rfl
  | _ => cases filter <;> rfl

end UpdateCall

inductive InsertCall
  | set (column : String) (v : Value)
  | setTyped (column : String) (v : Value) (type : StorageType)
  | setExpression (column sql : String)
  | setQuery (column : String) (inner : Select)
  | setEntity (m : EntityMapping) (entity : Except String Serialized)

namespace InsertCall

def apply [TimestampText] (i : Insert) : InsertCall → Except Error Insert
  | set column v => .ok (i.set column v)
  | setTyped column v type => .ok (i.setTyped column v type)
  | setExpression column sql => i.setExpression column sql
  | setQuery column inner => .ok (i.setQuery column inner)
  | setEntity m entity => i.setEntity m entity

/-- The same call on an update. -/
def onUpdate : InsertCall → UpdateCall
  | set column v => .set column v
  | setTyped column v type => .setTyped column v type
  | setExpression column sql => .setExpression column sql
  | setQuery column inner => .setQuery column inner
  | setEntity m entity => .setEntity m entity

/-- What a call assigns, whatever it is called on. -/
def made [TimestampText] (call : InsertCall) : Except Error (List Assignment) := call.onUpdate.made

end InsertCall

/-- An insertion after a sequence of calls; the first that fails ends it. -/
def Insert.run [TimestampText] (i : Insert) : List InsertCall → Except Error Insert
  | [] => .ok i
  | call :: calls => (call.apply i).bind fun i => i.run calls

theorem InsertCall.apply_eq [TimestampText] (call : InsertCall) (i : Insert) :
    call.apply i = call.made.map fun made =>
      { i with assignments := Assignment.assignAll i.assignments made } := by
  cases call with
  | setExpression column sql =>
    rw [apply, Insert.setExpression, made, onUpdate, UpdateCall.made]
    cases Assignment.ofExpression column sql <;> rfl
  | _ => rfl

namespace Assignment

theorem assignAll_append (as before after : List Assignment) :
    assignAll as (before ++ after) = assignAll (assignAll as before) after :=
  List.foldl_append

theorem holdsLatest_assignAll (made : List Assignment) :
    HoldsLatest column made (assignAll [] made) :=
  HoldsLatest.nil.putAll made

theorem named_assignAll {calls : List κ} {f : κ → Except Error (List Assignment)}
    (hf : ∀ {call as}, f call = .ok as → ∀ a ∈ as, a.Named) {made : List (List Assignment)}
    (hmade : calls.mapM f = .ok made) : ∀ a ∈ assignAll [] made.flatten, a.Named := by
  intro a ha
  obtain ⟨as, has, hmem⟩ := List.mem_flatten.1 ((holdsLatest_assignAll made.flatten).mem_put ha)
  obtain ⟨call, -, hcall⟩ := exists_of_mem_mapM hmade has
  exact hf hcall a hmem

end Assignment

theorem Insert.run_eq [TimestampText] (i : Insert) (calls : List InsertCall) :
    i.run calls = (calls.mapM InsertCall.made).map fun made =>
      { i with assignments := Assignment.assignAll i.assignments made.flatten } := by
  induction calls generalizing i with
  | nil => rfl
  | cons call calls ih =>
    rw [run, InsertCall.apply_eq, List.mapM_cons]
    cases call.made with
    | error e => rfl
    | ok first =>
      refine (ih _).trans ?_
      cases calls.mapM InsertCall.made with
      | error e => rfl
      | ok rest =>
        have both := Assignment.assignAll_append i.assignments first rest.flatten
        exact congrArg (fun assignments => Except.ok { i with assignments }) both.symm

/-- A whole run, by induction along the calls. -/
theorem Update.run_eq [TimestampText] (u : Update) (calls : List UpdateCall) :
    u.run calls = (calls.mapM UpdateCall.made).map fun made => { u with
      assignments := Assignment.assignAll u.assignments made.flatten
      filter := calls.foldl (fun filter call => call.filterCall.joinTo filter) u.filter } := by
  induction calls generalizing u with
  | nil => rfl
  | cons call calls ih =>
    rw [run, UpdateCall.apply_eq, List.mapM_cons]
    cases call.made with
    | error e => rfl
    | ok first =>
      refine (ih _).trans ?_
      cases calls.mapM UpdateCall.made with
      | error e => rfl
      | ok rest =>
        have both := Assignment.assignAll_append u.assignments first rest.flatten
        let filter := calls.foldl (fun filter call => call.filterCall.joinTo filter)
          (call.filterCall.joinTo u.filter)
        exact congrArg (fun assignments => Except.ok { u with assignments, filter }) both.symm

end ParamSql
