import ParamSql.Execution.Statement
import ParamSql.Proofs.Paging.Contents
import ParamSql.Proofs.Paging.Parameters

/-!
# What statements ask of a database

The calls that an operation makes, whatever the database answers. Each operation makes the one
call that its result comes from; a page that depends on the number of rows is preceded by one
call for that number, and an identity is fetched behind the insertion.
-/

namespace ParamSql

inductive Call
  | query (command : Command)
  | scalar (command : Command)
  | execute (command : Command)
deriving DecidableEq

/-- The same executor, keeping a list of the calls made to it. -/
def Executor.recording {σ : Type} (ex : Executor σ) : Executor (σ × List Call) where
  query c s := ((ex.query c s.1).1, (ex.query c s.1).2, s.2 ++ [.query c])
  scalar c s := ((ex.scalar c s.1).1, (ex.scalar c s.1).2, s.2 ++ [.scalar c])
  execute c s := ((ex.execute c s.1).1, (ex.execute c s.1).2, s.2 ++ [.execute c])

namespace Script

variable {σ α β : Type}

def calls (ex : Executor σ) (x : Script α) (s : σ) : List Call := (x.run ex.recording (s, [])).2.2

variable (ex : Executor σ)

/-- Calls are added to those made before, and the answers are those of the executor. -/
theorem run_recording (x : Script α) (s : σ) (log : List Call) :
    x.run ex.recording (s, log) = ((x.run ex s).1, (x.run ex s).2, log ++ x.calls ex s) := by
  unfold calls
  induction x generalizing s log with
  | done r => simp [run]
  | query c next ih | scalar c next ih | execute c next ih =>
    simp only [run, Executor.recording] at ih ⊢
    rw [ih, ih _ _ ([] ++ _)]
    simp

theorem run_bind (x : Script α) (f : α → Script β) (s : σ) :
    (x >>= f).run ex s = match x.run ex s with
      | (.ok a, s') => (f a).run ex s'
      | (.error e, s') => (.error e, s') := by
  change (x.andThen f).run ex s = _
  induction x generalizing s with
  | done r => cases r <;> rfl
  | query c next ih => exact ih _ _
  | scalar c next ih => exact ih _ _
  | execute c next ih => exact ih _ _

theorem calls_bind (x : Script α) (f : α → Script β) (s : σ) :
    (x >>= f).calls ex s = x.calls ex s ++ match (x.run ex s).1 with
      | .ok a => (f a).calls ex (x.run ex s).2
      | .error _ => [] := by
  rw [calls, run_bind, run_recording, List.nil_append]
  cases (x.run ex s).1 with
  | error e => simp
  | ok a => simp [run_recording ex (f a)]

theorem run_bind_fst (x : Script α) (f : α → Script β) (s : σ) :
    ((x >>= f).run ex s).1 =
      (x.run ex s).1.bind fun a => ((f a).run ex (x.run ex s).2).1 := by
  rw [run_bind]
  cases h : x.run ex s with
  | mk r s' => cases r <;> rfl

/-- A script that asks nothing does not add to the calls before it. -/
theorem calls_bind_quiet (x : Script α) {f : α → Script β}
    (hf : ∀ a s, (f a).calls ex s = []) (s : σ) : (x >>= f).calls ex s = x.calls ex s := by
  rw [calls_bind]
  cases (x.run ex s).1 <;> simp [hf]

/-- The one call with a command; none if there is no command. -/
def sent (call : Command → Call) : Except Error Command → List Call
  | .ok command => [call command]
  | .error _ => []

theorem calls_ofExcept (r : Except Error α) (s : σ) : (ofExcept r).calls ex s = [] := rfl

theorem calls_sent {call : Command → Call} {x : Command → Script α}
    (hx : ∀ c s, (x c).calls ex s = [call c]) (command : Except Error Command) (s : σ) :
    (ofExcept command >>= x).calls ex s = sent call command := by
  rw [calls_bind, calls_ofExcept]
  cases command with
  | error e => rfl
  | ok c => exact hx c s

theorem calls_rowsOf (c : Command) (s : σ) : (rowsOf c).calls ex s = [.query c] := rfl

theorem calls_scalarOf (c : Command) (s : σ) : (scalarOf c).calls ex s = [.scalar c] := rfl

theorem calls_affectedBy (c : Command) (s : σ) : (affectedBy c).calls ex s = [.execute c] := rfl

end Script

namespace Select

open Script

variable {σ : Type} (ex : Executor σ) (st : σ) (s : Select)

theorem calls_count : s.count.calls ex st = sent .scalar (s.countQuery.command false) := by
  refine calls_sent ex (fun c st => ?_) _ st
  rw [calls_bind_quiet ex _ fun _ _ => rfl, calls_scalarOf]

theorem calls_convertedScalar {α : Type} (convert : Value → Except Error α) :
    (s.convertedScalar convert).calls ex st = sent .scalar (s.command false) := by
  refine calls_sent ex (fun c st => ?_) _ st
  rw [calls_bind_quiet, calls_scalarOf]
  intro answer st
  split <;> rfl

theorem calls_firstRow : s.firstRow.calls ex st = sent .query (s.firstRowQuery.command false) := by
  refine calls_sent ex (fun c st => ?_) _ st
  rw [calls_bind_quiet ex _ fun _ _ => rfl, calls_rowsOf]

def counted : Except Error UInt64 :=
  (s.countQuery.command false).bind fun command => (ex.scalar command st).1.bind Value.toCount

theorem run_count : (s.count.run ex st).1 = s.counted ex st := by
  rw [count, run_bind_fst, counted]
  congr 1
  funext command
  rw [run_bind_fst]
  rfl

theorem calls_pageCommand : s.pageCommand.calls ex st =
    if s.needsCount then sent .scalar (s.countQuery.command false) else [] := by
  unfold pageCommand
  split
  · rw [calls_bind_quiet ex _ fun _ _ => rfl, calls_count]
  · rfl

/-- The command of the page asked for, with the number of rows where it is asked for. -/
def requested : Except Error Command :=
  if s.needsCount then (s.counted ex st).bind fun n => s.commandWithCount n false
  else s.command false

theorem run_pageCommand : (s.pageCommand.run ex st).1 = s.requested ex st := by
  unfold pageCommand requested
  split
  · rw [run_bind_fst, run_count]
    rfl
  · rfl

theorem calls_page {α : Type} {call : Command → Call} {x : Command → Script α}
    (hx : ∀ c st, (x c).calls ex st = [call c]) :
    (s.pageCommand >>= x).calls ex st =
      (if s.needsCount then sent .scalar (s.countQuery.command false) else []) ++
        sent call (s.requested ex st) := by
  rw [calls_bind, calls_pageCommand, run_pageCommand]
  congr 1
  cases s.requested ex st with
  | error e => rfl
  | ok c => exact hx c _

theorem needsCount_iff : s.needsCount = true ↔
    ∃ w, s.pagination.window? = some w ∧ w.start ≠ 0 ∧ s.dialect.needsRecordCount = true ∧
      s.pagination.recordCount? = none := by
  unfold needsCount
  cases s.pagination.window? with
  | none => simp
  | some w => simp [and_assoc]

/-- With the number of rows at hand, a page has no faults but those of its numbers and its order
and those of the query without pagination. -/
theorem fault_of_rootDocument {s : Select} {recordCount : Option UInt64} {reversed : Bool}
    (hcount : s.dialect = .access → ∀ w, s.pagination.window? = some w →
      w.start = 0 ∨ (recordCount <|> s.pagination.recordCount?) ≠ none) {e : Error}
    (h : Piece.fault e ∈ s.rootDocument recordCount reversed) :
    (∃ fault, e = .invalidPagination fault) ∨
      Piece.fault e ∈ s.unbounded.rootDocument none false := by
  have unpaged : s.unbounded.rootDocument none false = (s.clauses s.dialect).base {} := by
    rw [← s.clauses_unbounded]
    rfl
  rw [rootDocument, Clauses.paginated] at h
  rw [unpaged, ← Document.mem_filterMap_fault?]
  cases hwindow : s.pagination.window? with
  | none =>
    rw [hwindow, ← Document.mem_filterMap_fault?,
      Clauses.filterMap_base Piece.skipsText_fault?] at h
    rw [Clauses.filterMap_base Piece.skipsText_fault?]
    exact .inr h
  | some w =>
    rw [hwindow] at h
    exact Clauses.faultOf_page (fun hd => hcount hd w hwindow) h

theorem commandWithCount_eq_error {s : Select} {n : UInt64} {e : Error}
    (h : s.commandWithCount n false = .error e) :
    (∃ fault, e = .invalidPagination fault) ∨
      Piece.fault e ∈ s.unbounded.rootDocument none false := by
  have hfill := error_of_map (error_of_map h)
  rw [Document.fill_eq_error_iff] at hfill
  refine fault_of_rootDocument (fun _ w _ => .inr ?_) (Document.fault_mem_of_firstFault? hfill)
  exact nofun

end Select

namespace Insert

open Script

variable {σ : Type} (ex : Executor σ) (st : σ)

theorem calls_executeForIdentity {i : Insert} {identity command : Command}
    (hidentity : i.dialect.identityCommand = .ok identity) (hcommand : i.command = .ok command) :
    i.executeForIdentity.calls ex st = .execute command ::
      if (ex.execute command st).1.isOk then [.scalar identity] else [] := by
  have call : (affectedBy command >>= fun _ => scalarOf identity).calls ex st =
      .execute command :: if (ex.execute command st).1.isOk then [.scalar identity] else [] := by
    rw [calls_bind, calls_affectedBy]
    simp only [affectedBy, run]
    cases (ex.execute command st).1 <;> rfl
  rw [executeForIdentity, hidentity, hcommand]
  exact call

theorem calls_executeForIdentity_of_error {i : Insert} {e : Error}
    (h : i.dialect.identityCommand = .error e ∨ i.command = .error e) :
    i.executeForIdentity.calls ex st = [] := by
  rw [executeForIdentity]
  rcases h with hidentity | hcommand
  · rw [hidentity]
    rfl
  · rw [hcommand]
    cases i.dialect.identityCommand <;> rfl

end Insert

namespace Statement

open Script

variable {σ : Type} (ex : Executor σ) (st : σ)

theorem calls_execute (s : Statement) : s.execute.calls ex st = sent .execute s.command :=
  calls_sent ex (fun c st => calls_affectedBy ex c st) _ st

/-- Statements that are no queries refuse retrieval before they ask anything. -/
theorem retrieval_refused {s : Statement} (h : s.kind ≠ .select) :
    s.queryRows = .done (.error (.notSupportedFor s.kind .rows)) ∧
      s.queryScalar = .done (.error (.notSupportedFor s.kind .scalar)) ∧
      s.queryFirstRow = .done (.error (.notSupportedFor s.kind .firstRow)) := by
  cases s with
  | select q => exact absurd rfl h
  | insert i => exact ⟨rfl, rfl, rfl⟩
  | update u => exact ⟨rfl, rfl, rfl⟩
  | delete d => exact ⟨rfl, rfl, rfl⟩

/-- The calls of every operation on statements, whatever the executor answers. A call is not made
where its command cannot be rendered. -/
theorem operation_calls :
    (∀ s : Select, (s.needsCount = true ↔ ∃ w, s.pagination.window? = some w ∧ w.start ≠ 0 ∧
        s.dialect.needsRecordCount = true ∧ s.pagination.recordCount? = none) ∧
      (s.needsCount = false →
        s.queryRows.calls ex st = sent .query (s.command false) ∧
        s.queryScalar.calls ex st = sent .scalar (s.command false)) ∧
      (s.needsCount = true →
        s.queryRows.calls ex st = sent .scalar (s.countQuery.command false) ++
          sent .query ((s.counted ex st).bind fun n => s.commandWithCount n false) ∧
        s.queryScalar.calls ex st = sent .scalar (s.countQuery.command false) ++
          sent .scalar ((s.counted ex st).bind fun n => s.commandWithCount n false)) ∧
      ∀ n e, s.commandWithCount n false = .error e →
        (∃ fault, e = .invalidPagination fault) ∨
          Piece.fault e ∈ s.unbounded.rootDocument none false) ∧
    (∀ i : Insert,
      (∀ identity command, i.dialect.identityCommand = .ok identity → i.command = .ok command →
        i.executeForIdentity.calls ex st = .execute command ::
          if (ex.execute command st).1.isOk then [.scalar identity] else []) ∧
      ∀ e, i.dialect.identityCommand = .error e ∨ i.command = .error e →
        i.executeForIdentity.calls ex st = []) ∧
    (∀ s : Select, s.firstRow.calls ex st = sent .query (s.firstRowQuery.command false) ∧
      s.count.calls ex st = sent .scalar (s.countQuery.command false) ∧
      ∀ (α : Type) (convert : Value → Except Error α) (column : String),
        (s.max convert column).calls ex st = sent .scalar ((s.maxQuery column).command false) ∧
        (s.min convert column).calls ex st = sent .scalar ((s.minQuery column).command false)) ∧
    (∀ s : Statement, s.execute.calls ex st = sent .execute s.command) ∧
    ∀ s : Statement, s.kind ≠ .select →
      s.queryRows.run ex st = (.error (.notSupportedFor s.kind .rows), st) ∧
      s.queryRows.calls ex st = [] ∧
      s.queryScalar.run ex st = (.error (.notSupportedFor s.kind .scalar), st) ∧
      s.queryScalar.calls ex st = [] ∧
      s.queryFirstRow.run ex st = (.error (.notSupportedFor s.kind .firstRow), st) ∧
      s.queryFirstRow.calls ex st = [] := by
  refine ⟨fun s => ⟨s.needsCount_iff, ?_, ?_, ?_⟩, fun i => ⟨?_, ?_⟩, fun s => ⟨?_, ?_, ?_⟩,
    calls_execute ex st, ?_⟩
  · intro hcount
    have rows := s.calls_page ex st (calls_rowsOf ex)
    have scalar := s.calls_page ex st (calls_scalarOf ex)
    simp only [Select.requested, hcount] at rows scalar
    exact ⟨rows, scalar⟩
  · intro hcount
    have rows := s.calls_page ex st (calls_rowsOf ex)
    have scalar := s.calls_page ex st (calls_scalarOf ex)
    simp only [Select.requested, hcount, if_true] at rows scalar
    exact ⟨rows, scalar⟩
  · exact fun n e h => Select.commandWithCount_eq_error h
  · exact fun identity command hidentity hcommand =>
      Insert.calls_executeForIdentity ex st hidentity hcommand
  · exact fun e h => Insert.calls_executeForIdentity_of_error ex st h
  · exact s.calls_firstRow ex st
  · exact s.calls_count ex st
  · exact fun α convert column =>
      ⟨Select.calls_convertedScalar ex st _ convert, Select.calls_convertedScalar ex st _ convert⟩
  · intro s hkind
    obtain ⟨rows, scalar, firstRow⟩ := retrieval_refused hkind
    rw [rows, scalar, firstRow]
    exact ⟨rfl, rfl, rfl, rfl, rfl, rfl⟩

/-- The second page of a query, after the number of its rows; and an insertion whose failure ends
it. -/
theorem operation_calls_counted :
    let ex : Executor Unit :=
      { query := fun _ s => (.ok [], s)
        scalar := fun _ s => (.ok (.integer 100), s)
        execute := fun _ s => (.error (.executor "lost"), s) }
    let s : Select :=
      { dialect := .access
        source := .table "t"
        fields := [.column "a"]
        order := [.ascending "a"]
        pagination := .page 10 2 }
    let i : Insert :=
      { dialect := .access, table := "t", assignments := [.value (.raw "a" "1" .int32)] }
    s.queryRows.calls ex () =
        [.scalar ⟨.select, "SELECT COUNT(*) FROM t", []⟩,
          .query ⟨.select, "SELECT * FROM (SELECT TOP 10 * FROM (SELECT TOP 20 a FROM t " ++
            "ORDER BY a ASC) AS PAGE_INNER ORDER BY a DESC) AS PAGE_OUTER ORDER BY a ASC", []⟩] ∧
      i.executeForIdentity.calls ex () =
        [.execute ⟨.insert, "INSERT INTO t ( a ) VALUES ( 1 )", []⟩] := by
  intro ex s i
  obtain ⟨paged, inserted, -⟩ := operation_calls ex ()
  obtain ⟨-, -, counted, -⟩ := paged s
  constructor
  · rw [(counted rfl).1]
    simp only [s, ex]
    decide +kernel
  · have command : i.command = .ok ⟨.insert, "INSERT INTO t ( a ) VALUES ( 1 )", []⟩ := by
      simp only [i]
      decide +kernel
    rw [(inserted i).1 _ _ rfl command]
    rfl

end Statement

end ParamSql
