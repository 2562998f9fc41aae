import ParamSql.Execution.Row
import ParamSql.Statement.Command

/-!
# Scripts

What an operation asks of a database, as a tree of calls: each call carries
its command, and what follows depends on the answer. An executor answers the
calls; running a script threads the executor's state through them.
-/

namespace ParamSql

inductive Script (α : Type) : Type
  | done (result : Except Error α)
  /-- Collect the rows of a query. -/
  | query (command : Command) (next : Except Error (List Row) → Script α)
  /-- Fetch the first column of the first row of a query. -/
  | scalar (command : Command) (next : Except Error Value → Script α)
  /-- Run a statement for the number of rows it affects. -/
  | execute (command : Command) (next : Except Error UInt64 → Script α)

/-- Answers the calls of scripts. -/
structure Executor (σ : Type) where
  query : Command → σ → Except Error (List Row) × σ
  scalar : Command → σ → Except Error Value × σ
  execute : Command → σ → Except Error UInt64 × σ

namespace Script

/-- Go on with the result of a script; an error ends it. -/
def andThen : Script α → (α → Script β) → Script β
  | done (.ok a), f => f a
  | done (.error e), _ => done (.error e)
  | query c next, f => query c fun r => (next r).andThen f
  | scalar c next, f => scalar c fun r => (next r).andThen f
  | execute c next, f => execute c fun r => (next r).andThen f

instance : Monad Script where
  pure a := done (.ok a)
  bind := andThen

def ofExcept (r : Except Error α) : Script α := done r

def rowsOf (c : Command) : Script (List Row) := query c done

def scalarOf (c : Command) : Script Value := scalar c done

def affectedBy (c : Command) : Script UInt64 := execute c done

/-- The result of a script and the state its executor is left in. -/
def run (ex : Executor σ) : Script α → σ → Except Error α × σ
  | done r, s => (r, s)
  | query c next, s =>
    let (r, s) := ex.query c s
    (next r).run ex s
  | scalar c next, s =>
    let (r, s) := ex.scalar c s
    (next r).run ex s
  | execute c next, s =>
    let (r, s) := ex.execute c s
    (next r).run ex s

end Script

end ParamSql
