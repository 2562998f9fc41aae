import ParamSql.Error
import ParamSql.Parameter
import ParamSql.Token

/-!
# Documents with holes

A statement is rendered in two steps. It first becomes a document: tokens with
a hole wherever a parameter belongs and a fault wherever it cannot be
expressed. One pass from left to right then fills the holes, numbering the
parameters that wait for a name and recording those that are bound. The pass
fails at the first fault and at nothing else (`fill_eq_error_iff`), so what a
statement is bound to follows the order of its text.
-/

namespace ParamSql

inductive Piece
  | token (t : Token)
  | hole (p : Parameter)
  | fault (e : Error)
deriving DecidableEq

abbrev Document := List Piece

/-- Names given out so far and parameters recorded so far. -/
structure Binder where
  next : Nat := 0
  parameters : List Parameter := []
deriving DecidableEq

namespace Binder

/-- Name of the `n`-th parameter that waits for one. -/
def indexedName (n : Nat) : String := "IDX_" ++ toString n

/-- Bind a parameter: its token, and the binder with the parameter recorded
under its name. A raw parameter is its own text and is not recorded. -/
def bind (b : Binder) : Parameter → Token × Binder
  | .raw _ sql _ => (.raw sql, b)
  | .bound column (some name) value type =>
    (.placeholder name,
      { b with parameters := b.parameters ++ [.bound column (some name) value type] })
  | .bound column none value type =>
    let name := indexedName b.next
    (.placeholder name,
      { next := b.next + 1
        parameters := b.parameters ++ [.bound column (some name) value type] })

end Binder

namespace Document

def ofTokens (tokens : List Token) : Document := tokens.map .token

def keyword (word : Keyword) : Document := [.token (.keyword word)]

def identifier (text : String) : Document := [.token (.identifier text)]

def raw (sql : String) : Document := [.token (.raw sql)]

def failing (e : Error) : Document := [.fault e]

def space : Document := [.token .space]

def comma : Document := [.token .comma]

def parenthesized (d : Document) : Document := .token .opening :: d ++ [.token .closing]

/-- Documents with a separator between each two. -/
def separatedBy (separator : Document) : List Document → Document
  | [] => []
  | [d] => d
  | d :: ds => d ++ separator ++ separatedBy separator ds

/-- A keyword with a blank on either side. -/
def clause (word : Keyword) : Document := space ++ keyword word ++ space

/-- Fill the holes from left to right; the first fault ends the pass. -/
def fill : Document → Binder → Except Error (List Token × Binder)
  | [], b => .ok ([], b)
  | .token t :: rest, b => (fill rest b).map fun (tokens, b) => (t :: tokens, b)
  | .hole p :: rest, b =>
    let (t, b) := b.bind p
    (fill rest b).map fun (tokens, b) => (t :: tokens, b)
  | .fault e :: _, _ => .error e

def firstFault? : Document → Option Error
  | [] => none
  | .fault e :: _ => some e
  | _ :: rest => firstFault? rest

theorem fill_eq_error_iff (d : Document) (b : Binder) (e : Error) :
    d.fill b = .error e ↔ d.firstFault? = some e := by
  induction d generalizing b with
  | nil => simp [fill, firstFault?]
  | cons piece rest ih =>
    cases piece with
    | token t =>
      simp only [fill, firstFault?, ← ih b]
      cases fill rest b <;> simp [Except.map]
    | hole p =>
      simp only [fill, firstFault?, ← ih (b.bind p).2]
      cases fill rest (b.bind p).2 <;> simp [Except.map]
    | fault e => simp [fill, firstFault?]

theorem fill_append (d₁ d₂ : Document) (b : Binder) :
    (d₁ ++ d₂).fill b = (d₁.fill b).bind fun (t₁, b₁) =>
      (d₂.fill b₁).map fun (t₂, b₂) => (t₁ ++ t₂, b₂) := by
  induction d₁ generalizing b with
  | nil =>
    simp only [List.nil_append, fill, Except.bind]
    cases fill d₂ b <;> simp [Except.map]
  | cons piece rest ih =>
    cases piece with
    | token t =>
      simp only [List.cons_append, fill, ih b]
      cases fill rest b with
      | error e => rfl
      | ok r =>
        simp only [Except.bind, Except.map]
        cases fill d₂ r.2 <;> simp
    | hole p =>
      simp only [List.cons_append, fill, ih (b.bind p).2]
      cases fill rest (b.bind p).2 with
      | error e => rfl
      | ok r =>
        simp only [Except.bind, Except.map]
        cases fill d₂ r.2 <;> simp
    | fault e => rfl

/-- Text and parameters of a document on its own. -/
def render (dialect : Dialect) (d : Document) : Except Error (String × List Parameter) :=
  (d.fill {}).map fun (tokens, b) => (Token.textOf dialect tokens, b.parameters)

end Document

end ParamSql
