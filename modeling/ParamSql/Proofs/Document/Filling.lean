import Mathlib.Data.List.Forall2
import ParamSql.Document.Basic

/-!
# What filling a document does

The parameters recorded by a pass over a document are those of its holes, in
the order of the holes, raw ones left out and pending ones numbered on from
where the binder stood. The placeholders of the tokens carry the same names in
the same order.
-/

namespace ParamSql

namespace Parameter

def isPending : Parameter → Bool
  | bound _ none .. => true
  | _ => false

@[simp] theorem isPending_raw (column sql : String) (type : StorageType) :
    (raw column sql type).isPending = false := rfl

@[simp] theorem isPending_bound (column : String) (name : Option String) (value : Value)
    (type : StorageType) : (bound column name value type).isPending = name.isNone := by
  cases name <;> rfl

@[simp] theorem isBound_raw (column sql : String) (type : StorageType) :
    (raw column sql type).isBound = false := rfl

@[simp] theorem isBound_bound (column : String) (name : Option String) (value : Value)
    (type : StorageType) : (bound column name value type).isBound = true := rfl

/-- The second parameter is the first one, which is bound, under a name. A name
that was there before is kept. -/
inductive NamedAs : Parameter → Parameter → Prop
  | kept (column name : String) (value : Value) (type : StorageType) :
    NamedAs (bound column (some name) value type) (bound column (some name) value type)
  | given (column name : String) (value : Value) (type : StorageType) :
    NamedAs (bound column none value type) (bound column (some name) value type)

/-- Names of the parameters that waited for one, from two lists of the same
parameters without and with their names. -/
def namesGiven (before after : List Parameter) : List (Option String) :=
  ((before.zip after).filter fun (p, _) => p.isPending).map fun (_, q) => q.name?

theorem namesGiven_cons (p q : Parameter) (before after : List Parameter) :
    namesGiven (p :: before) (q :: after) =
      (if p.isPending then [q.name?] else []) ++ namesGiven before after := by
  cases h : p.isPending <;> simp [namesGiven, h]

end Parameter

namespace Binder

/-- Parameters as a binder records them that has given out `n` names. -/
def recorded (n : Nat) : List Parameter → List Parameter
  | [] => []
  | .raw .. :: ps => recorded n ps
  | .bound column (some name) value type :: ps =>
    .bound column (some name) value type :: recorded n ps
  | .bound column none value type :: ps =>
    .bound column (some (indexedName n)) value type :: recorded (n + 1) ps

theorem recorded_namedAs (n : Nat) (ps : List Parameter) :
    List.Forall₂ Parameter.NamedAs (ps.filter Parameter.isBound) (recorded n ps) := by
  induction ps generalizing n with
  | nil => exact .nil
  | cons p ps ih =>
    match p with
    | .raw .. => exact ih n
    | .bound column (some name) value type => exact .cons (.kept column name value type) (ih n)
    | .bound column none value type => exact .cons (.given column _ value type) (ih (n + 1))

/-- Where no parameter comes with a name, the names recorded depend on their number alone. -/
theorem names_recorded_of_unnamed {n : Nat} {ps : List Parameter} (h : ∀ p ∈ ps, p.name? = none) :
    (recorded n ps).map Parameter.name? =
      (List.range' n (recorded n ps).length).map fun k => some (indexedName k) := by
  induction ps generalizing n with
  | nil => rfl
  | cons p ps ih =>
    have hps : ∀ q ∈ ps, q.name? = none := fun q hq => h q (List.mem_cons_of_mem _ hq)
    cases p with
    | raw column sql type => exact ih hps
    | bound column name v type =>
      obtain rfl : name = none := h _ List.mem_cons_self
      simp only [recorded, List.map_cons, List.length_cons, List.range'_succ, ih hps]
      rfl

theorem bound_of_mem_recorded {n : Nat} {ps : List Parameter} {p : Parameter}
    (hp : p ∈ recorded n ps) : p.isBound = true ∧ ∃ name, p.name? = some name := by
  induction ps generalizing n with
  | nil => simp [recorded] at hp
  | cons q ps ih =>
    match q with
    | .raw .. => exact ih hp
    | .bound _ (some name) .. =>
      rcases List.mem_cons.1 hp with rfl | hp
      · exact ⟨rfl, name, rfl⟩
      · exact ih hp
    | .bound _ none .. =>
      rcases List.mem_cons.1 hp with rfl | hp
      · exact ⟨rfl, indexedName n, rfl⟩
      · exact ih hp

/-- The names given are consecutive, whatever stands between the parameters
that wait for them. -/
theorem namesGiven_recorded (n : Nat) (ps : List Parameter) :
    Parameter.namesGiven (ps.filter Parameter.isBound) (recorded n ps) =
      (List.range' n (ps.countP Parameter.isPending)).map fun k => some (indexedName k) := by
  induction ps generalizing n with
  | nil => rfl
  | cons p ps ih =>
    match p with
    | .raw .. => simpa [recorded] using ih n
    | .bound column (some name) value type =>
      simpa [recorded, List.filter_cons, Parameter.namesGiven_cons] using ih n
    | .bound column none value type =>
      simp [recorded, List.filter_cons, Parameter.namesGiven_cons, List.range'_succ,
        Parameter.name?, ih (n + 1)]

theorem bind_spec (b : Binder) (p : Parameter) :
    (b.bind p).2.next = b.next + (if p.isPending then 1 else 0) ∧
      (b.bind p).2.parameters = b.parameters ++ recorded b.next [p] ∧
      (Token.placeholders [(b.bind p).1]).map some = (recorded b.next [p]).map Parameter.name? := by
  match p with
  | .raw .. => simp [bind, recorded, Parameter.isPending, Token.placeholders]
  | .bound _ (some _) .. =>
    simp [bind, recorded, Parameter.isPending, Token.placeholders, Parameter.name?]
  | .bound _ none .. =>
    simp [bind, recorded, Parameter.isPending, Token.placeholders, Parameter.name?]

theorem recorded_cons (n : Nat) (p : Parameter) (ps : List Parameter) :
    recorded n (p :: ps) = recorded n [p] ++ recorded (n + (if p.isPending then 1 else 0)) ps := by
  match p with
  | .raw .. => rfl
  | .bound _ (some _) .. => rfl
  | .bound _ none .. => rfl

end Binder

def Piece.hole? : Piece → Option Parameter
  | hole p => some p
  | token _ | fault _ => none

namespace Document

def holes : Document → List Parameter
  | [] => []
  | .hole p :: rest => p :: holes rest
  | .token _ :: rest => holes rest
  | .fault _ :: rest => holes rest

@[simp] theorem holes_append (d e : Document) : holes (d ++ e) = holes d ++ holes e := by
  induction d with
  | nil => rfl
  | cons piece rest ih => cases piece <;> simp [holes, ih]

theorem holes_eq_filterMap (d : Document) : d.holes = d.filterMap Piece.hole? := by
  induction d with
  | nil => rfl
  | cons piece rest ih =>
    cases piece with
    | hole p => exact congrArg (p :: ·) ih
    | token t => exact ih
    | fault e => exact ih

theorem filterMap_separatedBy {β : Type*} {f : Piece → Option β} {separator : Document}
    (hs : separator.filterMap f = []) (ds : List Document) :
    (separatedBy separator ds).filterMap f = ds.flatMap (·.filterMap f) := by
  induction ds with
  | nil => rfl
  | cons d ds ih =>
    cases ds with
    | nil => simp [separatedBy]
    | cons e es =>
      have unfolded : separatedBy separator (d :: e :: es) =
          d ++ separator ++ separatedBy separator (e :: es) := rfl
      rw [unfolded, List.filterMap_append, List.filterMap_append, hs, ih, List.append_nil]
      rfl

theorem fill_token_eq_ok {t : Token} {rest : Document} {b b' : Binder} {tokens : List Token} :
    fill (.token t :: rest) b = .ok (tokens, b') ↔
      ∃ tail, tokens = t :: tail ∧ fill rest b = .ok (tail, b') := by
  simp only [fill]
  cases fill rest b <;> simp [Except.map, Prod.ext_iff, eq_comm]

theorem fill_hole_eq_ok {p : Parameter} {rest : Document} {b b' : Binder} {tokens : List Token} :
    fill (.hole p :: rest) b = .ok (tokens, b') ↔
      ∃ tail, tokens = (b.bind p).1 :: tail ∧ fill rest (b.bind p).2 = .ok (tail, b') := by
  simp only [fill]
  cases fill rest (b.bind p).2 <;> simp [Except.map, Prod.ext_iff, eq_comm]

theorem fill_append_eq_ok {d e : Document} {b b' : Binder} {tokens : List Token} :
    (d ++ e).fill b = .ok (tokens, b') ↔
      ∃ front middle back, d.fill b = .ok (front, middle) ∧ e.fill middle = .ok (back, b') ∧
        tokens = front ++ back := by
  rw [fill_append]
  cases d.fill b with
  | error _ => simp [Except.bind]
  | ok x =>
    cases he : e.fill x.2 with
    | error _ => simp [Except.bind, Except.map, he, Prod.ext_iff]
    | ok y => simp [Except.bind, Except.map, he, Prod.ext_iff, eq_comm, and_comm]

theorem fill_ofTokens (tokens : List Token) (b : Binder) :
    (ofTokens tokens).fill b = .ok (tokens, b) := by
  induction tokens with
  | nil => rfl
  | cons t tokens ih => exact fill_token_eq_ok.2 ⟨tokens, rfl, ih⟩

theorem fill_ofTokens_append_eq_ok {front tokens : List Token} {d : Document} {b b' : Binder} :
    (ofTokens front ++ d).fill b = .ok (tokens, b') ↔
      ∃ rest, tokens = front ++ rest ∧ d.fill b = .ok (rest, b') := by
  simp [fill_append_eq_ok, fill_ofTokens, and_comm]

theorem fill_append_ofTokens_eq_ok {back tokens : List Token} {d : Document} {b b' : Binder} :
    (d ++ ofTokens back).fill b = .ok (tokens, b') ↔
      ∃ start, tokens = start ++ back ∧ d.fill b = .ok (start, b') := by
  simp [fill_append_eq_ok, fill_ofTokens, and_comm]

theorem fill_parenthesized_eq_ok {tokens : List Token} {d : Document} {b b' : Binder} :
    (parenthesized d).fill b = .ok (tokens, b') ↔
      ∃ inner, tokens = Token.parenthesized inner ∧ d.fill b = .ok (inner, b') := by
  have parts : parenthesized d = ofTokens [.opening] ++ (d ++ ofTokens [.closing]) := rfl
  rw [parts, fill_ofTokens_append_eq_ok]
  constructor
  · rintro ⟨rest, rfl, hrest⟩
    obtain ⟨inner, rfl, hinner⟩ := fill_append_ofTokens_eq_ok.1 hrest
    exact ⟨inner, rfl, hinner⟩
  · rintro ⟨inner, rfl, hinner⟩
    exact ⟨inner ++ [.closing], rfl, fill_append_ofTokens_eq_ok.2 ⟨inner, rfl, hinner⟩⟩

theorem separatedBy_ofTokens (separator : List Token) (parts : List (List Token)) :
    separatedBy (ofTokens separator) (parts.map ofTokens) =
      ofTokens (separator.intercalate parts) := by
  induction parts with
  | nil => rfl
  | cons part parts ih =>
    cases parts with
    | nil => simp [separatedBy, List.intercalate_singleton]
    | cons next parts =>
      calc separatedBy (ofTokens separator) ((part :: next :: parts).map ofTokens)
        _ = ofTokens part ++ ofTokens separator ++
            separatedBy (ofTokens separator) ((next :: parts).map ofTokens) := rfl
        _ = ofTokens (separator.intercalate (part :: next :: parts)) := by
          rw [ih, List.intercalate_cons_cons]
          simp only [ofTokens, List.map_append]

theorem fill_separatedBy (separator : List Token) {tokens : List Token} {ds : List Document}
    {b b' : Binder}
    (h : (separatedBy (ofTokens separator) ds).fill b = .ok (tokens, b')) :
    ∃ parts, tokens = separator.intercalate parts ∧
      List.Forall₂ (fun d part => ∃ b b', d.fill b = .ok (part, b')) ds parts := by
  induction ds generalizing b tokens with
  | nil =>
    obtain ⟨rfl, -⟩ := Prod.mk.inj (Except.ok.inj h)
    exact ⟨[], rfl, .nil⟩
  | cons d ds ih =>
    cases ds with
    | nil => exact ⟨[tokens], List.intercalate_singleton.symm, .cons ⟨b, b', h⟩ .nil⟩
    | cons next ds =>
      obtain ⟨start, b₁, rest, hstart, hrest, rfl⟩ := fill_append_eq_ok.1 h
      obtain ⟨part, b₂, between, hpart, hbetween, rfl⟩ := fill_append_eq_ok.1 hstart
      rw [fill_ofTokens] at hbetween
      obtain ⟨rfl, rfl⟩ := Prod.mk.inj (Except.ok.inj hbetween)
      obtain ⟨parts, rfl, hparts⟩ := ih hrest
      obtain ⟨second, others, hsecond, hothers, rfl⟩ := List.forall₂_cons_left_iff.1 hparts
      exact ⟨part :: second :: others, (List.intercalate_cons_cons).symm,
        .cons ⟨b, b₂, hpart⟩ hparts⟩

/-- A document that can be filled has no fault. -/
theorem no_fault_of_fill {d : Document} {b : Binder} {x : List Token × Binder}
    (h : d.fill b = .ok x) (e : Error) : Piece.fault e ∉ d := by
  induction d generalizing b x with
  | nil => exact List.not_mem_nil
  | cons piece rest ih =>
    obtain ⟨tokens, b'⟩ := x
    cases piece with
    | token t =>
      obtain ⟨tail, -, htail⟩ := fill_token_eq_ok.1 h
      simpa using ih htail
    | hole p =>
      obtain ⟨tail, -, htail⟩ := fill_hole_eq_ok.1 h
      simpa using ih htail
    | fault e => simp [fill] at h

theorem fault_mem_of_firstFault? {d : Document} {e : Error} (h : d.firstFault? = some e) :
    Piece.fault e ∈ d := by
  induction d with
  | nil => exact nomatch h
  | cons piece rest ih =>
    cases piece with
    | fault e' =>
      cases h
      exact List.mem_cons_self
    | _ => exact List.mem_cons_of_mem _ (ih h)

theorem fill_eq_ok_of_no_fault {d : Document} (h : ∀ e, Piece.fault e ∉ d) (b : Binder) :
    ∃ tokens b', d.fill b = .ok (tokens, b') := by
  cases hfill : d.fill b with
  | ok x => exact ⟨x.1, x.2, rfl⟩
  | error e =>
    exact absurd (fault_mem_of_firstFault? ((fill_eq_error_iff d b e).1 hfill)) (h e)

/-- Every placeholder of a document is still a hole. -/
def Unfilled (d : Document) : Prop := ∀ name, Piece.token (.placeholder name) ∉ d

theorem Unfilled.tail {piece : Piece} {rest : Document} (h : Unfilled (piece :: rest)) :
    rest.Unfilled := fun name hmem => h name (List.mem_cons_of_mem _ hmem)

theorem Unfilled.head_placeholders {t : Token} {rest : Document}
    (h : Unfilled (.token t :: rest)) : Token.placeholders [t] = [] := by
  cases t with
  | placeholder name => exact absurd List.mem_cons_self (h name)
  | _ => rfl

/-- A whole pass: how far the numbering gets, what is recorded, and the names
that the placeholders carry. -/
theorem fill_spec {d : Document} {b b' : Binder} {tokens : List Token} (hd : d.Unfilled)
    (h : d.fill b = .ok (tokens, b')) :
    b'.next = b.next + d.holes.countP Parameter.isPending ∧
      b'.parameters = b.parameters ++ Binder.recorded b.next d.holes ∧
      (Token.placeholders tokens).map some =
        (Binder.recorded b.next d.holes).map Parameter.name? := by
  induction d generalizing b tokens with
  | nil =>
    simp only [fill, Except.ok.injEq, Prod.mk.injEq] at h
    obtain ⟨rfl, rfl⟩ := h
    simp [holes, Binder.recorded, Token.placeholders]
  | cons piece rest ih =>
    cases piece with
    | token t =>
      obtain ⟨tail, rfl, htail⟩ := fill_token_eq_ok.1 h
      obtain ⟨hnext, hparameters, hnames⟩ := ih hd.tail htail
      refine ⟨hnext, hparameters, ?_⟩
      rw [← List.singleton_append, Token.placeholders_append, hd.head_placeholders,
        List.nil_append]
      exact hnames
    | hole p =>
      obtain ⟨tail, rfl, htail⟩ := fill_hole_eq_ok.1 h
      obtain ⟨hnext, hparameters, hnames⟩ := ih hd.tail htail
      obtain ⟨snext, sparameters, snames⟩ := b.bind_spec p
      rw [snext] at hnext hparameters hnames
      refine ⟨?_, ?_, ?_⟩
      · simp only [hnext, holes, List.countP_cons]
        omega
      · rw [hparameters, sparameters, List.append_assoc, holes, ← Binder.recorded_cons]
      · rw [holes, Binder.recorded_cons b.next p, List.map_append, ← snames, ← hnames,
          ← List.map_append, ← Token.placeholders_append, List.singleton_append]
    | fault e => simp [fill] at h

end Document

end ParamSql
