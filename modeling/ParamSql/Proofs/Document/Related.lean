import ParamSql.Proofs.Agreement
import ParamSql.Proofs.Document.Filling
import ParamSql.Rendering.Fragment

/-!
# Related documents

Two documents are related when they are the same piece by piece, save that
their holes hold parameters in a given relation. Every fragment of a statement
keeps this: it puts parameters into holes and looks at them no further.
-/

namespace ParamSql

variable {R : Parameter → Parameter → Prop}

/-- Equal pieces, or holes with related parameters. A placeholder is no piece
of a document that has yet to be filled. -/
inductive Piece.Related (R : Parameter → Parameter → Prop) : Piece → Piece → Prop
  | token {t : Token} (h : ∀ name, t ≠ .placeholder name) : Related R (.token t) (.token t)
  | hole {p q : Parameter} (h : R p q) : Related R (.hole p) (.hole q)
  | fault (e : Error) : Related R (.fault e) (.fault e)

namespace Document

/-- Piece by piece the same, but for what the holes hold. -/
def Related (R : Parameter → Parameter → Prop) : Document → Document → Prop :=
  List.Forall₂ (Piece.Related R)

/-- Whether a document binds nothing. -/
def isConstant (d : Document) : Bool :=
  d.all fun
    | .token (.placeholder _) => false
    | .hole _ => false
    | _ => true

@[simp] theorem isConstant_nil : isConstant [] = true := rfl

@[simp] theorem isConstant_keyword (word : Keyword) : (keyword word).isConstant = true := rfl

@[simp] theorem isConstant_identifier (text : String) : (identifier text).isConstant = true := rfl

@[simp] theorem isConstant_raw (sql : String) : (raw sql).isConstant = true := rfl

@[simp] theorem isConstant_space : space.isConstant = true := rfl

@[simp] theorem isConstant_comma : comma.isConstant = true := rfl

@[simp] theorem isConstant_mark_cons (sign : Mark) (d : Document) :
    isConstant (.token (.mark sign) :: d) = d.isConstant := rfl

@[simp] theorem isConstant_clause (word : Keyword) : (clause word).isConstant = true := rfl

@[simp] theorem isConstant_append (d e : Document) :
    (d ++ e).isConstant = (d.isConstant && e.isConstant) := by
  simp [isConstant]

@[simp] theorem isConstant_parenthesized (d : Document) :
    (parenthesized d).isConstant = d.isConstant := by
  have unfolded : parenthesized d = [.token .opening] ++ d ++ [.token .closing] := rfl
  rw [unfolded, isConstant_append, isConstant_append, isConstant_mark_cons, isConstant_mark_cons]
  simp

@[simp] theorem isConstant_rowCount (n : UInt64) : (rowCount n).isConstant = true := by
  unfold rowCount
  split <;> rfl

@[simp] theorem isConstant_tableAlias (d : Dialect) (name : String) :
    (tableAlias d name).isConstant = true := by
  cases d <;> rfl

@[simp] theorem isConstant_operatorTokens (operator : Operator) :
    (ofTokens operator.tokens).isConstant = true := by
  cases operator <;> rfl

@[simp] theorem isConstant_qualified_identifier (table : Option String) (name : String) :
    (qualified table (identifier name)).isConstant = true := by
  cases table <;> rfl

@[simp] theorem isConstant_qualified_star (table : Option String) :
    (qualified table [.token .star]).isConstant = true := by
  cases table <;> rfl

@[simp] theorem isConstant_groupKey (k : GroupKey) : k.document.isConstant = true := by
  cases k with
  | column table name => exact isConstant_qualified_identifier table name
  | expression sql => rfl

theorem isConstant_separatedBy {separator : Document} (hs : separator.isConstant = true)
    {ds : List Document} (h : ∀ d ∈ ds, d.isConstant = true) :
    (separatedBy separator ds).isConstant = true := by
  induction ds with
  | nil => rfl
  | cons d ds ih =>
    cases ds with
    | nil => exact h d (by simp)
    | cons e es =>
      have ht := ih fun f hf => h f (List.mem_cons_of_mem _ hf)
      simp [separatedBy, hs, h d (by simp), ht]

@[simp] theorem isConstant_limitOffset (size start : Option UInt64) :
    (limitOffset size start).isConstant = true := by
  unfold limitOffset
  cases size <;> cases start.filter (· ≠ 0) <;> simp

@[simp] theorem isConstant_rowNumberRange (column : String) (w : Window) :
    (rowNumberRange column w).isConstant = true := by
  simp [rowNumberRange]

theorem holes_of_isConstant {d : Document} (h : d.isConstant = true) : d.holes = [] := by
  induction d with
  | nil => rfl
  | cons piece rest ih =>
    rw [← List.singleton_append, isConstant_append, Bool.and_eq_true] at h
    cases piece with
    | hole p => exact absurd h.1 Bool.false_ne_true
    | token t => exact ih h.2
    | fault e => exact ih h.2

theorem holes_append_constant (d : Document) {e : Document} (he : e.isConstant = true) :
    (d ++ e).holes = d.holes := by
  rw [holes_append, holes_of_isConstant he, List.append_nil]

theorem holes_constant_append {d : Document} (hd : d.isConstant = true) (e : Document) :
    (d ++ e).holes = e.holes := by
  rw [holes_append, holes_of_isConstant hd, List.nil_append]

@[simp] theorem holes_parenthesized (d : Document) : (parenthesized d).holes = d.holes :=
  (holes_append_constant ([.token .opening] ++ d) rfl).trans (holes_constant_append rfl d)

theorem holes_separatedBy {separator : Document} (hs : separator.isConstant = true)
    (ds : List Document) : (separatedBy separator ds).holes = ds.flatMap holes := by
  rw [holes_eq_filterMap, filterMap_separatedBy]
  · simp only [← holes_eq_filterMap]
  · rw [← holes_eq_filterMap, holes_of_isConstant hs]

/-- What binding related parameters keeps of two binders, a whole pass over related documents
keeps, and the tokens look the same in any view in which those of the parameters do. -/
theorem Related.fill_agree {α : Type*} (view : Token → α) {S : Binder → Binder → Prop}
    (hbind : ∀ {p q : Parameter} {b b' : Binder}, R p q → S b b' →
      view (b.bind p).1 = view (b'.bind q).1 ∧ S (b.bind p).2 (b'.bind q).2)
    {d e : Document} (h : d.Related R e) {b b' : Binder} (hb : S b b') :
    Agree (fun x y => x.1.map view = y.1.map view ∧ S x.2 y.2) (d.fill b) (e.fill b') := by
  induction h generalizing b b' with
  | nil => exact .ok ⟨rfl, hb⟩
  | cons hpiece _ ih =>
    cases hpiece with
    | token _ =>
      refine (ih hb).map fun x y hxy => ⟨?_, hxy.2⟩
      exact congrArg (_ :: ·) hxy.1
    | hole hslot =>
      obtain ⟨htoken, hbound⟩ := hbind hslot hb
      refine (ih hbound).map fun x y hxy => ⟨?_, hxy.2⟩
      exact congrArg₂ List.cons htoken hxy.1
    | fault e => exact .error e

namespace Related

theorem refl_of_isConstant : ∀ {d : Document}, d.isConstant = true → Related R d d
  | [], _ => .nil
  | .token t :: rest, h => by
    rw [← List.singleton_append, isConstant_append, Bool.and_eq_true] at h
    refine .cons (.token ?_) (refl_of_isConstant h.2)
    rintro name rfl
    exact Bool.false_ne_true h.1
  | .hole p :: rest, h => by simp [isConstant] at h
  | .fault e :: rest, h => by
    rw [← List.singleton_append, isConstant_append, Bool.and_eq_true] at h
    exact .cons (.fault e) (refl_of_isConstant h.2)

theorem append {d e f g : Document} (h₁ : Related R d e) (h₂ : Related R f g) :
    Related R (d ++ f) (e ++ g) :=
  List.rel_append h₁ h₂

theorem appendConstant {d e : Document} (h : Related R d e) (f : Document)
    (hf : f.isConstant = true) : Related R (d ++ f) (e ++ f) :=
  h.append (refl_of_isConstant hf)

theorem constantAppend (f : Document) (hf : f.isConstant = true) {d e : Document}
    (h : Related R d e) : Related R (f ++ d) (f ++ e) :=
  (refl_of_isConstant hf).append h

theorem hole {p q : Parameter} (h : R p q) : Related R [.hole p] [.hole q] :=
  .cons (.hole h) .nil

/-- What the holes hold is related in order. -/
theorem holes {d e : Document} (h : Related R d e) : List.Forall₂ R d.holes e.holes := by
  induction h with
  | nil => exact .nil
  | cons hp _ ih =>
    cases hp with
    | token _ => exact ih
    | hole hr => exact .cons hr ih
    | fault _ => exact ih

theorem holes_mem {d : Document} {ps : List Parameter}
    (h : Related (fun p q => p = q ∧ p ∈ ps) d d) {p : Parameter} (hp : p ∈ d.holes) : p ∈ ps :=
  (List.forall₂_same.1 h.holes p hp).2

theorem unfilled {d e : Document} (h : Related R d e) : d.Unfilled := by
  intro name hmem
  induction h with
  | nil => simp at hmem
  | cons hp _ ih =>
    rcases List.mem_cons.1 hmem with rfl | hmem
    · cases hp with
      | token ht => exact ht name rfl
    · exact ih hmem

theorem parenthesized {d e : Document} (h : Related R d e) :
    Related R d.parenthesized e.parenthesized :=
  (h.constantAppend [.token .opening] rfl).appendConstant [.token .closing] rfl

theorem separatedBy {separator : Document} (hs : separator.isConstant = true) :
    ∀ {ds es : List Document}, List.Forall₂ (Related R) ds es →
      Related R (separatedBy separator ds) (separatedBy separator es)
  | _, _, .nil => .nil
  | _, _, .cons h .nil => h
  | _, _, .cons h (.cons h' ht) =>
    (h.appendConstant _ hs).append (separatedBy hs (.cons h' ht))

theorem operands (operator : Operator) {ps qs : List Parameter} (h : List.Forall₂ R ps qs) :
    Related R (operands operator ps) (operands operator qs) := by
  cases h with
  | nil => exact .nil
  | cons h₁ h =>
    cases h with
    | nil => exact (hole h₁).constantAppend space rfl
    | cons h₂ h =>
      cases h with
      | nil =>
        exact (((hole h₁).constantAppend space rfl).appendConstant (clause .AND) rfl).append
          (hole h₂)
      | cons h₃ h =>
        simp only [Document.operands, List.length_cons, h.length_eq]
        exact refl_of_isConstant rfl

theorem comparison (column : String) (operator : Operator) {ps qs : List Parameter}
    (h : List.Forall₂ R ps qs) :
    Related R (comparison column operator ps) (comparison column operator qs) :=
  ((operands operator h).constantAppend _ (by simp)).parenthesized

theorem columnComparison (left : String) (operator : Operator) (right : String) :
    Related R (columnComparison left operator right) (columnComparison left operator right) :=
  parenthesized (refl_of_isConstant (by simp))

theorem membership (column : String) (negated : Bool) {d e : Document} (h : Related R d e) :
    Related R (membership column negated d) (membership column negated e) :=
  (h.parenthesized.constantAppend _ (by cases negated <;> rfl)).parenthesized

theorem valueMembership (column : String) (negated : Bool) {ps qs : List Parameter}
    (h : List.Forall₂ R ps qs) :
    Related R (valueMembership column negated ps) (valueMembership column negated qs) := by
  cases h with
  | nil => exact refl_of_isConstant (by cases negated <;> rfl)
  | cons h₁ h =>
    have hs : List.Forall₂ (Related R) ((_ :: _).map fun p => [Piece.hole p])
        ((_ :: _).map fun p => [Piece.hole p]) :=
      List.rel_map (fun _ _ hr => hole hr) (.cons h₁ h)
    exact membership column negated (separatedBy rfl hs)

theorem negation {d e : Document} (h : Related R d e) :
    Related R (negation d) (negation e) :=
  (h.parenthesized.constantAppend (keyword .NOT) rfl).parenthesized

theorem conjunctionList (conjunction : Conjunction) {ds es : List Document}
    (h : List.Forall₂ (Related R) ds es) :
    Related R (conjunctionList conjunction ds) (conjunctionList conjunction es) :=
  (separatedBy (by cases conjunction <;> rfl) h).parenthesized

theorem selectAllFrom (d : Dialect) {inner inner' : Document} (h : Related R inner inner')
    (top : Option UInt64) (name : Option String) :
    Related R (selectAllFrom d inner top name) (selectAllFrom d inner' top name) := by
  refine Related.appendConstant (Related.constantAppend _ ?_ h.parenthesized) _ ?_
  · cases top with
    | none => rfl
    | some n =>
      simp only [isConstant_append, isConstant_rowCount]
      rfl
  · cases name with
    | none => rfl
    | some name => exact isConstant_tableAlias d name

theorem orderBy {entries entries' : Option Document} (h : Option.Rel (Related R) entries entries') :
    Related R (orderBy entries) (orderBy entries') := by
  cases h with
  | none => exact .nil
  | some h => exact h.constantAppend (clause .ORDER_BY) rfl

end Related

end Document

end ParamSql
