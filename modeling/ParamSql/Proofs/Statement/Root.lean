import ParamSql.Proofs.Rendering.Related
import ParamSql.Select.Derived
import ParamSql.Statement.Delete

/-!
# Root statements

What is rendered on its own: a query with a record count and a direction, the
three kinds of changes, and a condition. Each is rendered in its own dialect,
into tokens and the parameters that their placeholders stand for.
-/

namespace ParamSql

open Document

def Assignment.parameters : Assignment → List Parameter
  | value parameter => [parameter]
  | query _ inner => inner.parameters

section

variable (D : Dialect → Dialect → Prop) (R : Parameter → Parameter → Prop)

/-- Assignments to one column, of parameters related by `R` or of corresponding queries. -/
def Assignment.Corresponds : Assignment → Assignment → Prop
  | value p, value q => p.column = q.column ∧ R p q
  | query column inner, query column' inner' => column = column' ∧ inner.Corresponds D R inner'
  | _, _ => False

end

inductive RootStatement
  | select (s : Select) (recordCount : Option UInt64) (reversed : Bool)
  | insert (i : Insert)
  | update (u : Update)
  | delete (d : Delete)
  | condition (d : Dialect) (c : Condition)

namespace RootStatement

def dialect : RootStatement → Dialect
  | select s _ _ => s.dialect
  | insert i => i.dialect
  | update u => u.dialect
  | delete d => d.dialect
  | condition d _ => d

def document : RootStatement → Document
  | select s recordCount reversed => s.rootDocument recordCount reversed
  | insert i => i.document
  | update u => u.document
  | delete d => d.document
  | condition d c => c.document d

def output (r : RootStatement) : Except Error (List Token × List Parameter) :=
  (r.document.fill {}).map fun (tokens, b) => (tokens, b.parameters)

def render (r : RootStatement) : Except Error (String × List Parameter) :=
  r.document.render r.dialect

def parameters : RootStatement → List Parameter
  | select s _ _ => s.parameters
  | insert i => i.assignments.flatMap Assignment.parameters
  | update u => u.assignments.flatMap Assignment.parameters ++ optionalParameters u.filter
  | delete d => optionalParameters d.filter
  | condition _ c => c.parameters

theorem render_eq_output (r : RootStatement) :
    r.render = r.output.map fun (tokens, ps) => (Token.textOf r.dialect tokens, ps) := by
  unfold render output Document.render
  cases r.document.fill {} <;> rfl

/-- Statements that are the same and in the same dialect, save that the
dialects of their nested queries are related by `D` and their parameters by `R`. -/
def Corresponds (D : Dialect → Dialect → Prop) (R : Parameter → Parameter → Prop) :
    RootStatement → RootStatement → Prop
  | select s n reversed, select s' n' reversed' =>
    s.dialect = s'.dialect ∧ s.Corresponds D R s' ∧ n = n' ∧ reversed = reversed'
  | insert i, insert i' =>
    i.dialect = i'.dialect ∧ i.table = i'.table ∧
      List.Forall₂ (Assignment.Corresponds D R) i.assignments i'.assignments
  | update u, update u' =>
    u.dialect = u'.dialect ∧ u.table = u'.table ∧
      List.Forall₂ (Assignment.Corresponds D R) u.assignments u'.assignments ∧
      OptionalCorrespond D R u.filter u'.filter
  | delete d, delete d' =>
    d.dialect = d'.dialect ∧ d.table = d'.table ∧ OptionalCorrespond D R d.filter d'.filter
  | condition d c, condition d' c' => d = d' ∧ c.Corresponds D R c'
  | _, _ => False

end RootStatement

variable {D : Dialect → Dialect → Prop} {R : Parameter → Parameter → Prop}

theorem Assignment.corresponds_self {a : Assignment} (h : ∀ p ∈ a.parameters, R p p) :
    a.Corresponds Eq R a := by
  cases a with
  | value p => exact ⟨rfl, h p (List.mem_singleton_self p)⟩
  | query column inner => exact ⟨rfl, inner.corresponds_self h⟩

theorem Assignment.Corresponds.column_eq {a a' : Assignment} (h : a.Corresponds D R a') :
    a.column = a'.column := by
  cases a <;> cases a' <;> first | exact h.1 | exact h.elim

theorem Assignment.Corresponds.document {a a' : Assignment} (h : a.Corresponds D R a')
    (d : Dialect) : (a.document d).Related R (a'.document d) := by
  cases a with
  | value p =>
    cases a' with
    | value q => exact .hole h.2
    | query _ _ => exact h.elim
  | query _ inner =>
    cases a' with
    | value _ => exact h.elim
    | query _ inner' => exact (h.2.document d).parenthesized

theorem Assignment.separated_related {f : Assignment → Document}
    (hf : ∀ {a a' : Assignment}, a.Corresponds D R a' → (f a).Related R (f a'))
    {as as' : List Assignment} (h : List.Forall₂ (Assignment.Corresponds D R) as as') :
    (separatedBy comma (as.map f)).Related R (separatedBy comma (as'.map f)) :=
  .separatedBy rfl (List.rel_map (fun _ _ ha => hf ha) h)

theorem requireAssignments_related {as as' : List Assignment} {S : Assignment → Assignment → Prop}
    (h : List.Forall₂ S as as') {d d' : Document} (hd : d.Related R d') :
    (requireAssignments as d).Related R (requireAssignments as' d') := by
  cases h with
  | nil => exact .refl_of_isConstant rfl
  | cons _ _ => exact hd

theorem OptionalCorrespond.filterClause {c c' : Option Condition} (h : OptionalCorrespond D R c c')
    (d : Dialect) : (filterClause d c).Related R (ParamSql.filterClause d c') := by
  refine Clauses.Related.whereClause ?_ false
  have hd := h.document d
  cases c <;> cases c' <;> exact hd

namespace RootStatement

theorem corresponds_self {r : RootStatement} (h : ∀ p ∈ r.parameters, R p p) :
    r.Corresponds Eq R r := by
  have assignments : ∀ as : List Assignment, (∀ p ∈ as.flatMap Assignment.parameters, R p p) →
      List.Forall₂ (Assignment.Corresponds Eq R) as as := fun as has =>
    List.forall₂_same.2 fun a ha =>
      Assignment.corresponds_self fun p hp => has p (List.mem_flatMap.2 ⟨a, ha, hp⟩)
  cases r with
  | select s n reversed => exact ⟨rfl, s.corresponds_self h, rfl, rfl⟩
  | insert i => exact ⟨rfl, rfl, assignments _ h⟩
  | update u =>
    exact ⟨rfl, rfl, assignments _ fun p hp => h p (List.mem_append_left _ hp),
      optionalCorrespond_self _ fun p hp => h p (List.mem_append_right _ hp)⟩
  | delete d => exact ⟨rfl, rfl, optionalCorrespond_self _ h⟩
  | condition d c => exact ⟨rfl, c.corresponds_self h⟩

theorem Corresponds.dialect_eq {r r' : RootStatement} (h : r.Corresponds D R r') :
    r.dialect = r'.dialect := by
  cases r <;> cases r' <;> first | exact h.1 | exact h.elim

theorem Corresponds.document {r r' : RootStatement} (h : r.Corresponds D R r') :
    r.document.Related R r'.document := by
  cases r with
  | select s n reversed =>
    cases r' with
    | select s' n' reversed' =>
      obtain ⟨hd, hs, rfl, rfl⟩ := h
      simp only [RootStatement.document, Select.rootDocument, ← hd, ← hs.pagination_eq]
      exact (hs.clauses s.dialect).paginated s.dialect s.pagination n reversed
    | _ => exact h.elim
  | insert i =>
    cases r' with
    | insert i' =>
      obtain ⟨dialect, table, as⟩ := i
      obtain ⟨dialect', table', as'⟩ := i'
      obtain ⟨rfl, rfl, has⟩ := h
      have columns := Assignment.separated_related (f := fun a => identifier a.column)
        (fun {a a'} ha => by rw [ha.column_eq]; exact .refl_of_isConstant rfl) has
      have values := Assignment.separated_related (f := fun a => a.document dialect)
        (fun ha => ha.document dialect) has
      have first := ((columns.constantAppend space rfl).appendConstant space rfl).parenthesized
      have second := ((values.constantAppend space rfl).appendConstant space rfl).parenthesized
      exact requireAssignments_related has
        (((first.constantAppend _ (by simp)).appendConstant (clause .VALUES) rfl).append second)
    | _ => exact h.elim
  | update u =>
    cases r' with
    | update u' =>
      obtain ⟨dialect, table, as, filter⟩ := u
      obtain ⟨dialect', table', as', filter'⟩ := u'
      obtain ⟨rfl, rfl, has, hfilter⟩ := h
      have changes := Assignment.separated_related
        (f := fun a => identifier a.column ++ .token (.mark .equal) :: a.document dialect)
        (fun {a a'} ha => by
          rw [ha.column_eq]
          exact ((ha.document dialect).constantAppend [.token (.mark .equal)] rfl).constantAppend
            (identifier a'.column) rfl) has
      exact requireAssignments_related has
        ((changes.constantAppend _ (by simp)).append (hfilter.filterClause dialect))
    | _ => exact h.elim
  | delete d =>
    cases r' with
    | delete d' =>
      obtain ⟨dialect, table, filter⟩ := d
      obtain ⟨dialect', table', filter'⟩ := d'
      obtain ⟨rfl, rfl, hfilter⟩ := h
      exact (hfilter.filterClause dialect).constantAppend _ (by simp)
    | _ => exact h.elim
  | condition d c =>
    cases r' with
    | condition d' c' =>
      obtain ⟨rfl, hc⟩ := h
      exact hc.document d
    | _ => exact h.elim

end RootStatement

end ParamSql
