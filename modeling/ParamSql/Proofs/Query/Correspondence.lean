import Mathlib.Data.List.Forall2
import ParamSql.Query.Basic

/-!
# Parameters of a query and corresponding queries

The parameters that a query holds at any depth, and queries of one shape: they
are the same but for the parameters they hold, which correspond one by one, and
the dialects they were made for.
-/

namespace ParamSql

mutual

def Select.parameters : Select → List Parameter
  | ⟨_, source, _, fields, _, joins, filter, _, having, order, _, _⟩ =>
    fieldParameters fields ++ source.parameters ++ joinParameters joins ++
      optionalParameters filter ++ optionalParameters having ++ orderParameters order

def Source.parameters : Source → List Parameter
  | .table _ => []
  | .query q => q.parameters

def FieldSource.parameters : FieldSource → List Parameter
  | .column _ _ => []
  | .all _ => []
  | .expression _ => []
  | .query q => q.parameters

def Field.parameters : Field → List Parameter
  | ⟨source, _, _, _⟩ => source.parameters

def JoinTarget.parameters : JoinTarget → List Parameter
  | .table _ => []
  | .query q _ => q.parameters

def Join.parameters : Join → List Parameter
  | ⟨_, _, _, target, _⟩ => target.parameters

def Condition.parameters : Condition → List Parameter
  | .basic _ _ ps => ps
  | .columns _ _ _ => []
  | .inValues _ _ ps => ps
  | .inQuery _ _ q => q.parameters
  | .not c => c.parameters
  | .list _ cs => conditionParameters cs

def optionalParameters : Option Condition → List Parameter
  | none => []
  | some c => c.parameters

def fieldParameters : List Field → List Parameter
  | [] => []
  | f :: fs => f.parameters ++ fieldParameters fs

def orderParameters : List OrderKey → List Parameter
  | [] => []
  | ⟨field, _⟩ :: ks => field.parameters ++ orderParameters ks

def joinParameters : List Join → List Parameter
  | [] => []
  | j :: js => j.parameters ++ joinParameters js

def conditionParameters : List Condition → List Parameter
  | [] => []
  | c :: cs => c.parameters ++ conditionParameters cs

end

section Correspondence

variable (D : Dialect → Dialect → Prop) (R : Parameter → Parameter → Prop)

mutual

/-- Two queries that are the same, save that the dialects of their queries at
any depth are related by `D` and their parameters by `R`. -/
def Select.Corresponds : Select → Select → Prop
  | ⟨dialect₁, source₁, alias₁, fields₁, distinct₁, joins₁, filter₁, grouping₁, having₁, order₁,
      pagination₁, next₁⟩,
    ⟨dialect₂, source₂, alias₂, fields₂, distinct₂, joins₂, filter₂, grouping₂, having₂, order₂,
      pagination₂, next₂⟩ =>
    D dialect₁ dialect₂ ∧ source₁.Corresponds source₂ ∧ alias₁ = alias₂ ∧
      FieldsCorrespond fields₁ fields₂ ∧ distinct₁ = distinct₂ ∧ JoinsCorrespond joins₁ joins₂ ∧
      OptionalCorrespond filter₁ filter₂ ∧ grouping₁ = grouping₂ ∧
      OptionalCorrespond having₁ having₂ ∧ OrderCorresponds order₁ order₂ ∧
      pagination₁ = pagination₂ ∧ next₁ = next₂
termination_by structural s _ => s

def Source.Corresponds : Source → Source → Prop
  | .table a, .table b => a = b
  | .query a, .query b => a.Corresponds b
  | _, _ => False
termination_by structural s _ => s

def FieldSource.Corresponds : FieldSource → FieldSource → Prop
  | .column t a, .column u b => t = u ∧ a = b
  | .all t, .all u => t = u
  | .expression a, .expression b => a = b
  | .query a, .query b => a.Corresponds b
  | _, _ => False
termination_by structural s _ => s

def Field.Corresponds : Field → Field → Prop
  | ⟨source₁, name₁, aggregate₁, distinct₁⟩, ⟨source₂, name₂, aggregate₂, distinct₂⟩ =>
    source₁.Corresponds source₂ ∧ name₁ = name₂ ∧ aggregate₁ = aggregate₂ ∧ distinct₁ = distinct₂
termination_by structural s _ => s

def JoinTarget.Corresponds : JoinTarget → JoinTarget → Prop
  | .table a, .table b => a = b
  | .query a m, .query b n => a.Corresponds b ∧ m = n
  | _, _ => False
termination_by structural s _ => s

def Join.Corresponds : Join → Join → Prop
  | ⟨kind₁, table₁, field₁, target₁, other₁⟩, ⟨kind₂, table₂, field₂, target₂, other₂⟩ =>
    kind₁ = kind₂ ∧ table₁ = table₂ ∧ field₁ = field₂ ∧ target₁.Corresponds target₂ ∧
      other₁ = other₂
termination_by structural s _ => s

def Condition.Corresponds : Condition → Condition → Prop
  | .basic c o ps, .basic c' o' ps' => c = c' ∧ o = o' ∧ List.Forall₂ R ps ps'
  | .columns l o r, .columns l' o' r' => l = l' ∧ o = o' ∧ r = r'
  | .inValues c n ps, .inValues c' n' ps' => c = c' ∧ n = n' ∧ List.Forall₂ R ps ps'
  | .inQuery c n q, .inQuery c' n' q' => c = c' ∧ n = n' ∧ q.Corresponds q'
  | .not a, .not b => a.Corresponds b
  | .list j as, .list k bs => j = k ∧ ConditionsCorrespond as bs
  | _, _ => False
termination_by structural s _ => s

def OptionalCorrespond : Option Condition → Option Condition → Prop
  | none, none => True
  | some a, some b => a.Corresponds b
  | _, _ => False
termination_by structural s _ => s

def FieldsCorrespond : List Field → List Field → Prop
  | [], [] => True
  | a :: as, b :: bs => a.Corresponds b ∧ FieldsCorrespond as bs
  | _, _ => False
termination_by structural s _ => s

def OrderCorresponds : List OrderKey → List OrderKey → Prop
  | [], [] => True
  | ⟨a, d⟩ :: as, ⟨b, e⟩ :: bs => (a.Corresponds b ∧ d = e) ∧ OrderCorresponds as bs
  | _, _ => False
termination_by structural s _ => s

def JoinsCorrespond : List Join → List Join → Prop
  | [], [] => True
  | a :: as, b :: bs => a.Corresponds b ∧ JoinsCorrespond as bs
  | _, _ => False
termination_by structural s _ => s

def ConditionsCorrespond : List Condition → List Condition → Prop
  | [], [] => True
  | a :: as, b :: bs => a.Corresponds b ∧ ConditionsCorrespond as bs
  | _, _ => False
termination_by structural s _ => s

end

end Correspondence

section Self

variable {R : Parameter → Parameter → Prop}

mutual

theorem Select.corresponds_self : ∀ s : Select, (∀ p ∈ s.parameters, R p p) → s.Corresponds Eq R s
  | ⟨_, source, _, fields, _, joins, filter, _, having, order, _, _⟩, h => by
    simp only [Select.parameters, List.mem_append] at h
    exact ⟨rfl, source.corresponds_self fun p hp => h p (by simp [hp]), rfl,
      fieldsCorrespond_self fields fun p hp => h p (by simp [hp]), rfl,
      joinsCorrespond_self joins fun p hp => h p (by simp [hp]),
      optionalCorrespond_self filter fun p hp => h p (by simp [hp]), rfl,
      optionalCorrespond_self having fun p hp => h p (by simp [hp]),
      orderCorresponds_self order fun p hp => h p (by simp [hp]), rfl, rfl⟩

theorem Source.corresponds_self :
    ∀ s : Source, (∀ p ∈ s.parameters, R p p) → s.Corresponds Eq R s
  | .table _, _ => rfl
  | .query q, h => q.corresponds_self h

theorem FieldSource.corresponds_self :
    ∀ s : FieldSource, (∀ p ∈ s.parameters, R p p) → s.Corresponds Eq R s
  | .column _ _, _ => ⟨rfl, rfl⟩
  | .all _, _ => rfl
  | .expression _, _ => rfl
  | .query q, h => q.corresponds_self h

theorem Field.corresponds_self : ∀ f : Field, (∀ p ∈ f.parameters, R p p) → f.Corresponds Eq R f
  | ⟨source, _, _, _⟩, h => ⟨source.corresponds_self h, rfl, rfl, rfl⟩

theorem JoinTarget.corresponds_self :
    ∀ t : JoinTarget, (∀ p ∈ t.parameters, R p p) → t.Corresponds Eq R t
  | .table _, _ => rfl
  | .query q _, h => ⟨q.corresponds_self h, rfl⟩

theorem Join.corresponds_self : ∀ j : Join, (∀ p ∈ j.parameters, R p p) → j.Corresponds Eq R j
  | ⟨_, _, _, target, _⟩, h => ⟨rfl, rfl, rfl, target.corresponds_self h, rfl⟩

theorem Condition.corresponds_self :
    ∀ c : Condition, (∀ p ∈ c.parameters, R p p) → c.Corresponds Eq R c
  | .basic _ _ _, h => ⟨rfl, rfl, List.forall₂_same.2 h⟩
  | .columns _ _ _, _ => ⟨rfl, rfl, rfl⟩
  | .inValues _ _ _, h => ⟨rfl, rfl, List.forall₂_same.2 h⟩
  | .inQuery _ _ q, h => ⟨rfl, rfl, q.corresponds_self h⟩
  | .not c, h => c.corresponds_self h
  | .list _ cs, h => ⟨rfl, conditionsCorrespond_self cs h⟩

theorem optionalCorrespond_self :
    ∀ c : Option Condition, (∀ p ∈ optionalParameters c, R p p) → OptionalCorrespond Eq R c c
  | none, _ => trivial
  | some c, h => c.corresponds_self h

theorem fieldsCorrespond_self :
    ∀ fs : List Field, (∀ p ∈ fieldParameters fs, R p p) → FieldsCorrespond Eq R fs fs
  | [], _ => trivial
  | f :: fs, h => by
    simp only [fieldParameters, List.mem_append] at h
    exact ⟨f.corresponds_self fun p hp => h p (.inl hp),
      fieldsCorrespond_self fs fun p hp => h p (.inr hp)⟩

theorem orderCorresponds_self :
    ∀ ks : List OrderKey, (∀ p ∈ orderParameters ks, R p p) → OrderCorresponds Eq R ks ks
  | [], _ => trivial
  | ⟨field, _⟩ :: ks, h => by
    simp only [orderParameters, List.mem_append] at h
    exact ⟨⟨field.corresponds_self fun p hp => h p (.inl hp), rfl⟩,
      orderCorresponds_self ks fun p hp => h p (.inr hp)⟩

theorem joinsCorrespond_self :
    ∀ js : List Join, (∀ p ∈ joinParameters js, R p p) → JoinsCorrespond Eq R js js
  | [], _ => trivial
  | j :: js, h => by
    simp only [joinParameters, List.mem_append] at h
    exact ⟨j.corresponds_self fun p hp => h p (.inl hp),
      joinsCorrespond_self js fun p hp => h p (.inr hp)⟩

theorem conditionsCorrespond_self :
    ∀ cs : List Condition, (∀ p ∈ conditionParameters cs, R p p) → ConditionsCorrespond Eq R cs cs
  | [], _ => trivial
  | c :: cs, h => by
    simp only [conditionParameters, List.mem_append] at h
    exact ⟨c.corresponds_self fun p hp => h p (.inl hp),
      conditionsCorrespond_self cs fun p hp => h p (.inr hp)⟩

end

end Self

end ParamSql
