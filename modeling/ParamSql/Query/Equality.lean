import ParamSql.Query.Basic

/-!
# Equality of queries

Two queries are the same when they have the same shape and hold the same
parts; parameters compare up to their names and storage types.
-/

namespace ParamSql

/-- Pairwise comparison of lists of one length. -/
def sameList (same : α → α → Bool) : List α → List α → Bool
  | [], [] => true
  | a :: as, b :: bs => same a b && sameList same as bs
  | _, _ => false

/-- The same parameters in the same order. -/
def sameParameters : List Parameter → List Parameter → Bool := sameList Parameter.same

mutual

def Select.same : Select → Select → Bool
  | ⟨dialect₁, source₁, alias₁, fields₁, distinct₁, joins₁, filter₁, grouping₁, having₁, order₁,
      pagination₁, next₁⟩,
    ⟨dialect₂, source₂, alias₂, fields₂, distinct₂, joins₂, filter₂, grouping₂, having₂, order₂,
      pagination₂, next₂⟩ =>
    dialect₁ == dialect₂ && source₁.same source₂ && alias₁ == alias₂ &&
      sameFields fields₁ fields₂ && distinct₁ == distinct₂ && sameJoins joins₁ joins₂ &&
      sameOptional filter₁ filter₂ && grouping₁ == grouping₂ && sameOptional having₁ having₂ &&
      sameOrder order₁ order₂ && pagination₁ == pagination₂ && next₁ == next₂
termination_by structural s _ => s

def Source.same : Source → Source → Bool
  | .table a, .table b => a == b
  | .query a, .query b => a.same b
  | _, _ => false
termination_by structural s _ => s

def FieldSource.same : FieldSource → FieldSource → Bool
  | .column t a, .column u b => t == u && a == b
  | .all t, .all u => t == u
  | .expression a, .expression b => a == b
  | .query a, .query b => a.same b
  | _, _ => false
termination_by structural s _ => s

def Field.same : Field → Field → Bool
  | ⟨source₁, name₁, aggregate₁, distinct₁⟩, ⟨source₂, name₂, aggregate₂, distinct₂⟩ =>
    source₁.same source₂ && name₁ == name₂ && aggregate₁ == aggregate₂ && distinct₁ == distinct₂
termination_by structural s _ => s

def OrderKey.same : OrderKey → OrderKey → Bool
  | ⟨field₁, direction₁⟩, ⟨field₂, direction₂⟩ => field₁.same field₂ && direction₁ == direction₂
termination_by structural s _ => s

def JoinTarget.same : JoinTarget → JoinTarget → Bool
  | .table a, .table b => a == b
  | .query a m, .query b n => a.same b && m == n
  | _, _ => false
termination_by structural s _ => s

def Join.same : Join → Join → Bool
  | ⟨kind₁, table₁, field₁, target₁, other₁⟩, ⟨kind₂, table₂, field₂, target₂, other₂⟩ =>
    kind₁ == kind₂ && table₁ == table₂ && field₁ == field₂ && target₁.same target₂ &&
      other₁ == other₂
termination_by structural s _ => s

def Condition.same : Condition → Condition → Bool
  | .basic c o ps, .basic c' o' ps' => c == c' && o == o' && sameParameters ps ps'
  | .columns l o r, .columns l' o' r' => l == l' && o == o' && r == r'
  | .inValues c n ps, .inValues c' n' ps' => c == c' && n == n' && sameParameters ps ps'
  | .inQuery c n q, .inQuery c' n' q' => c == c' && n == n' && q.same q'
  | .not a, .not b => a.same b
  | .list j as, .list k bs => j == k && sameConditions as bs
  | _, _ => false
termination_by structural s _ => s

def sameOptional : Option Condition → Option Condition → Bool
  | none, none => true
  | some a, some b => a.same b
  | _, _ => false
termination_by structural s _ => s

def sameFields : List Field → List Field → Bool
  | [], [] => true
  | a :: as, b :: bs => a.same b && sameFields as bs
  | _, _ => false
termination_by structural s _ => s

def sameOrder : List OrderKey → List OrderKey → Bool
  | [], [] => true
  | a :: as, b :: bs => a.same b && sameOrder as bs
  | _, _ => false
termination_by structural s _ => s

def sameJoins : List Join → List Join → Bool
  | [], [] => true
  | a :: as, b :: bs => a.same b && sameJoins as bs
  | _, _ => false
termination_by structural s _ => s

def sameConditions : List Condition → List Condition → Bool
  | [], [] => true
  | a :: as, b :: bs => a.same b && sameConditions as bs
  | _, _ => false
termination_by structural s _ => s

end

end ParamSql
