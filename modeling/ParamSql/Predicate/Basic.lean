import ParamSql.Predicate.Vocabulary
import ParamSql.Query.Equality

/-!
# Predicates

Filters over the properties of entities, as trees of comparisons, connectives
and method calls.
-/

namespace ParamSql

inductive Predicate
  | compare (left : Predicate) (comparison : Comparison) (right : Predicate)
  | and (left right : Predicate)
  | or (left right : Predicate)
  | not (inner : Predicate)
  | call (method : Method) (target : Predicate) (arguments : List Predicate)
  | member (entity property : String)
  | constant (value : Value)
  /-- Literal values, for a membership test. -/
  | values (values : List Value)
  /-- A query, for a membership test. -/
  | query (inner : Select)

namespace Predicate

def kind : Predicate → NodeKind
  | compare .. => .comparison
  | and .. => .conjunction
  | or .. => .disjunction
  | not _ => .negation
  | call .. => .call
  | member .. => .member
  | constant _ => .constant
  | values _ => .valueList
  | query _ => .query

mutual

def same : Predicate → Predicate → Bool
  | compare l c r, compare l' c' r' => l.same l' && c == c' && r.same r'
  | and l r, and l' r' => l.same l' && r.same r'
  | or l r, or l' r' => l.same l' && r.same r'
  | not p, not p' => p.same p'
  | call m t as, call m' t' as' => m == m' && t.same t' && sameArguments as as'
  | member e p, member e' p' => e == e' && p == p'
  | constant v, constant v' => v.same v'
  | values vs, values vs' => sameList Value.same vs vs'
  | query q, query q' => q.same q'
  | _, _ => false

def sameArguments : List Predicate → List Predicate → Bool
  | [], [] => true
  | a :: as, b :: bs => a.same b && sameArguments as bs
  | _, _ => false

end

end Predicate

end ParamSql
