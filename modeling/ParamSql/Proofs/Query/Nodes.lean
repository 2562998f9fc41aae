import ParamSql.Proofs.Statement.Root

/-!
# Nodes of a statement

The queries, fields and conditions that a statement is made of, at any depth, in the order of its
text. A node stands in front of all that is within it.
-/

namespace ParamSql

inductive Node
  | query (s : Select)
  /-- An entry of a field list, or what a sort key sorts by. -/
  | field (f : Field)
  | condition (c : Condition)

mutual

def Select.nodes : Select → List Node
  | ⟨dialect, source, sourceAlias, fields, distinct, joins, filter, grouping, having, order,
      pagination, nextJoin⟩ =>
    .query ⟨dialect, source, sourceAlias, fields, distinct, joins, filter, grouping, having, order,
        pagination, nextJoin⟩ ::
      (fieldNodes fields ++ source.nodes ++ joinNodes joins ++ optionalNodes filter ++
        optionalNodes having ++ orderNodes order)

def Source.nodes : Source → List Node
  | .table _ => []
  | .query q => q.nodes

def FieldSource.nodes : FieldSource → List Node
  | .column _ _ | .all _ | .expression _ => []
  | .query q => q.nodes

def Field.nodes : Field → List Node
  | ⟨source, newName, aggregate, distinct⟩ =>
    .field ⟨source, newName, aggregate, distinct⟩ :: source.nodes

def JoinTarget.nodes : JoinTarget → List Node
  | .table _ => []
  | .query q _ => q.nodes

def Join.nodes : Join → List Node
  | ⟨_, _, _, target, _⟩ => target.nodes

def Condition.nodes : Condition → List Node
  | .basic column operator ps => [.condition (.basic column operator ps)]
  | .columns left operator right => [.condition (.columns left operator right)]
  | .inValues column negated ps => [.condition (.inValues column negated ps)]
  | .inQuery column negated q => .condition (.inQuery column negated q) :: q.nodes
  | .not c => .condition (.not c) :: c.nodes
  | .list conjunction cs => .condition (.list conjunction cs) :: conditionNodes cs

def optionalNodes : Option Condition → List Node
  | none => []
  | some c => c.nodes

def fieldNodes : List Field → List Node
  | [] => []
  | f :: fs => f.nodes ++ fieldNodes fs

def orderNodes : List OrderKey → List Node
  | [] => []
  | ⟨field, _⟩ :: ks => field.nodes ++ orderNodes ks

def joinNodes : List Join → List Node
  | [] => []
  | j :: js => j.nodes ++ joinNodes js

def conditionNodes : List Condition → List Node
  | [] => []
  | c :: cs => c.nodes ++ conditionNodes cs

end

def Assignment.nodes : Assignment → List Node
  | value _ => []
  | query _ inner => inner.nodes

def RootStatement.nodes : RootStatement → List Node
  | select s _ _ => s.nodes
  | insert i => i.assignments.flatMap Assignment.nodes
  | update u => u.assignments.flatMap Assignment.nodes ++ optionalNodes u.filter
  | delete d => optionalNodes d.filter
  | condition _ c => c.nodes

def Unpaged (nodes : List Node) : Prop :=
  ∀ q, .query q ∈ nodes → q.pagination = .unbounded

namespace Unpaged

variable {n : Node} {ns ms : List Node}

theorem tail (h : Unpaged (n :: ns)) : Unpaged ns :=
  fun q hq => h q (List.mem_cons_of_mem n hq)

theorem left (h : Unpaged (ns ++ ms)) : Unpaged ns :=
  fun q hq => h q (List.mem_append_left ms hq)

theorem right (h : Unpaged (ns ++ ms)) : Unpaged ms :=
  fun q hq => h q (List.mem_append_right ns hq)

end Unpaged

theorem Select.query_mem_nodes (s : Select) : .query s ∈ s.nodes := by
  cases s
  exact List.mem_cons_self

section Lists

theorem conditionNodes_append (as bs : List Condition) :
    conditionNodes (as ++ bs) = conditionNodes as ++ conditionNodes bs := by
  induction as with
  | nil => rfl
  | cons a as ih => rw [List.cons_append, conditionNodes, conditionNodes, ih, List.append_assoc]

theorem Condition.query_mem_membersFor {q : Select} {c : Condition} (h : .query q ∈ c.nodes)
    (j : Conjunction) : .query q ∈ conditionNodes (c.membersFor j) := by
  have alone (c : Condition) : conditionNodes [c] = c.nodes := List.append_nil c.nodes
  cases c with
  | list inner members =>
    by_cases hsame : inner = j
    · rw [membersFor, if_pos hsame]
      exact (List.mem_cons.1 h).resolve_left (by simp)
    · rw [membersFor, if_neg hsame, alone]
      exact h
  | _ =>
    rw [membersFor, alone]
    · exact h
    · simp

theorem Condition.query_mem_combine {q : Select} {a b : Condition}
    (h : .query q ∈ a.nodes ∨ .query q ∈ b.nodes) (j : Conjunction) :
    .query q ∈ (combine j a b).nodes := by
  rw [combine, nodes, conditionNodes_append]
  refine List.mem_cons_of_mem _ (List.mem_append.2 ?_)
  exact h.imp (query_mem_membersFor · j) (query_mem_membersFor · j)

end Lists

end ParamSql
