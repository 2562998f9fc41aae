import ParamSql.Predicate.Meaning
import ParamSql.Proofs.Agreement
import ParamSql.Proofs.Statement.Root

/-!
# Text does not depend on bound values

Two statements that differ in nothing but the values and the storage types of
their bound parameters are rendered into the same text, with parameters of the
same names and columns, or fail for the same reason. The same holds from the
predicates on: what a constant is never shows in the text, only whether it is
null, and that a pattern is a text.
-/

namespace ParamSql

namespace Parameter

/-- Parameters that differ at most in the value they are bound to and its
storage type. -/
inductive SameSlot : Parameter → Parameter → Prop
  | bound (column : String) (name : Option String) (v w : Value) (s t : StorageType) :
    SameSlot (.bound column name v s) (.bound column name w t)
  | raw (column sql : String) (type : StorageType) :
    SameSlot (.raw column sql type) (.raw column sql type)

theorem sameSlot_refl (p : Parameter) : p.SameSlot p := by
  cases p with
  | bound column name value type => exact .bound column name value value type type
  | raw column sql type => exact .raw column sql type

def SameLabel (p q : Parameter) : Prop := p.name? = q.name? ∧ p.column = q.column

end Parameter

def Binder.SameLabels (b b' : Binder) : Prop :=
  b.next = b'.next ∧ List.Forall₂ Parameter.SameLabel b.parameters b'.parameters

theorem Binder.bind_sameSlot {p q : Parameter} (h : p.SameSlot q) {b b' : Binder}
    (hb : b.SameLabels b') :
    (b.bind p).1 = (b'.bind q).1 ∧ (b.bind p).2.SameLabels (b'.bind q).2 := by
  obtain ⟨hnext, hparameters⟩ := hb
  cases h with
  | raw column sql type => exact ⟨rfl, hnext, hparameters⟩
  | bound column name v w s t =>
    cases name with
    | some name => exact ⟨rfl, hnext, List.rel_append hparameters (.cons ⟨rfl, rfl⟩ .nil)⟩
    | none =>
      have hname : indexedName b.next = indexedName b'.next := congrArg indexedName hnext
      exact ⟨congrArg Token.placeholder hname, congrArg (· + 1) hnext,
        List.rel_append hparameters (.cons ⟨congrArg some hname, rfl⟩ .nil)⟩

def SameRendering (x y : String × List Parameter) : Prop :=
  x.1 = y.1 ∧ List.Forall₂ Parameter.SameLabel x.2 y.2

theorem Document.Related.render_agree {d e : Document} (h : d.Related Parameter.SameSlot e)
    (dialect : Dialect) : Agree SameRendering (d.render dialect) (e.render dialect) := by
  have filled : Agree (fun x y => x.1.map id = y.1.map id ∧ x.2.SameLabels y.2)
      (d.fill {}) (e.fill {}) :=
    h.fill_agree id (fun hslot hb => Binder.bind_sameSlot hslot hb) ⟨rfl, .nil⟩
  simp only [List.map_id] at filled
  exact filled.map fun x y hxy => ⟨congrArg (Token.textOf dialect) hxy.1, hxy.2.2⟩

theorem RootStatement.Corresponds.render_agree {r r' : RootStatement}
    (h : r.Corresponds Eq Parameter.SameSlot r') : Agree SameRendering r.render r'.render := by
  unfold RootStatement.render
  rw [h.dialect_eq]
  exact h.document.render_agree r'.dialect

theorem ConditionsCorrespond.append {D : Dialect → Dialect → Prop}
    {R : Parameter → Parameter → Prop} :
    ∀ {as as' bs bs' : List Condition}, ConditionsCorrespond D R as as' →
      ConditionsCorrespond D R bs bs' → ConditionsCorrespond D R (as ++ bs) (as' ++ bs')
  | [], [], _, _, _, hb => hb
  | _ :: _, _ :: _, _, _, ha, hb => ⟨ha.1, append ha.2 hb⟩

/-- Conditions joined by a conjunction correspond when their parts do. -/
theorem Condition.Corresponds.combine {D : Dialect → Dialect → Prop}
    {R : Parameter → Parameter → Prop} {a a' b b' : Condition} (ha : a.Corresponds D R a')
    (hb : b.Corresponds D R b') (conjunction : Conjunction) :
    (Condition.combine conjunction a b).Corresponds D R (Condition.combine conjunction a' b') := by
  have members {c c' : Condition} (h : c.Corresponds D R c') :
      ConditionsCorrespond D R (c.membersFor conjunction) (c'.membersFor conjunction) := by
    cases c <;> cases c' <;> try exact h.elim
    case list.list inner cs inner' cs' =>
      obtain ⟨rfl, hcs⟩ := h
      by_cases heq : inner = conjunction
      · simpa only [Condition.membersFor, heq, if_true] using hcs
      · simp only [Condition.membersFor, heq, if_false]
        exact ⟨⟨rfl, hcs⟩, trivial⟩
    all_goals exact ⟨h, trivial⟩
  exact ⟨rfl, (members ha).append (members hb)⟩

def Method.takesPattern : Method → Bool
  | like | notLike | likeAll | notLikeAll | likeStartWith | notLikeStartWith | likeEndWith
  | notLikeEndWith => true
  | _ => false

namespace Predicate

/-- Predicates that differ at most in the values of their constants: null
stands against null, a list of values against one of its length, and patterns
are texts on both sides. Queries within them differ in bound values only. -/
inductive SameShape : Predicate → Predicate → Prop
  | compare {l l' r r' : Predicate} (c : Comparison) (left : SameShape l l')
    (right : SameShape r r') : SameShape (.compare l c r) (.compare l' c r')
  | and {l l' r r' : Predicate} (left : SameShape l l') (right : SameShape r r') :
    SameShape (.and l r) (.and l' r')
  | or {l l' r r' : Predicate} (left : SameShape l l') (right : SameShape r r') :
    SameShape (.or l r) (.or l' r')
  | not {p p' : Predicate} (inner : SameShape p p') : SameShape (.not p) (.not p')
  | call {t t' : Predicate} {as as' : List Predicate} (m : Method) (target : SameShape t t')
    (arguments : List.Forall₂ SameShape as as')
    (patterns : m.takesPattern = true →
      ∀ v, constant v ∈ as ∨ constant v ∈ as' → ∃ text, v = .text text) :
    SameShape (.call m t as) (.call m t' as')
  | member (entity property : String) :
    SameShape (.member entity property) (.member entity property)
  | constant {v w : Value} (null : v.isNull = w.isNull) : SameShape (.constant v) (.constant w)
  | values {vs ws : List Value} (length : vs.length = ws.length) :
    SameShape (.values vs) (.values ws)
  | query {q q' : Select} (inner : q.Corresponds Eq Parameter.SameSlot q') :
    SameShape (.query q) (.query q')

variable {p p' : Predicate} {as as' : List Predicate}

theorem parameter_sameSlot (column : Column) (v w : Value) :
    (parameter column v).SameSlot (parameter column w) := by
  unfold parameter
  cases column.storageType <;> exact .bound _ _ _ _ _ _

theorem parameters_sameSlot (column : Column) {vs ws : List Value} (h : vs.length = ws.length) :
    List.Forall₂ Parameter.SameSlot (vs.map (parameter column)) (ws.map (parameter column)) := by
  rw [List.forall₂_map_left_iff, List.forall₂_map_right_iff, List.forall₂_iff_get]
  exact ⟨h, fun _ _ _ => parameter_sameSlot column _ _⟩

/-- A member is resolved without a look at constants. -/
theorem SameShape.column (h : p.SameShape p') (resolve : Resolver) :
    p.column resolve = p'.column resolve := by
  cases h <;> rfl

theorem SameShape.constantArgument (h : p.SameShape p') (m : Method) :
    Agree (fun _ _ => True) (p.constantArgument m) (p'.constantArgument m) := by
  cases h with
  | constant _ => exact .ok trivial
  | _ => exact .error _

theorem constantArguments_agree (h : List.Forall₂ SameShape as as') (m : Method) :
    Agree (fun vs ws => vs.length = ws.length) (as.mapM (constantArgument m))
      (as'.mapM (constantArgument m)) := by
  induction h with
  | nil => exact .ok rfl
  | cons head _ ih =>
    simp only [List.mapM_cons]
    exact (head.constantArgument m).bind fun v w _ => ih.bind fun vs ws hlength =>
      .ok (congrArg (· + 1) hlength)

/-- The conditions of two predicates that correspond, or the one reason why there are none. -/
abbrev SameMeaning : Except Error Condition → Except Error Condition → Prop :=
  Agree (Condition.Corresponds Eq Parameter.SameSlot)

theorem sameMeaning_refusal (fault : PredicateFault) :
    SameMeaning (.error (.unsupportedPredicate fault)) (.error (.unsupportedPredicate fault)) :=
  .error _

theorem SameShape.compareConstant (h : p.SameShape p') (resolve : Resolver) (c : Comparison)
    (operator : Operator) {v w : Value} (hnull : v.isNull = w.isNull) :
    SameMeaning (p.compareConstant resolve c operator v)
      (p'.compareConstant resolve c operator w) := by
  unfold Predicate.compareConstant
  rw [h.column resolve, ← hnull]
  refine (Agree.refl (S := Eq) (fun _ => rfl) _).bind fun column _ heq => ?_
  subst heq
  by_cases hv : v.isNull = true
  · simp only [hv, if_true]
    cases c with
    | equal => exact .ok ⟨rfl, rfl, .nil⟩
    | notEqual => exact .ok ⟨rfl, rfl, .nil⟩
    | _ => exact sameMeaning_refusal _
  · simp only [hv]
    exact .ok ⟨rfl, rfl, .cons (parameter_sameSlot column v w) .nil⟩

theorem compareOperands_agree {l l' r r' : Predicate} (hl : l.SameShape l') (hr : r.SameShape r')
    (resolve : Resolver) (c : Comparison) :
    SameMeaning (compareOperands resolve l c r) (compareOperands resolve l' c r') := by
  cases hl with
  | member entity property =>
    cases hr with
    | member entity' property' =>
      exact Agree.refl (fun c => c.corresponds_self fun p _ => Parameter.sameSlot_refl p) _
    | constant hnull => exact (SameShape.member entity property).compareConstant resolve c _ hnull
    | _ => exact sameMeaning_refusal _
  | constant hnull =>
    cases hr with
    | member entity property =>
      exact (SameShape.member entity property).compareConstant resolve c _ hnull
    | _ => exact sameMeaning_refusal _
  | _ => exact sameMeaning_refusal _

/-- Membership in a list of constants, wherever the list comes from. -/
theorem inValues_agree (column : Column) (negated : Bool) {vs ws : List Value}
    (h : vs.length = ws.length) :
    Condition.Corresponds Eq Parameter.SameSlot
      (.inValues column.name negated (vs.map (parameter column)))
      (.inValues column.name negated (ws.map (parameter column))) :=
  ⟨rfl, rfl, parameters_sameSlot column h⟩

theorem membershipCondition_agree (h : List.Forall₂ SameShape as as') (column : Column)
    (m : Method) (negated : Bool) :
    SameMeaning (membershipCondition column m negated as)
      (membershipCondition column m negated as') := by
  have constants := (constantArguments_agree h m).bind fun vs ws hlength =>
    Agree.ok (inValues_agree column negated hlength)
  cases h with
  | nil => exact constants
  | cons head rest =>
    cases rest with
    | nil =>
      cases head with
      | query inner => exact .ok ⟨rfl, rfl, inner⟩
      | values hlength => exact .ok (inValues_agree column negated hlength)
      | _ => exact constants
    | cons _ _ => cases head <;> exact constants

theorem rangeCondition_agree (h : List.Forall₂ SameShape as as') (column : Column) (m : Method)
    (operator : Operator) :
    SameMeaning (rangeCondition column m operator as) (rangeCondition column m operator as') := by
  rcases h with - | ⟨low, - | ⟨high, - | ⟨_, rest⟩⟩⟩
  · exact sameMeaning_refusal _
  · exact sameMeaning_refusal _
  · exact (low.constantArgument m).bind fun v w _ => (high.constantArgument m).bind fun v' w' _ =>
      .ok ⟨rfl, rfl, .cons (parameter_sameSlot column v w)
        (.cons (parameter_sameSlot column v' w') .nil)⟩
  · simp only [rangeCondition, List.length_cons, rest.length_eq]
    exact sameMeaning_refusal _

theorem likeCondition_agree (h : List.Forall₂ SameShape as as') (column : Column) (m : Method)
    (mode : LikeMatch) (negated : Bool)
    (patterns : ∀ v, constant v ∈ as ∨ constant v ∈ as' → ∃ text, v = .text text) :
    SameMeaning (likeCondition column m mode negated as)
      (likeCondition column m mode negated as') := by
  rcases h with - | ⟨head, - | ⟨_, rest⟩⟩
  · exact sameMeaning_refusal _
  · cases head with
    | @constant v w _ =>
      obtain ⟨s, rfl⟩ := patterns v (.inl (List.mem_singleton_self _))
      obtain ⟨t, rfl⟩ := patterns w (.inr (List.mem_singleton_self _))
      exact .ok ⟨rfl, rfl, .cons (parameter_sameSlot column _ _) .nil⟩
    | _ => exact sameMeaning_refusal _
  · simp only [likeCondition, List.length_cons, rest.length_eq]
    exact sameMeaning_refusal _

theorem nullTestCondition_agree (h : List.Forall₂ SameShape as as') (m : Method) {test : Condition}
    (htest : test.Corresponds Eq Parameter.SameSlot test) :
    SameMeaning (nullTestCondition m test as) (nullTestCondition m test as') := by
  cases h with
  | nil => exact .ok htest
  | cons _ rest =>
    simp only [nullTestCondition, List.length_cons, rest.length_eq]
    exact sameMeaning_refusal _

theorem callCondition_agree (h : List.Forall₂ SameShape as as') (column : Column) (m : Method)
    (patterns : m.takesPattern = true →
      ∀ v, constant v ∈ as ∨ constant v ∈ as' → ∃ text, v = .text text) :
    SameMeaning (callCondition column m as) (callCondition column m as') := by
  cases m with
  | isIn | notIn => exact membershipCondition_agree h column _ _
  | between | notBetween => exact rangeCondition_agree h column _ _
  | isNull | isNotNull => exact nullTestCondition_agree h _ ⟨rfl, rfl, .nil⟩
  | _ => exact likeCondition_agree h column _ _ _ (patterns rfl)

/-- The translation of a predicate, by induction along the two trees. -/
theorem SameShape.toCondition (resolve : Resolver) : ∀ {p p' : Predicate}, p.SameShape p' →
    SameMeaning (p.toCondition resolve) (p'.toCondition resolve)
  | _, _, .compare c left right => compareOperands_agree left right resolve c
  | _, _, .and left right =>
    (left.toCondition resolve).bind fun _ _ hl => (right.toCondition resolve).bind fun _ _ hr =>
      .ok (hl.combine hr .and)
  | _, _, .or left right =>
    (left.toCondition resolve).bind fun _ _ hl => (right.toCondition resolve).bind fun _ _ hr =>
      .ok (hl.combine hr .or)
  | _, _, .not inner => (inner.toCondition resolve).map fun _ _ h => h
  | _, _, .call m target arguments patterns => by
    simp only [Predicate.toCondition, target.column resolve]
    refine (Agree.refl (S := Eq) (fun _ => rfl) _).bind fun column _ heq => ?_
    subst heq
    exact callCondition_agree arguments column m patterns
  | _, _, .member entity property =>
    Agree.refl (fun c => c.corresponds_self fun p _ => Parameter.sameSlot_refl p) _
  | _, _, .constant _ => sameMeaning_refusal _
  | _, _, .values _ => sameMeaning_refusal _
  | _, _, .query _ => sameMeaning_refusal _

end Predicate

/-- Values never reach the text, from statements and from predicates on. -/
theorem rendering_independent_of_values :
    (∀ r r' : RootStatement, r.Corresponds Eq Parameter.SameSlot r' →
      Agree SameRendering r.render r'.render) ∧
    ∀ (resolve : Resolver) (p p' : Predicate) (d : Dialect), p.SameShape p' →
      Agree SameRendering ((p.toCondition resolve).bind (Condition.render d))
        ((p'.toCondition resolve).bind (Condition.render d)) := by
  constructor
  · intro r r' h
    exact h.render_agree
  · intro resolve p p' d h
    exact (h.toCondition resolve).bind fun c c' hc => (hc.document d).render_agree d

/-- A text that looks like SQL changes nothing but the list of parameters. -/
theorem rendering_independent_of_values_quoted :
    let update (v : Value) : RootStatement := .update
      { dialect := .postgres
        table := "t"
        assignments := [.value (.newValue "a" v), .value (.sql "b" "b+1")]
        filter := some (.inQuery "c" true
          { dialect := .oracle
            source := .table "u"
            filter := some (.inValues "c" false [.pending "c" v, .pending "c" .null])
            pagination := .limit 10 5 }) }
    let predicate (s : String) : Predicate :=
      .and (.not (.call .notLikeAll (.member "e" "p") [.constant (.text s)]))
        (.compare (.constant (.text s)) .less (.member "e" "q"))
    let resolve : Resolver := fun _ property => .ok { name := property }
    (∃ x y, (update (.integer 7)).render = .ok x ∧ (update (.text "7' OR 1=1")).render = .ok y ∧
      SameRendering x y ∧ x.2 ≠ y.2) ∧
    ∃ x y, ((predicate "m").toCondition resolve).bind (Condition.render .access) = .ok x ∧
      ((predicate "' OR ''='").toCondition resolve).bind (Condition.render .access) = .ok y ∧
      SameRendering x y ∧ x.2 ≠ y.2 := by
  intro update predicate resolve
  have hupdate : (update (.integer 7)).Corresponds Eq Parameter.SameSlot
      (update (.text "7' OR 1=1")) := by
    refine ⟨rfl, rfl, .cons ⟨rfl, .bound ..⟩ (.cons ⟨rfl, .raw ..⟩ .nil), rfl, rfl, ?_⟩
    exact ⟨rfl, rfl, rfl, trivial, rfl, trivial,
      ⟨rfl, rfl, .cons (.bound ..) (.cons (.bound ..) .nil)⟩, rfl, trivial, trivial, rfl, rfl⟩
  have hpredicate : (predicate "m").SameShape (predicate "' OR ''='") := by
    refine .and (.not (.call _ (.member ..) (.cons (.constant rfl) .nil) fun _ v hv => ?_))
      (.compare _ (.constant rfl) (.member ..))
    simp only [List.mem_singleton, Predicate.constant.injEq] at hv
    rcases hv with rfl | rfl <;> exact ⟨_, rfl⟩
  have statements := rendering_independent_of_values.1 _ _ hupdate
  have conditions := rendering_independent_of_values.2 resolve _ _ .access hpredicate
  exact ⟨⟨_, _, rfl, rfl, statements.of_ok rfl rfl, by decide⟩,
    ⟨_, _, rfl, rfl, conditions.of_ok rfl rfl, by decide⟩⟩

end ParamSql
