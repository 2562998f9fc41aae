import ParamSql.Proofs.Query.Correspondence
import ParamSql.Query.Equality

/-!
# Equal queries correspond

Equality of queries and of conditions, as it is computed, says that the two are of one shape and
that their parameters are equal one by one.
-/

namespace ParamSql

/-- Parameters that are equal up to the name and the storage type. -/
def Parameter.Same (p q : Parameter) : Prop := p.same q = true

theorem forall₂_of_sameParameters {ps qs : List Parameter} (h : sameParameters ps qs = true) :
    List.Forall₂ Parameter.Same ps qs := by
  induction ps generalizing qs with
  | nil =>
    cases qs with
    | nil => exact .nil
    | cons q qs => exact nomatch h
  | cons p ps ih =>
    cases qs with
    | nil => exact nomatch h
    | cons q qs =>
      obtain ⟨hhead, htail⟩ := Bool.and_eq_true_iff.1 h
      exact .cons hhead (ih htail)

mutual

theorem Select.corresponds_of_same :
    ∀ s t : Select, s.same t = true → s.Corresponds Eq Parameter.Same t
  | ⟨_, source, _, fields, _, joins, filter, _, having, order, _, _⟩,
    ⟨_, source', _, fields', _, joins', filter', _, having', order', _, _⟩, h => by
    simp only [Select.same, Bool.and_eq_true, beq_iff_eq] at h
    obtain ⟨⟨⟨⟨⟨⟨⟨⟨⟨⟨⟨hdialect, hsource⟩, hname⟩, hfields⟩, hdistinct⟩, hjoins⟩, hfilter⟩,
      hgrouping⟩, hhaving⟩, horder⟩, hpagination⟩, hnext⟩ := h
    exact ⟨hdialect, source.corresponds_of_same source' hsource, hname,
      fieldsCorrespond_of_same fields fields' hfields, hdistinct,
      joinsCorrespond_of_same joins joins' hjoins,
      optionalCorrespond_of_same filter filter' hfilter, hgrouping,
      optionalCorrespond_of_same having having' hhaving,
      orderCorresponds_of_same order order' horder, hpagination, hnext⟩
termination_by structural s => s

theorem Source.corresponds_of_same :
    ∀ s t : Source, s.same t = true → s.Corresponds Eq Parameter.Same t
  | .table _, .table _, h => beq_iff_eq.1 h
  | .query q, .query q', h => q.corresponds_of_same q' h
termination_by structural s => s

theorem FieldSource.corresponds_of_same :
    ∀ s t : FieldSource, s.same t = true → s.Corresponds Eq Parameter.Same t
  | .column _ _, .column _ _, h => by
    simp only [FieldSource.same, Bool.and_eq_true, beq_iff_eq] at h
    exact h
  | .all _, .all _, h => beq_iff_eq.1 h
  | .expression _, .expression _, h => beq_iff_eq.1 h
  | .query q, .query q', h => q.corresponds_of_same q' h
termination_by structural s => s

theorem Field.corresponds_of_same :
    ∀ f g : Field, f.same g = true → f.Corresponds Eq Parameter.Same g
  | ⟨source, _, _, _⟩, ⟨source', _, _, _⟩, h => by
    simp only [Field.same, Bool.and_eq_true, beq_iff_eq] at h
    obtain ⟨⟨⟨hsource, hname⟩, haggregate⟩, hdistinct⟩ := h
    exact ⟨source.corresponds_of_same source' hsource, hname, haggregate, hdistinct⟩
termination_by structural f => f

theorem JoinTarget.corresponds_of_same :
    ∀ t u : JoinTarget, t.same u = true → t.Corresponds Eq Parameter.Same u
  | .table _, .table _, h => beq_iff_eq.1 h
  | .query q _, .query q' _, h => by
    simp only [JoinTarget.same, Bool.and_eq_true, beq_iff_eq] at h
    exact ⟨q.corresponds_of_same q' h.1, h.2⟩
termination_by structural t => t

theorem Join.corresponds_of_same :
    ∀ i j : Join, i.same j = true → i.Corresponds Eq Parameter.Same j
  | ⟨_, _, _, target, _⟩, ⟨_, _, _, target', _⟩, h => by
    simp only [Join.same, Bool.and_eq_true, beq_iff_eq] at h
    obtain ⟨⟨⟨⟨hkind, htable⟩, hfield⟩, htarget⟩, hother⟩ := h
    exact ⟨hkind, htable, hfield, target.corresponds_of_same target' htarget, hother⟩
termination_by structural i => i

theorem Condition.corresponds_of_same :
    ∀ c e : Condition, c.same e = true → c.Corresponds Eq Parameter.Same e
  | .basic _ _ _, .basic _ _ _, h => by
    simp only [Condition.same, Bool.and_eq_true, beq_iff_eq] at h
    exact ⟨h.1.1, h.1.2, forall₂_of_sameParameters h.2⟩
  | .columns _ _ _, .columns _ _ _, h => by
    simp only [Condition.same, Bool.and_eq_true, beq_iff_eq] at h
    exact ⟨h.1.1, h.1.2, h.2⟩
  | .inValues _ _ _, .inValues _ _ _, h => by
    simp only [Condition.same, Bool.and_eq_true, beq_iff_eq] at h
    exact ⟨h.1.1, h.1.2, forall₂_of_sameParameters h.2⟩
  | .inQuery _ _ q, .inQuery _ _ q', h => by
    simp only [Condition.same, Bool.and_eq_true, beq_iff_eq] at h
    exact ⟨h.1.1, h.1.2, q.corresponds_of_same q' h.2⟩
  | .not c, .not c', h => c.corresponds_of_same c' h
  | .list _ cs, .list _ cs', h => by
    simp only [Condition.same, Bool.and_eq_true, beq_iff_eq] at h
    exact ⟨h.1, conditionsCorrespond_of_same cs cs' h.2⟩
termination_by structural c => c

theorem optionalCorrespond_of_same :
    ∀ c e : Option Condition, sameOptional c e = true → OptionalCorrespond Eq Parameter.Same c e
  | none, none, _ => trivial
  | some c, some c', h => c.corresponds_of_same c' h
termination_by structural c => c

theorem fieldsCorrespond_of_same :
    ∀ fs gs : List Field, sameFields fs gs = true → FieldsCorrespond Eq Parameter.Same fs gs
  | [], [], _ => trivial
  | f :: fs, g :: gs, h => by
    obtain ⟨hhead, htail⟩ := Bool.and_eq_true_iff.1 h
    exact ⟨f.corresponds_of_same g hhead, fieldsCorrespond_of_same fs gs htail⟩
termination_by structural fs => fs

theorem orderCorresponds_of_same :
    ∀ ks ls : List OrderKey, sameOrder ks ls = true → OrderCorresponds Eq Parameter.Same ks ls
  | [], [], _ => trivial
  | ⟨f, _⟩ :: ks, ⟨g, _⟩ :: ls, h => by
    simp only [sameOrder, OrderKey.same, Bool.and_eq_true, beq_iff_eq] at h
    exact ⟨⟨f.corresponds_of_same g h.1.1, h.1.2⟩, orderCorresponds_of_same ks ls h.2⟩
termination_by structural ks => ks

theorem joinsCorrespond_of_same :
    ∀ is js : List Join, sameJoins is js = true → JoinsCorrespond Eq Parameter.Same is js
  | [], [], _ => trivial
  | i :: is, j :: js, h => by
    obtain ⟨hhead, htail⟩ := Bool.and_eq_true_iff.1 h
    exact ⟨i.corresponds_of_same j hhead, joinsCorrespond_of_same is js htail⟩
termination_by structural is => is

theorem conditionsCorrespond_of_same :
    ∀ cs es : List Condition, sameConditions cs es = true →
      ConditionsCorrespond Eq Parameter.Same cs es
  | [], [], _ => trivial
  | c :: cs, e :: es, h => by
    obtain ⟨hhead, htail⟩ := Bool.and_eq_true_iff.1 h
    exact ⟨c.corresponds_of_same e hhead, conditionsCorrespond_of_same cs es htail⟩
termination_by structural cs => cs

end

end ParamSql
