import ParamSql.Proofs.Condition.Flatness
import ParamSql.Proofs.KeyedList
import ParamSql.Proofs.Paging.Numbers
import ParamSql.Select.Derived
import ParamSql.Select.Filter

/-!
# Building queries

The calls that make a query out of a query, the derived queries among them, and what any
sequence of them leaves behind: a grouping without repetition in the order in which its keys
were given, a pagination with rows, flat conditions, and joined queries that are numbered as
they were added.
-/

namespace ParamSql

/-- Pages have rows and are counted from one. -/
def Pagination.Valid : Pagination → Prop
  | unbounded => True
  | top size | limit _ size => 1 ≤ size.toNat
  | page size index | pageWithCount size index _ => 1 ≤ size.toNat ∧ 1 ≤ index.toNat

theorem joinName_injective {a b : UInt32} (h : joinName a = joinName b) : a = b := by
  have digits (n : UInt32) : (joinName n).toList.drop 3 = Nat.toDigits 10 n.toNat := by
    simp [joinName]
  have same : Nat.toDigits 10 a.toNat = Nat.toDigits 10 b.toNat := by
    rw [← digits, ← digits, h]
  have value := congrArg (Nat.ofDigitChars 10 · 0) same
  simp only [Nat.ofDigitChars_ten_toDigits] at value
  exact UInt32.toNat_inj.1 value

theorem Select.groupBy_eq (s : Select) (key : GroupKey) :
    s.groupBy key = { s with grouping := (s.groupBy key).grouping } := by
  cases s
  unfold groupBy
  split
  · rfl
  · rfl

/-- A builder of queries with its arguments, or a query derived from the one at hand. -/
inductive SelectCall
  | named (name : String)
  | addFields (fields : List Field)
  | addField (field : Field)
  | addColumns (names : List String)
  | addColumn (name : String)
  | onlyDistinct
  | addJoin (added : Join)
  | join (kind : JoinKind) (currentField otherTable otherField : String)
  | joinFrom (kind : JoinKind) (currentTable currentField otherTable otherField : String)
  | joinQuery (kind : JoinKind) (currentField : String) (inner : Select) (otherField : String)
  | andWhere (c : Option Condition)
  | orWhere (c : Option Condition)
  | wherePredicate (resolve : Resolver) (p : Predicate)
  | groupBy (key : GroupKey)
  | andHaving (c : Option Condition)
  | orderBy (key : OrderKey)
  | paged (call : PageCall)
  | unbounded
  | countQuery
  | maxQuery (column : String)
  | minQuery (column : String)
  | firstRowQuery

namespace SelectCall

def apply (s : Select) : SelectCall → Except Error Select
  | named name => .ok (s.named name)
  | addFields fields => .ok (s.addFields fields)
  | addField field => .ok (s.addField field)
  | addColumns names => .ok (s.addColumns names)
  | addColumn name => .ok (s.addColumn name)
  | onlyDistinct => .ok s.onlyDistinct
  | addJoin added => .ok (s.addJoin added)
  | join kind currentField otherTable otherField =>
    .ok (s.join kind currentField otherTable otherField)
  | joinFrom kind currentTable currentField otherTable otherField =>
    .ok (s.joinFrom kind currentTable currentField otherTable otherField)
  | joinQuery kind currentField inner otherField =>
    .ok (s.joinQuery kind currentField inner otherField)
  | andWhere c => .ok (s.andWhere c)
  | orWhere c => .ok (s.orWhere c)
  | wherePredicate resolve p => s.wherePredicate resolve p
  | groupBy key => .ok (s.groupBy key)
  | andHaving c => .ok (s.andHaving c)
  | orderBy key => .ok (s.orderBy key)
  | paged call => call.apply s
  | unbounded => .ok s.unbounded
  | countQuery => .ok s.countQuery
  | maxQuery column => .ok (s.maxQuery column)
  | minQuery column => .ok (s.minQuery column)
  | firstRowQuery => .ok s.firstRowQuery

/-- Conditions that are given are composed by connectives. -/
def Proper : SelectCall → Prop
  | andWhere c | orWhere c | andHaving c => ∀ e ∈ c, e.Composed
  | _ => True

/-- Whether a call puts a query into a new one. -/
def wraps (s : Select) : SelectCall → Bool
  | countQuery => decide (s.distinct = true ∨ s.grouping ≠ [])
  | _ => false

/-- Calls that neither group nor join a query nor wrap the query at hand. -/
def Plain : SelectCall → Prop
  | groupBy _ | joinQuery .. | countQuery => False
  | _ => True

def keys : SelectCall → List GroupKey
  | groupBy key => [key]
  | _ => []

/-- The join that a call on a query asks for with another query. -/
def joinedQueries (s : Select) : SelectCall → List Join
  | joinQuery kind currentField inner otherField =>
    [⟨kind, s.sourceName?.getD "", currentField, .query inner s.nextJoin, otherField⟩]
  | _ => []

end SelectCall

/-- A query after a sequence of calls; the first that fails ends it. -/
def Select.run (s : Select) : List SelectCall → Except Error Select
  | [] => .ok s
  | call :: calls => (call.apply s).bind fun s => s.run calls

/-- A query with what it has been given since it was created: keys to group by, and joins of
queries. -/
structure Build where
  query : Select
  keys : List GroupKey := []
  joined : List Join := []

namespace Build

/-- A query that is put into a new one starts over. -/
def apply (b : Build) (call : SelectCall) : Except Error Build :=
  (call.apply b.query).map fun s =>
    if call.wraps b.query then { query := s }
    else
      { query := s
        keys := b.keys ++ call.keys
        joined := b.joined ++ call.joinedQueries b.query }

def run (b : Build) : List SelectCall → Except Error Build
  | [] => .ok b
  | call :: calls => (b.apply call).bind fun b => b.run calls

/-- All that a call can do. -/
inductive Effect (b : Build) : Build → Prop
  | dressed (sourceAlias : Option String) (fields : List Field) (distinct : Bool)
    (order : List OrderKey) : Effect b
      { b with query := { b.query with sourceAlias, fields, distinct, order } }
  | derived (fields : List Field) (distinct : Bool) (order : List OrderKey)
    {pagination : Pagination} (h : pagination.Valid) : Effect b
      { b with query := { b.query with fields, distinct, order, pagination } }
  | joined (added : Join) : Effect b
      { b with query := { b.query with joins := b.query.joins ++ [added] } }
  | joinedQuery {added : Join} {inner : Select} (h : added.target = .query inner b.query.nextJoin) :
    Effect b
      { b with
        query := { b.query with
          joins := b.query.joins ++ [added]
          nextJoin := b.query.nextJoin + 1 }
        joined := b.joined ++ [added] }
  | filtered (conjunction : Conjunction) {c : Option Condition} (h : ∀ e ∈ c, e.Flat) : Effect b
      { b with query := { b.query with
          filter := Condition.combineOptional conjunction b.query.filter c } }
  | groupsFiltered {c : Option Condition} (h : ∀ e ∈ c, e.Flat) : Effect b
      { b with query := { b.query with
          having := Condition.andOptional b.query.having c } }
  | grouped (key : GroupKey) : Effect b
      { b with query := b.query.groupBy key, keys := b.keys ++ [key] }
  | wrapped (d : Dialect) (inner : Select) (name : String) (field : Field) : Effect b
      { query := ((Select.ofQuery d inner).named name).addField field }

section

variable {b b' : Build} {call : SelectCall}

theorem eq_of_apply (h : b.apply call = .ok b') (hwraps : call.wraps b.query = false) :
    ∃ s, call.apply b.query = .ok s ∧
      b' = { query := s
             keys := b.keys ++ call.keys
             joined := b.joined ++ call.joinedQueries b.query } := by
  obtain ⟨s, hs, heq⟩ := ok_of_map h
  rw [hwraps] at heq
  exact ⟨s, hs, heq.symm⟩

theorem eq_of_plain (h : b.apply call = .ok b') (hplain : call.Plain) {s : Select}
    (hs : call.apply b.query = .ok s) : b' = { b with query := s } := by
  have unwrapped : call.wraps b.query = false := by
    cases call with
    | countQuery => exact hplain.elim
    | _ => rfl
  obtain ⟨s', hs', rfl⟩ := eq_of_apply h unwrapped
  obtain rfl : s' = s := Except.ok.inj (hs'.symm.trans hs)
  cases call with
  | groupBy key => exact hplain.elim
  | joinQuery => exact hplain.elim
  | _ => simp only [SelectCall.keys, SelectCall.joinedQueries, List.append_nil]

theorem effect_of_countQuery (h : b.apply .countQuery = .ok b') : b.Effect b' := by
  by_cases hwraps : b.query.distinct = true ∨ b.query.grouping ≠ []
  · obtain ⟨s, hs, rfl⟩ := ok_of_map h
    obtain rfl : b.query.countQuery = s := Except.ok.inj hs
    have wraps : SelectCall.countQuery.wraps b.query = true := decide_eq_true hwraps
    rw [if_pos wraps, Select.countQuery, if_pos hwraps]
    exact .wrapped _ _ _ _
  · obtain ⟨s, hs, rfl⟩ := eq_of_apply h (decide_eq_false hwraps)
    obtain rfl : b.query.countQuery = s := Except.ok.inj hs
    simp only [SelectCall.keys, SelectCall.joinedQueries, List.append_nil]
    rw [Select.countQuery, if_neg hwraps]
    exact .derived _ _ _ trivial

theorem effect_of_joinQuery {kind : JoinKind} {currentField otherField : String}
    {inner : Select} (h : b.apply (.joinQuery kind currentField inner otherField) = .ok b') :
    b.Effect b' := by
  obtain ⟨s, hs, rfl⟩ := eq_of_apply h rfl
  obtain rfl : b.query.joinQuery kind currentField inner otherField = s := Except.ok.inj hs
  simp only [SelectCall.keys, SelectCall.joinedQueries, List.append_nil]
  exact .joinedQuery rfl

theorem effect_of_groupBy {key : GroupKey} (h : b.apply (.groupBy key) = .ok b') :
    b.Effect b' := by
  obtain ⟨s, hs, rfl⟩ := eq_of_apply h rfl
  obtain rfl : b.query.groupBy key = s := Except.ok.inj hs
  simp only [SelectCall.keys, SelectCall.joinedQueries, List.append_nil]
  exact .grouped key

theorem valid_of_accepted {call : PageCall} (h : call.Accepted) : call.pagination.Valid := by
  have positive {n : UInt64} (hn : n ≠ 0) : 1 ≤ n.toNat := by
    by_contra hlt
    exact hn (UInt64.toNat_inj.1 (by simp only [UInt64.toNat_zero]; omega))
  cases call with
  | top size => exact positive h
  | limit offset size => exact positive h
  | page size index => exact ⟨positive h.1, positive h.2⟩
  | pageWithCount size index recordCount => exact ⟨positive h.1, positive h.2⟩

theorem effect_of_apply (hcall : call.Proper) (h : b.apply call = .ok b') : b.Effect b' := by
  have flat {c : Option Condition} (hc : ∀ e ∈ c, e.Composed) : ∀ e ∈ c, e.Flat :=
    fun e he => (hc e he).flat
  cases call with
  | groupBy key => exact effect_of_groupBy h
  | joinQuery kind currentField inner otherField => exact effect_of_joinQuery h
  | countQuery => exact effect_of_countQuery h
  | andWhere c =>
    rw [eq_of_plain h trivial rfl]
    exact .filtered .and (flat hcall)
  | orWhere c =>
    rw [eq_of_plain h trivial rfl]
    exact .filtered .or (flat hcall)
  | wherePredicate resolve p =>
    obtain ⟨s, hs, -⟩ := ok_of_map h
    obtain ⟨c, hc, rfl⟩ := ok_of_map hs
    rw [eq_of_plain h trivial hs]
    have translated : ∀ e ∈ some c, e.Composed := by
      intro e he
      obtain rfl := Option.some.inj he
      exact .translated hc
    exact .filtered .and (flat translated)
  | andHaving c =>
    rw [eq_of_plain h trivial rfl]
    exact .groupsFiltered (flat hcall)
  | paged call =>
    obtain ⟨s, hs, -⟩ := ok_of_map h
    obtain ⟨accepted, rfl⟩ := PageCall.apply_eq_ok hs
    rw [eq_of_plain h trivial hs]
    exact .derived _ _ _ (valid_of_accepted accepted)
  | unbounded =>
    rw [eq_of_plain h trivial rfl]
    exact .derived _ _ _ trivial
  | firstRowQuery =>
    rw [eq_of_plain h trivial rfl]
    exact .derived _ _ _ (Nat.le_refl 1)
  | maxQuery column =>
    rw [eq_of_plain h trivial rfl]
    exact .derived _ _ _ trivial
  | minQuery column =>
    rw [eq_of_plain h trivial rfl]
    exact .derived _ _ _ trivial
  | addJoin added =>
    rw [eq_of_plain h trivial rfl]
    exact .joined _
  | join kind currentField otherTable otherField =>
    rw [eq_of_plain h trivial rfl]
    exact .joined _
  | joinFrom kind currentTable currentField otherTable otherField =>
    rw [eq_of_plain h trivial rfl]
    exact .joined _
  | _ =>
    rw [eq_of_plain h trivial rfl]
    exact .dressed _ _ _ _

end

/-- What holds of a query and the record of what it has been given, whatever the calls were. -/
structure Sound (b : Build) : Prop where
  grouping : b.query.grouping = b.keys.eraseDups
  nodup : b.query.grouping.Nodup
  pagination : b.query.pagination.Valid
  filter : ∀ c ∈ b.query.filter, c.Flat
  having : ∀ c ∈ b.query.having, c.Flat
  sublist : b.joined.Sublist b.query.joins
  numbered : ∀ (k : Nat) (added : Join), b.joined[k]? = some added →
    ∃ inner, added.target = .query inner (UInt32.ofNat k)
  next : b.query.nextJoin = UInt32.ofNat b.joined.length

theorem sound_ofTable (d : Dialect) (table : String) : Sound { query := .ofTable d table } where
  grouping := rfl
  nodup := List.nodup_nil
  pagination := trivial
  filter := nofun
  having := nofun
  sublist := .refl []
  numbered := nofun
  next := rfl

theorem sound_ofQuery (d : Dialect) (inner : Select) : Sound { query := .ofQuery d inner } where
  grouping := rfl
  nodup := List.nodup_nil
  pagination := trivial
  filter := nofun
  having := nofun
  sublist := .refl []
  numbered := nofun
  next := rfl

section

variable {b b' : Build}

theorem grouping_groupBy (h : b.query.grouping = b.keys.eraseDups)
    (hnodup : b.query.grouping.Nodup) (key : GroupKey) :
    (b.query.groupBy key).grouping = (b.keys ++ [key]).eraseDups ∧
      (b.query.groupBy key).grouping.Nodup := by
  have known : key ∈ b.query.grouping ↔ key ∈ b.keys := by
    rw [h]
    exact List.mem_eraseDups
  rw [eraseDups_append_singleton, ← h]
  by_cases hkey : key ∈ b.query.grouping
  · rw [Select.groupBy, if_pos hkey, if_pos (known.1 hkey)]
    exact ⟨rfl, hnodup⟩
  · rw [Select.groupBy, if_neg hkey, if_neg (known.not.1 hkey), ← List.concat_eq_append]
    exact ⟨rfl, hnodup.concat hkey⟩

theorem numbered_append (h : ∀ (k : Nat) (added : Join), b.joined[k]? = some added →
      ∃ inner, added.target = .query inner (UInt32.ofNat k))
    (hnext : b.query.nextJoin = UInt32.ofNat b.joined.length) {added : Join} {inner : Select}
    (hadded : added.target = .query inner b.query.nextJoin) (k : Nat) (other : Join)
    (hother : (b.joined ++ [added])[k]? = some other) :
    ∃ inner, other.target = .query inner (UInt32.ofNat k) := by
  rcases Nat.lt_or_ge k b.joined.length with hlt | hge
  · rw [List.getElem?_append_left hlt] at hother
    exact h k other hother
  · rw [List.getElem?_append_right hge] at hother
    obtain ⟨hk, heq⟩ := List.getElem?_eq_some_iff.1 hother
    rw [List.length_singleton] at hk
    obtain rfl : k = b.joined.length := by omega
    rw [List.getElem_singleton] at heq
    rw [← heq, hadded, hnext]
    exact ⟨inner, rfl⟩

theorem Sound.dressed (h : b.Sound) (sourceAlias : Option String) (fields : List Field)
    (distinct : Bool) (order : List OrderKey) :
    Sound { b with query := { b.query with sourceAlias, fields, distinct, order } } :=
  ⟨h.grouping, h.nodup, h.pagination, h.filter, h.having, h.sublist, h.numbered, h.next⟩

/-- One call keeps all of it. -/
theorem Sound.effect (h : b.Sound) (he : b.Effect b') : b'.Sound := by
  obtain ⟨grouping, nodup, pagination, filter, having, sublist, numbered, next⟩ := id h
  cases he with
  | dressed sourceAlias fields distinct order => exact h.dressed sourceAlias fields distinct order
  | derived fields distinct order valid =>
    exact ⟨grouping, nodup, valid, filter, having, sublist, numbered, next⟩
  | joined added =>
    exact ⟨grouping, nodup, pagination, filter, having,
      sublist.trans (List.sublist_append_left _ _), numbered, next⟩
  | joinedQuery hadded =>
    refine ⟨grouping, nodup, pagination, filter, having, sublist.append (.refl _), ?_, ?_⟩
    · exact numbered_append numbered next hadded
    · simp only [next, List.length_append, List.length_singleton, UInt32.ofNat_add]
      rfl
  | filtered conjunction hc =>
    exact ⟨grouping, nodup, pagination, Condition.flat_combineOptional filter hc conjunction,
      having, sublist, numbered, next⟩
  | groupsFiltered hc =>
    exact ⟨grouping, nodup, pagination, filter, Condition.flat_combineOptional having hc .and,
      sublist, numbered, next⟩
  | grouped key =>
    obtain ⟨inOrder, once⟩ := grouping_groupBy grouping nodup key
    rw [Select.groupBy_eq]
    exact ⟨inOrder, once, pagination, filter, having, sublist, numbered, next⟩
  | wrapped d inner name field =>
    -- the new query has been given nothing yet, whatever was recorded before
    exact (sound_ofQuery d inner).dressed (some name) [field] false []

/-- By induction along the calls, a run keeps all of it. -/
theorem Sound.run {calls : List SelectCall} (h : b.Sound) (hcalls : ∀ call ∈ calls, call.Proper)
    (hrun : b.run calls = .ok b') : b'.Sound := by
  induction calls generalizing b with
  | nil =>
    obtain rfl : b = b' := Except.ok.inj hrun
    exact h
  | cons call calls ih =>
    obtain ⟨b₁, hcall, hrest⟩ := ok_of_bind hrun
    have first : b₁.Sound := h.effect (effect_of_apply (hcalls call List.mem_cons_self) hcall)
    exact ih first (fun call hmem => hcalls call (List.mem_cons_of_mem _ hmem)) hrest

/-- A run of calls can be recorded, and its query is the one that the calls make. -/
theorem run_of_select {calls : List SelectCall} {s : Select} (h : b.query.run calls = .ok s) :
    ∃ b', b.run calls = .ok b' ∧ b'.query = s := by
  induction calls generalizing b with
  | nil =>
    obtain rfl : b.query = s := Except.ok.inj h
    exact ⟨b, rfl, rfl⟩
  | cons call calls ih =>
    obtain ⟨s₁, hcall, hrest⟩ := ok_of_bind h
    have recorded : ∃ b₁, b.apply call = .ok b₁ ∧ b₁.query = s₁ := by
      rw [Build.apply, hcall]
      refine ⟨_, rfl, ?_⟩
      split
      · rfl
      · rfl
    obtain ⟨b₁, hb₁, rfl⟩ := recorded
    obtain ⟨b', hb', hquery⟩ := ih hrest
    refine ⟨b', ?_, hquery⟩
    rw [Build.run, hb₁]
    exact hb'

theorem Sound.nodup_names (h : b.Sound) (hcount : b.joined.length ≤ 4294967296) :
    (b.joined.map fun added => added.target.name).Nodup := by
  have names : (b.joined.map fun added => added.target.name) =
      (List.range b.joined.length).map fun k => joinName (UInt32.ofNat k) := by
    refine List.ext_getElem (by simp) fun k hk _ => ?_
    rw [List.length_map] at hk
    obtain ⟨inner, htarget⟩ := h.numbered k _ (List.getElem?_eq_getElem hk)
    rw [List.getElem_map, List.getElem_map, List.getElem_range, htarget]
    rfl
  rw [names]
  -- so far no number has come up again, and a number is the place of its join
  refine List.Nodup.map_on (fun k hk l hl hname => ?_) List.nodup_range
  have hk := List.mem_range.1 hk
  have hl := List.mem_range.1 hl
  have number := congrArg UInt32.toNat (joinName_injective hname)
  rw [UInt32.toNat_ofNat', UInt32.toNat_ofNat', Nat.mod_eq_of_lt (by omega),
    Nat.mod_eq_of_lt (by omega)] at number
  exact number

end

end Build

/-- What any sequence of calls leaves of a new query. Its keys to group by are those given to it
since it was created, each where it came first; its pages have rows and are counted from one;
a list in its filters is flat and not written as empty brackets; and the queries joined to it
since it was created are numbered in turn, with names of their own while the numbers last. -/
theorem built_query_invariants {s : Select}
    (hs : (∃ d table, s = .ofTable d table) ∨ ∃ d inner, s = .ofQuery d inner)
    {calls : List SelectCall} (hcalls : ∀ call ∈ calls, call.Proper) {t : Select}
    (h : s.run calls = .ok t) :
    ∃ b : Build, Build.run { query := s } calls = .ok b ∧ b.query = t ∧
      (t.grouping.Nodup ∧ t.grouping = b.keys.eraseDups) ∧
      t.pagination.Valid ∧
      (∀ c, t.filter = some c ∨ t.having = some c → ∀ conjunction members,
        Condition.Within (.list conjunction members) c →
          Condition.Members conjunction members ∧
            ∀ (d : Dialect) (binder binder' : Binder) (tokens : List Token),
              ((Condition.list conjunction members).document d).fill binder =
                .ok (tokens, binder') → Token.textOf d tokens ≠ "()") ∧
      b.joined.Sublist t.joins ∧
      (∀ (k : Nat) (added : Join), b.joined[k]? = some added → ∃ inner number,
        added.target = .query inner number ∧ number.toNat = k % 4294967296) ∧
      (b.joined.length < 4294967296 → (b.joined.map fun added => added.target.name).Nodup) := by
  have start : Build.Sound { query := s } := by
    rcases hs with ⟨d, table, rfl⟩ | ⟨d, inner, rfl⟩
    · exact Build.sound_ofTable d table
    · exact Build.sound_ofQuery d inner
  obtain ⟨b, hrun, rfl⟩ := Build.run_of_select (b := { query := s }) h
  have sound : b.Sound := start.run hcalls hrun
  refine ⟨b, hrun, rfl, ⟨sound.nodup, sound.grouping⟩, sound.pagination, ?_, sound.sublist, ?_, ?_⟩
  · intro c hc conjunction members hlist
    have flat : c.Flat := by
      rcases hc with hc | hc
      · exact sound.filter c hc
      · exact sound.having c hc
    have written := flat conjunction members hlist
    exact ⟨written, fun d binder binder' tokens hfill => written.text_ne hfill⟩
  · intro k added hadded
    obtain ⟨inner, htarget⟩ := sound.numbered k added hadded
    exact ⟨inner, _, htarget, UInt32.toNat_ofNat'⟩
  · intro hcount
    exact sound.nodup_names hcount.le

/-- A grouped query with a joined query, counted from outside; the new query is joined to two
others, grouped by one key twice and filtered by three conditions. -/
theorem built_query_invariants_counted :
    let other := Select.ofTable .postgres "u"
    let a := Condition.equal "a" (.integer 1)
    let b := Condition.equal "b" (.integer 2)
    let calls : List SelectCall :=
      [.groupBy (.ofColumn "z"), .joinQuery .inner "id" other "t", .countQuery,
        .joinQuery .left "id" other "t", .groupBy (.ofColumn "y"), .groupBy (.ofColumn "x"),
        .groupBy (.ofColumn "y"), .joinQuery .left "id" other "t", .andWhere (some (a.or b)),
        .orWhere (some a.not), .firstRowQuery]
    ∃ t, (Select.ofTable .postgres "t").run calls = .ok t ∧
      t.grouping = [.ofColumn "y", .ofColumn "x"] ∧
      t.filter = some (.list .or [a, b, .not a]) ∧ Condition.Members .or [a, b, .not a] ∧
      (t.joins.map fun added => added.target.name) = ["JT_0", "JT_1"] := by
  intro other a b calls
  have proper : ∀ call ∈ calls, call.Proper := by
    have either : (a.or b).Composed := .combine .or (.single trivial) (.single trivial)
    have negated : (Condition.not a).Composed := .not (.single trivial)
    intro call hcall
    cases call with
    | andWhere c =>
      obtain rfl : c = some (a.or b) := by simpa [calls] using hcall
      exact fun e he => Option.some.inj he ▸ either
    | orWhere c =>
      obtain rfl : c = some a.not := by simpa [calls] using hcall
      exact fun e he => Option.some.inj he ▸ negated
    | andHaving c => simp [calls] at hcall
    | _ => trivial
  have run : ∃ t, (Select.ofTable .postgres "t").run calls = .ok t ∧
      t.grouping = [.ofColumn "y", .ofColumn "x"] ∧
      t.filter = some (.list .or [a, b, .not a]) ∧ t.joins.length = 2 := ⟨_, rfl, rfl, rfl, rfl⟩
  obtain ⟨t, ht, hgrouping, hfilter, hlength⟩ := run
  obtain ⟨built, hbuilt, rfl, -, -, lists, joins, numbered, -⟩ :=
    built_query_invariants (.inl ⟨_, _, rfl⟩) proper ht
  have count : (Build.run { query := .ofTable .postgres "t" } calls).map (·.joined.length) =
      .ok 2 := by
    decide +kernel
  rw [hbuilt] at count
  have recorded : built.joined.length = 2 := Except.ok.inj count
  have same : built.joined = built.query.joins :=
    joins.eq_of_length (recorded.trans hlength.symm)
  refine ⟨built.query, ht, hgrouping, hfilter, ?_, ?_⟩
  · exact (lists _ (.inl hfilter) _ _ .self).1
  · rw [← same]
    match built.joined, recorded, numbered with
    | [first, second], _, numbered =>
      obtain ⟨_, n, hfirst, hn⟩ := numbered 0 first rfl
      obtain ⟨_, m, hsecond, hm⟩ := numbered 1 second rfl
      obtain rfl : n = 0 := UInt32.toNat_inj.1 hn
      obtain rfl : m = 1 := UInt32.toNat_inj.1 hm
      rw [List.map_cons, List.map_singleton, hfirst, hsecond]
      change [joinName 0, joinName 1] = _
      decide +kernel

end ParamSql
