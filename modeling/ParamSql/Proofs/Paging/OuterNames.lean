import ParamSql.Proofs.Paging.Plan

/-!
# Sorting by names from outside

A page that is wrapped around its query sorts by the names that the sort keys have outside of it.
Each name is that of a field. It denotes its sort key when every field of that name is written
as the key is; that a field goes by the last segment of the key's name is not enough.
-/

namespace ParamSql

/-- The text of a document, parameters and faults left as they are. -/
def Document.written (d : Dialect) (e : Document) : List (Char ⊕ Piece) :=
  e.flatMap fun
    | .token t => (t.text d).toList.map .inl
    | piece => [.inr piece]

namespace Field

/-- Whether a query around the one of this field knows it by a name. -/
def goesBy (f : Field) (name : String) : Bool :=
  f.outputName?.any (Text.sameIgnoringCase · name)

/-- A column as it is written that is neither renamed nor aggregated. -/
def column? (f : Field) : Option String :=
  match f.newName, f.source, f.aggregate with
  | none, .column (some table) name, none => some (table ++ "." ++ name)
  | none, .column none name, none => some name
  | _, _, _ => none

/-- The table in front of a column, be it given beside its name or within. -/
def qualifier? (f : Field) : Option String :=
  f.column?.bind fun text =>
    match text.toList.reverse.dropWhile (· ≠ '.') with
    | [] => none
    | _ :: table => some (String.ofList table.reverse)

theorem written_of_column? {f : Field} {text : String} (h : f.column? = some text)
    (d : Dialect) : (f.expressionDocument d).written d = text.toList.map .inl := by
  obtain ⟨source, newName, aggregate, distinct⟩ := f
  unfold column? at h
  split at h
  · rename_i table name hnew hsource haggregate
    cases hsource
    cases haggregate
    obtain rfl := Option.some.inj h
    simp [expressionDocument, applyAggregate, FieldSource.document, Document.qualified,
      Document.identifier, Document.written, Token.text, Mark.text]
  · rename_i name hnew hsource haggregate
    cases hsource
    cases haggregate
    obtain rfl := Option.some.inj h
    simp [expressionDocument, applyAggregate, FieldSource.document, Document.qualified,
      Document.identifier, Document.written, Token.text]
  · contradiction

end Field

theorem Clauses.outerName_eq_ok {c : Clauses} {k : OrderClause} {name : String} :
    c.outerName k = .ok name ↔ k.outputName = some name ∧ c.projects name = true := by
  unfold outerName
  cases k.outputName with
  | none => simp
  | some other =>
    dsimp only
    split
    · rename_i hprojects
      simp only [Except.ok.injEq, Option.some.injEq]
      constructor
      · rintro rfl
        exact ⟨rfl, hprojects⟩
      · exact And.left
    · rename_i hprojects
      constructor
      · exact nofun
      · rintro ⟨hname, h⟩
        obtain rfl := Option.some.inj hname
        exact absurd h hprojects

theorem Clauses.exists_outerName {c : Clauses} {keys : List (String × Direction)}
    (h : c.outerKeys = .ok keys) {k : OrderClause} (hk : k ∈ c.order) :
    ∃ name, c.outerName k = .ok name := by
  have named := forall₂_outerKeys h
  clear h
  generalize c.order = order at hk named
  induction named with
  | nil => exact absurd hk List.not_mem_nil
  | cons hkey _ ih =>
    rcases List.mem_cons.1 hk with rfl | hk
    · exact ⟨_, hkey.1⟩
    · exact ih hk

/-- What a database makes of a query when it looks at the text of expressions, and takes a name
from outside for a field that goes by it. -/
structure RowReading.NamesFields {s : Select} {σ ρ : Type*} (r : RowReading s σ ρ) (d : Dialect) :
    Prop where
  text : ∀ e e', e.written d = e'.written d → r.byExpression e = r.byExpression e'
  field : ∀ name, (∃ f ∈ s.fields, f.goesBy name = true) →
    ∃ f ∈ s.fields, f.goesBy name = true ∧
      r.byName name = r.byExpression (f.expressionDocument d)

namespace Select

variable {s : Select} {d : Dialect}

/-- Every field that goes by the name of a sort key is written as the sort key is. -/
def SortsAsNamed (s : Select) (d : Dialect) : Prop :=
  ∀ k ∈ s.order, ∀ name, k.field.outputName? = some name → ∀ f ∈ s.fields,
    f.goesBy name = true →
    (f.expressionDocument d).written d = (k.field.expressionDocument d).written d

/-- No column of a table goes by the name of a sort key that is a column of another table. -/
def SortsByItsColumns (s : Select) : Prop :=
  ∀ k ∈ s.order, ∀ table, k.field.qualifier? = some table →
    ∀ name, k.field.outputName? = some name → ∀ f ∈ s.fields, f.goesBy name = true →
      ∀ other, f.qualifier? = some other → Text.sameIgnoringCase other table = true

theorem SortsAsNamed.sortsByItsColumns (h : s.SortsAsNamed d) : s.SortsByItsColumns := by
  intro k hk table htable name hname f hf hgoes other hother
  obtain ⟨sorted, hsorted, htable⟩ := Option.bind_eq_some_iff.1 htable
  obtain ⟨selected, hselected, hother⟩ := Option.bind_eq_some_iff.1 hother
  have same := h k hk name hname f hf hgoes
  rw [Field.written_of_column? hsorted, Field.written_of_column? hselected] at same
  have htext : selected = sorted :=
    String.toList_inj.1 ((List.map_injective_iff.2 fun _ _ => Sum.inl.inj) same)
  subst htext
  rw [hother] at htable
  obtain rfl := Option.some.inj htable
  exact Text.sameIgnoringCase_refl other

/-- A field of a query without stars that the query around it sees under a name. -/
theorem exists_goesBy_of_projects (hfields : s.fields ≠ [])
    (hstar : ∀ f ∈ s.fields, f.isStar = false) {name : String}
    (h : (s.clauses d).projects name = true) : ∃ f ∈ s.fields, f.goesBy name = true := by
  have some : (s.clauses d).fields.isEmpty = false := by
    simpa [s.clauses_fields d] using hfields
  rw [Clauses.projects, some, Bool.false_or, s.clauses_fields d, List.any_map,
    List.any_eq_true] at h
  obtain ⟨f, hf, hgoes⟩ := h
  rw [Function.comp, hstar f hf, Bool.false_or] at hgoes
  exact ⟨f, hf, hgoes⟩

/-- A database in which only one text tells rows apart, and which takes names for one field as
far as that goes by them. -/
def telling (s : Select) (d : Dialect) (key : Document) (f : Field) : RowReading s Unit Nat :=
  let byExpression (e : Document) (a b : Nat) : Ordering :=
    if e.written d = key.written d then compare a b else .eq
  { source := []
    select := fun _ => []
    byExpression
    byName := fun name =>
      match if f.goesBy name then some f else s.fields.find? (·.goesBy name) with
      | some g => byExpression (g.expressionDocument d)
      | none => fun _ _ => .eq
    byExpression_swap := by
      intro e a b
      simp only [byExpression]
      split
      · exact (Nat.compare_swap a b).symm
      · rfl
    select_nil := fun _ => rfl }

theorem telling_namesFields {key : Document} {f : Field} (hf : f ∈ s.fields) :
    (s.telling d key f).NamesFields d where
  text e e' h := by
    simp only [telling, h]
  field name hname := by
    by_cases hgoes : f.goesBy name = true
    · exact ⟨f, hf, hgoes, by simp [telling, hgoes]⟩
    · obtain ⟨g, hg, hgoes'⟩ := hname
      cases hfind : s.fields.find? (·.goesBy name) with
      | none => exact absurd hgoes' (List.find?_eq_none.1 hfind g hg)
      | some first =>
        have hfirst : first.goesBy name = true :=
          List.find?_some (p := fun g : Field => g.goesBy name) hfind
        exact ⟨first, List.mem_of_find?_eq_some hfind, hfirst,
          by simp [telling, hgoes, hfind]⟩

theorem SortsAsNamed.namesDenote (hfields : s.fields ≠ [])
    (hstar : ∀ f ∈ s.fields, f.isStar = false) (h : s.SortsAsNamed d) {σ ρ : Type*}
    {r : RowReading s σ ρ} (hr : r.NamesFields d) (R : List ρ) : r.NamesDenote d R := by
  intro k hk name hname a _ b _
  rw [s.clauses_order d] at hk
  obtain ⟨key, hkey, rfl⟩ := List.mem_map.1 hk
  obtain ⟨houtput, hprojects⟩ := Clauses.outerName_eq_ok.1 hname
  obtain ⟨f, hf, hgoes, hsame⟩ := hr.field name (exists_goesBy_of_projects hfields hstar hprojects)
  rw [hsame, hr.text _ _ (h key hkey name houtput f hf hgoes)]

/-- If names denote the sort keys in the database that tells rows apart by one key alone, each
field of its name is written as this key. -/
theorem sortsAsNamed_of_namesDenote {keys : List (String × Direction)}
    (hkeys : (s.clauses d).outerKeys = .ok keys)
    (h : ∀ (σ ρ : Type) (r : RowReading s σ ρ), r.NamesFields d → ∀ R, r.NamesDenote d R) :
    s.SortsAsNamed d := by
  intro k hk name hname f hf hgoes
  let clause : OrderClause := ⟨k.field.expressionDocument d, k.field.outputName?, k.direction⟩
  have hclause : clause ∈ (s.clauses d).order := by
    rw [s.clauses_order d]
    exact List.mem_map_of_mem hk
  obtain ⟨outer, houter⟩ := Clauses.exists_outerName hkeys hclause
  obtain rfl : name = outer :=
    Option.some.inj (hname.symm.trans (Clauses.outerName_eq_ok.1 houter).1)
  by_contra hwritten
  have denotes := h Unit Nat (s.telling d clause.expression f) (telling_namesFields hf) [0, 1]
    clause hclause name houter 0 (by simp) 1 (by simp)
  have less : compare 0 1 = Ordering.lt := rfl
  simp [telling, hgoes, hwritten, clause, less] at denotes

/-- A query around this one sorts by names of fields. These names denote the sort keys, whatever
the database makes of the rows, just when every field of such a name is written as the key. -/
theorem outer_names_denote_iff (hfields : s.fields ≠ []) (hstar : ∀ f ∈ s.fields, f.isStar = false)
    {keys : List (String × Direction)} (hkeys : (s.clauses d).outerKeys = .ok keys) :
    (∀ k ∈ s.order, ∃ name, k.field.outputName? = some name ∧
      ∃ f ∈ s.fields, f.goesBy name = true) ∧
    ((∀ (σ ρ : Type) (r : RowReading s σ ρ), r.NamesFields d → ∀ R, r.NamesDenote d R) ↔
      s.SortsAsNamed d) ∧
    (s.SortsAsNamed d → s.SortsByItsColumns) := by
  refine ⟨?_, ⟨sortsAsNamed_of_namesDenote hkeys, ?_⟩, SortsAsNamed.sortsByItsColumns⟩
  · intro k hk
    have hclause : ⟨k.field.expressionDocument d, k.field.outputName?, k.direction⟩ ∈
        (s.clauses d).order := by
      rw [s.clauses_order d]
      exact List.mem_map_of_mem hk
    obtain ⟨name, hname⟩ := Clauses.exists_outerName hkeys hclause
    obtain ⟨houtput, hprojects⟩ := Clauses.outerName_eq_ok.1 hname
    exact ⟨name, houtput, exists_goesBy_of_projects hfields hstar hprojects⟩
  · intro h σ ρ r hr R
    exact h.namesDenote hfields hstar hr R

/-- Two columns of one name: sorted by the one within the query, by the other around it. -/
theorem outer_names_denote_iff_joined :
    let s : Select :=
      { dialect := .access
        source := .table "t"
        fields := [(Field.column "name").withTable "u"]
        joins := [⟨.inner, "t", "id", .table "u", "tid"⟩]
        order := [(OrderKey.ascending "name").withTable "t"]
        pagination := .limit 5 10 }
    ¬∀ (σ ρ : Type) (r : RowReading s σ ρ), r.NamesFields .access → ∀ R,
      r.NamesDenote .access R := by
  intro s h
  have noStar : ∀ f ∈ s.fields, f.isStar = false := by
    intro f hf
    obtain rfl := List.mem_singleton.1 hf
    rfl
  have hkeys : (s.clauses .access).outerKeys = .ok [("name", .ascending)] := by
    simp only [s]
    decide +kernel
  have asNamed := (outer_names_denote_iff (List.cons_ne_nil _ _) noStar hkeys).2.1.1 h
  have written := asNamed _ List.mem_cons_self "name" (by decide +kernel) _ List.mem_cons_self
    (by decide +kernel)
  exact absurd written (by decide +kernel)

/-- The page is rendered all the same: its outer ORDER BY sorts by a column of another table. -/
theorem not_sortsByItsColumns_joined :
    let s : Select :=
      { dialect := .access
        source := .table "t"
        fields := [(Field.column "name").withTable "u"]
        joins := [⟨.inner, "t", "id", .table "u", "tid"⟩]
        order := [(OrderKey.ascending "name").withTable "t"]
        pagination := .limit 5 10 }
    (∃ x, (s.rootDocument (some 100) false).fill {} = .ok x) ∧
      (∀ f ∈ s.fields, f.isStar = false) ∧
      (s.clauses .access).outerKeys = .ok [("name", .ascending)] ∧ ¬s.SortsByItsColumns := by
  intro s
  refine ⟨?_, ?_, ?_, ?_⟩
  · simp only [s]
    exact ⟨_, rfl⟩
  · intro f hf
    obtain rfl := List.mem_singleton.1 hf
    rfl
  · simp only [s]
    decide +kernel
  · intro h
    have same := h _ List.mem_cons_self "t" (by decide +kernel) "name" (by decide +kernel) _
      List.mem_cons_self (by decide +kernel) "u" (by decide +kernel)
    exact absurd same (by decide +kernel)

end Select

end ParamSql
