import ParamSql.Proofs.Binding.Uniqueness
import ParamSql.Proofs.Paging.Success
import ParamSql.Proofs.Statement.Assignments
import ParamSql.Timestamp.Layout

/-!
# Rendered assignments

An insertion lists the columns that are assigned and then their values, an update each column with
its value. A value is a placeholder named after its column, SQL text, or a query in parentheses,
whatever was assigned to the column before.
-/

namespace ParamSql

open Document

namespace Token

/-- The name in a placeholder that stands alone. -/
def soleName? : List Token → Option String
  | [placeholder name] => some name
  | _ => none

theorem placeholders_intercalate {separator : List Token} (h : placeholders separator = [])
    (parts : List (List Token)) :
    placeholders (separator.intercalate parts) = parts.flatMap placeholders := by
  induction parts with
  | nil => rfl
  | cons part parts ih =>
    cases parts with
    | nil => rw [List.intercalate_singleton, List.flatMap_singleton]
    | cons next parts =>
      rw [List.intercalate_cons_cons, placeholders_append, placeholders_append, ih, h,
        List.append_nil, ← List.flatMap_cons]

end Token

theorem Document.placeholders_of_isConstant {tokens : List Token}
    (h : (ofTokens tokens).isConstant = true) : Token.placeholders tokens = [] := by
  obtain ⟨-, -, hnames⟩ :=
    fill_spec (Related.refl_of_isConstant (R := Eq) h).unfilled (fill_ofTokens tokens {})
  rw [holes_of_isConstant h] at hnames
  exact List.map_eq_nil_iff.1 hnames

namespace Binder

/-- Names recorded are all different when those from the start are. -/
theorem nodup_names_recorded {n : Nat} {ps : List Parameter} (h : ∀ p ∈ ps, p.Unindexed)
    (hnames : (ps.filterMap Parameter.name?).Nodup) :
    ((recorded n ps).map Parameter.name?).Nodup := by
  induction ps generalizing n with
  | nil => exact List.nodup_nil
  | cons r ps ih =>
    have hps : ∀ p ∈ ps, p.Unindexed := fun p hp => h p (List.mem_cons_of_mem _ hp)
    cases r with
    | raw column sql type => exact ih hps hnames
    | bound column given v type =>
      cases given with
      | none =>
        refine List.nodup_cons.2 ⟨fun hmem => ?_, ih hps hnames⟩
        obtain ⟨q, hq, hname⟩ := List.mem_map.1 hmem
        rcases mem_or_indexed_of_mem_recorded hq with hstart | ⟨k, hk, hlater⟩
        · exact not_indexed_of_unindexed (hps q hstart) n hname
        · have := indexedName_injective (Option.some.inj (hname.symm.trans hlater))
          omega
      | some given =>
        obtain ⟨hnew, hrest⟩ := List.nodup_cons.1 hnames
        refine List.nodup_cons.2 ⟨fun hmem => ?_, ih hps hrest⟩
        obtain ⟨q, hq, hname⟩ := List.mem_map.1 hmem
        rcases mem_or_indexed_of_mem_recorded hq with hstart | ⟨k, -, hindexed⟩
        · exact hnew (List.mem_filterMap.2 ⟨q, hstart, hname⟩)
        · exact not_indexed_of_unindexed (h _ List.mem_cons_self) k (hname.symm.trans hindexed)

end Binder

namespace Assignment

variable {d : Dialect} {as : List Assignment} {values : List (List Token)}

def newName (a : Assignment) : String := "NEW_" ++ a.column

theorem nodup_newNames (h : (as.map column).Nodup) : (as.map newName).Nodup := by
  have injective : Function.Injective fun column => "NEW_" ++ column := fun _ _ =>
    (String.append_right_inj _).1
  have names : as.map newName = (as.map column).map fun column => "NEW_" ++ column := by
    rw [List.map_map]
    rfl
  rw [names]
  exact h.map injective

theorem newName_ne_indexedName (a : Assignment) (n : Nat) : a.newName ≠ Binder.indexedName n := by
  intro h
  apply newName_not_indexed a.column
  rw [newName] at h
  rw [h, Binder.indexedName, String.toList_append]
  exact List.prefix_append _ _

/-- What is written for the value of an assignment. -/
inductive Written (d : Dialect) : Assignment → List Token → Prop
  | placeholder (column : String) (v : Value) (type : StorageType) :
    Written d (value (.bound column (some ("NEW_" ++ column)) v type))
      [.placeholder ("NEW_" ++ column)]
  | raw (column sql : String) (type : StorageType) :
    Written d (value (.raw column sql type)) [.raw sql]
  | query (column : String) {inner : Select} {tokens : List Token} {b b' : Binder}
    (h : (inner.document d).fill b = .ok (tokens, b')) :
    Written d (query column inner) (Token.parenthesized tokens)

theorem Named.written {a : Assignment} (ha : a.Named) {b b' : Binder} {tokens : List Token}
    (h : (a.document d).fill b = .ok (tokens, b')) : Written d a tokens := by
  cases a with
  | value p =>
    obtain ⟨tail, rfl, htail⟩ := fill_hole_eq_ok.1 h
    obtain ⟨rfl, -⟩ := Prod.mk.inj (Except.ok.inj htail)
    cases p with
    | raw column sql type => exact .raw column sql type
    | bound column name v type =>
      obtain rfl : name = some ("NEW_" ++ column) := ha rfl
      exact .placeholder column v type
  | query column inner =>
    obtain ⟨tokens, rfl, hinner⟩ := fill_parenthesized_eq_ok.1 h
    exact .query column hinner

theorem soleName?_of_written {a : Assignment} {tokens : List Token} (h : Written d a tokens)
    {name : String} (hname : Token.soleName? tokens = some name) : name = a.newName := by
  cases h with
  | placeholder column v type => exact (Option.some.inj hname).symm
  | raw column sql type => exact nomatch hname
  | query column h => exact nomatch hname

theorem soleNames_sublist (h : List.Forall₂ (Written d) as values) :
    (values.filterMap Token.soleName?).Sublist (as.map newName) := by
  induction h with
  | nil => exact .slnil
  | @cons a tokens as values hwritten _ ih =>
    rw [List.filterMap_cons, List.map_cons]
    cases hsole : Token.soleName? tokens with
    | none => exact ih.cons _
    | some name =>
      rw [soleName?_of_written hwritten hsole]
      exact ih.cons_cons _

theorem Tidy.startNames_sublist {a : Assignment} (h : a.Tidy) :
    ((a.document d).holes.filterMap Parameter.name?).Sublist [a.newName] := by
  cases a with
  | value p =>
    have holes : ((value p).document d).holes = [p] := rfl
    rw [holes]
    rcases h with hnone | hnew
    · rw [List.filterMap_cons_none hnone]
      exact List.nil_sublist _
    · rw [List.filterMap_cons_some hnew]
      exact List.Sublist.refl _
  | query column inner =>
    have holes : ((query column inner).document d).holes = (inner.document d).holes :=
      holes_parenthesized _
    have unnamed : (inner.document d).holes.filterMap Parameter.name? = [] :=
      List.filterMap_eq_nil_iff.2 fun p hp => h p (inner.holes_document_subset d p hp)
    rw [holes, unnamed]
    exact List.nil_sublist _

/-- So do the names there from the start, where queries bind nothing under a name. -/
theorem startNames_sublist (h : ∀ a ∈ as, a.Tidy) :
    ((as.flatMap fun a => (a.document d).holes).filterMap Parameter.name?).Sublist
      (as.map newName) := by
  induction as with
  | nil => exact .slnil
  | cons a as ih =>
    rw [List.flatMap_cons, List.filterMap_append, List.map_cons]
    exact (h a List.mem_cons_self).startNames_sublist.append
      (ih fun b hb => h b (List.mem_cons_of_mem _ hb))

/-- No parameter of an assigned query has a name yet. -/
def QueriesUnnamed (as : List Assignment) : Prop :=
  ∀ column inner, query column inner ∈ as → ∀ p ∈ inner.parameters, p.name? = none

theorem Named.tidy {a : Assignment} (ha : a.Named) (h : a ∈ as) (hqueries : QueriesUnnamed as) :
    a.Tidy := by
  cases a with
  | value p =>
    cases p with
    | raw column sql type => exact .inl rfl
    | bound column name v type => exact .inr (ha rfl)
  | query column inner => exact hqueries column inner h

/-- How the values of a rendered statement stand for its assignments. -/
structure ValuesOf (d : Dialect) (as : List Assignment) (values : List (List Token)) : Prop where
  /-- One value for each assignment, in their order. -/
  written : List.Forall₂ (Written d) as values
  distinct : (values.filterMap Token.soleName?).Nodup
  unindexed : ∀ name ∈ values.filterMap Token.soleName?, ∀ n, name ≠ Binder.indexedName n
  /-- The placeholders of unnamed queries are told apart as well, from each other and the rest. -/
  apart : QueriesUnnamed as → (values.flatMap Token.placeholders).Nodup

section

variable {lead : String → List Token}
  (hlead : ∀ column, (ofTokens (lead column)).isConstant = true)

/-- Each value behind what leads to it from its column. -/
def led (lead : String → List Token) (columns : List String) (values : List (List Token)) :
    List (List Token) :=
  List.zipWith (fun column value => lead column ++ value) columns values

theorem exists_led {parts : List (List Token)} (hnamed : ∀ a ∈ as, a.Named)
    (h : List.Forall₂ (fun a part => ∃ b b',
      (ofTokens (lead a.column) ++ a.document d).fill b = .ok (part, b')) as parts) :
    ∃ values, parts = led lead (as.map column) values ∧ List.Forall₂ (Written d) as values := by
  induction h with
  | nil => exact ⟨[], rfl, .nil⟩
  | @cons a part as parts hpart _ ih =>
    obtain ⟨b, b', hfill⟩ := hpart
    obtain ⟨value, rfl, hvalue⟩ := fill_ofTokens_append_eq_ok.1 hfill
    obtain ⟨values, rfl, hvalues⟩ := ih fun b hb => hnamed b (List.mem_cons_of_mem _ hb)
    exact ⟨value :: values, rfl, .cons ((hnamed a List.mem_cons_self).written hvalue) hvalues⟩

theorem led_nil (h : List.Forall₂ (Written d) as values) :
    led (fun _ => []) (as.map column) values = values := by
  induction h with
  | nil => rfl
  | cons _ _ ih => exact congrArg (_ :: ·) ih

include hlead

theorem placeholders_led (h : List.Forall₂ (Written d) as values) :
    (led lead (as.map column) values).flatMap Token.placeholders =
      values.flatMap Token.placeholders := by
  induction h with
  | nil => rfl
  | @cons a value as values _ _ ih =>
    have first : led lead ((a :: as).map column) (value :: values) =
      (lead a.column ++ value) :: led lead (as.map column) values := rfl
    rw [first, List.flatMap_cons, List.flatMap_cons, Token.placeholders_append,
      placeholders_of_isConstant (hlead a.column), List.nil_append, ih]

theorem holes_led :
    (separatedBy comma (as.map fun a => ofTokens (lead a.column) ++ a.document d)).holes =
      as.flatMap fun a => (a.document d).holes := by
  rw [holes_separatedBy rfl, List.flatMap_map]
  exact List.flatMap_congr fun a _ => holes_constant_append (hlead a.column) (a.document d)

theorem unfilled_led :
    (separatedBy comma (as.map fun a => ofTokens (lead a.column) ++ a.document d)).Unfilled := by
  have self : List.Forall₂ (Corresponds Eq Eq) as as :=
    List.forall₂_same.2 fun a _ => corresponds_self fun _ _ => rfl
  refine (separated_related (fun {a a'} ha => ?_) self).unfilled
  rw [ha.column_eq]
  exact (ha.document d).constantAppend _ (hlead a'.column)

variable (lead) in
theorem exists_values (hcolumns : (as.map column).Nodup) (hnamed : ∀ a ∈ as, a.Named)
    {b b' : Binder} {tokens : List Token}
    (h : (separatedBy comma (as.map fun a => ofTokens (lead a.column) ++ a.document d)).fill b =
      .ok (tokens, b')) :
    ∃ values, tokens = [Token.comma].intercalate (led lead (as.map column) values) ∧
      ValuesOf d as values := by
  obtain ⟨parts, rfl, hparts⟩ := fill_separatedBy [Token.comma] h
  rw [List.forall₂_map_left_iff] at hparts
  obtain ⟨values, rfl, hwritten⟩ := exists_led hnamed hparts
  have sole := soleNames_sublist hwritten
  refine ⟨values, rfl, hwritten, sole.nodup (nodup_newNames hcolumns), ?_, ?_⟩
  · intro name hname n
    obtain ⟨a, -, rfl⟩ := List.mem_map.1 (sole.subset hname)
    exact a.newName_ne_indexedName n
  · intro hqueries
    have tidy : TidyAll as := ⟨hcolumns, fun a ha => (hnamed a ha).tidy ha hqueries⟩
    have unindexed : ∀ p ∈ as.flatMap fun a => (a.document d).holes, p.Unindexed := by
      intro p hp name hname
      rw [tidy.name_eq hp hname]
      exact newName_not_indexed p.column
    have recorded := Binder.nodup_names_recorded (n := b.next) unindexed
      ((startNames_sublist tidy.each).nodup (nodup_newNames hcolumns))
    obtain ⟨-, -, hnames⟩ := fill_spec (unfilled_led hlead) h
    rw [holes_led hlead, Token.placeholders_intercalate rfl, placeholders_led hlead hwritten]
      at hnames
    rw [← hnames] at recorded
    exact recorded.of_map some

end

theorem queries_fill_iff :
    (as.flatMap fun a => (a.document d).filterMap Piece.fault?) = [] ↔
      ∀ column inner, query column inner ∈ as → (inner.document d).Fills := by
  rw [List.flatMap_eq_nil_iff]
  constructor
  · intro h column inner hmem
    have faults := h _ hmem
    rw [document, filterMap_parenthesized Piece.skipsText_fault?] at faults
    exact fills_iff.2 faults
  · intro h a ha
    cases a with
    | value p => rfl
    | query column inner =>
      rw [document, filterMap_parenthesized Piece.skipsText_fault?]
      exact fills_iff.1 (h column inner ha)

end Assignment

theorem Document.faults_ofTokens (tokens : List Token) :
    (ofTokens tokens).filterMap Piece.fault? = [] := by
  rw [ofTokens, List.filterMap_map]
  exact List.filterMap_eq_nil_iff.2 fun t _ => rfl

theorem RootStatement.succeeds_output_iff (r : RootStatement) :
    Succeeds r.output ↔ r.document.Fills := by
  rw [output, succeeds_map]
  constructor
  · rintro ⟨filled, hfilled⟩
    by_contra hfails
    obtain ⟨e, he, -⟩ := exists_fails hfails
    rw [he {}] at hfilled
    contradiction
  · intro h
    exact h {}

namespace Insert

open Assignment

/-- `INSERT INTO table ( columns ) VALUES ( ` -/
def beforeValues (table : String) (columns : List String) : List Token :=
  [Token.keyword .INSERT, Token.space, Token.keyword .INTO, Token.space, Token.identifier table,
      Token.space, Token.opening, Token.space] ++
    [Token.comma].intercalate (columns.map fun column => [Token.identifier column]) ++
    [Token.space, Token.closing, Token.space, Token.keyword .VALUES, Token.space, Token.opening,
      Token.space]

/-- `INSERT INTO table ( columns ) VALUES ( values )` -/
def tokens (table : String) (columns : List String) (values : List (List Token)) : List Token :=
  beforeValues table columns ++ ([Token.comma].intercalate values ++ [Token.space, Token.closing])

theorem document_eq {i : Insert} (h : i.assignments ≠ []) :
    i.document = ofTokens (beforeValues i.table (i.assignments.map column)) ++
      (separatedBy comma (i.assignments.map (Assignment.document i.dialect)) ++
        ofTokens [Token.space, Token.closing]) := by
  obtain ⟨dialect, table, as⟩ := i
  obtain ⟨a, rest, rfl⟩ := List.exists_cons_of_ne_nil h
  have columns : separatedBy comma ((a :: rest).map fun a => identifier a.column) =
      ofTokens ([Token.comma].intercalate
        (((a :: rest).map column).map fun column => [.identifier column])) := by
    rw [← separatedBy_ofTokens, List.map_map, List.map_map]
    rfl
  rw [document, requireAssignments, columns]
  simp only [beforeValues, keyword, clause, space, identifier, parenthesized, ofTokens,
    List.map_append, List.map_cons, List.map_nil, List.append_assoc, List.cons_append,
    List.nil_append]

theorem fills_document_iff (i : Insert) :
    i.document.Fills ↔ i.assignments ≠ [] ∧
      ∀ column inner, .query column inner ∈ i.assignments → (inner.document i.dialect).Fills := by
  by_cases h : i.assignments = []
  · refine iff_of_false ?_ fun hfills => hfills.1 h
    rw [document, h]
    exact (fails_failing _).not_fills
  · rw [and_iff_right h, ← queries_fill_iff, fills_iff, document_eq h, List.filterMap_append,
      List.filterMap_append, faults_ofTokens, faults_ofTokens, List.nil_append, List.append_nil,
      filterMap_separatedBy (filterMap_comma Piece.skipsText_fault?), List.flatMap_map]

theorem assignments_ne_nil_of_output {i : Insert} {output : List Token × List Parameter}
    (h : (RootStatement.insert i).output = .ok output) : i.assignments ≠ [] :=
  (i.fills_document_iff.1 ((RootStatement.insert i).succeeds_output_iff.1 ⟨output, h⟩)).1

theorem tokens_of_output {i : Insert} (hcolumns : (i.assignments.map column).Nodup)
    (hnamed : ∀ a ∈ i.assignments, a.Named) {ts : List Token} {ps : List Parameter}
    (h : (RootStatement.insert i).output = .ok (ts, ps)) :
    ∃ values, ts = tokens i.table (i.assignments.map column) values ∧
      ValuesOf i.dialect i.assignments values := by
  have hne := assignments_ne_nil_of_output h
  obtain ⟨b, hfill, -⟩ := RootStatement.output_eq_ok.1 h
  rw [RootStatement.document, document_eq hne] at hfill
  obtain ⟨rest, rfl, hrest⟩ := fill_ofTokens_append_eq_ok.1 hfill
  obtain ⟨between, rfl, hbetween⟩ := fill_append_ofTokens_eq_ok.1 hrest
  obtain ⟨values, rfl, hvalues⟩ :=
    exists_values (fun _ => []) (fun _ => rfl) hcolumns hnamed hbetween
  refine ⟨values, ?_, hvalues⟩
  rw [led_nil hvalues.written, tokens]

end Insert

namespace Update

open Assignment

/-- `UPDATE table SET ` -/
def beforeChanges (table : String) : List Token :=
  [Token.keyword .UPDATE, Token.space, Token.identifier table, Token.space, Token.keyword .SET,
    Token.space]

/-- `column=` -/
def target (column : String) : List Token := [Token.identifier column, Token.mark .equal]

/-- `UPDATE table SET column=value,...`, and what follows. -/
def tokens (table : String) (columns : List String) (values : List (List Token))
    (rest : List Token) : List Token :=
  beforeChanges table ++ ([Token.comma].intercalate (led target columns values) ++ rest)

theorem document_eq {u : Update} (h : u.assignments ≠ []) :
    u.document = ofTokens (beforeChanges u.table) ++
      (separatedBy comma (u.assignments.map fun a =>
          ofTokens (target a.column) ++ a.document u.dialect) ++
        filterClause u.dialect u.filter) := by
  obtain ⟨dialect, table, as, filter⟩ := u
  obtain ⟨a, rest, rfl⟩ := List.exists_cons_of_ne_nil h
  rw [document, requireAssignments, List.append_assoc]
  rfl

theorem fills_document_iff (u : Update) :
    u.document.Fills ↔ u.assignments ≠ [] ∧
      (∀ column inner, .query column inner ∈ u.assignments → (inner.document u.dialect).Fills) ∧
      (filterClause u.dialect u.filter).Fills := by
  by_cases h : u.assignments = []
  · refine iff_of_false ?_ fun hfills => hfills.1 h
    rw [document, h]
    exact (fails_failing _).not_fills
  · rw [and_iff_right h, ← queries_fill_iff, fills_iff, fills_iff, document_eq h,
      List.filterMap_append, List.filterMap_append, faults_ofTokens, List.nil_append,
      List.append_eq_nil_iff, filterMap_separatedBy (filterMap_comma Piece.skipsText_fault?),
      List.flatMap_map]
    simp only [List.filterMap_append, faults_ofTokens, List.nil_append]

theorem assignments_ne_nil_of_output {u : Update} {output : List Token × List Parameter}
    (h : (RootStatement.update u).output = .ok output) : u.assignments ≠ [] :=
  (u.fills_document_iff.1 ((RootStatement.update u).succeeds_output_iff.1 ⟨output, h⟩)).1

theorem tokens_of_output {u : Update} (hcolumns : (u.assignments.map column).Nodup)
    (hnamed : ∀ a ∈ u.assignments, a.Named) {ts : List Token} {ps : List Parameter}
    (h : (RootStatement.update u).output = .ok (ts, ps)) :
    ∃ values rest, ts = tokens u.table (u.assignments.map column) values rest ∧
      ValuesOf u.dialect u.assignments values := by
  have hne := assignments_ne_nil_of_output h
  obtain ⟨b, hfill, -⟩ := RootStatement.output_eq_ok.1 h
  rw [RootStatement.document, document_eq hne] at hfill
  obtain ⟨behind, rfl, hbehind⟩ := fill_ofTokens_append_eq_ok.1 hfill
  obtain ⟨changes, b₁, rest, hchanges, -, rfl⟩ := fill_append_eq_ok.1 hbehind
  obtain ⟨values, rfl, hvalues⟩ := exists_values target (fun _ => rfl) hcolumns hnamed hchanges
  exact ⟨values, rest, rfl, hvalues⟩

end Update

/-- What a sequence of calls leaves behind depends only on what each of them assigns: the latest
assignment of each column, in the order in which the columns were first assigned. A rendered
insertion has a value for each of its columns, in their order, and an update has its values behind
their columns. Whatever was assigned before, placeholders among the values go by different names,
and by none that is given out when a statement is rendered. -/
theorem assignments_refine_map [TimestampText] (d : Dialect) (table : String) :
    (∀ (calls : List InsertCall) (i : Insert),
      ({ dialect := d, table } : Insert).run calls = .ok i →
      (∃ made, calls.mapM InsertCall.made = .ok made ∧
        HoldsLatest Assignment.column made.flatten i.assignments) ∧
      (Succeeds (RootStatement.insert i).output ↔ i.assignments ≠ [] ∧
        ∀ column inner, .query column inner ∈ i.assignments → (inner.document d).Fills) ∧
      ∀ tokens ps, (RootStatement.insert i).output = .ok (tokens, ps) →
        ∃ values, tokens = Insert.tokens table (i.assignments.map Assignment.column) values ∧
          Assignment.ValuesOf d i.assignments values) ∧
    (∀ (calls : List UpdateCall) (u : Update),
      ({ dialect := d, table } : Update).run calls = .ok u →
      (∃ made, calls.mapM UpdateCall.made = .ok made ∧
        HoldsLatest Assignment.column made.flatten u.assignments) ∧
      (Succeeds (RootStatement.update u).output ↔ u.assignments ≠ [] ∧
        (∀ column inner, .query column inner ∈ u.assignments → (inner.document d).Fills) ∧
        (filterClause d u.filter).Fills) ∧
      ∀ tokens ps, (RootStatement.update u).output = .ok (tokens, ps) →
        ∃ values rest,
          tokens = Update.tokens table (u.assignments.map Assignment.column) values rest ∧
          Assignment.ValuesOf d u.assignments values) := by
  constructor
  · intro calls i hrun
    rw [Insert.run_eq] at hrun
    obtain ⟨made, hmade, rfl⟩ := ok_of_map hrun
    have latest := Assignment.holdsLatest_assignAll made.flatten
    have named := Assignment.named_assignAll UpdateCall.named_of_made hmade
    refine ⟨⟨made, hmade, latest⟩, ?_, ?_⟩
    · rw [RootStatement.succeeds_output_iff]
      exact Insert.fills_document_iff _
    · intro tokens ps houtput
      exact Insert.tokens_of_output latest.nodup named houtput
  · intro calls u hrun
    rw [Update.run_eq] at hrun
    obtain ⟨made, hmade, rfl⟩ := ok_of_map hrun
    have latest := Assignment.holdsLatest_assignAll made.flatten
    have named := Assignment.named_assignAll UpdateCall.named_of_made hmade
    refine ⟨⟨made, hmade, latest⟩, ?_, ?_⟩
    · rw [RootStatement.succeeds_output_iff]
      exact Update.fills_document_iff _
    · intro tokens ps houtput
      exact Update.tokens_of_output latest.nodup named houtput

/-- SQL text in the place of a bound value, and bound values in the places of a query and of SQL
text, each where its column was first assigned. -/
theorem assignments_refine_map_replaced :
    let calls : List InsertCall :=
      [.set "a" (.integer 1), .setQuery "b" { dialect := .mySql, source := .table "S" },
        .setExpression "a" "NOW()", .set "c" .null, .setTyped "b" (.boolean true) .string]
    let i : Insert :=
      { dialect := .mySql, table := "T"
        assignments := [.value (.sql "a" "NOW()"), .ofTypedValue "b" (.boolean true) .string,
          .ofValue "c" .null] }
    let changes : List UpdateCall :=
      [.increase "a", .set "b" .null, .whereUnchanged "id" (.integer 1), .set "a" (.integer 1)]
    let u : Update :=
      { dialect := .mySql, table := "T"
        assignments := [.ofValue "a" (.integer 1), .ofValue "b" .null]
        filter := some (.basic "id" .equal [.oldValue "id" (.integer 1)]) }
    (({ dialect := .mySql, table := "T" } : Insert).run calls = .ok i ∧
      ∃ values ps,
        (RootStatement.insert i).output = .ok (Insert.tokens "T" ["a", "b", "c"] values, ps) ∧
        Assignment.ValuesOf .mySql i.assignments values) ∧
    ({ dialect := .mySql, table := "T" } : Update).run changes = .ok u ∧
      ∃ values rest ps,
        (RootStatement.update u).output = .ok (Update.tokens "T" ["a", "b"] values rest, ps) ∧
        Assignment.ValuesOf .mySql u.assignments values := by
  intro calls i changes u
  obtain ⟨insertions, updates⟩ := assignments_refine_map .mySql "T"
  constructor
  · have hrun : ({ dialect := .mySql, table := "T" } : Insert).run calls = .ok i := rfl
    obtain ⟨-, succeeds, rendered⟩ := insertions calls i hrun
    obtain ⟨⟨tokens, ps⟩, houtput⟩ := succeeds.2
      ⟨List.cons_ne_nil _ _, by simp [i, Assignment.ofTypedValue, Assignment.ofValue]⟩
    obtain ⟨values, rfl, hvalues⟩ := rendered tokens ps houtput
    exact ⟨hrun, values, ps, houtput, hvalues⟩
  · have hrun : ({ dialect := .mySql, table := "T" } : Update).run changes = .ok u := rfl
    obtain ⟨-, succeeds, rendered⟩ := updates changes u hrun
    obtain ⟨⟨tokens, ps⟩, houtput⟩ := succeeds.2
      ⟨List.cons_ne_nil _ _, by simp [u, Assignment.ofValue], fills_iff.2 rfl⟩
    obtain ⟨values, rest, rfl, hvalues⟩ := rendered tokens ps houtput
    exact ⟨hrun, values, rest, ps, houtput, hvalues⟩

end ParamSql
