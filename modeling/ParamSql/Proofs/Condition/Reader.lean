import Mathlib.Data.List.Basic
import ParamSql.Rendering.Query

/-!
# Reading conditions back

A reader that takes the document of a condition apart. It goes from left to
right and keeps, for each bracket that is still open, what has come behind it.
A closing bracket turns all that into one thing, by its shape alone: nothing
that was read before the bracket opened is looked at. A condition that is
written is read back as itself (`run_document`), whatever stands around it.
-/

namespace ParamSql

/-- Conditions without queries that have as many bound parameters as their
operators take, no empty list of values, and no list of fewer than two members. -/
def Condition.Readable : Condition → Prop
  | .basic _ operator ps => ps.length = operator.arity ∧ ∀ p ∈ ps, p.isBound = true
  | .columns _ operator _ => operator.arity = 1
  | .inValues _ _ ps => ps ≠ [] ∧ ∀ p ∈ ps, p.isBound = true
  | .inQuery _ _ _ => False
  | .not c => c.Readable
  | .list _ members => 2 ≤ members.length ∧ allReadable members
where
  allReadable : List Condition → Prop
    | [] => True
    | c :: cs => c.Readable ∧ allReadable cs

theorem Document.separatedBy_cons (separator d : Document) (ds : List Document) :
    separatedBy separator (d :: ds) = d ++ ds.flatMap (separator ++ ·) := by
  induction ds generalizing d with
  | nil => simp [separatedBy]
  | cons e es ih => simp only [separatedBy, ih e, List.flatMap_cons, List.append_assoc]

namespace Reader

/-- What stands behind a bracket that is still open. -/
inductive Item
  | piece (p : Piece)
  | condition (c : Condition)
  /-- A condition between brackets of its own. -/
  | enclosed (c : Condition)
  /-- A list of values between brackets. -/
  | values (ps : List Parameter)

namespace Item

@[match_pattern] abbrev word (w : Keyword) : Item := piece (.token (.keyword w))

@[match_pattern] abbrev mark (m : Mark) : Item := piece (.token (.mark m))

@[match_pattern] abbrev name (text : String) : Item := piece (.token (.identifier text))

@[match_pattern] abbrev slot (p : Parameter) : Item := piece (.hole p)

end Item

open Item

def operator? : List Item → Option (Operator × List Item)
  | word .IS_NULL :: rest => some (.isNull, rest)
  | word .IS_NOT_NULL :: rest => some (.isNotNull, rest)
  | mark .equal :: rest => some (.equal, rest)
  | mark .notEqual :: rest => some (.notEqual, rest)
  | mark .greater :: rest => some (.greaterThan, rest)
  | mark .less :: rest => some (.lessThan, rest)
  | mark .greaterOrEqual :: rest => some (.greaterThanOrEqual, rest)
  | mark .lessOrEqual :: rest => some (.lessThanOrEqual, rest)
  | word .LIKE :: rest => some (.like, rest)
  | word .NOT :: mark .space :: word .LIKE :: rest => some (.notLike, rest)
  | word .BETWEEN :: rest => some (.between, rest)
  | word .NOT :: mark .space :: word .BETWEEN :: rest => some (.notBetween, rest)
  | _ => none

/-- What is said of a column, behind its name and a blank. -/
def test? (column : String) : List Item → Option Condition
  | [word .IN, mark .space, values ps] => some (.inValues column false ps)
  | [word .NOT, mark .space, word .IN, mark .space, values ps] => some (.inValues column true ps)
  | items =>
    match operator? items with
    | some (operator, []) => some (.basic column operator [])
    | some (operator, [mark .space, slot p]) => some (.basic column operator [p])
    | some (operator,
        [mark .space, slot low, mark .space, word .AND, mark .space, slot high]) =>
      some (.basic column operator [low, high])
    | some (operator, [mark .space, name right]) => some (.columns column operator right)
    | _ => none

def values? : List Item → Option (List Parameter)
  | [slot p] => some [p]
  | slot p :: mark .comma :: rest => (values? rest).map (p :: ·)
  | _ => none

/-- The members of a list behind the first one. -/
def members? (word : Keyword) : List Item → Option (List Condition)
  | [] => some []
  | mark .space :: Item.word w :: mark .space :: condition c :: rest =>
    if w = word then (members? word rest).map (c :: ·) else none
  | _ => none

/-- What stood between two brackets, as one thing. -/
def group? : List Item → Option Item
  | name column :: mark .space :: rest => (test? column rest).map condition
  | [word .NOT, enclosed c] => some (condition (.not c))
  | [condition c] => some (enclosed c)
  | condition c :: rest@(mark .space :: word .AND :: _) =>
    (members? .AND rest).map fun cs => condition (.list .and (c :: cs))
  | condition c :: rest@(mark .space :: word .OR :: _) =>
    (members? .OR rest).map fun cs => condition (.list .or (c :: cs))
  | items => (values? items).map values

/-- What stands behind each open bracket, the innermost first. -/
abbrev Stack := List (List Item)

def step : Stack → Piece → Option Stack
  | stack, .token (.mark .opening) => some ([] :: stack)
  | items :: outer :: stack, .token (.mark .closing) =>
    (group? items).map fun item => (outer ++ [item]) :: stack
  | _, .token (.mark .closing) => none
  | _, .fault _ => none
  | items :: stack, p => some ((items ++ [piece p]) :: stack)
  | [], _ => none

def isPlain : Piece → Bool
  | .token (.mark .opening) => false
  | .token (.mark .closing) => false
  | .fault _ => false
  | _ => true

theorem step_of_isPlain {p : Piece} (h : isPlain p = true) (items : List Item) (stack : Stack) :
    step (items :: stack) p = some ((items ++ [piece p]) :: stack) := by
  unfold step
  split <;> simp_all [isPlain]

theorem fault_notMem_of_run {d : Document} {stack stack' : Stack}
    (h : d.foldlM step stack = some stack') (e : Error) : Piece.fault e ∉ d := by
  induction d generalizing stack with
  | nil => exact List.not_mem_nil
  | cons p rest ih =>
    rw [List.foldlM_cons] at h
    obtain ⟨next, hstep, hrest⟩ := Option.bind_eq_some_iff.1 h
    intro hmem
    rcases List.mem_cons.1 hmem with rfl | hmem
    · cases stack <;> simp [step] at hstep
    · exact ih hrest hmem

theorem run_flat {d : Document} (h : ∀ p ∈ d, isPlain p = true) (items : List Item)
    (stack : Stack) : d.foldlM step (items :: stack) = some ((items ++ d.map piece) :: stack) := by
  induction d generalizing items with
  | nil => simp
  | cons p rest ih =>
    have head := step_of_isPlain (h p List.mem_cons_self) items stack
    have tail := ih (fun q hq => h q (List.mem_cons_of_mem _ hq)) (items ++ [piece p])
    simp [head, tail]

/-- What stands between two brackets comes to lie behind the brackets around it
as one thing. -/
theorem run_parenthesized {d : Document} {items content : List Item} {stack : Stack} {item : Item}
    (hd : d.foldlM step ([] :: items :: stack) = some (content :: items :: stack))
    (hgroup : group? content = some item) :
    (Document.parenthesized d).foldlM step (items :: stack) =
      some ((items ++ [item]) :: stack) := by
  have opened : step (items :: stack) (.token .opening) = some ([] :: items :: stack) := rfl
  have closed : step (content :: items :: stack) (.token .closing) =
      some ((items ++ [item]) :: stack) := by
    simp [step, hgroup]
  simp [Document.parenthesized, opened, hd, closed]

theorem run_comparison {operator : Operator} {ps : List Parameter}
    (h : ps.length = operator.arity) (column : String) (items : List Item) (stack : Stack) :
    (Document.comparison column operator ps).foldlM step (items :: stack) =
      some ((items ++ [.condition (.basic column operator ps)]) :: stack) := by
  cases operator with
  | isNull | isNotNull =>
    obtain rfl := List.length_eq_zero_iff.1 h
    rfl
  | between | notBetween =>
    obtain ⟨low, high, rfl⟩ := List.length_eq_two.1 h
    rfl
  | _ =>
    obtain ⟨p, rfl⟩ := List.length_eq_one_iff.1 h
    rfl

theorem run_columnComparison {operator : Operator} (h : operator.arity = 1)
    (left right : String) (items : List Item) (stack : Stack) :
    (Document.columnComparison left operator right).foldlM step (items :: stack) =
      some ((items ++ [.condition (.columns left operator right)]) :: stack) := by
  cases operator with
  | isNull | isNotNull | between | notBetween => exact nomatch h
  | _ => rfl

def valueItems (ps : List Parameter) : List Item :=
  (Document.separatedBy Document.comma (ps.map fun p => [.hole p])).map piece

theorem isPlain_values (ps : List Parameter) :
    ∀ p ∈ Document.separatedBy Document.comma (ps.map fun p => [.hole p]), isPlain p = true := by
  intro p hp
  cases ps with
  | nil => exact nomatch hp
  | cons q qs =>
    rw [List.map_cons, Document.separatedBy_cons] at hp
    simp only [Document.comma, List.mem_append, List.mem_singleton, List.mem_flatMap,
      List.mem_map] at hp
    rcases hp with rfl | ⟨_, ⟨r, _, rfl⟩, rfl | hr⟩
    · rfl
    · rfl
    · rw [List.mem_singleton.1 hr]
      rfl

theorem values?_valueItems {ps : List Parameter} (h : ps ≠ []) :
    values? (valueItems ps) = some ps := by
  induction ps with
  | nil => exact absurd rfl h
  | cons p ps ih =>
    cases ps with
    | nil => rfl
    | cons q qs =>
      have tail : values? (valueItems (q :: qs)) = some (q :: qs) := ih (List.cons_ne_nil q qs)
      have head : values? (valueItems (p :: q :: qs)) =
          (values? (valueItems (q :: qs))).map (p :: ·) := rfl
      rw [head, tail]
      rfl

theorem group?_valueItems {ps : List Parameter} (h : ps ≠ []) :
    group? (valueItems ps) = some (.values ps) := by
  have read := values?_valueItems h
  cases ps with
  | nil => exact absurd rfl h
  | cons p ps =>
    cases ps with
    | nil => rfl
    | cons q qs => exact congrArg (Option.map Item.values) read

/-- Membership in a list of values, read from the inner brackets outward. -/
theorem run_valueMembership {ps : List Parameter} (h : ps ≠ []) (column : String)
    (negated : Bool) (items : List Item) (stack : Stack) :
    (Document.valueMembership column negated ps).foldlM step (items :: stack) =
      some ((items ++ [.condition (.inValues column negated ps)]) :: stack) := by
  let front : Document := Document.identifier column ++ Document.space ++
    (if negated then Document.keyword .NOT ++ Document.space else []) ++ Document.keyword .IN ++
    Document.space
  have flat : ∀ p ∈ front, isPlain p = true := by
    cases negated <;> simp [front, Document.identifier, Document.space, Document.keyword,
      isPlain]
  have elements := run_flat (isPlain_values ps) [] (front.map piece :: items :: stack)
  have inner : (front ++ Document.parenthesized
      (Document.separatedBy Document.comma (ps.map fun p => [.hole p]))).foldlM step
        ([] :: items :: stack) =
      some ((front.map piece ++ [.values ps]) :: items :: stack) := by
    rw [List.foldlM_append, run_flat flat]
    exact run_parenthesized elements (group?_valueItems h)
  have group : group? (front.map piece ++ [.values ps]) =
      some (.condition (.inValues column negated ps)) := by
    cases negated <;> rfl
  rw [Document.valueMembership, if_neg h]
  exact run_parenthesized inner group

def memberItems (word : Keyword) : List Condition → List Item
  | [] => []
  | c :: cs => mark .space :: Item.word word :: mark .space :: condition c :: memberItems word cs

theorem members?_memberItems (word : Keyword) (cs : List Condition) :
    members? word (memberItems word cs) = some cs := by
  induction cs with
  | nil => rfl
  | cons c cs ih => simp [memberItems, members?, ih]

theorem group?_memberItems (j : Conjunction) (first second : Condition) (cs : List Condition) :
    group? (.condition first :: memberItems j.keyword (second :: cs)) =
      some (.condition (.list j (first :: second :: cs))) := by
  have read := members?_memberItems j.keyword (second :: cs)
  cases j with
  | and => exact congrArg (Option.map fun cs => Item.condition (.list .and (first :: cs))) read
  | or => exact congrArg (Option.map fun cs => Item.condition (.list .or (first :: cs))) read

mutual

/-- Behind a condition the reader holds the condition, whatever it held before.
The induction is along the condition; what the brackets around it hold is left
general, since it grows from member to member of a list. -/
theorem run_document (d : Dialect) : ∀ {c : Condition}, c.Readable →
    ∀ (items : List Item) (stack : Stack), (c.document d).foldlM step (items :: stack) =
      some ((items ++ [.condition c]) :: stack)
  | .basic column _ _, h, items, stack => run_comparison h.1 column items stack
  | .columns left _ right, h, items, stack => run_columnComparison h left right items stack
  | .inValues column negated _, h, items, stack =>
    run_valueMembership h.1 column negated items stack
  | .inQuery _ _ _, h, _, _ => h.elim
  | .not c, h, items, stack => by
    have inner := run_document d (c := c) h [] ([word .NOT] :: items :: stack)
    have within : (Document.keyword .NOT ++ Document.parenthesized (c.document d)).foldlM step
        ([] :: items :: stack) = some ([word .NOT, enclosed c] :: items :: stack) :=
      run_parenthesized inner rfl
    exact run_parenthesized within rfl
  | .list j members, h, items, stack => by
    obtain ⟨hlength, hmembers⟩ := h
    match members, hlength, hmembers with
    | first :: second :: cs, _, ⟨hfirst, hrest⟩ =>
      have head := run_document d hfirst [] (items :: stack)
      have tail := run_members d j.keyword hrest [.condition first] (items :: stack)
      refine run_parenthesized ?_ (group?_memberItems j first second cs)
      rw [conditionDocuments, Document.separatedBy_cons, List.foldlM_append, head]
      exact tail

theorem run_members (d : Dialect) (word : Keyword) : ∀ {cs : List Condition},
    Condition.Readable.allReadable cs → ∀ (items : List Item) (stack : Stack),
      ((conditionDocuments d cs).flatMap (Document.clause word ++ ·)).foldlM step
        (items :: stack) = some ((items ++ memberItems word cs) :: stack)
  | [], _, items, stack => by simp [memberItems, conditionDocuments]
  | c :: cs, ⟨hc, hcs⟩, items, stack => by
    have joint := run_flat (d := Document.clause word) (by simp [Document.clause,
      Document.space, Document.keyword, isPlain]) items stack
    have member := run_document d hc (items ++ (Document.clause word).map piece) stack
    have rest := run_members d word hcs
      (items ++ (Document.clause word).map piece ++ [.condition c]) stack
    have behind : items ++ (Document.clause word).map piece ++ [.condition c] ++
        memberItems word cs = items ++ memberItems word (c :: cs) := by
      simp [Document.clause, Document.space, Document.keyword, memberItems]
    rw [behind] at rest
    rw [conditionDocuments, List.flatMap_cons, List.append_assoc, List.foldlM_append, joint]
    simp only [Option.bind_eq_bind, Option.bind_some, List.foldlM_append, member]
    exact rest

end

def read? (d : Document) : Option Condition :=
  match d.foldlM step [[]] with
  | some [[condition c]] => some c
  | _ => none

theorem read?_document {c : Condition} (h : c.Readable) (d : Dialect) :
    read? (c.document d) = some c := by
  simp [read?, run_document d h]

end Reader

end ParamSql
