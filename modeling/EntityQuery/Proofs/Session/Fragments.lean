import EntityQuery.Proofs.Rows
import EntityQuery.Proofs.Sql.Writing
import EntityQuery.Session.Build

namespace EntityQuery.Session

open Sql

/-- A fragment of a statement: text as it is, text that names fields and placeholders, or the reason
why there is no statement. -/
inductive Fragment
  | plain (text : String)
  | resolved (text : String)
  | fault (fault : ValidationFault)

/-- Writes a fragment. -/
def Fragment.write (scope : Scope) (w : Writer) : Fragment → Except ValidationFault Writer
  | plain text => .ok (w.push text)
  | resolved text => w.pushText scope text
  | fault reason => .error reason

/-- Writes fragments one behind the other. -/
def writeAll (scope : Scope) (w : Writer) (fragments : List Fragment) :
    Except ValidationFault Writer :=
  fragments.foldlM (Fragment.write scope) w

variable (s : Session)

/-- Rows of fragments with commas between them. -/
def commaFragments (items : List (List Fragment)) : List Fragment :=
  [.plain ", "].intercalate items

def selectItemFragments (item : String) : List Fragment :=
  if item = s.entityAlias then [.plain (s.sqlAlias ++ ".*")] else [.resolved item]

def joinFragments (j : Join) : List Fragment :=
  let condition := fun keyword =>
    match j.condition? with
    | some text => [.plain keyword, .resolved text]
    | none => []
  match s.associationOf? j.target, j.condition? with
  | some assoc, _ =>
    .plain
        (" " ++ j.kind.keyword ++ " " ++ sqlTable assoc.targetTable ++ " " ++ j.tableAlias ++
          " ON " ++ j.tableAlias ++ "." ++ sqlWord assoc.referencedColumn ++ " = " ++
          s.sqlAlias ++ "." ++ sqlWord assoc.joinColumn) ::
      condition " AND "
  | none, some _ =>
    .plain (" " ++ j.kind.keyword ++ " " ++ j.target ++ " " ++ j.tableAlias) :: condition " ON "
  | none, none => [.fault (.joinWithoutCondition j.target s.entity.shortName)]

def predicateFragments (keyword : String) (predicate? : Option Expr) : List Fragment :=
  match predicate? with
  | none => []
  | some predicate =>
    if predicate.isEmpty then [] else [.plain keyword, .resolved predicate.toText]

def whereFragments : List Fragment :=
  predicateFragments " WHERE " s.where?

def groupingFragments : List Fragment :=
  (if s.groupBy.isEmpty then []
    else [.plain " GROUP BY ", .resolved (", ".intercalate s.groupBy)]) ++
    predicateFragments " HAVING " s.having?

def sortFragments (entry : SortEntry) : List Fragment :=
  match entry.direction? with
  | some direction => [.resolved entry.text, .plain (" " ++ direction.keyword)]
  | none => [.resolved entry.text]

def orderingFragments : List Fragment :=
  if s.orderBy.isEmpty then []
  else .plain " ORDER BY " :: commaFragments (s.orderBy.map sortFragments)

def selectFragments : List Fragment :=
  .plain ("SELECT " ++ if s.distinct then "DISTINCT " else "") ::
    (if s.select.isEmpty then [.plain (s.sqlAlias ++ ".*")]
      else commaFragments (s.select.map s.selectItemFragments)) ++
    .plain (" FROM " ++ s.source " ") :: s.joins.flatMap s.joinFragments

def assignmentFragments (a : Assignment) : List Fragment :=
  [.plain (sqlWord (s.entity.columnOf (s.resolver.strip a.target)) ++ " = "),
    .resolved (":" ++ a.param)]

/-- The beginning of the statement, up to the condition on rows. -/
def headFragments : List Fragment :=
  match s.kind with
  | .select => s.selectFragments
  | .update =>
    if s.set.isEmpty then [.fault .updateWithoutSet]
    else
      .plain ("UPDATE " ++ s.source " AS " ++ " SET ") ::
        commaFragments (s.set.map s.assignmentFragments)
  | .delete => [.plain ("DELETE FROM " ++ s.source " AS ")]

/-- What follows the condition on rows, which only a selection has. -/
def tailFragments : List Fragment :=
  match s.kind with
  | .select => s.groupingFragments ++ s.orderingFragments ++ [.plain s.windowText]
  | _ => []

def statementFragments : List Fragment :=
  s.headFragments ++ s.whereFragments ++ s.tailFragments

def countFragments : List Fragment :=
  if s.isGrouped then
    .plain "SELECT COUNT(*) FROM (" ::
      s.selectFragments ++ s.whereFragments ++ s.groupingFragments ++ [.plain ") AS t"]
  else
    .plain ("SELECT COUNT(*) FROM " ++ s.source " ") ::
      s.joins.flatMap s.joinFragments ++ s.whereFragments

/-- What holds of a comma and of all fragments of the rows holds of the rows put together. -/
theorem forall_mem_commaFragments {p : Fragment → Prop} {rows : List (List Fragment)}
    (hcomma : p (.plain ", ")) (h : ∀ row ∈ rows, ∀ fragment ∈ row, p fragment) :
    ∀ fragment ∈ commaFragments rows, p fragment := by
  intro fragment hmem
  rcases mem_of_mem_intercalate hmem with hsep | ⟨row, hrow, hmem⟩
  · obtain rfl := List.mem_singleton.1 hsep
    exact hcomma
  · exact h row hrow fragment hmem

/-! ### The parts of a statement write its fragments -/

/-- The part does to every writer what its fragments do. -/
def Writes (scope : Scope) (part : Part) (fragments : List Fragment) : Prop :=
  ∀ w, part w = writeAll scope w fragments

variable {scope : Scope}

/-- Fragments are written from the left, and the first that fails ends the writing. -/
theorem writeAll_cons (w : Writer) (fragment : Fragment) (rest : List Fragment) :
    writeAll scope w (fragment :: rest) =
      (fragment.write scope w).bind fun next => writeAll scope next rest :=
  List.foldlM_cons

/-- Two rows of fragments are written one behind the other. -/
theorem writeAll_append (w : Writer) (earlier later : List Fragment) :
    writeAll scope w (earlier ++ later) =
      (writeAll scope w earlier).bind fun next => writeAll scope next later :=
  List.foldlM_append

/-- Two texts that follow one another may be put together first. -/
theorem writeAll_plain_plain (w : Writer) (first second : String) (fragments : List Fragment) :
    writeAll scope w (.plain first :: .plain second :: fragments) =
      writeAll scope w (.plain (first ++ second) :: fragments) := by
  have hpush : (w.push first).push second = w.push (first ++ second) := by
    simp only [Writer.push, String.append_assoc]
  change writeAll scope ((w.push first).push second) fragments =
    writeAll scope (w.push (first ++ second)) fragments
  rw [hpush]

theorem writes_plain (text : String) : Writes scope (plain text) [.plain text] :=
  fun _ => rfl

theorem writes_resolved (text : String) : Writes s.scope (s.resolved text) [.resolved text] := by
  intro w
  rw [writeAll_cons, resolved, Fragment.write]
  cases w.pushText s.scope text <;> rfl

theorem writes_fault (reason : ValidationFault) (rest : List Fragment) :
    Writes scope (fun _ => .error reason) (.fault reason :: rest) :=
  fun _ => rfl

theorem writes_inOrder_nil : Writes scope (inOrder []) [] :=
  fun _ => rfl

/-- Parts in order write the fragments of the first one and then those of the others. -/
theorem writes_inOrder_cons {part : Part} {parts : List Part} {fragments rest : List Fragment}
    (h : Writes scope part fragments) (hrest : Writes scope (inOrder parts) rest) :
    Writes scope (inOrder (part :: parts)) (fragments ++ rest) := by
  intro w
  have hnext : (fun next => inOrder parts next) = fun next => writeAll scope next rest :=
    funext hrest
  rw [writeAll_append, ← h w, ← hnext]
  exact List.foldlM_cons

/-- If each item has its part and its fragments, the parts in order write the fragments in order. -/
theorem writes_inOrder_map {α : Type} {part : α → Part} {fragments : α → List Fragment}
    (h : ∀ a, Writes scope (part a) (fragments a)) (items : List α) :
    Writes scope (inOrder (items.map part)) (items.flatMap fragments) := by
  induction items with
  | nil => exact writes_inOrder_nil
  | cons a rest ih => exact writes_inOrder_cons (h a) ih

/-- The same with commas between the items. -/
theorem writes_commaList {α : Type} {part : α → Part} {fragments : α → List Fragment}
    (h : ∀ a, Writes scope (part a) (fragments a)) (items : List α) :
    Writes scope (commaList (items.map part)) (commaFragments (items.map fragments)) := by
  cases items with
  | nil => exact writes_inOrder_nil
  | cons a rest =>
    induction rest generalizing a with
    | nil => exact writes_inOrder_cons (h a) writes_inOrder_nil
    | cons b rest ih =>
      exact writes_inOrder_cons (h a) (writes_inOrder_cons (writes_plain _) (ih b))

theorem writes_selectItem (item : String) :
    Writes s.scope (s.selectItem item) (s.selectItemFragments item) := by
  rw [selectItem, selectItemFragments]
  split
  · exact writes_plain _
  · exact s.writes_resolved item

/-- The condition of a join behind its keyword, if there is one. -/
theorem writes_joinCondition (keyword : String) (condition? : Option String) :
    Writes s.scope
      (inOrder
        (match condition? with
        | some text => [plain keyword, s.resolved text]
        | none => []))
      (match condition? with
      | some text => [.plain keyword, .resolved text]
      | none => []) := by
  cases condition? with
  | none => exact writes_inOrder_nil
  | some text =>
    exact writes_inOrder_cons (writes_plain keyword)
      (writes_inOrder_cons (s.writes_resolved text) writes_inOrder_nil)

/-- A join writes its table or the table of its association, and fails if it has neither an
association nor a condition. -/
theorem writes_joinPart (j : Join) : Writes s.scope (s.joinPart j) (s.joinFragments j) := by
  have hjoined (keyword : String) := s.writes_joinCondition keyword j.condition?
  unfold joinPart joinFragments
  cases hassoc : s.associationOf? j.target with
  | some assoc => exact writes_inOrder_cons (writes_plain _) (hjoined " AND ")
  | none =>
    cases hcondition : j.condition? with
    | none => exact writes_fault _ _
    | some text =>
      rw [hcondition] at hjoined
      exact writes_inOrder_cons (writes_plain _) (hjoined " ON ")

/-- A clause is written unless its predicate is empty. -/
theorem writes_predicatePart (keyword : String) (predicate? : Option Expr) :
    Writes s.scope (s.predicatePart keyword predicate?)
      (predicateFragments keyword predicate?) := by
  cases predicate? with
  | none => exact writes_inOrder_nil
  | some predicate =>
    simp only [predicatePart, predicateFragments]
    split
    · exact writes_inOrder_nil
    · exact writes_inOrder_cons (writes_plain keyword)
        (writes_inOrder_cons (s.writes_resolved _) writes_inOrder_nil)

theorem writes_wherePart : Writes s.scope s.wherePart s.whereFragments :=
  s.writes_predicatePart " WHERE " s.where?

theorem writes_groupingPart : Writes s.scope s.groupingPart s.groupingFragments := by
  have hgroups :
      Writes s.scope
        (if s.groupBy.isEmpty then inOrder []
          else inOrder [plain " GROUP BY ", s.resolved (", ".intercalate s.groupBy)])
        (if s.groupBy.isEmpty then []
          else [.plain " GROUP BY ", .resolved (", ".intercalate s.groupBy)]) := by
    split
    · exact writes_inOrder_nil
    · exact writes_inOrder_cons (writes_plain _)
        (writes_inOrder_cons (s.writes_resolved _) writes_inOrder_nil)
  have hhaving := writes_inOrder_cons (s.writes_predicatePart " HAVING " s.having?)
    writes_inOrder_nil
  rw [List.append_nil] at hhaving
  exact writes_inOrder_cons hgroups hhaving

theorem writes_sortPart (entry : SortEntry) :
    Writes s.scope (s.sortPart entry) (sortFragments entry) := by
  rw [sortPart, sortFragments]
  cases entry.direction? with
  | none => exact s.writes_resolved _
  | some direction =>
    exact writes_inOrder_cons (s.writes_resolved _)
      (writes_inOrder_cons (writes_plain _) writes_inOrder_nil)

theorem writes_orderingPart : Writes s.scope s.orderingPart s.orderingFragments := by
  rw [orderingPart, orderingFragments]
  split
  · exact writes_inOrder_nil
  · have hentries := writes_inOrder_cons (writes_commaList s.writes_sortPart s.orderBy)
      writes_inOrder_nil
    rw [List.append_nil] at hentries
    exact writes_inOrder_cons (writes_plain _) hentries

theorem writes_joinsPart : Writes s.scope s.joinsPart (s.joins.flatMap s.joinFragments) :=
  writes_inOrder_map s.writes_joinPart s.joins

theorem writes_selectPart : Writes s.scope s.selectPart s.selectFragments := by
  have hitems :
      Writes s.scope
        (if s.select.isEmpty then plain (s.sqlAlias ++ ".*")
          else commaList (s.select.map s.selectItem))
        (if s.select.isEmpty then [.plain (s.sqlAlias ++ ".*")]
          else commaFragments (s.select.map s.selectItemFragments)) := by
    split
    · exact writes_plain _
    · exact writes_commaList s.writes_selectItem s.select
  have hjoins := writes_inOrder_cons s.writes_joinsPart writes_inOrder_nil
  rw [List.append_nil] at hjoins
  have hall := writes_inOrder_cons
    (writes_plain ("SELECT " ++ if s.distinct then "DISTINCT " else ""))
    (writes_inOrder_cons hitems
      (writes_inOrder_cons (writes_plain (" FROM " ++ s.source " ")) hjoins))
  rw [selectPart, selectFragments]
  simpa using hall

theorem writes_assignmentPart (a : Assignment) :
    Writes s.scope (s.assignmentPart a) (s.assignmentFragments a) :=
  writes_inOrder_cons (writes_plain _)
    (writes_inOrder_cons (s.writes_resolved _) writes_inOrder_nil)

/-- The statement of a session writes its fragments, for each kind of statement. -/
theorem writes_statementPart : Writes s.scope s.statementPart s.statementFragments := by
  unfold statementPart statementFragments headFragments tailFragments
  cases s.kind with
  | select =>
    have htail : Writes s.scope (inOrder [plain s.windowText]) [.plain s.windowText] :=
      writes_inOrder_cons (writes_plain _) writes_inOrder_nil
    have hall := writes_inOrder_cons s.writes_selectPart
      (writes_inOrder_cons s.writes_wherePart
        (writes_inOrder_cons s.writes_groupingPart
          (writes_inOrder_cons s.writes_orderingPart htail)))
    simpa using hall
  | update =>
    simp only
    split
    · exact writes_fault _ _
    · have hall := writes_inOrder_cons (writes_plain ("UPDATE " ++ s.source " AS " ++ " SET "))
        (writes_inOrder_cons (writes_commaList s.writes_assignmentPart s.set)
          (writes_inOrder_cons s.writes_wherePart writes_inOrder_nil))
      simpa using hall
  | delete =>
    have hall := writes_inOrder_cons (writes_plain ("DELETE FROM " ++ s.source " AS "))
      (writes_inOrder_cons s.writes_wherePart writes_inOrder_nil)
    simpa using hall

/-- The statement that counts rows writes its fragments, through a subquery or directly. -/
theorem writes_countPart : Writes s.scope s.countPart s.countFragments := by
  rw [countPart, countFragments]
  split
  · have hall := writes_inOrder_cons (writes_plain "SELECT COUNT(*) FROM (")
      (writes_inOrder_cons s.writes_selectPart
        (writes_inOrder_cons s.writes_wherePart
          (writes_inOrder_cons s.writes_groupingPart
            (writes_inOrder_cons (writes_plain ") AS t") writes_inOrder_nil))))
    simpa using hall
  · have hall := writes_inOrder_cons (writes_plain ("SELECT COUNT(*) FROM " ++ s.source " "))
      (writes_inOrder_cons s.writes_joinsPart
        (writes_inOrder_cons s.writes_wherePart writes_inOrder_nil))
    simpa using hall

/-- The statement of a session is what its fragments write. -/
theorem build_eq : s.build = (writeAll s.scope {} s.statementFragments).map Writer.finish := by
  rw [build, s.writes_statementPart]

/-- The statement that counts the rows of a selection is what its fragments write into a new
writer. -/
theorem buildCount_eq (h : s.kind = .select) :
    s.buildCount = (writeAll s.scope {} s.countFragments).map Writer.finish := by
  rw [buildCount, h]
  exact congrArg (Except.map Writer.finish) (s.writes_countPart {})

/-- The rows of an update or a deletion are not counted. -/
theorem buildCount_of_ne_select (h : s.kind ≠ .select) :
    s.buildCount = .error .countOfMutation := by
  rw [buildCount]
  split
  · contradiction
  · rfl

theorem fault_not_mem_predicateFragments {keyword : String} {predicate? : Option Expr}
    {reason : ValidationFault} : .fault reason ∉ predicateFragments keyword predicate? := by
  cases predicate? with
  | none => exact List.not_mem_nil
  | some predicate =>
    rw [predicateFragments]
    split
    · exact List.not_mem_nil
    · simp

/-! ### What fragments write -/

/-- The segments of a fragment. Text that is written as it is counts as one segment. -/
def Fragment.segments (scope : Scope) : Fragment → List Segment
  | plain text => [.verbatim text.toList]
  | resolved text => Sql.segments scope.entityAlias text
  | fault _ => []

/-- What a fragment writes, its segments write. -/
theorem foldlM_of_write {w after : Writer} {fragment : Fragment}
    (h : fragment.write scope w = .ok after) :
    (fragment.segments scope).foldlM (Writer.pushSegment scope) w = .ok after := by
  cases fragment with
  | plain text =>
    cases h
    rw [Fragment.segments, List.foldlM_cons, Writer.pushSegment, String.ofList_toList]
    rfl
  | resolved text => exact h
  | fault reason => cases h

/-- What fragments write, the row of all their segments writes. -/
theorem foldlM_of_writeAll {w after : Writer} {fragments : List Fragment}
    (h : writeAll scope w fragments = .ok after) :
    (fragments.flatMap (Fragment.segments scope)).foldlM (Writer.pushSegment scope) w =
      .ok after := by
  induction fragments generalizing w with
  | nil => exact h
  | cons fragment rest ih =>
    obtain ⟨next, hfirst, hrest⟩ := foldlM_cons_eq_ok h
    rw [List.flatMap_cons, List.foldlM_append, foldlM_of_write hfirst]
    exact ih hrest

/-- What fragments write is what their segments write, so the theorems about segments hold for whole
statements. -/
theorem wrote_of_writeAll {w after : Writer} {fragments : List Fragment}
    (h : writeAll scope w fragments = .ok after) :
    Wrote scope (fragments.flatMap (Fragment.segments scope)) w after :=
  wrote_of_foldlM (foldlM_of_writeAll h)

/-- Fragments can be written when none of them is a fault and all placeholders are bound. -/
theorem exists_writeAll {fragments : List Fragment} (w : Writer)
    (hfault : ∀ reason, .fault reason ∉ fragments)
    (hbound : ∀ name inList,
      .placeholder name inList ∈ fragments.flatMap (Fragment.segments scope) →
        ∃ value, scope.table.value? (String.ofList name) = some value) :
    ∃ after, writeAll scope w fragments = .ok after := by
  induction fragments generalizing w with
  | nil => exact ⟨w, rfl⟩
  | cons fragment rest ih =>
    have hfirst : ∃ next, fragment.write scope w = .ok next := by
      cases fragment with
      | plain text => exact ⟨_, rfl⟩
      | resolved text =>
        exact exists_foldlM w fun name inList hmem =>
          hbound name inList (List.mem_append_left _ hmem)
      | fault reason => exact absurd List.mem_cons_self (hfault reason)
    obtain ⟨next, hnext⟩ := hfirst
    obtain ⟨after, hafter⟩ := ih next
      (fun reason hmem => hfault reason (List.mem_cons_of_mem _ hmem))
      (fun name inList hmem => hbound name inList (List.mem_append_right _ hmem))
    refine ⟨after, ?_⟩
    rw [writeAll_cons, hnext]
    exact hafter

end EntityQuery.Session
