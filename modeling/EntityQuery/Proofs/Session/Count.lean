import EntityQuery.Proofs.Names
import EntityQuery.Proofs.Session.Fragments

namespace EntityQuery

open Sql

/-! ### Writing behind a text -/

/-- The writer with a text in front of everything that it wrote. -/
def Sql.Writer.behind (head : String) (w : Writer) : Writer :=
  { w with sql := head ++ w.sql }

theorem Sql.Writer.behind_push (head : String) (w : Writer) (text : String) :
    (w.behind head).push text = (w.push text).behind head := by
  simp only [behind, push, String.append_assoc]

theorem Sql.Writer.push_eq_behind (text : String) : push {} text = behind text {} := by
  simp only [behind, push, String.append_empty, String.empty_append]

/-- A segment is written in the same way behind any text, since the numbers of parameters do not
depend on the text. -/
theorem Sql.pushSegment_behind (scope : Scope) (head : String) (w : Writer) (segment : Segment) :
    (w.behind head).pushSegment scope segment =
      (w.pushSegment scope segment).map (Writer.behind head) := by
  cases segment with
  | verbatim text => exact congrArg Except.ok (w.behind_push head _)
  | field name => exact congrArg Except.ok (w.behind_push head _)
  | placeholder name inList =>
    rw [Writer.pushSegment, Writer.pushSegment]
    cases hwritten : w.written.lookup (String.ofList name) with
    | some text =>
      have hwritten' : (w.behind head).written.lookup (String.ofList name) = some text := hwritten
      rw [Writer.bind_of_written hwritten, Writer.bind_of_written hwritten']
      exact congrArg Except.ok (w.behind_push head text)
    | none =>
      have hwritten' : (w.behind head).written.lookup (String.ofList name) = none := hwritten
      cases hvalue : scope.table.value? (String.ofList name) with
      | none =>
        rw [Writer.bind_of_unbound hwritten hvalue, Writer.bind_of_unbound hwritten' hvalue]
        rfl
      | some value =>
        rw [Writer.bind_of_value hwritten hvalue, Writer.bind_of_value hwritten' hvalue]
        simp only [Except.map, Writer.behind, Writer.push, String.append_assoc]

/-- A loop whose steps commute with a change of the state commutes with it as a whole. -/
theorem foldlM_commute {α β ε : Type} {f : β → α → Except ε β} {g : β → β}
    (h : ∀ b a, f (g b) a = (f b a).map g) (items : List α) (b : β) :
    items.foldlM f (g b) = (items.foldlM f b).map g := by
  induction items generalizing b with
  | nil => rfl
  | cons a rest ih =>
    rw [List.foldlM_cons, List.foldlM_cons, h]
    cases f b a with
    | error reason => rfl
    | ok next => exact ih next

namespace Session

/-- A fragment is written in the same way behind any text. -/
theorem write_behind (scope : Scope) (head : String) (w : Writer) (fragment : Fragment) :
    fragment.write scope (w.behind head) = (fragment.write scope w).map (Writer.behind head) := by
  cases fragment with
  | plain text => exact congrArg Except.ok (w.behind_push head text)
  | resolved text => exact foldlM_commute (pushSegment_behind scope head) _ w
  | fault reason => rfl

/-- What is written does not depend on the text that it is written behind. -/
theorem writeAll_behind (scope : Scope) (head : String) (w : Writer) (fragments : List Fragment) :
    writeAll scope (w.behind head) fragments =
      (writeAll scope w fragments).map (Writer.behind head) :=
  foldlM_commute (write_behind scope head) fragments w

/-- A plain fragment at the front is put in front of what the others write. -/
theorem writeAll_plain_cons (scope : Scope) (head : String) (fragments : List Fragment) :
    writeAll scope {} (.plain head :: fragments) =
      (writeAll scope {} fragments).map (Writer.behind head) := by
  rw [writeAll_cons, ← writeAll_behind, ← Writer.push_eq_behind]
  rfl

/-- A plain fragment at the end is pushed onto what the others write. -/
theorem writeAll_concat (scope : Scope) (w : Writer) (fragments : List Fragment) (foot : String) :
    writeAll scope w (fragments ++ [.plain foot]) =
      (writeAll scope w fragments).map fun next => next.push foot := by
  rw [writeAll_append]
  cases writeAll scope w fragments with
  | error reason => rfl
  | ok next => rfl

/-! ### The two ways to count -/

variable (s : Session)

/-- The session without its ordering and its window. -/
def unordered : Session :=
  { s with orderBy := [], maxResults? := none, firstResult? := none }

/-- The session with its alias as the only selected item. -/
def selectingAlias : Session :=
  { s with select := [s.entityAlias] }

variable {s}

/-- Without ordering and window, the grouping is the last that a selection writes. -/
theorem statementFragments_unordered (h : s.kind = .select) :
    s.unordered.statementFragments =
      s.selectFragments ++ s.whereFragments ++ s.groupingFragments ++ [.plain ""] := by
  have hkind : s.unordered.kind = .select := h
  have hordering : s.unordered.orderingFragments = [] := rfl
  have hwindow : s.unordered.windowText = "" := rfl
  rw [statementFragments, headFragments, tailFragments, hkind]
  simp only [hordering, hwindow, List.append_nil, ← List.append_assoc]
  rfl

theorem groupingFragments_eq_nil (hgroup : s.groupBy = []) (hhaving : s.having? = none) :
    s.groupingFragments = [] := by
  rw [groupingFragments, hgroup, hhaving]
  rfl

/-- With the alias as the only item, the list of items is the alias and a star. -/
theorem selectFragments_selectingAlias (hdistinct : s.distinct = false) :
    s.selectingAlias.selectFragments =
      .plain "SELECT " :: .plain (s.sqlAlias ++ ".*") :: .plain (" FROM " ++ s.source " ") ::
        s.joins.flatMap s.joinFragments := by
  have hitem : s.selectingAlias.selectItemFragments s.entityAlias = [.plain (s.sqlAlias ++ ".*")] :=
    if_pos rfl
  have hdistinct : s.selectingAlias.distinct = false := hdistinct
  have hselect : s.selectingAlias.select = [s.entityAlias] := rfl
  rw [selectFragments, hdistinct, hselect, List.map_singleton, hitem]
  rfl

/-- A selection whose rows are counted through a subquery. -/
theorem buildCount_of_isGrouped (hkind : s.kind = .select) (h : s.isGrouped) :
    s.buildCount = s.unordered.build.map fun q =>
      ⟨"SELECT COUNT(*) FROM (" ++ q.sql ++ ") AS t", q.params⟩ := by
  have hcount : s.countFragments =
      .plain "SELECT COUNT(*) FROM (" ::
        (s.selectFragments ++ s.whereFragments ++ s.groupingFragments) ++ [.plain ") AS t"] :=
    if_pos h
  have hscope : s.unordered.scope = s.scope := rfl
  rw [buildCount_eq s hkind, build_eq, statementFragments_unordered hkind, hcount, hscope,
    writeAll_concat, writeAll_concat, writeAll_plain_cons]
  cases writeAll s.scope {} (s.selectFragments ++ s.whereFragments ++ s.groupingFragments) with
  | error reason => rfl
  | ok w => simp [Except.map, Writer.finish, Writer.push, Writer.behind]

/-- What stands behind the word `FROM` when rows are counted directly. -/
def countedFrom (s : Session) : Except ValidationFault (String × List Value) :=
  (writeAll s.scope {} (s.joins.flatMap s.joinFragments ++ s.whereFragments)).map fun w =>
    (" " ++ s.source " " ++ w.sql, w.params)

/-- A selection whose rows are counted directly. -/
theorem buildCount_of_not_isGrouped (hkind : s.kind = .select) (h : s.isGrouped = false) :
    s.buildCount = s.countedFrom.map fun (tail, params) =>
      ⟨"SELECT COUNT(*)" ++ " FROM" ++ tail, params⟩ := by
  have hcount : s.countFragments =
      .plain ("SELECT COUNT(*) FROM " ++ s.source " ") ::
        (s.joins.flatMap s.joinFragments ++ s.whereFragments) :=
    if_neg (by simp [h])
  have hhead : "SELECT COUNT(*) FROM " = "SELECT COUNT(*)" ++ " FROM" ++ " " := by decide +kernel
  rw [buildCount_eq s hkind, hcount, writeAll_plain_cons, countedFrom, hhead]
  cases writeAll s.scope {} (s.joins.flatMap s.joinFragments ++ s.whereFragments) with
  | error reason => rfl
  | ok w => simp only [Except.map, Writer.finish, Writer.behind, String.append_assoc]

/-- The same rows are listed when the alias is the only selected item. -/
theorem build_selectingAlias (hkind : s.kind = .select) (h : s.isGrouped = false) :
    s.unordered.selectingAlias.build = s.countedFrom.map fun (tail, params) =>
      ⟨"SELECT " ++ sqlWord s.entityAlias ++ ".*" ++ " FROM" ++ tail, params⟩ := by
  simp only [isGrouped, Bool.or_eq_false_iff, Bool.not_eq_false', List.isEmpty_iff,
    Option.isSome_eq_false_iff, Option.isNone_iff_eq_none] at h
  obtain ⟨⟨hgroup, hhaving⟩, hdistinct⟩ := h
  have hgrouping : s.selectingAlias.groupingFragments = [] :=
    groupingFragments_eq_nil (s := s.selectingAlias) hgroup hhaving
  have hstatement : s.unordered.selectingAlias.statementFragments =
      .plain "SELECT " :: .plain (s.sqlAlias ++ ".*") :: .plain (" FROM " ++ s.source " ") ::
        (s.joins.flatMap s.joinFragments ++ s.whereFragments) ++ [.plain ""] := by
    have hunordered := statementFragments_unordered (s := s.selectingAlias) hkind
    rw [selectFragments_selectingAlias hdistinct, hgrouping, List.append_nil] at hunordered
    exact hunordered
  have hscope : s.unordered.selectingAlias.scope = s.scope := rfl
  have hfrom : " FROM " = " FROM" ++ " " := by decide +kernel
  rw [build_eq, hstatement, hscope, writeAll_concat, writeAll_plain_plain, writeAll_plain_plain,
    writeAll_plain_cons, countedFrom, hfrom]
  cases writeAll s.scope {} (s.joins.flatMap s.joinFragments ++ s.whereFragments) with
  | error reason => rfl
  | ok w =>
    simp only [Except.map, Writer.finish, Writer.behind, Writer.push, String.append_assoc,
      String.append_empty, sqlAlias]

/-- The rows are counted through a subquery if the selection is grouped, distinct or has a condition
on groups. -/
theorem isGrouped_iff : s.isGrouped ↔ s.groupBy ≠ [] ∨ s.distinct ∨ s.having?.isSome := by
  simp only [isGrouped, Bool.or_eq_true, Bool.not_eq_true', List.isEmpty_eq_false_iff, ne_eq]
  tauto

/-- The rows of a selection are counted by a statement about the same rows. A selection that is
grouped, distinct or has a condition on groups is a subquery of it, and for any other one it only
begins in another way than the list of the rows. Nothing but a selection is counted. -/
theorem buildCount_eq_build (s : Session) :
    (s.kind = .select → s.groupBy ≠ [] ∨ s.distinct ∨ s.having?.isSome →
      s.buildCount = s.unordered.build.map fun q =>
        ⟨"SELECT COUNT(*) FROM (" ++ q.sql ++ ") AS t", q.params⟩) ∧
    (s.kind = .select → ¬ (s.groupBy ≠ [] ∨ s.distinct ∨ s.having?.isSome) →
      ∃ listed : Except ValidationFault (String × List Value),
        s.buildCount = listed.map (fun (tail, params) =>
          ⟨"SELECT COUNT(*)" ++ " FROM" ++ tail, params⟩) ∧
        s.unordered.selectingAlias.build = listed.map (fun (tail, params) =>
          ⟨"SELECT " ++ sqlWord s.entityAlias ++ ".*" ++ " FROM" ++ tail, params⟩)) ∧
    (s.kind ≠ .select → s.buildCount = .error .countOfMutation) := by
  rw [← isGrouped_iff]
  refine ⟨buildCount_of_isGrouped, fun hkind h => ?_, s.buildCount_of_ne_select⟩
  rw [Bool.not_eq_true] at h
  exact ⟨s.countedFrom, buildCount_of_not_isGrouped hkind h, build_selectingAlias hkind h⟩

/-- The first users by name behind a given one. -/
def Samples.page : Session :=
  { (new EntityQuery.Samples.user).selectFromEntity none with
    where? := some (.compare "u.name" .gt "name")
    orderBy := [{ text := "u.name", direction? := some .ascending }]
    params := ({} : ParamTable).set "name" (.string "Ada") none
    maxResults? := some 10 }

/-- A page of users is counted directly, the same page without duplicates through a subquery, and a
deletion not at all. -/
theorem buildCount_eq_build_page :
    (Samples.page.kind = .select ∧
      ¬ (Samples.page.groupBy ≠ [] ∨ Samples.page.distinct ∨ Samples.page.having?.isSome) ∧
      ∃ listed : Except ValidationFault (String × List Value),
        Samples.page.buildCount = listed.map (fun (tail, params) =>
          ⟨"SELECT COUNT(*)" ++ " FROM" ++ tail, params⟩) ∧
        Samples.page.unordered.selectingAlias.build = listed.map (fun (tail, params) =>
          ⟨"SELECT " ++ sqlWord Samples.page.entityAlias ++ ".*" ++ " FROM" ++ tail, params⟩)) ∧
    ((Samples.page.setDistinct true).kind = .select ∧ (Samples.page.setDistinct true).distinct ∧
      (Samples.page.setDistinct true).buildCount =
        (Samples.page.setDistinct true).unordered.build.map fun q =>
          ⟨"SELECT COUNT(*) FROM (" ++ q.sql ++ ") AS t", q.params⟩) ∧
    Samples.page.toDelete.kind ≠ .select ∧
      Samples.page.toDelete.buildCount = .error .countOfMutation := by
  have hkind : Samples.page.kind = .select := rfl
  have hplain :
      ¬ (Samples.page.groupBy ≠ [] ∨ Samples.page.distinct ∨ Samples.page.having?.isSome) := by
    decide +kernel
  have hdistinct : (Samples.page.setDistinct true).distinct := rfl
  have hdelete : Samples.page.toDelete.kind ≠ .select := by decide
  exact ⟨⟨hkind, hplain, (buildCount_eq_build Samples.page).2.1 hkind hplain⟩,
    ⟨rfl, hdistinct, (buildCount_eq_build _).1 rfl (Or.inr (Or.inl hdistinct))⟩,
    hdelete, (buildCount_eq_build _).2.2 hdelete⟩

end Session

end EntityQuery
