import EntityQuery.Proofs.Session.Fragments
import EntityQuery.Proofs.Sql.Spacing

namespace EntityQuery.Session

open Sql

variable {scope : Scope}

/-- No reference of a row of fragments runs into the text behind it. -/
def IsSpaced (scope : Scope) (row : List Fragment) : Prop :=
  Spaced scope (row.flatMap (Fragment.segments scope))

/-- A row of fragments that begins with a fixed text, or writes nothing at all. The first character
is of the given kind. -/
def OpensWith (p : Char → Prop) : List Fragment → Prop
  | [] => True
  | .plain text :: rest => (∀ c ∈ text.toList.head?, p c) ∧ (text = "" → OpensWith p rest)
  | .resolved _ :: _ => False
  | .fault _ :: rest => OpensWith p rest

variable {p q : Char → Prop} {row next : List Fragment}

/-- A fixed text that is not empty decides how the row begins. -/
theorem opensWith_plain_cons {text : String} {c : Char} (htext : text.toList.head? = some c)
    (hc : p c) : OpensWith p (.plain text :: row) := by
  refine ⟨fun d hd => ?_, ?_⟩
  · obtain rfl : c = d := by simpa [htext] using hd
    exact hc
  · rintro rfl
    cases htext

/-- Two rows begin like the first one, and like the second if the first writes nothing. -/
theorem OpensWith.append (h : OpensWith p row) (h' : OpensWith p next) :
    OpensWith p (row ++ next) := by
  induction row with
  | nil => exact h'
  | cons fragment rest ih =>
    cases fragment with
    | plain text => exact ⟨h.1, fun htext => ih (h.2 htext)⟩
    | resolved text => exact h.elim
    | fault reason => exact ih h

theorem OpensWith.mono (h : OpensWith p row) (hpq : ∀ c, p c → q c) : OpensWith q row := by
  induction row with
  | nil => trivial
  | cons fragment rest ih =>
    cases fragment with
    | plain text => exact ⟨fun c hc => hpq c (h.1 c hc), fun htext => ih (h.2 htext)⟩
    | resolved text => exact h
    | fault reason => exact ih h

/-- The first character does not depend on what is written for fields and placeholders. -/
theorem OpensWith.head? {text : Segment → List Char} (h : OpensWith p row)
    (htext : ∀ cs, text (.verbatim cs) = cs) :
    ∀ c ∈ ((row.flatMap (Fragment.segments scope)).flatMap text).head?, p c := by
  induction row with
  | nil => simp
  | cons fragment rest ih =>
    cases fragment with
    | resolved text => exact h.elim
    | fault reason => exact ih h
    | plain lead =>
      rw [List.flatMap_cons, Fragment.segments, List.flatMap_append, List.flatMap_singleton, htext]
      cases hlead : lead.toList with
      | nil => exact ih (h.2 (String.toList_eq_nil_iff.1 hlead))
      | cons d more =>
        intro c hc
        obtain rfl : d = c := by simpa using hc
        exact h.1 d (by simp [hlead])

theorem isSpaced_nil : IsSpaced scope [] :=
  trivial

/-- A text has no text behind it in its own row. Inside it a placeholder ends where the scan ends
it. -/
theorem isSpaced_resolved (text : String) : IsSpaced scope [.resolved text] := by
  rw [IsSpaced, List.flatMap_singleton]
  exact spaced_of_readsAll (readsAll_segmentsFrom scope.entityAlias.toList [] text.toList)

/-- A fixed text in front has no reference that could run on. -/
theorem isSpaced_plain_cons {text : String} (h : IsSpaced scope row) :
    IsSpaced scope (.plain text :: row) :=
  h

/-- Two rows of which the second does not begin with a digit can stand behind each other. -/
theorem IsSpaced.append (h : IsSpaced scope row) (h' : IsSpaced scope next)
    (hopens : OpensWith (fun c => c.isDigit = false) next) : IsSpaced scope (row ++ next) := by
  rw [IsSpaced, List.flatMap_append]
  exact Spaced.append h h' (hopens.head? fun _ => rfl)

/-- A comma stands behind each row but the last. -/
theorem isSpaced_commaFragments {rows : List (List Fragment)}
    (h : ∀ row ∈ rows, IsSpaced scope row) : IsSpaced scope (commaFragments rows) := by
  induction rows with
  | nil => exact isSpaced_nil
  | cons row rest ih =>
    have hrow := h row List.mem_cons_self
    have hrest := ih fun other hother => h other (List.mem_cons_of_mem _ hother)
    cases rest with
    | nil => simpa [commaFragments] using hrow
    | cons next rest =>
      rw [commaFragments, List.intercalate_cons_cons, List.append_assoc]
      have hcomma : ", ".toList.head? = some ',' := by decide
      exact hrow.append (isSpaced_plain_cons hrest) (opensWith_plain_cons hcomma (by decide))

/-- A part of a statement that begins with a blank, and so may stand behind anything. -/
structure IsClause (scope : Scope) (row : List Fragment) : Prop where
  spaced : IsSpaced scope row
  opens : OpensWith (· = ' ') row

theorem IsSpaced.append_clause (h : IsSpaced scope row) (h' : IsClause scope next) :
    IsSpaced scope (row ++ next) := by
  refine h.append h'.spaced (h'.opens.mono ?_)
  rintro c rfl
  decide

theorem isClause_nil : IsClause scope [] :=
  ⟨isSpaced_nil, trivial⟩

theorem isClause_fault (reason : ValidationFault) : IsClause scope [.fault reason] :=
  ⟨isSpaced_nil, trivial⟩

theorem IsClause.append (h : IsClause scope row) (h' : IsClause scope next) :
    IsClause scope (row ++ next) :=
  ⟨h.spaced.append_clause h', h.opens.append h'.opens⟩

theorem isClause_flatMap {α : Type} {items : List α} {clause : α → List Fragment}
    (h : ∀ a ∈ items, IsClause scope (clause a)) : IsClause scope (items.flatMap clause) := by
  induction items with
  | nil => exact isClause_nil
  | cons a rest ih =>
    exact (h a List.mem_cons_self).append (ih fun b hb => h b (List.mem_cons_of_mem _ hb))

/-- A keyword with a blank in front makes a clause of what follows. -/
theorem isClause_plain_cons {text : String} (htext : text.toList.head? = some ' ')
    (h : IsSpaced scope row) : IsClause scope (.plain text :: row) :=
  ⟨isSpaced_plain_cons h, opensWith_plain_cons htext rfl⟩

/-! ### The clauses of a session -/

variable (s : Session)

theorem isSpaced_selectItemFragments (item : String) :
    IsSpaced scope (s.selectItemFragments item) := by
  rw [selectItemFragments]
  split
  · exact isSpaced_plain_cons isSpaced_nil
  · exact isSpaced_resolved item

theorem isClause_plain_resolved {keyword : String} (hkeyword : keyword.toList.head? = some ' ')
    (text : String) : IsClause scope [.plain keyword, .resolved text] :=
  isClause_plain_cons hkeyword (isSpaced_resolved text)

/-- Each join begins with a blank. -/
theorem isClause_joinFragments (j : Join) : IsClause scope (s.joinFragments j) := by
  unfold joinFragments
  cases s.associationOf? j.target with
  | some assoc =>
    cases j.condition? with
    | some text =>
      refine isClause_plain_cons ?_ (isClause_plain_resolved (by decide) text).spaced
      simp
    | none =>
      refine isClause_plain_cons ?_ isSpaced_nil
      simp
  | none =>
    cases j.condition? with
    | some text =>
      refine isClause_plain_cons ?_ (isClause_plain_resolved (by decide) text).spaced
      simp
    | none => exact isClause_fault _

/-- A clause with its keyword begins with a blank, and an empty one writes nothing. -/
theorem isClause_predicateFragments {keyword : String} (hkeyword : keyword.toList.head? = some ' ')
    (predicate? : Option Expr) : IsClause scope (predicateFragments keyword predicate?) := by
  unfold predicateFragments
  split
  · exact isClause_nil
  · split
    · exact isClause_nil
    · exact isClause_plain_resolved hkeyword _

theorem isClause_whereFragments : IsClause scope s.whereFragments :=
  isClause_predicateFragments (by decide) s.where?

theorem isClause_groupingFragments : IsClause scope s.groupingFragments := by
  have hhaving : IsClause scope (predicateFragments " HAVING " s.having?) :=
    isClause_predicateFragments (by decide) s.having?
  rw [groupingFragments]
  split
  · exact hhaving
  · exact (isClause_plain_resolved (by decide) _).append hhaving

theorem isSpaced_sortFragments (entry : SortEntry) : IsSpaced scope (sortFragments entry) := by
  rw [sortFragments]
  split
  · rename_i direction _
    have hkeyword : IsClause scope [.plain (" " ++ direction.keyword)] :=
      isClause_plain_cons (by simp) isSpaced_nil
    exact (isSpaced_resolved entry.text).append_clause hkeyword
  · exact isSpaced_resolved entry.text

theorem isClause_orderingFragments : IsClause scope s.orderingFragments := by
  rw [orderingFragments]
  split
  · exact isClause_nil
  · refine isClause_plain_cons (by decide) (isSpaced_commaFragments ?_)
    intro row hrow
    obtain ⟨entry, -, rfl⟩ := List.mem_map.1 hrow
    exact isSpaced_sortFragments entry

theorem isClause_window : IsClause scope [.plain s.windowText] where
  spaced := isSpaced_plain_cons isSpaced_nil
  opens := by
    have hword {text : String} (htext : text = "" ∨ text.toList.head? = some ' ') :
        ∀ c ∈ text.toList.head?, c = ' ' := by
      intro c hc
      rcases htext with rfl | htext
      · cases hc
      · simpa [htext, eq_comm] using hc
    refine ⟨?_, fun _ => trivial⟩
    rw [windowText, String.toList_append]
    apply forall_head?_append
    · apply hword
      split <;> simp
    · apply hword
      split <;> simp

theorem isSpaced_selectFragments : IsSpaced scope s.selectFragments := by
  have hitems : IsSpaced scope
      (if s.select.isEmpty then [.plain (s.sqlAlias ++ ".*")]
        else commaFragments (s.select.map s.selectItemFragments)) := by
    split
    · exact isSpaced_plain_cons isSpaced_nil
    · apply isSpaced_commaFragments
      intro row hrow
      obtain ⟨item, -, rfl⟩ := List.mem_map.1 hrow
      exact s.isSpaced_selectItemFragments item
  have hjoins : IsClause scope (s.joins.flatMap s.joinFragments) :=
    isClause_flatMap fun j _ => s.isClause_joinFragments j
  have hfrom : IsClause scope
      (.plain (" FROM " ++ s.source " ") :: s.joins.flatMap s.joinFragments) :=
    isClause_plain_cons (by simp) hjoins.spaced
  exact isSpaced_plain_cons (hitems.append_clause hfrom)

theorem isSpaced_headFragments : IsSpaced scope s.headFragments := by
  unfold headFragments
  split
  · exact s.isSpaced_selectFragments
  · split
    · exact (isClause_fault _).spaced
    · apply isSpaced_plain_cons
      apply isSpaced_commaFragments
      intro row hrow
      obtain ⟨a, -, rfl⟩ := List.mem_map.1 hrow
      exact isSpaced_plain_cons (isSpaced_resolved _)
  · exact isSpaced_plain_cons isSpaced_nil

theorem isClause_tailFragments : IsClause scope s.tailFragments := by
  unfold tailFragments
  split
  · exact (s.isClause_groupingFragments.append s.isClause_orderingFragments).append
      s.isClause_window
  · exact isClause_nil

/-- Whatever was asked of the session, a text with placeholders is followed by a fixed text that
begins with no digit. -/
theorem isSpaced_statementFragments : IsSpaced scope s.statementFragments :=
  (s.isSpaced_headFragments.append_clause s.isClause_whereFragments).append_clause
    s.isClause_tailFragments

/-- So it is in the statement that counts its rows. -/
theorem isSpaced_countFragments : IsSpaced scope s.countFragments := by
  rw [countFragments]
  split
  · have hselect : IsSpaced scope (.plain "SELECT COUNT(*) FROM (" :: s.selectFragments) :=
      isSpaced_plain_cons s.isSpaced_selectFragments
    have hend : IsSpaced scope [.plain ") AS t"] := isSpaced_plain_cons isSpaced_nil
    have hparen : ") AS t".toList.head? = some ')' := by decide
    exact ((hselect.append_clause s.isClause_whereFragments).append_clause
      s.isClause_groupingFragments).append hend (opensWith_plain_cons hparen (by decide))
  · have hjoins : IsClause scope (s.joins.flatMap s.joinFragments) :=
      isClause_flatMap fun j _ => s.isClause_joinFragments j
    exact isSpaced_plain_cons (hjoins.spaced.append_clause s.isClause_whereFragments)

end EntityQuery.Session
