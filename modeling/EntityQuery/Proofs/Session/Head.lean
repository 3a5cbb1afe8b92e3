import EntityQuery.Proofs.Session.Spacing
import EntityQuery.Session.Text

namespace EntityQuery.Session

open Sql

/-- A text that is empty or begins with a blank. -/
def OpensBlank (text : String) : Prop :=
  ∀ c ∈ text.toList.head?, c = ' '

theorem OpensBlank.empty : OpensBlank "" := by
  simp [OpensBlank]

theorem OpensBlank.of_head? {text : String} (h : text.toList.head? = some ' ') :
    OpensBlank text := by
  intro c hc
  simpa [h, eq_comm] using hc

/-- If the first of two texts is empty the second decides, and otherwise the first. -/
theorem OpensBlank.append {first second : String} (h : OpensBlank first) (h' : OpensBlank second) :
    OpensBlank (first ++ second) := by
  rw [OpensBlank, String.toList_append]
  exact forall_head?_append h h'

/-- A text that is empty or begins with one of several words. -/
def OpensWithOneOf (words : List String) (text : String) : Prop :=
  text = "" ∨ ∃ word ∈ words, word.toList <+: text.toList

variable {words : List String} {first second keyword : String}

theorem OpensWithOneOf.empty : OpensWithOneOf words "" :=
  Or.inl rfl

theorem OpensWithOneOf.of_word (h : first ∈ words) (rest : String) :
    OpensWithOneOf words (first ++ rest) :=
  Or.inr ⟨first, h, by simp⟩

/-- If the first of two texts is empty the second decides, and otherwise the first. -/
theorem OpensWithOneOf.append (h : OpensWithOneOf words first) (h' : OpensWithOneOf words second) :
    OpensWithOneOf words (first ++ second) := by
  rcases h with rfl | ⟨word, hword, hleads⟩
  · rwa [String.empty_append]
  · refine Or.inr ⟨word, hword, hleads.trans ?_⟩
    rw [String.toList_append]
    exact List.prefix_append _ _

/-- Words that begin with a blank begin a text with a blank. -/
theorem OpensWithOneOf.opensBlank (h : OpensWithOneOf words first)
    (hwords : ∀ word ∈ words, word.toList.head? = some ' ') : OpensBlank first := by
  rcases h with rfl | ⟨word, hword, rest, hrest⟩
  · exact .empty
  · exact .of_head? (by rw [← hrest, List.head?_append, hwords word hword, Option.some_or])

/-- A clause is empty or begins with its keyword. -/
theorem opensWithOneOf_predicateClause (h : keyword ∈ words) (predicate? : Option Expr) :
    OpensWithOneOf words (predicateClause keyword predicate?) := by
  unfold predicateClause
  split
  · exact .empty
  · split
    · exact .empty
    · exact .of_word h _

theorem opensWithOneOf_listClause (h : keyword ∈ words) (entries : List String) :
    OpensWithOneOf words (listClause keyword entries) := by
  rw [listClause]
  split
  · exact .empty
  · exact .of_word h _

/-- Behind the condition on rows, the text of a session ends or goes on with a later clause. -/
theorem opensWithOneOf_tailText (s : Session) (hgroup : " GROUP BY " ∈ words)
    (hhaving : " HAVING " ∈ words) (horder : " ORDER BY " ∈ words) :
    OpensWithOneOf words s.tailText := by
  rw [tailText]
  split
  · exact ((opensWithOneOf_listClause hgroup _).append
      (opensWithOneOf_predicateClause hhaving _)).append (opensWithOneOf_listClause horder _)
  · exact .empty

/-- A text that begins with a head, and ends there or goes on with a blank. -/
def HasHead (head text : String) : Prop :=
  ∃ rest, text = head ++ rest ∧ OpensBlank rest

/-- How a statement of a kind declares its source, behind the selected items if there are any. -/
def declaration (kind : StatementKind) (source : String) : String :=
  match kind with
  | .select => " FROM " ++ source
  | .update => "UPDATE " ++ source ++ " SET"
  | .delete => "DELETE FROM " ++ source

variable (s : Session)

/-! ### The text of a session -/

/-- The text of the selected items, which only a selection has. -/
def itemsText : String :=
  match s.kind with
  | .select =>
    "SELECT " ++ (if s.distinct then "DISTINCT " else "") ++
      if s.select.isEmpty then s.entityAlias else ", ".intercalate s.select
  | _ => ""

/-- There is a blank in front of each join. -/
theorem opensBlank_joins (joins : List Join) :
    OpensBlank (String.join (joins.map fun j => " " ++ j.toText)) := by
  cases joins with
  | nil => exact .empty
  | cons j rest =>
    rw [List.map_cons, String.join_cons]
    exact .of_head? (by simp)

/-- Behind the head, every clause begins with a blank. -/
theorem opensBlank_clauses : OpensBlank (predicateClause " WHERE " s.where? ++ s.tailText) := by
  have hwords : OpensWithOneOf [" WHERE ", " GROUP BY ", " HAVING ", " ORDER BY "]
      (predicateClause " WHERE " s.where? ++ s.tailText) :=
    (opensWithOneOf_predicateClause (by decide) _).append
      (opensWithOneOf_tailText s (by decide) (by decide) (by decide))
  exact hwords.opensBlank (by decide)

/-- The text of a session declares the entity under its alias. -/
theorem hasHead_toText :
    HasHead (s.itemsText ++ declaration s.kind (s.entity.name ++ " " ++ s.entityAlias))
      s.toText := by
  have hrest := s.opensBlank_clauses
  rw [toText, headText, itemsText]
  cases s.kind with
  | select =>
    refine ⟨_, ?_, (opensBlank_joins s.joins).append hrest⟩
    simp only [declaration, String.append_assoc]
  | update =>
    have hset : OpensBlank (" " ++ ", ".intercalate (s.set.map Assignment.toText)) :=
      .of_head? (by simp)
    have hword : " SET " = " SET" ++ " " := by decide
    refine ⟨_, ?_, hset.append hrest⟩
    simp only [declaration, hword, String.append_assoc, String.empty_append]
  | delete =>
    refine ⟨_, ?_, hrest⟩
    simp only [declaration, String.append_assoc, String.empty_append]

/-! ### The statement of a session -/

/-- The fragments of the selected items, which only a selection has. -/
def itemFragments : List Fragment :=
  match s.kind with
  | .select =>
    .plain ("SELECT " ++ if s.distinct then "DISTINCT " else "") ::
      if s.select.isEmpty then [.plain (s.sqlAlias ++ ".*")]
      else commaFragments (s.select.map s.selectItemFragments)
  | _ => []

/-- What stands between the table and its alias. -/
def separatorOf : StatementKind → String
  | .select => " "
  | _ => " AS "

variable {s} {scope : Scope}

/-- A plain fragment stands behind what is written in front of it. The fragments behind it begin
with a blank if they write anything. -/
theorem hasHead_of_writeAll {items rest : List Fragment} {head : String} {w : Writer}
    (h : writeAll scope {} (items ++ .plain head :: rest) = .ok w)
    (hrest : OpensWith (· = ' ') rest) :
    ∃ before, writeAll scope {} items = .ok before ∧ HasHead (before.sql ++ head) w.sql := by
  rw [writeAll_append] at h
  obtain ⟨before, hbefore, h⟩ := bind_eq_ok h
  have h : writeAll scope (before.push head) rest = .ok w := h
  refine ⟨before, hbefore, _, (wrote_of_writeAll h).sql_eq, ?_⟩
  rw [OpensBlank, String.toList_ofList]
  exact hrest.head? fun _ => rfl

/-- A selection declares its source behind the selected items. -/
theorem statementFragments_of_select (h : s.kind = .select) :
    s.statementFragments = s.itemFragments ++ .plain (" FROM " ++ s.source " ") ::
      (s.joins.flatMap s.joinFragments ++ s.whereFragments ++ s.tailFragments) := by
  rw [statementFragments, headFragments, itemFragments, h]
  simp only [selectFragments, List.append_assoc, List.cons_append]

/-- An update begins with its source, if it sets anything. -/
theorem statementFragments_of_update (h : s.kind = .update) (hset : s.set.isEmpty = false) :
    s.statementFragments = .plain ("UPDATE " ++ s.source " AS " ++ " SET ") ::
      (commaFragments (s.set.map s.assignmentFragments) ++ s.whereFragments) := by
  rw [statementFragments, headFragments, tailFragments, h]
  simp only [hset, Bool.false_eq_true, if_false, List.append_nil, List.cons_append]

/-- A deletion begins with its source. -/
theorem statementFragments_of_delete (h : s.kind = .delete) :
    s.statementFragments = .plain ("DELETE FROM " ++ s.source " AS ") :: s.whereFragments := by
  rw [statementFragments, headFragments, tailFragments, h]
  simp only [List.append_nil, List.cons_append, List.nil_append]

/-- The statement of a session declares the table under the alias. -/
theorem hasHead_build {q : BuiltQuery} (h : s.build = .ok q) :
    ∃ w, writeAll s.scope {} s.itemFragments = .ok w ∧
      HasHead (w.sql ++ declaration s.kind (s.source (separatorOf s.kind))) q.sql := by
  rw [build_eq] at h
  obtain ⟨w, hw, rfl⟩ := map_eq_ok h
  have hwhere : IsClause s.scope s.whereFragments := s.isClause_whereFragments
  cases hkind : s.kind with
  | select =>
    have hjoins : IsClause s.scope (s.joins.flatMap s.joinFragments) :=
      isClause_flatMap fun j _ => s.isClause_joinFragments j
    rw [statementFragments_of_select hkind] at hw
    exact hasHead_of_writeAll hw ((hjoins.append hwhere).append s.isClause_tailFragments).opens
  | update =>
    have hitems : s.itemFragments = [] := by rw [itemFragments, hkind]
    cases hset : s.set.isEmpty with
    | true =>
      rw [statementFragments, headFragments, hkind, hset] at hw
      cases hw
    | false =>
      have hword : "UPDATE " ++ s.source " AS " ++ " SET " =
          "UPDATE " ++ s.source " AS " ++ " SET" ++ " " := by
        rw [show " SET " = " SET" ++ " " by decide, String.append_assoc, String.append_assoc,
          String.append_assoc]
      rw [statementFragments_of_update hkind hset, hword, ← writeAll_plain_plain] at hw
      change writeAll s.scope {} ([] ++ _ :: _) = .ok w at hw
      rw [hitems]
      exact hasHead_of_writeAll hw (opensWith_plain_cons (by decide) rfl)
  | delete =>
    have hitems : s.itemFragments = [] := by rw [itemFragments, hkind]
    rw [statementFragments_of_delete hkind] at hw
    change writeAll s.scope {} ([] ++ _ :: _) = .ok w at hw
    rw [hitems]
    exact hasHead_of_writeAll hw hwhere.opens

end EntityQuery.Session
