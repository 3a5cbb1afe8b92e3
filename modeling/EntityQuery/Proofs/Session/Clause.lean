import EntityQuery.Proofs.Expr.Connectives
import EntityQuery.Proofs.Session.Attachment
import EntityQuery.Proofs.Session.Count
import EntityQuery.Proofs.Session.Head
import EntityQuery.Proofs.Session.Mutation

namespace EntityQuery

/-- The word that begins a clause. -/
def Clause.keyword : Clause → String
  | rows => " WHERE "
  | groups => " HAVING "

/-- Whether statements of a kind have a clause. Rows are grouped by a selection only. -/
def Clause.isPartOf : Clause → StatementKind → Bool
  | rows, _ => true
  | groups, kind => kind = .select

/-- The words that begin what stands behind a clause. -/
def Clause.later : Clause → List String
  | rows => [" GROUP BY ", " HAVING ", " ORDER BY ", " LIMIT ", " OFFSET "]
  | groups => [" ORDER BY ", " LIMIT ", " OFFSET "]

namespace Session

open Sql

/-- The text of a clause's predicate, which is empty if there is none. -/
def clauseText (s : Session) (clause : Clause) : String :=
  ((s.predicate? clause).map Expr.toText).getD ""

/-- The session without a clause and without all that is written behind it. -/
def upTo (s : Session) : Clause → Session
  | .rows =>
    { s with
      where? := none
      groupBy := []
      having? := none
      orderBy := []
      maxResults? := none
      firstResult? := none }
  | .groups =>
    { s with
      having? := none
      orderBy := []
      maxResults? := none
      firstResult? := none }

/-! ### The place of a clause -/

/-- How a clause is written behind `front`: its keyword stands there exactly if there is something
to write, and then what is written for that follows, which is not empty. -/
structure PlacesClause (keyword : String) (has : Prop) (written : String → Prop)
    (front whole : String) : Prop where
  keyword_iff : (front ++ keyword).toList <+: whole.toList ↔ has
  follows : has → ∃ condition rest, written condition ∧ condition ≠ "" ∧
    whole = front ++ keyword ++ condition ++ rest

variable {words : List String} {front whole keyword : String} {has : Prop}
  {written : String → Prop}

/-- The words behind a clause are not taken for its keyword. -/
theorem not_keyword_prefix {clause : Clause} {text : String}
    (h : OpensWithOneOf clause.later text) : ¬ clause.keyword.toList <+: text.toList := by
  intro hkeyword
  rcases h with rfl | ⟨word, hword, hleads⟩
  · revert hkeyword
    cases clause <;> decide
  · have hboth := List.prefix_or_prefix_of_prefix hkeyword hleads
    have hother : ∀ word ∈ clause.later, ¬ (clause.keyword.toList <+: word.toList ∨
        word.toList <+: clause.keyword.toList) := by
      cases clause <;> decide
    exact hother word hword hboth

/-- Without a text, nothing stands between `front` and the words of the later clauses, and none of
those begins with the keyword. -/
theorem placesClause_of_absent {clause : Clause} {rest : String} (hhas : ¬ has)
    (hwhole : whole = front ++ rest) (hrest : OpensWithOneOf clause.later rest) :
    PlacesClause clause.keyword has written front whole where
  keyword_iff := by
    refine iff_of_false (fun hkeyword => not_keyword_prefix hrest ?_) hhas
    rw [hwhole, String.toList_append, String.toList_append] at hkeyword
    exact (List.prefix_append_right_inj _).1 hkeyword
  follows h := absurd h hhas

/-- With a text, the keyword and the text stand behind `front`. -/
theorem placesClause_of_present {condition rest : String} (hhas : has)
    (hwritten : written condition) (hne : condition ≠ "")
    (hwhole : whole = front ++ keyword ++ condition ++ rest) :
    PlacesClause keyword has written front whole where
  keyword_iff := by
    refine iff_of_true ⟨(condition ++ rest).toList, ?_⟩ hhas
    rw [hwhole, ← String.toList_append, ← String.append_assoc]
  follows _ := ⟨condition, rest, hwritten, hne, hwhole⟩

/-! ### The text of a session -/

variable {s : Session} {clause : Clause}

/-- A clause is written for its text, and not at all if that is empty. -/
theorem predicateClause_eq (keyword : String) (s : Session) (clause : Clause) :
    predicateClause keyword (s.predicate? clause) =
      if s.clauseText clause = "" then "" else keyword ++ s.clauseText clause := by
  unfold predicateClause
  rw [clauseText]
  cases s.predicate? clause with
  | none => rfl
  | some predicate => simp [Expr.isEmpty_iff_toText]

/-- In front of the condition on rows stands the head of the text. -/
theorem toText_upTo_rows (s : Session) : (s.upTo .rows).toText = s.headText := by
  have htail : (s.upTo .rows).tailText = "" := by
    rw [tailText]
    split <;> rfl
  have hwhere : predicateClause " WHERE " (s.upTo .rows).where? = "" := rfl
  rw [toText, htail, hwhere, String.append_empty, String.append_empty]
  rfl

/-- In front of the condition on groups stand the condition on rows and the grouping. -/
theorem toText_upTo_groups (h : s.kind = .select) :
    (s.upTo .groups).toText =
      s.headText ++ predicateClause " WHERE " s.where? ++ listClause " GROUP BY " s.groupBy := by
  have htail : (s.upTo .groups).tailText = listClause " GROUP BY " s.groupBy := by
    have hkind : (s.upTo .groups).kind = .select := h
    rw [tailText, hkind]
    simp [upTo, predicateClause, listClause]
  rw [toText, htail]
  rfl

/-- What stands in front of a clause in the text of a session, and behind it. -/
theorem toText_eq_append (h : clause.isPartOf s.kind) : ∃ rest,
    OpensWithOneOf clause.later rest ∧
      s.toText =
        (s.upTo clause).toText ++ predicateClause clause.keyword (s.predicate? clause) ++ rest := by
  cases clause with
  | rows =>
    refine ⟨s.tailText, opensWithOneOf_tailText s (by decide) (by decide) (by decide), ?_⟩
    rw [toText_upTo_rows]
    rfl
  | groups =>
    have hkind : s.kind = .select := by simpa [Clause.isPartOf] using h
    refine ⟨listClause " ORDER BY " (s.orderBy.map SortEntry.toText),
      opensWithOneOf_listClause (by decide) _, ?_⟩
    rw [toText_upTo_groups hkind, toText, tailText, hkind]
    simp only [Clause.keyword, predicate?, String.append_assoc]

/-- Where a statement has no place for a clause, nothing is written for it. -/
theorem upTo_of_not_isPartOf (h : clause.isPartOf s.kind = false) :
    clause = .groups ∧ s.kind ≠ .select := by
  cases clause with
  | rows => cases h
  | groups => exact ⟨rfl, by simpa [Clause.isPartOf] using h⟩

theorem toText_of_not_isPartOf (h : clause.isPartOf s.kind = false) :
    s.toText = (s.upTo clause).toText := by
  obtain ⟨rfl, hkind⟩ := upTo_of_not_isPartOf h
  have htail {t : Session} (ht : t.kind ≠ .select) : t.tailText = "" := by
    rw [tailText]
    split
    · contradiction
    · rfl
  have hcut : (s.upTo .groups).kind ≠ .select := hkind
  rw [toText, toText, htail hkind, htail hcut]
  rfl

/-- In the text of a session, the keyword of a clause stands behind what is written without the
clause exactly if the statement has a place for the clause and its predicate a text. -/
theorem placesClause_toText (s : Session) (clause : Clause) :
    PlacesClause clause.keyword (clause.isPartOf s.kind ∧ s.clauseText clause ≠ "")
      (· = s.clauseText clause) (s.upTo clause).toText s.toText := by
  cases hpart : clause.isPartOf s.kind with
  | false =>
    refine placesClause_of_absent (by simp) ?_ .empty
    rw [String.append_empty]
    exact toText_of_not_isPartOf hpart
  | true =>
    obtain ⟨rest, hrest, htext⟩ := toText_eq_append hpart
    rw [predicateClause_eq] at htext
    by_cases hempty : s.clauseText clause = ""
    · rw [if_pos hempty, String.append_empty] at htext
      exact placesClause_of_absent (by simp [hempty]) htext hrest
    · rw [if_neg hempty, ← String.append_assoc] at htext
      exact placesClause_of_present ⟨rfl, hempty⟩ rfl hempty htext

/-! ### The statement of a session -/

variable {scope : Scope} {fragments next : List Fragment}

/-- A text is what another one is translated to, somewhere in a statement. -/
def Translates (scope : Scope) (text condition : String) : Prop :=
  ∃ before after : Writer, before.pushText scope text = .ok after ∧
    after.sql = before.sql ++ condition

/-- What fragments write, if they can be written, begins with one of several words. -/
def WritesWithOneOf (scope : Scope) (words : List String) (fragments : List Fragment) : Prop :=
  ∀ w after, writeAll scope w fragments = .ok after → ∃ text,
    after.sql = w.sql ++ text ∧ OpensWithOneOf words text

/-- Writing only appends to the text of the writer. -/
theorem exists_text_of_writeAll {w after : Writer} (h : writeAll scope w fragments = .ok after) :
    ∃ text, after.sql = w.sql ++ text :=
  ⟨_, (wrote_of_writeAll h).sql_eq⟩

theorem writesWithOneOf_nil : WritesWithOneOf scope words [] := by
  rintro w after ⟨⟩
  exact ⟨"", String.append_empty.symm, .empty⟩

theorem writesWithOneOf_plain {text : String} (h : OpensWithOneOf words text) :
    WritesWithOneOf scope words [.plain text] := by
  rintro w after ⟨⟩
  exact ⟨text, rfl, h⟩

theorem writesWithOneOf_plain_cons (h : keyword ∈ words) (rest : List Fragment) :
    WritesWithOneOf scope words (.plain keyword :: rest) := by
  intro w after hafter
  have hrest : writeAll scope (w.push keyword) rest = .ok after := hafter
  obtain ⟨text, htext⟩ := exists_text_of_writeAll hrest
  refine ⟨keyword ++ text, ?_, .of_word h text⟩
  rw [htext, Writer.push, String.append_assoc]

/-- Two rows of fragments behind each other begin with the first word that either of them writes. -/
theorem WritesWithOneOf.append (h : WritesWithOneOf scope words fragments)
    (h' : WritesWithOneOf scope words next) : WritesWithOneOf scope words (fragments ++ next) := by
  intro w after hafter
  rw [writeAll_append] at hafter
  obtain ⟨middle, hmiddle, hafter⟩ := bind_eq_ok hafter
  obtain ⟨text, htext, hopens⟩ := h w middle hmiddle
  obtain ⟨more, hmore, hopens'⟩ := h' middle after hafter
  refine ⟨text ++ more, ?_, hopens.append hopens'⟩
  rw [hmore, htext, String.append_assoc]

/-- The fragments of a clause are its keyword and its text, or none if that is empty. -/
theorem predicateFragments_eq (keyword : String) (s : Session) (clause : Clause) :
    predicateFragments keyword (s.predicate? clause) =
      if s.clauseText clause = "" then []
      else [.plain keyword, .resolved (s.clauseText clause)] := by
  unfold predicateFragments
  rw [clauseText]
  cases s.predicate? clause with
  | none => rfl
  | some predicate => simp [Expr.isEmpty_iff_toText]

theorem writesWithOneOf_predicateFragments (h : keyword ∈ words) (predicate? : Option Expr) :
    WritesWithOneOf scope words (predicateFragments keyword predicate?) := by
  unfold predicateFragments
  split
  · exact writesWithOneOf_nil
  · split
    · exact writesWithOneOf_nil
    · exact writesWithOneOf_plain_cons h _

theorem writesWithOneOf_groupingFragments (s : Session) (hgroup : " GROUP BY " ∈ words)
    (hhaving : " HAVING " ∈ words) : WritesWithOneOf scope words s.groupingFragments := by
  refine .append ?_ (writesWithOneOf_predicateFragments hhaving _)
  split
  · exact writesWithOneOf_nil
  · exact writesWithOneOf_plain_cons hgroup _

theorem writesWithOneOf_orderingFragments (s : Session) (h : " ORDER BY " ∈ words) :
    WritesWithOneOf scope words s.orderingFragments := by
  rw [orderingFragments]
  split
  · exact writesWithOneOf_nil
  · exact writesWithOneOf_plain_cons h _

theorem opensWithOneOf_windowText (s : Session) (hlimit : " LIMIT " ∈ words)
    (hoffset : " OFFSET " ∈ words) : OpensWithOneOf words s.windowText := by
  rw [windowText]
  apply OpensWithOneOf.append
  · split
    · exact .of_word hlimit _
    · exact .empty
  · split
    · exact .of_word hoffset _
    · exact .empty

/-- What is written in front of a clause. -/
def fragmentsUpTo (s : Session) : Clause → List Fragment
  | .rows => s.headFragments
  | .groups => s.headFragments ++ s.whereFragments ++ (s.upTo .groups).groupingFragments

/-- What stands in front of a clause in the statement of a session, and behind it. -/
theorem statementFragments_eq_append (h : clause.isPartOf s.kind) (scope : Scope) : ∃ behind,
    WritesWithOneOf scope clause.later behind ∧
      s.statementFragments = s.fragmentsUpTo clause ++
        (predicateFragments clause.keyword (s.predicate? clause) ++ behind) := by
  cases clause with
  | rows =>
    refine ⟨s.tailFragments, ?_, ?_⟩
    · rw [tailFragments]
      split
      · exact ((writesWithOneOf_groupingFragments s (by decide) (by decide)).append
          (writesWithOneOf_orderingFragments s (by decide))).append
          (writesWithOneOf_plain (opensWithOneOf_windowText s (by decide) (by decide)))
      · exact writesWithOneOf_nil
    · rw [statementFragments, List.append_assoc]
      rfl
  | groups =>
    have hkind : s.kind = .select := by simpa [Clause.isPartOf] using h
    refine ⟨s.orderingFragments ++ [.plain s.windowText],
      (writesWithOneOf_orderingFragments s (by decide)).append
        (writesWithOneOf_plain (opensWithOneOf_windowText s (by decide) (by decide))), ?_⟩
    have hgrouping : s.groupingFragments = (s.upTo .groups).groupingFragments ++
        predicateFragments " HAVING " s.having? := by
      have hnone : predicateFragments " HAVING " (s.upTo .groups).having? = [] := rfl
      rw [groupingFragments, groupingFragments, hnone, List.append_nil]
      rfl
    rw [statementFragments, tailFragments, hkind, fragmentsUpTo]
    simp only [hgrouping, Clause.keyword, predicate?, List.append_assoc]

theorem writeAll_append_plain_empty (w : Writer) (fragments : List Fragment) :
    writeAll scope w (fragments ++ [.plain ""]) = writeAll scope w fragments := by
  rw [writeAll_concat]
  cases writeAll scope w fragments with
  | error reason => rfl
  | ok next => simp [Except.map, Writer.push]

/-- What is written in front of a clause is a statement of its own. -/
theorem build_upTo (h : clause.isPartOf s.kind) :
    (s.upTo clause).build = (writeAll s.scope {} (s.fragmentsUpTo clause)).map Writer.finish := by
  have hrow : (s.upTo clause).statementFragments = s.fragmentsUpTo clause ∨
      (s.upTo clause).statementFragments = s.fragmentsUpTo clause ++ [.plain ""] := by
    cases clause with
    | rows =>
      have hhead : (s.upTo .rows).headFragments = s.headFragments := rfl
      have hkind : (s.upTo .rows).kind = s.kind := rfl
      have hwhere : (s.upTo .rows).whereFragments = [] := rfl
      rw [statementFragments, tailFragments, hhead, hwhere, hkind, List.append_nil]
      split
      · exact Or.inr rfl
      · exact Or.inl (List.append_nil _)
    | groups =>
      have hselect : s.kind = .select := by simpa [Clause.isPartOf] using h
      have hkind : (s.upTo .groups).kind = .select := hselect
      have hhead : (s.upTo .groups).headFragments = s.headFragments := rfl
      have hwhere : (s.upTo .groups).whereFragments = s.whereFragments := rfl
      have hbehind : (s.upTo .groups).orderingFragments ++ [.plain (s.upTo .groups).windowText] =
          [.plain ""] := rfl
      rw [statementFragments, tailFragments, hkind, hhead, hwhere, List.append_assoc _ _ [_],
        hbehind, ← List.append_assoc]
      exact Or.inr rfl
  have hscope : (s.upTo clause).scope = s.scope := by cases clause <;> rfl
  rw [build_eq, hscope]
  rcases hrow with hrow | hrow
  · rw [hrow]
  · rw [hrow, writeAll_append_plain_empty]

/-- Where a statement has no place for a clause, the predicate of the clause does not reach it. -/
theorem build_of_not_isPartOf (h : clause.isPartOf s.kind = false) :
    s.build = (s.upTo clause).build := by
  obtain ⟨rfl, hkind⟩ := upTo_of_not_isPartOf h
  have hcut : (s.upTo .groups).kind ≠ .select := hkind
  rw [build_eq, build_eq, statementFragments_of_mutation hkind, statementFragments_of_mutation hcut]
  rfl

/-- In the statement of a session, the keyword of a clause stands behind the statement without the
clause, under the same condition as in the text. -/
theorem placesClause_build {q : BuiltQuery} (h : s.build = .ok q) (clause : Clause) :
    ∃ front, (s.upTo clause).build = .ok front ∧
      PlacesClause clause.keyword (clause.isPartOf s.kind ∧ s.clauseText clause ≠ "")
        (Translates s.scope (s.clauseText clause)) front.sql q.sql := by
  cases hpart : clause.isPartOf s.kind with
  | false =>
    -- Without a place for the clause, the whole statement stands in front.
    refine ⟨q, (build_of_not_isPartOf hpart).symm.trans h, ?_⟩
    exact placesClause_of_absent (by simp) String.append_empty.symm .empty
  | true =>
    obtain ⟨behind, hbehind, hrow⟩ := statementFragments_eq_append hpart s.scope
    obtain ⟨w, hw, rfl⟩ := exists_writer_of_build h
    rw [hrow, writeAll_append] at hw
    obtain ⟨front, hfront, hw⟩ := bind_eq_ok hw
    refine ⟨front.finish, by rw [build_upTo hpart, hfront]; rfl, ?_⟩
    rw [predicateFragments_eq] at hw
    by_cases hempty : s.clauseText clause = ""
    · rw [if_pos hempty] at hw
      obtain ⟨text, htext, hopens⟩ := hbehind front w hw
      exact placesClause_of_absent (by simp [hempty]) htext hopens
    · rw [if_neg hempty, List.cons_append, List.singleton_append] at hw
      have hw : writeAll s.scope (front.push clause.keyword)
          (.resolved (s.clauseText clause) :: behind) = .ok w := hw
      rw [writeAll_cons] at hw
      obtain ⟨middle, hmiddle, hw⟩ := bind_eq_ok hw
      have hpush : (front.push clause.keyword).pushText s.scope (s.clauseText clause) =
          .ok middle := hmiddle
      have htells : front.Tells := tells_of_writeAll hfront
      obtain ⟨condition, hne, hsql⟩ := exists_condition_of_pushText hpush hempty htells
      obtain ⟨rest, hrest⟩ := exists_text_of_writeAll hw
      have hwhole : w.sql = front.sql ++ clause.keyword ++ condition ++ rest := by
        rw [hrest, hsql]
        rfl
      exact placesClause_of_present ⟨rfl, hempty⟩ ⟨_, _, hpush, hsql⟩ hne hwhole

/-! ### Clauses and texts -/

/-- A predicate contains no condition exactly if its text is empty, and no connective of a text
dangles or is doubled: the connectives of a predicate all stand between two operands, and a group is
the texts of its parts, none of which is blank, with its connective in between. So the condition on
rows is written exactly if there is text to follow its keyword, and so is the condition on groups of
a selection; updates and deletions have no condition on groups. -/
theorem clause_iff_text (s : Session) :
    (∀ e : Expr, (e.isEmpty ↔ e.toText = "") ∧
      e.toText = String.join (e.tokens.map Expr.Token.toText) ∧
      (e.toText ≠ "" → Expr.Connected e.tokens)) ∧
    (∀ items : List Expr, Expr.JoinsParts " AND " items (Expr.and items).toText ∧
      Expr.JoinsParts " OR " items (Expr.or items).toText) ∧
    ∀ clause : Clause,
      PlacesClause clause.keyword (clause.isPartOf s.kind ∧ s.clauseText clause ≠ "")
        (· = s.clauseText clause) (s.upTo clause).toText s.toText ∧
      ∀ q, s.build = .ok q → ∃ front, (s.upTo clause).build = .ok front ∧
        PlacesClause clause.keyword (clause.isPartOf s.kind ∧ s.clauseText clause ≠ "")
          (Translates s.scope (s.clauseText clause)) front.sql q.sql := by
  refine ⟨fun e => ⟨e.isEmpty_iff_toText, e.toText_eq_join, fun htext => ?_⟩,
    fun items => ⟨Expr.joinsParts_and items, Expr.joinsParts_or items⟩,
    fun clause => ⟨placesClause_toText s clause, fun q hq => placesClause_build hq clause⟩⟩
  have hfull : e.isEmpty = false := Bool.eq_false_iff.2 (mt e.isEmpty_iff_toText.1 htext)
  exact (Expr.reads_part hfull).1.connected

/-- The teams with more users than a given number, among the users that are named. -/
def Samples.crowded : Session :=
  ((((new Samples.user).setWhere (.and [.or [.raw " "], .nullCheck "u.name" false])).setGroupBy
    ["team"]).setHaving (.raw "COUNT(u.id) > :n")).setParameter "n" (.int 3) none

/-- A selection with both conditions, of which one has a part that says nothing. -/
theorem clause_iff_text_crowded :
    (Expr.and [.or [.raw " "], .nullCheck "u.name" false]).toText ≠ "" ∧
      Expr.Connected (Expr.and [.or [.raw " "], .nullCheck "u.name" false]).tokens ∧
      ∃ q, Samples.crowded.build = .ok q ∧
        ∀ clause, ∃ front, (Samples.crowded.upTo clause).build = .ok front ∧
          (front.sql ++ clause.keyword).toList <+: q.sql.toList := by
  obtain ⟨hpredicates, -, hclauses⟩ := clause_iff_text Samples.crowded
  have htext : (Expr.and [.or [.raw " "], .nullCheck "u.name" false]).toText ≠ "" := by
    decide +kernel
  have hbuild : Samples.crowded.build.toOption.isSome := by decide +kernel
  obtain ⟨q, hq⟩ := exists_ok_of_isSome hbuild
  refine ⟨htext, (hpredicates _).2.2 htext, q, hq, fun clause => ?_⟩
  obtain ⟨front, hfront, hplaces⟩ := (hclauses clause).2 q hq
  have hhas : clause.isPartOf Samples.crowded.kind ∧ Samples.crowded.clauseText clause ≠ "" := by
    cases clause <;> decide +kernel
  exact ⟨front, hfront, hplaces.keyword_iff.2 hhas⟩

/-- A session that was given a condition on groups and deletes after all. -/
def Samples.deletion : Session :=
  ((new Samples.user).setHaving (.raw "COUNT(u.id) > 1")).toDelete

/-- A deletion has no condition on groups, although there is text for it. -/
theorem deletes_without_having :
    Samples.deletion.clauseText .groups = "COUNT(u.id) > 1" ∧
      Samples.deletion.toText = "DELETE FROM User u" ∧
      Samples.deletion.build.toOption.map BuiltQuery.sql = some "DELETE FROM users AS u" ∧
      (¬ ∀ (s : Session) (clause : Clause),
        ((s.upTo clause).toText ++ clause.keyword).toList <+: s.toText.toList ↔
          s.clauseText clause ≠ "") ∧
      ¬ ∀ (s : Session) (clause : Clause) (front q : BuiltQuery),
        (s.upTo clause).build = .ok front → s.build = .ok q →
          ((front.sql ++ clause.keyword).toList <+: q.sql.toList ↔ s.clauseText clause ≠ "") := by
  have htext : Samples.deletion.clauseText .groups ≠ "" := by decide +kernel
  refine ⟨by decide +kernel, by decide +kernel, by decide +kernel, fun hall => ?_, fun hall => ?_⟩
  · have hkeyword := (hall Samples.deletion .groups).2 htext
    revert hkeyword
    decide +kernel
  · have hbuild : Samples.deletion.build.toOption.isSome := by decide +kernel
    obtain ⟨q, hq⟩ := exists_ok_of_isSome hbuild
    have hkeyword := (hall Samples.deletion .groups q q hq hq).2 htext
    have hlength := hkeyword.length_le
    rw [String.toList_append, List.length_append] at hlength
    have hpositive : 0 < Clause.groups.keyword.toList.length := by decide
    omega

end Session

end EntityQuery
