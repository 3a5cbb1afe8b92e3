import EntityQuery.Proofs.Expr.Tokens
import EntityQuery.Proofs.Session.Fragments
import EntityQuery.Proofs.Session.Operation
import EntityQuery.Session.Fetch

namespace EntityQuery

/-- An operation that runs a session. -/
inductive Terminal : Type → Type 1
  | execute : Terminal Nat
  | fetchRecords (mode : HydrationMode) : Terminal (List Record)
  | fetchOneRecord (mode : HydrationMode) : Terminal (Option Record)
  | fetchOne {α : Type} (read : Record → Except QueryError α) : Terminal (Option α)
  | fetchSingle {α : Type} (read : Record → Except QueryError α) : Terminal α
  | fetchSingleScalar : Terminal Value
  | fetchAll {α : Type} (read : Record → Except QueryError α) : Terminal (List α)
  | fetchAllArray : Terminal (List Json)
  | fetchAllScalar : Terminal (List Record)
  | fetchAllSimple {α : Type} (read : Record → Except QueryError α) : Terminal (List α)
  | count : Terminal Int64

namespace Terminal

variable {α : Type}

/-- Runs a session. -/
def run (s : Session) (backend : Backend) {α : Type} : Terminal α → Outcome α
  | execute => s.execute backend
  | fetchRecords mode => s.fetchRecords backend mode
  | fetchOneRecord mode => s.fetchOneRecord backend mode
  | fetchOne read => s.fetchOne backend read
  | fetchSingle read => s.fetchSingle backend read
  | fetchSingleScalar => s.fetchSingleScalar backend
  | fetchAll read => s.fetchAll backend read
  | fetchAllArray => s.fetchAllArray backend
  | fetchAllScalar => s.fetchAllScalar backend
  | fetchAllSimple read => s.fetchAllSimple backend read
  | count => s.count backend

/-- Whether the session's own statement is handed over to ask for rows. -/
def asksForRows : Terminal α → Bool
  | execute => false
  | count => false
  | _ => true

end Terminal

/-- An update or a deletion. -/
def BuiltQuery.IsMutation (q : BuiltQuery) : Prop :=
  "UPDATE ".toList <+: q.sql.toList ∨ "DELETE ".toList <+: q.sql.toList

namespace Session

open Sql

/-- Behind the beginning of the session's statement, the query has a condition on rows. -/
def HasCondition (s : Session) (q : BuiltQuery) : Prop :=
  ∃ head condition, writeAll s.scope {} s.headFragments = .ok head ∧ condition ≠ "" ∧
    q.sql = head.sql ++ " WHERE " ++ condition

/-- An update or a deletion that affects all rows of the session's table. -/
def IsUnfilteredMutation (s : Session) (q : BuiltQuery) : Prop :=
  q.IsMutation ∧ ¬ s.HasCondition q

variable {s : Session} {q : BuiltQuery}

/-! ### The beginning of a statement -/

/-- A statement begins with the first character of its first fragment. -/
theorem head?_of_writeAll {scope : Scope} {text : String} {c : Char} {rest : List Fragment}
    {w : Writer} (hc : text.toList.head? = some c)
    (h : writeAll scope {} (.plain text :: rest) = .ok w) : w.sql.toList.head? = some c := by
  have hsql := (wrote_of_writeAll h).sql
  obtain ⟨more, htext⟩ := List.head?_eq_some_iff.1 hc
  rw [hsql]
  simp [Fragment.segments, segmentText, translatedText, htext]

/-- A statement begins with its first fragment, if that is plain. -/
theorem prefix_of_writeAll {scope : Scope} {text : String} {rest : List Fragment} {w : Writer}
    (h : writeAll scope {} (.plain text :: rest) = .ok w) : text.toList <+: w.sql.toList := by
  have hsql := (wrote_of_writeAll h).sql
  rw [hsql]
  simp [Fragment.segments, segmentText, translatedText]

/-- A statement that begins with the letter `S` is neither an update nor a deletion. -/
theorem not_isMutation_of_head? (h : q.sql.toList.head? = some 'S') : ¬ q.IsMutation := by
  obtain ⟨rest, hsql⟩ := List.head?_eq_some_iff.1 h
  rintro (hleads | hleads)
  · rw [hsql] at hleads
    simp at hleads
  · rw [hsql] at hleads
    simp at hleads

/-- The statement of a session is what some writer has written. -/
theorem exists_writer_of_build (h : s.build = .ok q) :
    ∃ w, writeAll s.scope {} s.statementFragments = .ok w ∧ q = w.finish := by
  rw [build_eq] at h
  obtain ⟨w, hw, rfl⟩ := map_eq_ok h
  exact ⟨w, hw, rfl⟩

theorem not_isMutation_of_select (hkind : s.kind = .select) (h : s.build = .ok q) :
    ¬ q.IsMutation := by
  obtain ⟨w, hw, rfl⟩ := exists_writer_of_build h
  rw [statementFragments, headFragments, hkind] at hw
  exact not_isMutation_of_head? (head?_of_writeAll (by simp) hw)

/-- Counting changes no rows. -/
theorem not_isMutation_of_buildCount (h : s.buildCount = .ok q) : ¬ q.IsMutation := by
  by_cases hkind : s.kind = .select
  · rw [buildCount_eq s hkind] at h
    obtain ⟨w, hw, rfl⟩ := map_eq_ok h
    rw [countFragments] at hw
    split at hw
    · exact not_isMutation_of_head? (head?_of_writeAll (by simp) hw)
    · exact not_isMutation_of_head? (head?_of_writeAll (by simp) hw)
  · rw [buildCount_of_ne_select s hkind] at h
    cases h

/-- Whatever is not a selection changes rows. -/
theorem isMutation_of_build (hkind : s.kind ≠ .select) (h : s.build = .ok q) : q.IsMutation := by
  obtain ⟨w, hw, rfl⟩ := exists_writer_of_build h
  rw [statementFragments, headFragments] at hw
  cases hk : s.kind with
  | select => exact absurd hk hkind
  | update =>
    rw [hk] at hw
    simp only at hw
    split at hw
    · cases hw
    · refine Or.inl (List.IsPrefix.trans ?_ (prefix_of_writeAll hw))
      simp
  | delete =>
    rw [hk] at hw
    refine Or.inr (List.IsPrefix.trans ?_ (prefix_of_writeAll hw))
    simp

/-! ### The condition -/

/-- A session counts as unfiltered if it has no predicate or an empty one, and then it writes no
condition. -/
theorem whereFragments_of_isUnfiltered (h : s.isUnfiltered) : s.whereFragments = [] := by
  rw [whereFragments]
  cases hwhere : s.where? with
  | none => rfl
  | some predicate =>
    rw [isUnfiltered, hwhere] at h
    exact if_pos h

/-- Otherwise there is a text behind `WHERE`. -/
theorem whereFragments_of_not_isUnfiltered (h : s.isUnfiltered = false) :
    ∃ text, text ≠ "" ∧ s.whereFragments = [.plain " WHERE ", .resolved text] := by
  rw [isUnfiltered] at h
  rw [whereFragments]
  cases hwhere : s.where? with
  | none =>
    rw [hwhere] at h
    cases h
  | some predicate =>
    rw [hwhere] at h
    have hfiltered : predicate.isEmpty = false := h
    refine ⟨predicate.toText, Expr.toText_ne_empty hfiltered, ?_⟩
    exact if_neg (by simp [hfiltered])

/-- Behind the condition, an update or a deletion has nothing. -/
theorem statementFragments_of_mutation (hkind : s.kind ≠ .select) :
    s.statementFragments = s.headFragments ++ s.whereFragments := by
  have htail : s.tailFragments = [] := by
    rw [tailFragments]
    split
    · contradiction
    · rfl
  rw [statementFragments, htail, List.append_nil]

/-- The statement of an unfiltered update or deletion is its head, and has no condition behind
it. -/
theorem not_hasCondition (hkind : s.kind ≠ .select) (hunfiltered : s.isUnfiltered)
    (h : s.build = .ok q) : ¬ s.HasCondition q := by
  obtain ⟨w, hw, rfl⟩ := exists_writer_of_build h
  rw [statementFragments_of_mutation hkind, whereFragments_of_isUnfiltered hunfiltered,
    List.append_nil] at hw
  rintro ⟨head, condition, hhead, -, hsql⟩
  rw [hw] at hhead
  cases hhead
  have hlength := congrArg (fun text : String => text.toList.length) hsql
  simp [Writer.finish] at hlength

/-- Whatever is written, no placeholder was written as the empty text. -/
theorem tells_of_writeAll {scope : Scope} {fragments : List Fragment} {w : Writer}
    (h : writeAll scope {} fragments = .ok w) : w.Tells := by
  apply (wrote_of_writeAll h).tells
  intro name text hlookup
  cases hlookup

/-- A condition that is not empty is written behind the beginning of the statement. -/
theorem hasCondition (hkind : s.kind ≠ .select) (hfiltered : s.isUnfiltered = false)
    (h : s.build = .ok q) : s.HasCondition q := by
  obtain ⟨w, hw, rfl⟩ := exists_writer_of_build h
  obtain ⟨text, htext, hwhere⟩ := whereFragments_of_not_isUnfiltered hfiltered
  rw [statementFragments_of_mutation hkind, hwhere, writeAll_append] at hw
  cases hhead : writeAll s.scope {} s.headFragments with
  | error reason =>
    rw [hhead] at hw
    cases hw
  | ok head =>
    rw [hhead] at hw
    have hpush : Writer.pushText s.scope (head.push " WHERE ") text = .ok w := by
      have hwrites := s.writes_resolved text (head.push " WHERE ")
      exact hwrites.trans hw
    have htells : head.Tells := tells_of_writeAll hhead
    obtain ⟨condition, hne, hsql⟩ := exists_condition_of_pushText hpush htext htells
    exact ⟨head, condition, hhead, hne, hsql⟩

/-! ### Statements that can be written -/

/-- A word behind a colon is a placeholder. -/
theorem segments_placeholder {qualifier name : String} (h : Text.isAsciiWord name) :
    segments qualifier (":" ++ name) = [.placeholder name.toList false] := by
  obtain ⟨first, rest, hname, hfirst, hrest⟩ := isAsciiWord_iff.1 h
  have hreads : Reads qualifier.toList [] (':' :: first :: (rest ++ []))
      (.placeholder (first :: rest) (isListItem [] [])) [] :=
    .placeholder hfirst hrest (by simp [StopsWord])
  have htext : (":" ++ name).toList = ':' :: first :: (rest ++ []) := by
    simp [hname]
  rw [segments, htext, segmentsFrom_of_reads hreads, segmentsFrom_nil, hname]
  rfl

/-- Every assignment of an update refers to a bound parameter. -/
theorem exists_build_of_update (hs : s.Settled) (hkind : s.kind = .update) (hset : s.set ≠ [])
    (hunfiltered : s.isUnfiltered) : ∃ q, s.build = .ok q := by
  have hfragments : s.statementFragments = .plain ("UPDATE " ++ s.source " AS " ++ " SET ") ::
      commaFragments (s.set.map s.assignmentFragments) := by
    rw [statementFragments_of_mutation (by simp [hkind]),
      whereFragments_of_isUnfiltered hunfiltered, List.append_nil, headFragments, hkind]
    simp [hset]
  have hmem {fragment : Fragment} (h : fragment ∈ s.statementFragments) :
      (∃ text, fragment = .plain text) ∨ ∃ a ∈ s.set, fragment = .resolved (":" ++ a.param) := by
    rw [hfragments] at h
    rcases List.mem_cons.1 h with rfl | h
    · exact Or.inl ⟨_, rfl⟩
    · rcases mem_of_mem_intercalate h with h | ⟨row, hrow, h⟩
      · exact Or.inl ⟨_, List.mem_singleton.1 h⟩
      · obtain ⟨a, ha, rfl⟩ := List.mem_map.1 hrow
        rcases List.mem_cons.1 h with rfl | h
        · exact Or.inl ⟨_, rfl⟩
        · exact Or.inr ⟨a, ha, List.mem_singleton.1 h⟩
  have hwritten : ∃ w, writeAll s.scope {} s.statementFragments = .ok w := by
    apply exists_writeAll
    · intro reason hfault
      rcases hmem hfault with ⟨text, h⟩ | ⟨a, -, h⟩
      · cases h
      · cases h
    · intro name inList hplaceholder
      obtain ⟨fragment, hfragment, h⟩ := List.mem_flatMap.1 hplaceholder
      rcases hmem hfragment with ⟨text, rfl⟩ | ⟨a, ha, rfl⟩
      · simp [Fragment.segments] at h
      · obtain ⟨hword, hbound⟩ := hs.set a ha
        rw [Fragment.segments, segments_placeholder hword, List.mem_singleton] at h
        obtain ⟨rfl, -⟩ := Segment.placeholder.inj h
        rw [String.ofList_toList]
        exact ParamTable.exists_value_of_contains hbound
  obtain ⟨w, hw⟩ := hwritten
  exact ⟨w.finish, by rw [build_eq, hw]; rfl⟩

/-- A deletion without condition has nothing that could prevent its statement. -/
theorem exists_build_of_delete (hkind : s.kind = .delete) (hunfiltered : s.isUnfiltered) :
    ∃ q, s.build = .ok q := by
  have hfragments : s.statementFragments = [.plain ("DELETE FROM " ++ s.source " AS ")] := by
    rw [statementFragments_of_mutation (by simp [hkind]),
      whereFragments_of_isUnfiltered hunfiltered, List.append_nil, headFragments, hkind]
  rw [build_eq, hfragments]
  exact ⟨_, rfl⟩

theorem build_of_update_without_set (hkind : s.kind = .update) (hset : s.set = []) :
    s.build = .error .updateWithoutSet := by
  rw [build_eq, statementFragments, headFragments, hkind]
  simp only [hset, List.isEmpty_nil, if_true]
  rfl

/-- The window is no part of an update or a deletion. -/
theorem build_window (hkind : s.kind ≠ .select) (maxResults? firstResult? : Option Nat) :
    { s with maxResults?, firstResult? }.build = s.build := by
  have hwindow : { s with maxResults?, firstResult? }.statementFragments =
      s.headFragments ++ s.whereFragments :=
    statementFragments_of_mutation (s := { s with maxResults?, firstResult? }) hkind
  rw [build_eq, build_eq, hwindow, statementFragments_of_mutation hkind]
  rfl

/-! ### What is handed over -/

variable {α : Type} {backend : Backend}

/-- A query that is fetched is sent once, if there is one. -/
theorem mem_sent_runFetch {query : Except ValidationFault BuiltQuery} {mode : HydrationMode}
    {statement : Statement} :
    statement ∈ (runFetch backend query mode).sent ↔
      ∃ q, query = .ok q ∧ statement = ⟨q, some mode⟩ := by
  cases query with
  | error reason => simp [runFetch, Outcome.refuse]
  | ok q => simp [runFetch]

/-- Every operation that asks for rows hands over the statement of the session, which may have got
another window. -/
theorem sent_of_asksForRows (s : Session) (backend : Backend) {t : Terminal α} (h : t.asksForRows) :
    ∃ maxResults? firstResult? mode,
      (t.run s backend).sent =
        (runFetch backend { s with maxResults?, firstResult? }.build mode).sent := by
  cases t with
  | execute => cases h
  | fetchRecords mode => exact ⟨s.maxResults?, s.firstResult?, mode, rfl⟩
  | fetchOneRecord mode => exact ⟨some 1, some 0, mode, rfl⟩
  | fetchOne read => exact ⟨some 1, some 0, .object, rfl⟩
  | fetchSingle read => exact ⟨some 1, some 0, .object, rfl⟩
  | fetchSingleScalar => exact ⟨some 1, some 0, .singleScalar, rfl⟩
  | fetchAll read => exact ⟨s.maxResults?, s.firstResult?, .object, rfl⟩
  | fetchAllArray => exact ⟨s.maxResults?, s.firstResult?, .array, rfl⟩
  | fetchAllScalar => exact ⟨s.maxResults?, s.firstResult?, .scalar, rfl⟩
  | fetchAllSimple read => exact ⟨s.maxResults?, s.firstResult?, .simpleObject, rfl⟩
  | count => cases h

/-- To count the rows of a session sends no mutation. -/
theorem not_isMutation_of_count {statement : Statement}
    (h : statement ∈ (s.count backend).sent) : ¬ statement.query.IsMutation := by
  obtain ⟨q, hbuild, rfl⟩ := mem_sent_runFetch.1 h
  exact not_isMutation_of_buildCount hbuild

/-- What is run as an update or a deletion has a condition, unless the configuration allows that it
has none. -/
theorem hasCondition_of_execute (hconfig : s.config.allowUnfiltered = false)
    {statement : Statement} (h : statement ∈ (s.execute backend).sent) :
    s.HasCondition statement.query := by
  rw [execute] at h
  split at h
  · cases h
  · rename_i hkind
    split at h
    · cases h
    · rename_i hguard
      have hfiltered : s.isUnfiltered = false := by simpa [hconfig] using hguard
      split at h
      · cases h
      · rename_i q hbuild
        obtain rfl := List.mem_singleton.1 h
        exact hasCondition hkind hfiltered hbuild

/-- Under a configuration that forbids to change rows without a condition, a statement that does so
is handed over exactly when a session without a condition that deletes, or that updates and sets
something, is asked for rows. -/
theorem sends_unfiltered_mutation_iff (hs : s.Reachable)
    (hconfig : s.config.allowUnfiltered = false) (backend : Backend) (t : Terminal α) :
    (∃ statement ∈ (t.run s backend).sent, s.IsUnfilteredMutation statement.query) ↔
      t.asksForRows ∧ s.isUnfiltered ∧ (s.kind = .delete ∨ s.kind = .update ∧ s.set ≠ []) := by
  constructor
  · rintro ⟨statement, hsent, hmutation, hcondition⟩
    by_cases hrows : t.asksForRows
    -- Where rows are asked for, the statement is the session's own but for the window, which
    -- neither an update nor a deletion has.
    · obtain ⟨maxResults?, firstResult?, mode, hsame⟩ := sent_of_asksForRows s backend hrows
      rw [hsame] at hsent
      obtain ⟨q, hbuild, rfl⟩ := mem_sent_runFetch.1 hsent
      have hkind : s.kind ≠ .select := fun hselect =>
        not_isMutation_of_select (s := { s with maxResults?, firstResult? }) hselect hbuild
          hmutation
      rw [build_window hkind] at hbuild
      have hunfiltered : s.isUnfiltered := by
        by_contra hfiltered
        exact hcondition (hasCondition hkind (by simpa using hfiltered) hbuild)
      refine ⟨hrows, hunfiltered, ?_⟩
      cases hk : s.kind with
      | select => exact absurd hk hkind
      | update =>
        refine Or.inr ⟨rfl, fun hset => ?_⟩
        rw [build_of_update_without_set hk hset] at hbuild
        cases hbuild
      | delete => exact Or.inl rfl
    · -- The two operations that do not ask for rows check the session first.
      exfalso
      cases t with
      | execute => exact hcondition (hasCondition_of_execute hconfig hsent)
      | count => exact not_isMutation_of_count hsent hmutation
      | _ => exact hrows rfl
  · rintro ⟨hrows, hunfiltered, hkind⟩
    have hmutates : s.kind ≠ .select := by
      rcases hkind with hkind | ⟨hkind, -⟩
      · simp [hkind]
      · simp [hkind]
    have hbuild : ∃ q, s.build = .ok q := by
      rcases hkind with hkind | ⟨hkind, hset⟩
      · exact exists_build_of_delete hkind hunfiltered
      · exact exists_build_of_update hs.settled hkind hset hunfiltered
    obtain ⟨q, hq⟩ := hbuild
    obtain ⟨maxResults?, firstResult?, mode, hsame⟩ := sent_of_asksForRows s backend hrows
    refine ⟨⟨q, some mode⟩, ?_, isMutation_of_build hmutates hq,
      not_hasCondition hmutates hunfiltered hq⟩
    rw [hsame, mem_sent_runFetch]
    exact ⟨q, (build_window hmutates _ _).trans hq, rfl⟩

/-- The deletion of all users, for which nothing was asked but that it is one. -/
theorem reachable_toDelete : (new Samples.user).toDelete.Reachable :=
  .step .toDelete (.new Samples.user)

/-- A deletion of all users whose rows are asked for as scalars, under the default configuration. -/
theorem sends_unfiltered_mutation_iff_toDelete :
    (new Samples.user).toDelete.Reachable ∧
      (new Samples.user).toDelete.config.allowUnfiltered = false ∧
      ((∃ statement ∈ (Terminal.fetchAllScalar.run (new Samples.user).toDelete
          ⟨fun _ _ => .ok [], fun _ => .ok 0⟩).sent,
          (new Samples.user).toDelete.IsUnfilteredMutation statement.query) ↔
        Terminal.fetchAllScalar.asksForRows ∧ (new Samples.user).toDelete.isUnfiltered ∧
          ((new Samples.user).toDelete.kind = .delete ∨
            (new Samples.user).toDelete.kind = .update ∧ (new Samples.user).toDelete.set ≠ [])) :=
  ⟨reachable_toDelete, rfl, sends_unfiltered_mutation_iff reachable_toDelete rfl _ _⟩

/-- A deletion of all users is handed over when it is asked for rows, although the configuration
forbids it. -/
theorem sends_unfiltered_deletion :
    ¬ ∀ (s : Session) (backend : Backend) (α : Type) (t : Terminal α), s.Reachable →
      s.config.allowUnfiltered = false →
        ∀ statement ∈ (t.run s backend).sent, ¬ s.IsUnfilteredMutation statement.query := by
  intro hsafe
  have hbuild : (new Samples.user).toDelete.build = .ok ⟨"DELETE FROM users AS u", []⟩ := by
    have htext : "" ++ ("DELETE FROM " ++ (new Samples.user).toDelete.source " AS ") =
        "DELETE FROM users AS u" := by
      decide +kernel
    rw [← htext]
    rfl
  refine hsafe (new Samples.user).toDelete ⟨fun _ _ => .ok [], fun _ => .ok 0⟩ _ .fetchAllScalar
    reachable_toDelete rfl ⟨⟨"DELETE FROM users AS u", []⟩, some .scalar⟩ ?_
    ⟨Or.inr (by decide), not_hasCondition (by decide) rfl hbuild⟩
  exact mem_sent_runFetch.2 ⟨_, hbuild, rfl⟩

end Session

end EntityQuery
