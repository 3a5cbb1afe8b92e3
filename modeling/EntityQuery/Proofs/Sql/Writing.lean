import EntityQuery.Proofs.Results
import EntityQuery.Proofs.Sql.Reference
import EntityQuery.Proofs.Sql.Scan
import Mathlib.Data.List.Basic
import Mathlib.Data.List.Infix

namespace EntityQuery

/-- The parameters that a value takes up: one for each element of a list that is the sole item
behind `IN`, and one for everything else. -/
def Value.parameters (inList : Bool) : Value → List Value
  | .list items => if inList then items else [.list items]
  | single => [single]

namespace Sql

/-- A segment in the words of the database: fields by their columns, placeholders as they are. -/
def translatedText (scope : Scope) : Segment → List Char
  | .verbatim text => text
  | .field name =>
    (sqlWord scope.entityAlias ++ "." ++
      sqlWord (scope.entity.columnOf (String.ofList name))).toList
  | .placeholder name _ => ':' :: name

/-- The text of a segment, with what was written for placeholders. -/
def segmentText (scope : Scope) (written : List (String × String)) : Segment → List Char
  | .placeholder name _ => ((written.lookup (String.ofList name)).getD "").toList
  | other => translatedText scope other

/-- The text of a placeholder refers to parameters of the writer, which are those that the value of
the name takes up in the given context. -/
def RefersTo (table : ParamTable) (params : List Value) (name : String) (inList : Bool)
    (text : String) : Prop :=
  ∃ value first, table.value? name = some value ∧
    text = listText (first + 1) (value.parameters inList) ∧
    value.parameters inList <+: params.drop first

/-- Parameters that are added behind the others do not change what a reference stands for. -/
theorem RefersTo.mono {table : ParamTable} {params more : List Value} {name text : String}
    {inList : Bool} (h : RefersTo table params name inList text) (hmore : params <+: more) :
    RefersTo table more name inList text := by
  obtain ⟨value, first, hvalue, htext, hleads⟩ := h
  exact ⟨value, first, hvalue, htext, hleads.trans (hmore.drop first)⟩

/-- What the writer `after` has more than the writer `before` once the segments are written. -/
structure Wrote (scope : Scope) (segments : List Segment) (before after : Writer) : Prop where
  sql : after.sql.toList =
    before.sql.toList ++ segments.flatMap (segmentText scope after.written)
  params : before.params <+: after.params
  kept : ∀ name text, before.written.lookup name = some text →
    after.written.lookup name = some text
  placeholders : ∀ name inList, .placeholder name inList ∈ segments →
    ∃ text, after.written.lookup (String.ofList name) = some text
  added : ∀ name text, after.written.lookup name = some text →
    before.written.lookup name = some text ∨
      ∃ inList, .placeholder name.toList inList ∈ segments ∧
        RefersTo scope.table after.params name inList text

namespace Writer

variable {w : Writer} {table : ParamTable} {name text : String} {inList : Bool}

/-- A name that was written before is written in the same way, whatever its context is now. -/
theorem bind_of_written (h : w.written.lookup name = some text) :
    w.bind table name inList = .ok (text, w) := by
  rw [bind, h]

/-- A name that is new is written as references to the parameters that its value adds. -/
theorem bind_of_value {value : Value} (h : w.written.lookup name = none)
    (hvalue : table.value? name = some value) :
    w.bind table name inList =
      .ok (listText (w.params.length + 1) (value.parameters inList),
        { w with
          params := w.params ++ value.parameters inList
          written := (name, listText (w.params.length + 1) (value.parameters inList)) ::
            w.written }) := by
  rw [bind, h, hvalue]
  cases value with
  | list items => cases inList <;> rfl
  | _ => rfl

/-- A name that is new and has no value is refused. -/
theorem bind_of_unbound (h : w.written.lookup name = none) (hvalue : table.value? name = none) :
    w.bind table name inList = .error (.unboundParameter name) := by
  rw [bind, h, hvalue]

end Writer

/-- What the writer is once a segment is written: a placeholder is written as before or, when its
name is new, as the parameters that its value adds, and any other segment is copied in the words of
the database. -/
inductive Pushed (scope : Scope) (before : Writer) : Segment → Writer → Prop
  | copied {segment : Segment} (hplain : ∀ name inList, segment ≠ .placeholder name inList) :
      Pushed scope before segment (before.push (String.ofList (translatedText scope segment)))
  | known {name : List Char} {inList : Bool} {text : String}
      (hwritten : before.written.lookup (String.ofList name) = some text) :
      Pushed scope before (.placeholder name inList) (before.push text)
  | new {name : List Char} {inList : Bool} {value : Value}
      (hnew : before.written.lookup (String.ofList name) = none)
      (hvalue : scope.table.value? (String.ofList name) = some value) :
      Pushed scope before (.placeholder name inList)
        { sql := before.sql ++ listText (before.params.length + 1) (value.parameters inList)
          params := before.params ++ value.parameters inList
          written :=
            (String.ofList name,
              listText (before.params.length + 1) (value.parameters inList)) :: before.written }

/-- There is nothing else that writing a segment does. -/
theorem pushed_of_pushSegment {scope : Scope} {segment : Segment} {before after : Writer}
    (h : before.pushSegment scope segment = .ok after) : Pushed scope before segment after := by
  cases segment with
  | verbatim text =>
    cases h
    exact .copied (by simp)
  | field name =>
    cases h
    have hcopied : Pushed scope before (.field name) _ := .copied (by simp)
    rwa [translatedText, String.ofList_toList] at hcopied
  | placeholder name inList =>
    rw [Writer.pushSegment] at h
    cases hwritten : before.written.lookup (String.ofList name) with
    | some text =>
      rw [Writer.bind_of_written hwritten] at h
      cases h
      exact .known hwritten
    | none =>
      cases hvalue : scope.table.value? (String.ofList name) with
      | none =>
        rw [Writer.bind_of_unbound hwritten hvalue] at h
        cases h
      | some value =>
        rw [Writer.bind_of_value hwritten hvalue] at h
        cases h
        exact .new hwritten hvalue

theorem Wrote.refl (scope : Scope) (w : Writer) : Wrote scope [] w w where
  sql := by simp
  params := List.prefix_rfl
  kept _ _ h := h
  placeholders _ _ h := absurd h List.not_mem_nil
  added _ _ h := Or.inl h

/-- The text of a segment is told from the end as it was told when it was written. -/
theorem Wrote.segmentText_eq {scope : Scope} {segments : List Segment} {before after : Writer}
    (h : Wrote scope segments before after) {written : List (String × String)}
    (hkept : ∀ name text, after.written.lookup name = some text → written.lookup name = some text) :
    ∀ segment ∈ segments, segmentText scope after.written segment =
      segmentText scope written segment := by
  intro segment hsegment
  cases segment with
  | verbatim text => rfl
  | field name => rfl
  | placeholder name inList =>
    obtain ⟨text, htext⟩ := h.placeholders name inList hsegment
    rw [segmentText, segmentText, htext, hkept _ _ htext]

/-- Two rows of segments are written one behind the other. What the second writer has written for a
name is kept by the third, so the first row still has the text it had. -/
theorem Wrote.trans {scope : Scope} {earlier later : List Segment} {w₁ w₂ w₃ : Writer}
    (h₁ : Wrote scope earlier w₁ w₂) (h₂ : Wrote scope later w₂ w₃) :
    Wrote scope (earlier ++ later) w₁ w₃ where
  sql := by
    have hsame : earlier.flatMap (segmentText scope w₂.written) =
        earlier.flatMap (segmentText scope w₃.written) :=
      List.flatMap_congr (h₁.segmentText_eq h₂.kept)
    rw [h₂.sql, h₁.sql, hsame, List.flatMap_append, List.append_assoc]
  params := h₁.params.trans h₂.params
  kept name text h := h₂.kept name text (h₁.kept name text h)
  placeholders name inList h := by
    rcases List.mem_append.1 h with h | h
    · obtain ⟨text, htext⟩ := h₁.placeholders name inList h
      exact ⟨text, h₂.kept _ _ htext⟩
    · exact h₂.placeholders name inList h
  added name text h := by
    rcases h₂.added name text h with h | ⟨inList, hmem, hrefers⟩
    · rcases h₁.added name text h with h | ⟨inList, hmem, hrefers⟩
      · exact Or.inl h
      · exact Or.inr ⟨inList, List.mem_append_left _ hmem, hrefers.mono h₂.params⟩
    · exact Or.inr ⟨inList, List.mem_append_right _ hmem, hrefers⟩

/-- A segment that is no placeholder adds its text and nothing else. -/
theorem wrote_of_push {scope : Scope} {segment : Segment} {w : Writer} {text : String}
    (htext : segmentText scope w.written segment = text.toList)
    (hplain : ∀ name inList, segment ≠ .placeholder name inList) :
    Wrote scope [segment] w (w.push text) where
  sql := by
    rw [List.flatMap_singleton]
    simp [Writer.push, htext]
  params := List.prefix_rfl
  kept _ _ h := h
  placeholders name inList h := absurd (List.mem_singleton.1 h).symm (hplain name inList)
  added _ _ h := Or.inl h

/-- A name that is written for the first time refers to the parameters that its value adds. -/
theorem wrote_of_value {scope : Scope} {name : List Char} {inList : Bool} {w : Writer}
    {value : Value} (hnew : w.written.lookup (String.ofList name) = none)
    (hvalue : scope.table.value? (String.ofList name) = some value) :
    Wrote scope [.placeholder name inList] w
      { sql := w.sql ++ listText (w.params.length + 1) (value.parameters inList)
        params := w.params ++ value.parameters inList
        written := (String.ofList name, listText (w.params.length + 1) (value.parameters inList)) ::
          w.written } where
  sql := by
    rw [List.flatMap_singleton]
    simp [segmentText]
  params := List.prefix_append _ _
  kept other text h := by
    have hne : other ≠ String.ofList name := by
      rintro rfl
      rw [hnew] at h
      cases h
    rw [List.lookup_cons, beq_eq_false_iff_ne.2 hne]
    exact h
  placeholders other flag h := by
    obtain ⟨rfl, rfl⟩ := Segment.placeholder.inj (List.mem_singleton.1 h)
    exact ⟨_, List.lookup_cons_self⟩
  added other text h := by
    by_cases hother : other = String.ofList name
    · subst hother
      rw [List.lookup_cons_self, Option.some.injEq] at h
      exact Or.inr ⟨inList, by simp, value, w.params.length, hvalue, h.symm, by simp⟩
    · rw [List.lookup_cons, beq_eq_false_iff_ne.2 hother] at h
      exact Or.inl h

/-- One segment, if it can be written at all, adds its own text. -/
theorem wrote_of_pushSegment {scope : Scope} {segment : Segment} {before after : Writer}
    (h : before.pushSegment scope segment = .ok after) : Wrote scope [segment] before after := by
  cases pushed_of_pushSegment h with
  | copied hplain =>
    refine wrote_of_push ?_ hplain
    rw [String.toList_ofList]
    cases segment with
    | placeholder name inList => exact absurd rfl (hplain name inList)
    | _ => rfl
  | @known name inList text hwritten =>
    exact
      { sql := by
          rw [List.flatMap_singleton]
          simp [Writer.push, segmentText, hwritten]
        params := List.prefix_rfl
        kept := fun _ _ hlookup => hlookup
        placeholders := fun other flag h => by
          obtain ⟨rfl, rfl⟩ := Segment.placeholder.inj (List.mem_singleton.1 h)
          exact ⟨text, hwritten⟩
        added := fun _ _ hlookup => Or.inl hlookup }
  | new hnew hvalue => exact wrote_of_value hnew hvalue

/-- A row of segments adds their texts, told after what is written for placeholders in the end. -/
theorem wrote_of_foldlM {scope : Scope} {segments : List Segment} {before after : Writer}
    (h : segments.foldlM (Writer.pushSegment scope) before = .ok after) :
    Wrote scope segments before after := by
  induction segments generalizing before with
  | nil =>
    cases h
    exact .refl scope _
  | cons segment rest ih =>
    obtain ⟨next, hstep, hrest⟩ := foldlM_cons_eq_ok h
    exact (wrote_of_pushSegment hstep).trans (ih hrest)

/-! ### Placeholders for which nothing is known -/

section Lacking

/-- Nothing is known for a name: it was not written yet, and no value is bound to it. -/
def Writer.lacks (w : Writer) (table : ParamTable) (name : String) : Bool :=
  (w.written.lookup name).isNone && (table.value? name).isNone

variable {scope : Scope} {segment : Segment} {segments : List Segment} {w after : Writer}
  {name : String}

/-- Writing a segment makes no name known: what it writes for a name is the value that is bound to
it. -/
theorem Pushed.lacks_eq (h : Pushed scope w segment after) :
    after.lacks scope.table = w.lacks scope.table := by
  cases h with
  | copied hplain => rfl
  | known hwritten => rfl
  | @new letters inList value hnew hvalue =>
    funext other
    by_cases heq : other = String.ofList letters
    · subst heq
      simp [Writer.lacks, hvalue]
    · have hother : (other == String.ofList letters) = false := beq_eq_false_iff_ne.2 heq
      rw [Writer.lacks, Writer.lacks, List.lookup_cons, hother]

/-- A name for which nothing is known is refused in every context. -/
theorem bind_of_lacks (h : w.lacks scope.table name) (inList : Bool) :
    w.bind scope.table name inList = .error (.unboundParameter name) := by
  rw [Writer.lacks, Bool.and_eq_true, Option.isNone_iff_eq_none, Option.isNone_iff_eq_none] at h
  exact Writer.bind_of_unbound h.1 h.2

/-- A segment can be written if it is no placeholder for which nothing is known. -/
theorem exists_pushSegment_of_not_lacks
    (h : ∀ name ∈ (placeholders [segment]).map Prod.fst, w.lacks scope.table name = false) :
    ∃ after, w.pushSegment scope segment = .ok after := by
  cases segment with
  | verbatim text => exact ⟨_, rfl⟩
  | field name => exact ⟨_, rfl⟩
  | placeholder name inList =>
    have hknown := h (String.ofList name) (by simp [placeholders])
    rw [Writer.pushSegment]
    cases hwritten : w.written.lookup (String.ofList name) with
    | some text =>
      rw [Writer.bind_of_written hwritten]
      exact ⟨_, rfl⟩
    | none =>
      rw [Writer.lacks, hwritten, Option.isNone_none, Bool.true_and, Option.isNone_eq_false_iff,
        Option.isSome_iff_exists] at hknown
      obtain ⟨value, hvalue⟩ := hknown
      rw [Writer.bind_of_value hwritten hvalue]
      exact ⟨_, rfl⟩

/-- A row of segments is written up to its first placeholder for which nothing is known, which is
the fault. -/
theorem foldlM_pushSegment_cases (scope : Scope) (segments : List Segment) (w : Writer) :
    match ((placeholders segments).map Prod.fst).find? (w.lacks scope.table) with
    | some name => segments.foldlM (Writer.pushSegment scope) w = .error (.unboundParameter name)
    | none => ∃ after, segments.foldlM (Writer.pushSegment scope) w = .ok after := by
  induction segments generalizing w with
  | nil => exact ⟨w, rfl⟩
  | cons segment rest ih =>
    have hsplit : (placeholders (segment :: rest)).map Prod.fst =
        (placeholders [segment]).map Prod.fst ++ (placeholders rest).map Prod.fst := by
      rw [← List.map_append, ← placeholders_append, List.singleton_append]
    rw [hsplit, List.find?_append, List.foldlM_cons]
    cases hfirst : ((placeholders [segment]).map Prod.fst).find? (w.lacks scope.table) with
    | some name =>
      cases segment with
      | verbatim text => cases hfirst
      | field name => cases hfirst
      | placeholder letters inList =>
        obtain rfl : name = String.ofList letters := by
          simpa [placeholders] using List.mem_of_find?_eq_some hfirst
        rw [Option.some_or, Writer.pushSegment, bind_of_lacks (List.find?_some hfirst)]
        rfl
    | none =>
      have hknown : ∀ name ∈ (placeholders [segment]).map Prod.fst,
          w.lacks scope.table name = false :=
        fun name hname => by simpa using List.find?_eq_none.1 hfirst name hname
      obtain ⟨next, hnext⟩ := exists_pushSegment_of_not_lacks hknown
      rw [Option.none_or, hnext, ← (pushed_of_pushSegment hnext).lacks_eq]
      exact ih next

/-- The only fault of a text is its first placeholder for which nothing is known. -/
theorem pushText_eq_error_iff {text : String} {fault : ValidationFault} :
    w.pushText scope text = .error fault ↔ ∃ name,
      ((placeholders (Sql.segments scope.entityAlias text)).map Prod.fst).find?
        (w.lacks scope.table) = some name ∧ fault = .unboundParameter name := by
  have hcases := foldlM_pushSegment_cases scope (Sql.segments scope.entityAlias text) w
  rw [Writer.pushText]
  split at hcases
  · rename_i name hfirst
    rw [hcases, hfirst]
    simp [eq_comm]
  · rename_i hfirst
    obtain ⟨after, hafter⟩ := hcases
    rw [hafter, hfirst]
    simp

/-- A text can be written as soon as all its placeholders are bound. -/
theorem exists_foldlM (w : Writer)
    (h : ∀ name inList, .placeholder name inList ∈ segments →
      ∃ value, scope.table.value? (String.ofList name) = some value) :
    ∃ after, segments.foldlM (Writer.pushSegment scope) w = .ok after := by
  have hcases := foldlM_pushSegment_cases scope segments w
  split at hcases
  · rename_i name hfirst
    obtain ⟨⟨name, inList⟩, hmem, rfl⟩ := List.mem_map.1 (List.mem_of_find?_eq_some hfirst)
    rw [← String.ofList_toList (s := name), mem_placeholders_iff] at hmem
    obtain ⟨value, hvalue⟩ := h _ _ hmem
    rw [String.ofList_toList] at hvalue
    have hlacks := List.find?_some hfirst
    rw [Writer.lacks, hvalue, Option.isNone_some, Bool.and_false] at hlacks
    cases hlacks
  · exact hcases

end Lacking

/-! ### Nothing is written for nothing -/

/-- What was written for placeholders is never the empty text. -/
def Writer.Tells (w : Writer) : Prop :=
  ∀ name text, w.written.lookup name = some text → text ≠ ""

/-- Even a list without elements has a text. -/
theorem listText_ne_empty (first : Nat) (values : List Value) : listText first values ≠ "" := by
  obtain ⟨c, rest, htext, -⟩ := exists_listText_cons first values
  intro hempty
  rw [hempty] at htext
  cases htext

/-- What is written for placeholders is never empty, if it was not so far. -/
theorem Wrote.tells {scope : Scope} {segments : List Segment} {before after : Writer}
    (h : Wrote scope segments before after) (hbefore : before.Tells) : after.Tells := by
  intro name text htext
  rcases h.added name text htext with hold | ⟨inList, -, value, first, -, rfl, -⟩
  · exact hbefore name text hold
  · exact listText_ne_empty _ _

/-- The text that was added, as a string. -/
theorem Wrote.sql_eq {scope : Scope} {segments : List Segment} {w after : Writer}
    (h : Wrote scope segments w after) :
    after.sql = w.sql ++ String.ofList (segments.flatMap (segmentText scope after.written)) := by
  rw [← String.toList_inj, h.sql]
  simp

/-- A text that is not empty is written as one that is not empty. -/
theorem Wrote.flatMap_ne_nil {scope : Scope} {qualifier cs : List Char} {c : Char}
    {segments : List Segment} {w after : Writer} (h : Wrote scope segments w after)
    (hreads : ReadsAll qualifier [] (c :: cs) segments) (hafter : after.Tells) :
    segments.flatMap (segmentText scope after.written) ≠ [] := by
  cases hreads with
  | @cons _ _ _ _ rest first later =>
    rw [List.flatMap_cons]
    apply List.append_ne_nil_of_left_ne_nil
    cases first with
    | placeholder hfirst hname hstop =>
      obtain ⟨text, htext⟩ := h.placeholders _ _ List.mem_cons_self
      have hne := hafter _ _ htext
      rw [segmentText, htext]
      simpa using hne
    | _ => simp [segmentText, translatedText]

/-- A text that is not empty adds something to what is written. -/
theorem exists_condition_of_pushText {scope : Scope} {w after : Writer} {text : String}
    (h : w.pushText scope text = .ok after) (htext : text ≠ "") (hw : w.Tells) :
    ∃ condition, condition ≠ "" ∧ after.sql = w.sql ++ condition := by
  have hwrote := wrote_of_foldlM h
  obtain ⟨c, cs, hcs⟩ := List.exists_cons_of_ne_nil (mt String.toList_eq_nil_iff.1 htext)
  have hreads : ReadsAll scope.entityAlias.toList [] (c :: cs)
      (segments scope.entityAlias text) := by
    rw [segments, ← hcs]
    exact readsAll_segmentsFrom _ _ _
  refine ⟨_, ?_, hwrote.sql_eq⟩
  simpa using hwrote.flatMap_ne_nil hreads (hwrote.tells hw)

end Sql

end EntityQuery
