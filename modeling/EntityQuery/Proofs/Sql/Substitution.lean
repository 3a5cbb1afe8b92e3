import EntityQuery.Proofs.Names
import EntityQuery.Proofs.Sql.Context
import EntityQuery.Proofs.Sql.Spacing

namespace EntityQuery.Sql

/-- What a value is in the place of a placeholder: a list that is the sole item behind `IN` is its
elements, and everything else is one value. -/
def placedPieces (sole : Bool) : Value → List Piece
  | .list items => if sole then listPieces items else [.value (.list items)]
  | single => [.value single]

/-- The pieces of a segment. A placeholder without a value is left as it is. -/
def segmentPieces (scope : Scope) (sole : Bool) : Segment → List Piece
  | .placeholder name inList =>
    match scope.table.value? (String.ofList name) with
    | some value => placedPieces sole value
    | none => (translatedText scope (.placeholder name inList)).map .char
  | other => (translatedText scope other).map .char

/-- The pieces of segments behind the text `before`. Whether a placeholder is the sole item of a
list is seen in the text around it. -/
def substituteFrom (scope : Scope) (before : List Char) : List Segment → List Piece
  | [] => []
  | segment :: rest =>
    let qualifier := scope.entityAlias.toList
    segmentPieces scope (SoleListItem before (rest.flatMap (Segment.source qualifier))) segment ++
      substituteFrom scope (before ++ segment.source qualifier) rest

/-- A text in the words of the database, with the values in the places of their placeholders. -/
def substitute (scope : Scope) (text : String) : List Piece :=
  substituteFrom scope [] (segments scope.entityAlias text)

/-- A text in the words of the database. -/
def translation (scope : Scope) (text : String) : List Char :=
  (segments scope.entityAlias text).flatMap (translatedText scope)

/-- A text has a placeholder of the name between `before` and `after`. -/
def HasPlaceholder (qualifier text name : String) (before after : List Char) : Prop :=
  ∃ earlier later inList,
    segments qualifier text = earlier ++ .placeholder name.toList inList :: later ∧
      before = earlier.flatMap (Segment.source qualifier.toList) ∧
      after = later.flatMap (Segment.source qualifier.toList)

/-- A name is somewhere the sole item of a list behind `IN`. -/
def IsUsedAsList (qualifier text name : String) : Prop :=
  ∃ before after, HasPlaceholder qualifier text name before after ∧ SoleListItem before after

/-- A name is somewhere used in another way than as the sole item of a list behind `IN`. -/
def IsUsedAsValue (qualifier text name : String) : Prop :=
  ∃ before after, HasPlaceholder qualifier text name before after ∧ ¬ SoleListItem before after

/-- The context that the segment of a placeholder carries is the one that the text around it
shows. -/
theorem isUsedAsList_iff {qualifier text name : String} :
    IsUsedAsList qualifier text name ↔
      .placeholder name.toList true ∈ segments qualifier text := by
  constructor
  · rintro ⟨before, after, ⟨earlier, later, inList, hsegments, rfl, rfl⟩, hsole⟩
    rw [(placeholder_inList_iff hsegments).2 hsole] at hsegments
    rw [hsegments]
    simp
  · intro hmem
    obtain ⟨earlier, later, hsegments⟩ := List.append_of_mem hmem
    exact ⟨_, _, ⟨earlier, later, true, hsegments, rfl, rfl⟩,
      (placeholder_inList_iff hsegments).1 rfl⟩

/-- The same for the other context. -/
theorem isUsedAsValue_iff {qualifier text name : String} :
    IsUsedAsValue qualifier text name ↔
      .placeholder name.toList false ∈ segments qualifier text := by
  constructor
  · rintro ⟨before, after, ⟨earlier, later, inList, hsegments, rfl, rfl⟩, hsole⟩
    rw [← placeholder_inList_iff hsegments, Bool.not_eq_true] at hsole
    rw [hsegments, hsole]
    simp
  · intro hmem
    obtain ⟨earlier, later, hsegments⟩ := List.append_of_mem hmem
    refine ⟨_, _, ⟨earlier, later, false, hsegments, rfl, rfl⟩, ?_⟩
    rw [← placeholder_inList_iff hsegments]
    simp

/-! ### Both sides segment by segment -/

/-- The context that a segment carries. -/
def Segment.inList : Segment → Bool
  | .placeholder _ inList => inList
  | _ => false

/-- The context in which the name of a segment was written, by what `context` tells for names. -/
def Segment.memoContext (context : List Char → Bool) : Segment → Bool
  | .placeholder name _ => context name
  | _ => false

/-- The context matters for placeholders only. -/
theorem segmentPieces_congr {scope : Scope} {segment : Segment} {sole other : Bool}
    (h : ∀ name inList, segment = .placeholder name inList → sole = other) :
    segmentPieces scope sole segment = segmentPieces scope other segment := by
  cases segment with
  | verbatim text => rfl
  | field name => rfl
  | placeholder name inList => rw [h name inList rfl]

/-- The places of the placeholders are the ones that their segments carry. -/
theorem substituteFrom_eq_flatMap {scope : Scope} {before cs : List Char} {segments : List Segment}
    (h : ReadsAll scope.entityAlias.toList before.reverse cs segments) :
    substituteFrom scope before segments =
      segments.flatMap fun segment => segmentPieces scope segment.inList segment := by
  induction segments generalizing before cs with
  | nil => rfl
  | cons segment rest ih =>
    cases h with
    | @cons _ _ after _ _ first later =>
      have hbefore : (segment.source scope.entityAlias.toList).reverse ++ before.reverse =
          (before ++ segment.source scope.entityAlias.toList).reverse :=
        List.reverse_append.symm
      rw [hbefore] at later
      have hrest := ih later
      rw [substituteFrom, hrest, List.flatMap_cons, later.flatMap_source]
      congr 1
      apply segmentPieces_congr
      rintro name inList rfl
      cases first with
      | placeholder hfirst hname hstop =>
        rw [Segment.inList, Bool.eq_iff_iff, decide_eq_true_iff, isListItem_reverse_iff]

/-- The parameters that a value takes up are what the value is in that place. -/
theorem listPieces_parameters (inList : Bool) (value : Value) :
    listPieces (value.parameters inList) = placedPieces inList value := by
  cases value with
  | list items => cases inList <;> rfl
  | _ => rfl

/-- Every placeholder of a row of segments refers to parameters that its value takes up in the
context that `context` tells for the name. -/
def AllReferTo (scope : Scope) (w : Writer) (context : List Char → Bool)
    (segments : List Segment) : Prop :=
  ∀ name inList, .placeholder name inList ∈ segments →
    ∃ text, w.written.lookup (String.ofList name) = some text ∧
      RefersTo scope.table w.params (String.ofList name) (context name) text

/-- A text that refers to parameters is a row of references. -/
theorem AllReferTo.writtenAsLists {scope : Scope} {w : Writer} {context : List Char → Bool}
    {segments : List Segment} (h : AllReferTo scope w context segments) :
    WrittenAsLists w.written segments := by
  intro name inList hmem
  obtain ⟨text, htext, value, first, -, rfl, -⟩ := h name inList hmem
  exact ⟨first + 1, value.parameters (context name), htext⟩

/-- Read back, each segment is its pieces in the context in which its name was written first. -/
theorem readBack_segmentText {scope : Scope} {w : Writer} {context : List Char → Bool}
    {before cs : List Char} {segments : List Segment}
    (h : ReadsAll scope.entityAlias.toList before cs segments)
    (hrefers : AllReferTo scope w context segments)
    (hdollar : '$' ∉ segments.flatMap (translatedText scope)) :
    readBack w.params (segments.flatMap (segmentText scope w.written)) =
      segments.flatMap fun segment =>
        segmentPieces scope (segment.memoContext context) segment := by
  induction h with
  | nil before => exact readBack_nil _
  | @cons before cs after segment rest first later ih =>
    rw [List.flatMap_cons, List.mem_append, not_or] at hdollar
    have hlater : AllReferTo scope w context rest := fun name inList hmem =>
      hrefers name inList (List.mem_cons_of_mem _ hmem)
    have hrest := ih hlater hdollar.2
    rw [List.flatMap_cons, List.flatMap_cons, ← hrest]
    cases segment with
    | verbatim text => exact readBack_append _ hdollar.1 _
    | field name => exact readBack_append _ hdollar.1 _
    | placeholder name inList =>
      obtain ⟨text, htext, value, number, hvalue, rfl, hleads⟩ :=
        hrefers name inList List.mem_cons_self
      -- The name ends with its word, so no digit follows that would continue the reference.
      have hstop : StopsWord after := by
        cases first with
        | placeholder hfirst hname hstop => exact hstop
      have hstops := stopsNumber_segmentText hlater.writtenAsLists
        (stopsNumber_translatedText later hstop)
      rw [segmentText, htext, Option.getD_some, readBack_listText hleads hstops,
        listPieces_parameters]
      simp only [segmentPieces, Segment.memoContext, hvalue]

/-! ### A list in both kinds of places -/

/-- Two rows of texts are the same only item by item, if different items differ in their first
piece. -/
theorem flatMap_eq_flatMap_iff {α β : Type} {f g : α → List β} {items : List α}
    (h : ∀ a ∈ items, f a = g a ∨
      ∃ b bs c cs, f a = b :: bs ∧ g a = c :: cs ∧ b ≠ c) :
    items.flatMap f = items.flatMap g ↔ ∀ a ∈ items, f a = g a := by
  induction items with
  | nil => simp
  | cons a rest ih =>
    have hrest := ih fun a ha => h a (List.mem_cons_of_mem _ ha)
    rw [List.flatMap_cons, List.flatMap_cons, List.forall_mem_cons]
    rcases h a List.mem_cons_self with heq | ⟨b, bs, c, cs, hf, hg, hne⟩
    · rw [heq, List.append_cancel_left_eq, hrest]
      exact ⟨fun hall => ⟨rfl, hall⟩, fun hall => hall.2⟩
    · rw [hf, hg]
      constructor
      · intro heq
        exact absurd (List.cons.inj heq).1 hne
      · rintro ⟨heq, -⟩
        exact absurd (List.cons.inj heq).1 hne

/-- A list is something else in the two kinds of places, and that shows in the first piece. -/
theorem placedPieces_list_ne (items : List Value) :
    ∃ b bs c cs, placedPieces true (.list items) = b :: bs ∧
      placedPieces false (.list items) = c :: cs ∧ b ≠ c := by
  cases items with
  | nil =>
    refine ⟨.char 'N', _, _, [], rfl, rfl, ?_⟩
    simp
  | cons v values =>
    obtain ⟨rest, hrest⟩ : ∃ rest, listPieces (v :: values) = .value v :: rest := by
      cases values with
      | nil => exact ⟨[], rfl⟩
      | cons next values =>
        rw [listPieces, if_neg (by simp), List.map_cons,
          List.intercalate_cons_of_ne_nil (by simp)]
        exact ⟨_, rfl⟩
    refine ⟨.value v, rest, _, [], hrest, rfl, ?_⟩
    intro heq
    have hsize := congrArg sizeOf (Piece.value.inj heq)
    simp at hsize
    omega

/-- In the two contexts a segment has the same pieces, or pieces that differ in the first one: a
list as one value is a piece that none of its elements is. -/
theorem segmentPieces_eq_or_ne (scope : Scope) (sole other : Bool) (segment : Segment) :
    segmentPieces scope sole segment = segmentPieces scope other segment ∨
      ∃ b bs c cs, segmentPieces scope sole segment = b :: bs ∧
        segmentPieces scope other segment = c :: cs ∧ b ≠ c := by
  cases segment with
  | verbatim text => exact Or.inl rfl
  | field name => exact Or.inl rfl
  | placeholder name inList =>
    cases hvalue : scope.table.value? (String.ofList name) with
    | none => simp [segmentPieces, hvalue]
    | some value =>
      simp only [segmentPieces, hvalue]
      cases value with
      | list items =>
        obtain ⟨b, bs, c, cs, htrue, hfalse, hne⟩ := placedPieces_list_ne items
        cases sole <;> cases other
        · exact Or.inl rfl
        · exact Or.inr ⟨c, cs, b, bs, hfalse, htrue, hne.symm⟩
        · exact Or.inr ⟨b, bs, c, cs, htrue, hfalse, hne⟩
        · exact Or.inl rfl
      | _ => exact Or.inl rfl

/-- A list is told apart by its place, and nothing else is. -/
theorem segmentPieces_placeholder_eq_iff {scope : Scope} {sole other inList : Bool}
    {name : List Char} :
    segmentPieces scope sole (.placeholder name inList) =
        segmentPieces scope other (.placeholder name inList) ↔
      ∀ items, scope.table.value? (String.ofList name) = some (.list items) → sole = other := by
  cases hvalue : scope.table.value? (String.ofList name) with
  | none => simp [segmentPieces, hvalue]
  | some value =>
    simp only [segmentPieces, hvalue]
    cases value with
    | list items =>
      obtain ⟨b, bs, c, cs, htrue, hfalse, hne⟩ := placedPieces_list_ne items
      cases sole <;> cases other <;> simp [htrue, hfalse, hne, hne.symm]
    | _ => simp [placedPieces]

/-- What a writer keeps for the names of a text was written in the context of some placeholder of
the text. -/
theorem exists_allReferTo {scope : Scope} {segments : List Segment} {w : Writer}
    (h : Wrote scope segments {} w) :
    ∃ context : List Char → Bool, AllReferTo scope w context segments ∧
      ∀ name inList, .placeholder name inList ∈ segments →
        .placeholder name (context name) ∈ segments := by
  have hname (name : List Char) : ∃ sole, ∀ inList, .placeholder name inList ∈ segments →
      .placeholder name sole ∈ segments ∧ ∃ text,
        w.written.lookup (String.ofList name) = some text ∧
          RefersTo scope.table w.params (String.ofList name) sole text := by
    by_cases hmem : ∃ inList, .placeholder name inList ∈ segments
    · obtain ⟨inList, hmem⟩ := hmem
      obtain ⟨text, htext⟩ := h.placeholders name inList hmem
      rcases h.added _ _ htext with hnone | ⟨sole, hsole, hrefers⟩
      · cases hnone
      · rw [String.toList_ofList] at hsole
        exact ⟨sole, fun _ _ => ⟨hsole, text, htext, hrefers⟩⟩
    · -- A name that does not occur may have any context.
      exact ⟨false, fun inList hinList => absurd ⟨inList, hinList⟩ hmem⟩
  choose context hcontext using hname
  exact ⟨context, fun name inList hmem => (hcontext name inList hmem).2,
    fun name inList hmem => (hcontext name inList hmem).1⟩

/-- Reading a written text back gives the text with its values in place if and only if no list is
used both as the sole item of a list behind `IN` and in another way. The translated text must have
no dollar sign of its own, which could be taken for a reference. -/
theorem readBack_eq_substitute_iff (scope : Scope) (text : String) (w : Writer)
    (hdollar : '$' ∉ translation scope text) (hok : Writer.pushText scope {} text = .ok w) :
    readBack w.params w.sql.toList = substitute scope text ↔
      ∀ name items, scope.table.value? name = some (.list items) →
        ¬ (IsUsedAsList scope.entityAlias text name ∧
          IsUsedAsValue scope.entityAlias text name) := by
  have hwrote := wrote_of_foldlM hok
  obtain ⟨context, hrefers, hcontext⟩ := exists_allReferTo hwrote
  have hreads :
      ReadsAll scope.entityAlias.toList [] text.toList (segments scope.entityAlias text) :=
    readsAll_segmentsFrom scope.entityAlias.toList [] text.toList
  have hsql : w.sql.toList =
      (segments scope.entityAlias text).flatMap (segmentText scope w.written) := by
    simpa using hwrote.sql
  have hsubstitute : substitute scope text = (segments scope.entityAlias text).flatMap
      fun segment => segmentPieces scope segment.inList segment :=
    substituteFrom_eq_flatMap hreads
  -- Both sides are rows of pieces for the same segments, and differ in the contexts at most.
  rw [hsql, readBack_segmentText hreads hrefers hdollar, hsubstitute, flatMap_eq_flatMap_iff
    fun segment _ => segmentPieces_eq_or_ne scope _ _ segment]
  constructor
  · rintro hsame name items hvalue ⟨hlist, hother⟩
    have hvalue : scope.table.value? (String.ofList name.toList) = some (.list items) := by
      rwa [String.ofList_toList]
    have htrue :=
      segmentPieces_placeholder_eq_iff.1 (hsame _ (isUsedAsList_iff.1 hlist)) items hvalue
    have hfalse :=
      segmentPieces_placeholder_eq_iff.1 (hsame _ (isUsedAsValue_iff.1 hother)) items hvalue
    simp only [Segment.memoContext, Segment.inList] at htrue hfalse
    rw [htrue] at hfalse
    cases hfalse
  · intro hunmixed segment hsegment
    cases segment with
    | verbatim text => rfl
    | field name => rfl
    | placeholder name inList =>
      apply segmentPieces_placeholder_eq_iff.2
      intro items hvalue
      have hfirst := hcontext name inList hsegment
      have hmixed := hunmixed _ items hvalue
      rw [isUsedAsList_iff, isUsedAsValue_iff, String.toList_ofList] at hmixed
      simp only [Segment.memoContext, Segment.inList]
      cases hsole : context name <;> cases inList
      · rfl
      · rw [hsole] at hfirst
        exact absurd ⟨hsegment, hfirst⟩ hmixed
      · rw [hsole] at hfirst
        exact absurd ⟨hfirst, hsegment⟩ hmixed
      · rfl

/-- Users by their alias, with a list and a value bound. -/
def Samples.scope : Scope where
  entity := EntityQuery.Samples.user
  entityAlias := "u"
  table := (({} : ParamTable).set "ids" (.list [.int 1, .int 2]) none).set "team" (.int 7) none

/-- A list that is written for both its places. -/
theorem pushText_list_and_value :
    Writer.pushText Samples.scope {} "u.id IN (:ids) AND u.team = :team" =
      .ok
        { sql := "u.id IN ($1, $2) AND u.team_id = $3"
          params := [.int 1, .int 2, .int 7]
          written := [("team", "$3"), ("ids", "$1, $2")] } := by
  have hsegments : segments "u" "u.id IN (:ids) AND u.team = :team" =
      [.field "id".toList, .verbatim [' '], .verbatim "IN".toList, .verbatim [' '],
        .verbatim ['('], .placeholder "ids".toList true, .verbatim [')'], .verbatim [' '],
        .verbatim "AND".toList, .verbatim [' '], .field "team".toList, .verbatim [' '],
        .verbatim ['='], .verbatim [' '], .placeholder "team".toList false] := by
    decide +kernel
  rw [Writer.pushText, Samples.scope, hsegments]
  rfl

/-- A list is used as a list and another parameter as a value, so the statement means what the text
does. -/
theorem readBack_eq_substitute_iff_list_and_value :
    '$' ∉ translation Samples.scope "u.id IN (:ids) AND u.team = :team" ∧
      Writer.pushText Samples.scope {} "u.id IN (:ids) AND u.team = :team" =
        .ok
          { sql := "u.id IN ($1, $2) AND u.team_id = $3"
            params := [.int 1, .int 2, .int 7]
            written := [("team", "$3"), ("ids", "$1, $2")] } ∧
      (readBack [.int 1, .int 2, .int 7] "u.id IN ($1, $2) AND u.team_id = $3".toList =
          substitute Samples.scope "u.id IN (:ids) AND u.team = :team" ↔
        ∀ name items, Samples.scope.table.value? name = some (.list items) →
          ¬ (IsUsedAsList "u" "u.id IN (:ids) AND u.team = :team" name ∧
            IsUsedAsValue "u" "u.id IN (:ids) AND u.team = :team" name)) :=
  ⟨by decide +kernel, pushText_list_and_value,
    readBack_eq_substitute_iff _ _ _ (by decide +kernel) pushText_list_and_value⟩

/-- The list that is the sole item behind `IN` is written again for the place that takes one
value. -/
theorem pushText_mixed_list :
    Writer.pushText Samples.scope {} "u.id IN (:ids) OR u.team = ANY(:ids)" =
      .ok
        { sql := "u.id IN ($1, $2) OR u.team_id = ANY($1, $2)"
          params := [.int 1, .int 2]
          written := [("ids", "$1, $2")] } := by
  have hsegments : segments "u" "u.id IN (:ids) OR u.team = ANY(:ids)" =
      [.field "id".toList, .verbatim [' '], .verbatim "IN".toList, .verbatim [' '],
        .verbatim ['('], .placeholder "ids".toList true, .verbatim [')'], .verbatim [' '],
        .verbatim "OR".toList, .verbatim [' '], .field "team".toList, .verbatim [' '],
        .verbatim ['='], .verbatim [' '], .verbatim "ANY".toList, .verbatim ['('],
        .placeholder "ids".toList false, .verbatim [')']] := by
    decide +kernel
  rw [Writer.pushText, Samples.scope, hsegments]
  rfl

/-- Reading a written text back does not always give the text with its values in place. -/
theorem readBack_ne_substitute_mixed_list :
    ¬ ∀ (scope : Scope) (text : String) (w : Writer), '$' ∉ translation scope text →
      Writer.pushText scope {} text = .ok w →
        readBack w.params w.sql.toList = substitute scope text := by
  intro hall
  have hsame := hall Samples.scope _ _ (by decide +kernel) pushText_mixed_list
  have hlength := congrArg List.length hsame
  revert hlength
  decide +kernel

end EntityQuery.Sql
