import EntityQuery.Proofs.Sql.Bytes
import EntityQuery.Proofs.Sql.Quotation
import EntityQuery.Proofs.Sql.Substitution

namespace EntityQuery.Sql

/-- A word of a statement. -/
def IsWord (name : List Char) : Prop :=
  ∃ first rest, name = first :: rest ∧ isWordStart first ∧ ∀ c ∈ rest, isWordChar c

/-- A reference to a field by the alias, outside of quoted runs. -/
structure RefersAt (qualifier before name after : List Char) : Prop where
  outside : Outside before (qualifier ++ '.' :: (name ++ after))
  begins : ∀ c ∈ before.getLast?, isWordChar c = false
  qualifier : IsWord qualifier
  name : IsWord name
  ends : StopsWord after

/-- A placeholder outside of quoted runs. Its colon is not the second one of a cast. -/
structure BindsAt (before name after : List Char) : Prop where
  outside : Outside before (':' :: (name ++ after))
  even : Even (colonsAtEnd before)
  name : IsWord name
  ends : StopsWord after

/-- A word behind the text is not a part of something in the text. -/
def IsFree (before : List Char) : Prop :=
  ∀ c ∈ before.getLast?, ¬ Joins c

/-- A text without references to fields and without colons, unless in quoted runs. -/
structure IsPlain (qualifier text : List Char) : Prop where
  no_reference : ∀ before name after, before ++ (qualifier ++ '.' :: (name ++ after)) = text →
    ¬ RefersAt qualifier before name after
  no_colon : ∀ before after, before ++ ':' :: after = text → ¬ Outside before (':' :: after)

variable {qualifier text context cs after before name : List Char}
  {segment : Segment} {segments : List Segment}

/-! ### What is translated -/

/-- A segment of a field is a reference outside of quoted runs. -/
theorem refersAt_of_field {earlier later : List Segment}
    (h : ReadsAll qualifier [] text (earlier ++ .field name :: later)) :
    RefersAt qualifier (sources qualifier earlier) name (sources qualifier later) := by
  obtain ⟨houtside, -, hseparated⟩ := isBoundary_of_readsAll h (isBoundary_start text)
  rw [List.nil_append, sources_cons, Segment.source, List.append_assoc, List.cons_append]
    at houtside hseparated
  obtain ⟨context, hreads⟩ := h.exists_reads
  generalize sources qualifier (.field name :: later) = remaining at hreads
  cases hreads with
  | @field start first word letters _ hstart hword halias hfirst hletters hstop =>
    subst halias
    refine ⟨houtside, fun c hc => ?_, ⟨start, word, rfl, hstart, hword⟩,
      ⟨first, letters, rfl, hfirst, hletters⟩, hstop⟩
    rw [Bool.eq_false_iff]
    intro hchar
    have hstop := hseparated ⟨c, hc, hchar⟩ start rfl
    rw [isWordChar_of_isWordStart hstart] at hstop
    cases hstop

/-- A segment of a placeholder is a placeholder outside of quoted runs. -/
theorem bindsAt_of_placeholder {earlier later : List Segment} {inList : Bool}
    (h : ReadsAll qualifier [] text (earlier ++ .placeholder name inList :: later)) :
    BindsAt (sources qualifier earlier) name (sources qualifier later) := by
  obtain ⟨houtside, heven, -⟩ := isBoundary_of_readsAll h (isBoundary_start text)
  rw [List.nil_append, sources_cons, Segment.source, List.cons_append] at houtside heven
  obtain ⟨context, hreads⟩ := h.exists_reads
  generalize sources qualifier (.placeholder name inList :: later) = remaining at hreads
  cases hreads with
  | @placeholder first letters _ hfirst hletters hstop =>
    exact ⟨houtside, heven rfl, ⟨first, letters, rfl, hfirst, hletters⟩, hstop⟩

/-! ### Everything that is translated -/

theorem colon_not_mem {word : List Char} (hword : ∀ c ∈ word, isWordChar c) : ':' ∉ word :=
  fun h => ne_of_isWordChar (hword _ h) (by decide) rfl

/-- Behind the first character of a segment without quotes, only a cast has a colon. -/
theorem Reads.exists_target (h : Reads qualifier context cs segment after)
    (hplain : ∀ c ∈ segment.source qualifier, ¬ IsQuote c)
    (hcolon : ':' ∈ (segment.source qualifier).tail) :
    ∃ target, segment.source qualifier = ':' :: ':' :: target ∧ ':' ∉ target := by
  have hletter {c : Char} (hc : isWordStart c) : ':' ≠ c :=
    (ne_of_isWordChar (isWordChar_of_isWordStart hc) (by decide)).symm
  cases h with
  | quoted rest hmark => exact absurd hmark (hplain _ List.mem_cons_self)
  | cast htarget hstop => exact ⟨_, rfl, colon_not_mem htarget⟩
  | placeholder hfirst hname hstop =>
    simp [Segment.source, hletter hfirst, colon_not_mem hname] at hcolon
  | number hfirst hdigits hstop => exact absurd hcolon (colon_not_mem hdigits)
  | field hstart hword halias hfirst hname hstop =>
    simp [Segment.source, ← halias, colon_not_mem hword, hletter hfirst,
      colon_not_mem hname] at hcolon
  | word hstart hword hstop hother => exact absurd hcolon (colon_not_mem hword)
  | single hquote hchar hdollar hcolon' => cases hcolon

/-- Inside a segment without quotes no word is free, and only a cast has a colon there. -/
theorem Reads.of_inside {first second : List Char} (h : Reads qualifier context cs segment after)
    (hplain : ∀ c ∈ segment.source qualifier, ¬ IsQuote c)
    (hsource : segment.source qualifier = first ++ second) (hfirst : first ≠ [])
    (hsecond : second ≠ []) :
    (∀ c ∈ first, Joins c) ∧ (second.head? = some ':' → first = [':']) := by
  obtain ⟨f, more, rfl⟩ := List.exists_cons_of_ne_nil hfirst
  obtain ⟨d, second, rfl⟩ := List.exists_cons_of_ne_nil hsecond
  refine ⟨?_, fun hhead => ?_⟩
  · rcases h.kinds with hrun | ⟨c, -, hc⟩ | hjoins
    · obtain ⟨mark, tail, hrun, hmark⟩ := hrun.exists_mark
      exact absurd hmark (hplain mark (by simp [hrun]))
    · rw [hsource] at hc
      simp at hc
    · rw [hsource] at hjoins
      exact fun c hc => hjoins c (List.mem_append_left _ hc)
  · obtain rfl := Option.some.inj hhead
    obtain ⟨target, hcast, htarget⟩ := h.exists_target hplain (by simp [hsource])
    rw [hsource] at hcast
    obtain ⟨rfl, hmore⟩ := List.cons.inj hcast
    cases more with
    | nil => rfl
    | cons e more =>
      obtain ⟨-, rfl⟩ := List.cons.inj hmore
      simp at htarget

/-- Outside of quoted runs the text is cut where nothing in front goes on with a word. -/
theorem exists_cut_of_isFree {rest : List Char} (h : ReadsAll qualifier [] text segments)
    (htext : before ++ rest = text) (hplace : Outside before rest) (hfree : IsFree before) :
    ∃ earlier later, segments = earlier ++ later ∧ sources qualifier earlier = before ∧
      sources qualifier later = rest := by
  have hposition := position_of_outside h hplace htext
  cases hposition with
  | cut hsegments => exact ⟨_, _, hsegments, rfl, rfl⟩
  | @inside earlier later segment head tail hsegments hsource hhead htail hplain =>
    obtain ⟨context, hsegment⟩ := (hsegments ▸ h).exists_reads
    obtain ⟨hjoined, -⟩ := hsegment.of_inside hplain hsource hhead htail
    have hlast : head.getLast hhead ∈ (sources qualifier earlier ++ head).getLast? := by
      rw [List.getLast?_append_of_ne_nil _ hhead]
      exact List.getLast?_eq_some_getLast hhead
    exact absurd (hjoined _ (List.getLast_mem hhead)) (hfree _ hlast)

/-- A reference that stands free is a segment of its own. Behind a cast or a placeholder the same
characters could belong to the word in front. -/
theorem exists_field_of_refersAt (h : ReadsAll qualifier [] text segments)
    (htext : before ++ (qualifier ++ '.' :: (name ++ after)) = text)
    (hrefers : RefersAt qualifier before name after) (hfree : IsFree before) :
    ∃ earlier later, segments = earlier ++ .field name :: later ∧
      sources qualifier earlier = before ∧ sources qualifier later = after := by
  obtain ⟨start, word, hqualifier, hstart, hword⟩ := hrefers.qualifier
  obtain ⟨first, letters, rfl, hfirst, hletters⟩ := hrefers.name
  obtain ⟨earlier, later, rfl, hearlier, hlater⟩ :=
    exists_cut_of_isFree h htext hrefers.outside hfree
  have hreads (context : List Char) : Reads qualifier context
      (start :: (word ++ '.' :: first :: (letters ++ after))) (.field (first :: letters)) after :=
    .field hstart hword hqualifier.symm hfirst hletters hrefers.ends
  have hlater : sources qualifier later =
      start :: (word ++ '.' :: first :: (letters ++ after)) := by
    rw [hlater, hqualifier]
    rfl
  obtain ⟨context, behind, rfl, hbehind⟩ := exists_segment_of_cut h hlater hreads
  exact ⟨earlier, behind, rfl, hearlier, hbehind⟩

/-- A placeholder is a segment of its own, since its colon belongs to no word and to no cast. -/
theorem exists_placeholder_of_bindsAt (h : ReadsAll qualifier [] text segments)
    (htext : before ++ ':' :: (name ++ after) = text) (hbinds : BindsAt before name after) :
    ∃ earlier inList later, segments = earlier ++ .placeholder name inList :: later ∧
      sources qualifier earlier = before ∧ sources qualifier later = after := by
  obtain ⟨first, letters, rfl, hfirst, hletters⟩ := hbinds.name
  have hplace := position_of_outside h hbinds.outside htext
  have hreads (context : List Char) : Reads qualifier context
      (':' :: first :: (letters ++ after))
      (.placeholder (first :: letters) (isListItem context after)) after :=
    .placeholder hfirst hletters hbinds.ends
  have heven := hbinds.even
  generalize hremaining : ':' :: (first :: letters ++ after) = remaining at hplace
  cases hplace with
  | @cut earlier later hsegments =>
    subst hsegments
    have hlater : sources qualifier later = ':' :: first :: (letters ++ after) := hremaining.symm
    obtain ⟨context, behind, rfl, hbehind⟩ := exists_segment_of_cut h hlater hreads
    exact ⟨earlier, _, behind, rfl, rfl, hbehind⟩
  | @inside earlier later segment head tail hsegments hsource hhead htail hplain =>
    subst hsegments
    obtain ⟨context, hsegment⟩ := h.exists_reads
    obtain ⟨d, tail, rfl⟩ := List.exists_cons_of_ne_nil htail
    obtain ⟨rfl, -⟩ := List.cons.inj hremaining
    obtain rfl := (hsegment.of_inside hplain hsource hhead htail).2 rfl
    -- The colon in front of this one opens a segment, so an even number of colons stands there.
    have hboundary := isBoundary_of_readsAll h (isBoundary_start text)
    have hodd := hboundary.even (by rw [sources_cons, hsource]; rfl)
    rw [colonsAtEnd_append_colon] at heven
    rw [List.nil_append] at hodd
    exact absurd hodd (Nat.even_add_one.1 heven)

/-- Nothing is translated of a plain text. -/
theorem flatMap_segmentText_of_isPlain {scope : Scope} {written : List (String × String)}
    (h : ReadsAll qualifier [] text segments) (hplain : IsPlain qualifier text) :
    segments.flatMap (segmentText scope written) = text := by
  have hverbatim : ∀ segment ∈ segments, segmentText scope written segment =
      segment.source qualifier := by
    intro segment hsegment
    obtain ⟨earlier, later, rfl⟩ := List.append_of_mem hsegment
    have hsource : sources qualifier earlier ++ (segment.source qualifier ++
        sources qualifier later) = text := by
      rw [← sources_cons, ← h.flatMap_source, sources, sources, ← List.flatMap_append]
    cases segment with
    | verbatim text => rfl
    | field name =>
      refine absurd (refersAt_of_field h) (hplain.no_reference _ _ _ ?_)
      simpa [Segment.source] using hsource
    | placeholder name inList =>
      exact absurd (bindsAt_of_placeholder h).outside (hplain.no_colon _ _ hsource)
  rw [List.flatMap_congr hverbatim]
  exact h.flatMap_source

/-! ### Whole texts -/

/-- A text falls into segments. Fields and placeholders are references outside of quoted runs, and
those that stand free are such segments; every quoted run is one segment that is copied. -/
structure Splits (qualifier text : List Char) (segments : List Segment) : Prop where
  source : sources qualifier segments = text
  source_ne_nil : ∀ segment ∈ segments, segment.source qualifier ≠ []
  field : ∀ earlier name later, segments = earlier ++ .field name :: later →
    RefersAt qualifier (sources qualifier earlier) name (sources qualifier later)
  placeholder : ∀ earlier name inList later,
    segments = earlier ++ .placeholder name inList :: later →
      BindsAt (sources qualifier earlier) name (sources qualifier later)
  quoted : ∀ before run after, before ++ (run ++ after) = text → Outside before (run ++ after) →
    IsQuotedRun run after → ∃ earlier later, segments = earlier ++ .verbatim run :: later ∧
      sources qualifier earlier = before ∧ sources qualifier later = after
  reference : ∀ before name after, before ++ (qualifier ++ '.' :: (name ++ after)) = text →
    RefersAt qualifier before name after → IsFree before →
      ∃ earlier later, segments = earlier ++ .field name :: later ∧
        sources qualifier earlier = before ∧ sources qualifier later = after
  binding : ∀ before name after, before ++ ':' :: (name ++ after) = text →
    BindsAt before name after →
      ∃ earlier inList later, segments = earlier ++ .placeholder name inList :: later ∧
        sources qualifier earlier = before ∧ sources qualifier later = after

/-- Whatever segments are read from a text, the text falls into them. -/
theorem splits_of_readsAll (h : ReadsAll qualifier [] text segments) :
    Splits qualifier text segments where
  source := h.flatMap_source
  source_ne_nil segment hsegment := by
    obtain ⟨earlier, later, rfl⟩ := List.append_of_mem hsegment
    obtain ⟨context, hreads⟩ := h.exists_reads
    exact hreads.source_ne_nil
  field earlier name later heq := refersAt_of_field (heq ▸ h)
  placeholder earlier name inList later heq := bindsAt_of_placeholder (heq ▸ h)
  quoted before run after htext hplace hrun :=
    exists_verbatim_of_run h hrun (position_of_outside h hplace htext)
  reference before name after htext hrefers hfree := exists_field_of_refersAt h htext hrefers hfree
  binding before name after htext hbinds := exists_placeholder_of_bindsAt h htext hbinds

/-- What is written of a text: its segments in order, fields by their columns, placeholders by what
was written for their names, and everything else as it is. The bytes of the text fall into the bytes
of its segments. -/
structure Copies (scope : Scope) (text : String) (w after : Writer) (segments : List Segment) :
    Prop where
  splits : Splits scope.entityAlias.toList text.toList segments
  written : after.sql.toList =
    w.sql.toList ++ segments.flatMap (segmentText scope after.written)
  bound : ∀ name inList, .placeholder name inList ∈ segments →
    ∃ reference, after.written.lookup (String.ofList name) = some reference
  plain : IsPlain scope.entityAlias.toList text.toList → after.sql = w.sql ++ text
  bytes : byteSegments (Wire.textBytes scope.entityAlias) (Wire.textBytes text) =
    segments.map Segment.bytes

/-- A text that is written is copied but for its references to fields and its placeholders outside
of quoted runs. -/
theorem copies_of_pushText {scope : Scope} {text : String} {w after : Writer}
    (h : w.pushText scope text = .ok after) :
    Copies scope text w after (Sql.segments scope.entityAlias text) := by
  have hreads : ReadsAll scope.entityAlias.toList [] text.toList
      (Sql.segments scope.entityAlias text) := readsAll_segmentsFrom _ _ _
  have hwrote : Wrote scope (Sql.segments scope.entityAlias text) w after := wrote_of_foldlM h
  refine ⟨splits_of_readsAll hreads, hwrote.sql, hwrote.placeholders, fun hplain => ?_,
    byteSegments_textBytes _ _⟩
  apply String.toList_inj.1
  rw [hwrote.sql, flatMap_segmentText_of_isPlain hreads hplain, String.toList_append]

/-- A reference and a placeholder in a quoted run, in front of a field, a cast and a placeholder. -/
def Samples.quotedText : String :=
  "'u.team é :team ''q''' < u.team::text || :team"

/-- The quoted run is written as it is, with the reference, the placeholder and the letter beyond
ASCII in it. Behind it the field has its column, and the placeholder its number. -/
theorem copies_of_pushText_quotedText :
    ∃ after, Writer.pushText Samples.scope {} Samples.quotedText = .ok after ∧
      after.sql = "'u.team é :team ''q''' < u.team_id::text || $1" ∧
      Copies Samples.scope Samples.quotedText {} after (Sql.segments "u" Samples.quotedText) := by
  have hsegments : Sql.segments "u" Samples.quotedText =
      [.verbatim "'u.team é :team ''q'''".toList, .verbatim [' '], .verbatim ['<'],
        .verbatim [' '], .field "team".toList, .verbatim "::text".toList, .verbatim [' '],
        .verbatim ['|'], .verbatim ['|'], .verbatim [' '], .placeholder "team".toList false] := by
    decide +kernel
  have hpush : Writer.pushText Samples.scope {} Samples.quotedText =
      .ok
        { sql := "'u.team é :team ''q''' < u.team_id::text || $1"
          params := [.int 7]
          written := [("team", "$1")] } := by
    rw [Writer.pushText, Samples.scope, hsegments]
    rfl
  exact ⟨_, hpush, rfl, copies_of_pushText hpush⟩

end EntityQuery.Sql
