import EntityQuery.Proofs.Sql.Copying
import EntityQuery.Session.Build

namespace EntityQuery

namespace Sql

/-- The scan of a text comes to the alias with a dot behind it. In front of the alias are the
segments `earlier`, and behind the dot is `rest`. -/
structure MeetsAlias (qualifier text : String) (earlier : List Segment) (rest : List Char) :
    Prop where
  word : IsWord qualifier.toList
  cut : ∃ later, segments qualifier text = earlier ++ later ∧
    sources qualifier.toList later = qualifier.toList ++ '.' :: rest

variable {qualifier text : String} {earlier : List Segment} {rest : List Char}

theorem readsAll_segments (qualifier text : String) :
    ReadsAll qualifier.toList [] text.toList (segments qualifier text) :=
  readsAll_segmentsFrom _ _ _

/-! ### Where the scan meets the alias -/

/-- What the scan meets stands in the text, outside of quoted runs and not inside a word. -/
theorem MeetsAlias.isBoundary (h : MeetsAlias qualifier text earlier rest) :
    sources qualifier.toList earlier ++ (qualifier.toList ++ '.' :: rest) = text.toList ∧
      IsBoundary (sources qualifier.toList earlier) (qualifier.toList ++ '.' :: rest) := by
  obtain ⟨later, hsegments, hlater⟩ := h.cut
  have hreads := readsAll_segments qualifier text
  rw [hsegments] at hreads
  constructor
  · rw [← hlater, sources, sources, ← List.flatMap_append]
    exact hreads.flatMap_source
  · have hboundary := isBoundary_of_readsAll hreads (isBoundary_start text.toList)
    rwa [List.nil_append, hlater] at hboundary

/-- Outside of quoted runs the scan meets every alias that stands free. -/
theorem exists_meetsAlias {before : List Char} (hword : IsWord qualifier.toList)
    (htext : before ++ (qualifier.toList ++ '.' :: rest) = text.toList)
    (hplace : Outside before (qualifier.toList ++ '.' :: rest)) (hfree : IsFree before) :
    ∃ earlier, sources qualifier.toList earlier = before ∧
      MeetsAlias qualifier text earlier rest := by
  obtain ⟨earlier, later, hsegments, hearlier, hlater⟩ :=
    exists_cut_of_isFree (readsAll_segments qualifier text) htext hplace hfree
  exact ⟨earlier, hearlier, hword, later, hsegments, hlater⟩

/-- The alias in front of a word is read together with it, as a field. -/
theorem MeetsAlias.exists_field (h : MeetsAlias qualifier text earlier rest)
    (hrest : startsWord rest) :
    ∃ name behind, segments qualifier text = earlier ++ .field name :: behind := by
  obtain ⟨⟨start, word, hqualifier, hstart, hword⟩, later, hsegments, hlater⟩ := h
  have hreads := readsAll_segments qualifier text
  rw [hsegments] at hreads
  obtain ⟨first, tail, rfl, hfirst⟩ := startsWord_iff.1 hrest
  obtain ⟨letters, after, rfl, hletters, hstop⟩ := exists_word tail
  have hfield (context : List Char) : Reads qualifier.toList context
      (start :: (word ++ '.' :: first :: (letters ++ after))) (.field (first :: letters)) after :=
    .field hstart hword hqualifier.symm hfirst hletters hstop
  have hlater : sources qualifier.toList later =
      start :: (word ++ '.' :: first :: (letters ++ after)) := by
    rw [hlater, hqualifier]
    rfl
  obtain ⟨context, behind, rfl, -⟩ := exists_segment_of_cut hreads hlater hfield
  exact ⟨first :: letters, behind, hsegments⟩

/-- In front of anything but a word the alias is read as a word of its own, and then the dot. -/
theorem MeetsAlias.exists_verbatim (h : MeetsAlias qualifier text earlier rest)
    (hrest : startsWord rest = false) :
    ∃ behind, segments qualifier text =
      earlier ++ .verbatim qualifier.toList :: .verbatim ['.'] :: behind := by
  obtain ⟨⟨start, word, hqualifier, hstart, hword⟩, later, hsegments, hlater⟩ := h
  have hreads := readsAll_segments qualifier text
  rw [hsegments] at hreads
  have hdot : StopsWord ('.' :: rest) := by
    intro c hc
    obtain rfl : '.' = c := by simpa using hc
    decide
  have hother : ¬ (start :: word = qualifier.toList ∧ QualifiesField ('.' :: rest)) := by
    rintro ⟨-, hfield⟩
    have hstarts : startsWord rest := (qualifiesField_iff.1 hfield).2
    rw [hrest] at hstarts
    cases hstarts
  have hverbatim (context : List Char) : Reads qualifier.toList context
      (start :: (word ++ '.' :: rest)) (.verbatim (start :: word)) ('.' :: rest) :=
    .word hstart hword hdot hother
  have hlater : sources qualifier.toList later = start :: (word ++ '.' :: rest) := by
    rw [hlater, hqualifier]
    rfl
  obtain ⟨context, behind, rfl, hbehind⟩ := exists_segment_of_cut hreads hlater hverbatim
  have hsingle (context : List Char) : Reads qualifier.toList context ('.' :: rest)
      (.verbatim ['.']) rest :=
    .single (by simp [IsQuote]) (by decide) (by decide) (by simp)
  rw [List.append_cons] at hreads
  obtain ⟨context, behind, rfl, -⟩ := exists_segment_of_cut hreads hbehind hsingle
  exact ⟨behind, by rw [hsegments, hqualifier]⟩

end Sql

namespace Session

open Sql

/-! ### How the alias is written -/

/-- A reserved word is written in quotes, so nothing that begins with the word begins like that. -/
theorem not_prefix_of_isReserved {word : String} (hword : IsWord word.toList)
    (hreserved : isReserved word) (rest : List Char) :
    ¬ (sqlWord word ++ ".").toList <+: word.toList ++ rest := by
  obtain ⟨start, letters, hchars, hstart, -⟩ := hword
  have hquoted : (sqlWord word ++ ".").toList =
      quoteMark :: (escapeQuotes (Text.asciiLower word).toList ++ [quoteMark, '.']) := by
    rw [sqlWord, if_pos hreserved, quoted]
    simp
  rw [hquoted, hchars, List.cons_append, List.cons_prefix_cons]
  rintro ⟨hquote, -⟩
  rw [← hquote] at hstart
  exact absurd hstart (by decide)

variable (s : Session)

/-- Where the scan meets the alias in front of a dot, what is written begins with what the segments
in front of it leave behind, and goes on with the alias as in the declaration of the table, if and
only if the alias is not reserved or a word follows the dot. -/
theorem exists_written_alias {w after : Writer} {text : String} {earlier : List Segment}
    {rest : List Char} (hmeets : MeetsAlias s.entityAlias text earlier rest)
    (hpush : w.pushText s.scope text = .ok after) :
    ∃ middle, earlier.foldlM (Writer.pushSegment s.scope) w = .ok middle ∧
      (middle.sql.toList ++ (s.sqlAlias ++ ".").toList <+: after.sql.toList ↔
        isReserved s.entityAlias = false ∨ startsWord rest) := by
  have hpush : (segments s.entityAlias text).foldlM (Writer.pushSegment s.scope) w = .ok after :=
    hpush
  -- What follows the dot decides which segment the alias belongs to.
  cases hrest : startsWord rest with
  | true =>
    obtain ⟨name, behind, hsegments⟩ := hmeets.exists_field hrest
    rw [hsegments, List.foldlM_append] at hpush
    obtain ⟨middle, hmiddle, hlater⟩ := bind_eq_ok hpush
    refine ⟨middle, hmiddle, fun _ => Or.inr rfl, fun _ => ?_⟩
    rw [(wrote_of_foldlM hlater).sql, List.prefix_append_right_inj, List.flatMap_cons]
    simp [segmentText, translatedText, sqlAlias, scope, List.append_assoc]
  | false =>
    obtain ⟨behind, hsegments⟩ := hmeets.exists_verbatim hrest
    rw [hsegments, List.foldlM_append] at hpush
    obtain ⟨middle, hmiddle, hlater⟩ := bind_eq_ok hpush
    refine ⟨middle, hmiddle, ?_⟩
    rw [(wrote_of_foldlM hlater).sql, List.prefix_append_right_inj, List.flatMap_cons]
    cases hreserved : isReserved s.entityAlias with
    | true =>
      exact iff_of_false (not_prefix_of_isReserved hmeets.word hreserved _) (by simp)
    | false =>
      have hcopied : s.sqlAlias = s.entityAlias := by
        rw [sqlAlias, sqlWord, hreserved]
        rfl
      rw [hcopied]
      simp [segmentText, translatedText]

/-- An alias that stands free outside of the quoted runs of a text, with a dot behind it, is met
there by the scan. Wherever the scan meets it, it is written as in the declaration of the table if
and only if it is not reserved or a word follows the dot. -/
theorem writes_alias_iff (text : String) :
    (∀ before rest, IsWord s.entityAlias.toList →
      before ++ (s.entityAlias.toList ++ '.' :: rest) = text.toList →
        Outside before (s.entityAlias.toList ++ '.' :: rest) → IsFree before →
          ∃ earlier, sources s.entityAlias.toList earlier = before ∧
            MeetsAlias s.entityAlias text earlier rest) ∧
      ∀ (w after : Writer) (earlier : List Segment) (rest : List Char),
        MeetsAlias s.entityAlias text earlier rest → w.pushText s.scope text = .ok after →
          ∃ middle, earlier.foldlM (Writer.pushSegment s.scope) w = .ok middle ∧
            (middle.sql.toList ++ (s.sqlAlias ++ ".").toList <+: after.sql.toList ↔
              isReserved s.entityAlias = false ∨ startsWord rest) :=
  ⟨fun _ _ hword htext hplace hfree => exists_meetsAlias hword htext hplace hfree,
    fun _ _ _ _ hmeets hpush => s.exists_written_alias hmeets hpush⟩

/-- A user without an alias of its own, whose name is a reserved word. -/
def Samples.unnamedUser : EntityMeta :=
  { Samples.user with
    alias? := none
    alias_isOk := by simp }

theorem isWord_user : IsWord "User".toList :=
  ⟨'U', "ser".toList, rfl, by decide, by simp [isWordChar]⟩

/-- The alias of an entity in front of a field, behind a quoted run with the same text. -/
theorem writes_alias_iff_field :
    ∃ earlier rest after,
      MeetsAlias (new Samples.unnamedUser).entityAlias "'User.name' = User.name" earlier rest ∧
        Writer.pushText (new Samples.unnamedUser).scope {} "'User.name' = User.name" = .ok after ∧
        ∃ middle, earlier.foldlM (Writer.pushSegment (new Samples.unnamedUser).scope) {} =
            .ok middle ∧
          (middle.sql.toList ++ ((new Samples.unnamedUser).sqlAlias ++ ".").toList <+:
              after.sql.toList ↔
            isReserved (new Samples.unnamedUser).entityAlias = false ∨ startsWord rest) := by
  have halias : (new Samples.unnamedUser).entityAlias = "User" := by decide +kernel
  have hsegments : segments "User" "'User.name' = User.name" =
      [.verbatim "'User.name'".toList, .verbatim [' '], .verbatim ['='], .verbatim [' ']] ++
        [.field "name".toList] := by
    decide +kernel
  have hmeets : MeetsAlias (new Samples.unnamedUser).entityAlias "'User.name' = User.name"
      [.verbatim "'User.name'".toList, .verbatim [' '], .verbatim ['='], .verbatim [' ']]
      "name".toList := by
    rw [halias]
    exact ⟨isWord_user, _, hsegments, rfl⟩
  have hpush : (Writer.pushText (new Samples.unnamedUser).scope {}
      "'User.name' = User.name").toOption.isSome := by
    decide +kernel
  obtain ⟨after, hafter⟩ := exists_ok_of_isSome hpush
  exact ⟨_, _, after, hmeets, hafter, (writes_alias_iff _ _).2 _ _ _ _ hmeets hafter⟩

/-- A reserved alias in front of a star is sent without quotes, while the table is declared under
the quoted one. -/
theorem copies_reserved_alias :
    ((new Samples.unnamedUser).selectItems ["User.*"]).build.toOption.map BuiltQuery.sql =
        some "SELECT User.* FROM users \"user\"" ∧
      ¬ ∀ (s : Session) (w middle after : Writer) (text : String) (earlier : List Segment)
        (rest : List Char), MeetsAlias s.entityAlias text earlier rest →
          w.pushText s.scope text = .ok after →
            earlier.foldlM (Writer.pushSegment s.scope) w = .ok middle →
              middle.sql.toList ++ (s.sqlAlias ++ ".").toList <+: after.sql.toList := by
  refine ⟨by decide +kernel, fun hall => ?_⟩
  have halias : (new Samples.unnamedUser).entityAlias = "User" := by decide +kernel
  have hsegments : segments "User" "User.*" =
      [] ++ [.verbatim "User".toList, .verbatim ['.'], .verbatim ['*']] := by
    decide +kernel
  have hmeets : MeetsAlias (new Samples.unnamedUser).entityAlias "User.*" [] ['*'] := by
    rw [halias]
    exact ⟨isWord_user, _, hsegments, rfl⟩
  have hpush : Writer.pushText (new Samples.unnamedUser).scope {} "User.*" =
      .ok (Writer.push {} "User.*") := by
    have hscope : (new Samples.unnamedUser).scope.entityAlias = "User" := halias
    rw [Writer.pushText, hscope, hsegments]
    rfl
  have hprefix := hall _ {} {} _ "User.*" [] ['*'] hmeets hpush rfl
  revert hprefix
  decide +kernel

end Session

end EntityQuery
