import EntityQuery.Proofs.Names
import EntityQuery.Proofs.Sql.Reading

namespace EntityQuery.Sql

/-- The placeholders of a text by their names, each with whether it is the sole item of a list. -/
def placeholders (segments : List Segment) : List (String × Bool) :=
  segments.filterMap fun
    | .placeholder name inList => some (String.ofList name, inList)
    | _ => none

theorem placeholders_append (earlier later : List Segment) :
    placeholders (earlier ++ later) = placeholders earlier ++ placeholders later :=
  List.filterMap_append

/-- A placeholder is found if one of the segments is that placeholder. -/
theorem mem_placeholders_iff {segments : List Segment} {name : List Char} {inList : Bool} :
    (String.ofList name, inList) ∈ placeholders segments ↔
      .placeholder name inList ∈ segments := by
  rw [placeholders, List.mem_filterMap]
  constructor
  · rintro ⟨segment, hmem, hsome⟩
    cases segment with
    | placeholder other flag =>
      obtain ⟨hname, rfl⟩ := Prod.mk.inj (Option.some.inj hsome)
      rwa [String.ofList_injective hname] at hmem
    | _ => cases hsome
  · intro hmem
    exact ⟨_, hmem, rfl⟩

/-- The two texts do not run into each other: no word at the end of the first goes on in the second
or is followed by a dot there. -/
def Detached (first second : List Char) : Prop :=
  ∀ c ∈ first.getLast?, ∀ d ∈ second.head?, isWordChar c → isWordChar d = false ∧ d ≠ '.'

/-- Only the end of a text can run into what follows. -/
theorem Detached.of_append {first second rest : List Char} (h : Detached (first ++ second) rest) :
    Detached second rest := by
  intro c hc
  refine h c ?_
  rw [List.getLast?_append, Option.mem_def.1 hc]
  rfl

/-- A text that does not end with a word does not run into anything. -/
theorem detached_of_getLast? {text rest : List Char} (h : text.getLast?.any isWordChar = false) :
    Detached text rest := by
  intro c hc d _ hword
  rw [Option.mem_def.1 hc, Option.any_some, hword] at h
  cases h

/-- Nothing runs into a character that is neither a dot nor part of a word. -/
theorem detached_cons {text rest : List Char} {c : Char} (hword : isWordChar c = false)
    (hdot : c ≠ '.') : Detached text (c :: rest) := by
  intro _ _ d hd _
  obtain rfl : c = d := by simpa using hd
  exact ⟨hword, hdot⟩

/-- Wherever the text stands, if it does not run into the rest, scanning it finds the given
placeholders and goes on with the rest. -/
def Yields (qualifier text : List Char) (found : List (String × Bool)) : Prop :=
  ∀ before rest, Detached text rest →
    placeholders (segmentsFrom qualifier before (text ++ rest)) =
      found ++ placeholders (segmentsFrom qualifier (text.reverse ++ before) rest)

variable {qualifier : List Char}

theorem Yields.nil : Yields qualifier [] [] :=
  fun _ _ _ => rfl

/-- Two texts that do not run into each other have the placeholders of both. -/
theorem Yields.append {first second : List Char} {found more : List (String × Bool)}
    (h : Yields qualifier first found) (h' : Yields qualifier second more)
    (hdetached : Detached first second) :
    Yields qualifier (first ++ second) (found ++ more) := by
  intro before rest hrest
  have hfirst : Detached first (second ++ rest) := by
    cases second with
    | nil => simpa using hrest
    | cons c cs => exact hdetached
  rw [List.append_assoc, h _ _ hfirst, h' _ _ hrest.of_append, List.reverse_append,
    List.append_assoc, List.append_assoc]

/-- The placeholders of a whole text. -/
theorem Yields.placeholders_eq {text : List Char} {found : List (String × Bool)}
    (h : Yields qualifier text found) :
    placeholders (segmentsFrom qualifier [] text) = found := by
  have hall := h [] [] (fun c _ d hd => by cases hd)
  rw [List.append_nil, segmentsFrom_nil] at hall
  simpa [placeholders] using hall

/-! ### Texts without quotes and colons -/

/-- A character that begins no quoted run, no placeholder and no cast. -/
def IsMute (c : Char) : Prop :=
  ¬ IsQuote c ∧ c ≠ ':'

/-- The characters of words begin no placeholder. -/
theorem isMute_of_isWordChar {c : Char} (h : isWordChar c) : IsMute c :=
  ⟨not_isQuote_of_isWordChar h, ne_of_isWordChar h (by decide)⟩

/-- A segment that begins with a mute character is no placeholder, and all of it is mute. -/
theorem Reads.mute {before rest after : List Char} {c : Char} {segment : Segment}
    (h : Reads qualifier before (c :: rest) segment after) (hc : IsMute c) :
    (∃ run, segment.source qualifier = c :: run ∧ ∀ d ∈ run, IsMute d) ∧
      ∀ later, placeholders (segment :: later) = placeholders later := by
  have hmute {word : List Char} (hword : ∀ d ∈ word, isWordChar d) : ∀ d ∈ word, IsMute d :=
    fun d hd => isMute_of_isWordChar (hword d hd)
  generalize hcs : c :: rest = cs at h
  cases h with
  | quoted rest hmark =>
    obtain ⟨rfl, -⟩ := List.cons.inj hcs
    exact absurd hmark hc.1
  | cast htarget hstop => exact absurd (List.cons.inj hcs).1 hc.2
  | placeholder hfirst hname hstop => exact absurd (List.cons.inj hcs).1 hc.2
  | number hfirst hword hstop =>
    obtain ⟨rfl, -⟩ := List.cons.inj hcs
    exact ⟨⟨_, rfl, hmute hword⟩, fun _ => rfl⟩
  | @field start first word name after hstart hword halias hfirst hname hstop =>
    obtain ⟨rfl, -⟩ := List.cons.inj hcs
    refine ⟨⟨word ++ '.' :: first :: name, ?_, ?_⟩, fun _ => rfl⟩
    · rw [Segment.source, ← halias]
      rfl
    · have hletters := hmute (List.forall_mem_cons.2 ⟨isWordChar_of_isWordStart hfirst, hname⟩)
      exact List.forall_mem_append.2
        ⟨hmute hword, List.forall_mem_cons.2 ⟨⟨by simp [IsQuote], by decide⟩, hletters⟩⟩
  | word hstart hword hstop hother =>
    obtain ⟨rfl, -⟩ := List.cons.inj hcs
    exact ⟨⟨_, rfl, hmute hword⟩, fun _ => rfl⟩
  | single hquote hword hdollar hcolon =>
    obtain ⟨rfl, -⟩ := List.cons.inj hcs
    exact ⟨⟨[], rfl, fun d hd => by cases hd⟩, fun _ => rfl⟩

/-- A mute text is skipped, whatever stands behind it. -/
theorem placeholders_mute_append {text : List Char} (h : ∀ c ∈ text, IsMute c)
    (before rest : List Char) :
    placeholders (segmentsFrom qualifier before (text ++ rest)) =
      placeholders (segmentsFrom qualifier (text.reverse ++ before) rest) := by
  -- By the length of the whole, because the first segment may reach beyond the text.
  induction hlength : (text ++ rest).length using Nat.strongRecOn
    generalizing text before rest with
  | ind n ih =>
    cases text with
    | nil => rfl
    | cons c cs =>
      obtain ⟨hc, hcs⟩ := List.forall_mem_cons.1 h
      obtain ⟨segment, after, hreads⟩ := exists_reads qualifier before c (cs ++ rest)
      obtain ⟨⟨run, hsource, hrun⟩, hskipped⟩ := hreads.mute hc
      have hsplit : run ++ after = cs ++ rest := by
        have happend := hreads.source_append
        rw [hsource] at happend
        exact (List.cons.inj happend).2
      have hshorter : (cs ++ rest).length < n := by
        rw [← hlength]
        exact Nat.lt_succ_self _
      calc placeholders (segmentsFrom qualifier before (c :: cs ++ rest))
          = placeholders (segmentsFrom qualifier (run.reverse ++ (c :: before)) after) := by
            rw [List.cons_append, segmentsFrom_of_reads hreads, hskipped, hsource,
              List.reverse_cons, List.append_assoc]
            rfl
        _ = placeholders (segmentsFrom qualifier (c :: before) (run ++ after)) :=
            (ih _ hshorter hrun (c :: before) after (by rw [hsplit])).symm
        _ = placeholders (segmentsFrom qualifier (c :: before) (cs ++ rest)) := by rw [hsplit]
        _ = placeholders (segmentsFrom qualifier ((c :: cs).reverse ++ before) rest) := by
            rw [ih _ hshorter hcs (c :: before) rest rfl, List.reverse_cons, List.append_assoc]
            rfl

/-- Mute texts have no placeholders. -/
theorem yields_of_mute {text : List Char} (h : ∀ c ∈ text, IsMute c) : Yields qualifier text [] :=
  fun before rest _ => placeholders_mute_append h before rest

/-! ### Texts that contain nothing but words, numbers and single characters -/

/-- A character that begins no quoted run, no placeholder, no cast and no field. -/
def isInert (c : Char) : Bool :=
  !(c == '\x27' || c == '\x22' || c == '$' || c == ':' || c == '.')

theorem isInert_iff {c : Char} :
    isInert c ↔ ¬ IsQuote c ∧ c ≠ '$' ∧ c ≠ ':' ∧ c ≠ '.' := by
  simp [isInert, IsQuote, and_assoc]

/-- What stands behind a word that is followed by inert text, and by anything behind that. -/
theorem head?_append_of_detached {first : Char} {word after rest : List Char}
    (hword : ∀ c ∈ first :: word, isWordChar c) (hstop : StopsWord after)
    (hinert : ∀ c ∈ after, isInert c) (hdetached : Detached (first :: (word ++ after)) rest) :
    ∀ d ∈ (after ++ rest).head?, isWordChar d = false ∧ d ≠ '.' := by
  intro d hd
  cases after with
  | cons e after =>
    obtain rfl : e = d := by simpa using hd
    exact ⟨hstop e rfl, (isInert_iff.1 (hinert e List.mem_cons_self)).2.2.2⟩
  | nil =>
    rw [List.append_nil] at hdetached
    have hlast := List.getLast?_eq_some_getLast (List.cons_ne_nil first word)
    exact hdetached _ hlast d hd (hword _ (List.getLast_mem _))

/-- The first segment of an inert text is copied, and ends within the text. -/
theorem exists_reads_of_inert (qualifier : List Char) {c : Char} {cs : List Char}
    (h : ∀ d ∈ c :: cs, isInert d) :
    ∃ word after, cs = word ++ after ∧ ∀ before rest, Detached (c :: cs) rest →
      Reads qualifier before (c :: cs ++ rest) (.verbatim (c :: word)) (after ++ rest) := by
  obtain ⟨hquote, hdollar, hcolon, -⟩ := isInert_iff.1 (h c List.mem_cons_self)
  by_cases hchar : isWordChar c
  · obtain ⟨word, after, rfl, hword, hstop⟩ := exists_word cs
    refine ⟨word, after, rfl, fun before rest hdetached => ?_⟩
    have hend := head?_append_of_detached (List.forall_mem_cons.2 ⟨hchar, hword⟩) hstop
      (fun d hd => h d (List.mem_cons_of_mem _ (List.mem_append_right _ hd))) hdetached
    have hstop : StopsWord (after ++ rest) := fun d hd => (hend d hd).1
    rw [List.cons_append, List.append_assoc]
    rcases isWordStart_or_isDigit_of_isWordChar hchar with hstart | hdigit
    · refine .word hstart hword hstop fun hfield => ?_
      exact (hend '.' (qualifiesField_iff.1 hfield.2).1).2 rfl
    · exact .number (Or.inl hdigit) hword hstop
  · refine ⟨[], cs, rfl, fun before rest _ => ?_⟩
    exact .single hquote (by simpa using hchar) hdollar fun heq => absurd heq hcolon

/-- Inert texts have no placeholders. -/
theorem yields_of_inert {text : List Char} (h : text.all isInert) : Yields qualifier text [] :=
  yields_of_mute fun c hc =>
    let hinert := isInert_iff.1 (List.all_eq_true.1 h c hc)
    ⟨hinert.1, hinert.2.2.1⟩

/-! ### Separators -/

/-- An inert text that begins and ends with characters of no word. -/
structure IsSeparator (sep : List Char) : Prop where
  inert : sep.all isInert
  ne_nil : sep ≠ []
  first : sep.head?.any isWordChar = false
  last : sep.getLast?.any isWordChar = false

theorem IsSeparator.yields {sep : List Char} (h : IsSeparator sep) : Yields qualifier sep [] :=
  yields_of_inert h.inert

theorem IsSeparator.detached {sep : List Char} (h : IsSeparator sep) (text : List Char) :
    Detached sep text :=
  detached_of_getLast? h.last

theorem IsSeparator.detached_append {sep : List Char} (h : IsSeparator sep)
    (text more : List Char) : Detached text (sep ++ more) := by
  obtain ⟨c, cs, rfl⟩ := List.exists_cons_of_ne_nil h.ne_nil
  have hinert : isInert c := List.all_eq_true.1 h.inert c List.mem_cons_self
  exact detached_cons h.first (isInert_iff.1 hinert).2.2.2

/-- Texts with separators between them are scanned one by one. -/
theorem yields_intercalate {α : Type} {sep : List Char} {items : List α} {text : α → List Char}
    {found : α → List (String × Bool)} (hsep : IsSeparator sep)
    (h : ∀ a ∈ items, Yields qualifier (text a) (found a)) :
    Yields qualifier (sep.intercalate (items.map text)) (items.flatMap found) := by
  induction items with
  | nil => exact .nil
  | cons a rest ih =>
    have hfirst := h a List.mem_cons_self
    cases rest with
    | nil => simpa using hfirst
    | cons b rest =>
      have hrest := ih fun c hc => h c (List.mem_cons_of_mem _ hc)
      rw [List.map_cons, List.map_cons, List.intercalate_cons_cons, List.append_assoc,
        List.flatMap_cons]
      rw [List.map_cons] at hrest
      exact hfirst.append (hsep.yields.append hrest (hsep.detached _)) (hsep.detached_append _ _)

/-! ### References and placeholders -/

/-- What follows a text that ends with a word does not go on with it. -/
theorem Detached.stopsWord {lead rest : List Char} {name : String}
    (h : Detached (lead ++ name.toList) rest) (hname : Text.isAsciiWord name) :
    StopsWord rest := by
  obtain ⟨first, word, hletters, hfirst, hword⟩ := isAsciiWord_iff.1 hname
  have hall : ∀ c ∈ first :: word, isWordChar c := by
    intro c hc
    rcases List.mem_cons.1 hc with rfl | hc
    · exact isWordChar_of_isWordStart hfirst
    · exact hword c hc
  have hlast : (lead ++ name.toList).getLast? =
      some ((first :: word).getLast (List.cons_ne_nil _ _)) := by
    rw [hletters, List.getLast?_append, List.getLast?_eq_some_getLast (List.cons_ne_nil _ _)]
    rfl
  intro d hd
  exact (h _ hlast d hd (hall _ (List.getLast_mem _))).1

/-- The alias, a dot and a name are one field, wherever they stand. -/
theorem segmentsFrom_column {entityAlias name : String} (halias : Text.isAsciiWord entityAlias)
    (hname : Text.isAsciiWord name) (before : List Char) {rest : List Char}
    (hstop : StopsWord rest) :
    segmentsFrom entityAlias.toList before ((entityAlias ++ "." ++ name).toList ++ rest) =
      .field name.toList ::
        segmentsFrom entityAlias.toList ((entityAlias ++ "." ++ name).toList.reverse ++ before)
          rest := by
  obtain ⟨start, word, halias, hstart, hword⟩ := isAsciiWord_iff.1 halias
  obtain ⟨first, letters, hname, hfirst, hletters⟩ := isAsciiWord_iff.1 hname
  have hreads : Reads (start :: word) before
      (start :: (word ++ '.' :: first :: (letters ++ rest))) (.field (first :: letters)) rest :=
    .field hstart hword rfl hfirst hletters hstop
  have htext : (entityAlias ++ "." ++ name).toList ++ rest =
      start :: (word ++ '.' :: first :: (letters ++ rest)) := by
    simp [halias, hname]
  rw [htext, halias, segmentsFrom_of_reads hreads]
  simp [Segment.source, halias, hname]

/-- A field of the alias has no placeholders. -/
theorem yields_column {entityAlias name : String} (halias : Text.isAsciiWord entityAlias)
    (hname : Text.isAsciiWord name) :
    Yields entityAlias.toList (entityAlias ++ "." ++ name).toList [] := by
  intro before rest hdetached
  rw [String.toList_append] at hdetached
  rw [segmentsFrom_column halias hname before (hdetached.stopsWord hname)]
  rfl

/-- A cast has no placeholders. -/
theorem yields_cast {target : String} (htarget : Text.isAsciiWord target) :
    Yields qualifier ("::" ++ target).toList [] := by
  intro before rest hdetached
  rw [String.toList_append] at hdetached ⊢
  have hstop := hdetached.stopsWord htarget
  obtain ⟨first, word, htarget, hfirst, hword⟩ := isAsciiWord_iff.1 htarget
  have hword : ∀ c ∈ target.toList, isWordChar c := by
    rw [htarget]
    exact List.forall_mem_cons.2 ⟨isWordChar_of_isWordStart hfirst, hword⟩
  have hreads : Reads qualifier before (':' :: ':' :: (target.toList ++ rest))
      (.verbatim (':' :: ':' :: target.toList)) rest :=
    .cast hword hstop
  have htext : "::".toList ++ target.toList ++ rest = ':' :: ':' :: (target.toList ++ rest) := rfl
  rw [htext, segmentsFrom_of_reads hreads]
  rfl

/-- A placeholder between inert texts is the one placeholder, in the context that the texts around
it show. -/
theorem yields_placeholder (qualifier : List Char) {lead name after : String} {inList : Bool}
    (hlead : lead.toList.all isInert) (hname : Text.isAsciiWord name)
    (hafter : after.toList.all isInert) (hstop : StopsWord after.toList)
    (hcontext : ∀ before rest, isListItem (lead.toList.reverse ++ before) (after.toList ++ rest) =
      inList) :
    Yields qualifier (lead ++ ":" ++ name ++ after).toList [(name, inList)] := by
  intro before rest hdetached
  rw [String.toList_append] at hdetached
  -- The name ends in front of `after` or, if that is empty, where the text is detached from the
  -- rest.
  have hstop : StopsWord (after.toList ++ rest) := by
    cases hcs : after.toList with
    | cons d after =>
      rw [hcs] at hstop
      exact hstop
    | nil =>
      rw [hcs, List.append_nil, String.toList_append] at hdetached
      exact hdetached.stopsWord hname
  obtain ⟨first, word, hletters, hfirst, hword⟩ := isAsciiWord_iff.1 hname
  have hcolon : Detached lead.toList (':' :: first :: (word ++ (after.toList ++ rest))) :=
    detached_cons (by decide) (by decide)
  have hreads : Reads qualifier (lead.toList.reverse ++ before)
      (':' :: first :: (word ++ (after.toList ++ rest)))
      (.placeholder (first :: word)
        (isListItem (lead.toList.reverse ++ before) (after.toList ++ rest)))
      (after.toList ++ rest) :=
    .placeholder hfirst hword hstop
  have htext : (lead ++ ":" ++ name ++ after).toList ++ rest =
      lead.toList ++ ':' :: first :: (word ++ (after.toList ++ rest)) := by
    simp [hletters]
  rw [htext, yields_of_inert hlead _ _ hcolon, segmentsFrom_of_reads hreads, hcontext]
  have hinert : Yields qualifier after.toList [] := yields_of_inert hafter
  have htail := hinert ((':' :: first :: word).reverse ++ (lead.toList.reverse ++ before)) rest
    hdetached.of_append
  have hname : String.ofList (first :: word) = name := by
    rw [← hletters, String.ofList_toList]
  have hbefore : (lead ++ ":" ++ name ++ after).toList.reverse ++ before =
      after.toList.reverse ++
        ((':' :: first :: word).reverse ++ (lead.toList.reverse ++ before)) := by
    simp [hletters]
  rw [hbefore, ← hname]
  exact congrArg ((String.ofList (first :: word), inList) :: ·) htail

end EntityQuery.Sql
