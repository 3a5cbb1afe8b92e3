import EntityQuery.Proofs.Alias
import EntityQuery.Proofs.Sql.Scan
import EntityQuery.Proofs.Sql.Writing
import EntityQuery.Session.Build

namespace EntityQuery

namespace Sql

/-! ### Copied texts -/

/-- The text between `before` and `rest` is scanned on its own, and copied. -/
def IsCopied (qualifier before text rest : List Char) : Prop :=
  ∃ found, (∀ segment ∈ found, ∃ part, segment = .verbatim part) ∧
    segmentsFrom qualifier before (text ++ rest) =
      found ++ segmentsFrom qualifier (text.reverse ++ before) rest

variable {qualifier before text rest : List Char}

theorem isCopied_nil (qualifier before rest : List Char) : IsCopied qualifier before [] rest :=
  ⟨[], by simp, rfl⟩

theorem isCopied_of_reads (h : Reads qualifier before (text ++ rest) (.verbatim text) rest) :
    IsCopied qualifier before text rest :=
  ⟨[.verbatim text], by simp, segmentsFrom_of_reads h⟩

/-- Two texts that are copied one behind the other are copied as a whole. -/
theorem IsCopied.append {first second : List Char}
    (h : IsCopied qualifier before first (second ++ rest))
    (h' : IsCopied qualifier (first.reverse ++ before) second rest) :
    IsCopied qualifier before (first ++ second) rest := by
  obtain ⟨found, hfound, hfirst⟩ := h
  obtain ⟨more, hmore, hsecond⟩ := h'
  refine ⟨found ++ more, List.forall_mem_append.2 ⟨hfound, hmore⟩, ?_⟩
  rw [List.append_assoc, hfirst, hsecond, List.reverse_append, List.append_assoc,
    List.append_assoc]

/-- Segments without translation write their source. -/
theorem foldlM_verbatim {scope : Scope} {segments : List Segment}
    (h : ∀ segment ∈ segments, ∃ part, segment = .verbatim part) (w : Writer) :
    segments.foldlM (Writer.pushSegment scope) w =
      .ok (w.push (String.ofList (segments.flatMap (Segment.source qualifier)))) := by
  induction segments generalizing w with
  | nil =>
    rw [List.flatMap_nil, String.ofList_nil, Writer.push, String.append_empty]
    rfl
  | cons segment rest ih =>
    obtain ⟨part, rfl⟩ := h segment List.mem_cons_self
    rw [List.foldlM_cons, Writer.pushSegment]
    refine (ih (fun other hother => h other (List.mem_cons_of_mem _ hother)) _).trans ?_
    simp [Writer.push, Segment.source, String.append_assoc]

/-- A copied text is written as it is. -/
theorem IsCopied.pushText {scope : Scope} {text : String}
    (h : IsCopied scope.entityAlias.toList [] text.toList []) (w : Writer) :
    w.pushText scope text = .ok (w.push text) := by
  obtain ⟨found, hfound, hsegments⟩ := h
  rw [segmentsFrom_nil, List.append_nil, List.append_nil] at hsegments
  have hsource := (readsAll_segmentsFrom scope.entityAlias.toList [] text.toList).flatMap_source
  rw [hsegments] at hsource
  rw [Writer.pushText, segments, hsegments, foldlM_verbatim hfound, hsource, String.ofList_toList]

/-! ### Dollar signs in an alias -/

/-- An alias may have the characters of words and dollar signs, but the scanner reads only words. -/
theorem isContinue_iff {c : Char} : Ident.isContinue c ↔ isWordChar c ∨ c = '$' := by
  simp only [Ident.isContinue, isWordChar, Bool.or_eq_true, beq_iff_eq]
  tauto

/-- A character that words do not have ends a word. -/
theorem stopsWord_cons {c : Char} {cs : List Char} (hc : isWordChar c = false) :
    StopsWord (c :: cs) := by
  intro d hd
  obtain rfl : c = d := by simpa using hd
  exact hc

/-- What is left of an alias behind its first word begins with a dollar sign, and each dollar sign
begins a segment of its own. -/
theorem isCopied_dollars (hchars : ∀ c ∈ text, Ident.isContinue c) (htext : StopsWord text)
    (hrest : StopsWord rest) : IsCopied qualifier before text rest := by
  induction hlength : text.length using Nat.strongRecOn generalizing before text with
  | ind n ih =>
    cases text with
    | nil => exact isCopied_nil _ _ _
    | cons c cs =>
      obtain rfl : c = '$' := by
        have hword := htext c rfl
        rcases isContinue_iff.1 (hchars c List.mem_cons_self) with h | h
        · rw [h] at hword
          cases hword
        · exact h
      obtain ⟨word, after, rfl, hword, hafter⟩ := exists_word cs
      have hreads : Reads qualifier before ('$' :: word ++ (after ++ rest))
          (.verbatim ('$' :: word)) (after ++ rest) :=
        .number (Or.inr rfl) hword (forall_head?_append hafter hrest)
      have hshorter : after.length < n := by
        simp only [List.length_cons, List.length_append] at hlength
        omega
      have hchars : ∀ d ∈ after, Ident.isContinue d := fun d hd =>
        hchars d (List.mem_cons_of_mem _ (List.mem_append_right _ hd))
      have hlater : IsCopied qualifier (('$' :: word).reverse ++ before) after rest :=
        ih after.length hshorter hchars hafter rfl
      exact (isCopied_of_reads hreads).append hlater

/-- Behind an alias with a dollar sign a name is copied with the alias. -/
theorem isCopied_reference {entityAlias name : String}
    (halias : (Ident.parseAlias entityAlias).isOk) (hdollar : '$' ∈ entityAlias.toList)
    (hname : Text.isAsciiWord name) (before : List Char) (hrest : StopsWord rest) :
    IsCopied entityAlias.toList before (entityAlias ++ "." ++ name).toList rest := by
  obtain ⟨first, cs, halias, hfirst, hcs⟩ := Ident.exists_word_of_parseAlias halias
  obtain ⟨start, letters, hname, hstart, hletters⟩ := isAsciiWord_iff.1 hname
  have hnone {c : Char} {word : List Char} (hc : isWordStart c) (hword : ∀ d ∈ word, isWordChar d) :
      '$' ∉ c :: word := by
    intro hmem
    rcases List.mem_cons.1 hmem with rfl | hmem
    · exact absurd hc (by decide)
    · exact absurd (hword _ hmem) (by decide)
  obtain ⟨word, after, rfl, hword, hafter⟩ := exists_word cs
  have hmem : '$' ∈ after := by
    rw [halias, ← List.cons_append] at hdollar
    exact (List.mem_append.1 hdollar).resolve_left (hnone hfirst hword)
  have hwhole : (entityAlias ++ "." ++ name).toList =
      first :: word ++ (after ++ (['.'] ++ start :: letters)) := by
    simp [halias, hname]
  have hdot : StopsWord ('.' :: (start :: letters ++ rest)) := stopsWord_cons (by decide)
  -- The first word of the alias is not the alias, so nothing is taken for a field.
  have hword' : IsCopied entityAlias.toList before (first :: word)
      (after ++ (['.'] ++ start :: letters) ++ rest) := by
    have hstop : StopsWord (after ++ (['.'] ++ start :: letters) ++ rest) := by
      rw [List.append_assoc]
      exact forall_head?_append hafter hdot
    refine isCopied_of_reads (.word hfirst hword hstop ?_)
    rintro ⟨hsame, -⟩
    rw [← hsame] at hdollar
    exact hnone hfirst hword hdollar
  have hafter' : IsCopied entityAlias.toList ((first :: word).reverse ++ before) after
      (['.'] ++ start :: letters ++ rest) :=
    isCopied_dollars (fun c hc => hcs c (List.mem_append_right _ hc)) hafter hdot
  have hdot' (before : List Char) :
      IsCopied entityAlias.toList before ['.'] (start :: letters ++ rest) :=
    isCopied_of_reads (.single (by simp [IsQuote]) (by decide) (by decide) (by simp))
  have hname' (before : List Char) :
      IsCopied entityAlias.toList before (start :: letters) rest := by
    refine isCopied_of_reads (.word hstart hletters hrest ?_)
    rintro ⟨hsame, -⟩
    rw [← hsame] at hdollar
    exact hnone hstart hletters hdollar
  rw [hwhole]
  exact hword'.append (hafter'.append ((hdot' _).append (hname' _)))

/-! ### References of declared names -/

/-- An alias that is accepted and has no dollar sign is a word for the scanner. -/
theorem isAsciiWord_of_parseAlias {entityAlias : String} (h : (Ident.parseAlias entityAlias).isOk)
    (hdollar : '$' ∉ entityAlias.toList) : Text.isAsciiWord entityAlias := by
  obtain ⟨first, rest, htext, hfirst, hrest⟩ := Ident.exists_word_of_parseAlias h
  refine isAsciiWord_iff.2 ⟨first, rest, htext, hfirst, fun c hc => ?_⟩
  rcases isContinue_iff.1 (hrest c hc) with hword | rfl
  · exact hword
  · rw [htext] at hdollar
    exact absurd (List.mem_cons_of_mem _ hc) hdollar

/-- No reserved word has a dollar sign. -/
theorem sqlWord_of_dollar {word : String} (h : '$' ∈ word.toList) : sqlWord word = word := by
  have hwords : ∀ reserved ∈ reservedWords, '$' ∉ reserved.toList := by decide +kernel
  have hlower : '$' ∈ (Text.asciiLower word).toList := by
    rw [Text.asciiLower, String.toList_ofList]
    exact List.mem_map.2 ⟨'$', h, by decide⟩
  have hfree : isReserved word = false := by
    rw [isReserved, Bool.eq_false_iff]
    intro hreserved
    exact hwords _ (List.contains_iff_mem.1 hreserved) hlower
  rw [sqlWord, hfree]
  rfl

/-- A word behind the alias and a dot is written as the column of its field. -/
theorem pushText_field {scope : Scope} {name : String}
    (halias : Text.isAsciiWord scope.entityAlias) (hname : Text.isAsciiWord name) (w : Writer) :
    w.pushText scope (scope.entityAlias ++ "." ++ name) =
      .ok (w.push (sqlWord scope.entityAlias ++ "." ++ sqlWord (scope.entity.columnOf name))) := by
  have hend : StopsWord [] := by simp [StopsWord]
  have hsegments := segmentsFrom_column halias hname [] hend
  rw [List.append_nil, segmentsFrom_nil] at hsegments
  rw [Writer.pushText, segments, hsegments, List.foldlM_cons, Writer.pushSegment,
    String.ofList_toList]
  rfl

end Sql

namespace Session

open Sql

/-- A session under the declared alias of its entity writes a declared name by its column if and
only if the alias has no dollar sign, or the column is written like the name itself. -/
theorem pushText_qualify_iff (s : Session) {name : String}
    (halias : s.entity.alias? = some s.entityAlias) (hdeclared : name ∈ s.entity.names)
    (hname : Text.isAsciiWord name) (w : Writer) :
    ∃ column, s.entity.columnFor? name = some column ∧
      (w.pushText s.scope (s.qualify name) =
          .ok (w.push (sqlWord s.entityAlias ++ "." ++ sqlWord column)) ↔
        '$' ∉ s.entityAlias.toList ∨ sqlWord column = name) := by
  have hdeclares := EntityMeta.declares_of_mem_names hdeclared
  have haccepted := s.entity.alias_isOk _ halias
  obtain ⟨column, hcolumn⟩ := EntityMeta.exists_columnFor? hdeclares
  refine ⟨column, hcolumn, ?_⟩
  have hqualified : s.qualify name = s.entityAlias ++ "." ++ name :=
    AliasResolver.qualify_of_qualifies (AliasResolver.qualifies_of_declares hname hdeclares)
  rw [hqualified]
  by_cases hdollar : '$' ∈ s.entityAlias.toList
  · have hend : StopsWord [] := by simp [StopsWord]
    have hcopied :
        IsCopied s.scope.entityAlias.toList [] (s.entityAlias ++ "." ++ name).toList [] :=
      isCopied_reference haccepted hdollar hname [] hend
    have hwritten : w.pushText s.scope (s.entityAlias ++ "." ++ name) =
        .ok (w.push (s.entityAlias ++ "." ++ name)) :=
      hcopied.pushText w
    rw [hwritten, sqlWord_of_dollar hdollar]
    -- The reference is copied, which is as good as translating it only if the column has the name.
    constructor
    · intro hsame
      have hsql := congrArg Writer.sql (Except.ok.inj hsame)
      simp only [Writer.push, String.append_right_inj] at hsql
      exact Or.inr hsql.symm
    · rintro (hnone | hsame)
      · exact absurd hdollar hnone
      · rw [hsame]
  · have hword := isAsciiWord_of_parseAlias haccepted hdollar
    have hword : Text.isAsciiWord s.scope.entityAlias := hword
    have hwritten := pushText_field hword hname w
    have hcolumnOf : s.entity.columnOf name = column := by
      rw [EntityMeta.columnOf, hcolumn]
      rfl
    have hwritten : w.pushText s.scope (s.entityAlias ++ "." ++ name) =
        .ok (w.push (sqlWord s.entityAlias ++ "." ++ sqlWord column)) := by
      rw [← hcolumnOf]
      exact hwritten
    exact ⟨fun _ => Or.inl hdollar, fun _ => hwritten⟩

/-- A field whose column has another name, under an alias without a dollar sign. -/
theorem pushText_qualify_iff_createdAt :
    (new Samples.user).entity.alias? = some (new Samples.user).entityAlias ∧
      "createdAt" ∈ (new Samples.user).entity.names ∧ Text.isAsciiWord "createdAt" ∧
      ∃ column, (new Samples.user).entity.columnFor? "createdAt" = some column ∧
        (Writer.pushText (new Samples.user).scope {} ((new Samples.user).qualify "createdAt") =
            .ok (Writer.push {} (sqlWord (new Samples.user).entityAlias ++ "." ++ sqlWord column)) ↔
          '$' ∉ (new Samples.user).entityAlias.toList ∨ sqlWord column = "createdAt") :=
  have halias : (new Samples.user).entity.alias? = some (new Samples.user).entityAlias := by
    decide +kernel
  have hdeclared : "createdAt" ∈ (new Samples.user).entity.names := by decide +kernel
  have hname : Text.isAsciiWord "createdAt" := by decide +kernel
  ⟨halias, hdeclared, hname, pushText_qualify_iff (new Samples.user) halias hdeclared hname {}⟩

/-- Users under an alias with a dollar sign. -/
def Samples.dollarUser : EntityMeta :=
  { Samples.user with
    alias? := some "u$x"
    alias_isOk := by decide +kernel }

/-- Behind an alias with a dollar sign a name is not written as its column. -/
theorem pushText_qualify_dollar :
    ¬ ∀ (s : Session) (name column : String) (w : Writer),
      s.entity.alias? = some s.entityAlias → s.entity.columnFor? name = some column →
        Text.isAsciiWord name →
          w.pushText s.scope (s.qualify name) =
            .ok (w.push (sqlWord s.entityAlias ++ "." ++ sqlWord column)) := by
  intro hall
  have hwritten := hall (new Samples.dollarUser) "createdAt" "created_at" {} (by decide +kernel)
    (by decide +kernel) (by decide +kernel)
  have hsegments : segments "u$x" "u$x.createdAt" =
      [.verbatim ['u'], .verbatim ['$', 'x'], .verbatim ['.'], .verbatim "createdAt".toList] := by
    decide +kernel
  have halias : (new Samples.dollarUser).scope.entityAlias = "u$x" := by decide +kernel
  have htext : (new Samples.dollarUser).qualify "createdAt" = "u$x.createdAt" := by decide +kernel
  rw [htext, Writer.pushText, halias, hsegments] at hwritten
  have hsql := congrArg (Except.map Writer.sql) hwritten
  revert hsql
  decide +kernel

end Session

end EntityQuery
