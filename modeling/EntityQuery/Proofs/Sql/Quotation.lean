import EntityQuery.Proofs.Sql.Reading
import Mathlib.Algebra.Group.Nat.Even
import Mathlib.Data.List.Basic

namespace EntityQuery.Sql

/-! ### Quoted runs -/

/-- The body of a quoted run, with each mark in it written twice. -/
def doubled (mark : Char) (body : List Char) : List Char :=
  body.flatMap fun c => if c = mark then [mark, mark] else [c]

/-- A quoted run in front of `rest`. It ends with a mark that is not doubled, or with the text. -/
inductive IsQuotedRun : List Char → List Char → Prop
  | closed {mark : Char} {rest : List Char} (hmark : IsQuote mark) (body : List Char)
      (hrest : rest.head? ≠ some mark) : IsQuotedRun (mark :: (doubled mark body ++ [mark])) rest
  | unclosed {mark : Char} (hmark : IsQuote mark) (body : List Char) :
      IsQuotedRun (mark :: doubled mark body) []

/-- The place between two texts lies outside of the quoted runs: in front of it stand whole runs and
characters that are no quotes. -/
inductive Outside : List Char → List Char → Prop
  | start (rest : List Char) : Outside [] rest
  | plain {before rest : List Char} {c : Char} (h : Outside before (c :: rest))
      (hc : ¬ IsQuote c) : Outside (before ++ [c]) rest
  | run {before run rest : List Char} (h : Outside before (run ++ rest))
      (hrun : IsQuotedRun run rest) : Outside (before ++ run) rest

/-- Marks are doubled, and other characters are kept. -/
theorem doubled_cons (mark c : Char) (body : List Char) :
    doubled mark (c :: body) =
      if c = mark then mark :: mark :: doubled mark body else c :: doubled mark body := by
  rw [doubled, List.flatMap_cons]
  split <;> rfl

theorem quotedRun_cons_of_ne {mark c : Char} (hc : c ≠ mark) (rest : List Char) :
    quotedRun mark (c :: rest) = (c :: (quotedRun mark rest).1, (quotedRun mark rest).2) := by
  cases rest with
  | nil => rfl
  | cons d rest => rw [quotedRun, if_neg hc]

/-- A body goes on with what follows. -/
theorem quotedRun_doubled_append (mark : Char) (body rest : List Char) :
    quotedRun mark (doubled mark body ++ rest) =
      (doubled mark body ++ (quotedRun mark rest).1, (quotedRun mark rest).2) := by
  induction body with
  | nil => rfl
  | cons c body ih =>
    rw [doubled_cons]
    split
    · rw [List.cons_append, List.cons_append, quotedRun, if_pos rfl, if_pos rfl, ih]
      rfl
    · rename_i hc
      rw [List.cons_append, quotedRun_cons_of_ne hc, ih]
      rfl

/-- The scan of a quoted run ends where the run ends. -/
theorem quotedRun_of_isQuotedRun {mark : Char} {run rest : List Char}
    (h : IsQuotedRun (mark :: run) rest) : quotedRun mark (run ++ rest) = (run, rest) := by
  cases h with
  | closed hmark body hrest =>
    have hclose : quotedRun mark (mark :: rest) = ([mark], rest) := by
      cases rest with
      | nil => rfl
      | cons d rest =>
        rw [quotedRun, if_pos rfl, if_neg (by simpa using hrest)]
    rw [List.append_assoc, quotedRun_doubled_append, List.singleton_append, hclose]
  | unclosed hmark body =>
    rw [quotedRun_doubled_append]
    simp [quotedRun]

/-- The scan ends a run at its closing mark or at the end of the text. -/
theorem exists_body (mark : Char) (cs : List Char) :
    ∃ body, (quotedRun mark cs).1 = doubled mark body ++ [mark] ∧
        (quotedRun mark cs).2.head? ≠ some mark ∨
      (quotedRun mark cs).1 = doubled mark body ∧ (quotedRun mark cs).2 = [] := by
  fun_induction quotedRun mark cs with
  | case1 => exact ⟨[], Or.inr ⟨rfl, rfl⟩⟩
  | case2 c =>
    by_cases hc : c = mark
    · subst hc
      exact ⟨[], Or.inl ⟨rfl, by simp⟩⟩
    · exact ⟨[c], Or.inr ⟨by simp [doubled, hc], rfl⟩⟩
  | case3 rest run after hrun ih =>
    obtain ⟨body, hbody⟩ := ih
    rw [hrun] at hbody
    refine ⟨mark :: body, ?_⟩
    rw [doubled_cons, if_pos rfl]
    rcases hbody with ⟨rfl, hafter⟩ | ⟨rfl, hafter⟩
    · exact Or.inl ⟨rfl, hafter⟩
    · exact Or.inr ⟨rfl, hafter⟩
  | case4 d rest hd => exact ⟨[], Or.inl ⟨rfl, by simpa using hd⟩⟩
  | case5 c d rest hc run after hrun ih =>
    obtain ⟨body, hbody⟩ := ih
    rw [hrun] at hbody
    refine ⟨c :: body, ?_⟩
    rw [doubled_cons, if_neg hc]
    rcases hbody with ⟨rfl, hafter⟩ | ⟨rfl, hafter⟩
    · exact Or.inl ⟨rfl, hafter⟩
    · exact Or.inr ⟨rfl, hafter⟩

/-- What the scan takes for a quoted run is one. -/
theorem isQuotedRun_quotedRun {mark : Char} (hmark : IsQuote mark) (cs : List Char) :
    IsQuotedRun (mark :: (quotedRun mark cs).1) (quotedRun mark cs).2 := by
  obtain ⟨body, ⟨hrun, hafter⟩ | ⟨hrun, hafter⟩⟩ := exists_body mark cs
  · rw [hrun]
    exact .closed hmark body hafter
  · rw [hrun, hafter]
    exact .unclosed hmark body

theorem IsQuotedRun.exists_mark {run rest : List Char} (h : IsQuotedRun run rest) :
    ∃ mark tail, run = mark :: tail ∧ IsQuote mark := by
  cases h with
  | closed hmark body hrest => exact ⟨_, _, rfl, hmark⟩
  | unclosed hmark body => exact ⟨_, _, rfl, hmark⟩

/-! ### The places where a text is cut -/

/-- A place stays outside of the quoted runs behind any characters that are no quotes. -/
theorem Outside.append_plain {before cs rest : List Char} (h : Outside before (cs ++ rest))
    (hcs : ∀ c ∈ cs, ¬ IsQuote c) : Outside (before ++ cs) rest := by
  induction cs generalizing before with
  | nil => simpa using h
  | cons c cs ih =>
    have hnext : Outside (before ++ [c]) (cs ++ rest) := .plain h (hcs c List.mem_cons_self)
    have hall := ih hnext fun d hd => hcs d (List.mem_cons_of_mem _ hd)
    rwa [List.append_assoc, List.singleton_append] at hall

/-- How many colons stand at the end of a text. -/
def colonsAtEnd (cs : List Char) : Nat :=
  (cs.reverse.takeWhile (· == ':')).length

theorem colonsAtEnd_append_colon (cs : List Char) :
    colonsAtEnd (cs ++ [':']) = colonsAtEnd cs + 1 := by
  simp [colonsAtEnd]

theorem colonsAtEnd_of_getLast? {cs : List Char} (h : ∀ c ∈ cs.getLast?, c ≠ ':') :
    colonsAtEnd cs = 0 := by
  rw [colonsAtEnd, List.length_eq_zero_iff]
  rw [← List.head?_reverse] at h
  cases hcs : cs.reverse with
  | nil => rfl
  | cons c rest =>
    rw [hcs] at h
    exact List.takeWhile_cons_of_neg (by simpa using h c rfl)

/-- A place where a text is cut: outside of the quoted runs, not between the two colons of a cast,
and not inside a word. -/
structure IsBoundary (before rest : List Char) : Prop where
  outside : Outside before rest
  even : rest.head? = some ':' → Even (colonsAtEnd before)
  separated : (∃ c ∈ before.getLast?, isWordChar c) → StopsWord rest

/-- The beginning of a text is a place where it is cut. -/
theorem isBoundary_start (text : List Char) : IsBoundary [] text where
  outside := .start text
  even _ := by simp [colonsAtEnd]
  separated h := by simp at h

instance (c : Char) : Decidable (IsQuote c) :=
  inferInstanceAs (Decidable (_ ∨ _))

variable {qualifier context cs after : List Char} {segment : Segment}

/-- Each segment has a source, so the scan goes on. -/
theorem Reads.source_ne_nil (h : Reads qualifier context cs segment after) :
    segment.source qualifier ≠ [] := by
  cases h <;> simp [Segment.source]

/-- The characters of words, numbers, placeholders, casts and references, which go on with a word
behind them. -/
def Joins (c : Char) : Prop :=
  isWordChar c ∨ c = '$' ∨ c = ':' ∨ c = '.'

theorem joins_of_forall {word : List Char} (hword : ∀ c ∈ word, isWordChar c) :
    ∀ c ∈ word, Joins c :=
  fun c hc => Or.inl (hword c hc)

theorem not_isQuote_of_joins {c : Char} (h : Joins c) : ¬ IsQuote c := by
  rcases h with hword | rfl | rfl | rfl
  · exact not_isQuote_of_isWordChar hword
  · decide
  · decide
  · decide

/-- What a segment consists of: it is a quoted run, or one character that is no quote, or a row of
characters that go on with a word. -/
theorem Reads.kinds (h : Reads qualifier context cs segment after) :
    IsQuotedRun (segment.source qualifier) after ∨
      (∃ c, ¬ IsQuote c ∧ segment.source qualifier = [c]) ∨
      ∀ c ∈ segment.source qualifier, Joins c := by
  have hletter {c : Char} (hc : isWordStart c) : Joins c := Or.inl (isWordChar_of_isWordStart hc)
  have hcolon : Joins ':' := Or.inr (Or.inr (Or.inl rfl))
  cases h with
  | quoted rest hmark => exact Or.inl (isQuotedRun_quotedRun hmark rest)
  | cast htarget hstop =>
    refine Or.inr (Or.inr ?_)
    simp only [Segment.source, List.forall_mem_cons]
    exact ⟨hcolon, hcolon, joins_of_forall htarget⟩
  | placeholder hfirst hname hstop =>
    refine Or.inr (Or.inr ?_)
    simp only [Segment.source, List.forall_mem_cons]
    exact ⟨hcolon, hletter hfirst, joins_of_forall hname⟩
  | number hfirst hdigits hstop =>
    refine Or.inr (Or.inr ?_)
    simp only [Segment.source, List.forall_mem_cons]
    refine ⟨?_, joins_of_forall hdigits⟩
    rcases hfirst with hdigit | hdollar
    · exact Or.inl (isWordChar_of_isDigit hdigit)
    · exact Or.inr (Or.inl hdollar)
  | field hstart hword halias hfirst hname hstop =>
    refine Or.inr (Or.inr ?_)
    simp only [Segment.source, ← halias, List.cons_append, List.forall_mem_cons,
      List.forall_mem_append]
    exact ⟨hletter hstart, joins_of_forall hword, Or.inr (Or.inr (Or.inr rfl)), hletter hfirst,
      joins_of_forall hname⟩
  | word hstart hword hstop hother =>
    refine Or.inr (Or.inr ?_)
    simp only [Segment.source, List.forall_mem_cons]
    exact ⟨hletter hstart, joins_of_forall hword⟩
  | @single c rest hquote hchar hdollar hcolon => exact Or.inr (Or.inl ⟨c, hquote, rfl⟩)

/-- A segment is a whole quoted run or has no quotes at all. -/
theorem Reads.run_or_plain (h : Reads qualifier context cs segment after) :
    IsQuotedRun (segment.source qualifier) after ∨
      ∀ c ∈ segment.source qualifier, ¬ IsQuote c := by
  rcases h.kinds with hrun | ⟨c, hc, hsource⟩ | hjoins
  · exact Or.inl hrun
  · rw [hsource]
    exact Or.inr (by simpa using hc)
  · exact Or.inr fun c hc => not_isQuote_of_joins (hjoins c hc)

/-- Behind a quoted run neither a word nor a colon goes on. -/
theorem IsQuotedRun.of_getLast? {run rest : List Char} (h : IsQuotedRun run rest) {c : Char}
    (hc : c ∈ run.getLast?) : isWordChar c = false ∧ c ≠ ':' ∨ rest = [] := by
  cases h with
  | @closed mark rest hmark body hrest =>
    rw [← List.cons_append, List.getLast?_concat] at hc
    obtain rfl := Option.some.inj hc
    rcases hmark with rfl | rfl
    · exact Or.inl (by decide)
    · exact Or.inl (by decide)
  | unclosed hmark body => exact Or.inr rfl

/-- What the last character of a segment says about the text behind it. -/
theorem Reads.of_getLast? (h : Reads qualifier context cs segment after) {c : Char}
    (hc : c ∈ (segment.source qualifier).getLast?) :
    (isWordChar c → StopsWord after) ∧
      (c = ':' → after.head? = some ':' → segment.source qualifier = [':', ':']) := by
  -- Only a cast without target ends with a colon; all other segments end with a word, a closing
  -- mark or a character that begins nothing.
  have hword {first : Char} {word : List Char} (hfirst : first ≠ ':')
      (hword : ∀ d ∈ word, isWordChar d) (hc : c ∈ (first :: word).getLast?) : c ≠ ':' := by
    rcases List.mem_cons.1 (List.mem_of_getLast? hc) with rfl | hc
    · exact hfirst
    · exact ne_of_isWordChar (hword c hc) (by decide)
  have hletter {first : Char} (hfirst : isWordStart first) : first ≠ ':' :=
    ne_of_isWordChar (isWordChar_of_isWordStart hfirst) (by decide)
  cases h with
  | quoted rest hmark =>
    rcases (isQuotedRun_quotedRun hmark rest).of_getLast? hc with ⟨hchar, hcolon⟩ | hnil
    · exact ⟨fun h => absurd h (Bool.eq_false_iff.1 hchar), fun h => absurd h hcolon⟩
    · rw [hnil]
      exact ⟨fun _ => by simp [StopsWord], fun _ h => by cases h⟩
  | @cast target after htarget hstop =>
    refine ⟨fun _ => hstop, ?_⟩
    cases target with
    | nil => exact fun _ _ => rfl
    | cons d target =>
      obtain ⟨hd, htarget⟩ := List.forall_mem_cons.1 htarget
      rw [Segment.source, List.getLast?_cons_cons, List.getLast?_cons_cons] at hc
      exact fun h => absurd h (hword (ne_of_isWordChar hd (by decide)) htarget hc)
  | placeholder hfirst hname hstop =>
    rw [Segment.source, List.getLast?_cons_cons] at hc
    exact ⟨fun _ => hstop, fun h => absurd h (hword (hletter hfirst) hname hc)⟩
  | number hfirst hdigits hstop =>
    refine ⟨fun _ => hstop, fun h => absurd h (hword ?_ hdigits hc)⟩
    rcases hfirst with hdigit | rfl
    · exact ne_of_isWordChar (isWordChar_of_isDigit hdigit) (by decide)
    · decide
  | field hstart hletters halias hfirst hname hstop =>
    rw [Segment.source, List.getLast?_append_of_ne_nil _ (List.cons_ne_nil _ _),
      List.getLast?_cons_cons] at hc
    exact ⟨fun _ => hstop, fun h => absurd h (hword (hletter hfirst) hname hc)⟩
  | word hstart hletters hstop hother =>
    exact ⟨fun _ => hstop, fun h => absurd h (hword (hletter hstart) hletters hc)⟩
  | single hquote hchar hdollar hcolon =>
    obtain rfl := Option.some.inj hc
    exact ⟨fun h => absurd h (Bool.eq_false_iff.1 hchar), fun h hhead => absurd hhead (hcolon h).1⟩

/-- Behind a segment the text is cut again. -/
theorem Reads.isBoundary (h : Reads qualifier context cs segment after) {before : List Char}
    (hbefore : IsBoundary before cs) : IsBoundary (before ++ segment.source qualifier) after := by
  have hsource := h.source_append
  have hne := h.source_ne_nil
  have hlast := List.getLast?_append_of_ne_nil before hne
  obtain ⟨houtside, heven, -⟩ := hbefore
  rw [← hsource] at houtside
  refine ⟨?_, fun hcolon => ?_, ?_⟩
  · rcases h.run_or_plain with hrun | hplain
    · exact .run houtside hrun
    · exact houtside.append_plain hplain
  · by_cases hends : ∀ c ∈ (segment.source qualifier).getLast?, c ≠ ':'
    · rw [colonsAtEnd_of_getLast? (by rwa [hlast])]
      exact Even.zero
    · push Not at hends
      obtain ⟨c, hc, hcolon'⟩ := hends
      have hcast := (h.of_getLast? hc).2 hcolon' hcolon
      have hhead : cs.head? = some ':' := by
        rw [← hsource, hcast]
        rfl
      have hsplit : before ++ [':', ':'] = before ++ [':'] ++ [':'] := by simp
      rw [hcast, hsplit, colonsAtEnd_append_colon, colonsAtEnd_append_colon]
      obtain ⟨half, hhalf⟩ := heven hhead
      exact ⟨half + 1, by omega⟩
  · rintro ⟨c, hc, hchar⟩
    rw [hlast] at hc
    exact (h.of_getLast? hc).1 hchar

/-- The text from which segments were read. -/
def sources (qualifier : List Char) (segments : List Segment) : List Char :=
  segments.flatMap (Segment.source qualifier)

theorem sources_cons (qualifier : List Char) (segment : Segment) (segments : List Segment) :
    sources qualifier (segment :: segments) =
      segment.source qualifier ++ sources qualifier segments :=
  List.flatMap_cons

theorem sources_concat (qualifier : List Char) (segments : List Segment) (segment : Segment) :
    sources qualifier (segments ++ [segment]) =
      sources qualifier segments ++ segment.source qualifier := by
  rw [sources, List.flatMap_append, List.flatMap_singleton, sources]

/-- A text is cut in front of every segment, and behind the last one. -/
theorem isBoundary_of_readsAll {earlier later : List Segment}
    (h : ReadsAll qualifier context cs (earlier ++ later)) {before : List Char}
    (hbefore : IsBoundary before cs) :
    IsBoundary (before ++ sources qualifier earlier) (sources qualifier later) := by
  induction earlier generalizing context cs before with
  | nil =>
    have hsource : sources qualifier later = cs := h.flatMap_source
    rwa [hsource, sources, List.flatMap_nil, List.append_nil]
  | cons segment earlier ih =>
    cases h with
    | cons first rest =>
      rw [sources_cons, ← List.append_assoc]
      exact ih rest (first.isBoundary hbefore)

/-! ### The places outside of quoted runs -/

/-- A place in a text that falls into segments: where the text is cut, or inside a segment without
quotes. -/
inductive Position (qualifier : List Char) (segments : List Segment) :
    List Char → List Char → Prop
  | cut {earlier later : List Segment} (hsegments : segments = earlier ++ later) :
      Position qualifier segments (sources qualifier earlier) (sources qualifier later)
  | inside {earlier later : List Segment} {segment : Segment} {first second : List Char}
      (hsegments : segments = earlier ++ segment :: later)
      (hsource : segment.source qualifier = first ++ second)
      (hfirst : first ≠ []) (hsecond : second ≠ [])
      (hplain : ∀ c ∈ segment.source qualifier, ¬ IsQuote c) :
      Position qualifier segments (sources qualifier earlier ++ first)
        (second ++ sources qualifier later)

variable {segments earlier later : List Segment} {text before rest : List Char} {c : Char}

/-- Behind the first characters of a segment without quotes. -/
theorem position_of_first {first second : List Char}
    (hsegments : segments = earlier ++ segment :: later)
    (hsource : segment.source qualifier = first ++ second) (hfirst : first ≠ [])
    (hplain : ∀ c ∈ segment.source qualifier, ¬ IsQuote c) :
    Position qualifier segments (sources qualifier earlier ++ first)
      (second ++ sources qualifier later) := by
  by_cases hsecond : second = []
  · subst hsecond
    rw [List.append_nil] at hsource
    have hcut : Position qualifier segments (sources qualifier (earlier ++ [segment]))
        (sources qualifier later) := .cut (by simp [hsegments])
    rwa [sources_concat, hsource] at hcut
  · exact .inside hsegments hsource hfirst hsecond hplain

/-- Every segment is read from the text that it and the segments behind it come from. -/
theorem ReadsAll.exists_reads (h : ReadsAll qualifier [] text (earlier ++ segment :: later)) :
    ∃ context, Reads qualifier context (sources qualifier (segment :: later)) segment
      (sources qualifier later) := by
  obtain ⟨cs, after, hreads, hafter⟩ := h.split
  have hcs : cs = sources qualifier (segment :: later) := by
    rw [sources_cons, ← hreads.source_append, hafter]
    rfl
  rw [hcs, hafter] at hreads
  exact ⟨_, hreads⟩

/-- The segment behind a place where the text is cut. -/
theorem exists_reads_of_cut (h : ReadsAll qualifier [] text (earlier ++ later))
    (hlater : sources qualifier later = c :: rest) :
    ∃ context segment after, later = segment :: after ∧
      Reads qualifier context (c :: rest) segment (sources qualifier after) := by
  cases later with
  | nil => cases hlater
  | cons segment after =>
    obtain ⟨context, hreads⟩ := h.exists_reads
    rw [hlater] at hreads
    exact ⟨context, segment, after, rfl, hreads⟩

/-- A rule that applies where the text is cut gives the segment there. -/
theorem exists_segment_of_cut (h : ReadsAll qualifier [] text (earlier ++ later))
    (hlater : sources qualifier later = c :: rest) {found : List Char → Segment}
    (hfound : ∀ context, Reads qualifier context (c :: rest) (found context) after) :
    ∃ context behind, later = found context :: behind ∧ sources qualifier behind = after := by
  obtain ⟨context, segment, behind, rfl, hreads⟩ := exists_reads_of_cut h hlater
  have hsame := (reads_iff.1 hreads).symm.trans (reads_iff.1 (hfound context))
  obtain ⟨rfl, hafter⟩ := Prod.mk.inj hsame
  exact ⟨context, behind, rfl, hafter⟩

/-- A quoted run at a place where no run is open is one segment, whatever it contains. -/
theorem exists_verbatim_of_run {run : List Char} (h : ReadsAll qualifier [] text segments)
    (hrun : IsQuotedRun run rest) (hplace : Position qualifier segments before (run ++ rest)) :
    ∃ earlier later, segments = earlier ++ .verbatim run :: later ∧
      sources qualifier earlier = before ∧ sources qualifier later = rest := by
  obtain ⟨mark, tail, rfl, hmark⟩ := hrun.exists_mark
  generalize htext : mark :: tail ++ rest = remaining at hplace
  cases hplace with
  | @cut earlier later hsegments =>
    subst hsegments
    have hreads (context : List Char) : Reads qualifier context (mark :: (tail ++ rest))
        (.verbatim (mark :: tail)) rest := by
      have hquoted : Reads qualifier context (mark :: (tail ++ rest)) _ _ := .quoted _ hmark
      rwa [quotedRun_of_isQuotedRun hrun] at hquoted
    obtain ⟨context, behind, rfl, hbehind⟩ := exists_segment_of_cut h htext.symm hreads
    exact ⟨earlier, behind, rfl, rfl, hbehind⟩
  | @inside earlier later segment first second hsegments hsource hfirst hsecond hplain =>
    obtain ⟨d, second, rfl⟩ := List.exists_cons_of_ne_nil hsecond
    obtain ⟨rfl, -⟩ := List.cons.inj htext
    exact absurd hmark (hplain mark (by simp [hsource]))

/-- There are no other places outside of quoted runs. -/
theorem position_of_outside (h : ReadsAll qualifier [] text segments)
    (hplace : Outside before rest) (htext : before ++ rest = text) :
    Position qualifier segments before rest := by
  induction hplace with
  | start rest =>
    have hrest : sources qualifier segments = rest := h.flatMap_source.trans htext.symm
    have hcut : Position qualifier segments (sources qualifier []) (sources qualifier segments) :=
      .cut rfl
    rwa [hrest] at hcut
  | @plain before rest c _ hc ih =>
    have hposition := ih (by simpa using htext)
    -- The character has no quote, so it moves the place into a segment or further inside one.
    generalize hremaining : c :: rest = remaining at hposition
    cases hposition with
    | @cut earlier later hsegments =>
      subst hsegments
      obtain ⟨context, segment, after, rfl, hreads⟩ := exists_reads_of_cut h hremaining.symm
      obtain ⟨d, second, hsource⟩ := List.exists_cons_of_ne_nil hreads.source_ne_nil
      have happend := hreads.source_append
      rw [hsource] at happend
      obtain ⟨rfl, rfl⟩ := List.cons.inj happend
      rcases hreads.run_or_plain with hrun | hplain
      · obtain ⟨mark, tail, hmark, hquote⟩ := hrun.exists_mark
        rw [hsource] at hmark
        obtain ⟨rfl, -⟩ := List.cons.inj hmark
        exact absurd hquote hc
      · exact position_of_first rfl hsource (List.cons_ne_nil _ _) hplain
    | @inside earlier later segment first second hsegments hsource hfirst hsecond hplain =>
      obtain ⟨d, second, rfl⟩ := List.exists_cons_of_ne_nil hsecond
      obtain ⟨rfl, rfl⟩ := List.cons.inj hremaining
      rw [List.append_cons] at hsource
      rw [List.append_assoc]
      exact position_of_first hsegments hsource (by simp) hplain
  | @run before run rest _ hrun ih =>
    -- A run that begins outside of the others is a segment, and the place behind it is a cut.
    obtain ⟨earlier, later, hsegments, rfl, rfl⟩ :=
      exists_verbatim_of_run h hrun (ih (by simpa using htext))
    have hcut : Position qualifier segments (sources qualifier (earlier ++ [.verbatim run]))
        (sources qualifier later) := .cut (by simp [hsegments])
    rwa [sources_concat] at hcut

end EntityQuery.Sql
