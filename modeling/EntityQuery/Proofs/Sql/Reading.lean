import EntityQuery.Sql.Segment

namespace EntityQuery.Sql

/-- A text in front of which a word ends. -/
def StopsWord (cs : List Char) : Prop :=
  ∀ c ∈ cs.head?, isWordChar c = false

/-- The two marks that enclose a quoted run. -/
def IsQuote (c : Char) : Prop :=
  c = '\x27' ∨ c = '\x22'

/-- What stands behind the alias when it qualifies a field. -/
def QualifiesField (after : List Char) : Prop :=
  ∃ first rest, after = '.' :: first :: rest ∧ isWordStart first

/-- The first segment of a text, with the text behind it. `before` is the text that was read
already, last character first. -/
inductive Reads (qualifier before : List Char) : List Char → Segment → List Char → Prop
  | quoted {mark : Char} (rest : List Char) (hmark : IsQuote mark) :
      Reads qualifier before (mark :: rest) (.verbatim (mark :: (quotedRun mark rest).1))
        (quotedRun mark rest).2
  | cast {target after : List Char} (htarget : ∀ c ∈ target, isWordChar c)
      (hstop : StopsWord after) :
      Reads qualifier before (':' :: ':' :: (target ++ after))
        (.verbatim (':' :: ':' :: target)) after
  | placeholder {first : Char} {name after : List Char} (hfirst : isWordStart first)
      (hname : ∀ c ∈ name, isWordChar c) (hstop : StopsWord after) :
      Reads qualifier before (':' :: first :: (name ++ after))
        (.placeholder (first :: name) (isListItem before after)) after
  | number {first : Char} {word after : List Char} (hfirst : first.isDigit ∨ first = '$')
      (hword : ∀ c ∈ word, isWordChar c) (hstop : StopsWord after) :
      Reads qualifier before (first :: (word ++ after)) (.verbatim (first :: word)) after
  | field {start first : Char} {word name after : List Char} (hstart : isWordStart start)
      (hword : ∀ c ∈ word, isWordChar c) (halias : start :: word = qualifier)
      (hfirst : isWordStart first) (hname : ∀ c ∈ name, isWordChar c) (hstop : StopsWord after) :
      Reads qualifier before (start :: (word ++ '.' :: first :: (name ++ after)))
        (.field (first :: name)) after
  | word {start : Char} {word after : List Char} (hstart : isWordStart start)
      (hword : ∀ c ∈ word, isWordChar c) (hstop : StopsWord after)
      (hother : ¬ (start :: word = qualifier ∧ QualifiesField after)) :
      Reads qualifier before (start :: (word ++ after)) (.verbatim (start :: word)) after
  | single {c : Char} {rest : List Char} (hquote : ¬ IsQuote c) (hword : isWordChar c = false)
      (hdollar : c ≠ '$') (hcolon : c = ':' → rest.head? ≠ some ':' ∧ startsWord rest = false) :
      Reads qualifier before (c :: rest) (.verbatim [c]) rest

theorem stopsWord_dropWhile (cs : List Char) : StopsWord (cs.dropWhile isWordChar) := by
  intro c hc
  have hhead := List.head?_dropWhile_not isWordChar cs
  rw [Option.mem_def.1 hc] at hhead
  simpa using hhead

theorem isWordChar_of_mem_takeWhile {c : Char} {cs : List Char} (h : c ∈ cs.takeWhile isWordChar) :
    isWordChar c := by
  have hall : (cs.takeWhile isWordChar).all isWordChar = true := List.all_takeWhile
  exact List.all_eq_true.1 hall c h

/-- A run in front of something else is taken as a whole. -/
theorem takeWhile_append_of_stop {p : Char → Bool} {run after : List Char} (hrun : ∀ c ∈ run, p c)
    (hstop : ∀ c ∈ after.head?, p c = false) : (run ++ after).takeWhile p = run := by
  rw [List.takeWhile_append_of_pos hrun]
  cases after with
  | nil => simp
  | cons c rest => simp [hstop c (by simp)]

/-- What follows a run is what is left when the run is dropped. -/
theorem dropWhile_append_of_stop {p : Char → Bool} {run after : List Char} (hrun : ∀ c ∈ run, p c)
    (hstop : ∀ c ∈ after.head?, p c = false) : (run ++ after).dropWhile p = after := by
  rw [List.dropWhile_append_of_pos hrun]
  cases after with
  | nil => rfl
  | cons c rest => simp [hstop c (by simp)]

theorem isWordChar_of_isWordStart {c : Char} (h : isWordStart c) : isWordChar c := by
  simp only [isWordStart, isWordChar, Bool.or_eq_true, beq_iff_eq, Char.isAlphanum] at h ⊢
  rcases h with h | h
  · exact Or.inl h
  · exact Or.inr (Or.inl h)

theorem isWordChar_of_isDigit {c : Char} (h : c.isDigit) : isWordChar c := by
  simp [isWordChar, Char.isAlphanum, h]

/-- The characters of a word can begin one, except for the digits. -/
theorem isWordStart_or_isDigit_of_isWordChar {c : Char} (h : isWordChar c) :
    isWordStart c ∨ c.isDigit := by
  simp only [isWordStart, isWordChar, Bool.or_eq_true, beq_iff_eq, Char.isAlphanum] at h ⊢
  rcases h with h | h | h
  · exact Or.inl (Or.inl h)
  · exact Or.inl (Or.inr h)
  · exact Or.inr h

theorem not_isDigit_of_isWordStart {c : Char} (h : isWordStart c) : c.isDigit = false := by
  rw [Bool.eq_false_iff]
  intro hdigit
  simp only [isWordStart, Bool.or_eq_true, beq_iff_eq] at h
  rcases h with rfl | h
  · revert hdigit
    decide
  · have hle : c.toNat ≤ '9'.toNat := (Char.isDigit_iff_toNat.1 hdigit).2
    have hge : 'A'.toNat ≤ c.toNat := by
      rcases Bool.or_eq_true_iff.1 h with hupper | hlower
      · exact UInt32.le_iff_toNat_le.1 (of_decide_eq_true hupper).1
      · have hge : 'a'.toNat ≤ c.toNat :=
          UInt32.le_iff_toNat_le.1 (of_decide_eq_true (Bool.and_eq_true_iff.1 hlower).1)
        exact Nat.le_trans (by decide) hge
    exact absurd (Nat.le_trans hge hle) (by decide)

theorem ne_of_isWordChar {c d : Char} (hc : isWordChar c) (hd : isWordChar d = false) : c ≠ d := by
  rintro rfl
  rw [hc] at hd
  cases hd

theorem not_isQuote_of_isWordChar {c : Char} (hc : isWordChar c) : ¬ IsQuote c := by
  rintro (rfl | rfl)
  · exact absurd hc (by decide)
  · exact absurd hc (by decide)

/-- A text starts a word if its first character may begin one. -/
theorem startsWord_iff {cs : List Char} :
    startsWord cs ↔ ∃ first rest, cs = first :: rest ∧ isWordStart first := by
  cases cs with
  | nil => simp [startsWord]
  | cons c rest => simp [startsWord]

/-- The test behind an alias looks at two characters. -/
theorem qualifiesField_iff {after : List Char} :
    QualifiesField after ↔ after.head? = some '.' ∧ startsWord after.tail := by
  rw [startsWord_iff]
  constructor
  · rintro ⟨first, rest, rfl, hfirst⟩
    exact ⟨rfl, first, rest, rfl, hfirst⟩
  · rintro ⟨hdot, first, rest, htail, hfirst⟩
    obtain ⟨tail, rfl⟩ := List.head?_eq_some_iff.1 hdot
    exact ⟨first, rest, by rw [← htail]; rfl, hfirst⟩

/-- Every text begins with a word, which may be empty, up to a character that ends words. -/
theorem exists_word (cs : List Char) :
    ∃ word after, cs = word ++ after ∧ (∀ c ∈ word, isWordChar c) ∧ StopsWord after :=
  ⟨cs.takeWhile isWordChar, cs.dropWhile isWordChar, List.takeWhile_append_dropWhile.symm,
    fun _ hc => isWordChar_of_mem_takeWhile hc, stopsWord_dropWhile cs⟩

/-- Some rule applies to every text that is not empty. -/
theorem exists_reads (qualifier before : List Char) (c : Char) (rest : List Char) :
    ∃ segment after, Reads qualifier before (c :: rest) segment after := by
  by_cases hquote : IsQuote c
  · exact ⟨_, _, .quoted rest hquote⟩
  by_cases hstart : isWordStart c
  · obtain ⟨word, after, rfl, hword, hstop⟩ := exists_word rest
    by_cases hfield : c :: word = qualifier ∧ QualifiesField after
    · obtain ⟨halias, first, tail, rfl, hfirst⟩ := hfield
      obtain ⟨name, after, rfl, hname, hstop⟩ := exists_word tail
      exact ⟨_, _, .field hstart hword halias hfirst hname hstop⟩
    · exact ⟨_, _, .word hstart hword hstop hfield⟩
  by_cases hnumber : c.isDigit ∨ c = '$'
  · obtain ⟨word, after, rfl, hword, hstop⟩ := exists_word rest
    exact ⟨_, _, .number hnumber hword hstop⟩
  by_cases hcast : c = ':' ∧ rest.head? = some ':'
  · obtain ⟨rfl, hhead⟩ := hcast
    obtain ⟨tail, rfl⟩ := List.head?_eq_some_iff.1 hhead
    obtain ⟨target, after, rfl, htarget, hstop⟩ := exists_word tail
    exact ⟨_, _, .cast htarget hstop⟩
  by_cases hname : c = ':' ∧ startsWord rest
  · obtain ⟨rfl, hrest⟩ := hname
    obtain ⟨first, tail, rfl, hfirst⟩ := startsWord_iff.1 hrest
    obtain ⟨name, after, rfl, hname, hstop⟩ := exists_word tail
    exact ⟨_, _, .placeholder hfirst hname hstop⟩
  have hword : isWordChar c = false := by
    rw [Bool.eq_false_iff]
    intro h
    rcases isWordStart_or_isDigit_of_isWordChar h with h | h
    · exact hstart h
    · exact hnumber (Or.inl h)
  refine ⟨_, _, .single hquote hword (fun h => hnumber (Or.inr h)) (fun hc => ⟨?_, ?_⟩)⟩
  · exact fun h => hcast ⟨hc, h⟩
  · exact Bool.eq_false_iff.2 fun h => hname ⟨hc, h⟩

/-- On a text that begins with a word, the search decides only whether the word is the alias of a
field. -/
theorem firstSegment_word {qualifier before word after : List Char} {start : Char}
    (hstart : isWordStart start) (hword : ∀ c ∈ word, isWordChar c) (hstop : StopsWord after) :
    firstSegment qualifier before start (word ++ after) =
      if start :: word = qualifier ∧ after.head? = some '.' ∧ startsWord after.tail then
        (.field (after.tail.takeWhile isWordChar), after.tail.dropWhile isWordChar)
      else (.verbatim (start :: word), after) := by
  have hchar := isWordChar_of_isWordStart hstart
  have hquote : ¬ (start = '\x27' ∨ start = '\x22') := not_isQuote_of_isWordChar hchar
  have hcolon : start ≠ ':' := ne_of_isWordChar hchar (by decide)
  have hnumber : ¬ (start.isDigit ∨ start = '$') := by
    rintro (h | h)
    · rw [not_isDigit_of_isWordStart hstart] at h
      cases h
    · exact ne_of_isWordChar hchar (by decide) h
  rw [firstSegment, if_neg hquote, if_neg fun h => hcolon h.1, if_neg fun h => hcolon h.1,
    if_neg hnumber, if_pos hstart, takeWhile_append_of_stop hword hstop,
    dropWhile_append_of_stop hword hstop]

/-- The rules exclude each other, so the first segment is the one that any rule gives. There is one
case for each rule. -/
theorem firstSegment_eq_of_reads {qualifier before rest after : List Char} {c : Char}
    {segment : Segment} (h : Reads qualifier before (c :: rest) segment after) :
    firstSegment qualifier before c rest = (segment, after) := by
  generalize hcs : c :: rest = cs at h
  cases h with
  | quoted rest hmark =>
    obtain ⟨rfl, rfl⟩ := List.cons.inj hcs
    exact if_pos hmark
  | cast htarget hstop =>
    obtain ⟨rfl, rfl⟩ := List.cons.inj hcs
    simp [firstSegment, takeWhile_append_of_stop htarget hstop,
      dropWhile_append_of_stop htarget hstop]
  | @placeholder first name after hfirst hname hstop =>
    obtain ⟨rfl, rfl⟩ := List.cons.inj hcs
    have hchar := isWordChar_of_isWordStart hfirst
    have hcolon : first ≠ ':' := ne_of_isWordChar hchar (by decide)
    simp [firstSegment, hcolon, startsWord, hfirst, hchar, takeWhile_append_of_stop hname hstop,
      dropWhile_append_of_stop hname hstop]
  | @number first word after hfirst hword hstop =>
    obtain ⟨rfl, rfl⟩ := List.cons.inj hcs
    have hquote : ¬ (c = '\x27' ∨ c = '\x22') := by
      rcases hfirst with h | rfl
      · exact not_isQuote_of_isWordChar (isWordChar_of_isDigit h)
      · decide
    have hcolon : c ≠ ':' := by
      rcases hfirst with h | rfl
      · exact ne_of_isWordChar (isWordChar_of_isDigit h) (by decide)
      · decide
    rw [firstSegment, if_neg hquote, if_neg fun h => hcolon h.1, if_neg fun h => hcolon h.1,
      if_pos hfirst, takeWhile_append_of_stop hword hstop, dropWhile_append_of_stop hword hstop]
  | @field start first word name after hstart hword halias hfirst hname hstop =>
    obtain ⟨rfl, rfl⟩ := List.cons.inj hcs
    have hdot : StopsWord ('.' :: first :: (name ++ after)) := by
      intro d hd
      obtain rfl : '.' = d := by simpa using hd
      decide
    have hchar := isWordChar_of_isWordStart hfirst
    rw [firstSegment_word hstart hword hdot, if_pos ⟨halias, rfl, hfirst⟩]
    simp [hchar, takeWhile_append_of_stop hname hstop, dropWhile_append_of_stop hname hstop]
  | word hstart hword hstop hother =>
    obtain ⟨rfl, rfl⟩ := List.cons.inj hcs
    rw [firstSegment_word hstart hword hstop,
      if_neg fun h => hother ⟨h.1, qualifiesField_iff.2 h.2⟩]
  | single hquote hword hdollar hcolon =>
    obtain ⟨rfl, rfl⟩ := List.cons.inj hcs
    have hquote : ¬ (c = '\x27' ∨ c = '\x22') := hquote
    have hdigit : ¬ (c.isDigit ∨ c = '$') := by
      rintro (h | h)
      · rw [isWordChar_of_isDigit h] at hword
        cases hword
      · exact hdollar h
    have hstart : ¬ isWordStart c := by
      intro h
      rw [isWordChar_of_isWordStart h] at hword
      cases hword
    have hname : ¬ (c = ':' ∧ startsWord rest) := by
      rintro ⟨hc, hrest⟩
      rw [(hcolon hc).2] at hrest
      cases hrest
    rw [firstSegment, if_neg hquote, if_neg fun h => (hcolon h.1).1 h.2, if_neg hname,
      if_neg hdigit, if_neg hstart]

/-- The search for the first segment finds exactly what the rules give. -/
theorem reads_iff {qualifier before rest after : List Char} {c : Char} {segment : Segment} :
    Reads qualifier before (c :: rest) segment after ↔
      firstSegment qualifier before c rest = (segment, after) := by
  constructor
  · exact firstSegment_eq_of_reads
  · intro h
    obtain ⟨found, left, hreads⟩ := exists_reads qualifier before c rest
    obtain ⟨rfl, rfl⟩ := Prod.mk.inj ((firstSegment_eq_of_reads hreads).symm.trans h)
    exact hreads

theorem segmentsFrom_nil (qualifier before : List Char) :
    segmentsFrom qualifier before [] = [] := by
  rw [segmentsFrom]

/-- Scanning goes on behind the segment that a rule gives. -/
theorem segmentsFrom_of_reads {qualifier before cs after : List Char} {segment : Segment}
    (h : Reads qualifier before cs segment after) :
    segmentsFrom qualifier before cs =
      segment :: segmentsFrom qualifier ((segment.source qualifier).reverse ++ before) after := by
  cases cs with
  | nil => cases h
  | cons c rest => rw [segmentsFrom, reads_iff.1 h]

/-! ### The sources of the segments are the text -/

theorem quotedRun_append (quote : Char) (cs : List Char) :
    (quotedRun quote cs).1 ++ (quotedRun quote cs).2 = cs := by
  fun_induction quotedRun quote cs <;> simp_all

/-- The source of a segment and what follows it are the text that was read. -/
theorem Reads.source_append {qualifier before cs after : List Char} {segment : Segment}
    (h : Reads qualifier before cs segment after) : segment.source qualifier ++ after = cs := by
  cases h with
  | quoted rest hmark => simp [Segment.source, quotedRun_append]
  | cast htarget hstop => simp [Segment.source]
  | placeholder hfirst hname hstop => simp [Segment.source]
  | number hfirst hword hstop => simp [Segment.source]
  | field hstart hword halias hfirst hname hstop => simp [Segment.source, ← halias]
  | word hstart hword hstop hother => simp [Segment.source]
  | single hquote hword hdollar hcolon => simp [Segment.source]

/-- The segments of a text, read one after the other. -/
inductive ReadsAll (qualifier : List Char) : List Char → List Char → List Segment → Prop
  | nil (before : List Char) : ReadsAll qualifier before [] []
  | cons {before cs after : List Char} {segment : Segment} {segments : List Segment}
      (first : Reads qualifier before cs segment after)
      (rest : ReadsAll qualifier ((segment.source qualifier).reverse ++ before) after segments) :
      ReadsAll qualifier before cs (segment :: segments)

/-- The scan follows the rules, from any place of a text on. -/
theorem readsAll_segmentsFrom (qualifier before cs : List Char) :
    ReadsAll qualifier before cs (segmentsFrom qualifier before cs) := by
  induction hlength : cs.length using Nat.strongRecOn generalizing before cs with
  | ind n ih =>
    cases cs with
    | nil =>
      rw [segmentsFrom_nil]
      exact .nil before
    | cons c rest =>
      obtain ⟨segment, after, hreads⟩ := exists_reads qualifier before c rest
      have hshorter : after.length < n := by
        have h := firstSegment_length qualifier before c rest
        rw [reads_iff.1 hreads] at h
        simp only [List.length_cons] at hlength h
        omega
      rw [segmentsFrom_of_reads hreads]
      exact .cons hreads (ih _ hshorter _ _ rfl)

/-- The sources of the segments, one behind the other, are the text. -/
theorem ReadsAll.flatMap_source {qualifier before cs : List Char} {segments : List Segment}
    (h : ReadsAll qualifier before cs segments) :
    segments.flatMap (Segment.source qualifier) = cs := by
  induction h with
  | nil before => rfl
  | cons first rest ih => rw [List.flatMap_cons, ih, first.source_append]

/-- Each segment is read behind the sources of the segments before it. -/
theorem ReadsAll.split {qualifier before cs : List Char} {earlier later : List Segment}
    {segment : Segment} (h : ReadsAll qualifier before cs (earlier ++ segment :: later)) :
    ∃ rest after, Reads qualifier
        ((earlier.flatMap (Segment.source qualifier)).reverse ++ before) rest segment after ∧
      after = later.flatMap (Segment.source qualifier) := by
  induction earlier generalizing before cs with
  | nil =>
    cases h with
    | cons first rest => exact ⟨_, _, first, rest.flatMap_source.symm⟩
  | cons head tail ih =>
    cases h with
    | cons first rest =>
      obtain ⟨cs, after, hreads, hafter⟩ := ih rest
      refine ⟨cs, after, ?_, hafter⟩
      simpa [List.append_assoc] using hreads

end EntityQuery.Sql
