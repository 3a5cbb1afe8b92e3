import EntityQuery.Proofs.Ident
import EntityQuery.Proofs.Text.Basic

namespace EntityQuery.Ident

/-! ### The grammar -/

/-- The characters that begin a word. -/
def OpensWord (c : Char) : Prop :=
  ('A' ≤ c ∧ c ≤ 'Z') ∨ ('a' ≤ c ∧ c ≤ 'z') ∨ c = '_'

/-- The characters that a word has behind its first one. -/
def ContinuesWord (c : Char) : Prop :=
  OpensWord c ∨ ('0' ≤ c ∧ c ≤ '9') ∨ c = '$'

/-- The parts that a text can have: words, and names of at least one character in quotes. -/
inductive Part.IsWritable : Part → Prop
  | word {text : String} {first : Char} {rest : List Char} (htext : text.toList = first :: rest)
      (hfirst : OpensWord first) (hrest : ∀ c ∈ rest, ContinuesWord c) :
      IsWritable (.unquoted text)
  | name {text : String} (hne : text ≠ "") : IsWritable (.quoted text)

/-- How a part is written: a word as it is, and a name in quotes with each quote in it doubled. -/
def Part.source : Part → List Char
  | unquoted text => text.toList
  | quoted name =>
    '\x22' :: name.toList.flatMap (fun c => if c = '\x22' then ['\x22', '\x22'] else [c]) ++
      ['\x22']

/-- The text consists of the parts, with dots between them. -/
structure IsReading (text : String) (parts : List Part) : Prop where
  no_nul : '\x00' ∉ text.toList
  ne_nil : parts ≠ []
  writable : ∀ part ∈ parts, part.IsWritable
  source : text.toList = ['.'].intercalate (parts.map Part.source)

/-! ### Words -/

theorem isStart_iff {c : Char} : isStart c ↔ OpensWord c := by
  rw [isStart, Bool.or_eq_true, Text.isAlpha_iff, beq_iff_eq, or_comm, or_assoc, OpensWord]

/-- The reader begins a word and goes on with it where the grammar does. -/
theorem isContinue_iff_continuesWord {c : Char} : isContinue c ↔ ContinuesWord c := by
  rw [ContinuesWord, OpensWord]
  simp only [isContinue, Bool.or_eq_true, Text.isAlphanum_iff, beq_iff_eq]
  tauto

/-- A word ends in front of a dot, so the dots between the parts are not taken for parts of
words. -/
theorem ne_dot_of_isContinue {c : Char} (h : isContinue c) : c ≠ '.' := by
  rintro rfl
  exact absurd h (by decide)

theorem isContinue_of_isStart {c : Char} (h : isStart c) : isContinue c := by
  rw [isStart_iff] at h
  exact isContinue_iff_continuesWord.2 (Or.inl h)

/-- Where a part ends: at a dot or at the end of the text. -/
def EndsPart (after : List Char) : Prop :=
  ∀ c ∈ after.head?, c = '.'

/-- A word is read up to what ends a part. -/
theorem readUnquoted_append {first : Bool} {word after : List Char}
    (hword : ∀ c rest, word = c :: rest → isFitting first c ∧ ∀ d ∈ rest, isContinue d)
    (hfirst : ∀ c, isFitting first c → isContinue c) (hafter : EndsPart after) :
    readUnquoted first (word ++ after) = .ok (word, after) := by
  induction word generalizing first with
  | nil =>
    cases after with
    | nil => rfl
    | cons c rest =>
      obtain rfl := hafter c rfl
      rfl
  | cons c rest ih =>
    obtain ⟨hc, hrest⟩ := hword c rest rfl
    have hdot : c ≠ '.' := ne_dot_of_isContinue (hfirst c hc)
    have hlater : readUnquoted false (rest ++ after) = .ok (rest, after) := by
      refine ih (fun d more heq => ?_) fun d hd => hd
      subst heq
      exact ⟨hrest d List.mem_cons_self, fun e he => hrest e (List.mem_cons_of_mem _ he)⟩
    rw [List.cons_append, readUnquoted, if_neg hdot, if_pos hc, hlater]

/-! ### Quoted names -/

theorem source_quoted (name : String) :
    (Part.quoted name).source = quoteMark :: (escapeQuotes name.toList ++ [quoteMark]) := by
  have hescape (cs : List Char) :
      escapeQuotes cs = cs.flatMap fun c => if c = '"' then ['"', '"'] else [c] := by
    induction cs with
    | nil => rfl
    | cons c rest ih =>
      rw [escapeQuotes, List.flatMap_cons, ih, quoteMark]
      split
      · rename_i hc
        rw [hc]
        rfl
      · rfl
  rw [Part.source, hescape]
  rfl

/-- Inside quotes every other character stands for itself. -/
theorem readQuoted_of_ne {c : Char} {cs : List Char} (hc : c ≠ quoteMark) (hcs : cs ≠ []) :
    readQuoted (c :: cs) = (readQuoted cs).map fun (name, after) => (c :: name, after) := by
  obtain ⟨d, rest, rfl⟩ := List.exists_cons_of_ne_nil hcs
  rw [readQuoted, if_neg hc]

/-- A name is read up to the quote that closes it. -/
theorem readQuoted_escapeQuotes (name : List Char) {after : List Char} (hafter : EndsPart after) :
    readQuoted (escapeQuotes name ++ quoteMark :: after) = some (name, after) := by
  induction name with
  | nil =>
    cases after with
    | nil => rfl
    | cons d rest =>
      have hd : d ≠ quoteMark := by
        rw [hafter d rfl]
        decide
      rw [escapeQuotes, List.nil_append, readQuoted, if_pos rfl, if_neg hd]
  | cons c rest ih =>
    rw [escapeQuotes]
    split
    · rename_i hc
      rw [List.cons_append, List.cons_append, readQuoted, if_pos hc, if_pos hc, ih, hc]
      rfl
    · rename_i hc
      rw [List.cons_append, readQuoted_of_ne hc (by simp), ih]
      rfl

/-- What was read inside quotes stands there with its quotes doubled, in front of the quote that
ends it. -/
theorem eq_of_readQuoted {cs name after : List Char} (h : readQuoted cs = some (name, after)) :
    cs = escapeQuotes name ++ quoteMark :: after := by
  fun_induction readQuoted cs generalizing name after with
  | case1 => cases h
  | case2 =>
    cases h
    rfl
  | case3 => cases h
  | case4 rest ih =>
    obtain ⟨⟨inner, left⟩, hread, heq⟩ := Option.map_eq_some_iff.1 h
    cases heq
    rw [ih hread, escapeQuotes, if_pos rfl]
    rfl
  | case5 =>
    cases h
    rfl
  | case6 c d rest hc ih =>
    obtain ⟨⟨inner, left⟩, hread, heq⟩ := Option.map_eq_some_iff.1 h
    cases heq
    rw [ih hread, escapeQuotes, if_neg hc]
    rfl

/-! ### Parts -/

/-- A part that can be written is read from its source, up to what ends a part. -/
theorem readPart_source {text : String} {part : Part} {after : List Char} (h : part.IsWritable)
    (hafter : EndsPart after) : readPart text (part.source ++ after) = .ok (part, after) := by
  cases h with
  | @word name first rest htext hfirst hrest =>
    rw [← isStart_iff] at hfirst
    have hquote : first ≠ quoteMark := by
      rintro rfl
      exact absurd hfirst (by decide)
    have hread : readUnquoted true (first :: rest ++ after) = .ok (first :: rest, after) := by
      refine readUnquoted_append ?_ (fun c hc => isContinue_of_isStart hc) hafter
      rintro _ _ ⟨rfl, rfl⟩
      exact ⟨hfirst, fun d hd => isContinue_iff_continuesWord.2 (hrest d hd)⟩
    have hname : String.ofList (first :: rest) = name := by
      rw [← htext, String.ofList_toList]
    rw [Part.source, htext, readPart, if_neg (by simpa using hquote), hread]
    simp only
    rw [if_neg (List.cons_ne_nil _ _), hname]
  | @name text' hne =>
    have hread := readQuoted_escapeQuotes text'.toList hafter
    have hchars : text'.toList ≠ [] := by simpa using hne
    have hsource : (Part.quoted text').source ++ after =
        quoteMark :: (escapeQuotes text'.toList ++ quoteMark :: after) := by
      simp [source_quoted]
    rw [hsource, readPart, List.head?_cons, if_pos rfl, List.tail_cons, hread]
    simp only
    rw [if_neg hchars, String.ofList_toList]

/-- What was read as a part is its source, and the part can be written. -/
theorem eq_source_of_readPart {text : String} {part : Part} {cs after : List Char}
    (h : readPart text cs = .ok (part, after)) :
    cs = part.source ++ after ∧ part.IsWritable := by
  rw [readPart] at h
  split at h
  · rename_i hhead
    obtain ⟨tail, rfl⟩ := List.head?_eq_some_iff.1 hhead
    split at h
    · cases h
    · rename_i name left hread
      split at h
      · cases h
      · rename_i hne
        cases h
        have htail := eq_of_readQuoted hread
        rw [List.tail_cons] at htail
        refine ⟨?_, .name ?_⟩
        · simp [source_quoted, htail]
        · simpa using hne
  · split at h
    · cases h
    · rename_i word left hread
      split at h
      · cases h
      · rename_i hne
        cases h
        obtain ⟨rfl, hfits⟩ := readUnquoted_ok hread
        obtain ⟨first, rest, rfl⟩ := List.exists_cons_of_ne_nil hne
        obtain ⟨hfirst, hrest⟩ := hfits first rest rfl
        refine ⟨by rw [Part.source, String.toList_ofList], ?_⟩
        exact .word String.toList_ofList (isStart_iff.1 hfirst)
          fun c hc => isContinue_iff_continuesWord.1 (hrest c hc)

theorem Part.IsWritable.source_ne_nil {part : Part} (h : part.IsWritable) : part.source ≠ [] := by
  cases h with
  | word htext _ _ => simp [Part.source, htext]
  | name _ => simp [Part.source]

/-! ### Rows of parts -/

theorem readParts_of_end {text : String} {part : Part} {cs : List Char}
    (h : readPart text cs = .ok (part, [])) : readParts text cs = .ok [part] := by
  rw [readParts]
  split <;> simp_all

/-- A dot behind a part goes on with the others, if anything stands behind the dot. -/
theorem readParts_of_dot {text : String} {part : Part} {cs after : List Char}
    (h : readPart text cs = .ok (part, '.' :: after)) (hne : after ≠ []) :
    readParts text cs = (readParts text after).map (part :: ·) := by
  rw [readParts]
  split <;> simp_all

/-- Every row of parts is read from its sources with dots between them. The induction is on the
row. -/
theorem readParts_source {text : String} {part : Part} {parts : List Part}
    (h : ∀ p ∈ part :: parts, p.IsWritable) :
    readParts text (['.'].intercalate ((part :: parts).map Part.source)) = .ok (part :: parts) := by
  have hfirst : part.IsWritable := h part List.mem_cons_self
  induction parts generalizing part with
  | nil =>
    have hread : readPart text (part.source ++ []) = .ok (part, []) :=
      readPart_source hfirst (by simp [EndsPart])
    rw [List.append_nil] at hread
    rw [List.map_singleton, List.intercalate_singleton]
    exact readParts_of_end hread
  | cons next rest ih =>
    have hlater : ∀ p ∈ next :: rest, p.IsWritable := fun p hp => h p (List.mem_cons_of_mem _ hp)
    have hnext : next.IsWritable := hlater next List.mem_cons_self
    have hne : ['.'].intercalate ((next :: rest).map Part.source) ≠ [] :=
      intercalate_ne_nil (List.mem_map_of_mem List.mem_cons_self) hnext.source_ne_nil
    have hread : readPart text
        (part.source ++ '.' :: ['.'].intercalate ((next :: rest).map Part.source)) =
          .ok (part, '.' :: ['.'].intercalate ((next :: rest).map Part.source)) :=
      readPart_source hfirst (by simp [EndsPart])
    rw [List.map_cons, List.intercalate_cons_of_ne_nil (by simp), List.append_assoc,
      List.singleton_append, readParts_of_dot hread hne, ih hlater hnext]
    rfl

/-- What was read as a row of parts is made of their sources, with dots between them. -/
theorem source_of_readParts {text : String} {cs : List Char} {parts : List Part}
    (h : readParts text cs = .ok parts) :
    (∀ part ∈ parts, part.IsWritable) ∧ cs = ['.'].intercalate (parts.map Part.source) := by
  induction hlength : cs.length using Nat.strongRecOn generalizing cs parts with
  | ind n ih =>
    rw [readParts] at h
    split at h
    · cases h
    · rename_i part hpart
      cases h
      obtain ⟨hsource, hwritable⟩ := eq_source_of_readPart hpart
      exact ⟨by simpa using hwritable, by simpa using hsource⟩
    · rename_i part d after hpart
      split at h
      · rename_i hdot
        split at h
        · cases h
        · obtain ⟨later, hlater, rfl⟩ := map_eq_ok h
          obtain ⟨hsource, hwritable⟩ := eq_source_of_readPart hpart
          have hshorter := readPart_length hpart
          simp only [List.length_cons] at hshorter
          obtain ⟨hrest, hafter⟩ := ih after.length (by omega) hlater rfl
          refine ⟨List.forall_mem_cons.2 ⟨hwritable, hrest⟩, ?_⟩
          have hne : later.map Part.source ≠ [] := by simpa using readParts_ne_nil hlater
          rw [List.map_cons, List.intercalate_cons_of_ne_nil hne, ← hafter, hsource, hdot,
            List.append_assoc]
          rfl
      · cases h

/-! ### What is accepted -/

/-- A text is accepted as an identifier exactly if the parts are a reading of it. -/
theorem parse_eq_ok_iff {text : String} {ident : Ident} :
    parse text = .ok ident ↔ IsReading text ident.parts := by
  constructor
  · intro h
    have hparts := readParts_of_parse h
    obtain ⟨hwritable, hsource⟩ := source_of_readParts hparts
    refine ⟨?_, readParts_ne_nil hparts, hwritable, hsource⟩
    rw [parse] at h
    split at h
    · cases h
    · split at h
      · cases h
      · rename_i hnul
        simpa using hnul
  · rintro ⟨hnul, hne, hwritable, hsource⟩
    obtain ⟨part, rest, hparts⟩ := List.exists_cons_of_ne_nil hne
    have hempty : text.toList ≠ [] := by
      rw [hsource]
      have hmem : part ∈ ident.parts := by simp [hparts]
      exact intercalate_ne_nil (List.mem_map_of_mem hmem) (hwritable part hmem).source_ne_nil
    have hread : readParts text text.toList = .ok ident.parts := by
      rw [hparts] at hwritable
      rw [hsource, hparts]
      exact readParts_source hwritable
    rw [parse, if_neg hempty, if_neg (by simpa using hnul), hread]
    rfl

/-- An identifier is accepted with its parts exactly if its text is written for them. Every other
text is refused, and no text is written for two rows of parts. -/
theorem parse_decides_reading (text : String) :
    (∀ parts, parse text = .ok ⟨parts⟩ ↔ IsReading text parts) ∧
      ((∃ fault, parse text = .error fault) ↔ ∀ parts, ¬ IsReading text parts) ∧
      ∀ parts others, IsReading text parts → IsReading text others → parts = others := by
  refine ⟨fun parts => parse_eq_ok_iff, ⟨?_, ?_⟩, ?_⟩
  · rintro ⟨fault, hfault⟩ parts hreading
    have hparse : parse text = .ok ⟨parts⟩ := parse_eq_ok_iff.2 hreading
    rw [hfault] at hparse
    cases hparse
  · intro hnone
    cases hparse : parse text with
    | error fault => exact ⟨fault, rfl⟩
    | ok ident => exact absurd (parse_eq_ok_iff.1 hparse) (hnone ident.parts)
  · intro parts others hparts hothers
    have hparse : parse text = .ok ⟨parts⟩ := parse_eq_ok_iff.2 hparts
    have hother : parse text = .ok ⟨others⟩ := parse_eq_ok_iff.2 hothers
    rw [hparse] at hother
    exact congrArg Ident.parts (Except.ok.inj hother)

end EntityQuery.Ident
