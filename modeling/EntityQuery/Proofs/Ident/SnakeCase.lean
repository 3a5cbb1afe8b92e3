import EntityQuery.Proofs.Ident.Grammar
import EntityQuery.Proofs.Names
import EntityQuery.Proofs.Text.Words

namespace EntityQuery.Ident

theorem toNat_lt_of_isContinue {c : Char} (h : isContinue c) : c.toNat < 128 := by
  simp only [isContinue, Bool.or_eq_true, beq_iff_eq] at h
  rcases h with (rfl | rfl) | halphanum
  · decide
  · decide
  · exact Text.toNat_lt_of_isAlphanum halphanum

theorem isOk_parse_iff_exists_reading {text : String} :
    (parse text).isOk ↔ ∃ parts, IsReading text parts := by
  cases hparse : parse text with
  | error fault =>
    refine iff_of_false Bool.false_ne_true fun ⟨parts, hreading⟩ => ?_
    have hread : parse text = .ok ⟨parts⟩ := parse_eq_ok_iff.2 hreading
    rw [hparse] at hread
    cases hread
  | ok ident => exact iff_of_true rfl ⟨ident.parts, parse_eq_ok_iff.1 hparse⟩

/-- A word is an identifier of one part. -/
theorem parse_of_word {text : String} {first : Char} {rest : List Char}
    (htext : text.toList = first :: rest) (hfirst : isStart first)
    (hrest : ∀ c ∈ rest, isContinue c) : parse text = .ok ⟨[.unquoted text]⟩ := by
  have hcontinue : ∀ c ∈ text.toList, isContinue c := by
    rw [htext]
    exact List.forall_mem_cons.2 ⟨isContinue_of_isStart hfirst, hrest⟩
  have hword : (Part.unquoted text).IsWritable :=
    .word htext (isStart_iff.1 hfirst) fun c hc => isContinue_iff_continuesWord.1 (hrest c hc)
  have hreading : IsReading text [.unquoted text] :=
    { no_nul := fun hnul => absurd (hcontinue _ hnul) (by decide)
      ne_nil := List.cons_ne_nil _ _
      writable := by simpa using hword
      source := by simp [Part.source] }
  exact parse_eq_ok_iff.2 hreading

/-- An alias is a word of letters, digits, underscores and dollar signs, which begins with a letter
or an underscore. -/
theorem isOk_parseAlias_iff {text : String} :
    (parseAlias text).isOk ↔
      ∃ first rest, text.toList = first :: rest ∧ isStart first ∧ ∀ c ∈ rest, isContinue c := by
  refine ⟨exists_word_of_parseAlias, ?_⟩
  rintro ⟨first, rest, htext, hfirst, hrest⟩
  rw [parseAlias, parse_of_word htext hfirst hrest]
  rfl

/-- Of texts without other characters, the first character decides which can be an alias. -/
theorem isOk_parseAlias_iff_of_isContinue {text : String} (h : ∀ c ∈ text.toList, isContinue c) :
    (parseAlias text).isOk ↔ ∃ c, text.toList.head? = some c ∧ isStart c := by
  rw [isOk_parseAlias_iff]
  constructor
  · rintro ⟨first, rest, htext, hfirst, -⟩
    exact ⟨first, by rw [htext]; rfl, hfirst⟩
  · rintro ⟨first, hhead, hfirst⟩
    obtain ⟨rest, htext⟩ := List.head?_eq_some_iff.1 hhead
    rw [htext] at h
    exact ⟨first, rest, htext, hfirst, (List.forall_mem_cons.1 h).2⟩

/-- An ASCII word can be an alias. -/
theorem isOk_parseAlias_of_isAsciiWord {text : String} (h : Text.isAsciiWord text) :
    (parseAlias text).isOk := by
  obtain ⟨first, rest, htext, hfirst, hrest⟩ := isAsciiWord_iff.1 h
  refine isOk_parseAlias_iff.2 ⟨first, rest, htext, hfirst, fun c hc => ?_⟩
  rw [isContinue, Bool.or_right_comm, Bool.or_eq_true]
  exact Or.inl (hrest c hc)

/-- A text without dots and quotes is an identifier exactly if it is a word. -/
theorem isOk_parse_iff {text : String} (hplain : ∀ c ∈ text.toList, c ≠ '.' ∧ c ≠ '\x22') :
    (parse text).isOk ↔
      ∃ first rest, text.toList = first :: rest ∧ isStart first ∧ ∀ c ∈ rest, isContinue c := by
  constructor
  · intro h
    obtain ⟨parts, -, hne, hwritable, hsource⟩ := isOk_parse_iff_exists_reading.1 h
    obtain ⟨part, rest, rfl⟩ := List.exists_cons_of_ne_nil hne
    rw [List.map_cons, intercalate_cons] at hsource
    cases rest with
    | nil =>
      rw [List.map_nil, List.flatMap_nil, List.append_nil] at hsource
      cases hwritable part List.mem_cons_self with
      | @word word first rest htext hfirst hrest =>
        exact ⟨first, rest, hsource.trans htext, isStart_iff.2 hfirst,
          fun c hc => isContinue_iff_continuesWord.2 (hrest c hc)⟩
      | name _ => exact absurd rfl (hplain '\x22' (by simp [hsource, Part.source])).2
    | cons next rest => exact absurd rfl (hplain '.' (by simp [hsource])).1
  · rintro ⟨first, rest, htext, hfirst, hrest⟩
    rw [parse_of_word htext hfirst hrest]
    rfl

/-- The letters and numbers of the name are written in ASCII in lower case, and the first of them is
no digit. -/
structure IsWordInSnakeCase (name : String) : Prop where
  ascii : ∀ c ∈ name.toList, Text.isAlphanumeric c → c.toNat < 128 ∨ c = Text.kelvin
  first : ∃ c, name.toList.find? Text.isAlphanumeric = some c ∧ c.isDigit = false

/-- Of the characters that stand for a letter or a number in snake case, exactly the ASCII ones can
stand in an identifier. -/
theorem isContinue_iff_of_mem_lowerImage {c d : Char} (halphanumeric : Text.isAlphanumeric c)
    (hd : d ∈ Text.lowerImage c) : isContinue d ↔ d.isAlphanum := by
  constructor
  · intro hcontinue
    exact (Text.isAlphanum_or_beyond_ascii halphanumeric hd).resolve_right
      (Nat.not_le.2 (toNat_lt_of_isContinue hcontinue))
  · intro halphanum
    simp [isContinue, halphanum]

/-- All characters of a name in snake case can stand in an identifier exactly if all its letters and
numbers are ASCII, or the sign of the kelvin, whose lower case is an ASCII letter. -/
theorem forall_isContinue_snakeCase_iff {name : String} :
    (∀ d ∈ (Text.snakeCase name).toList, isContinue d) ↔
      ∀ c ∈ name.toList, Text.isAlphanumeric c → c.toNat < 128 ∨ c = Text.kelvin := by
  rw [Text.forall_mem_snakeCase (p := fun c => isContinue c) (by decide) (by decide)]
  refine forall₂_congr fun c _ => forall_congr' fun halphanumeric => ?_
  rw [← Text.forall_isAlphanum_lowerImage_iff halphanumeric]
  exact forall₂_congr fun d hd => isContinue_iff_of_mem_lowerImage halphanumeric hd

/-- A name in snake case begins with its first letter or number. -/
theorem exists_head?_snakeCase {name : String} {c : Char}
    (hfind : name.toList.find? Text.isAlphanumeric = some c)
    (hascii : c.toNat < 128 ∨ c = Text.kelvin) :
    ∃ first, (Text.snakeCase name).toList.head? = some first ∧
      (isStart first ↔ c.isDigit = false) := by
  obtain ⟨first, himage, halphanum, hletter⟩ :=
    Text.exists_lowerImage (List.find?_some hfind) hascii
  refine ⟨first, Text.head?_snakeCase hfind himage halphanum, ?_⟩
  have hmark : first ≠ '_' := by
    rintro rfl
    exact absurd halphanum (by decide)
  rw [← hletter, isStart, Bool.or_eq_true, beq_iff_eq, or_iff_right hmark]

/-- A name in snake case has no dots and no quotes. -/
theorem ne_dot_and_ne_quote_of_mem_snakeCase {name : String} :
    ∀ c ∈ (Text.snakeCase name).toList, c ≠ '.' ∧ c ≠ '\x22' := by
  refine (Text.forall_mem_snakeCase (by decide) (by decide)).2 fun c _ halphanumeric d hd => ?_
  rcases Text.isAlphanum_or_beyond_ascii halphanumeric hd with halphanum | hbeyond
  · constructor <;> rintro rfl <;> exact absurd halphanum (by decide)
  · constructor <;> rintro rfl <;> exact absurd hbeyond (by decide)

/-- A name decides whether its form in snake case is an identifier. -/
theorem isOk_parse_snakeCase_iff {name : String} :
    (parse (Text.snakeCase name)).isOk ↔ IsWordInSnakeCase name := by
  rw [isOk_parse_iff ne_dot_and_ne_quote_of_mem_snakeCase]
  constructor
  · rintro ⟨first, rest, htext, hfirst, hrest⟩
    have hascii : ∀ c ∈ name.toList, Text.isAlphanumeric c → c.toNat < 128 ∨ c = Text.kelvin := by
      rw [← forall_isContinue_snakeCase_iff, htext]
      exact List.forall_mem_cons.2 ⟨isContinue_of_isStart hfirst, hrest⟩
    refine ⟨hascii, ?_⟩
    cases hfind : name.toList.find? Text.isAlphanumeric with
    | none =>
      rw [Text.snakeCase_of_find?_eq_none hfind] at htext
      cases htext
    | some c =>
      obtain ⟨first', hhead, hstart⟩ := exists_head?_snakeCase hfind
        (hascii c (List.mem_of_find?_eq_some hfind) (List.find?_some hfind))
      rw [htext] at hhead
      obtain rfl := Option.some.inj hhead
      exact ⟨c, rfl, hstart.1 hfirst⟩
  · rintro ⟨hascii, c, hfind, hdigit⟩
    obtain ⟨first, hhead, hstart⟩ := exists_head?_snakeCase hfind
      (hascii c (List.mem_of_find?_eq_some hfind) (List.find?_some hfind))
    obtain ⟨rest, htext⟩ := List.head?_eq_some_iff.1 hhead
    have hall := forall_isContinue_snakeCase_iff.2 hascii
    rw [htext] at hall
    exact ⟨first, rest, htext, hstart.2 hdigit, (List.forall_mem_cons.1 hall).2⟩

end EntityQuery.Ident
