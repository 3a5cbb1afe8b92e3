import EntityQuery.Ident
import EntityQuery.Proofs.Results
import EntityQuery.Proofs.Rows

namespace EntityQuery

namespace Ident

/-- The characters of a part without its quotes. -/
def Part.chars : Part → List Char
  | unquoted text => text.toList
  | quoted name => name.toList

/-! ### Unquoted parts -/

/-- An unquoted part is a word: its first character can begin a word, unless the part was begun
before, and all others continue one. What it leaves is what stands behind it. -/
theorem readUnquoted_ok {first : Bool} {cs word after : List Char}
    (h : readUnquoted first cs = .ok (word, after)) :
    cs = word ++ after ∧
      ∀ c rest, word = c :: rest → isFitting first c ∧ ∀ d ∈ rest, isContinue d := by
  fun_induction readUnquoted first cs generalizing word after with
  | case1 =>
    cases h
    exact ⟨rfl, by simp⟩
  | case2 =>
    cases h
    exact ⟨rfl, by simp⟩
  | case3 => cases h
  | case4 first c rest hdot hfit inner left hread ih =>
    cases h
    obtain ⟨rfl, hinner⟩ := ih hread
    refine ⟨rfl, ?_⟩
    rintro _ _ ⟨rfl, rfl⟩
    refine ⟨hfit, fun d hd => ?_⟩
    cases inner with
    | nil => cases hd
    | cons e inner =>
      obtain ⟨he, hrest⟩ := hinner e inner rfl
      rcases List.mem_cons.1 hd with rfl | hd
      · exact he
      · exact hrest d hd
  | case5 => cases h

/-- There is at least one part in what is accepted, since an empty part is refused. -/
theorem readParts_ne_nil {text : String} {cs : List Char} {parts : List Part}
    (h : readParts text cs = .ok parts) : parts ≠ [] := by
  rw [readParts] at h
  split at h
  · cases h
  · cases h
    simp
  · split at h
    · split at h
      · cases h
      · obtain ⟨later, -, rfl⟩ := map_eq_ok h
        simp
    · cases h

/-- A single unquoted part is the whole text. -/
theorem readUnquoted_of_readParts {text word : String} {cs : List Char}
    (h : readParts text cs = .ok [.unquoted word]) :
    readUnquoted true cs = .ok (word.toList, []) ∧ word.toList ≠ [] := by
  rw [readParts] at h
  split at h
  · cases h
  · rename_i part hpart
    obtain rfl : part = .unquoted word := by simpa using h
    rw [readPart] at hpart
    split at hpart
    · split at hpart
      · cases hpart
      · split at hpart
        · cases hpart
        · cases hpart
    · split at hpart
      · cases hpart
      · rename_i found after hread
        split at hpart
        · cases hpart
        · rename_i hne
          cases hpart
          exact ⟨by simpa using hread, by simpa using hne⟩
  · split at h
    · split at h
      · cases h
      · obtain ⟨later, hlater, hparts⟩ := map_eq_ok h
        exact absurd (List.cons.inj hparts).2 (readParts_ne_nil hlater)
    · cases h

/-- What a parse accepts are the parts that the loop reads, after the text was found to be neither
empty nor with a NUL. -/
theorem readParts_of_parse {text : String} {ident : Ident} (h : parse text = .ok ident) :
    readParts text text.toList = .ok ident.parts := by
  rw [parse] at h
  split at h
  · cases h
  · split at h
    · cases h
    · obtain ⟨parts, hparts, rfl⟩ := map_eq_ok h
      exact hparts

/-- An accepted alias is a word of letters, digits, underscores and dollar signs that begins with a
letter or an underscore. -/
theorem exists_word_of_parseAlias {text : String} (h : (parseAlias text).isOk) :
    ∃ first rest, text.toList = first :: rest ∧ isStart first ∧ ∀ c ∈ rest, isContinue c := by
  rw [parseAlias] at h
  split at h
  · cases h
  · rename_i word hparse
    obtain ⟨hread, hne⟩ := readUnquoted_of_readParts (readParts_of_parse hparse)
    obtain ⟨htext, hfits⟩ := readUnquoted_ok hread
    obtain ⟨first, rest, hword⟩ := List.exists_cons_of_ne_nil hne
    obtain ⟨hfirst, hrest⟩ := hfits first rest hword
    exact ⟨first, rest, by rw [htext, hword, List.append_nil], hfirst, hrest⟩
  · cases h

/-! ### The characters of the parts -/

/-- Taking off quotes and halving doubled ones adds no character. -/
theorem subset_of_readQuoted {cs name after : List Char} (h : readQuoted cs = some (name, after)) :
    name ⊆ cs ∧ after ⊆ cs := by
  fun_induction readQuoted cs generalizing name after with
  | case1 => cases h
  | case2 =>
    cases h
    simp
  | case3 => cases h
  | case4 rest ih =>
    obtain ⟨⟨inner, left⟩, hread, heq⟩ := Option.map_eq_some_iff.1 h
    cases heq
    obtain ⟨hinner, hleft⟩ := ih hread
    grind
  | case5 =>
    cases h
    simp
  | case6 d e rest hd ih =>
    obtain ⟨⟨inner, left⟩, hread, heq⟩ := Option.map_eq_some_iff.1 h
    cases heq
    obtain ⟨hinner, hleft⟩ := ih hread
    grind

/-- No part has a character that is not in the text from which it was read. -/
theorem subset_of_readPart {text : String} {cs after : List Char} {part : Part}
    (h : readPart text cs = .ok (part, after)) : part.chars ⊆ cs ∧ after ⊆ cs := by
  rw [readPart] at h
  split at h
  · split at h
    · cases h
    · rename_i name left hread
      split at h
      · cases h
      · cases h
        obtain ⟨hname, hleft⟩ := subset_of_readQuoted hread
        rw [Part.chars, String.toList_ofList]
        have htail : cs.tail ⊆ cs := fun _ => List.mem_of_mem_tail
        exact ⟨List.Subset.trans hname htail, List.Subset.trans hleft htail⟩
  · split at h
    · cases h
    · rename_i word left hread
      split at h
      · cases h
      · cases h
        obtain ⟨rfl, -⟩ := readUnquoted_ok hread
        rw [Part.chars, String.toList_ofList]
        exact ⟨List.subset_append_left _ _, List.subset_append_right _ _⟩

theorem subset_of_readParts {text : String} {cs : List Char} {parts : List Part}
    (h : readParts text cs = .ok parts) : ∀ part ∈ parts, part.chars ⊆ cs := by
  induction hlength : cs.length using Nat.strongRecOn generalizing cs parts with
  | ind n ih =>
    rw [readParts] at h
    split at h
    · cases h
    · rename_i part hpart
      cases h
      simpa using (subset_of_readPart hpart).1
    · rename_i part d after hpart
      split at h
      · split at h
        · cases h
        · obtain ⟨later, hlater, rfl⟩ := map_eq_ok h
          obtain ⟨hchars, hafter⟩ := subset_of_readPart hpart
          have hshorter := readPart_length hpart
          simp only [List.length_cons] at hshorter
          have hrest := ih after.length (by omega) hlater rfl
          intro other hother
          rcases List.mem_cons.1 hother with rfl | hother
          · exact hchars
          · have hcons := List.Subset.trans (List.subset_cons_self _ _) hafter
            exact List.Subset.trans (hrest other hother) hcons
      · cases h

/-- No part of an identifier has a character that its text does not have. -/
theorem subset_of_parse {text : String} {ident : Ident} (h : parse text = .ok ident) :
    ∀ part ∈ ident.parts, part.chars ⊆ text.toList :=
  subset_of_readParts (readParts_of_parse h)

end Ident

/-! ### The characters of a rendered identifier -/

/-- Doubling quotes adds no other character. -/
theorem mem_of_mem_escapeQuotes {c : Char} {cs : List Char} (h : c ∈ escapeQuotes cs) : c ∈ cs := by
  induction cs with
  | nil => exact h
  | cons d rest ih =>
    rw [escapeQuotes] at h
    split at h
    · grind
    · grind

/-- The words that are reserved consist of letters, digits and underscores. -/
theorem isWordChar_of_mem_reservedWords :
    ∀ word ∈ reservedWords, ∀ c ∈ word.toList, c == '_' || c.isAlphanum := by
  have hall : reservedWords.all fun word => word.toList.all fun c => c == '_' || c.isAlphanum := by
    decide +kernel
  exact fun word hword => List.all_eq_true.1 (List.all_eq_true.1 hall word hword)

section NotMem

variable {c : Char} (hquote : c ≠ quoteMark)

include hquote

/-- Quoting a name adds quotes and nothing else. -/
theorem not_mem_quoted {name : String} (h : c ∉ name.toList) : c ∉ (quoted name).toList := by
  intro hmem
  rw [quoted, String.toList_ofList] at hmem
  rcases List.mem_append.1 hmem with hmem | hmem
  · rcases List.mem_cons.1 hmem with heq | hmem
    · exact hquote heq
    · exact h (mem_of_mem_escapeQuotes hmem)
  · exact hquote (List.mem_singleton.1 hmem)

variable (hword : (c == '_' || c.isAlphanum) = false)

include hword

/-- Only characters of words are changed by folding a reserved word. -/
theorem not_mem_sqlWord {word : String} (h : c ∉ word.toList) : c ∉ (sqlWord word).toList := by
  rw [sqlWord]
  split
  · rename_i hreserved
    apply not_mem_quoted hquote
    intro hmem
    have hfolded := isWordChar_of_mem_reservedWords _ (List.contains_iff_mem.1 hreserved) c hmem
    rw [hword] at hfolded
    cases hfolded
  · exact h

/-- A rendered identifier has no characters but those of its parts, dots, quotes and the characters
of words. -/
theorem Ident.not_mem_toSql (hdot : c ≠ '.') {ident : Ident}
    (h : ∀ part ∈ ident.parts, c ∉ part.chars) : c ∉ ident.toSql.toList := by
  rw [Ident.toSql, String.toList_intercalate]
  intro hmem
  rcases mem_of_mem_intercalate hmem with hmem | ⟨row, hrow, hmem⟩
  · exact hdot (List.mem_singleton.1 hmem)
  · obtain ⟨text, htext, rfl⟩ := List.mem_map.1 hrow
    obtain ⟨part, hpart, rfl⟩ := List.mem_map.1 htext
    have hchars := h part hpart
    cases part with
    | unquoted text => exact not_mem_sqlWord hquote hword hchars hmem
    | quoted name => exact not_mem_quoted hquote hchars hmem

end NotMem

/-- A dollar sign in a statement stems from a placeholder only, if no name has one. -/
theorem dollar_not_mem_sqlWord {word : String} (h : '$' ∉ word.toList) :
    '$' ∉ (sqlWord word).toList :=
  not_mem_sqlWord (by decide) (by decide) h

theorem dollar_not_mem_sqlTable {name : String} (h : '$' ∉ name.toList) :
    '$' ∉ (sqlTable name).toList := by
  rw [sqlTable]
  split
  · rename_i ident hparse
    exact Ident.not_mem_toSql (by decide) (by decide) (by decide) fun part hpart hc =>
      h (Ident.subset_of_parse hparse part hpart hc)
  · exact h

end EntityQuery
