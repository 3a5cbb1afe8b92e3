import EntityQuery.Proofs.Rows
import EntityQuery.Proofs.Text.Basic
import EntityQuery.Text.Words

namespace EntityQuery.Text

open Letters

/-! ### The words of a name -/

/-- Cutting a row drops the places at which it is cut, and nothing else. -/
theorem flatten_splitOnP (p : Char → Bool) (cs : List Char) :
    (cs.splitOnP p).flatten = cs.filter fun c => !p c := by
  induction cs with
  | nil => simp [List.splitOnP_nil]
  | cons c rest ih =>
    rw [List.splitOnP_cons_eq_if_modifyHead]
    split
    · rename_i hc
      rw [List.flatten_cons, List.nil_append, ih, List.filter_cons_of_neg (by simp [hc])]
    · rename_i hc
      obtain ⟨first, pieces, hpieces⟩ := List.exists_cons_of_ne_nil (List.splitOnP_ne_nil p rest)
      rw [hpieces] at ih ⊢
      rw [List.modifyHead_cons, List.filter_cons_of_pos (by simp [hc]), ← ih]
      rfl

/-- A stretch of letters and numbers is cut into pieces, behind what was read already. -/
theorem flatten_wordsFrom (word : List Char) (mode : WordCase) {cs : List Char} (hcs : cs ≠ []) :
    (wordsFrom word mode cs).flatten = word.reverse ++ cs := by
  fun_induction wordsFrom word mode cs with
  | case1 => exact absurd rfl hcs
  | case2 => simp
  | case3 word mode c next rest _ ih => rw [List.flatten_cons, ih (by simp)]; simp
  | case4 word mode c next rest _ _ ih => rw [List.flatten_cons, ih (by simp)]; simp
  | case5 word mode c next rest _ _ ih => rw [ih (by simp)]; simp

/-- No empty word is cut off. In front of a capital a word is only cut off behind another capital,
and then it has begun already. -/
theorem ne_nil_of_mem_wordsFrom {word : List Char} {mode : WordCase} {cs found : List Char}
    (hmode : mode = .upper → word ≠ []) (h : found ∈ wordsFrom word mode cs) : found ≠ [] := by
  fun_induction wordsFrom word mode cs with
  | case1 => cases h
  | case2 =>
    obtain rfl := List.mem_singleton.1 h
    simp
  | case3 word mode c next rest _ ih =>
    rcases List.mem_cons.1 h with rfl | h
    · simp
    · exact ih (by simp) h
  | case4 word mode c next rest _ hupper ih =>
    rcases List.mem_cons.1 h with rfl | h
    · simpa using hmode hupper.1
    · exact ih (by simp) h
  | case5 word mode c next rest _ _ ih => exact ih (by simp) h

/-- The words of a name are its letters and numbers, in their order. -/
theorem flatten_words (name : List Char) : (words name).flatten = name.filter isAlphanumeric := by
  have hpiece (cs : List Char) : (wordsFrom [] .none cs).flatten = cs := by
    cases cs with
    | nil => rfl
    | cons c rest => exact flatten_wordsFrom _ _ (List.cons_ne_nil c rest)
  have hflatten (pieces : List (List Char)) :
      (pieces.flatMap (wordsFrom [] .none)).flatten = pieces.flatten := by
    induction pieces with
    | nil => rfl
    | cons piece rest ih =>
      rw [List.flatMap_cons, List.flatten_append, ih, hpiece, List.flatten_cons]
  rw [words, hflatten, flatten_splitOnP]
  simp only [Bool.not_not]

theorem ne_nil_of_mem_words {name word : List Char} (h : word ∈ words name) : word ≠ [] := by
  obtain ⟨piece, -, hword⟩ := List.mem_flatMap.1 h
  exact ne_nil_of_mem_wordsFrom (by simp) hword

/-! ### Letters in lower case -/

/-- The sign of a unit of temperature, whose lower-case image is a letter of the alphabet. -/
def kelvin : Char := Char.ofNat 0x212a

theorem lowerImage_kelvin : lowerImage kelvin = ['k'] := by
  decide +kernel

/-- No other character beyond ASCII is moved into ASCII as a block. -/
theorem beyond_ascii_of_shift {shift : Shift} {n m : Nat} (hshift : shift ∈ lowerShifts)
    (himage : shift.image? n = some m) (hn : n ≠ kelvin.toNat) : 128 ≤ (Char.ofNat m).toNat := by
  have htable : ∀ shift ∈ lowerShifts,
      (128 ≤ shift.target ∨ shift.first = kelvin.toNat ∧ shift.last = kelvin.toNat) ∧
        (shift.target + (shift.last - shift.first) < 0xd800 ∨
          0xdfff < shift.target ∧ shift.target + (shift.last - shift.first) < 0x110000) := by
    decide +kernel
  obtain ⟨hascii, hvalid⟩ := htable shift hshift
  rw [Shift.image?] at himage
  split at himage
  · rename_i hcovers
    simp only [Run.covers, Bool.and_eq_true, decide_eq_true_eq] at hcovers
    obtain rfl := Option.some.inj himage
    have hchar : (shift.target + (n - shift.first)).isValidChar := by
      rw [Nat.isValidChar]
      omega
    have hcode : (Char.ofNat (shift.target + (n - shift.first))).toNat =
        shift.target + (n - shift.first) := by
      rw [Char.ofNat, dif_pos hchar]
      rfl
    omega
  · cases himage

/-- A letter beyond ASCII stays there: the sign of the kelvin aside, its lower-case image has a
character beyond ASCII, and apart from such characters only letters. -/
theorem lowerImage_beyond_ascii {c : Char} (h : 128 ≤ c.toNat) (hc : c ≠ kelvin) :
    (∃ d ∈ lowerImage c, 128 ≤ d.toNat) ∧ ∀ d ∈ lowerImage c, d.isAlphanum ∨ 128 ≤ d.toNat := by
  have hsingle (d : Char) (hd : 128 ≤ d.toNat) :
      (∃ e ∈ [d], 128 ≤ e.toNat) ∧ ∀ e ∈ [d], e.isAlphanum ∨ 128 ≤ e.toNat := by
    simp [hd]
  rcases lowerImage_cases h with ⟨image, hlookup, himage⟩ | ⟨shift, hshift, n, hn, himage⟩ | himage
  · have htable : ∀ entry ∈ lowerSpecials, (∃ m ∈ entry.2, 128 ≤ (Char.ofNat m).toNat) ∧
        ∀ m ∈ entry.2, (Char.ofNat m).isAlphanum ∨ 128 ≤ (Char.ofNat m).toNat := by
      decide +kernel
    obtain ⟨before, after, hspecials, -⟩ := List.lookup_eq_some_iff.1 hlookup
    obtain ⟨⟨m, hm, hbeyond⟩, hall⟩ := htable (c.toNat, image) (by simp [hspecials])
    rw [himage]
    exact ⟨⟨Char.ofNat m, List.mem_map_of_mem hm, hbeyond⟩, List.forall_mem_map.2 hall⟩
  · have hne : c.toNat ≠ kelvin.toNat := fun heq => hc (Char.toNat_inj.1 heq)
    rw [himage]
    exact hsingle _ (beyond_ascii_of_shift hshift hn hne)
  · rw [himage]
    exact hsingle c h

/-- Within ASCII, letters stay letters in lower case and everything else stays as it is. -/
theorem isAlphanum_toLower {c : Char} (h : c.toNat < 128) :
    c.toLower.isAlphanum = c.isAlphanum ∧ c.toLower.isAlpha = c.isAlpha :=
  forall_ascii (p := fun c =>
    c.toLower.isAlphanum = c.isAlphanum ∧ c.toLower.isAlpha = c.isAlpha) (by decide +kernel) h

/-- The lower-case image of a letter or number has letters, digits and characters beyond ASCII. -/
theorem isAlphanum_or_beyond_ascii {c d : Char} (h : isAlphanumeric c) (hd : d ∈ lowerImage c) :
    d.isAlphanum ∨ 128 ≤ d.toNat := by
  by_cases hascii : c.toNat < 128
  · rw [lowerImage_of_ascii hascii] at hd
    obtain rfl := List.mem_singleton.1 hd
    rw [isAlphanumeric_of_ascii hascii] at h
    exact Or.inl ((isAlphanum_toLower hascii).1.trans h)
  · by_cases hkelvin : c = kelvin
    · subst hkelvin
      rw [lowerImage_kelvin] at hd
      obtain rfl := List.mem_singleton.1 hd
      exact Or.inl (by decide)
    · exact (lowerImage_beyond_ascii (Nat.not_lt.1 hascii) hkelvin).2 d hd

/-- Letters and numbers of ASCII, and the sign of the kelvin, are those that are written in ASCII in
lower case. -/
theorem forall_isAlphanum_lowerImage_iff {c : Char} (h : isAlphanumeric c) :
    (∀ d ∈ lowerImage c, d.isAlphanum) ↔ c.toNat < 128 ∨ c = kelvin := by
  constructor
  · intro hall
    by_contra hbeyond
    obtain ⟨hascii, hkelvin⟩ := not_or.1 hbeyond
    obtain ⟨d, hd, hcode⟩ := (lowerImage_beyond_ascii (Nat.not_lt.1 hascii) hkelvin).1
    exact absurd (toNat_lt_of_isAlphanum (hall d hd)) (Nat.not_lt.2 hcode)
  · rintro (hascii | rfl)
    · rw [lowerImage_of_ascii hascii]
      rw [isAlphanumeric_of_ascii hascii] at h
      simpa using (isAlphanum_toLower hascii).1.trans h
    · rw [lowerImage_kelvin, List.forall_mem_singleton]
      decide

/-! ### Words in lower case -/

/-- A property of the characters of a word in lower case, if it makes no difference between the two
forms of a sigma. -/
theorem forall_mem_lowerWord {p : Char → Prop} (hsigma : p 'ς' ↔ p 'σ') {word : List Char} :
    (∀ d ∈ lowerWord word, p d) ↔ ∀ c ∈ word, ∀ d ∈ lowerImage c, p d := by
  have himage : lowerImage 'Σ' = ['σ'] := by decide +kernel
  fun_induction lowerWord word with
  | case1 => simp
  | case2 c hc =>
    rw [beq_iff_eq] at hc
    simp [hc, himage, hsigma]
  | case3 c hc => simp
  | case4 c rest _ ih =>
    rw [List.forall_mem_append, List.forall_mem_cons]
    exact and_congr_right fun _ => ih

/-- A letter or number that is written in ASCII in lower case is written as one character, and as a
letter unless it is a digit. -/
theorem exists_lowerImage {c : Char} (halphanumeric : isAlphanumeric c)
    (h : c.toNat < 128 ∨ c = kelvin) :
    ∃ d, lowerImage c = [d] ∧ d.isAlphanum ∧ (d.isAlpha ↔ c.isDigit = false) := by
  rcases h with hascii | rfl
  · rw [isAlphanumeric_of_ascii hascii] at halphanumeric
    obtain ⟨halphanum, halpha⟩ := isAlphanum_toLower hascii
    refine ⟨c.toLower, lowerImage_of_ascii hascii, halphanum.trans halphanumeric, ?_⟩
    rw [halpha]
    revert halphanumeric
    exact forall_ascii (p := fun c => c.isAlphanum → (c.isAlpha ↔ c.isDigit = false))
      (by decide +kernel) hascii
  · exact ⟨'k', lowerImage_kelvin, by decide, by decide⟩

/-- A word in lower case begins with the lower case of its first letter. -/
theorem head?_lowerWord {c d : Char} (h : lowerImage c = [d]) (hd : d.isAlphanum)
    (rest : List Char) : (lowerWord (c :: rest)).head? = some d := by
  cases rest with
  | nil =>
    have hsigma : c ≠ 'Σ' := by
      rintro rfl
      have himage : lowerImage 'Σ' = ['σ'] := by decide +kernel
      rw [himage] at h
      cases h
      exact absurd hd (by decide)
    rw [lowerWord, if_neg (by simpa using hsigma), h]
    rfl
  | cons e rest =>
    rw [lowerWord, h]
    · rfl
    · simp

/-- A character is in a word exactly if it is a letter or a number of the name. -/
theorem exists_mem_words_iff {name : List Char} {c : Char} :
    (∃ word ∈ words name, c ∈ word) ↔ c ∈ name ∧ isAlphanumeric c := by
  rw [← List.mem_flatten, flatten_words, List.mem_filter]

/-- The first letter or number of a name begins its first word. -/
theorem find?_isAlphanumeric (name : List Char) :
    name.find? isAlphanumeric = (words name).head?.bind List.head? := by
  rw [← List.head?_filter, ← flatten_words]
  cases hwords : words name with
  | nil => rfl
  | cons word rest =>
    have hne : word ≠ [] := ne_nil_of_mem_words (hwords ▸ List.mem_cons_self)
    rw [List.flatten_cons, List.head?_append_of_ne_nil _ hne]
    rfl

/-! ### Names in snake case -/

theorem toList_snakeCase (name : String) :
    (snakeCase name).toList = ['_'].intercalate ((words name.toList).map lowerWord) :=
  String.toList_ofList

/-- A property of the characters of a name in snake case. -/
theorem forall_mem_snakeCase {p : Char → Prop} (hsigma : p 'ς' ↔ p 'σ') (hmark : p '_')
    {name : String} :
    (∀ d ∈ (snakeCase name).toList, p d) ↔
      ∀ c ∈ name.toList, isAlphanumeric c → ∀ d ∈ lowerImage c, p d := by
  have hwords : (∀ d ∈ (snakeCase name).toList, p d) ↔
      ∀ word ∈ words name.toList, ∀ d ∈ lowerWord word, p d := by
    rw [toList_snakeCase]
    constructor
    · intro h word hword d hd
      exact h d (mem_intercalate (List.mem_map_of_mem hword) hd)
    · intro h d hd
      rcases mem_of_mem_intercalate hd with hd | ⟨row, hrow, hd⟩
      · obtain rfl := List.mem_singleton.1 hd
        exact hmark
      · obtain ⟨word, hword, rfl⟩ := List.mem_map.1 hrow
        exact h word hword d hd
  rw [hwords]
  constructor
  · intro h c hc halphanumeric
    obtain ⟨word, hword, hmem⟩ := exists_mem_words_iff.2 ⟨hc, halphanumeric⟩
    exact (forall_mem_lowerWord hsigma).1 (h word hword) c hmem
  · intro h word hword
    refine (forall_mem_lowerWord hsigma).2 fun c hmem => ?_
    obtain ⟨hc, halphanumeric⟩ := exists_mem_words_iff.1 ⟨word, hword, hmem⟩
    exact h c hc halphanumeric

/-- A name in snake case begins with the image of its first letter or number, if that is written in
ASCII. -/
theorem head?_snakeCase {name : String} {c d : Char}
    (hfirst : name.toList.find? isAlphanumeric = some c) (h : lowerImage c = [d])
    (hd : d.isAlphanum) : (snakeCase name).toList.head? = some d := by
  rw [find?_isAlphanumeric] at hfirst
  rw [toList_snakeCase]
  cases hwords : words name.toList with
  | nil =>
    rw [hwords] at hfirst
    cases hfirst
  | cons word rest =>
    rw [hwords] at hfirst
    obtain ⟨tail, rfl⟩ := List.head?_eq_some_iff.1 hfirst
    have hhead := head?_lowerWord h hd tail
    rw [List.map_cons, intercalate_cons, List.head?_append, hhead]
    rfl

/-- A name without letters and numbers is empty in snake case. -/
theorem snakeCase_of_find?_eq_none {name : String}
    (h : name.toList.find? isAlphanumeric = none) : (snakeCase name).toList = [] := by
  rw [find?_isAlphanumeric] at h
  rw [toList_snakeCase]
  cases hwords : words name.toList with
  | nil => rfl
  | cons word rest =>
    have hne : word ≠ [] := ne_nil_of_mem_words (hwords ▸ List.mem_cons_self)
    rw [hwords] at h
    exact absurd (List.head?_eq_none_iff.1 h) hne

end EntityQuery.Text
