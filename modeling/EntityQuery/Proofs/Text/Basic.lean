import EntityQuery.Text.Basic

namespace EntityQuery.Text

variable {c : Char} {cs ds : List Char} {n : Int}

/-! ### ASCII letters and digits -/

theorem isAlpha_iff : c.isAlpha ↔ ('A' ≤ c ∧ c ≤ 'Z') ∨ ('a' ≤ c ∧ c ≤ 'z') := by
  have hranges : c.isAlpha =
      (decide ('A' ≤ c ∧ c ≤ 'Z') || (decide ('a' ≤ c) && decide (c ≤ 'z'))) := rfl
  rw [hranges]
  simp only [Bool.or_eq_true, Bool.and_eq_true, decide_eq_true_eq]

theorem isDigit_iff : c.isDigit ↔ '0' ≤ c ∧ c ≤ '9' := by
  have hrange : c.isDigit = (decide ('0' ≤ c) && decide (c ≤ '9')) := rfl
  rw [hrange]
  simp only [Bool.and_eq_true, decide_eq_true_eq]

theorem isAlphanum_iff :
    c.isAlphanum ↔ (('A' ≤ c ∧ c ≤ 'Z') ∨ ('a' ≤ c ∧ c ≤ 'z')) ∨ '0' ≤ c ∧ c ≤ '9' := by
  rw [Char.isAlphanum, Bool.or_eq_true, isAlpha_iff, isDigit_iff]

theorem toNat_lt_of_isAlphanum (h : c.isAlphanum) : c.toNat < 128 := by
  have hbound {last : Char} (hlast : last.toNat < 128) (hle : c ≤ last) : c.toNat < 128 :=
    Nat.lt_of_le_of_lt (UInt32.le_iff_toNat_le.1 hle) hlast
  rcases isAlphanum_iff.1 h with (⟨-, hle⟩ | ⟨-, hle⟩) | ⟨-, hle⟩
  · exact hbound (by decide) hle
  · exact hbound (by decide) hle
  · exact hbound (by decide) hle

/-- What holds of each of the ASCII characters. -/
theorem forall_ascii {p : Char → Prop} (h : ∀ n < 128, p (Char.ofNat n)) (hc : c.toNat < 128) :
    p c :=
  Char.ofNat_toNat c ▸ h c.toNat hc

/-! ### Numerals -/

/-- At least one decimal digit, and nothing else. -/
def IsDigits (cs : List Char) : Prop :=
  cs ≠ [] ∧ ∀ c ∈ cs, c.isDigit

instance : Decidable (IsDigits cs) :=
  decidable_of_iff (cs ≠ [] ∧ cs.all Char.isDigit) (and_congr_right' List.all_eq_true)

/-- A numeral and the integer that it denotes. -/
inductive IsNumeral : List Char → Int → Prop
  | plain {digits : List Char} (hdigits : IsDigits digits) :
      IsNumeral digits (Nat.ofDigitChars 10 digits 0)
  | plus {digits : List Char} (hdigits : IsDigits digits) :
      IsNumeral ('+' :: digits) (Nat.ofDigitChars 10 digits 0)
  | minus {digits : List Char} (hdigits : IsDigits digits) :
      IsNumeral ('-' :: digits) (-(Nat.ofDigitChars 10 digits 0 : Nat))

theorem digitsValue_eq_ofDigitChars (cs : List Char) :
    digitsValue cs = Nat.ofDigitChars 10 cs 0 :=
  rfl

/-- Digits are read as the number that they denote. -/
theorem IsDigits.digits? (h : IsDigits cs) : digits? cs = some (Nat.ofDigitChars 10 cs 0) := by
  have hempty : cs.isEmpty = false := List.isEmpty_eq_false_iff.2 h.1
  have hall : cs.all Char.isDigit := List.all_eq_true.2 h.2
  rw [Text.digits?, hempty, hall]
  rfl

/-- Digits do not begin with a sign. -/
theorem IsDigits.ne_sign_cons (h : IsDigits cs) {sign : Char} (hsign : sign.isDigit = false)
    (rest : List Char) : cs ≠ sign :: rest := by
  rintro rfl
  have hdigit := h.2 sign List.mem_cons_self
  rw [hsign] at hdigit
  cases hdigit

/-- Every numeral is read, with either sign or without one, as the integer that it denotes. -/
theorem integer?_of_isNumeral (h : IsNumeral cs n) : integer? cs = some n := by
  cases h with
  | plain hdigits =>
    rw [integer?, natural?, hdigits.digits?]
    · rfl
    · exact fun rest => hdigits.ne_sign_cons rfl rest
    · exact fun rest => hdigits.ne_sign_cons rfl rest
  | plus hdigits =>
    rw [integer?, natural?, hdigits.digits?]
    · rfl
    · exact fun rest hsame => absurd (List.cons.inj hsame).1 (by decide)
  | minus hdigits =>
    rw [integer?, hdigits.digits?]
    rfl

/-! ### Trimmed texts -/

/-- A text whose first and last characters are no blanks. -/
def IsTrimmed (cs : List Char) : Prop :=
  (∃ c ∈ cs.head?, isBlank c = false) ∧ ∃ c ∈ cs.getLast?, isBlank c = false

/-- Two such texts stay one with anything between them. -/
theorem IsTrimmed.append (hfirst : IsTrimmed cs) (between : Char) (hlast : IsTrimmed ds) :
    IsTrimmed (cs ++ between :: ds) := by
  obtain ⟨⟨c, hc, hblank⟩, -⟩ := hfirst
  obtain ⟨-, d, hd, hnoBlank⟩ := hlast
  refine ⟨⟨c, ?_, hblank⟩, d, ?_, hnoBlank⟩
  · rw [List.head?_append, Option.mem_def.1 hc]
    rfl
  · rw [List.getLast?_append, List.getLast?_cons, Option.mem_def.1 hd]
    rfl

theorem IsTrimmed.cons {c : Char} (hc : isBlank c = false) (h : IsTrimmed cs) :
    IsTrimmed (c :: cs) := by
  obtain ⟨-, d, hd, hlast⟩ := h
  refine ⟨⟨c, rfl, hc⟩, d, ?_, hlast⟩
  rw [List.getLast?_cons, Option.mem_def.1 hd]
  rfl

theorem IsTrimmed.ne_nil (h : IsTrimmed cs) : cs ≠ [] := by
  rintro rfl
  obtain ⟨⟨c, hc, -⟩, -⟩ := h
  cases hc

theorem isBlank_of_isDigit {c : Char} (h : c.isDigit) : isBlank c = false := by
  have hascii : c.toNat < 128 := toNat_lt_of_isAlphanum (by simp [Char.isAlphanum, h])
  exact forall_ascii (p := fun c => c.isDigit → isBlank c = false) (by decide) hascii h

/-- Digits have no blanks around them, since no digit is a blank. -/
theorem IsDigits.isTrimmed (h : IsDigits cs) : IsTrimmed cs := by
  refine ⟨⟨cs.head h.1, List.head?_eq_some_head h.1, ?_⟩, cs.getLast h.1,
    List.getLast?_eq_some_getLast h.1, ?_⟩
  · exact isBlank_of_isDigit (h.2 _ (List.head_mem h.1))
  · exact isBlank_of_isDigit (h.2 _ (List.getLast_mem h.1))

/-! ### Texts that are not blank -/

/-- A text that shows something: not all of its characters are blanks. -/
def IsVisible (s : String) : Prop :=
  ∃ c ∈ s.toList, isBlank c = false

theorem IsVisible.ne_empty {s : String} (h : IsVisible s) : s ≠ "" := by
  rintro rfl
  obtain ⟨c, hc, -⟩ := h
  cases hc

/-- What trimming leaves of a text, if anything, is visible. -/
theorem isVisible_trimmed {s : String} (h : trimmed s ≠ "") : IsVisible (trimmed s) := by
  have hrest : (trimStart s.toList).reverse.dropWhile isBlank ≠ [] := by
    intro hnil
    apply h
    rw [trimmed, trimEnd, hnil]
    rfl
  refine ⟨((trimStart s.toList).reverse.dropWhile isBlank).head hrest, ?_,
    List.head_dropWhile_not isBlank hrest⟩
  rw [trimmed, trimEnd, String.toList_ofList, List.mem_reverse]
  exact List.head_mem hrest

end EntityQuery.Text
