import EntityQuery.Text.Letters.Case

namespace EntityQuery.Text

open Letters

/-- Letters and numbers of every script. -/
def isAlphanumeric (c : Char) : Bool :=
  if c.toNat < 128 then c.isAlphanum else alphanumericRuns.any (·.covers c.toNat)

/-- Lower-case letters of every script. -/
def isLower (c : Char) : Bool :=
  if c.toNat < 128 then c.isLower else lowerRuns.any (·.covers c.toNat)

/-- Upper-case letters of every script. -/
def isUpper (c : Char) : Bool :=
  if c.toNat < 128 then c.isUpper else upperRuns.any (·.covers c.toNat)

/-- The image of a code point that the tables move: a special image first, then a block move. ASCII
is answered before the tables are asked, so a fact about ASCII text never has to look into one. -/
private def imageOf (specials : List (Nat × List Nat)) (shifts : List Shift) (c : Char) :
    List Char :=
  match specials.lookup c.toNat with
  | some image => image.map Char.ofNat
  | none =>
    match shifts.findSome? (·.image? c.toNat) with
    | some n => [Char.ofNat n]
    | none => [c]

/-- The lower-case image of a character, which may be several characters long. -/
def lowerImage (c : Char) : List Char :=
  if c.toNat < 128 then [c.toLower] else imageOf lowerSpecials lowerShifts c

/-- The upper-case image of a character, which may be several characters long. -/
def upperImage (c : Char) : List Char :=
  if c.toNat < 128 then [c.toUpper] else imageOf upperSpecials upperShifts c

theorem isAlphanumeric_of_ascii {c : Char} (h : c.toNat < 128) :
    isAlphanumeric c = c.isAlphanum := by
  simp [isAlphanumeric, h]

theorem lowerImage_of_ascii {c : Char} (h : c.toNat < 128) : lowerImage c = [c.toLower] := by
  simp [lowerImage, h]

/-- The cases in which a table gives the lower-case image of a character beyond ASCII. -/
theorem lowerImage_cases {c : Char} (h : 128 ≤ c.toNat) :
    (∃ image, lowerSpecials.lookup c.toNat = some image ∧ lowerImage c = image.map Char.ofNat) ∨
      (∃ shift ∈ lowerShifts, ∃ n, shift.image? c.toNat = some n ∧
        lowerImage c = [Char.ofNat n]) ∨
      lowerImage c = [c] := by
  have hascii : ¬ c.toNat < 128 := Nat.not_lt.2 h
  rw [lowerImage, if_neg hascii, imageOf]
  split
  · rename_i image himage
    exact Or.inl ⟨image, himage, rfl⟩
  · split
    · rename_i n hn
      obtain ⟨shift, hshift, himage⟩ := List.exists_of_findSome?_eq_some hn
      exact Or.inr (Or.inl ⟨shift, hshift, n, himage, rfl⟩)
    · exact Or.inr (Or.inr rfl)

end EntityQuery.Text
