import EntityQuery.Proofs.Sql.Reading

namespace EntityQuery.Sql

/-- A placeholder between `before` and `after` is the only thing in parentheses behind the word
`IN`, in any case and with any blanks. -/
def SoleListItem (before after : List Char) : Prop :=
  ∃ lead i n blanks inner outer rest,
    before = lead ++ i :: n :: (blanks ++ '(' :: inner) ∧ after = outer ++ ')' :: rest ∧
    (i = 'I' ∨ i = 'i') ∧ (n = 'N' ∨ n = 'n') ∧ StopsWord lead.reverse ∧
    (∀ c ∈ blanks, Text.isAsciiBlank c) ∧ (∀ c ∈ inner, Text.isAsciiBlank c) ∧
    ∀ c ∈ outer, Text.isAsciiBlank c

/-- The characters whose lower case is a given letter are the letter in both cases. -/
private theorem toLower_eq_iff {lower upper c : Char} (hval : lower.val - 32 = upper.val)
    (hupper : upper.toLower = lower) (hlower : lower.toLower = lower) :
    c.toLower = lower ↔ c = upper ∨ c = lower := by
  constructor
  · intro h
    by_cases hc : c.val ≥ 'A'.val ∧ c.val ≤ 'Z'.val
    · have hshifted : c.toLower.val = c.val + 32 := congrArg Char.val (dif_pos hc)
      left
      apply Char.ext
      rw [← hval, ← h, hshifted]
      exact (UInt32.add_sub_cancel c.val 32).symm
    · have hsame : c.toLower = c := dif_neg hc
      exact Or.inr (hsame.symm.trans h)
  · rintro (rfl | rfl)
    · exact hupper
    · exact hlower

/-- Blanks in front of another character are dropped up to that one. -/
theorem dropWhile_blanks {blanks rest : List Char} {c : Char}
    (hblanks : ∀ d ∈ blanks, Text.isAsciiBlank d) (hc : Text.isAsciiBlank c = false) :
    (blanks ++ c :: rest).dropWhile Text.isAsciiBlank = c :: rest := by
  rw [List.dropWhile_append_of_pos hblanks, List.dropWhile_cons_of_neg (by simp [hc])]

/-- What is dropped are blanks in front of the rest. -/
theorem exists_blanks {cs rest : List Char} (h : cs.dropWhile Text.isAsciiBlank = rest) :
    ∃ blanks, cs = blanks ++ rest ∧ ∀ c ∈ blanks, Text.isAsciiBlank c := by
  refine ⟨cs.takeWhile Text.isAsciiBlank, ?_, fun c hc => ?_⟩
  · rw [← h, List.takeWhile_append_dropWhile]
  · have hall : (cs.takeWhile Text.isAsciiBlank).all Text.isAsciiBlank = true := List.all_takeWhile
    exact List.all_eq_true.1 hall c hc

/-- What the search from the end of the text in front of a placeholder looks for. -/
theorem isListItem_iff {before after : List Char} :
    isListItem before after ↔ ∃ inner blanks n i lead outer rest,
      before = inner ++ '(' :: (blanks ++ n :: i :: lead) ∧ after = outer ++ ')' :: rest ∧
      (i = 'I' ∨ i = 'i') ∧ (n = 'N' ∨ n = 'n') ∧ StopsWord lead ∧
      (∀ c ∈ blanks, Text.isAsciiBlank c) ∧ (∀ c ∈ inner, Text.isAsciiBlank c) ∧
      ∀ c ∈ outer, Text.isAsciiBlank c := by
  have hn {c : Char} : c.toLower = 'n' ↔ c = 'N' ∨ c = 'n' :=
    toLower_eq_iff (by decide) (by decide) (by decide)
  have hi {c : Char} : c.toLower = 'i' ↔ c = 'I' ∨ c = 'i' :=
    toLower_eq_iff (by decide) (by decide) (by decide)
  have hstop {lead : List Char} : (!lead.head?.any isWordChar) = true ↔ StopsWord lead := by
    cases lead with
    | nil => simp [StopsWord]
    | cons c rest => simp [StopsWord]
  constructor
  · intro h
    rw [isListItem] at h
    split at h
    · rename_i hopen hclose
      obtain ⟨inner, hbefore, hinner⟩ := exists_blanks hopen
      obtain ⟨outer, hafter, houter⟩ := exists_blanks hclose
      split at h
      · rename_i n i lead hword
        obtain ⟨blanks, hblanks, hall⟩ := exists_blanks hword
        simp only [Bool.and_eq_true, beq_iff_eq] at h
        obtain ⟨⟨hn', hi'⟩, hlead⟩ := h
        exact ⟨inner, blanks, n, i, lead, outer, _, by rw [hbefore, hblanks], hafter, hi.1 hi',
          hn.1 hn', hstop.1 hlead, hall, hinner, houter⟩
      · cases h
    · cases h
  · rintro ⟨inner, blanks, n, i, lead, outer, rest, rfl, rfl, hi', hn', hlead, hblanks, hinner,
      houter⟩
    have hnblank : Text.isAsciiBlank n = false := by
      rcases hn' with rfl | rfl <;> decide
    -- No blank can be taken for a part of the text behind it: a parenthesis and a letter are none.
    rw [isListItem, dropWhile_blanks hinner (by decide), dropWhile_blanks houter (by decide)]
    simp only [dropWhile_blanks hblanks hnblank]
    simp only [hn.2 hn', hi.2 hi', beq_self_eq_true, hstop.2 hlead, Bool.and_self]

/-- The search from the end of the text in front finds the word `IN` and the parentheses exactly
where they stand as written. -/
theorem isListItem_reverse_iff {before after : List Char} :
    isListItem before.reverse after ↔ SoleListItem before after := by
  rw [isListItem_iff]
  constructor
  · rintro ⟨inner, blanks, n, i, lead, outer, rest, hbefore, hafter, hi, hn, hlead, hblanks, hinner,
      houter⟩
    refine ⟨lead.reverse, i, n, blanks.reverse, inner.reverse, outer, rest, ?_, hafter, hi, hn,
      by rwa [List.reverse_reverse], by simpa using hblanks, by simpa using hinner, houter⟩
    rw [← List.reverse_reverse before, hbefore]
    simp
  · rintro ⟨lead, i, n, blanks, inner, outer, rest, rfl, hafter, hi, hn, hlead, hblanks, hinner,
      houter⟩
    exact ⟨inner.reverse, blanks.reverse, n, i, lead.reverse, outer, rest, by simp, hafter, hi, hn,
      hlead, by simpa using hblanks, by simpa using hinner, houter⟩

instance (before after : List Char) : Decidable (SoleListItem before after) :=
  decidable_of_iff (isListItem before.reverse after = true) isListItem_reverse_iff

/-- A placeholder's segment says of its context what the text around it shows. -/
theorem placeholder_inList_iff {qualifier text name : List Char} {earlier later : List Segment}
    {inList : Bool}
    (h : segmentsFrom qualifier [] text = earlier ++ .placeholder name inList :: later) :
    inList ↔ SoleListItem (earlier.flatMap (Segment.source qualifier))
      (later.flatMap (Segment.source qualifier)) := by
  have hall := readsAll_segmentsFrom qualifier [] text
  rw [h] at hall
  obtain ⟨rest, after, hreads, hafter⟩ := hall.split
  rw [← hafter, ← isListItem_reverse_iff]
  cases hreads with
  | placeholder hfirst hname hstop => simp

end EntityQuery.Sql
