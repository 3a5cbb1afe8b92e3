import EntityQuery.Proofs.Expr.Precedence

namespace EntityQuery

namespace Expr

/-! ### Connectives between operands -/

/-- The connectives that stand between two operands. -/
def Token.isConnective : Token → Bool
  | and => true
  | or => true
  | _ => false

/-- The tokens that an operand may begin with. -/
def Token.beginsOperand : Token → Bool
  | atom _ => true
  | openParen => true
  | not => true
  | _ => false

/-- The tokens that an operand may end with. -/
def Token.endsOperand : Token → Bool
  | atom _ => true
  | closeParen => true
  | _ => false

/-- Two tokens may stand one behind the other: behind a connective an operand begins, and in front
of one an operand has ended. -/
def Token.MayFollow (first second : Token) : Prop :=
  (first.isConnective → second.beginsOperand) ∧ (second.isConnective → first.endsOperand)

/-- A row without dangling or doubled connectives: it begins and ends as an operand does, and each
of its connectives stands between two operands. -/
structure Connected (row : List Token) : Prop where
  begins : ∃ token ∈ row.head?, token.beginsOperand
  ends : ∃ token ∈ row.getLast?, token.endsOperand
  follows : row.IsChain Token.MayFollow

theorem Token.not_isConnective_of_beginsOperand {token : Token} (h : token.beginsOperand) :
    token.isConnective = false := by
  cases token with
  | and => cases h
  | or => cases h
  | _ => rfl

theorem Token.not_isConnective_of_endsOperand {token : Token} (h : token.endsOperand) :
    token.isConnective = false := by
  cases token with
  | and => cases h
  | or => cases h
  | _ => rfl

/-- Only connectives are bound to what stands on their sides. -/
theorem Token.mayFollow_of_not_isConnective {first second : Token}
    (hfirst : first.isConnective = false) (hsecond : second.isConnective = false) :
    first.MayFollow second :=
  ⟨fun h => by simp [hfirst] at h, fun h => by simp [hsecond] at h⟩

/-- A row without connectives has none that lacks an operand. -/
theorem connected_atom (a : Atom) : Connected [.atom a] :=
  ⟨⟨.atom a, rfl, rfl⟩, ⟨.atom a, rfl, rfl⟩, List.isChain_singleton _⟩

/-- A parenthesis or a negation may stand in front of an operand. -/
theorem Connected.cons {row : List Token} {token : Token} (h : Connected row)
    (htoken : token.beginsOperand) : Connected (token :: row) where
  begins := ⟨token, rfl, htoken⟩
  ends := by
    obtain ⟨last, hlast, hends⟩ := h.ends
    refine ⟨last, ?_, hends⟩
    rw [List.getLast?_cons, Option.mem_def.1 hlast]
    rfl
  follows := by
    obtain ⟨first, hfirst, hbegins⟩ := h.begins
    refine List.isChain_cons.2 ⟨fun next hnext => ?_, h.follows⟩
    obtain rfl : first = next := Option.some.inj (hfirst.symm.trans hnext)
    exact Token.mayFollow_of_not_isConnective (Token.not_isConnective_of_beginsOperand htoken)
      (Token.not_isConnective_of_beginsOperand hbegins)

/-- Parentheses keep a row connected, since a row begins and ends with an operand. -/
theorem Connected.enclose {row : List Token} (h : Connected row) : Connected (enclose row) := by
  have hclosed : Connected (row ++ [.closeParen]) := by
    refine ⟨?_, ⟨.closeParen, by simp, rfl⟩, ?_⟩
    · obtain ⟨first, hfirst, hbegins⟩ := h.begins
      refine ⟨first, ?_, hbegins⟩
      rw [List.head?_append, Option.mem_def.1 hfirst]
      rfl
    · obtain ⟨last, hlast, hends⟩ := h.ends
      refine List.isChain_append.2 ⟨h.follows, List.isChain_singleton _, ?_⟩
      rintro x hx y ⟨⟩
      obtain rfl : last = x := Option.some.inj (hlast.symm.trans hx)
      exact Token.mayFollow_of_not_isConnective (Token.not_isConnective_of_endsOperand hends) rfl
  exact hclosed.cons rfl

/-- A connective may stand between two operands. -/
theorem Connected.join {left right : List Token} {sep : Token} (hleft : Connected left)
    (hright : Connected right) : Connected (left ++ sep :: right) where
  begins := by
    obtain ⟨first, hfirst, hbegins⟩ := hleft.begins
    refine ⟨first, ?_, hbegins⟩
    rw [List.head?_append, Option.mem_def.1 hfirst]
    rfl
  ends := by
    obtain ⟨last, hlast, hends⟩ := hright.ends
    refine ⟨last, ?_, hends⟩
    rw [List.getLast?_append, List.getLast?_cons, Option.mem_def.1 hlast]
    rfl
  follows := by
    obtain ⟨last, hlast, hends⟩ := hleft.ends
    obtain ⟨first, hfirst, hbegins⟩ := hright.begins
    have hbehind : (sep :: right).IsChain Token.MayFollow := by
      refine List.isChain_cons.2 ⟨fun next hnext => ?_, hright.follows⟩
      obtain rfl : first = next := Option.some.inj (hfirst.symm.trans hnext)
      refine ⟨fun _ => hbegins, fun hconnective => ?_⟩
      simp [Token.not_isConnective_of_beginsOperand hbegins] at hconnective
    refine List.isChain_append.2 ⟨hleft.follows, hbehind, ?_⟩
    rintro x hx y ⟨⟩
    obtain rfl : last = x := Option.some.inj (hlast.symm.trans hx)
    refine ⟨fun hconnective => ?_, fun _ => hends⟩
    simp [Token.not_isConnective_of_endsOperand hends] at hconnective

/-- What is read as a condition has no dangling or doubled connectives. -/
theorem Reads.connected {level : Level} {row : List Token} {c : Condition}
    (h : Reads level row c) : Connected row := by
  induction h with
  | atom a => exact connected_atom a
  | enclose _ ih => exact ih.enclose
  | not _ ih => exact ih.cons rfl
  | ofNegation _ ih => exact ih
  | and _ _ ihleft ihright => exact ihleft.join ihright
  | ofConjunction _ ih => exact ih
  | or _ _ ihleft ihright => exact ihleft.join ihright

/-! ### The text of a group -/

/-- The texts of a group's parts, for the parts that have a text. -/
def partTexts (items : List Expr) : List String :=
  (items.filter fun item => item.toText ≠ "").map partText

/-- The parts that contain a condition are those that have a text. -/
theorem conditionTexts_eq_partTexts (items : List Expr) :
    conditionTexts items = partTexts items := by
  have hsame : ∀ item ∈ items, (!item.isEmpty) = decide (item.toText ≠ "") := by
    intro item _
    rw [decide_not, Bool.not_inj_iff, Bool.eq_iff_iff, decide_eq_true_iff, isEmpty_iff_toText]
  rw [conditionTexts_eq_map, List.filter_congr hsame]
  rfl

/-- A part that has a text shows something, with or without parentheses. -/
theorem isVisible_partText {item : Expr} (h : item.toText ≠ "") : Text.IsVisible item.partText := by
  rw [partText]
  split
  · exact ⟨'(', by simp, by decide⟩
  · exact isVisible_toText (Bool.eq_false_iff.2 (mt (isEmpty_iff_toText item).1 h))

/-- A group's text consists of the texts of its parts, none of which is blank, with the connective
between them and nowhere else. -/
structure JoinsParts (connective : String) (items : List Expr) (text : String) : Prop where
  text_eq : text = connective.intercalate (partTexts items)
  visible : ∀ part ∈ partTexts items, Text.IsVisible part

/-- Every part of the text of a group shows something. -/
theorem isVisible_of_mem_partTexts {items : List Expr} {part : String}
    (h : part ∈ partTexts items) : Text.IsVisible part := by
  obtain ⟨item, hitem, rfl⟩ := List.mem_map.1 h
  exact isVisible_partText (by simpa using (List.mem_filter.1 hitem).2)

/-- The text of a conjunction is made of the texts of those of its parts that have one, and nothing
else. -/
theorem joinsParts_and (items : List Expr) : JoinsParts " AND " items (and items).toText where
  text_eq := by rw [toText, conditionTexts_eq_partTexts]
  visible _ := isVisible_of_mem_partTexts

theorem joinsParts_or (items : List Expr) : JoinsParts " OR " items (or items).toText where
  text_eq := by rw [toText, conditionTexts_eq_partTexts]
  visible _ := isVisible_of_mem_partTexts

end Expr

end EntityQuery
