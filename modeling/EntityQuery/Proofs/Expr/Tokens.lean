import EntityQuery.Expr.Text
import EntityQuery.Proofs.Rows
import EntityQuery.Proofs.Text.Basic

namespace EntityQuery

/-- Induction on predicates, with a hypothesis for every part of a group. -/
@[elab_as_elim]
theorem Expr.inductionOn {motive : Expr → Prop} (e : Expr) (atom : ∀ a, motive (.atom a))
    (and : ∀ items, (∀ item ∈ items, motive item) → motive (.and items))
    (or : ∀ items, (∀ item ∈ items, motive item) → motive (.or items))
    (not : ∀ inner, motive inner → motive (.not inner))
    (nested : ∀ inner, motive inner → motive (.nested inner)) : motive e := by
  refine Expr.rec (motive_1 := motive) (motive_2 := fun items => ∀ item ∈ items, motive item)
    atom and or not nested ?_ ?_ e
  · intro item hitem
    cases hitem
  · intro item rest hitem hrest
    exact List.forall_mem_cons.2 ⟨hitem, hrest⟩

namespace Expr

/-- A token of a written predicate. -/
inductive Token
  | atom (a : Atom)
  | openParen
  | closeParen
  | not
  | and
  | or
deriving DecidableEq, Repr

/-- The text of a token, with the blanks around a connective. -/
def Token.toText : Token → String
  | atom a => a.toText
  | openParen => "("
  | closeParen => ")"
  | not => "NOT "
  | and => " AND "
  | or => " OR "

/-- A row of tokens in parentheses. -/
def enclose (tokens : List Token) : List Token :=
  .openParen :: tokens ++ [.closeParen]

/-- The tokens of one part of a group. -/
def partTokens (item : Expr) (tokens : List Token) : List Token :=
  if item.needsParens then enclose tokens else tokens

mutual

/-- The tokens of a written predicate, whose texts stand one behind the other. -/
def tokens : Expr → List Token
  | .atom a => if a.isEmpty then [] else [.atom a]
  | .and items => [.and].intercalate (parts items)
  | .or items => [.or].intercalate (parts items)
  | .not inner => if isEmpty inner then [] else .not :: enclose (tokens inner)
  | .nested inner => if isEmpty inner then [] else enclose (tokens inner)

/-- The token rows of the parts of a group that contain a condition. -/
def parts : List Expr → List (List Token)
  | [] => []
  | item :: rest =>
    if isEmpty item then parts rest else partTokens item (tokens item) :: parts rest

end

/-- The tokens of a group's parts, for the parts that contain a condition. -/
theorem parts_eq_map (items : List Expr) :
    parts items =
      (items.filter fun item => !item.isEmpty).map fun item => partTokens item (tokens item) := by
  induction items with
  | nil => rfl
  | cons item rest ih =>
    rw [parts]
    split
    · rename_i hempty
      rw [ih, List.filter_cons_of_neg (by simp [hempty])]
    · rename_i hempty
      rw [ih, List.filter_cons_of_pos (by simpa using hempty), List.map_cons]

/-- The rows of a group are those of its parts that contain a condition. -/
theorem mem_parts_iff {items : List Expr} {row : List Token} :
    row ∈ parts items ↔
      ∃ item ∈ items, item.isEmpty = false ∧ partTokens item (tokens item) = row := by
  simp [parts_eq_map, and_assoc]

theorem exists_not_isEmpty_of_allEmpty {items : List Expr} (h : allEmpty items = false) :
    ∃ item ∈ items, item.isEmpty = false := by
  rw [allEmpty_eq_all, List.all_eq_false] at h
  simpa using h

theorem partTokens_ne_nil {item : Expr} {row : List Token} (h : row ≠ []) :
    partTokens item row ≠ [] := by
  rw [partTokens]
  split
  · simp [enclose]
  · exact h

/-- A group with a part that contains a condition has tokens when that part has. -/
theorem intercalate_parts_ne_nil {sep : List Token} {items : List Expr}
    (h : allEmpty items = false)
    (hitems : ∀ item ∈ items, item.isEmpty = false → tokens item ≠ []) :
    sep.intercalate (parts items) ≠ [] := by
  obtain ⟨item, hitem, hempty⟩ := exists_not_isEmpty_of_allEmpty h
  exact intercalate_ne_nil (mem_parts_iff.2 ⟨item, hitem, hempty, rfl⟩)
    (partTokens_ne_nil (hitems item hitem hempty))

/-- A predicate with a condition has tokens. -/
theorem tokens_ne_nil {e : Expr} (h : e.isEmpty = false) : tokens e ≠ [] := by
  induction e using Expr.inductionOn with
  | atom a =>
    rw [isEmpty] at h
    simp [tokens, h]
  | and items ih =>
    rw [isEmpty] at h
    rw [tokens]
    exact intercalate_parts_ne_nil h ih
  | or items ih =>
    rw [isEmpty] at h
    rw [tokens]
    exact intercalate_parts_ne_nil h ih
  | not inner ih =>
    rw [isEmpty] at h
    simp [tokens, h]
  | nested inner ih =>
    rw [isEmpty] at h
    simp [tokens, h, enclose]

theorem parts_eq_nil_of_allEmpty {items : List Expr} (h : allEmpty items) : parts items = [] := by
  rw [allEmpty_eq_all, List.all_eq_true] at h
  rw [parts_eq_map, List.filter_eq_nil_iff.2 fun item hitem => by simp [h item hitem]]
  rfl

/-- A predicate without a condition has none. -/
theorem tokens_eq_nil_of_isEmpty {e : Expr} (h : e.isEmpty) : tokens e = [] := by
  cases e with
  | atom a =>
    rw [isEmpty] at h
    simp [tokens, h]
  | and items =>
    rw [isEmpty] at h
    rw [tokens, parts_eq_nil_of_allEmpty h]
    rfl
  | or items =>
    rw [isEmpty] at h
    rw [tokens, parts_eq_nil_of_allEmpty h]
    rfl
  | not inner =>
    rw [isEmpty] at h
    simp [tokens, h]
  | nested inner =>
    rw [isEmpty] at h
    simp [tokens, h]

/-- A part that contains no condition adds nothing to what is collected over a group. -/
theorem flatMap_filter_of_isEmpty {β : Type} {f : Expr → List β}
    (h : ∀ item, item.isEmpty → f item = []) (items : List Expr) :
    (items.filter fun item => !item.isEmpty).flatMap f = items.flatMap f := by
  induction items with
  | nil => rfl
  | cons item rest ih =>
    by_cases hempty : item.isEmpty
    · rw [List.filter_cons_of_neg (by simp [hempty]), ih, List.flatMap_cons, h item hempty]
      rfl
    · rw [List.filter_cons_of_pos (by simpa using hempty), List.flatMap_cons, List.flatMap_cons, ih]

/-! ### The written form -/

theorem atom_mem_partTokens {item : Expr} {row : List Token} {a : Atom} :
    .atom a ∈ partTokens item row ↔ .atom a ∈ row := by
  rw [partTokens]
  split
  · simp [enclose]
  · rfl

/-- An atom in the row of a group stems from one of its parts, unless it is the connective. -/
theorem atom_mem_intercalate_parts {sep : List Token} {items : List Expr} {a : Atom}
    (hsep : .atom a ∉ sep) (h : .atom a ∈ sep.intercalate (parts items)) :
    ∃ item ∈ items, .atom a ∈ tokens item := by
  rcases mem_of_mem_intercalate h with hmem | ⟨row, hrow, hmem⟩
  · exact absurd hmem hsep
  · obtain ⟨item, hitem, -, rfl⟩ := mem_parts_iff.1 hrow
    exact ⟨item, hitem, atom_mem_partTokens.1 hmem⟩

/-- Only atoms that say something are written. -/
theorem not_isEmpty_of_atom_mem {e : Expr} {a : Atom} (h : .atom a ∈ tokens e) :
    a.isEmpty = false := by
  induction e using Expr.inductionOn with
  | atom b =>
    rw [tokens] at h
    split at h
    · cases h
    · rename_i hempty
      obtain rfl : a = b := by simpa using h
      simpa using hempty
  | and items ih =>
    rw [tokens] at h
    obtain ⟨item, hitem, hmem⟩ := atom_mem_intercalate_parts (by simp) h
    exact ih item hitem hmem
  | or items ih =>
    rw [tokens] at h
    obtain ⟨item, hitem, hmem⟩ := atom_mem_intercalate_parts (by simp) h
    exact ih item hitem hmem
  | not inner ih =>
    rw [tokens] at h
    split at h
    · cases h
    · exact ih (by simpa [enclose] using h)
  | nested inner ih =>
    rw [tokens] at h
    split at h
    · cases h
    · exact ih (by simpa [enclose] using h)

/-- The text of a row of tokens. -/
def rowText (row : List Token) : List Char :=
  row.flatMap fun token => token.toText.toList

/-- The text of an atom that is not empty shows something. -/
theorem isVisible_atomText {a : Atom} (h : a.isEmpty = false) : Text.IsVisible a.toText := by
  cases a with
  | compare column op param => exact ⟨':', by simp [Atom.toText], by decide⟩
  | nullCheck column isNull => exact ⟨'N', by cases isNull <;> simp [Atom.toText], by decide⟩
  | inList column param negated => exact ⟨':', by simp [Atom.toText], by decide⟩
  | between column low high negated => exact ⟨':', by simp [Atom.toText], by decide⟩
  | raw text => exact Text.isVisible_trimmed (by simpa [Atom.isEmpty] using h)
  | always => exact ⟨'1', by simp [Atom.toText], by decide⟩
  | never => exact ⟨'1', by simp [Atom.toText], by decide⟩

/-- So does every token of a predicate. -/
theorem isVisible_tokenText {e : Expr} {token : Token} (h : token ∈ tokens e) :
    Text.IsVisible token.toText := by
  cases token with
  | atom a => exact isVisible_atomText (not_isEmpty_of_atom_mem h)
  | openParen => exact ⟨'(', by simp [Token.toText], by decide⟩
  | closeParen => exact ⟨')', by simp [Token.toText], by decide⟩
  | not => exact ⟨'N', by simp [Token.toText], by decide⟩
  | and => exact ⟨'A', by simp [Token.toText], by decide⟩
  | or => exact ⟨'O', by simp [Token.toText], by decide⟩

/-- A predicate that contains a condition has a token that shows something. -/
theorem exists_visible_rowText {e : Expr} (h : e.isEmpty = false) :
    ∃ c ∈ rowText (tokens e), Text.isBlank c = false := by
  obtain ⟨token, htoken⟩ := List.exists_mem_of_ne_nil _ (tokens_ne_nil h)
  obtain ⟨c, hc, hblank⟩ := isVisible_tokenText htoken
  exact ⟨c, List.mem_flatMap.2 ⟨token, htoken, hc⟩, hblank⟩

/-- A predicate has an empty row of texts exactly if it contains no condition. -/
theorem rowText_tokens_eq_nil_iff (e : Expr) : rowText (tokens e) = [] ↔ e.isEmpty := by
  constructor
  · intro hnil
    by_contra hfull
    obtain ⟨c, hc, -⟩ := exists_visible_rowText (e := e) (by simpa using hfull)
    simp [hnil] at hc
  · intro hempty
    rw [tokens_eq_nil_of_isEmpty hempty]
    rfl

/-- The text of a part of a group, which is written in parentheses when it needs them. -/
def partText (item : Expr) : String :=
  if item.needsParens then "(" ++ item.toText ++ ")" else item.toText

/-- The texts of a group are those of its parts that contain a condition. -/
theorem conditionTexts_eq_map (items : List Expr) :
    conditionTexts items = (items.filter fun item => !item.isEmpty).map partText := by
  induction items with
  | nil => rfl
  | cons item rest ih =>
    rw [conditionTexts]
    split
    · rename_i hempty
      rw [ih, List.filter_cons_of_neg (by simp [hempty])]
    · rename_i hempty
      rw [ih, List.filter_cons_of_pos (by simpa using hempty), List.map_cons]
      rfl

theorem toList_enclosed {text : String} {row : List Token} (h : text.toList = rowText row) :
    ("(" ++ text ++ ")").toList = rowText (enclose row) := by
  simp [rowText, enclose, Token.toText, h]

/-- A part gets its parentheses in its text exactly where it gets them in its row. -/
theorem toList_partText {item : Expr} (h : item.toText.toList = rowText (tokens item)) :
    (partText item).toList = rowText (partTokens item (tokens item)) := by
  rw [partTokens, partText]
  split
  · exact toList_enclosed h
  · exact h

/-- A group is written as the texts of its parts with the connective between them. -/
theorem toList_intercalate_conditionTexts (sep : Token) {items : List Expr}
    (h : ∀ item ∈ items, item.toText.toList = rowText (tokens item)) :
    (sep.toText.intercalate (conditionTexts items)).toList =
      rowText ([sep].intercalate (parts items)) := by
  have hparts : (conditionTexts items).map String.toList = (parts items).map rowText := by
    rw [conditionTexts_eq_map, parts_eq_map, List.map_map, List.map_map]
    refine List.map_congr_left fun item hitem => toList_partText (h item ?_)
    exact List.mem_of_mem_filter hitem
  rw [rowText, flatMap_intercalate, List.flatMap_singleton, String.toList_intercalate, hparts]
  rfl

/-- The text of a predicate is that of its tokens. The text is made from the texts of the parts and
leaves out a negation or parentheses whose text is empty; the tokens leave them out where the part
contains no condition, and the two come to the same since no condition is written as nothing. -/
theorem toList_toText (e : Expr) : e.toText.toList = rowText (tokens e) := by
  have hempty {inner : Expr} (ih : inner.toText.toList = rowText (tokens inner)) :
      inner.toText = "" ↔ inner.isEmpty := by
    rw [← rowText_tokens_eq_nil_iff, ← ih, String.toList_eq_nil_iff]
  induction e using Expr.inductionOn with
  | atom a =>
    rw [toText, tokens]
    split
    · rename_i hsays
      cases a with
      | raw text => simpa [Atom.isEmpty, Atom.toText, rowText] using hsays
      | _ => cases hsays
    · simp [rowText, Token.toText]
  | and items ih =>
    rw [toText, tokens]
    exact toList_intercalate_conditionTexts .and ih
  | or items ih =>
    rw [toText, tokens]
    exact toList_intercalate_conditionTexts .or ih
  | not inner ih =>
    rw [toText, tokens]
    simp only [hempty ih]
    split
    · rfl
    · have hsplit : "NOT (" ++ inner.toText ++ ")" = "NOT " ++ ("(" ++ inner.toText ++ ")") := by
        rw [← String.append_assoc, ← String.append_assoc]
        rfl
      rw [hsplit, String.toList_append, toList_enclosed ih]
      rfl
  | nested inner ih =>
    rw [toText, tokens]
    simp only [hempty ih]
    split
    · rename_i hnothing
      rw [(hempty ih).2 hnothing]
      rfl
    · exact toList_enclosed ih

/-- The text of a predicate is made of its tokens, although it is put together from the texts of its
parts. -/
theorem toText_eq_join (e : Expr) : e.toText = String.join (e.tokens.map Token.toText) := by
  rw [← String.toList_inj, toList_toText, String.toList_join, List.flatMap_map]
  rfl

theorem isVisible_toText {e : Expr} (h : e.isEmpty = false) : Text.IsVisible e.toText := by
  rw [Text.IsVisible, toList_toText]
  exact exists_visible_rowText h

theorem toText_ne_empty {e : Expr} (h : e.isEmpty = false) : e.toText ≠ "" :=
  (isVisible_toText h).ne_empty

/-- A predicate contains no condition exactly if nothing is written for it. -/
theorem isEmpty_iff_toText (e : Expr) : e.isEmpty ↔ e.toText = "" := by
  rw [← rowText_tokens_eq_nil_iff, ← toList_toText, String.toList_eq_nil_iff]

end Expr

end EntityQuery
