import EntityQuery.Proofs.Expr.Tokens
import EntityQuery.Proofs.Sql.Scan

namespace EntityQuery

open Sql

/-- The placeholders of an atom, each with whether it is the sole item of a list. -/
def Atom.slots : Atom → List (String × Bool)
  | compare _ _ param => [(param, false)]
  | inList _ param _ => [(param, true)]
  | between _ low high _ => [(low, false), (high, false)]
  | _ => []

/-- The atom compares a text without placeholders with placeholders that are words. An atom in the
words of its author is none of these. -/
def Atom.Scans (qualifier : List Char) : Atom → Prop
  | compare column _ param => Yields qualifier column.toList [] ∧ Text.isAsciiWord param
  | nullCheck column _ => Yields qualifier column.toList []
  | inList column param _ => Yields qualifier column.toList [] ∧ Text.isAsciiWord param
  | between column low high _ =>
    Yields qualifier column.toList [] ∧ Text.isAsciiWord low ∧ Text.isAsciiWord high
  | raw _ => False
  | always => True
  | never => True

namespace Expr

/-- The atom of a token, if it is one. -/
def Token.atoms : Token → List Atom
  | atom a => [a]
  | _ => []

/-- The atoms of a predicate that are written, from left to right. -/
def atoms (e : Expr) : List Atom :=
  (tokens e).flatMap Token.atoms

/-- The placeholders of a predicate, from left to right. -/
def slots (e : Expr) : List (String × Bool) :=
  e.atoms.flatMap Atom.slots

/-! ### Atoms of combined predicates -/

theorem flatMap_atoms_filter (items : List Expr) :
    (items.filter fun item => !item.isEmpty).flatMap atoms = items.flatMap atoms :=
  flatMap_filter_of_isEmpty (fun item h => by rw [atoms, tokens_eq_nil_of_isEmpty h]; rfl) items

theorem flatMap_atoms_enclose (row : List Token) :
    (enclose row).flatMap Token.atoms = row.flatMap Token.atoms := by
  simp [enclose, Token.atoms]

theorem flatMap_atoms_partTokens (item : Expr) (row : List Token) :
    (partTokens item row).flatMap Token.atoms = row.flatMap Token.atoms := by
  rw [partTokens]
  split
  · exact flatMap_atoms_enclose row
  · rfl

/-- The atoms of a group are those of its parts. -/
theorem flatMap_atoms_intercalate_parts {sep : Token} (hsep : sep.atoms = []) (items : List Expr) :
    ([sep].intercalate (parts items)).flatMap Token.atoms = items.flatMap atoms := by
  rw [flatMap_intercalate, List.flatMap_singleton, hsep, intercalate_nil, parts_eq_map,
    List.map_map, ← flatMap_atoms_filter items, List.flatMap_def]
  congr 2
  funext item
  exact flatMap_atoms_partTokens item _

@[simp] theorem atoms_and (items : List Expr) : (and items).atoms = items.flatMap atoms := by
  rw [atoms, tokens]
  exact flatMap_atoms_intercalate_parts rfl items

@[simp] theorem atoms_or (items : List Expr) : (or items).atoms = items.flatMap atoms := by
  rw [atoms, tokens]
  exact flatMap_atoms_intercalate_parts rfl items

@[simp] theorem atoms_nested (inner : Expr) : (nested inner).atoms = inner.atoms := by
  rw [atoms, tokens]
  split
  · rename_i hempty
    rw [atoms, tokens_eq_nil_of_isEmpty hempty]
  · exact flatMap_atoms_enclose _

@[simp] theorem atoms_not (inner : Expr) : (not inner).atoms = inner.atoms := by
  rw [atoms, tokens]
  split
  · rename_i hempty
    rw [atoms, tokens_eq_nil_of_isEmpty hempty]
  · exact flatMap_atoms_enclose _

/-- The conjunction that attaches a predicate keeps its atoms behind those that were there. -/
theorem atoms_andThen (first second : Expr) :
    (first.andThen second).atoms = first.atoms ++ second.atoms := by
  cases first with
  | and items => simp [andThen]
  | _ => simp [andThen]

theorem atoms_orElse (first second : Expr) :
    (first.orElse second).atoms = first.atoms ++ second.atoms := by
  cases first with
  | or items => simp [orElse]
  | _ => simp [orElse]

/-! ### The text of a predicate -/

variable {qualifier : List Char}

theorem isSeparator_and : IsSeparator Token.and.toText.toList :=
  ⟨by decide, by decide, by decide, by decide⟩

theorem isSeparator_or : IsSeparator Token.or.toText.toList :=
  ⟨by decide, by decide, by decide, by decide⟩

theorem isSeparator_open : IsSeparator "(".toList :=
  ⟨by decide, by decide, by decide, by decide⟩

theorem isSeparator_close : IsSeparator ")".toList :=
  ⟨by decide, by decide, by decide, by decide⟩

theorem stopsWord_empty : StopsWord "".toList := by
  simp [StopsWord]

/-- A text behind a column that has one placeholder, where the column itself has none. -/
theorem yields_behind_column {column name : String} (lead after : String) {inList : Bool}
    (hcolumn : Yields qualifier column.toList [])
    (hlead : (" " ++ lead).toList.all isInert) (hname : Text.isAsciiWord name)
    (hafter : after.toList.all isInert) (hstop : StopsWord after.toList)
    (hcontext : ∀ before rest, isListItem ((" " ++ lead).toList.reverse ++ before)
      (after.toList ++ rest) = inList) :
    Yields qualifier (column ++ (" " ++ lead ++ ":" ++ name ++ after)).toList [(name, inList)] := by
  have hrest := yields_placeholder qualifier hlead hname hafter hstop hcontext
  have hdetached : Detached column.toList (" " ++ lead ++ ":" ++ name ++ after).toList := by
    rw [String.append_assoc, String.append_assoc, String.append_assoc, String.toList_append]
    exact detached_cons (by decide) (by decide)
  rw [String.toList_append]
  exact hcolumn.append hrest hdetached

/-- What stands behind the column of a null check has no placeholder. -/
theorem yields_nullCheck {column : String} (isNull : Bool)
    (hcolumn : Yields qualifier column.toList []) :
    Yields qualifier (Atom.nullCheck column isNull).toText.toList [] := by
  have hinert : (if isNull then " IS NULL" else " IS NOT NULL").toList.all isInert := by
    cases isNull
    · decide
    · decide
  rw [Atom.toText, String.toList_append]
  refine hcolumn.append (yields_of_inert hinert) ?_
  cases isNull
  · exact detached_cons (by decide) (by decide)
  · exact detached_cons (by decide) (by decide)

/-- A range takes up its two ends, the lower one first. -/
theorem yields_between {column low high : String} (negated : Bool)
    (hcolumn : Yields qualifier column.toList []) (hlow : Text.isAsciiWord low)
    (hhigh : Text.isAsciiWord high) :
    Yields qualifier (Atom.between column low high negated).toText.toList
      [(low, false), (high, false)] := by
  have hfirst := yields_behind_column (if negated then "NOT BETWEEN " else "BETWEEN ") "" hcolumn
    (by cases negated <;> decide) hlow (by decide) stopsWord_empty
    (fun before rest => by cases negated <;> rfl)
  have hsecond : Yields qualifier (" AND " ++ ":" ++ high ++ "").toList [(high, false)] :=
    yields_placeholder qualifier (by decide) hhigh (by decide) stopsWord_empty fun _ _ => rfl
  have hdetached (text : List Char) : Detached text (" AND " ++ ":" ++ high ++ "").toList := by
    rw [String.append_assoc, String.append_assoc, String.toList_append]
    exact isSeparator_and.detached_append text _
  have hall := hfirst.append hsecond (hdetached _)
  cases negated with
  | false => simpa [Atom.toText] using hall
  | true => simpa [Atom.toText] using hall

/-- Scanning the text of an atom finds its placeholders. -/
theorem yields_atom {a : Atom} (h : a.Scans qualifier) :
    Yields qualifier a.toText.toList a.slots := by
  cases a with
  | compare column op param =>
    obtain ⟨hcolumn, hparam⟩ := h
    have hall := yields_behind_column (op.symbol ++ " ") "" hcolumn (by cases op <;> decide) hparam
      (by decide) stopsWord_empty (fun before rest => by cases op <;> rfl)
    simpa [Atom.toText, Atom.slots] using hall
  | nullCheck column isNull => exact yields_nullCheck isNull h
  | inList column param negated =>
    obtain ⟨hcolumn, hparam⟩ := h
    have hstop : StopsWord ")".toList := by
      simpa [StopsWord] using isSeparator_close.first
    have hall := yields_behind_column (if negated then "NOT IN (" else "IN (") ")" hcolumn
      (by cases negated <;> decide) hparam (by decide) hstop
      (fun before rest => by cases negated <;> rfl)
    cases negated with
    | false => simpa [Atom.toText, Atom.slots] using hall
    | true => simpa [Atom.toText, Atom.slots] using hall
  | between column low high negated =>
    obtain ⟨hcolumn, hlow, hhigh⟩ := h
    exact yields_between negated hcolumn hlow hhigh
  | raw text => cases h
  | always => exact yields_of_inert (by decide)
  | never => exact yields_of_inert (by decide)

/-- Parentheses around a text take up nothing. -/
theorem yields_enclose {row : List Token} {found : List (String × Bool)}
    (h : Yields qualifier (rowText row) found) :
    Yields qualifier (rowText (enclose row)) found := by
  have htext : rowText (enclose row) = "(".toList ++ (rowText row ++ ")".toList) := by
    simp [rowText, enclose, Token.toText]
  have hclosed := h.append isSeparator_close.yields (isSeparator_close.detached_append _ [])
  rw [htext]
  simpa using isSeparator_open.yields.append hclosed (isSeparator_open.detached _)

theorem yields_partTokens {item : Expr} {row : List Token} {found : List (String × Bool)}
    (h : Yields qualifier (rowText row) found) :
    Yields qualifier (rowText (partTokens item row)) found := by
  rw [partTokens]
  split
  · exact yields_enclose h
  · exact h

/-- Scanning the text of a group finds the placeholders of its parts. -/
theorem yields_intercalate_parts {sep : Token} (hsep : IsSeparator sep.toText.toList)
    {items : List Expr} (h : ∀ item ∈ items, Yields qualifier (rowText (tokens item)) item.slots) :
    Yields qualifier (rowText ([sep].intercalate (parts items)))
      ((items.flatMap atoms).flatMap Atom.slots) := by
  rw [rowText, flatMap_intercalate, parts_eq_map, List.map_map, List.flatMap_singleton,
    ← flatMap_atoms_filter, List.flatMap_assoc]
  exact yields_intercalate hsep fun item hitem =>
    yields_partTokens (h item (List.mem_of_mem_filter hitem))

/-- Scanning the text of a predicate finds the placeholders of its atoms. -/
theorem yields_toText {e : Expr} (h : ∀ a ∈ e.atoms, a.Scans qualifier) :
    Yields qualifier e.toText.toList e.slots := by
  rw [toList_toText]
  induction e using Expr.inductionOn with
  | atom a =>
    rw [slots, atoms, tokens] at *
    split
    · exact .nil
    · rename_i hempty
      have ha := yields_atom (h a (by simp [hempty, Token.atoms]))
      simpa [rowText, Token.toText, Token.atoms] using ha
  | and items ih =>
    rw [atoms_and] at h
    rw [slots, atoms_and, tokens]
    exact yields_intercalate_parts isSeparator_and fun item hitem =>
      ih item hitem fun a ha => h a (List.mem_flatMap.2 ⟨item, hitem, ha⟩)
  | or items ih =>
    rw [atoms_or] at h
    rw [slots, atoms_or, tokens]
    exact yields_intercalate_parts isSeparator_or fun item hitem =>
      ih item hitem fun a ha => h a (List.mem_flatMap.2 ⟨item, hitem, ha⟩)
  | not inner ih =>
    rw [atoms_not] at h
    rw [slots, atoms_not, tokens]
    split
    · rename_i hempty
      rw [atoms, tokens_eq_nil_of_isEmpty hempty]
      exact .nil
    · have hnot : Yields qualifier "NOT ".toList [] := yields_of_inert (by decide)
      exact hnot.append (yields_enclose (ih h)) (detached_of_getLast? (by decide))
  | nested inner ih =>
    rw [atoms_nested] at h
    rw [slots, atoms_nested, tokens]
    split
    · rename_i hempty
      rw [atoms, tokens_eq_nil_of_isEmpty hempty]
      exact .nil
    · exact yields_enclose (ih h)

end Expr

end EntityQuery
