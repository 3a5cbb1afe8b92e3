import EntityQuery.Proofs.Expr.Slots
import EntityQuery.Proofs.Expr.Value
import EntityQuery.Proofs.Sql.Writing

namespace EntityQuery

open Sql

/-- The column of an atom, if it has one. -/
def Atom.column? : Atom → Option String
  | compare column _ _ => some column
  | nullCheck column _ => some column
  | inList column _ _ => some column
  | between column _ _ _ => some column
  | _ => none

namespace Expr

/-- A predicate without raw texts, whose columns contain no quote and no colon, and whose
placeholders are words. -/
structure IsStructured (e : Expr) : Prop where
  no_raw : ∀ text, .raw text ∉ e.leaves
  columns : ∀ a ∈ e.leaves, ∀ column ∈ a.column?, ∀ c ∈ column.toList, ¬ IsQuote c ∧ c ≠ ':'
  names : ∀ name ∈ e.params, Text.isAsciiWord name

/-! ### What is collected over the tree -/

/-- The names that are collected over the tree are those of its leaves, from left to right. -/
theorem params_eq_flatMap_leaves (e : Expr) : e.params = e.leaves.flatMap Atom.params := by
  have hgroup {items : List Expr}
      (h : ∀ item ∈ items, item.params = item.leaves.flatMap Atom.params) :
      allParams items = (allLeaves items).flatMap Atom.params := by
    rw [allParams_eq_flatMap, allLeaves_eq_flatMap, List.flatMap_assoc]
    exact List.flatMap_congr h
  induction e using Expr.inductionOn with
  | atom a => simp [params, leaves]
  | and items ih => exact hgroup ih
  | or items ih => exact hgroup ih
  | not inner ih => exact ih
  | nested inner ih => exact ih

/-- Only atoms that say nothing are left out of the text. -/
theorem atoms_eq_filter_leaves (e : Expr) : e.atoms = e.leaves.filter fun a => !a.isEmpty := by
  have hgroup {items : List Expr}
      (h : ∀ item ∈ items, item.atoms = item.leaves.filter fun a => !a.isEmpty) :
      items.flatMap atoms = (allLeaves items).filter fun a => !a.isEmpty := by
    rw [allLeaves_eq_flatMap, List.filter_flatMap]
    exact List.flatMap_congr h
  induction e using Expr.inductionOn with
  | atom a =>
    rw [leaves]
    cases hempty : a.isEmpty with
    | true => simp [atoms, tokens, hempty]
    | false => simp [atoms, tokens, hempty, Token.atoms]
  | and items ih =>
    rw [atoms_and, leaves]
    exact hgroup ih
  | or items ih =>
    rw [atoms_or, leaves]
    exact hgroup ih
  | not inner ih =>
    rw [atoms_not, leaves]
    exact ih
  | nested inner ih =>
    rw [atoms_nested, leaves]
    exact ih

/-- The placeholders of a predicate are those of the atoms that are written: an atom that is left
out names none. -/
theorem params_eq_flatMap_atoms (e : Expr) : e.params = e.atoms.flatMap Atom.params := by
  rw [params_eq_flatMap_leaves, atoms_eq_filter_leaves]
  induction e.leaves with
  | nil => rfl
  | cons a rest ih =>
    cases hempty : a.isEmpty with
    | true =>
      have hparams : a.params = [] := by
        cases a with
        | raw text => rfl
        | _ => cases hempty
      rw [List.filter_cons_of_neg (by simp [hempty]), List.flatMap_cons, hparams, List.nil_append,
        ih]
    | false =>
      rw [List.filter_cons_of_pos (by simp [hempty]), List.flatMap_cons, List.flatMap_cons, ih]

/-- They are those of the placeholders of the text, with repetitions, since a leaf without a
condition names none. -/
theorem params_eq_map_slots (e : Expr) : e.params = e.slots.map Prod.fst := by
  rw [params_eq_flatMap_atoms, slots, List.map_flatMap]
  refine List.flatMap_congr fun a _ => ?_
  cases a <;> rfl

/-! ### What is found in the text -/

/-- A predicate without raw texts has only atoms whose placeholders the scan finds. -/
theorem IsStructured.scans {e : Expr} (h : e.IsStructured) (qualifier : List Char) :
    ∀ a ∈ e.atoms, a.Scans qualifier := by
  intro a ha
  have hparams : ∀ name ∈ a.params, Text.isAsciiWord name := fun name hname => by
    refine h.names name ?_
    rw [params_eq_flatMap_atoms]
    exact List.mem_flatMap.2 ⟨a, ha, hname⟩
  have hleaf : a ∈ e.leaves := by
    rw [atoms_eq_filter_leaves] at ha
    exact List.mem_of_mem_filter ha
  have hcolumn : ∀ column ∈ a.column?, Yields qualifier column.toList [] :=
    fun column hcolumn => yields_of_mute (h.columns a hleaf column hcolumn)
  cases a with
  | compare column op param => exact ⟨hcolumn column rfl, hparams param (by simp [Atom.params])⟩
  | nullCheck column isNull => exact hcolumn column rfl
  | inList column param negated => exact ⟨hcolumn column rfl, hparams param (by simp [Atom.params])⟩
  | between column low high negated =>
    exact ⟨hcolumn column rfl, hparams low (by simp [Atom.params]),
      hparams high (by simp [Atom.params])⟩
  | raw text => exact absurd hleaf (h.no_raw text)
  | always => trivial
  | never => trivial

/-- So the scan of its text finds the placeholders of its atoms, in their order. -/
theorem IsStructured.placeholders_segments {e : Expr} (h : e.IsStructured) (entityAlias : String) :
    placeholders (segments entityAlias e.toText) = e.slots :=
  (yields_toText (h.scans entityAlias.toList)).placeholders_eq

/-- The placeholders that are found in the text of a predicate are those that the predicate names,
in order and with repetitions. They are those of the atoms that are written, so none belongs to a
part that is left out; and where the text is written into a statement, they are what has to be
known. -/
theorem placeholders_toText_eq_params {e : Expr} (h : e.IsStructured) (scope : Scope) :
    (placeholders (segments scope.entityAlias e.toText)).map Prod.fst = e.params ∧
    e.params = e.atoms.flatMap Atom.params ∧
    ∀ (w : Writer) (fault : ValidationFault), w.pushText scope e.toText = .error fault ↔
      ∃ name, e.params.find? (w.lacks scope.table) = some name ∧
        fault = .unboundParameter name := by
  have hfound : (placeholders (segments scope.entityAlias e.toText)).map Prod.fst = e.params := by
    rw [h.placeholders_segments, params_eq_map_slots]
  refine ⟨hfound, params_eq_flatMap_atoms e, fun w fault => ?_⟩
  rw [pushText_eq_error_iff, hfound]

end Expr

/-- A predicate with two parts that contain no condition, and a placeholder that occurs twice. -/
def Samples.search : Expr :=
  .or
    [.and [],
      .and [.compare "u.name" .like "p0", .nested (.not (.inList "u.id" "p1" true))],
      .not (.or [.and []]),
      .between "u.createdAt" "low" "p0" false]

/-- A predicate that names one placeholder twice. Only that one is bound, so the first other name is
reported. -/
theorem Expr.placeholders_toText_eq_params_search :
    Samples.search.IsStructured ∧
      (placeholders (segments "u" Samples.search.toText)).map Prod.fst =
        ["p0", "p1", "low", "p0"] ∧
      ({} : Writer).pushText ⟨Samples.user, "u", ({} : ParamTable).set "p0" .null none⟩
        Samples.search.toText = .error (.unboundParameter "p1") := by
  have hstructured : Samples.search.IsStructured := by
    refine ⟨fun text => ?_, ?_, by decide +kernel⟩
    · simp [Samples.search, leaves, allLeaves, compare, inList, between]
    · simp [Samples.search, leaves, allLeaves, compare, inList, between, Atom.column?, IsQuote]
  obtain ⟨hfound, -, hfault⟩ := placeholders_toText_eq_params hstructured
    ⟨Samples.user, "u", ({} : ParamTable).set "p0" .null none⟩
  exact ⟨hstructured, hfound, (hfault _ _).2 ⟨"p1", by decide +kernel, rfl⟩⟩

end EntityQuery
