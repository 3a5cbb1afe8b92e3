import Mathlib.Data.List.Forall2

namespace EntityQuery

variable {ε δ α β : Type}

/-- A result that is no error has a first step that is none, and the second one gives the result
from what the first one gave. -/
theorem bind_eq_ok {x : Except ε α} {f : α → Except ε β} {b : β} (h : x >>= f = .ok b) :
    ∃ a, x = .ok a ∧ f a = .ok b := by
  cases x with
  | error e => cases h
  | ok a => exact ⟨a, rfl, h⟩

/-- A result that was changed stems from one that was not. -/
theorem map_eq_ok {x : Except ε α} {f : α → β} {b : β} (h : x.map f = .ok b) :
    ∃ a, x = .ok a ∧ f a = b := by
  cases x with
  | error e => cases h
  | ok a => exact ⟨a, rfl, Except.ok.inj h⟩

/-- Rewording errors makes no result. -/
theorem mapError_eq_ok {x : Except ε α} {f : ε → δ} {a : α} (h : x.mapError f = .ok a) :
    x = .ok a := by
  cases x with
  | error e => cases h
  | ok b =>
    cases h
    rfl

theorem mapError_eq_ok_iff {x : Except ε α} {f : ε → δ} {a : α} :
    x.mapError f = .ok a ↔ x = .ok a := by
  refine ⟨mapError_eq_ok, ?_⟩
  rintro rfl
  rfl

/-- An error is that of the first step, or the first step gave something and the error is that of
the second. -/
theorem bind_eq_error {x : Except ε α} {f : α → Except ε β} {e : ε} (h : x >>= f = .error e) :
    x = .error e ∨ ∃ a, x = .ok a ∧ f a = .error e := by
  cases x with
  | error e' =>
    cases h
    exact Or.inl rfl
  | ok a => exact Or.inr ⟨a, rfl, h⟩

/-- Changing a result makes no error. -/
theorem map_eq_error {x : Except ε α} {f : α → β} {e : ε} (h : x.map f = .error e) :
    x = .error e := by
  cases x with
  | error e' =>
    cases h
    rfl
  | ok a => cases h

/-- An error that was reworded stems from an error. -/
theorem mapError_eq_error {x : Except ε α} {f : ε → δ} {e : δ} (h : x.mapError f = .error e) :
    ∃ e', x = .error e' ∧ f e' = e := by
  cases x with
  | error e' => exact ⟨e', rfl, Except.error.inj h⟩
  | ok a => cases h

/-- A computed test shows that there is a result, without computing what it is. -/
theorem exists_ok_of_isSome {x : Except ε α} (h : x.toOption.isSome) : ∃ a, x = .ok a := by
  cases x with
  | error e => cases h
  | ok a => exact ⟨a, rfl⟩

/-- The first step of a row of steps, and the others behind it. -/
theorem foldlM_cons_eq_ok {f : β → α → Except ε β} {first : α} {rest : List α} {before after : β}
    (h : (first :: rest).foldlM f before = .ok after) :
    ∃ next, f before first = .ok next ∧ rest.foldlM f next = .ok after := by
  rw [List.foldlM_cons] at h
  exact bind_eq_ok h

/-- The results of a row of steps, each of its own step. -/
theorem forall₂_of_mapM_ok {f : α → Except ε β} {items : List α} {results : List β}
    (h : items.mapM f = .ok results) :
    List.Forall₂ (fun a b => f a = .ok b) items results := by
  induction items generalizing results with
  | nil =>
    cases h
    exact .nil
  | cons first rest ih =>
    rw [List.mapM_cons] at h
    obtain ⟨b, hfirst, h⟩ := bind_eq_ok h
    obtain ⟨bs, hrest, h⟩ := bind_eq_ok h
    cases h
    exact .cons hfirst (ih hrest)

/-- What holds of the pairs whose first member is in a row. -/
theorem forall₂_of_forall_mem {R S : α → β → Prop} {items : List α} {results : List β}
    (h : List.Forall₂ R items results) (himp : ∀ a ∈ items, ∀ b, R a b → S a b) :
    List.Forall₂ S items results :=
  ((List.forall₂_and_left _ _).2 ⟨himp, h⟩).imp fun _ b hab => hab.1 b hab.2

/-- Steps that lead back to where they started, one for each item of another row. -/
theorem mapM_eq_self_of_forall₂ {f : β → Except ε β} {items : List α} {results : List β}
    (h : List.Forall₂ (fun _ b => f b = .ok b) items results) : results.mapM f = .ok results := by
  induction h with
  | nil => rfl
  | cons hfirst _ ih =>
    rw [List.mapM_cons, hfirst, ih]
    rfl

/-! ### Rows of steps -/

theorem isOk_map_iff {x : Except ε α} {f : α → β} : (x.map f).isOk ↔ x.isOk := by
  cases x <;> rfl

/-- A first step without an error puts its result in front of the others. -/
theorem mapM_cons_of_ok {f : α → Except ε β} {first : α} {b : β} (h : f first = .ok b)
    (rest : List α) : (first :: rest).mapM f = (rest.mapM f).map (b :: ·) := by
  rw [List.mapM_cons, h]
  cases rest.mapM f <;> rfl

/-- A first error is the result of all steps, whatever the others give. -/
theorem mapM_cons_of_error {f : α → Except ε β} {first : α} {e : ε} (h : f first = .error e)
    (rest : List α) : (first :: rest).mapM f = .error e := by
  rw [List.mapM_cons, h]
  rfl

theorem mapM_singleton (f : α → Except ε β) (a : α) : [a].mapM f = (f a).map ([·]) := by
  rw [List.mapM_cons]
  cases f a <;> rfl

/-- Errors may be reworded at each step or at the end, since only the first one counts. -/
theorem mapM_mapError (f : α → Except ε β) (g : ε → δ) (items : List α) :
    (items.mapM f).mapError g = items.mapM fun a => (f a).mapError g := by
  induction items with
  | nil => rfl
  | cons first rest ih =>
    rw [List.mapM_cons, List.mapM_cons, ← ih]
    cases f first with
    | error e => rfl
    | ok b => cases rest.mapM f <;> rfl

/-- A change that tells results apart still does so where they may be errors. -/
theorem map_injective {f : α → β} (hf : Function.Injective f) :
    Function.Injective (Except.map f : Except ε α → Except ε β) := by
  intro x y h
  cases x <;> cases y <;> simp_all [Except.map, hf.eq_iff]

theorem map_eq_error_iff {x : Except ε α} {f : α → β} {e : ε} :
    x.map f = .error e ↔ x = .error e := by
  cases x <;> simp [Except.map]

/-- Behind steps that all succeed, a row fails where the steps behind them fail. -/
theorem mapM_append_eq_error_iff {f : α → Except ε β} {before : List α} (h : (before.mapM f).isOk)
    (after : List α) {e : ε} :
    (before ++ after).mapM f = .error e ↔ after.mapM f = .error e := by
  induction before with
  | nil => rfl
  | cons first rest ih =>
    cases hfirst : f first with
    | error fault =>
      rw [mapM_cons_of_error hfirst] at h
      cases h
    | ok b =>
      rw [mapM_cons_of_ok hfirst, isOk_map_iff] at h
      rw [List.cons_append, mapM_cons_of_ok hfirst, map_eq_error_iff, ih h]

/-- Two ways of taking steps that differ for one item only, where the first way fails. They give the
same result unless the item is reached and nothing behind it fails in the same way. -/
theorem mapM_eq_mapM_iff {f g : α → Except ε β} {odd : α} {e : ε} {b : β}
    (hsame : ∀ a, a ≠ odd → f a = g a) (hf : f odd = .error e) (hg : g odd = .ok b)
    (items : List α) :
    items.mapM f = items.mapM g ↔
      ∀ before after, items = before ++ odd :: after → (before.mapM g).isOk →
        after.mapM g = .error e := by
  induction items with
  | nil => simp
  | cons first rest ih =>
    by_cases hodd : first = odd
    · subst hodd
      -- The first item is the one on which the functions differ: one run ends here, so the other
      -- has to end with the same error later.
      rw [mapM_cons_of_error hf, mapM_cons_of_ok hg, eq_comm, map_eq_error_iff]
      refine ⟨fun hrest before after heq hbefore => ?_, fun h => h [] rest rfl rfl⟩
      cases before with
      | nil =>
        cases heq
        exact hrest
      | cons _ before =>
        rw [List.cons_append] at heq
        obtain ⟨rfl, rfl⟩ := List.cons.inj heq
        rw [mapM_cons_of_ok hg, isOk_map_iff] at hbefore
        rwa [mapM_append_eq_error_iff hbefore, mapM_cons_of_ok hg, map_eq_error_iff] at hrest
    · -- The item is not the first one, so the first step is part of what stands before it.
      have hsplit (p : List α → List α → Prop) :
          (∀ before after, first :: rest = before ++ odd :: after → p before after) ↔
            ∀ before after, rest = before ++ odd :: after → p (first :: before) after := by
        refine ⟨fun h before after heq => h _ after (by rw [heq, List.cons_append]), ?_⟩
        intro h before after heq
        cases before with
        | nil => exact absurd (List.cons.inj heq).1 hodd
        | cons _ before =>
          rw [List.cons_append] at heq
          obtain ⟨rfl, rfl⟩ := List.cons.inj heq
          exact h before after rfl
      rw [hsplit]
      cases hfirst : g first with
      | error fault =>
        rw [mapM_cons_of_error hfirst, mapM_cons_of_error ((hsame first hodd).trans hfirst)]
        refine ⟨fun _ before after _ hbefore => ?_, fun _ => rfl⟩
        rw [mapM_cons_of_error hfirst] at hbefore
        cases hbefore
      | ok c =>
        rw [mapM_cons_of_ok hfirst, mapM_cons_of_ok ((hsame first hodd).trans hfirst),
          (map_injective List.cons_injective).eq_iff, ih]
        simp only [mapM_cons_of_ok hfirst, isOk_map_iff]

end EntityQuery
