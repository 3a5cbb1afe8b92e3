import Mathlib.Data.List.Basic

namespace EntityQuery

variable {α β : Type} {x : α} {sep row : List α} {rows : List (List α)}

/-- Every row behind the first one has a separator in front of it. -/
theorem intercalate_cons (sep row : List α) (rows : List (List α)) :
    sep.intercalate (row :: rows) = row ++ rows.flatMap (sep ++ ·) := by
  induction rows generalizing row with
  | nil => simp
  | cons next rest ih =>
    rw [List.intercalate_cons_cons, ih, List.flatMap_cons, List.append_assoc, List.append_assoc]

/-- What is in a row is in the joined rows. -/
theorem mem_intercalate (hrow : row ∈ rows) (hx : x ∈ row) : x ∈ sep.intercalate rows := by
  cases rows with
  | nil => cases hrow
  | cons first rest =>
    rw [intercalate_cons, List.mem_append]
    rcases List.mem_cons.1 hrow with rfl | hrow
    · exact Or.inl hx
    · exact Or.inr (List.mem_flatMap.2 ⟨row, hrow, List.mem_append_right _ hx⟩)

/-- What is in the joined rows is in a row or in the separator. -/
theorem mem_of_mem_intercalate (hx : x ∈ sep.intercalate rows) :
    x ∈ sep ∨ ∃ row ∈ rows, x ∈ row := by
  cases rows with
  | nil => cases hx
  | cons first rest =>
    rw [intercalate_cons, List.mem_append] at hx
    rcases hx with hx | hx
    · exact Or.inr ⟨first, List.mem_cons_self, hx⟩
    · obtain ⟨row, hrow, hx⟩ := List.mem_flatMap.1 hx
      rcases List.mem_append.1 hx with hx | hx
      · exact Or.inl hx
      · exact Or.inr ⟨row, List.mem_cons_of_mem _ hrow, hx⟩

theorem intercalate_ne_nil (hrow : row ∈ rows) (hne : row ≠ []) : sep.intercalate rows ≠ [] := by
  obtain ⟨x, hx⟩ := List.exists_mem_of_ne_nil row hne
  exact List.ne_nil_of_mem (mem_intercalate hrow hx)

/-- With one more separator, every row has one in front of it. -/
theorem append_intercalate (hne : rows ≠ []) :
    sep ++ sep.intercalate rows = rows.flatMap (sep ++ ·) := by
  obtain ⟨first, rest, rfl⟩ := List.exists_cons_of_ne_nil hne
  rw [intercalate_cons, List.flatMap_cons, List.append_assoc]

/-- Rows that are no longer than others are no longer together. -/
theorem length_flatMap_le {f g : α → List β} {items : List α}
    (h : ∀ a ∈ items, (f a).length ≤ (g a).length) :
    (items.flatMap f).length ≤ (items.flatMap g).length := by
  induction items with
  | nil => exact Nat.le_refl _
  | cons a rest ih =>
    obtain ⟨ha, hrest⟩ := List.forall_mem_cons.1 h
    have hlater := ih hrest
    rw [List.flatMap_cons, List.flatMap_cons, List.length_append, List.length_append]
    omega

/-- It is strictly shorter if one item gives strictly less. -/
theorem length_flatMap_lt {f g : α → List β} {items : List α} {b : α}
    (h : ∀ a ∈ items, (f a).length ≤ (g a).length) (hb : b ∈ items)
    (hlt : (f b).length < (g b).length) :
    (items.flatMap f).length < (items.flatMap g).length := by
  obtain ⟨first, last, rfl⟩ := List.append_of_mem hb
  obtain ⟨hfirst, hrest⟩ := List.forall_mem_append.1 h
  obtain ⟨-, hlast⟩ := List.forall_mem_cons.1 hrest
  have hbefore := length_flatMap_le hfirst
  have hbehind := length_flatMap_le hlast
  simp only [List.flatMap_append, List.flatMap_cons, List.length_append]
  omega

/-- Rows may be translated before or after they are joined, if the separator is translated as well.
-/
theorem flatMap_intercalate (f : α → List β) (sep : List α) (rows : List (List α)) :
    (sep.intercalate rows).flatMap f = (sep.flatMap f).intercalate (rows.map (·.flatMap f)) := by
  cases rows with
  | nil => rfl
  | cons first rest =>
    rw [List.map_cons, intercalate_cons, intercalate_cons, List.flatMap_append, List.flatMap_assoc,
      List.flatMap_map]
    simp only [List.flatMap_append]

/-- The first two rows may be put together first. -/
theorem intercalate_append_cons (sep row next : List α) (rows : List (List α)) :
    sep.intercalate (row :: next :: rows) = sep.intercalate ((row ++ sep ++ next) :: rows) := by
  rw [intercalate_cons, intercalate_cons, List.flatMap_cons, List.append_assoc, List.append_assoc,
    List.append_assoc]

/-- Without a separator rows stand one behind the other. -/
theorem intercalate_nil (rows : List (List α)) : [].intercalate rows = rows.flatten := by
  cases rows with
  | nil => rfl
  | cons first rest =>
    rw [intercalate_cons, List.flatten_cons, ← List.flatMap_id]
    rfl

/-- What the first elements of two rows have in common, the first element of both has. -/
theorem forall_head?_append {p : α → Prop} {first second : List α} (h : ∀ x ∈ first.head?, p x)
    (h' : ∀ x ∈ second.head?, p x) : ∀ x ∈ (first ++ second).head?, p x := by
  cases first with
  | nil => exact h'
  | cons x first => exact h

end EntityQuery
