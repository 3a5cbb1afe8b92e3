import EntityQuery.Keyed
import Mathlib.Data.List.Nodup
import Mathlib.Data.List.Perm.Basic

namespace EntityQuery.Keyed

variable {α β : Type} {key : String} {value : α} {entries : List (String × α)}

/-- An entry of a new key is added, and the others are kept. -/
theorem insert_perm (h : key ∉ entries.map Prod.fst) (value : α) :
    (insert key value entries).Perm ((key, value) :: entries) := by
  induction entries with
  | nil => exact .refl _
  | cons entry rest ih =>
    obtain ⟨k, v⟩ := entry
    rw [List.map_cons, List.mem_cons, not_or] at h
    rw [insert, if_neg h.1]
    split
    · exact .refl _
    · exact ((ih h.2).cons (k, v)).trans (.swap _ _ _)

/-- If no key stands twice, what is found under a key is the one entry that has it. -/
theorem lookup_eq_some_iff (hnodup : (entries.map Prod.fst).Nodup) :
    entries.lookup key = some value ↔ (key, value) ∈ entries := by
  induction entries with
  | nil => simp
  | cons entry rest ih =>
    obtain ⟨k, v⟩ := entry
    rw [List.map_cons, List.nodup_cons] at hnodup
    rw [List.lookup_cons, List.mem_cons]
    by_cases hkey : key = k
    · subst hkey
      have hrest : (key, value) ∉ rest := fun hmem => hnodup.1 (List.mem_map.2 ⟨_, hmem, rfl⟩)
      simp [hrest, eq_comm]
    · have hbeq : (key == k) = false := beq_eq_false_iff_ne.2 hkey
      rw [hbeq]
      simp [hkey, ih hnodup.2]

/-- What is put under a key takes the place of what was put there before. -/
theorem insert_insert (key : String) (first second : α) (entries : List (String × α)) :
    insert key second (insert key first entries) = insert key second entries := by
  induction entries with
  | nil => simp [insert]
  | cons entry rest ih =>
    obtain ⟨k, v⟩ := entry
    by_cases hlt : key < k
    · simp [insert, hlt]
    · by_cases heq : key = k
      · simp [insert, heq]
      · simp [insert, hlt, heq, ih]

/-- Of several entries that are put under one key, the last one counts. -/
theorem lookup_foldl_insert (key : String) (added entries : List (String × α)) :
    (added.foldl (fun sorted (key, value) => insert key value sorted) entries).lookup key =
      (added.reverse.lookup key).or (entries.lookup key) := by
  induction added generalizing entries with
  | nil => rfl
  | cons entry rest ih =>
    obtain ⟨k, v⟩ := entry
    rw [List.foldl_cons, ih, List.reverse_cons, List.lookup_append, Option.or_assoc]
    congr 1
    by_cases hkey : key = k
    · subst hkey
      simp [lookup_insert_self]
    · have hbeq : (key == k) = false := beq_eq_false_iff_ne.2 hkey
      rw [lookup_insert_of_ne hkey, List.lookup_cons, hbeq, List.lookup_nil, Option.none_or]

/-! ### Values under their keys -/

/-- Entries with their values replaced. -/
def mapValues (f : α → β) (entries : List (String × α)) : List (String × β) :=
  entries.map fun entry => (entry.1, f entry.2)

/-- It makes no difference whether values are changed before or after one more is inserted. -/
theorem mapValues_insert (f : α → β) (key : String) (value : α) (entries : List (String × α)) :
    mapValues f (insert key value entries) = insert key (f value) (mapValues f entries) := by
  induction entries with
  | nil => rfl
  | cons entry rest ih =>
    obtain ⟨k, v⟩ := entry
    rw [mapValues] at ih
    simp only [insert, mapValues, List.map_cons]
    split
    · rfl
    · split
      · rfl
      · rw [List.map_cons, ih, mapValues]

/-- Changing values changes what is found, and not where. -/
theorem lookup_mapValues (f : α → β) (key : String) (entries : List (String × α)) :
    (mapValues f entries).lookup key = (entries.lookup key).map f := by
  induction entries with
  | nil => rfl
  | cons entry rest ih =>
    obtain ⟨k, v⟩ := entry
    rw [mapValues] at ih
    rw [mapValues, List.map_cons, List.lookup_cons, List.lookup_cons, ih]
    cases key == k <;> rfl

end EntityQuery.Keyed
