namespace EntityQuery.Keyed

variable {α : Type}

/-- Puts an entry at its place in a list that is sorted by key, instead of the entry that has its
key. -/
def insert (key : String) (value : α) : List (String × α) → List (String × α)
  | [] => [(key, value)]
  | (k, v) :: rest =>
    if key < k then (key, value) :: (k, v) :: rest
    else if key = k then (key, value) :: rest
    else (k, v) :: insert key value rest

def contains (key : String) (entries : List (String × α)) : Bool :=
  (entries.lookup key).isSome

/-- The entry that was put is found by its key. -/
theorem lookup_insert_self (key : String) (value : α) (entries : List (String × α)) :
    (insert key value entries).lookup key = some value := by
  induction entries with
  | nil => simp [insert]
  | cons entry rest ih =>
    obtain ⟨k, v⟩ := entry
    rw [insert]
    split
    · simp
    · split
      · simp
      · rename_i hne
        rw [List.lookup_cons, beq_eq_false_iff_ne.2 hne, ih]

/-- The entries of other keys stay. -/
theorem lookup_insert_of_ne {key other : String} (h : other ≠ key) (value : α)
    (entries : List (String × α)) :
    (insert key value entries).lookup other = entries.lookup other := by
  have hkey : (other == key) = false := beq_eq_false_iff_ne.2 h
  induction entries with
  | nil => simp [insert, List.lookup_cons, hkey]
  | cons entry rest ih =>
    obtain ⟨k, v⟩ := entry
    rw [insert]
    split
    · rw [List.lookup_cons, hkey]
    · split
      · rename_i heq
        subst heq
        rw [List.lookup_cons, List.lookup_cons, hkey]
      · rw [List.lookup_cons, List.lookup_cons, ih]

end EntityQuery.Keyed
