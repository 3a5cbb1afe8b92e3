import EntityQuery.Value

namespace EntityQuery.Value

/-- The number of elements of a list. Other values have none. -/
def listLength? : Value → Option Nat
  | .list items => some items.length
  | _ => none

/-- Whether a value is neither null nor a list. -/
def isScalar : Value → Bool
  | .null | .list _ => false
  | _ => true

variable {value : Value}

theorem listLength?_of_isScalar (h : value.isScalar) : value.listLength? = none := by
  cases value with
  | list items => cases h
  | _ => rfl

theorem ne_null_of_isScalar (h : value.isScalar) : value ≠ .null := by
  rintro rfl
  cases h

/-- Induction on values, with a hypothesis for every member of a list. -/
@[elab_as_elim]
theorem inductionOn {motive : Value → Prop} (value : Value) (null : motive .null)
    (scalar : ∀ value, value.isScalar → motive value)
    (list : ∀ items, (∀ item ∈ items, motive item) → motive (.list items)) : motive value := by
  refine Value.rec (motive_1 := motive) (motive_2 := fun items => ∀ item ∈ items, motive item)
    null ?_ ?_ ?_ ?_ ?_ ?_ ?_ ?_ ?_ ?_ list ?_ ?_ value
  · exact fun _ => scalar _ rfl
  · exact fun _ => scalar _ rfl
  · exact fun _ => scalar _ rfl
  · exact fun _ => scalar _ rfl
  · exact fun _ => scalar _ rfl
  · exact fun _ => scalar _ rfl
  · exact fun _ => scalar _ rfl
  · exact fun _ => scalar _ rfl
  · exact fun _ => scalar _ rfl
  · exact fun _ => scalar _ rfl
  · intro item hitem
    cases hitem
  · intro item rest hitem hrest
    exact List.forall_mem_cons.2 ⟨hitem, hrest⟩

end EntityQuery.Value
