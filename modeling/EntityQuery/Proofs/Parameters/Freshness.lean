import EntityQuery.Proofs.Parameters.Allocation

namespace EntityQuery.ParamTable

variable {table : ParamTable} {base : String} {value : Value} {type? : Option FieldType}

/-- Binding a value adds it under a name of its own: the generated name was not bound, the value is
found under it, and every other name is answered as before. Names that differ in the colons in
front of them only are the same name to a table. -/
structure BindsFresh (table : ParamTable) (base : String) (value : Value)
    (type? : Option FieldType) : Prop where
  free : table.contains (table.bind base value type?).1 = false
  bound :
    (table.bind base value type?).2.value? (table.bind base value type?).1 = some value
  kept : ∀ other, lookupName other ≠ lookupName (table.bind base value type?).1 →
    (table.bind base value type?).2.get? other = table.get? other

/-- Whether a generated name is contained is asked without its colons, and the search asked with
them. -/
theorem contains_fresh_eq (table : ParamTable) (base : String) :
    table.contains (table.fresh base) =
      table.hasKey (candidate (lookupName base) (table.freeIndex base)) := by
  rw [contains, fresh, lookupName_candidate]

/-- Under a base with one colon at most, only an earlier parameter can be in the way. -/
theorem bindsFresh_of_contains (hbase : leadingColons base ≤ 1)
    (hfree : table.contains (table.fresh base) = false) : table.BindsFresh base value type? where
  free := hfree
  bound := congrArg (Option.map Parameter.value) (get?_bind_fresh table hbase value type?)
  kept := fun _ hother => get?_bind_of_ne hother

/-- Under a base with more colons the value is lost: no name is answered differently. -/
theorem not_bindsFresh_of_colons (hbase : 1 < leadingColons base) :
    ¬ table.BindsFresh base value type? := by
  intro h
  have hfree : table.contains (table.fresh base) = false := h.free
  rw [contains_eq, Option.isSome_eq_false_iff, Option.isNone_iff_eq_none] at hfree
  have hbound : ((table.bind base value type?).2.get? (table.fresh base)).map Parameter.value =
      some value := h.bound
  rw [get?_bind_of_colons hbase, hfree] at hbound
  cases hbound

/-- A value gets a name of its own if and only if the base has no colon in front of it, or has one
and the number found for it is also free without the colon. -/
theorem bindsFresh_iff (table : ParamTable) (base : String) (value : Value)
    (type? : Option FieldType) :
    table.BindsFresh base value type? ↔
      leadingColons base = 0 ∨
        leadingColons base = 1 ∧
          table.hasKey (candidate (lookupName base) (table.freeIndex base)) = false := by
  rw [← contains_fresh_eq]
  constructor
  · intro h
    have hcolons : ¬ 1 < leadingColons base := fun hbase => not_bindsFresh_of_colons hbase h
    rcases Nat.eq_zero_or_pos (leadingColons base) with hzero | hpos
    · exact Or.inl hzero
    · exact Or.inr ⟨by omega, h.free⟩
  · rintro (hzero | ⟨hone, hfree⟩)
    · exact bindsFresh_of_contains (by omega) (contains_fresh table hzero)
    · exact bindsFresh_of_contains hone.le hfree

/-- A base with a colon takes the value of a name that was bound before. -/
theorem overwrites_behind_colon :
    ¬ (({} : ParamTable).set "p0" (.string "kept") none).BindsFresh ":p" (.string "new") none ∧
      (({} : ParamTable).set "p0" (.string "kept") none).value? "p0" = some (.string "kept") ∧
      ((({} : ParamTable).set "p0" (.string "kept") none).bind ":p" (.string "new") none).2.value?
        "p0" = some (.string "new") := by
  refine ⟨fun h => ?_, rfl, rfl⟩
  have htaken : (({} : ParamTable).set "p0" (.string "kept") none).contains ":p0" = true := by
    decide +kernel
  exact absurd (h.free.symm.trans htaken) (by decide)

end EntityQuery.ParamTable
