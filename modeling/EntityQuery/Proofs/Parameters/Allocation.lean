import EntityQuery.Proofs.Keyed
import EntityQuery.Proofs.Names
import Mathlib.Data.List.Nodup
import Mathlib.Data.List.Perm.Subperm

namespace EntityQuery.ParamTable

variable {table : ParamTable} {base key name : String} {value : Value} {type? : Option FieldType}

/-- The keys of a table are those of its entries, as they are written. -/
theorem hasKey_iff : table.hasKey key ↔ key ∈ table.entries.map Prod.fst := by
  rw [hasKey, Keyed.contains, List.lookup_isSome_iff]
  simp

theorem contains_eq (table : ParamTable) (name : String) :
    table.contains name = (table.get? name).isSome :=
  rfl

theorem exists_value_of_contains (h : table.contains name) :
    ∃ value, table.value? name = some value := by
  obtain ⟨parameter, hparameter⟩ := Option.isSome_iff_exists.1 h
  exact ⟨parameter.value, congrArg (Option.map Parameter.value) hparameter⟩

/-- A parameter is found by every name that is looked up as its own. -/
theorem get?_insert_self {parameter : Parameter} (h : lookupName name = parameter.name) :
    (table.insert parameter).get? name = some parameter := by
  rw [get?, h]
  exact Keyed.lookup_insert_self _ _ _

theorem get?_insert_of_ne {parameter : Parameter} (h : lookupName name ≠ parameter.name) :
    (table.insert parameter).get? name = table.get? name :=
  Keyed.lookup_insert_of_ne h _ _

/-! ### Generated names -/

/-- The search passes taken names only, and stops at a free one unless it ends. -/
theorem freeFrom_spec (table : ParamTable) (base : String) (fuel i : Nat) :
    i ≤ table.freeFrom base fuel i ∧
      (∀ k, i ≤ k → k < table.freeFrom base fuel i → table.hasKey (candidate base k)) ∧
      (table.freeFrom base fuel i = i + fuel ∨
        table.hasKey (candidate base (table.freeFrom base fuel i)) = false) := by
  induction fuel generalizing i with
  | zero =>
    refine ⟨Nat.le_refl _, ?_, Or.inl rfl⟩
    intro k hi hk
    exact absurd (Nat.lt_of_le_of_lt hi hk) (Nat.lt_irrefl _)
  | succ fuel ih =>
    rw [freeFrom]
    split
    · rename_i htaken
      obtain ⟨hle, hpassed, hend⟩ := ih (i + 1)
      refine ⟨by omega, ?_, ?_⟩
      · intro k hi hk
        rcases Nat.eq_or_lt_of_le hi with rfl | hlt
        · exact htaken
        · exact hpassed k hlt hk
      · rcases hend with hend | hfree
        · exact Or.inl (by omega)
        · exact Or.inr hfree
    · rename_i hfree
      refine ⟨Nat.le_refl _, ?_, Or.inr (by simpa using hfree)⟩
      intro k hi hk
      exact absurd (Nat.lt_of_le_of_lt hi hk) (Nat.lt_irrefl _)

/-- The first free name is free: there are more candidates than parameters. -/
theorem hasKey_freeIndex (table : ParamTable) (base : String) :
    table.hasKey (candidate base (table.freeIndex base)) = false := by
  obtain ⟨-, hpassed, hend⟩ := freeFrom_spec table base table.size 0
  rcases hend with hend | hfree
  · -- A search that ends without a free name has seen more names than there are.
    rw [Bool.eq_false_iff]
    intro htaken
    have htaken : table.hasKey (candidate base (table.freeFrom base table.size 0)) := htaken
    have hall : (List.range (table.size + 1)).map (candidate base) ⊆
        table.entries.map Prod.fst := by
      intro name hname
      obtain ⟨k, hk, rfl⟩ := List.mem_map.1 hname
      rw [List.mem_range] at hk
      rw [← hasKey_iff]
      rcases Nat.lt_or_ge k (table.freeFrom base table.size 0) with hlt | hge
      · exact hpassed k (Nat.zero_le k) hlt
      · have heq : k = table.freeFrom base table.size 0 := by omega
        rw [heq]
        exact htaken
    have hnodup : ((List.range (table.size + 1)).map (candidate base)).Nodup :=
      List.nodup_range.map (candidate_injective base)
    have hlength := (hnodup.subperm hall).length_le
    simp only [List.length_map, List.length_range, size] at hlength
    omega
  · exact hfree

/-! ### Binding -/

/-- The name that the next value of a base is bound to. -/
def fresh (table : ParamTable) (base : String) : String :=
  candidate base (table.freeIndex base)

/-- A generated name of a word is a word, so it has no colons in front of it. -/
theorem isAsciiWord_fresh (table : ParamTable) (hbase : Text.isAsciiWord base) :
    Text.isAsciiWord (table.fresh base) :=
  isAsciiWord_candidate hbase _

/-- What a table answers after a value is bound under a generated name. The name was reserved as it
was generated, and its value stands under the name less one colon. -/
theorem get?_bind (table : ParamTable) (base name : String) (value : Value)
    (type? : Option FieldType) :
    (table.bind base value type?).2.get? name =
      if lookupName name = bareName (table.fresh base) then
        some (.of (table.fresh base) value type?)
      else if lookupName name = table.fresh base then some (.of (table.fresh base) .null none)
      else table.get? name := by
  have hbind : (table.bind base value type?).2 =
      (⟨Keyed.insert (table.fresh base) (.of (table.fresh base) .null none) table.entries⟩ :
        ParamTable).insert (.of (table.fresh base) value type?) := rfl
  rw [hbind]
  split
  · rename_i hbare
    exact get?_insert_self hbare
  · rename_i hbare
    rw [get?_insert_of_ne hbare, get?]
    split
    · rename_i hfresh
      rw [hfresh]
      exact Keyed.lookup_insert_self _ _ _
    · rename_i hfresh
      exact Keyed.lookup_insert_of_ne hfresh _ _

/-- The name of a base with one colon at most is looked up as it is bound. -/
theorem bareName_fresh (table : ParamTable) (h : leadingColons base ≤ 1) :
    bareName (table.fresh base) = lookupName (table.fresh base) := by
  apply bareName_eq_lookupName
  rw [fresh, leadingColons_candidate]
  exact h

/-- A key with a colon in front of it is no name that is looked up. -/
theorem lookupName_ne_of_leadingColons (h : leadingColons key ≠ 0) : lookupName name ≠ key := by
  rintro rfl
  exact h (leadingColons_lookupName name)

/-- What is bound to a name with more than one colon is looked up under no name. -/
theorem lookupName_ne_bareName_of_colons {other : String} (h : 1 < leadingColons name) :
    lookupName other ≠ bareName name := by
  apply lookupName_ne_of_leadingColons
  rw [leadingColons_bareName]
  omega

theorem lookupName_fresh (table : ParamTable) (h : leadingColons base = 0) :
    lookupName (table.fresh base) = table.fresh base :=
  lookupName_of_leadingColons (by rw [fresh, leadingColons_candidate, h])

/-- A generated name is not contained yet, unless its base has colons in front of it, which a
look-up takes off. -/
theorem contains_fresh (table : ParamTable) (h : leadingColons base = 0) :
    table.contains (table.fresh base) = false := by
  rw [contains, lookupName_fresh table h]
  exact hasKey_freeIndex table base

/-- What is bound to a generated name is found by it, if its base has one colon at most. -/
theorem get?_bind_fresh (table : ParamTable) (h : leadingColons base ≤ 1) (value : Value)
    (type? : Option FieldType) :
    (table.bind base value type?).2.get? (table.fresh base) =
      some (.of (table.fresh base) value type?) := by
  rw [get?_bind, bareName_fresh table h, if_pos rfl]

/-- Without colons, the parameter has the generated name itself. -/
theorem get?_bind_self (hbase : leadingColons base = 0) :
    (table.bind base value type?).2.get? (table.fresh base) =
      some { name := table.fresh base, value, type? } := by
  have hbare := bareName_fresh table (Nat.le_succ_of_le hbase.le)
  rw [get?_bind_fresh table (Nat.le_succ_of_le hbase.le), Parameter.of, hbare,
    lookupName_fresh table hbase]

/-- The generated name is a new key. -/
theorem fresh_notMem_keys (table : ParamTable) (base : String) :
    table.fresh base ∉ table.entries.map Prod.fst := by
  rw [← hasKey_iff, fresh, hasKey_freeIndex]
  exact Bool.false_ne_true

/-- A binding adds one entry, and the others are kept. -/
theorem entries_bind_perm (table : ParamTable) (hbase : leadingColons base = 0) (value : Value)
    (type? : Option FieldType) :
    (table.bind base value type?).2.entries.Perm
      ((table.fresh base, { name := table.fresh base, value, type? }) :: table.entries) := by
  have hname : bareName (table.fresh base) = table.fresh base :=
    (bareName_fresh table (Nat.le_succ_of_le hbase.le)).trans (lookupName_fresh table hbase)
  have hbind : (table.bind base value type?).2.entries =
      Keyed.insert (bareName (table.fresh base)) (.of (table.fresh base) value type?)
        (Keyed.insert (table.fresh base) (.of (table.fresh base) .null none) table.entries) := rfl
  rw [hbind, Parameter.of, hname, Keyed.insert_insert]
  exact Keyed.insert_perm (fresh_notMem_keys table base) _

/-- A binding is not seen under another name, whatever the base. -/
theorem get?_bind_of_ne (h : lookupName name ≠ lookupName (table.fresh base)) :
    (table.bind base value type?).2.get? name = table.get? name := by
  have hbare : lookupName name ≠ bareName (table.fresh base) := lookupName_ne_bareName h
  have hfresh : lookupName name ≠ table.fresh base := by
    intro heq
    apply h
    rw [← heq, lookupName_lookupName]
  rw [get?_bind, if_neg hbare, if_neg hfresh]

/-- What is bound under a base with more than one colon is not seen under any name. -/
theorem get?_bind_of_colons (h : 1 < leadingColons base) :
    (table.bind base value type?).2.get? name = table.get? name := by
  have hfresh : leadingColons (table.fresh base) = leadingColons base :=
    leadingColons_candidate base _
  rw [get?_bind, if_neg (lookupName_ne_bareName_of_colons (hfresh ▸ h)),
    if_neg (lookupName_ne_of_leadingColons (by omega))]

/-- A name that is bound already keeps its value. -/
theorem get?_bind_of_contains (hbase : leadingColons base = 0) (h : table.contains name) :
    (table.bind base value type?).2.get? name = table.get? name := by
  apply get?_bind_of_ne
  intro heq
  have hfree := contains_fresh table hbase
  rw [contains, ← heq, ← contains, h] at hfree
  cases hfree

/-! ### No operation removes a name -/

/-- Every key of the first table is a key of the second. -/
def KeysIn (table later : ParamTable) : Prop :=
  ∀ key, table.hasKey key → later.hasKey key

/-- Every name of the first table is a name of the second. -/
def NamesIn (table later : ParamTable) : Prop :=
  ∀ name, table.contains name → later.contains name

theorem NamesIn.refl (table : ParamTable) : table.NamesIn table :=
  fun _ h => h

theorem KeysIn.trans {first second third : ParamTable} (h : first.KeysIn second)
    (h' : second.KeysIn third) : first.KeysIn third :=
  fun key hkey => h' key (h key hkey)

theorem KeysIn.namesIn {table later : ParamTable} (h : table.KeysIn later) : table.NamesIn later :=
  fun name => h (lookupName name)

/-- An entry adds its own key and no other one. -/
theorem hasKey_keyed_insert (table : ParamTable) (key other : String) (parameter : Parameter) :
    (⟨Keyed.insert key parameter table.entries⟩ : ParamTable).hasKey other ↔
      other = key ∨ table.hasKey other := by
  rw [hasKey, Keyed.contains]
  by_cases heq : other = key
  · subst heq
    rw [Keyed.lookup_insert_self]
    exact iff_of_true rfl (Or.inl rfl)
  · rw [Keyed.lookup_insert_of_ne heq, or_iff_right heq]
    rfl

theorem keysIn_keyed_insert (table : ParamTable) (key : String) (parameter : Parameter) :
    table.KeysIn ⟨Keyed.insert key parameter table.entries⟩ :=
  fun other hother => (hasKey_keyed_insert table key other parameter).2 (Or.inr hother)

theorem keysIn_insert (table : ParamTable) (parameter : Parameter) :
    table.KeysIn (table.insert parameter) :=
  keysIn_keyed_insert table _ _

/-- Appending removes none either, whatever the bindings are. -/
theorem keysIn_append (table : ParamTable) (bindings : List (String × Binding)) :
    table.KeysIn (table.append bindings) := by
  induction bindings generalizing table with
  | nil => exact fun _ h => h
  | cons binding rest ih =>
    obtain ⟨key, binding⟩ := binding
    have hone : table.KeysIn (table.appendOne key binding) := by
      cases binding with
      | value v => exact keysIn_insert table _
      | typed v type => exact keysIn_insert table _
      | descriptor parameter => exact keysIn_insert table _
    exact hone.trans (ih _)

/-- A name that is bound stays bound when a parameter is inserted. -/
theorem namesIn_insert (table : ParamTable) (parameter : Parameter) :
    table.NamesIn (table.insert parameter) :=
  (keysIn_insert table parameter).namesIn

/-- It stays bound when a value is bound to a generated name. -/
theorem namesIn_bind (table : ParamTable) (base : String) (value : Value)
    (type? : Option FieldType) : table.NamesIn (table.bind base value type?).2 :=
  ((keysIn_keyed_insert table _ _).trans (keysIn_insert _ _)).namesIn

/-- It stays bound when parameters are appended. -/
theorem namesIn_append (table : ParamTable) (bindings : List (String × Binding)) :
    table.NamesIn (table.append bindings) :=
  (keysIn_append table bindings).namesIn

end EntityQuery.ParamTable
