import EntityQuery.Proofs.Parameters.Allocation

namespace EntityQuery

/-- The parameter that a binding puts into a table. -/
def Binding.parameter (key : String) : Binding → Parameter
  | value v => .of key v none
  | typed v type => .of key v (some type)
  | descriptor parameter => parameter

namespace ParamTable

variable {table later : ParamTable} {name : String} {value : Value} {type? : Option FieldType}

/-- A name is answered with a value and its type. -/
def Answers (table : ParamTable) (name : String) (value : Value) (type? : Option FieldType) :
    Prop :=
  ∃ parameter, table.get? name = some parameter ∧ parameter.value = value ∧
    parameter.type? = type?

/-- The later table is the first one with a value bound to a name: the name is answered with the
value, and every other name as before. Names that differ in the colons in front of them only are
the same name. -/
structure Binds (table later : ParamTable) (name : String) (value : Value)
    (type? : Option FieldType) : Prop where
  found : later.Answers name value type?
  value : later.value? name = some value
  contained : later.contains name = true
  kept : ∀ other, lookupName other ≠ lookupName name → later.get? other = table.get? other

/-- The later table is the first one after its bindings were made one after the other: a value and a
value with a type are set under the key of the entry, and a descriptor is inserted. -/
inductive Appended : ParamTable → List (String × Binding) → ParamTable → Prop
  | nil {table : ParamTable} : Appended table [] table
  | value {table later : ParamTable} {key : String} {v : Value} {rest : List (String × Binding)}
      (h : Appended (table.set key v none) rest later) :
      Appended table ((key, .value v) :: rest) later
  | typed {table later : ParamTable} {key : String} {v : Value} {type : FieldType}
      {rest : List (String × Binding)} (h : Appended (table.set key v (some type)) rest later) :
      Appended table ((key, .typed v type) :: rest) later
  | descriptor {table later : ParamTable} {key : String} {parameter : Parameter}
      {rest : List (String × Binding)} (h : Appended (table.insert parameter) rest later) :
      Appended table ((key, .descriptor parameter) :: rest) later

/-! ### One binding -/

/-- Inserting a parameter changes the answer for the names that are looked up as its own, and for no
others. -/
theorem get?_insert (table : ParamTable) (parameter : Parameter) (name : String) :
    (table.insert parameter).get? name =
      if lookupName name = parameter.name then some parameter else table.get? name := by
  split
  · rename_i hname
    exact get?_insert_self hname
  · rename_i hname
    exact get?_insert_of_ne hname

/-- A binding is not seen under another name. -/
theorem get?_set_of_ne {other : String} (h : lookupName other ≠ lookupName name) :
    (table.set name value type?).get? other = table.get? other :=
  get?_insert_of_ne (lookupName_ne_bareName h)

/-- A name is found again after it was set, if it has one colon at most: setting takes one off, and
a look-up takes off all. -/
theorem get?_set_self (h : leadingColons name ≤ 1) :
    (table.set name value type?).get? name = some (.of name value type?) :=
  get?_insert_self (bareName_eq_lookupName h).symm

/-- With more colons the parameter is kept under a name that no look-up asks for. -/
theorem get?_set_of_colons (h : 1 < leadingColons name) (other : String) :
    (table.set name value type?).get? other = table.get? other :=
  get?_insert_of_ne (lookupName_ne_bareName_of_colons h)

/-- A table binds a name if it answers for it and answers as before for every other name. -/
theorem Answers.binds (h : later.Answers name value type?)
    (hkept : ∀ other, lookupName other ≠ lookupName name → later.get? other = table.get? other) :
    table.Binds later name value type? := by
  obtain ⟨parameter, hget, hvalue, htype⟩ := h
  refine ⟨⟨parameter, hget, hvalue, htype⟩, ?_, ?_, hkept⟩
  · rw [value?, hget, Option.map_some, hvalue]
  · rw [contains_eq, hget, Option.isSome_some]

/-- A value is found under the name that it was bound to if and only if the name has one colon at
most, or was answered with the same value before. -/
theorem binds_set_iff (table : ParamTable) (name : String) (value : Value)
    (type? : Option FieldType) :
    table.Binds (table.set name value type?) name value type? ↔
      leadingColons name ≤ 1 ∨ table.Answers name value type? := by
  have hkept : ∀ other, lookupName other ≠ lookupName name →
      (table.set name value type?).get? other = table.get? other := fun _ => get?_set_of_ne
  rcases Nat.lt_or_ge 1 (leadingColons name) with hcolons | hcolons
  · have hsame : (table.set name value type?).Answers name value type? ↔
        table.Answers name value type? := by
      rw [Answers, Answers, get?_set_of_colons hcolons]
    rw [or_iff_right (Nat.not_le.2 hcolons), ← hsame]
    exact ⟨Binds.found, fun h => h.binds hkept⟩
  · refine iff_of_true ?_ (Or.inl hcolons)
    have hfound : (table.set name value type?).Answers name value type? :=
      ⟨_, get?_set_self hcolons, rfl, rfl⟩
    exact hfound.binds hkept

/-! ### Several bindings -/

theorem appendOne_eq (table : ParamTable) (key : String) (binding : Binding) :
    table.appendOne key binding = table.insert (binding.parameter key) := by
  cases binding <;> rfl

theorem append_cons (table : ParamTable) (key : String) (binding : Binding)
    (rest : List (String × Binding)) :
    table.append ((key, binding) :: rest) = (table.appendOne key binding).append rest :=
  rfl

theorem append_concat (table : ParamTable) (bindings : List (String × Binding)) (key : String)
    (binding : Binding) :
    table.append (bindings ++ [(key, binding)]) =
      (table.append bindings).appendOne key binding := by
  rw [append, List.foldl_append]
  rfl

/-- Appending bindings one after another leads to one table only. -/
theorem appended_iff {bindings : List (String × Binding)} :
    table.Appended bindings later ↔ later = table.append bindings := by
  constructor
  · intro h
    induction h with
    | nil => rfl
    | value _ ih => exact ih
    | typed _ ih => exact ih
    | descriptor _ ih => exact ih
  · rintro rfl
    induction bindings generalizing table with
    | nil => exact .nil
    | cons entry rest ih =>
      obtain ⟨key, binding⟩ := entry
      cases binding with
      | value v => exact .value ih
      | typed v type => exact .typed ih
      | descriptor parameter => exact .descriptor ih

/-- A name is answered with the last parameter that was put under it. -/
theorem get?_append (table : ParamTable) (bindings : List (String × Binding)) (name : String) :
    (table.append bindings).get? name =
      ((bindings.reverse.map fun (key, binding) => binding.parameter key).find? fun parameter =>
        parameter.name = lookupName name).or (table.get? name) := by
  induction bindings generalizing table with
  | nil => rfl
  | cons entry rest ih =>
    obtain ⟨key, binding⟩ := entry
    rw [append_cons, ih, appendOne_eq, get?_insert, List.reverse_cons, List.map_append,
      List.find?_append, Option.or_assoc]
    congr 1
    by_cases hname : lookupName name = (binding.parameter key).name
    · simp [hname]
    · simp [hname, Ne.symm hname]

/-- A table is a map under the names that have one colon at most, and what is bound to any name
leaves the other names alone. Appending bindings is making them one after the other, the last one
under a name counts, and a descriptor is found under its own name, whatever the key of its entry. -/
theorem binds_iff_and_append (table : ParamTable) :
    (∀ name value type?, table.Binds (table.set name value type?) name value type? ↔
      leadingColons name ≤ 1 ∨ table.Answers name value type?) ∧
    (∀ name value type? other, lookupName other ≠ lookupName name →
      (table.set name value type?).get? other = table.get? other) ∧
    ∀ bindings : List (String × Binding),
      (∀ later, table.Appended bindings later ↔ later = table.append bindings) ∧
      (∀ name, (table.append bindings).get? name =
        ((bindings.reverse.map fun (key, binding) => binding.parameter key).find? fun parameter =>
          parameter.name = lookupName name).or (table.get? name)) ∧
      ∀ key own value type?, (table.append bindings).Binds
          (table.append (bindings ++ [(key, .descriptor (.of own value type?))])) own value type? ↔
        leadingColons own ≤ 1 ∨ (table.append bindings).Answers own value type? := by
  refine ⟨binds_set_iff table, fun _ _ _ _ => get?_set_of_ne, fun bindings =>
    ⟨fun _ => appended_iff, get?_append table bindings, fun key own value type? => ?_⟩⟩
  rw [append_concat]
  exact binds_set_iff (table.append bindings) own value type?

/-- What is bound to a name with two colons is not found under it. -/
theorem not_binds_behind_colons :
    ¬ (∀ (table : ParamTable) (name : String) (value : Value) (type? : Option FieldType),
      table.Binds (table.set name value type?) name value type?) ∧
      (({} : ParamTable).set "::x" (.string "kept") none).value? "::x" = none ∧
      (({} : ParamTable).set "::x" (.string "kept") none).contains "::x" = false := by
  refine ⟨fun hall => ?_, rfl, rfl⟩
  have hvalue := (hall {} "::x" (.string "kept") none).value
  cases hvalue

end ParamTable

end EntityQuery
