import EntityQuery.Coercion
import EntityQuery.Proofs.Results
import EntityQuery.Proofs.Value

namespace EntityQuery

variable {patterns : Patterns} {type : FieldType} {value coerced : Value}

/-- A value in the form of a type, if it has one. -/
def inFormOf (config : Config) (type? : Option FieldType) (value : Value) : Value :=
  match type? with
  | some type => (type.coerce (config.patterns none) value).toOption.getD value
  | none => value

/-- The recursion over the members of a list is the usual one, so what is known of that applies. -/
theorem FieldType.coerceAll_eq_mapM (items : List Value) :
    type.coerceAll patterns items = items.mapM (type.coerce patterns) := by
  induction items with
  | nil => rfl
  | cons item rest ih =>
    rw [coerceAll, List.mapM_cons, ih]
    cases type.coerce patterns item with
    | error fault => rfl
    | ok coerced => cases rest.mapM (type.coerce patterns) <;> rfl

/-- A list that is coerced has all its members coerced, each by itself. -/
theorem FieldType.coerceAll_ok {items results : List Value}
    (h : type.coerceAll patterns items = .ok results) :
    results = items.map fun value => (type.coerce patterns value).toOption.getD value := by
  induction items generalizing results with
  | nil =>
    cases h
    rfl
  | cons item rest ih =>
    rw [coerceAll] at h
    split at h
    · cases h
    · rename_i first hfirst
      obtain ⟨others, hrest, rfl⟩ := map_eq_ok h
      rw [List.map_cons, hfirst, ih hrest]
      rfl

/-- The fault of a value that cannot have the form of its field's type. -/
def EntityMeta.mismatch (entity : EntityMeta) (field : String) (type : FieldType) (value : Value) :
    ArgumentFault :=
  .mismatch entity.shortName field type value.kind value.toText

/-- The values of a declared field are coerced to its type, apart from those that a temporal field
leaves as they are. -/
theorem EntityMeta.coerce_declared {entity : EntityMeta} {field : String}
    (h : entity.typeOf? field = some type) (config : Config) (value : Value)
    (pattern : Option String) (skipTemporal : Bool) :
    entity.coerce config field value pattern skipTemporal =
      if type.isTemporal && (skipTemporal || value.isEmpty) then .ok value
      else (type.coerce (config.patterns pattern) value).mapError (entity.mismatch field type) := by
  simp only [coerce, h]
  split
  · rfl
  · cases type.coerce (config.patterns pattern) value <;> rfl

/-- The list without members is not coerced for a temporal field, and has no members then
either. -/
theorem EntityMeta.coerce_list_ok {entity : EntityMeta} {config : Config} {field : String}
    {items : List Value} {result : Value}
    (h : entity.coerce config field (.list items) none false = .ok result) :
    result = .list (items.map (inFormOf config (entity.typeOf? field))) := by
  unfold coerce at h
  cases htype : entity.typeOf? field with
  | none =>
    rw [htype] at h
    cases h
    have hsame : inFormOf config none = id := rfl
    rw [hsame, List.map_id]
  | some type =>
    simp only [htype] at h
    split at h
    · rename_i hempty
      obtain rfl : items = [] := by
        simpa [Value.isEmpty] using (Bool.and_eq_true_iff.1 hempty).2
      cases h
      rfl
    · simp only [FieldType.coerce] at h
      cases hitems : FieldType.coerceAll (config.patterns none) type items with
      | error fault =>
        rw [hitems] at h
        cases h
      | ok results =>
        rw [hitems] at h
        cases h
        rw [FieldType.coerceAll_ok hitems]
        rfl

/-! ### What coercion keeps -/

/-- What is made of a parsed text is a scalar if everything made like that is one. -/
theorem isScalar_of_map {α : Type} {found : Option α} {make : α → Value}
    (hmake : ∀ a, (make a).isScalar) (h : found.map make = some coerced) : coerced.isScalar := by
  obtain ⟨a, -, rfl⟩ := Option.map_eq_some_iff.1 h
  exact hmake a

/-- No scalar is coerced to null or to a list. -/
theorem FieldType.isScalar_coerceScalar? (hscalar : value.isScalar)
    (h : type.coerceScalar? patterns value = some coerced) : coerced.isScalar := by
  cases type with
  | string =>
    simp only [coerceScalar?] at h
    split at h
    · cases h
      rfl
    · cases h
      rfl
  | boolean =>
    cases h
    rfl
  | guid =>
    simp only [coerceScalar?] at h
    split at h
    · exact isScalar_of_map (fun _ => rfl) h
    · cases h
      exact hscalar
  | json =>
    cases h
    exact hscalar
  | other =>
    cases h
    exact hscalar
  | _ => exact isScalar_of_map (fun _ => rfl) h

/-- Coercion keeps lists with their lengths, and keeps what is no list from becoming one. -/
theorem FieldType.listLength?_coerce (h : type.coerce patterns value = .ok coerced) :
    coerced.listLength? = value.listLength? := by
  cases value with
  | null =>
    simp only [coerce] at h
    cases h
    rfl
  | list items =>
    simp only [coerce] at h
    obtain ⟨results, hitems, rfl⟩ := map_eq_ok h
    rw [coerceAll_ok hitems, Value.listLength?, Value.listLength?, List.length_map]
  | _ =>
    simp only [coerce] at h
    split at h
    · rename_i hfound
      cases h
      exact Value.listLength?_of_isScalar (isScalar_coerceScalar? rfl hfound)
    · cases h

/-- Only null is coerced to null. -/
theorem FieldType.ne_null_of_coerce (hvalue : value ≠ .null)
    (h : type.coerce patterns value = .ok coerced) : coerced ≠ .null := by
  cases value with
  | null => exact absurd rfl hvalue
  | list items =>
    simp only [coerce] at h
    obtain ⟨results, -, rfl⟩ := map_eq_ok h
    exact Value.noConfusion
  | _ =>
    simp only [coerce] at h
    split at h
    · rename_i hfound
      cases h
      exact Value.ne_null_of_isScalar (isScalar_coerceScalar? rfl hfound)
    · cases h

/-- Only null itself is null in the form of a field. -/
theorem inFormOf_ne_null {config : Config} {type? : Option FieldType} (hvalue : value ≠ .null) :
    inFormOf config type? value ≠ .null := by
  cases type? with
  | none => exact hvalue
  | some type =>
    rw [inFormOf]
    cases hcoerce : type.coerce (config.patterns none) value with
    | error fault => exact hvalue
    | ok coerced => exact FieldType.ne_null_of_coerce hvalue hcoerce

/-- The same for the value of a field, of whatever type and also of an undeclared name. -/
theorem EntityMeta.listLength?_coerce {entity : EntityMeta} {config : Config} {field : String}
    {pattern : Option String} {skipTemporal : Bool}
    (h : entity.coerce config field value pattern skipTemporal = .ok coerced) :
    coerced.listLength? = value.listLength? := by
  unfold coerce at h
  split at h
  · cases h
    rfl
  · split at h
    · cases h
      rfl
    · split at h
      · rename_i found hfound
        cases h
        exact FieldType.listLength?_coerce hfound
      · cases h

end EntityQuery
