import EntityQuery.Proofs.Coercion
import EntityQuery.Proofs.Metadata
import EntityQuery.Proofs.Names

namespace EntityQuery

variable {patterns : Patterns} {type : FieldType} {raw value : Value}

/-- A scalar that a type gives to another one: of the kind of the type, or the same one. -/
def FieldType.Gives (type : FieldType) (raw value : Value) : Prop :=
  match type with
  | .string => value.kind = .string
  | .smallInt | .integer | .bigInt => value.kind = .int
  | .boolean => value.kind = .bool
  | .decimal => value.kind = .decimal
  | .float => value.kind = .float
  | .date => value.kind = .date
  | .time => value.kind = .time
  | .dateTime | .dateTimeTz => value.kind = .dateTime
  | .guid => value.kind ≠ .string ∧ (value.kind = .uuid ∨ value = raw)
  | .json | .other => value = raw

/-- Values of one list structure that are null at the same places and are related at the others. -/
inductive Value.Leafwise (related : Value → Value → Prop) : Value → Value → Prop
  | null : Leafwise related .null .null
  | scalar {raw value : Value} (hraw : raw.isScalar) (hvalue : value.isScalar)
      (hrelated : related raw value) : Leafwise related raw value
  | list {items results : List Value} (hitems : List.Forall₂ (Leafwise related) items results) :
      Leafwise related (.list items) (.list results)

/-- Values that are the same at all their scalars are the same. -/
theorem Value.Leafwise.eq (h : Leafwise (fun raw value => value = raw) raw value) :
    value = raw := by
  induction raw using Value.inductionOn generalizing value with
  | null =>
    cases h with
    | null => rfl
    | scalar hraw => cases hraw
  | scalar raw hraw =>
    cases h with
    | null => cases hraw
    | list => cases hraw
    | scalar _ _ hsame => exact hsame
  | list items ih =>
    cases h with
    | scalar hraw => cases hraw
    | list hitems =>
      have hsame := forall₂_of_forall_mem (S := fun a b => a = b) hitems
        fun item hitem _ h => (ih item hitem h).symm
      rw [List.forall₂_eq_eq_eq] at hsame
      rw [hsame]

namespace FieldType

theorem coerce_of_isScalar (h : raw.isScalar) :
    type.coerce patterns raw = (type.coerceScalar? patterns raw).elim (.error raw) .ok := by
  cases raw with
  | null => cases h
  | list items => cases h
  | _ =>
    simp only [coerce]
    split
    · rename_i hfound
      rw [hfound, Option.elim_some]
    · rename_i hfound
      rw [hfound, Option.elim_none]

/-- What is made of a parsed text has the kind of what is made. -/
theorem kind_of_map {α : Type} {found : Option α} {kind : ValueKind} (make : α → Value)
    (hmake : ∀ a, (make a).kind = kind) (h : found.map make = some value) :
    value.kind = kind := by
  obtain ⟨a, -, rfl⟩ := Option.map_eq_some_iff.1 h
  exact hmake a

/-- A scalar that is coerced has the kind of the declared type, one case for each type. Only for
identifiers, documents and other values may it stay as it is. -/
theorem gives_of_coerceScalar? (h : type.coerceScalar? patterns raw = some value) :
    type.Gives raw value := by
  cases type with
  | string =>
    change value.kind = .string
    simp only [coerceScalar?] at h
    split at h
    · cases h
      rfl
    · cases h
      rfl
  | smallInt | integer | bigInt =>
    exact kind_of_map .int (fun _ => rfl) h
  | boolean =>
    cases h
    exact (rfl : ValueKind.bool = .bool)
  | decimal => exact kind_of_map .decimal (fun _ => rfl) h
  | float => exact kind_of_map .float (fun _ => rfl) h
  | date => exact kind_of_map .date (fun _ => rfl) h
  | time => exact kind_of_map .time (fun _ => rfl) h
  | dateTime | dateTimeTz => exact kind_of_map .dateTime (fun _ => rfl) h
  | guid =>
    simp only [coerceScalar?] at h
    split at h
    · have hkind : value.kind = .uuid := kind_of_map .uuid (fun _ => rfl) h
      exact ⟨by simp [hkind], Or.inl hkind⟩
    · rename_i hstring
      cases h
      refine ⟨?_, Or.inr rfl⟩
      intro hkind
      cases raw <;> simp_all [Value.kind]
  | json | other =>
    cases h
    exact (rfl : raw = raw)

/-- What a type gives is left as it is by the type. -/
theorem coerceScalar?_of_gives (h : type.Gives raw value) :
    type.coerceScalar? patterns value = some value := by
  cases type with
  | string =>
    cases value with
    | string s => rfl
    | _ => cases (h : _ = ValueKind.string)
  | smallInt | integer | bigInt =>
    cases value with
    | int n => rfl
    | _ => cases (h : _ = ValueKind.int)
  | boolean =>
    cases value with
    | bool b => rfl
    | _ => cases (h : _ = ValueKind.bool)
  | decimal =>
    cases value with
    | decimal d => rfl
    | _ => cases (h : _ = ValueKind.decimal)
  | float =>
    cases value with
    | float x => rfl
    | _ => cases (h : _ = ValueKind.float)
  | date =>
    cases value with
    | date d => rfl
    | _ => cases (h : _ = ValueKind.date)
  | time =>
    cases value with
    | time t => rfl
    | _ => cases (h : _ = ValueKind.time)
  | dateTime | dateTimeTz =>
    cases value with
    | dateTime dt => rfl
    | _ => cases (h : _ = ValueKind.dateTime)
  | guid =>
    cases value with
    | string s => exact absurd rfl h.1
    | _ => rfl
  | json | other => rfl

/-- Coercion goes into lists and leaves nulls alone, and gives every scalar the form of the type. -/
theorem leafwise_of_coerce (h : type.coerce patterns raw = .ok value) :
    Value.Leafwise type.Gives raw value := by
  induction raw using Value.inductionOn generalizing value with
  | null =>
    cases h
    exact .null
  | scalar raw hraw =>
    rw [coerce_of_isScalar hraw] at h
    cases hfound : type.coerceScalar? patterns raw with
    | none =>
      rw [hfound] at h
      cases h
    | some coerced =>
      rw [hfound] at h
      cases h
      exact .scalar hraw (isScalar_coerceScalar? hraw hfound) (gives_of_coerceScalar? hfound)
  | list items ih =>
    rw [coerce] at h
    obtain ⟨results, hitems, rfl⟩ := map_eq_ok h
    rw [coerceAll_eq_mapM] at hitems
    exact .list (forall₂_of_forall_mem (forall₂_of_mapM_ok hitems) fun item hitem _ h =>
      ih item hitem h)

/-- A value that has the form already is left as it is, whatever the patterns are. -/
theorem coerce_of_leafwise (h : Value.Leafwise type.Gives raw value) :
    type.coerce patterns value = .ok value := by
  induction raw using Value.inductionOn generalizing value with
  | null =>
    cases h with
    | null => rfl
    | scalar hraw => cases hraw
  | scalar raw hraw =>
    cases h with
    | null => cases hraw
    | list => cases hraw
    | scalar _ hvalue hgives =>
      rw [coerce_of_isScalar hvalue, coerceScalar?_of_gives hgives, Option.elim_some]
  | list items ih =>
    cases h with
    | scalar hraw => cases hraw
    | list hitems =>
      have hkept :=
        forall₂_of_forall_mem (S := fun _ value => type.coerce patterns value = .ok value)
          hitems fun item hitem _ h => ih item hitem h
      rw [coerce, coerceAll_eq_mapM, mapM_eq_self_of_forall₂ hkept]
      rfl

end FieldType

namespace EntityMeta

variable {entity : EntityMeta} {config : Config} {field : String} {pattern : Option String}

/-- What becomes of a value of a field: the list structure and the nulls stay, and the other parts
have the form of the field's type. The empty text of a temporal field stays, and so does every value
of a field that holds anything and of a name that is no field. -/
structure IsCoerced (entity : EntityMeta) (field : String) (raw value : Value) : Prop where
  leafwise : ∀ type, entity.typeOf? field = some type →
    Value.Leafwise type.Gives raw value ∨ type.isTemporal ∧ raw = .string "" ∧ value = .string ""
  same : entity.typeOf? field = some .json ∨ entity.typeOf? field = some .other ∨
    entity.hasAssociation field ∨ ¬ entity.declares field → value = raw

/-- The same for the value of a field. The one exception is an empty text for a date or a time,
which stays as it is when it stands alone. -/
theorem leafwise_of_coerce {type : FieldType} (htype : entity.typeOf? field = some type)
    (h : entity.coerce config field raw pattern false = .ok value) :
    Value.Leafwise type.Gives raw value ∨
      type.isTemporal ∧ raw = .string "" ∧ value = .string "" := by
  rw [coerce_declared htype, Bool.false_or] at h
  split at h
  · rename_i hkeep
    obtain ⟨htemporal, hempty⟩ := Bool.and_eq_true_iff.1 hkeep
    cases h
    cases raw with
    | null => exact Or.inl .null
    | list items =>
      obtain rfl : items = [] := List.isEmpty_iff.1 hempty
      exact Or.inl (.list .nil)
    | string s =>
      obtain rfl : s = "" := beq_iff_eq.1 hempty
      exact Or.inr ⟨htemporal, rfl, rfl⟩
    | _ => cases hempty
  · exact Or.inl (FieldType.leafwise_of_coerce (mapError_eq_ok h))

/-- A coerced value is left as it is, whatever the configuration and the pattern. -/
theorem coerce_of_coerced (h : entity.coerce config field raw pattern false = .ok value)
    (config' : Config) (pattern' : Option String) :
    entity.coerce config' field value pattern' false = .ok value := by
  cases htype : entity.typeOf? field with
  | none => rw [coerce, htype]
  | some type =>
    rw [coerce_declared htype, Bool.false_or]
    split
    · rfl
    · rename_i hread
      rcases leafwise_of_coerce htype h with hleafwise | ⟨htemporal, -, rfl⟩
      · rw [FieldType.coerce_of_leafwise hleafwise]
        rfl
      · exact absurd (Bool.and_eq_true_iff.2 ⟨htemporal, rfl⟩) hread

/-- Documents, values without a type, associations and undeclared names are taken as they are. -/
theorem eq_of_coerce_of_same
    (hsame : entity.typeOf? field = some .json ∨ entity.typeOf? field = some .other ∨
      entity.hasAssociation field ∨ ¬ entity.declares field)
    (h : entity.coerce config field raw pattern false = .ok value) : value = raw := by
  rcases hsame with htype | htype | hname
  · rcases leafwise_of_coerce htype h with hleafwise | ⟨htemporal, -⟩
    · exact hleafwise.eq
    · cases htemporal
  · rcases leafwise_of_coerce htype h with hleafwise | ⟨htemporal, -⟩
    · exact hleafwise.eq
    · cases htemporal
  · rw [coerce, typeOf?_eq_none_of_not_field hname] at h
    cases h
    rfl

/-- What coercion returns has the form of the field, and coercing it again changes nothing. -/
theorem isCoerced_of_coerce (h : entity.coerce config field raw pattern false = .ok value) :
    entity.IsCoerced field raw value ∧
      ∀ config' pattern', entity.coerce config' field value pattern' false = .ok value :=
  ⟨⟨fun _ htype => leafwise_of_coerce htype h, fun hsame => eq_of_coerce_of_same hsame h⟩,
    coerce_of_coerced h⟩

/-- The numbers of a nested list are read where they stand, and the null among them stays. -/
theorem isCoerced_of_coerce_nested :
    let raw := .list [.string " 7 ", .null, .list [.bool true]]
    let value := .list [.int 7, .null, .list [.int 1]]
    Samples.user.coerce {} "id" raw none false = .ok value ∧
      Samples.user.IsCoerced "id" raw value ∧
      ∀ config' pattern', Samples.user.coerce config' "id" value pattern' false = .ok value := by
  intro raw value
  have hcoerce : Samples.user.coerce {} "id" raw none false = .ok value := by
    rfl
  exact ⟨hcoerce, isCoerced_of_coerce hcoerce⟩

end EntityMeta

end EntityQuery
