import EntityQuery.Alias
import EntityQuery.Proofs.Ident
import EntityQuery.Proofs.Names

namespace EntityQuery.AliasResolver

variable {r : AliasResolver} {name : String}

theorem qualifies_iff : r.qualifies name ↔ '.' ∉ name.toList ∧ r.entity.declares name := by
  rw [qualifies, Bool.and_eq_true, Bool.not_eq_true', ← Bool.not_eq_true, List.contains_iff_mem]

/-- A name is qualified by the alias that the resolver has or would get, so it does not matter
whether the alias is fixed. -/
theorem qualify_of_qualifies (h : r.qualifies name) :
    r.qualify name = r.entityAlias ++ "." ++ name := by
  rw [qualify, if_pos h]

theorem qualify_of_not_qualifies (h : r.qualifies name = false) : r.qualify name = name := by
  rw [qualify, h]
  rfl

/-- A declared word is qualified. -/
theorem qualifies_of_declares (hword : Text.isAsciiWord name) (hdeclared : r.entity.declares name) :
    r.qualifies name :=
  qualifies_iff.2 ⟨not_mem_dot_of_isAsciiWord hword, hdeclared⟩

/-! ### A fixed alias -/

variable {fixed : String}

/-- Once it is fixed, neither the override nor the declared alias counts. -/
theorem entityAlias_of_fixed (h : r.fixed? = some fixed) : r.entityAlias = fixed := by
  rw [entityAlias, h]

theorem fix_of_fixed (h : r.fixed? = some fixed) : r.fix = r := by
  rw [fix, entityAlias_of_fixed h, ← h]

/-- An override that comes after the alias was fixed changes nothing at all. -/
theorem withAlias_of_fixed (h : r.fixed? = some fixed) (name : String) : r.withAlias name = r := by
  rw [withAlias, h]

theorem entity_withAlias (r : AliasResolver) (name : String) :
    (r.withAlias name).entity = r.entity := by
  rw [withAlias]
  split <;> rfl

theorem qualifies_afterQualify (r : AliasResolver) (name field : String) :
    (r.afterQualify name).qualifies field = r.qualifies field := by
  rw [qualifies, qualifies, entity_afterQualify]

/-- The second time, the alias is fixed already or the name needs none. -/
theorem afterQualify_afterQualify (r : AliasResolver) (name : String) :
    (r.afterQualify name).afterQualify name = r.afterQualify name := by
  rw [afterQualify, qualifies_afterQualify]
  split
  · rename_i h
    rw [afterQualify, if_pos h]
    rfl
  · rfl

/-- Qualifying a name either needs the alias, and so fixes it, or leaves the resolver alone. -/
theorem afterQualify_cases (r : AliasResolver) (name : String) :
    r.afterQualify name = r ∨ r.afterQualify name = r.fix := by
  rw [afterQualify]
  split
  · exact Or.inr rfl
  · exact Or.inl rfl

/-- The resolver with its alias fixed from the start. -/
def fixedTo (r : AliasResolver) (fixed : String) : AliasResolver :=
  { entity := r.entity, fixed? := some fixed }

theorem afterQualify_fixedTo (r : AliasResolver) (name : String) :
    (r.fixedTo fixed).afterQualify name = r.fixedTo fixed := by
  rw [afterQualify]
  split <;> rfl

/-- A name is qualified by the same alias, unless it is not qualified at all. -/
theorem qualify_fixedTo (h : r.qualifies name → r.entityAlias = fixed) :
    (r.fixedTo fixed).qualify name = r.qualify name := by
  rw [qualify, qualify]
  split
  · rename_i hname
    rw [h hname]
    exact (if_pos hname).symm
  · rename_i hname
    exact (if_neg hname).symm

/-- Stripping looks at the alias itself, so it has to be the fixed one whatever the text is. -/
theorem strip_fixedTo (h : r.entityAlias = fixed) (text : String) :
    (r.fixedTo fixed).strip text = r.strip text := by
  rw [strip, strip, h]
  rfl

/-! ### Names behind the alias -/

theorem isPrefixOf?_append (qualifier name : String) :
    qualifier.toList.isPrefixOf? (qualifier ++ "." ++ name).toList = some ('.' :: name.toList) :=
  List.isPrefixOf?_eq_some_iff_append_eq.2 (by simp)

/-- What stands behind the alias and a dot is found again. -/
theorem strip_append (r : AliasResolver) (name : String) :
    r.strip (r.entityAlias ++ "." ++ name) = name := by
  rw [strip, isPrefixOf?_append]
  simp only [String.ofList_toList]

/-- A name that was qualified is found again. -/
theorem strip_qualify (h : r.qualifies name) : r.strip (r.qualify name) = name := by
  rw [qualify_of_qualifies h, strip_append]

/-- A text with a dot is taken as it is. -/
theorem qualify_of_mem_dot {text : String} (h : '.' ∈ text.toList) : r.qualify text = text := by
  refine qualify_of_not_qualifies ?_
  rw [← Bool.not_eq_true, qualifies_iff]
  exact fun hname => hname.1 h

/-- A name that stands behind the alias is not qualified again. -/
theorem qualify_append (r : AliasResolver) (name : String) :
    r.qualify (r.entityAlias ++ "." ++ name) = r.entityAlias ++ "." ++ name :=
  qualify_of_mem_dot (by simp)

/-- What was qualified has a dot, and so it is not qualified once more. -/
theorem qualify_qualify (r : AliasResolver) (text : String) :
    r.qualify (r.qualify text) = r.qualify text := by
  cases h : r.qualifies text with
  | false => rw [qualify_of_not_qualifies h, qualify_of_not_qualifies h]
  | true => rw [qualify_of_qualifies h, qualify_append]

theorem strip_afterQualify (r : AliasResolver) (name text : String) :
    (r.afterQualify name).strip text = r.strip text := by
  rw [strip, strip, entityAlias_afterQualify]

/-- Qualifying a text once more changes nothing, and a name that was qualified is found again, also
when the alias was fixed in between. -/
structure RoundTrips (r : AliasResolver) : Prop where
  qualify_again : ∀ text, r.qualify (r.qualify text) = r.qualify text
  qualify_after : ∀ text, (r.afterQualify text).qualify (r.qualify text) = r.qualify text
  strip_back : ∀ name, r.entity.declares name → '.' ∉ name.toList →
    r.strip (r.qualify name) = name
  strip_after : ∀ name, r.entity.declares name → '.' ∉ name.toList →
    (r.afterQualify name).strip (r.qualify name) = name

/-- Every resolver keeps names, whether its alias is fixed, overridden or neither. -/
theorem roundTrips (r : AliasResolver) : r.RoundTrips where
  qualify_again := r.qualify_qualify
  qualify_after text := (r.qualify_afterQualify text _).trans (r.qualify_qualify text)
  strip_back _ hdeclared hdot := strip_qualify (qualifies_iff.2 ⟨hdot, hdeclared⟩)
  strip_after name hdeclared hdot :=
    (r.strip_afterQualify name _).trans (strip_qualify (qualifies_iff.2 ⟨hdot, hdeclared⟩))

end EntityQuery.AliasResolver
