import EntityQuery.Metadata
import EntityQuery.Parameters
import EntityQuery.Sql.Segment
import Mathlib.Data.List.TakeWhile

namespace EntityQuery

/-! ### Colons in front of a name -/

/-- How many colons stand in front of a name. -/
def leadingColons (name : String) : Nat :=
  (name.toList.takeWhile (· == ':')).length

/-- A look-up takes off all colons in front of a name, and only those in front. -/
theorem toList_lookupName (name : String) :
    (lookupName name).toList = name.toList.dropWhile (· == ':') := by
  rw [lookupName, String.toList_ofList]

/-- Looking up a name leaves no colon in front of it. -/
theorem leadingColons_lookupName (name : String) : leadingColons (lookupName name) = 0 := by
  rw [leadingColons, toList_lookupName]
  induction name.toList with
  | nil => rfl
  | cons c rest ih =>
    by_cases hc : c = ':'
    · simpa [hc] using ih
    · simp [hc]

/-- A name without colons in front of it is looked up as it is. -/
theorem lookupName_of_leadingColons {name : String} (h : leadingColons name = 0) :
    lookupName name = name := by
  rw [leadingColons, List.length_eq_zero_iff] at h
  have hsplit := List.takeWhile_append_dropWhile (p := (· == ':')) (l := name.toList)
  rw [h, List.nil_append] at hsplit
  rw [lookupName, hsplit, String.ofList_toList]

theorem lookupName_lookupName (name : String) : lookupName (lookupName name) = lookupName name :=
  lookupName_of_leadingColons (leadingColons_lookupName name)

/-- A name loses one of its colons. -/
theorem leadingColons_bareName (name : String) :
    leadingColons (bareName name) = leadingColons name - 1 := by
  rw [bareName]
  split
  · rename_i rest hname
    simp [leadingColons, hname]
  · rename_i hcolon
    cases hname : name.toList with
    | nil => simp [leadingColons, hname]
    | cons c rest =>
      have hc : c ≠ ':' := fun hc => hcolon rest (by rw [hname, hc])
      simp [leadingColons, hname, hc]

/-- Taking off one colon first makes no difference to a look-up. -/
theorem lookupName_bareName (name : String) : lookupName (bareName name) = lookupName name := by
  rw [bareName]
  split
  · rename_i rest hname
    simp [lookupName, hname]
  · rfl

/-- A name with one colon at most is bound as it is looked up. -/
theorem bareName_eq_lookupName {name : String} (h : leadingColons name ≤ 1) :
    bareName name = lookupName name := by
  have hcolons : leadingColons (bareName name) = 0 := by
    rw [leadingColons_bareName]
    omega
  rw [← lookupName_of_leadingColons hcolons, lookupName_bareName]

/-- Names that are looked up apart are bound apart. -/
theorem lookupName_ne_bareName {name other : String} (h : lookupName other ≠ lookupName name) :
    lookupName other ≠ bareName name := by
  intro heq
  apply h
  rw [← lookupName_bareName name, ← heq, lookupName_lookupName]

/-! ### Words -/

/-- A word is read as a word of a statement. -/
theorem isAsciiWord_iff {name : String} :
    Text.isAsciiWord name ↔ ∃ first rest, name.toList = first :: rest ∧
      Sql.isWordStart first ∧ ∀ c ∈ rest, Sql.isWordChar c := by
  rw [Text.isAsciiWord]
  split
  · simp_all
  · rename_i first rest hname
    simp only [hname, Bool.and_eq_true, List.all_eq_true]
    constructor
    · rintro ⟨hfirst, hrest⟩
      exact ⟨first, rest, rfl, hfirst, hrest⟩
    · rintro ⟨_, _, heq, hfirst, hrest⟩
      obtain ⟨rfl, rfl⟩ := List.cons.inj heq
      exact ⟨hfirst, hrest⟩

theorem head?_ne_colon_of_isAsciiWord {name : String} (h : Text.isAsciiWord name) :
    name.toList.head? ≠ some ':' := by
  obtain ⟨first, rest, hname, hfirst, -⟩ := isAsciiWord_iff.1 h
  rw [hname, List.head?_cons, ne_eq, Option.some.injEq]
  rintro rfl
  revert hfirst
  decide

/-- No word begins with a colon. -/
theorem leadingColons_of_isAsciiWord {name : String} (h : Text.isAsciiWord name) :
    leadingColons name = 0 := by
  have hcolon := head?_ne_colon_of_isAsciiWord h
  cases hname : name.toList with
  | nil => simp [leadingColons, hname]
  | cons c rest =>
    have hc : c ≠ ':' := by simpa [hname] using hcolon
    simp [leadingColons, hname, hc]

/-- No word has a dot, so a declared word is qualified. -/
theorem not_mem_dot_of_isAsciiWord {name : String} (h : Text.isAsciiWord name) :
    '.' ∉ name.toList := by
  obtain ⟨first, rest, hname, hfirst, hrest⟩ := isAsciiWord_iff.1 h
  rw [hname, List.mem_cons]
  rintro (rfl | hdot)
  · exact absurd hfirst (by decide)
  · exact absurd (hrest _ hdot) (by decide)

/-! ### Generated names -/

theorem toList_candidate (base : String) (i : Nat) :
    (ParamTable.candidate base i).toList = base.toList ++ Nat.toDigits 10 i := by
  simp [ParamTable.candidate, Nat.toList_repr]

/-- The generated names of a word are words. -/
theorem isAsciiWord_candidate {base : String} (h : Text.isAsciiWord base) (i : Nat) :
    Text.isAsciiWord (ParamTable.candidate base i) := by
  obtain ⟨first, rest, hbase, hfirst, hrest⟩ := isAsciiWord_iff.1 h
  refine isAsciiWord_iff.2 ⟨first, rest ++ Nat.toDigits 10 i, ?_, hfirst, ?_⟩
  · simp [toList_candidate, hbase]
  · intro c hc
    rcases List.mem_append.1 hc with hc | hc
    · exact hrest c hc
    · have hdigit := Nat.isDigit_of_mem_toDigits (by decide) (by decide) hc
      simp [Sql.isWordChar, Char.isAlphanum, hdigit]

/-- A number begins with a digit, so it has no colons in front of it. -/
theorem takeWhile_colon_toDigits (i : Nat) : (Nat.toDigits 10 i).takeWhile (· == ':') = [] := by
  cases hdigits : Nat.toDigits 10 i with
  | nil => rfl
  | cons c rest =>
    have hdigit : c.isDigit :=
      Nat.isDigit_of_mem_toDigits (by decide) (by decide) (hdigits ▸ List.mem_cons_self)
    have hc : c ≠ ':' := by
      rintro rfl
      exact absurd hdigit (by decide)
    simp [hc]

/-- A generated name has the colons of its base. -/
theorem leadingColons_candidate (base : String) (i : Nat) :
    leadingColons (ParamTable.candidate base i) = leadingColons base := by
  rw [leadingColons, toList_candidate, List.takeWhile_append, takeWhile_colon_toDigits]
  split
  · rename_i hall
    simp [leadingColons, hall]
  · rfl

/-- The colons of a generated name are those of its base, so a look-up takes them off in the same
way. -/
theorem lookupName_candidate (base : String) (i : Nat) :
    lookupName (ParamTable.candidate base i) = ParamTable.candidate (lookupName base) i := by
  have hdigits : (Nat.toDigits 10 i).dropWhile (· == ':') = Nat.toDigits 10 i := by
    have hsplit := List.takeWhile_append_dropWhile (p := (· == ':')) (l := Nat.toDigits 10 i)
    rwa [takeWhile_colon_toDigits, List.nil_append] at hsplit
  apply String.toList_inj.1
  rw [toList_lookupName, toList_candidate, toList_candidate, toList_lookupName,
    List.dropWhile_append, hdigits]
  split
  · rename_i hempty
    rw [List.isEmpty_iff.1 hempty, List.nil_append]
  · rfl

/-- Different numbers give different names, since the digits of a number determine it. -/
theorem candidate_injective (base : String) : Function.Injective (ParamTable.candidate base) := by
  intro i j h
  have hdigits : Nat.toDigits 10 i = Nat.toDigits 10 j := by
    simpa [toList_candidate] using congrArg String.toList h
  calc
    i = Nat.ofDigitChars 10 (Nat.toDigits 10 i) 0 := Nat.ofDigitChars_ten_toDigits.symm
    _ = Nat.ofDigitChars 10 (Nat.toDigits 10 j) 0 := by rw [hdigits]
    _ = j := Nat.ofDigitChars_ten_toDigits

/-! ### Names of an entity -/

/-- The names that are declared are those of the fields and of the associations. -/
theorem EntityMeta.mem_names_of_declares {entity : EntityMeta} {name : String}
    (h : entity.declares name) : name ∈ entity.names := by
  rw [declares, Bool.or_eq_true] at h
  rw [names, declaredNames, List.mem_append]
  rcases h with h | h
  · left
    rw [hasField, field?, List.find?_isSome] at h
    obtain ⟨field, hmem, heq⟩ := h
    exact List.mem_map.2 ⟨field, hmem, by simpa using heq⟩
  · right
    rw [hasAssociation, association?, List.find?_isSome] at h
    obtain ⟨assoc, hmem, heq⟩ := h
    exact List.mem_map.2 ⟨assoc, hmem, by simpa using heq⟩

/-- Each of these names is declared. -/
theorem EntityMeta.declares_of_mem_names {entity : EntityMeta} {name : String}
    (h : name ∈ entity.names) : entity.declares name := by
  rw [names, declaredNames, List.mem_append] at h
  rw [declares, Bool.or_eq_true]
  rcases h with h | h
  · left
    obtain ⟨field, hmem, rfl⟩ := List.mem_map.1 h
    rw [hasField, field?, List.find?_isSome]
    exact ⟨field, hmem, beq_self_eq_true _⟩
  · right
    obtain ⟨assoc, hmem, rfl⟩ := List.mem_map.1 h
    rw [hasAssociation, association?, List.find?_isSome]
    exact ⟨assoc, hmem, beq_self_eq_true _⟩

/-- A declared name has a column. -/
theorem EntityMeta.exists_columnFor? {entity : EntityMeta} {name : String}
    (h : entity.declares name) : ∃ column, entity.columnFor? name = some column := by
  rw [columnFor?]
  cases hfield : entity.field? name with
  | some field => exact ⟨field.column, rfl⟩
  | none =>
    have hassoc : (entity.association? name).isSome := by
      simpa [declares, hasField, hasAssociation, hfield] using h
    obtain ⟨assoc, hassoc⟩ := Option.isSome_iff_exists.1 hassoc
    exact ⟨assoc.joinColumn, congrArg (Option.map AssociationMeta.joinColumn) hassoc⟩

/-- An entity whose fields and associations have words for names. -/
def EntityMeta.HasWordNames (entity : EntityMeta) : Prop :=
  ∀ name ∈ entity.names, Text.isAsciiWord name

namespace Samples

/-- A user of a team. -/
def user : EntityMeta where
  name := "User"
  table := "users"
  alias? := some "u"
  fields :=
    [{ name := "id", type := .bigInt, isId := true }, { name := "name", type := .string },
      { name := "createdAt", type := .dateTime, column := "created_at" }]
  associations := [{ name := "team", targetEntity := "Team", targetTable := "teams" }]
  name_ne_empty := by decide
  table_isOk := by decide +kernel
  alias_isOk := by decide +kernel
  names_nodup := by decide +kernel

theorem user_hasWordNames : user.HasWordNames := by
  unfold EntityMeta.HasWordNames
  decide +kernel

end Samples

end EntityQuery
