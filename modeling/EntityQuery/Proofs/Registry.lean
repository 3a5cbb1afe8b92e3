import EntityQuery.Proofs.Keyed
import EntityQuery.Proofs.Names
import EntityQuery.Registry
import Mathlib.Data.List.Infix
import Mathlib.Data.List.Nodup

namespace EntityQuery

/-! ### Names with a path -/

namespace Text

variable {mark cs segment : List Char}

/-- There is nothing behind the last occurrence of a mark exactly if the mark does not occur. An
empty mark would occur everywhere. -/
theorem afterLast?_eq_none_iff (hmark : mark ≠ []) :
    afterLast? mark cs = none ↔ ¬ mark <:+: cs := by
  induction cs with
  | nil => simp [afterLast?, hmark]
  | cons c rest ih =>
    have hprefix : mark.isPrefixOf? (c :: rest) = none ↔ ¬ mark <+: c :: rest := by
      rw [← Option.not_isSome_iff_eq_none, List.isSome_isPrefixOf?_eq_isPrefixOf,
        List.isPrefixOf_iff_prefix]
    rw [afterLast?, Option.or_eq_none_iff, ih, hprefix, List.infix_cons_iff, not_or, and_comm]

/-- A mark that occurs is found where it occurs for the last time. -/
theorem of_afterLast?_eq_some (hmark : mark ≠ []) (h : afterLast? mark cs = some segment) :
    mark ++ segment <:+ cs ∧ ¬ mark <:+: segment := by
  induction cs with
  | nil => simp [afterLast?] at h
  | cons c rest ih =>
    rw [afterLast?, Option.or_eq_some_iff] at h
    rcases h with hlater | ⟨hnone, hhere⟩
    · obtain ⟨hsuffix, hlast⟩ := ih hlater
      exact ⟨hsuffix.trans (List.suffix_cons c rest), hlast⟩
    · have hsource : mark ++ segment = c :: rest := List.isPrefixOf?_eq_some_iff_append_eq.1 hhere
      refine ⟨by rw [hsource], fun hoccurs => ?_⟩
      -- The segment ends the rest of the text, in which the mark does not occur.
      obtain ⟨first, marks, rfl⟩ := List.exists_cons_of_ne_nil hmark
      rw [List.cons_append] at hsource
      obtain ⟨-, hrest⟩ := List.cons.inj hsource
      have hsuffix : segment <:+ rest := ⟨marks, hrest⟩
      exact (afterLast?_eq_none_iff hmark).1 hnone (hoccurs.trans hsuffix.isInfix)

variable {separator name : String}

/-- The last segment of a name ends the name and contains no mark. -/
theorem lastSegment_spec (hseparator : separator.toList ≠ []) :
    (lastSegment separator name).toList <:+ name.toList ∧
      ¬ separator.toList <:+: (lastSegment separator name).toList := by
  rw [lastSegment]
  cases h : afterLast? separator.toList name.toList with
  | none => exact ⟨List.suffix_rfl, (afterLast?_eq_none_iff hseparator).1 h⟩
  | some segment =>
    obtain ⟨hsuffix, hlast⟩ := of_afterLast?_eq_some hseparator h
    rw [String.toList_ofList]
    exact ⟨(List.suffix_append _ _).trans hsuffix, hlast⟩

/-- A name is its own last segment exactly if it has no separator. -/
theorem lastSegment_eq_self_iff (hseparator : separator.toList ≠ []) :
    lastSegment separator name = name ↔ ¬ separator.toList <:+: name.toList := by
  constructor
  · intro h
    have hlast : ¬ separator.toList <:+: (lastSegment separator name).toList :=
      (lastSegment_spec hseparator).2
    rwa [h] at hlast
  · intro h
    rw [lastSegment, (afterLast?_eq_none_iff hseparator).2 h]

end Text

/-- The short name of an entity has no module path. -/
theorem lastSegment_shortNameOf (name : String) :
    Text.lastSegment "::" (shortNameOf name) = shortNameOf name := by
  rw [Text.lastSegment_eq_self_iff (by decide), shortNameOf]
  intro hoccurs
  have hsuffix : (shortNameOf name).toList <:+ (Text.lastSegment "::" name).toList :=
    (Text.lastSegment_spec (by decide)).1
  exact (Text.lastSegment_spec (by decide)).2 (hoccurs.trans hsuffix.isInfix)

/-- The short name is the name behind the module path if there is no namespace in front of it. -/
theorem shortNameOf_eq_iff {name : String} :
    shortNameOf name = Text.lastSegment "::" name ↔
      '\\' ∉ (Text.lastSegment "::" name).toList := by
  have hmark : "\\".toList = ['\\'] := rfl
  rw [shortNameOf, Text.lastSegment_eq_self_iff (by decide), hmark, List.singleton_infix_iff]

/-! ### Registered entities -/

/-- A user whose name has a namespace in front of it. -/
def Samples.namespacedUser : EntityMeta :=
  { user with
    name := "App\\User"
    name_ne_empty := by decide }

namespace Registry

variable {registry next : Registry} {entity other : EntityMeta} {name : String}

/-- The registered entities, in the order of their short names. -/
def entities (registry : Registry) : List EntityMeta :=
  registry.entries.map Prod.snd

/-- Every entity stands under its short name, and no two of them under the same one. -/
structure IsKept (registry : Registry) : Prop where
  key : ∀ entry ∈ registry.entries, entry.1 = entry.2.shortName
  nodup : (registry.entries.map Prod.fst).Nodup

/-- In a kept registry the key of an entity is its short name, so there is no need to know both. -/
theorem IsKept.mem_iff (h : registry.IsKept) :
    (name, entity) ∈ registry.entries ↔ entity ∈ registry.entities ∧ entity.shortName = name := by
  rw [entities, List.mem_map]
  constructor
  · intro hmem
    exact ⟨⟨_, hmem, rfl⟩, (h.key _ hmem).symm⟩
  · rintro ⟨⟨⟨k, e⟩, hmem, rfl⟩, rfl⟩
    have hkey : k = e.shortName := h.key _ hmem
    rwa [← hkey]

theorem IsKept.map_fst (h : registry.IsKept) :
    registry.entries.map Prod.fst = registry.entities.map EntityMeta.shortName := by
  rw [entities, List.map_map]
  exact List.map_congr_left h.key

/-- A name finds the registered entity whose short name it has behind its module path. -/
theorem get_eq_ok_iff (h : registry.IsKept) :
    registry.get name = .ok entity ↔
      entity ∈ registry.entities ∧ entity.shortName = Text.lastSegment "::" name := by
  rw [← h.mem_iff, ← Keyed.lookup_eq_some_iff h.nodup, get]
  cases registry.entries.lookup (Text.lastSegment "::" name) with
  | none => simp
  | some found => simp

/-- An attempt at registering an entity is refused if its short name is taken, and otherwise adds
the entity to the others. -/
theorem insert_cases (h : registry.IsKept) (entity : EntityMeta) :
    (∃ other ∈ registry.entities, other.shortName = entity.shortName) ∧
        registry.insert entity = .error (.alreadyRegistered entity.shortName) ∨
      ∃ next, (∀ other ∈ registry.entities, other.shortName ≠ entity.shortName) ∧
        registry.insert entity = .ok next ∧
        next.entries.Perm ((entity.shortName, entity) :: registry.entries) := by
  have htaken : Keyed.contains entity.shortName registry.entries ↔
      ∃ other ∈ registry.entities, other.shortName = entity.shortName := by
    have hkeys : Keyed.contains entity.shortName registry.entries ↔
        entity.shortName ∈ registry.entries.map Prod.fst := by
      rw [Keyed.contains, List.lookup_isSome_iff]
      simp
    rw [hkeys, h.map_fst, List.mem_map]
  rw [insert]
  split
  · rename_i hcontains
    exact Or.inl ⟨htaken.1 hcontains, rfl⟩
  · rename_i hcontains
    rw [htaken] at hcontains
    have hnew : entity.shortName ∉ registry.entries.map Prod.fst := by
      rwa [h.map_fst, List.mem_map]
    exact Or.inr ⟨_, fun other hother heq => hcontains ⟨other, hother, heq⟩, rfl,
      Keyed.insert_perm hnew entity⟩

/-- The empty registry is kept, and so are all that registering leads to. -/
theorem isKept_empty : ({} : Registry).IsKept :=
  ⟨by simp, by simp⟩

/-- Registering an entity keeps the registry, since it stands under a short name that was not
taken. -/
theorem IsKept.insert (h : registry.IsKept) (hinsert : registry.insert entity = .ok next) :
    next.IsKept := by
  rcases insert_cases h entity with ⟨-, herror⟩ | ⟨added, hnew, hok, hperm⟩
  · rw [herror] at hinsert
    cases hinsert
  · obtain rfl : added = next := Except.ok.inj (hok.symm.trans hinsert)
    refine ⟨fun entry hentry => ?_, ?_⟩
    · rcases List.mem_cons.1 (hperm.mem_iff.1 hentry) with rfl | hold
      · rfl
      · exact h.key entry hold
    · rw [(hperm.map Prod.fst).nodup_iff, List.map_cons, List.nodup_cons, h.map_fst, List.mem_map]
      refine ⟨?_, by rw [← h.map_fst]; exact h.nodup⟩
      rintro ⟨other, hother, heq⟩
      exact hnew other hother heq

/-- What is registered behind a successful attempt. -/
theorem mem_entities_insert (h : registry.IsKept) (hinsert : registry.insert entity = .ok next) :
    other ∈ next.entities ↔ other = entity ∨ other ∈ registry.entities := by
  rcases insert_cases h entity with ⟨-, herror⟩ | ⟨added, -, hok, hperm⟩
  · rw [herror] at hinsert
    cases hinsert
  · obtain rfl : added = next := Except.ok.inj (hok.symm.trans hinsert)
    have hmem := (hperm.map Prod.snd).mem_iff (a := other)
    rwa [List.map_cons, List.mem_cons] at hmem

/-! ### A history of attempts -/

/-- The registry after an attempt at registering an entity. -/
def after (registry : Registry) (entity : EntityMeta) : Registry :=
  match registry.insert entity with
  | .ok next => next
  | .error _ => registry

/-- The registry after several attempts. -/
def afterAll (registry : Registry) (attempts : List EntityMeta) : Registry :=
  attempts.foldl after registry

theorem after_of_ok (h : registry.insert entity = .ok next) : registry.after entity = next := by
  rw [after, h]

theorem after_of_error {fault : MetadataFault} (h : registry.insert entity = .error fault) :
    registry.after entity = registry := by
  rw [after, h]

theorem afterAll_append (registry : Registry) (earlier later : List EntityMeta) :
    registry.afterAll (earlier ++ later) = (registry.afterAll earlier).afterAll later :=
  List.foldl_append

/-- An attempt keeps the registry, also one that is refused. -/
theorem IsKept.after (h : registry.IsKept) (entity : EntityMeta) :
    (registry.after entity).IsKept := by
  cases hinsert : registry.insert entity with
  | error fault =>
    rw [after_of_error hinsert]
    exact h
  | ok next =>
    rw [after_of_ok hinsert]
    exact h.insert hinsert

/-- Every run of attempts keeps the registry. -/
theorem IsKept.afterAll (h : registry.IsKept) (attempts : List EntityMeta) :
    (registry.afterAll attempts).IsKept := by
  induction attempts generalizing registry with
  | nil => exact h
  | cons entity rest ih => exact ih (h.after entity)

/-- No attempt removes an entity. -/
theorem mem_entities_after (h : registry.IsKept) (hmem : other ∈ registry.entities)
    (entity : EntityMeta) : other ∈ (registry.after entity).entities := by
  cases hinsert : registry.insert entity with
  | error fault => rwa [after_of_error hinsert]
  | ok next =>
    rw [after_of_ok hinsert, mem_entities_insert h hinsert]
    exact Or.inr hmem

/-- An entity that is registered stays so under every later attempt, since a short name that is
taken is refused. -/
theorem mem_entities_afterAll (h : registry.IsKept) (hmem : other ∈ registry.entities)
    (attempts : List EntityMeta) : other ∈ (registry.afterAll attempts).entities := by
  induction attempts generalizing registry with
  | nil => exact hmem
  | cons entity rest ih => exact ih (h.after entity) (mem_entities_after h hmem entity)

/-- An entity is registered in the end exactly if an attempt at registering it succeeded. -/
theorem mem_entities_afterAll_iff {attempts : List EntityMeta} :
    entity ∈ (afterAll {} attempts).entities ↔
      ∃ earlier later, attempts = earlier ++ entity :: later ∧
        ((afterAll {} earlier).insert entity).isOk := by
  constructor
  · intro hmem
    -- From the last attempt on, since whether an attempt succeeds depends on the ones before it.
    induction attempts using List.reverseRecOn with
    | nil => cases hmem
    | append_singleton rest last ih =>
      have hkept := isKept_empty.afterAll rest
      have hlast : afterAll {} (rest ++ [last]) = (afterAll {} rest).after last :=
        afterAll_append _ _ _
      rw [hlast] at hmem
      cases hinsert : (afterAll {} rest).insert last with
      | error fault =>
        rw [after_of_error hinsert] at hmem
        obtain ⟨earlier, later, rfl, hok⟩ := ih hmem
        exact ⟨earlier, later ++ [last], by simp, hok⟩
      | ok next =>
        rw [after_of_ok hinsert, mem_entities_insert hkept hinsert] at hmem
        rcases hmem with rfl | hold
        · exact ⟨rest, [], rfl, by rw [hinsert]; rfl⟩
        · obtain ⟨earlier, later, rfl, hok⟩ := ih hold
          exact ⟨earlier, later ++ [last], by simp, hok⟩
  · rintro ⟨earlier, later, rfl, hok⟩
    have hkept := isKept_empty.afterAll earlier
    cases hinsert : (afterAll {} earlier).insert entity with
    | error fault =>
      rw [hinsert] at hok
      cases hok
    | ok next =>
      have hmem : entity ∈ next.entities := (mem_entities_insert hkept hinsert).2 (Or.inl rfl)
      have hfinal : afterAll {} (earlier ++ entity :: later) = next.afterAll later := by
        rw [afterAll_append, afterAll, List.foldl_cons, after_of_ok hinsert, afterAll]
      rw [hfinal]
      exact mem_entities_afterAll (hkept.insert hinsert) hmem later

/-- An attempt fails exactly if the short name of the entity is taken. -/
theorem insert_eq_error_iff (h : registry.IsKept) (entity : EntityMeta) :
    (∃ fault, registry.insert entity = .error fault) ↔
      ∃ other ∈ registry.entities, other.shortName = entity.shortName := by
  rcases insert_cases h entity with ⟨htaken, herror⟩ | ⟨next, hnew, hok, -⟩
  · exact ⟨fun _ => htaken, fun _ => ⟨_, herror⟩⟩
  · constructor
    · rintro ⟨fault, herror⟩
      rw [hok] at herror
      cases herror
    · rintro ⟨other, hother, heq⟩
      exact absurd heq (hnew other hother)

/-- A registered entity is found by its short name. -/
theorem get_shortName (h : registry.IsKept) (hmem : entity ∈ registry.entities) :
    registry.get entity.shortName = .ok entity :=
  (get_eq_ok_iff h).2 ⟨hmem, (lastSegment_shortNameOf entity.name).symm⟩

/-- A registered entity is found by its name if no namespace is in front of it. -/
theorem get_name_iff (h : registry.IsKept) (hmem : entity ∈ registry.entities) :
    registry.get entity.name = .ok entity ↔
      '\\' ∉ (Text.lastSegment "::" entity.name).toList := by
  rw [get_eq_ok_iff h, and_iff_right hmem]
  exact shortNameOf_eq_iff

/-- What a registry answers after a history of attempts: every entity whose registration succeeded
is found by its name and by its short name, no two of the registered entities share a short name,
and an attempt that failed changed no answer. An attempt fails exactly if the short name is
taken. -/
structure AnswersAll (attempts : List EntityMeta) : Prop where
  found : ∀ earlier entity later, attempts = earlier ++ entity :: later →
    ((afterAll {} earlier).insert entity).isOk →
      (afterAll {} attempts).get entity.name = .ok entity ∧
        (afterAll {} attempts).get entity.shortName = .ok entity
  distinct : ((afterAll {} attempts).entities.map EntityMeta.shortName).Nodup
  refused : ∀ earlier entity later, attempts = earlier ++ entity :: later →
    ((∃ fault, (afterAll {} earlier).insert entity = .error fault) ↔
        ∃ other ∈ (afterAll {} earlier).entities, other.shortName = entity.shortName) ∧
      ∀ fault, (afterAll {} earlier).insert entity = .error fault →
        (afterAll {} (earlier ++ [entity])).size = (afterAll {} earlier).size ∧
          ∀ name, (afterAll {} (earlier ++ [entity])).get name = (afterAll {} earlier).get name

/-- A registry answers as it should after every history in which no entity is registered whose name
has a namespace behind its module path. By such a name the entity is not found. -/
theorem answersAll_iff (attempts : List EntityMeta) :
    AnswersAll attempts ↔
      ∀ entity ∈ (afterAll {} attempts).entities,
        '\\' ∉ (Text.lastSegment "::" entity.name).toList := by
  have hkept := isKept_empty.afterAll attempts
  constructor
  · intro hanswers entity hmem
    obtain ⟨earlier, later, hattempts, hok⟩ := mem_entities_afterAll_iff.1 hmem
    exact (get_name_iff hkept hmem).1 (hanswers.found earlier entity later hattempts hok).1
  · intro hnames
    refine ⟨fun earlier entity later hattempts hok => ?_, ?_, fun earlier entity later _ => ?_⟩
    · have hmem := mem_entities_afterAll_iff.2 ⟨earlier, later, hattempts, hok⟩
      exact ⟨(get_name_iff hkept hmem).2 (hnames entity hmem), get_shortName hkept hmem⟩
    · rw [← hkept.map_fst]
      exact hkept.nodup
    · refine ⟨insert_eq_error_iff (isKept_empty.afterAll earlier) entity, fun fault herror => ?_⟩
      have hsame : afterAll {} (earlier ++ [entity]) = afterAll {} earlier := by
        rw [afterAll_append]
        exact after_of_error herror
      rw [hsame]
      exact ⟨rfl, fun _ => rfl⟩

/-- A registered user in a namespace is found by the short name, and not by the name that it was
registered with. -/
theorem unanswered_namespaced_user :
    let registry := afterAll {} [Samples.namespacedUser]
    registry.names = ["User"] ∧
      registry.get "User" = .ok Samples.namespacedUser ∧
      registry.get "App\\User" = .error (.unknownEntity "App\\User") ∧
      ¬ AnswersAll [Samples.namespacedUser] := by
  refine ⟨by decide +kernel, by decide +kernel, by decide +kernel, fun hanswers => ?_⟩
  have hfound := (hanswers.found [] Samples.namespacedUser [] rfl (by decide +kernel)).1
  revert hfound
  decide +kernel

end Registry

end EntityQuery
