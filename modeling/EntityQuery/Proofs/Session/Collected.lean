import EntityQuery.Proofs.Alias
import EntityQuery.Proofs.Call.Contribution
import EntityQuery.Proofs.Session.Fragments
import EntityQuery.Proofs.Session.Operation
import EntityQuery.Proofs.Sql.Numbering

namespace EntityQuery.Session

open Sql

/-- A selection of which nothing was asked yet. Parameters may be bound, and rows may be limited. -/
structure IsFreshSelect (s : Session) : Prop where
  kind : s.kind = .select
  select : s.select = [] ∨ s.select = [s.entityAlias]
  joins : s.joins = []
  where? : s.where? = none
  having? : s.having? = none
  groupBy : s.groupBy = []
  orderBy : s.orderBy = []

/-- The atoms of the condition on rows. -/
def conditionAtoms (s : Session) : List Atom :=
  (s.where?.map Expr.atoms).getD []

/-- The placeholders of the condition on rows. -/
def conditionSlots (s : Session) : List (String × Bool) :=
  s.conditionAtoms.flatMap Atom.slots

/-- What holds of a session that calls made of the session `start`: the selection is still the same,
only the condition names placeholders, each of them once, and their values are those that were
added. -/
structure Collected (start s : Session) (added : List Value) : Prop where
  config : s.config = start.config
  entity : s.entity = start.entity
  entityAlias : s.entityAlias = start.entityAlias
  kind : s.kind = .select
  select : s.select = [] ∨ s.select = [start.entityAlias]
  joins : s.joins = []
  having? : s.having? = none
  groupBy : ∀ text ∈ s.groupBy, Yields start.entityAlias.toList text.toList []
  orderBy : ∀ entry ∈ s.orderBy, Yields start.entityAlias.toList entry.text.toList []
  scans : ∀ a ∈ s.conditionAtoms, a.Scans start.entityAlias.toList
  nodup : (s.conditionSlots.map Prod.fst).Nodup
  bound : ∀ slot ∈ s.conditionSlots, Text.isAsciiWord slot.1 ∧ s.params.contains slot.1
  values : s.conditionSlots.flatMap (slotValues s.params) = added

/-- The session of an entity, on which nothing was asked yet. -/
theorem isFreshSelect_new (entity : EntityMeta) : (new entity).IsFreshSelect :=
  ⟨rfl, Or.inl rfl, rfl, rfl, rfl, rfl, rfl⟩

theorem IsFreshSelect.selectFromEntity {s : Session} (h : s.IsFreshSelect)
    (override? : Option String) : (s.selectFromEntity override?).IsFreshSelect :=
  ⟨rfl, Or.inr rfl, h.joins, h.where?, h.having?, h.groupBy, h.orderBy⟩

/-- Nothing is collected at the start. -/
theorem IsFreshSelect.collected {start : Session} (h : start.IsFreshSelect) :
    Collected start start [] := by
  have hatoms : start.conditionAtoms = [] := by
    rw [conditionAtoms, h.where?]
    rfl
  have hslots : start.conditionSlots = [] := by
    rw [conditionSlots, hatoms]
    rfl
  exact
    { config := rfl
      entity := rfl
      entityAlias := rfl
      kind := h.kind
      select := h.select
      joins := h.joins
      having? := h.having?
      groupBy := by simp [h.groupBy]
      orderBy := by simp [h.orderBy]
      scans := by simp [hatoms]
      nodup := by simp [hslots]
      bound := by simp [hslots]
      values := by simp [hslots] }

variable {start s : Session} {added more : List Value}

theorem entityAlias_afterQualify (s : Session) (name : String) :
    (s.afterQualify name).entityAlias = s.entityAlias :=
  s.resolver.entityAlias_afterQualify name

theorem Collected.afterQualify (h : Collected start s added) (name : String) :
    Collected start (s.afterQualify name) added :=
  { h with
    entity := (s.entity_afterQualify name).trans h.entity
    entityAlias := (s.entityAlias_afterQualify name).trans h.entityAlias }

/-- The atoms of an attached predicate stand behind those of the earlier ones, so the placeholders
are in the order of the calls. -/
theorem atoms_combine (existing? : Option Expr) (conjunction : Call.Conjunction)
    (predicate : Expr) :
    (combine existing? conjunction predicate).atoms =
      (existing?.map Expr.atoms).getD [] ++ predicate.atoms := by
  cases existing? with
  | none => rfl
  | some existing =>
    cases conjunction with
    | or => exact Expr.atoms_orElse existing predicate
    | and => exact Expr.atoms_andThen existing predicate
    | none => exact Expr.atoms_andThen existing predicate

/-- A condition is attached behind the earlier ones. Its placeholders have to be new names, and the
earlier names have to keep their values. -/
theorem Collected.attach (h : Collected start s added) (params : ParamTable)
    (conjunction : Call.Conjunction) (predicate : Expr)
    (hkept : ∀ name, Text.isAsciiWord name → s.params.contains name →
      params.get? name = s.params.get? name)
    (hscans : ∀ a ∈ predicate.atoms, a.Scans start.entityAlias.toList)
    (hnodup : (predicate.slots.map Prod.fst).Nodup)
    (hnew : ∀ slot ∈ predicate.slots, Text.isAsciiWord slot.1 ∧ params.contains slot.1 ∧
      s.params.contains slot.1 = false) :
    Collected start ({ s with params }.attach conjunction predicate)
      (added ++ predicate.slots.flatMap (slotValues params)) := by
  have hatoms : ({ s with params }.attach conjunction predicate).conditionAtoms =
      s.conditionAtoms ++ predicate.atoms :=
    atoms_combine s.where? conjunction predicate
  have hslots : ({ s with params }.attach conjunction predicate).conditionSlots =
      s.conditionSlots ++ predicate.slots := by
    rw [conditionSlots, hatoms, List.flatMap_append]
    rfl
  have hsame : ∀ slot ∈ s.conditionSlots, params.get? slot.1 = s.params.get? slot.1 :=
    fun slot hslot => hkept slot.1 (h.bound slot hslot).1 (h.bound slot hslot).2
  refine
    { config := h.config
      entity := h.entity
      entityAlias := h.entityAlias
      kind := h.kind
      select := h.select
      joins := h.joins
      having? := h.having?
      groupBy := h.groupBy
      orderBy := h.orderBy
      scans := ?_
      nodup := ?_
      bound := ?_
      values := ?_ }
  · rw [hatoms]
    exact List.forall_mem_append.2 ⟨h.scans, hscans⟩
  -- A name of the new predicate was not bound before, and the earlier names were.
  · rw [hslots, List.map_append, List.nodup_append']
    refine ⟨h.nodup, hnodup, fun name hold hname => ?_⟩
    obtain ⟨slot, hslot, rfl⟩ := List.mem_map.1 hold
    obtain ⟨slot', hslot', heq⟩ := List.mem_map.1 hname
    have hcontains := (h.bound slot hslot).2
    rw [← heq, (hnew slot' hslot').2.2] at hcontains
    cases hcontains
  · rw [hslots]
    intro slot hslot
    rcases List.mem_append.1 hslot with hslot | hslot
    · obtain ⟨hword, hbound⟩ := h.bound slot hslot
      refine ⟨hword, ?_⟩
      rw [ParamTable.contains_eq] at hbound ⊢
      exact (congrArg Option.isSome (hsame slot hslot)).trans hbound
    · exact ⟨(hnew slot hslot).1, (hnew slot hslot).2.1⟩
  -- The earlier values are looked up in the new table, which keeps all names that were bound.
  · have hold : s.conditionSlots.flatMap (slotValues params) = added := by
      rw [← h.values]
      apply List.flatMap_congr
      intro slot hslot
      rw [slotValues, slotValues, ParamTable.value?, ParamTable.value?, hsame slot hslot]
    rw [hslots, List.flatMap_append]
    exact congrArg (· ++ predicate.slots.flatMap (slotValues params)) hold

/-- Carrying out a plan adds its values. -/
theorem Collected.perform (h : Collected start s added)
    (hbase : Text.isAsciiWord start.config.paramBase) {call : Call.ParsedCall} {plan : Call.Plan}
    (hcolumn : Yields start.entityAlias.toList (s.qualify call.field).toList [])
    (hplan : plan.Adds start.entityAlias.toList more) :
    Collected start (Call.perform s call plan) (added ++ more) := by
  rw [← h.config] at hbase
  have hcolons := leadingColons_of_isAsciiWord hbase
  -- The name of a new value is free, and the earlier ones are not touched by binding it.
  have hkept (value : Value) (type? : Option FieldType) (name : String)
      (hname : Text.isAsciiWord name) (hbound : s.params.contains name) :
      (s.params.bind s.config.paramBase value type?).2.get? name = s.params.get? name :=
    ParamTable.get?_bind_of_contains hcolons hbound
  cases hplan with
  | @bound value type? predicate inList hscans hslots =>
    have hword := ParamTable.isAsciiWord_fresh s.params hbase
    have hself : (s.params.bind s.config.paramBase value type?).2.get?
        (s.params.fresh s.config.paramBase) =
          some { name := s.params.fresh s.config.paramBase, value, type? } :=
      ParamTable.get?_bind_self hcolons
    have hslot := hslots (s.params.fresh s.config.paramBase)
    have hattached := h.attach (s.params.bind s.config.paramBase value type?).2 call.conjunction
      (predicate (s.params.fresh s.config.paramBase)) (hkept value type?) (hscans _ hword)
      (by simp [hslot]) fun slot hmem => by
        rw [hslot] at hmem
        obtain rfl := List.mem_singleton.1 hmem
        refine ⟨hword, ?_, ParamTable.contains_fresh s.params hcolons⟩
        rw [ParamTable.contains_eq, hself]
        rfl
    have hvalues : slotValues (s.params.bind s.config.paramBase value type?).2
        (s.params.fresh s.config.paramBase, inList) = value.parameters inList := by
      rw [slotValues, ParamTable.value?, hself]
      rfl
    rw [hslot, List.flatMap_singleton, hvalues] at hattached
    exact hattached
  | @unused bound? predicate hscans hslots =>
    cases bound? with
    | none =>
      have hattached := h.attach s.params call.conjunction (predicate "") (fun _ _ _ => rfl)
        (hscans "") (by simp [hslots]) (by simp [hslots])
      rw [hslots] at hattached
      exact hattached
    | some bound =>
      have hattached := h.attach (s.params.bind s.config.paramBase bound.1 bound.2).2
        call.conjunction (predicate (s.params.fresh s.config.paramBase)) (hkept bound.1 bound.2)
        (hscans _) (by simp [hslots]) (by simp [hslots])
      rw [hslots] at hattached
      exact hattached
  | order replace direction? =>
    rw [List.append_nil]
    refine { h.afterQualify call.field with orderBy := fun entry hentry => ?_ }
    rcases List.mem_append.1 hentry with hold | hnew
    · cases replace with
      | true => cases hold
      | false => exact h.orderBy entry hold
    · obtain rfl := List.mem_singleton.1 hnew
      exact hcolumn
  | group replace =>
    rw [List.append_nil]
    refine { h.afterQualify call.field with groupBy := fun text htext => ?_ }
    rcases List.mem_append.1 htext with hold | hnew
    · cases replace with
      | true => cases hold
      | false => exact h.groupBy text hold
    · obtain rfl := List.mem_singleton.1 hnew
      exact hcolumn

/-! ### Calls -/

theorem qualify_of_declares {field : String} (hword : Text.isAsciiWord field)
    (hdeclared : s.entity.declares field) : s.qualify field = s.entityAlias ++ "." ++ field :=
  AliasResolver.qualify_of_qualifies (AliasResolver.qualifies_of_declares hword hdeclared)

/-- The configuration is valid, and the alias and all declared names of the entity are words. -/
structure HasWords (start : Session) : Prop where
  config : start.config.validate = .ok ()
  entityAlias : Text.isAsciiWord start.entityAlias
  names : start.entity.HasWordNames

/-- A call that succeeds adds its contribution. The entity, the alias and the configuration are
those of the start, where `HasWords` holds. -/
theorem Collected.call (h : Collected start s added) (hstart : start.HasWords) {t : Session}
    {method : String} {args : List Value} (hcall : s.call method args = .ok t) :
    Collected start t (added ++ Call.contribution start.entity start.config method args) := by
  obtain ⟨call, plan, hparse, hplan, rfl⟩ := call_ok hcall
  have hdeclared := Call.declares_of_parse hparse
  rw [h.entity] at hparse
  have hqualified := h.afterQualify call.field
  have hfield : Text.isAsciiWord call.field := by
    apply hstart.names
    rw [← h.entity]
    exact EntityMeta.mem_names_of_declares hdeclared
  have hcolumn : Yields start.entityAlias.toList
      ((s.afterQualify call.field).qualify call.field).toList [] := by
    rw [← s.entity_afterQualify call.field] at hdeclared
    rw [qualify_of_declares hfield hdeclared, hqualified.entityAlias]
    exact yields_column hstart.entityAlias hfield
  have hadds := Call.adds_plan hcolumn hplan
  have hcontribution : Call.contribution start.entity start.config method args =
      Call.values (s.afterQualify call.field).entity (s.afterQualify call.field).config call
        args := by
    rw [Call.contribution, hparse, hqualified.entity, hqualified.config]
  rw [hcontribution]
  exact hqualified.perform (isAsciiWord_paramBase hstart.config) hcolumn hadds

/-- A sequence of calls adds the values of each of them in turn. -/
theorem Collected.runAll (h : Collected start s added) (hstart : start.HasWords) {t : Session}
    {calls : List (String × List Value)}
    (hcalls : s.runAll (calls.map fun call => .call call.1 call.2) = .ok t) :
    Collected start t
      (added ++ calls.flatMap fun call =>
        Call.contribution start.entity start.config call.1 call.2) := by
  induction calls generalizing s added with
  | nil =>
    cases hcalls
    simpa using h
  | cons call rest ih =>
    obtain ⟨next, hnext, hrest⟩ := foldlM_cons_eq_ok hcalls
    rw [List.flatMap_cons, ← List.append_assoc]
    exact ih (h.call hstart hnext) hrest

/-! ### The statement -/

/-- A fragment that can be written and has no placeholders. -/
def Fragment.IsQuiet (scope : Scope) (fragment : Fragment) : Prop :=
  (∀ reason, fragment ≠ .fault reason) ∧ placeholders (fragment.segments scope) = []

theorem isQuiet_plain (scope : Scope) (text : String) : (Fragment.plain text).IsQuiet scope :=
  ⟨by simp, rfl⟩

theorem isQuiet_resolved {scope : Scope} {text : String}
    (h : Yields scope.entityAlias.toList text.toList []) :
    (Fragment.resolved text).IsQuiet scope :=
  ⟨by simp, h.placeholders_eq⟩

/-- The head has neither joins nor items of the caller, so it has no placeholder. -/
theorem Collected.isQuiet_head (h : Collected start s added) :
    ∀ fragment ∈ s.headFragments, fragment.IsQuiet s.scope := by
  have hitems : ∀ item ∈ s.select, ∀ fragment ∈ s.selectItemFragments item,
      fragment.IsQuiet s.scope := by
    intro item hitem
    have halias : item = s.entityAlias := by
      rw [h.entityAlias]
      rcases h.select with hselect | hselect
      · rw [hselect] at hitem
        cases hitem
      · rw [hselect] at hitem
        exact List.mem_singleton.1 hitem
    rw [selectItemFragments, if_pos halias]
    simpa using isQuiet_plain s.scope _
  rw [headFragments, h.kind]
  simp only [selectFragments, h.joins, List.flatMap_nil]
  intro fragment hmem
  rcases List.mem_append.1 hmem with hmem | hmem
  · rcases List.mem_cons.1 hmem with rfl | hmem
    · exact isQuiet_plain s.scope _
    · split at hmem
      · obtain rfl := List.mem_singleton.1 hmem
        exact isQuiet_plain s.scope _
      · exact forall_mem_commaFragments (isQuiet_plain s.scope _) (List.forall_mem_map.2 hitems)
          fragment hmem
  · obtain rfl := List.mem_singleton.1 hmem
    exact isQuiet_plain s.scope _

theorem isSeparator_comma : IsSeparator ", ".toList :=
  ⟨by decide, by decide, by decide, by decide⟩

/-- Calls group by columns only. -/
theorem Collected.isQuiet_grouping (h : Collected start s added) :
    ∀ fragment ∈ s.groupingFragments, fragment.IsQuiet s.scope := by
  have hgroups : Yields s.entityAlias.toList (", ".intercalate s.groupBy).toList [] := by
    have hnone : s.groupBy.flatMap (fun _ => ([] : List (String × Bool))) = [] := by simp
    rw [String.toList_intercalate, h.entityAlias, ← hnone]
    exact yields_intercalate isSeparator_comma h.groupBy
  intro fragment hmem
  rw [groupingFragments, h.having?, predicateFragments, List.append_nil] at hmem
  split at hmem
  · cases hmem
  · rcases List.mem_cons.1 hmem with rfl | hmem
    · exact isQuiet_plain s.scope _
    · obtain rfl := List.mem_singleton.1 hmem
      exact isQuiet_resolved hgroups

/-- Calls order by columns only. -/
theorem Collected.isQuiet_ordering (h : Collected start s added) :
    ∀ fragment ∈ s.orderingFragments, fragment.IsQuiet s.scope := by
  have hentries : ∀ entry ∈ s.orderBy, ∀ fragment ∈ sortFragments entry,
      fragment.IsQuiet s.scope := by
    intro entry hentry fragment hmem
    have htext : Yields s.entityAlias.toList entry.text.toList [] := by
      rw [h.entityAlias]
      exact h.orderBy entry hentry
    rw [sortFragments] at hmem
    split at hmem
    · rcases List.mem_cons.1 hmem with rfl | hmem
      · exact isQuiet_resolved htext
      · obtain rfl := List.mem_singleton.1 hmem
        exact isQuiet_plain s.scope _
    · obtain rfl := List.mem_singleton.1 hmem
      exact isQuiet_resolved htext
  intro fragment hmem
  rw [orderingFragments] at hmem
  split at hmem
  · cases hmem
  · rcases List.mem_cons.1 hmem with rfl | hmem
    · exact isQuiet_plain s.scope _
    · exact forall_mem_commaFragments (isQuiet_plain s.scope _) (List.forall_mem_map.2 hentries)
        fragment hmem

theorem Collected.isQuiet_tail (h : Collected start s added) :
    ∀ fragment ∈ s.tailFragments, fragment.IsQuiet s.scope := by
  rw [tailFragments, h.kind]
  have hwindow : ∀ fragment ∈ [Fragment.plain s.windowText], fragment.IsQuiet s.scope := by
    simpa using isQuiet_plain s.scope _
  exact List.forall_mem_append.2
    ⟨List.forall_mem_append.2 ⟨h.isQuiet_grouping, h.isQuiet_ordering⟩, hwindow⟩

/-- Quiet fragments have no placeholder, one behind the other. -/
theorem placeholders_eq_nil_of_isQuiet {scope : Scope} {fragments : List Fragment}
    (h : ∀ fragment ∈ fragments, fragment.IsQuiet scope) :
    placeholders (fragments.flatMap (Fragment.segments scope)) = [] := by
  induction fragments with
  | nil => rfl
  | cons fragment rest ih =>
    rw [List.flatMap_cons, placeholders_append, (h fragment List.mem_cons_self).2,
      ih fun other hother => h other (List.mem_cons_of_mem _ hother)]
    rfl

/-- The condition on rows has the placeholders of its atoms. -/
theorem Collected.placeholders_where (h : Collected start s added) :
    placeholders (s.whereFragments.flatMap (Fragment.segments s.scope)) = s.conditionSlots := by
  have hscans := h.scans
  rw [whereFragments, conditionSlots]
  rw [conditionAtoms] at hscans ⊢
  cases hwhere : s.where? with
  | none => rfl
  | some predicate =>
    rw [hwhere] at hscans
    rw [predicateFragments]
    split
    · rename_i hempty
      have hatoms : predicate.atoms = [] := by
        rw [Expr.atoms, Expr.tokens_eq_nil_of_isEmpty hempty]
        rfl
      rw [Option.map_some, Option.getD_some, hatoms]
      rfl
    · have hyields : Yields s.entityAlias.toList predicate.toText.toList predicate.slots := by
        rw [h.entityAlias]
        exact Expr.yields_toText hscans
      rw [List.flatMap_cons, List.flatMap_singleton, placeholders_append]
      exact hyields.placeholders_eq

/-- All placeholders of the statement are those of its condition on rows. -/
theorem Collected.placeholders_statement (h : Collected start s added) :
    placeholders (s.statementFragments.flatMap (Fragment.segments s.scope)) = s.conditionSlots := by
  rw [statementFragments, List.flatMap_append, List.flatMap_append, placeholders_append,
    placeholders_append, placeholders_eq_nil_of_isQuiet h.isQuiet_head, h.placeholders_where,
    placeholders_eq_nil_of_isQuiet h.isQuiet_tail, List.nil_append, List.append_nil]

/-- No fragment of the statement is a fault, so only an unbound name could prevent it. -/
theorem Collected.not_fault (h : Collected start s added) (reason : ValidationFault) :
    .fault reason ∉ s.statementFragments := by
  intro hmem
  rcases List.mem_append.1 hmem with hmem | hmem
  · rcases List.mem_append.1 hmem with hmem | hmem
    · exact (h.isQuiet_head _ hmem).1 reason rfl
    · exact fault_not_mem_predicateFragments hmem
  · exact (h.isQuiet_tail _ hmem).1 reason rfl

/-- The statement of what was collected exists, and its parameters are the values that were
added. -/
theorem Collected.exists_build (h : Collected start s added) :
    ∃ sql, s.build = .ok ⟨sql, added⟩ := by
  have hplaceholders := h.placeholders_statement
  have hwritten : ∃ after, writeAll s.scope {} s.statementFragments = .ok after := by
    refine exists_writeAll {} h.not_fault fun name inList hmem => ?_
    rw [← mem_placeholders_iff, hplaceholders] at hmem
    exact ParamTable.exists_value_of_contains (h.bound _ hmem).2
  obtain ⟨after, hafter⟩ := hwritten
  have hnodup := h.nodup
  rw [← hplaceholders] at hnodup
  have hparams := params_of_foldlM (foldlM_of_writeAll hafter) hnodup fun _ _ => rfl
  rw [hplaceholders] at hparams
  have hadded : after.params = added := hparams.trans h.values
  refine ⟨after.sql, ?_⟩
  rw [build_eq, hafter, ← hadded]
  rfl

/-- The statement of a fresh selection on which calls were made exists, and its parameters are what
the calls contribute, one call after the other. -/
theorem exists_build_of_calls {start s : Session} {calls : List (String × List Value)}
    (hfresh : start.IsFreshSelect) (hstart : start.HasWords)
    (hcalls : start.runAll (calls.map fun call => .call call.1 call.2) = .ok s) :
    ∃ sql, s.build = .ok
      ⟨sql, calls.flatMap fun call =>
        Call.contribution start.entity start.config call.1 call.2⟩ := by
  have hcollected := hfresh.collected.runAll hstart hcalls
  rw [List.nil_append] at hcollected
  exact hcollected.exists_build

/-- Users by name, among some or among none, and without a date, in two orders. -/
def userCalls : List (String × List Value) :=
  [("filterByName", [.list [.string "Ada", .string "Grace"]]),
    ("idIn", [.list [.int 1, .string "2"]]), ("orNameLike", [.int 7]), ("teamNotIn", [.list []]),
    ("createdAtIsNull", []), ("nameIsNotEmpty", []), ("orderByName", [.string "desc"]),
    ("addOrderAscById", [])]

/-- Calls on users whose values are a whole list, the elements of another one, which are coerced,
and none at all. -/
theorem exists_build_of_calls_user :
    ((new Samples.user).selectFromEntity none).IsFreshSelect ∧
      ((new Samples.user).selectFromEntity none).HasWords ∧
        ∃ s, ((new Samples.user).selectFromEntity none).runAll
            (userCalls.map fun call => .call call.1 call.2) = .ok s ∧
          ∃ sql, s.build = .ok
            ⟨sql, [.list [.string "Ada", .string "Grace"], .int 1, .int 2, .string "7",
              .string ""]⟩ := by
  have hfresh := (isFreshSelect_new Samples.user).selectFromEntity none
  have hstart : ((new Samples.user).selectFromEntity none).HasWords :=
    ⟨validate_default, by decide +kernel, Samples.user_hasWordNames⟩
  have hsome : (((new Samples.user).selectFromEntity none).runAll
      (userCalls.map fun call => .call call.1 call.2)).toOption.isSome := by
    decide +kernel
  obtain ⟨s, hcalls⟩ := exists_ok_of_isSome hsome
  exact ⟨hfresh, hstart, s, hcalls, exists_build_of_calls hfresh hstart hcalls⟩

end EntityQuery.Session
