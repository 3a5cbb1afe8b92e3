import EntityQuery.Proofs.Alias
import EntityQuery.Proofs.Session.Attachment
import EntityQuery.Proofs.Session.Head

namespace EntityQuery

/-! ### What an operation needs -/

namespace Operation

/-- The names that an operation qualifies. -/
def qualified (s : Session) : Operation → List String
  | qualify name => [name]
  | selectItems names => names
  | addSelect names => names
  | addJoin _ target _ _ => [target]
  | pushOrder _ text _ => [text]
  | setGroupBy names => names
  | addGroupBy names => names
  | assign field _ => [field]
  | call method args =>
    match Call.parse s.entity method args.length with
    | .ok parsed => [parsed.field]
    | .error _ => []
  | _ => []

/-- Whether an operation needs the alias. Only declared names need it to be qualified. -/
def needsAlias (s : Session) : Operation → Bool
  | fixAlias => true
  | selectFromEntity _ => true
  | assign _ _ => true
  | fromEntity => s.select.isEmpty
  | operation => (operation.qualified s).any s.resolver.qualifies

/-- The resolver that an operation asks for the alias. -/
def overridden (s : Session) : Operation → AliasResolver
  | selectFromEntity (some name) => s.resolver.withAlias name
  | _ => s.resolver

end Operation

namespace Session

variable {s : Session} {a : String}

/-! ### The alias after one operation -/

theorem resolver_afterQualifyAll (s : Session) (names : List String) :
    (s.afterQualifyAll names).resolver =
      if names.any s.resolver.qualifies then s.resolver.fix else s.resolver := by
  induction names generalizing s with
  | nil => rfl
  | cons name rest ih =>
    have hrest := ih (s.afterQualify name)
    have hqualifies : (s.afterQualify name).resolver.qualifies = s.resolver.qualifies :=
      funext fun field => s.resolver.qualifies_afterQualify name field
    change ((s.afterQualify name).afterQualifyAll rest).resolver = _
    rw [hrest, hqualifies, List.any_cons]
    change (if rest.any s.resolver.qualifies then (s.resolver.afterQualify name).fix
      else s.resolver.afterQualify name) = _
    rw [AliasResolver.afterQualify]
    cases s.resolver.qualifies name <;> cases rest.any s.resolver.qualifies <;> rfl

theorem resolver_addGroupBy (s : Session) (names : List String) :
    (s.addGroupBy names).resolver =
      if names.any s.resolver.qualifies then s.resolver.fix else s.resolver := by
  rw [← resolver_afterQualifyAll]
  have hsame {s t : Session} (h : s.resolver = t.resolver) :
      (s.addGroupBy names).resolver = (t.afterQualifyAll names).resolver := by
    induction names generalizing s t with
    | nil => exact h
    | cons name rest ih =>
      have hnext : (s.pushGroup false name).resolver = (t.afterQualify name).resolver :=
        congrArg (AliasResolver.afterQualify · name) h
      exact ih hnext
  exact hsame rfl

/-- Planned calls qualify the field of their call and nothing else, so no plan fixes the alias by
itself. -/
theorem resolver_perform (s : Session) (call : Call.ParsedCall) (plan : Call.Plan) :
    (Call.perform (s.afterQualify call.field) call plan).resolver =
      (s.afterQualify call.field).resolver := by
  cases plan with
  | condition bound? predicate =>
    cases bound? with
    | none => rfl
    | some bound => rfl
  | order replace direction? => exact s.resolver.afterQualify_afterQualify call.field
  | group replace => exact s.resolver.afterQualify_afterQualify call.field

/-- A call fixes the alias if the field that it names is qualified, whether it is refused later or
not. -/
theorem resolver_apply (s : Session) (method : String) (args : List Value) :
    (s.apply method args).2.resolver =
      if (Operation.call method args).needsAlias s then s.resolver.fix else s.resolver := by
  have hneeds : (Operation.call method args).needsAlias s =
      ((Operation.call method args).qualified s).any s.resolver.qualifies := rfl
  rw [hneeds, Operation.qualified, apply]
  cases hparse : Call.parse s.entity method args.length with
  | error e => rfl
  | ok call =>
    have hafter : (s.afterQualify call.field).resolver =
        if [call.field].any s.resolver.qualifies then s.resolver.fix else s.resolver := by
      rw [List.any_cons, List.any_nil, Bool.or_false]
      rfl
    simp only
    split
    · exact hafter
    · exact (resolver_perform s call _).trans hafter

/-- An operation that needs the alias fixes it, and no other operation touches it. -/
theorem resolver_after (s : Session) (operation : Operation) :
    (operation.after s).resolver =
      if operation.needsAlias s then (operation.overridden s).fix else s.resolver := by
  have hqualified (name : String) : (s.afterQualify name).resolver =
      if [name].any s.resolver.qualifies then s.resolver.fix else s.resolver := by
    rw [List.any_cons, List.any_nil, Bool.or_false]
    rfl
  cases operation with
  | withConfig config =>
    rw [Operation.after, Operation.run, withConfig]
    · cases config.validate with
      | error fault => rfl
      | ok _ => rfl
    · simp
  | qualify name => exact hqualified name
  | selectFromEntity override? =>
    cases override? with
    | none => rfl
    | some name => rfl
  | fromEntity =>
    change s.fromEntity.resolver = if s.select.isEmpty then s.resolver.fix else s.resolver
    rw [fromEntity]
    split
    · rfl
    · rfl
  | selectItems names => exact resolver_afterQualifyAll s names
  | addSelect names => exact resolver_afterQualifyAll s names
  | addJoin kind target tableAlias condition? => exact hqualified target
  | pushOrder replace text direction? => exact hqualified text
  | setGroupBy names => exact resolver_addGroupBy { s with groupBy := [] } names
  | addGroupBy names => exact resolver_addGroupBy s names
  | limit max offset? =>
    exact of_window (p := fun t => t.resolver = s.resolver) (fun _ h => limit_eq h)
      fun _ _ => rfl
  | paginate page perPage =>
    exact of_window (p := fun t => t.resolver = s.resolver) (fun _ h => paginate_eq h)
      fun _ _ => rfl
  | paginateDefault page =>
    exact of_window (p := fun t => t.resolver = s.resolver) (fun _ h => paginate_eq h)
      fun _ _ => rfl
  | call method args => exact resolver_apply s method args
  | _ => rfl

/-! ### An alias that was fixed all along -/

/-- The session with its alias fixed from the start. -/
def fixedTo (s : Session) (a : String) : Session :=
  { s with resolver := s.resolver.fixedTo a }

/-- Qualifying a name and fixing the alias from the start can be exchanged. -/
theorem afterQualify_fixedTo (s : Session) (name : String) :
    (s.fixedTo a).afterQualify name = (s.afterQualify name).fixedTo a := by
  have hentity : (s.resolver.afterQualify name).fixedTo a = s.resolver.fixedTo a := by
    rw [AliasResolver.fixedTo, AliasResolver.entity_afterQualify]
    rfl
  rw [afterQualify, fixedTo, afterQualify, fixedTo, hentity, AliasResolver.afterQualify_fixedTo]

theorem afterQualifyAll_fixedTo (s : Session) (names : List String) :
    (s.fixedTo a).afterQualifyAll names = (s.afterQualifyAll names).fixedTo a := by
  induction names generalizing s with
  | nil => rfl
  | cons name rest ih =>
    change ((s.fixedTo a).afterQualify name).afterQualifyAll rest = _
    rw [afterQualify_fixedTo, ih]
    rfl

/-- A name is qualified in the same way when the alias that it needs is the fixed one. -/
theorem qualify_fixedTo {name : String} (h : s.resolver.qualifies name → s.entityAlias = a) :
    (s.fixedTo a).qualify name = s.qualify name :=
  AliasResolver.qualify_fixedTo h

/-- The same for a list of names, of which only the qualified ones read the alias. -/
theorem map_qualify_fixedTo {names : List String}
    (h : names.any s.resolver.qualifies → s.entityAlias = a) :
    names.map (s.fixedTo a).qualify = names.map s.qualify := by
  apply List.map_congr_left
  intro name hname
  exact qualify_fixedTo fun hqualifies => h (List.any_eq_true.2 ⟨name, hname, hqualifies⟩)

/-- An ordering is stored in the same way, whether the alias was fixed from the start or is fixed
now. -/
theorem pushOrder_fixedTo {text : String} (h : s.resolver.qualifies text → s.entityAlias = a)
    (replace : Bool) (direction? : Option Direction) :
    (s.fixedTo a).pushOrder replace text direction? =
      (s.pushOrder replace text direction?).fixedTo a := by
  rw [pushOrder, qualify_fixedTo h, afterQualify_fixedTo]
  rfl

theorem pushGroup_fixedTo {name : String} (h : s.resolver.qualifies name → s.entityAlias = a)
    (replace : Bool) :
    (s.fixedTo a).pushGroup replace name = (s.pushGroup replace name).fixedTo a := by
  rw [pushGroup, qualify_fixedTo h, afterQualify_fixedTo]
  rfl

/-- Groupings are pushed one at a time, and each of them may be the one that fixes the alias. -/
theorem addGroupBy_fixedTo {names : List String}
    (h : names.any s.resolver.qualifies → s.entityAlias = a) :
    (s.fixedTo a).addGroupBy names = (s.addGroupBy names).fixedTo a := by
  induction names generalizing s with
  | nil => rfl
  | cons name rest ih =>
    have hfirst : s.resolver.qualifies name → s.entityAlias = a := fun hname =>
      h (by simp [hname])
    have hrest : rest.any (s.pushGroup false name).resolver.qualifies →
        (s.pushGroup false name).entityAlias = a := by
      have hqualifies : (s.pushGroup false name).resolver.qualifies = s.resolver.qualifies :=
        funext fun field => s.resolver.qualifies_afterQualify name field
      have halias : (s.pushGroup false name).entityAlias = s.entityAlias :=
        s.resolver.entityAlias_afterQualify name
      rw [hqualifies, halias]
      exact fun hany => h (by simp [hany])
    change ((s.fixedTo a).pushGroup false name).addGroupBy rest = _
    rw [pushGroup_fixedTo hfirst, ih hrest]
    rfl

/-! ### Dynamic calls -/

/-- The plan of a call depends on the configuration, the entity and the qualified field only. -/
theorem plan_congr {s t : Session} {method : String} {call : Call.ParsedCall} {args : List Value}
    (hconfig : s.config = t.config) (hentity : s.entity = t.entity)
    (hqualify : s.qualify call.field = t.qualify call.field) :
    Call.plan s method call args = Call.plan t method call args := by
  simp only [Call.plan, Call.planCompare, Call.planPattern, Call.planMembership,
    Call.planEmptiness, Call.coerceArgument, coerce, hconfig, hentity, hqualify]

/-- A plan reads the alias through the field of its call only, so the alias `a` has to be the
session's own if that field is qualified. -/
theorem perform_fixedTo {call : Call.ParsedCall}
    (h : s.resolver.qualifies call.field → s.entityAlias = a) (plan : Call.Plan) :
    Call.perform (s.fixedTo a) call plan = (Call.perform s call plan).fixedTo a := by
  cases plan with
  | condition bound? predicate =>
    cases bound? with
    | none => rfl
    | some bound => rfl
  | order replace direction? => exact pushOrder_fixedTo h replace direction?
  | group replace => exact pushGroup_fixedTo h replace

/-- A call has the same result and leaves the same session, up to the alias that was fixed. -/
theorem apply_fixedTo {method : String} {args : List Value}
    (h : ((Operation.call method args).qualified s).any s.resolver.qualifies →
      s.entityAlias = a) :
    (s.fixedTo a).apply method args =
      ((s.apply method args).1, (s.apply method args).2.fixedTo a) := by
  have hentity : (s.fixedTo a).entity = s.entity := rfl
  rw [apply, apply, hentity]
  rw [Operation.qualified] at h
  cases hparse : Call.parse s.entity method args.length with
  | error e => rfl
  | ok call =>
    rw [hparse] at h
    have hfield : (s.afterQualify call.field).resolver.qualifies call.field →
        (s.afterQualify call.field).entityAlias = a := by
      rw [afterQualify, AliasResolver.qualifies_afterQualify, entityAlias,
        AliasResolver.entityAlias_afterQualify]
      exact fun hqualifies => h (by simp [hqualifies])
    have hplan : Call.plan ((s.afterQualify call.field).fixedTo a) method call args =
        Call.plan (s.afterQualify call.field) method call args :=
      plan_congr rfl rfl (qualify_fixedTo hfield)
    simp only [afterQualify_fixedTo, hplan]
    cases Call.plan (s.afterQualify call.field) method call args with
    | error e => rfl
    | ok plan =>
      simp only
      rw [perform_fixedTo hfield]

/-! ### One operation -/

/-- Operations on the window keep the session as it was if they are refused, with the fixed alias as
without. -/
theorem window_fixedTo {r r' : Except ArgumentFault Session}
    (h : r' = r.map fun t => t.fixedTo a) :
    (match r'.mapError QueryError.argument with
      | .ok next => next
      | .error _ => s.fixedTo a) =
      (match r.mapError QueryError.argument with
      | .ok next => next
      | .error _ => s).fixedTo a := by
  subst h
  cases r with
  | error fault => rfl
  | ok t => rfl

theorem limit_fixedTo (max : Int64) (offset? : Option Int64) :
    (s.fixedTo a).limit max offset? = (s.limit max offset?).map fun t => t.fixedTo a :=
  limit_commute (f := fun t => t.fixedTo a) (fun _ _ => rfl) (fun _ _ _ => rfl) s max offset?

theorem paginate_fixedTo (page perPage : Int64) :
    (s.fixedTo a).paginate page perPage = (s.paginate page perPage).map fun t => t.fixedTo a :=
  paginate_commute (f := fun t => t.fixedTo a) (fun _ _ => rfl) (fun _ _ _ => rfl) s page perPage

/-- Selecting from the entity fixes the alias that it is asked to override, so `a` has to be that
one. -/
theorem selectFromEntity_fixedTo {override? : Option String}
    (h : ((Operation.selectFromEntity override?).overridden s).entityAlias = a) :
    (s.fixedTo a).selectFromEntity override? = (s.selectFromEntity override?).fixedTo a := by
  subst h
  cases override? with
  | none => rfl
  | some name =>
    have hentity : (s.resolver.withAlias name).entity = s.resolver.entity :=
      s.resolver.entity_withAlias name
    simp only [fixedTo, selectFromEntity, Operation.overridden, AliasResolver.fixedTo,
      AliasResolver.fix, hentity]
    rfl

/-- An assignment fixes the alias whatever its field is, so `a` has to be the session's own. -/
theorem assign_fixedTo (h : s.entityAlias = a) (field : String) (value : Value) :
    (s.fixedTo a).assign field value = (s.assign field value).fixedTo a := by
  have htarget : (s.fixedTo a).qualify field = s.qualify field := qualify_fixedTo fun _ => h
  have hstrip : (s.fixedTo a).resolver.strip = s.resolver.strip :=
    funext fun text => AliasResolver.strip_fixedTo h text
  have hentity : (s.fixedTo a).entity = s.entity := rfl
  simp only [assign, htarget, hstrip, hentity]
  rfl

/-- An operation does the same when the alias was fixed from the start, provided that the alias is
the one that the operation fixes. -/
theorem after_fixedTo {operation : Operation}
    (h : operation.needsAlias s → (operation.overridden s).entityAlias = a) :
    operation.after (s.fixedTo a) = (operation.after s).fixedTo a := by
  cases operation with
  | withConfig config =>
    rw [Operation.after, Operation.run, withConfig, Operation.after, Operation.run, withConfig]
    · cases config.validate with
      | error fault => rfl
      | ok _ => rfl
    · simp
    · simp
  | qualify name => exact afterQualify_fixedTo s name
  | selectFromEntity override? => exact selectFromEntity_fixedTo (h rfl)
  | fromEntity =>
    change (s.fixedTo a).fromEntity = s.fromEntity.fixedTo a
    have hselect : (s.fixedTo a).select = s.select := rfl
    rw [fromEntity, fromEntity, hselect]
    split
    · rename_i hempty
      have halias : s.entityAlias = a := h hempty
      rw [halias]
      rfl
    · rfl
  | selectItems names =>
    have hnames : names.map (s.fixedTo a).qualify = names.map s.qualify := map_qualify_fixedTo h
    change (s.fixedTo a).selectItems names = (s.selectItems names).fixedTo a
    rw [selectItems, hnames, afterQualifyAll_fixedTo]
    rfl
  | addSelect names =>
    have hnames : names.map (s.fixedTo a).qualify = names.map s.qualify := map_qualify_fixedTo h
    change (s.fixedTo a).addSelect names = (s.addSelect names).fixedTo a
    rw [addSelect, hnames, afterQualifyAll_fixedTo]
    rfl
  | addJoin kind target tableAlias condition? =>
    have htarget : (s.fixedTo a).qualify target = s.qualify target :=
      qualify_fixedTo fun hname => h (by simp [Operation.needsAlias, Operation.qualified, hname])
    change (s.fixedTo a).addJoin kind target tableAlias condition? =
      (s.addJoin kind target tableAlias condition?).fixedTo a
    rw [addJoin, htarget, afterQualify_fixedTo]
    rfl
  | pushOrder replace text direction? =>
    exact pushOrder_fixedTo
      (fun hname => h (by simp [Operation.needsAlias, Operation.qualified, hname])) replace
      direction?
  | setGroupBy names => exact addGroupBy_fixedTo (s := { s with groupBy := [] }) h
  | addGroupBy names => exact addGroupBy_fixedTo h
  | assign field value => exact assign_fixedTo (h rfl) field value
  | limit max offset? => exact window_fixedTo (limit_fixedTo max offset?)
  | paginate page perPage => exact window_fixedTo (paginate_fixedTo page perPage)
  | paginateDefault page => exact window_fixedTo (paginate_fixedTo page _)
  | call method args => exact congrArg Prod.snd (apply_fixedTo h)
  | _ => rfl

/-! ### A run of operations -/

/-- A fixed alias is not overridden. -/
theorem overridden_of_fixed (h : s.resolver.fixed? = some a) (operation : Operation) :
    operation.overridden s = s.resolver := by
  cases operation with
  | selectFromEntity override? =>
    cases override? with
    | none => rfl
    | some name => exact AliasResolver.withAlias_of_fixed h name
  | _ => rfl

/-- No operation changes an alias that is fixed. -/
theorem resolver_after_of_fixed (h : s.resolver.fixed? = some a) (operation : Operation) :
    (operation.after s).resolver = s.resolver := by
  rw [resolver_after, overridden_of_fixed h, AliasResolver.fix_of_fixed h, ite_self]

/-- From the moment when the alias is fixed, no run of operations changes how names are
qualified. -/
theorem resolver_afterAll_of_fixed (h : s.resolver.fixed? = some a)
    (operations : List Operation) : (s.afterAll operations).resolver = s.resolver := by
  induction operations generalizing s with
  | nil => rfl
  | cons operation rest ih =>
    have hnext := resolver_after_of_fixed h operation
    have hrest := ih (s := operation.after s) (by rw [hnext, h])
    exact hrest.trans hnext

/-- The alias that an operation needs is the alias from then on. -/
theorem fixed?_afterAll {operation : Operation} (h : operation.needsAlias s)
    (later : List Operation) :
    ((operation.after s).afterAll later).resolver.fixed? =
      some (operation.overridden s).entityAlias := by
  have hfixed :
      (operation.after s).resolver.fixed? = some (operation.overridden s).entityAlias := by
    rw [resolver_after, if_pos h]
    rfl
  rw [resolver_afterAll_of_fixed hfixed, hfixed]

/-- A run stores the same when the alias that it ends with was fixed from the start. -/
theorem afterAll_fixedTo {operations : List Operation}
    (h : (s.afterAll operations).entityAlias = a) :
    (s.fixedTo a).afterAll operations = (s.afterAll operations).fixedTo a := by
  induction operations generalizing s with
  | nil => rfl
  | cons operation rest ih =>
    have halias : operation.needsAlias s → (operation.overridden s).entityAlias = a := by
      intro hneeds
      rw [← h]
      exact (AliasResolver.entityAlias_of_fixed (fixed?_afterAll hneeds rest)).symm
    change (operation.after (s.fixedTo a)).afterAll rest = _
    rw [after_fixedTo halias]
    exact ih h

theorem afterAll_append (s : Session) (earlier later : List Operation) :
    s.afterAll (earlier ++ later) = (s.afterAll earlier).afterAll later :=
  List.foldl_append

/-- An operation that qualifies a declared name needs the alias that the session has. -/
theorem needsAlias_of_qualified {operation : Operation} {name : String}
    (hname : name ∈ operation.qualified s) (h : s.resolver.qualifies name) :
    operation.needsAlias s ∧ operation.overridden s = s.resolver := by
  have hany : (operation.qualified s).any s.resolver.qualifies :=
    List.any_eq_true.2 ⟨name, hname, h⟩
  cases operation with
  | selectFromEntity override? => cases hname
  | fromEntity => cases hname
  | fixAlias => cases hname
  | assign field value => exact ⟨rfl, rfl⟩
  | _ => exact ⟨hany, rfl⟩

end Session

end EntityQuery
