import EntityQuery.Call.Plan
import EntityQuery.Proofs.Parameters.Allocation

namespace EntityQuery

/-- An operation on a session with its arguments. -/
inductive Operation
  | withConfig (config : Config)
  | fixAlias
  | qualify (name : String)
  | selectFromEntity (override? : Option String)
  | fromEntity
  | selectItems (names : List String)
  | addSelect (names : List String)
  | setDistinct (distinct : Bool)
  | addJoin (kind : JoinKind) (target tableAlias : String) (condition? : Option String)
  | setWhere (predicate : Expr)
  | attach (conjunction : Call.Conjunction) (predicate : Expr)
  | setHaving (predicate : Expr)
  | attachHaving (conjunction : Call.Conjunction) (predicate : Expr)
  | pushOrder (replace : Bool) (text : String) (direction? : Option Direction)
  | setGroupBy (names : List String)
  | addGroupBy (names : List String)
  | toUpdate
  | toDelete
  | assign (field : String) (value : Value)
  | limit (max : Int64) (offset? : Option Int64)
  | paginate (page perPage : Int64)
  | paginateDefault (page : Int64)
  | setParameter (name : String) (value : Value) (type? : Option FieldType)
  | appendParameters (bindings : List (String × Binding))
  | paramNamed (base : String) (value : Value) (type? : Option FieldType)
  | param (value : Value) (type? : Option FieldType)
  | call (method : String) (args : List Value)

namespace Operation

/-- The session after an operation that succeeds. -/
def run (s : Session) : Operation → Except QueryError Session
  | withConfig config => (s.withConfig config).mapError fun fault => .argument (.config fault)
  | fixAlias => .ok s.fixAlias
  | qualify name => .ok (s.afterQualify name)
  | selectFromEntity override? => .ok (s.selectFromEntity override?)
  | fromEntity => .ok s.fromEntity
  | selectItems names => .ok (s.selectItems names)
  | addSelect names => .ok (s.addSelect names)
  | setDistinct distinct => .ok (s.setDistinct distinct)
  | addJoin kind target tableAlias condition? => .ok (s.addJoin kind target tableAlias condition?)
  | setWhere predicate => .ok (s.setWhere predicate)
  | attach conjunction predicate => .ok (s.attach conjunction predicate)
  | setHaving predicate => .ok (s.setHaving predicate)
  | attachHaving conjunction predicate => .ok (s.attachHaving conjunction predicate)
  | pushOrder replace text direction? => .ok (s.pushOrder replace text direction?)
  | setGroupBy names => .ok (s.setGroupBy names)
  | addGroupBy names => .ok (s.addGroupBy names)
  | toUpdate => .ok s.toUpdate
  | toDelete => .ok s.toDelete
  | assign field value => .ok (s.assign field value)
  | limit max offset? => (s.limit max offset?).mapError .argument
  | paginate page perPage => (s.paginate page perPage).mapError .argument
  | paginateDefault page => (s.paginateDefault page).mapError .argument
  | setParameter name value type? => .ok (s.setParameter name value type?)
  | appendParameters bindings => .ok (s.appendParameters bindings)
  | paramNamed base value type? => .ok (s.paramNamed base value type?).2
  | param value type? => .ok (s.param value type?).2
  | call method args => s.call method args

/-- The session after an operation. One that fails leaves the session as it was, but a call may
have fixed the alias. -/
def after (s : Session) : Operation → Session
  | call method args => (s.apply method args).2
  | other =>
    match other.run s with
    | .ok next => next
    | .error _ => s

end Operation

namespace Session

/-- A session to which a sequence of operations leads. -/
inductive Reachable : Session → Prop
  | new (entity : EntityMeta) : Reachable (new entity)
  | step {s : Session} (operation : Operation) (h : Reachable s) : Reachable (operation.after s)

/-- What a session's operations can do to the entity, the configuration, the parameters and the
assignments. -/
structure Follows (s t : Session) : Prop where
  entity : t.entity = s.entity
  config : t.config = s.config ∨ t.config.validate = .ok ()
  params : s.params.NamesIn t.params
  set : t.set = s.set ∨ ∃ target,
    t.set = s.set ++ [{ target, param := s.params.fresh s.config.paramBase }] ∧
      (Text.isAsciiWord s.config.paramBase →
        t.params.contains (s.params.fresh s.config.paramBase))

theorem Follows.refl (s : Session) : s.Follows s :=
  ⟨rfl, Or.inl rfl, .refl _, Or.inl rfl⟩

/-- Parameters may be rebound but not removed, so whatever keeps the names that are bound follows
the session. -/
theorem Follows.of_params {s t : Session} (hentity : t.entity = s.entity)
    (hconfig : t.config = s.config) (hparams : s.params.NamesIn t.params) (hset : t.set = s.set) :
    s.Follows t :=
  ⟨hentity, Or.inl hconfig, hparams, Or.inl hset⟩

/-- The session may be changed elsewhere. -/
theorem Follows.of_eq {s t : Session} (hentity : t.entity = s.entity)
    (hconfig : t.config = s.config) (hparams : t.params = s.params) (hset : t.set = s.set) :
    s.Follows t := by
  refine .of_params hentity hconfig ?_ hset
  rw [hparams]
  exact .refl _

theorem entity_afterQualify (s : Session) (name : String) :
    (s.afterQualify name).entity = s.entity :=
  s.resolver.entity_afterQualify name

theorem entity_selectFromEntity (s : Session) (override? : Option String) :
    (s.selectFromEntity override?).entity = s.entity := by
  cases override? with
  | none => rfl
  | some name =>
    change (s.resolver.withAlias name).entity = s.resolver.entity
    unfold AliasResolver.withAlias
    split
    · rfl
    · rfl

/-- Qualifying names changes nothing but the resolver, which keeps its entity. -/
theorem afterQualifyAll_eq (s : Session) (names : List String) :
    ∃ resolver : AliasResolver, resolver.entity = s.entity ∧
      s.afterQualifyAll names = { s with resolver } := by
  induction names generalizing s with
  | nil => exact ⟨s.resolver, rfl, rfl⟩
  | cons name rest ih =>
    obtain ⟨resolver, hentity, hrest⟩ := ih (s.afterQualify name)
    exact ⟨resolver, hentity.trans (s.entity_afterQualify name), hrest⟩

/-- Grouping changes nothing but the grouping and the resolver, which keeps its entity. -/
theorem addGroupBy_eq (s : Session) (names : List String) :
    ∃ (resolver : AliasResolver) (groupBy : List String), resolver.entity = s.entity ∧
      s.addGroupBy names = { s with resolver, groupBy } := by
  induction names generalizing s with
  | nil => exact ⟨s.resolver, s.groupBy, rfl, rfl⟩
  | cons name rest ih =>
    obtain ⟨resolver, groupBy, hentity, hrest⟩ := ih (s.pushGroup false name)
    exact ⟨resolver, groupBy, hentity.trans (s.entity_afterQualify name), hrest⟩

/-- The window is all that a successful limit changes. -/
theorem limit_eq {s t : Session} {max : Int64} {offset? : Option Int64}
    (h : s.limit max offset? = .ok t) :
    ∃ maxResults? firstResult?, t = { s with maxResults?, firstResult? } := by
  unfold limit at h
  split at h
  · cases h
  · cases offset? with
    | none =>
      cases h
      exact ⟨_, _, rfl⟩
    | some offset =>
      simp only at h
      split at h
      · cases h
      · cases h
        exact ⟨_, _, rfl⟩

/-- So does a page. -/
theorem paginate_eq {s t : Session} {page perPage : Int64} (h : s.paginate page perPage = .ok t) :
    ∃ maxResults? firstResult?, t = { s with maxResults?, firstResult? } := by
  rw [paginate] at h
  split at h
  · cases h
  · split at h
    · cases h
    · split at h
      · cases h
      · exact limit_eq h

/-- A change that has nothing to do with the window may be made before or after a limit. -/
theorem limit_commute {f : Session → Session}
    (hmax : ∀ s maxResults?, f { s with maxResults? } = { f s with maxResults? })
    (hwindow : ∀ s maxResults? firstResult?,
      f { s with maxResults?, firstResult? } = { f s with maxResults?, firstResult? })
    (s : Session) (max : Int64) (offset? : Option Int64) :
    (f s).limit max offset? = (s.limit max offset?).map f := by
  unfold limit
  split
  · rfl
  · cases offset? with
    | none => exact congrArg Except.ok (hmax s _).symm
    | some offset =>
      simp only
      split
      · rfl
      · exact congrArg Except.ok (hwindow s _ _).symm

/-- The same for a page, which sets both parts of the window. -/
theorem paginate_commute {f : Session → Session}
    (hmax : ∀ s maxResults?, f { s with maxResults? } = { f s with maxResults? })
    (hwindow : ∀ s maxResults? firstResult?,
      f { s with maxResults?, firstResult? } = { f s with maxResults?, firstResult? })
    (s : Session) (page perPage : Int64) :
    (f s).paginate page perPage = (s.paginate page perPage).map f := by
  unfold paginate
  split
  · rfl
  · split
    · rfl
    · split
      · rfl
      · exact limit_commute hmax hwindow s perPage _

/-- An assignment is to the parameter that it binds. -/
theorem follows_assign (s : Session) (field : String) (value : Value) :
    s.Follows (s.assign field value) where
  entity := rfl
  config := Or.inl rfl
  params := ParamTable.namesIn_bind _ _ _ _
  set := by
    refine Or.inr ⟨s.qualify field, rfl, fun hbase => ?_⟩
    have hself : (s.assign field value).params.get? (s.params.fresh s.config.paramBase) =
        some
          { name := s.params.fresh s.config.paramBase
            value
            type? := s.entity.typeOf? (s.resolver.strip (s.qualify field)) } :=
      ParamTable.get?_bind_self (leadingColons_of_isAsciiWord hbase)
    rw [ParamTable.contains_eq]
    exact Option.isSome_of_mem hself

/-- Calls bind parameters but assign nothing. -/
theorem follows_perform (s : Session) (call : Call.ParsedCall) (plan : Call.Plan) :
    s.Follows (Call.perform s call plan) := by
  cases plan with
  | condition bound? predicate =>
    cases bound? with
    | none => exact .of_eq rfl rfl rfl rfl
    | some bound => exact .of_params rfl rfl (ParamTable.namesIn_bind _ _ _ _) rfl
  | order replace direction? => exact .of_eq (entity_afterQualify s call.field) rfl rfl rfl
  | group replace => exact .of_eq (entity_afterQualify s call.field) rfl rfl rfl

/-- A call that is refused has at most fixed the alias. -/
theorem follows_apply (s : Session) (method : String) (args : List Value) :
    s.Follows (s.apply method args).2 := by
  rw [apply]
  split
  · exact .refl s
  · rename_i call hparse
    simp only
    have hentity := entity_afterQualify s call.field
    split
    · exact .of_eq hentity rfl rfl rfl
    · rename_i plan hplan
      have hperformed := follows_perform (s.afterQualify call.field) call plan
      exact ⟨hperformed.entity.trans hentity, hperformed.config, hperformed.params, hperformed.set⟩

/-- What holds of a session under every window holds after a change of the window, even if it is
refused. -/
theorem of_window {p : Session → Prop} {s : Session} {r : Except ArgumentFault Session}
    (h : ∀ t, r = .ok t → ∃ maxResults? firstResult?, t = { s with maxResults?, firstResult? })
    (hp : ∀ maxResults? firstResult?, p { s with maxResults?, firstResult? }) :
    p
      (match r.mapError QueryError.argument with
        | .ok next => next
        | .error _ => s) := by
  cases r with
  | error fault => exact hp s.maxResults? s.firstResult?
  | ok t =>
    obtain ⟨maxResults?, firstResult?, rfl⟩ := h t rfl
    exact hp maxResults? firstResult?

/-- Every operation keeps the entity, and either leaves the other three parts alone, or replaces the
configuration by a valid one, or adds parameters, or adds an assignment with its parameter. -/
theorem follows_after (s : Session) (operation : Operation) : s.Follows (operation.after s) := by
  cases operation with
  | withConfig config =>
    rw [Operation.after, Operation.run, withConfig]
    · cases hvalid : config.validate with
      | error fault => exact .refl s
      | ok _ => exact ⟨rfl, Or.inr hvalid, .refl _, Or.inl rfl⟩
    · simp
  | fixAlias => exact .of_eq rfl rfl rfl rfl
  | qualify name => exact .of_eq (entity_afterQualify s name) rfl rfl rfl
  | selectFromEntity override? => exact .of_eq (entity_selectFromEntity s override?) rfl rfl rfl
  | fromEntity =>
    change s.Follows s.fromEntity
    rw [fromEntity]
    split
    · exact .of_eq rfl rfl rfl rfl
    · exact .of_eq rfl rfl rfl rfl
  | selectItems names =>
    obtain ⟨resolver, hentity, hqualified⟩ := afterQualifyAll_eq s names
    change s.Follows (s.selectItems names)
    rw [selectItems, hqualified]
    exact .of_eq hentity rfl rfl rfl
  | addSelect names =>
    obtain ⟨resolver, hentity, hqualified⟩ := afterQualifyAll_eq s names
    change s.Follows (s.addSelect names)
    rw [addSelect, hqualified]
    exact .of_eq hentity rfl rfl rfl
  | setDistinct distinct => exact .of_eq rfl rfl rfl rfl
  | addJoin kind target tableAlias condition? =>
    exact .of_eq (entity_afterQualify s target) rfl rfl rfl
  | setWhere predicate => exact .of_eq rfl rfl rfl rfl
  | attach conjunction predicate => exact .of_eq rfl rfl rfl rfl
  | setHaving predicate => exact .of_eq rfl rfl rfl rfl
  | attachHaving conjunction predicate => exact .of_eq rfl rfl rfl rfl
  | pushOrder replace text direction? =>
    exact .of_eq (entity_afterQualify s text) rfl rfl rfl
  | setGroupBy names =>
    obtain ⟨resolver, groupBy, hentity, hgrouped⟩ := addGroupBy_eq { s with groupBy := [] } names
    change s.Follows ({ s with groupBy := [] }.addGroupBy names)
    rw [hgrouped]
    exact .of_eq hentity rfl rfl rfl
  | addGroupBy names =>
    obtain ⟨resolver, groupBy, hentity, hgrouped⟩ := addGroupBy_eq s names
    change s.Follows (s.addGroupBy names)
    rw [hgrouped]
    exact .of_eq hentity rfl rfl rfl
  | toUpdate => exact .of_eq rfl rfl rfl rfl
  | toDelete => exact .of_eq rfl rfl rfl rfl
  | assign field value => exact follows_assign s field value
  | limit max offset? =>
    exact of_window (p := s.Follows) (fun _ h => limit_eq h) fun _ _ => .of_eq rfl rfl rfl rfl
  | paginate page perPage =>
    exact of_window (p := s.Follows) (fun _ h => paginate_eq h) fun _ _ => .of_eq rfl rfl rfl rfl
  | paginateDefault page =>
    exact of_window (p := s.Follows) (fun _ h => paginate_eq h) fun _ _ => .of_eq rfl rfl rfl rfl
  | setParameter name value type? => exact .of_params rfl rfl (ParamTable.namesIn_insert _ _) rfl
  | appendParameters bindings => exact .of_params rfl rfl (ParamTable.namesIn_append _ _) rfl
  | paramNamed base value type? => exact .of_params rfl rfl (ParamTable.namesIn_bind _ _ _ _) rfl
  | param value type? => exact .of_params rfl rfl (ParamTable.namesIn_bind _ _ _ _) rfl
  | call method args => exact follows_apply s method args

/-- For an operation that succeeds, both ways to run it lead to the same session. -/
theorem after_of_run {s t : Session} {operation : Operation} (h : operation.run s = .ok t) :
    operation.after s = t := by
  cases operation with
  | call method args =>
    rw [Operation.run, call] at h
    split at h
    · rename_i next happly
      cases h
      rw [Operation.after, happly]
    · cases h
  | _ => simp only [Operation.after, h]

/-- No operation changes the entity of a session. -/
theorem entity_run {s t : Session} {operation : Operation} (h : operation.run s = .ok t) :
    t.entity = s.entity := by
  rw [← after_of_run h]
  exact (follows_after s operation).entity

/-- The session after a sequence of operations that all succeed. -/
def runAll (s : Session) (operations : List Operation) : Except QueryError Session :=
  operations.foldlM (fun s operation => operation.run s) s

/-! ### Reachable sessions -/

/-- The configuration is valid, and every assignment is to a parameter that has a word for a name
and is bound. -/
structure Settled (s : Session) : Prop where
  config : s.config.validate = .ok ()
  set : ∀ a ∈ s.set, Text.isAsciiWord a.param ∧ s.params.contains a.param

/-- The parameters of a valid configuration have words for names. -/
theorem isAsciiWord_paramBase {config : Config} (h : config.validate = .ok ()) :
    Text.isAsciiWord config.paramBase := by
  unfold Config.validate at h
  split at h
  · cases h
  · split at h
    · cases h
    · split at h
      · cases h
      · rename_i hbase
        simpa using hbase

/-- The default configuration is valid, so new sessions are settled. -/
theorem validate_default : ({} : Config).validate = .ok () := by
  decide +kernel

/-- Assignments stay bound, since no operation removes a parameter, and new ones are to names that
the configuration makes words. -/
theorem Settled.follow {s t : Session} (hs : s.Settled) (h : s.Follows t) : t.Settled where
  config := by
    rcases h.config with hsame | hvalid
    · rw [hsame]
      exact hs.config
    · exact hvalid
  set := by
    have hold : ∀ a ∈ s.set, Text.isAsciiWord a.param ∧ t.params.contains a.param :=
      fun a ha => ⟨(hs.set a ha).1, h.params _ (hs.set a ha).2⟩
    intro a ha
    rcases h.set with hsame | ⟨target, hadded, hbound⟩
    · rw [hsame] at ha
      exact hold a ha
    · rw [hadded] at ha
      rcases List.mem_append.1 ha with ha | ha
      · exact hold a ha
      · obtain rfl := List.mem_singleton.1 ha
        have hbase := isAsciiWord_paramBase hs.config
        exact ⟨ParamTable.isAsciiWord_fresh _ hbase, hbound hbase⟩

/-- By induction on the operations that lead to the session: every assignment is to a bound word. -/
theorem Reachable.settled {s : Session} (h : s.Reachable) : s.Settled := by
  induction h with
  | new entity => exact ⟨validate_default, fun a ha => absurd ha List.not_mem_nil⟩
  | step operation _ ih => exact ih.follow (follows_after _ operation)

end Session

end EntityQuery
