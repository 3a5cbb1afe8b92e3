import EntityQuery.Proofs.Call.Shape
import EntityQuery.Proofs.Session.Fragments
import EntityQuery.Proofs.Session.Operation
import EntityQuery.Proofs.Sql.Shape

namespace EntityQuery

/-- The same operation with values of the same shape. A call that takes the direction of an ordering
from its arguments takes the same one. -/
inductive Operation.SameShape (entity : EntityMeta) : Operation → Operation → Prop
  | same (operation : Operation) : SameShape entity operation operation
  | assign {v w : Value} (field : String) (h : v.listLength? = w.listLength?) :
      SameShape entity (.assign field v) (.assign field w)
  | setParameter {v w : Value} (name : String) (type? : Option FieldType)
      (h : v.listLength? = w.listLength?) :
      SameShape entity (.setParameter name v type?) (.setParameter name w type?)
  | appendParameters {bindings bindings' : List (String × Binding)}
      (h : List.Forall₂ (fun b c => b.1 = c.1 ∧ b.2.SameShape c.2) bindings bindings') :
      SameShape entity (.appendParameters bindings) (.appendParameters bindings')
  | paramNamed {v w : Value} (base : String) (type? : Option FieldType)
      (h : v.listLength? = w.listLength?) :
      SameShape entity (.paramNamed base v type?) (.paramNamed base w type?)
  | param {v w : Value} (type? : Option FieldType) (h : v.listLength? = w.listLength?) :
      SameShape entity (.param v type?) (.param w type?)
  | call {args args' : List Value} (method : String)
      (hargs : args.map Value.listLength? = args'.map Value.listLength?)
      (hdirection : ∀ call, Call.parse entity method args.length = .ok call →
        call.operator.TakesDirection → Call.directionOf args = Call.directionOf args') :
      SameShape entity (.call method args) (.call method args')

/-- A call whose operator takes no direction may have any arguments of the same shape. -/
theorem Operation.SameShape.of_operator {entity : EntityMeta} {method : String}
    {args args' : List Value} {operator : Call.Operator}
    (hoperator : (Call.parse entity method args.length).toOption.map Call.ParsedCall.operator =
      some operator)
    (hfree : ¬ operator.TakesDirection)
    (hargs : args.map Value.listLength? = args'.map Value.listLength?) :
    Operation.SameShape entity (.call method args) (.call method args') := by
  refine .call method hargs fun call hparse hdirection => ?_
  rw [hparse] at hoperator
  obtain rfl : call.operator = operator := Option.some.inj hoperator
  exact absurd hdirection hfree

namespace Session

/-- Two sessions that differ in nothing but the values of their parameters. -/
def SameShape (s t : Session) : Prop :=
  ∃ params, t = { s with params } ∧ s.params.shape = params.shape

theorem SameShape.refl (s : Session) : s.SameShape s :=
  ⟨s.params, rfl, rfl⟩

/-! ### Operations -/

theorem afterQualifyAll_withParams (s : Session) (params : ParamTable) (names : List String) :
    { s with params }.afterQualifyAll names = { s.afterQualifyAll names with params } := by
  induction names generalizing s with
  | nil => rfl
  | cons name rest ih => exact ih (s.afterQualify name)

theorem addGroupBy_withParams (s : Session) (params : ParamTable) (names : List String) :
    { s with params }.addGroupBy names = { s.addGroupBy names with params } := by
  induction names generalizing s with
  | nil => rfl
  | cons name rest ih => exact ih (s.pushGroup false name)

theorem fromEntity_withParams (s : Session) (params : ParamTable) :
    { s with params }.fromEntity = { s.fromEntity with params } := by
  unfold fromEntity
  split
  · rfl
  · rfl

theorem params_fromEntity (s : Session) : s.fromEntity.params = s.params := by
  unfold fromEntity
  split
  · rfl
  · rfl

theorem limit_withParams (s : Session) (params : ParamTable) (max : Int64)
    (offset? : Option Int64) :
    { s with params }.limit max offset? =
      (s.limit max offset?).map fun t => { t with params } :=
  limit_commute (f := fun t => { t with params }) (fun _ _ => rfl) (fun _ _ _ => rfl) s max offset?

theorem paginate_withParams (s : Session) (params : ParamTable) (page perPage : Int64) :
    { s with params }.paginate page perPage =
      (s.paginate page perPage).map fun t => { t with params } :=
  paginate_commute (f := fun t => { t with params }) (fun _ _ => rfl) (fun _ _ _ => rfl) s page
    perPage

/-- A condition with a value attaches its predicate over the fresh name, which does not depend on
the value. -/
theorem perform_bound (s : Session) (call : Call.ParsedCall) (value : Value)
    (type? : Option FieldType) (predicate : String → Expr) :
    Call.perform s call (.condition (some (value, type?)) predicate) =
      { s with params := (s.params.bind s.config.paramBase value type?).2 }.attach call.conjunction
        (predicate (s.params.fresh s.config.paramBase)) :=
  rfl

theorem sameShape_perform_bound {s t : Session} (hst : s.SameShape t) (call : Call.ParsedCall)
    {v w : Value} (hvalue : v.listLength? = w.listLength?) (type? : Option FieldType)
    (predicate : String → Expr) :
    (Call.perform s call (.condition (some (v, type?)) predicate)).SameShape
      (Call.perform t call (.condition (some (w, type?)) predicate)) := by
  obtain ⟨params, rfl, hshape⟩ := hst
  have hbound := ParamTable.shape_bind type? hshape s.config.paramBase hvalue
  refine ⟨(params.bind s.config.paramBase w type?).2, ?_, hbound⟩
  rw [perform_bound, perform_bound, ParamTable.fresh_congr hshape]
  rfl

/-- Plans of the same shape lead to sessions of the same shape. -/
theorem sameShape_perform {s t : Session} (hst : s.SameShape t) (call : Call.ParsedCall)
    {plan plan' : Call.Plan} (hplan : plan.SameShape plan') :
    (Call.perform s call plan).SameShape (Call.perform t call plan') := by
  cases hplan with
  | bound type? predicate hvalue => exact sameShape_perform_bound hst call hvalue type? predicate
  | same plan =>
    cases plan with
    | condition bound? predicate =>
      cases bound? with
      | some bound => exact sameShape_perform_bound hst call rfl bound.2 predicate
      | none =>
        obtain ⟨params, rfl, hshape⟩ := hst
        exact ⟨params, rfl, hshape⟩
    | order replace direction? =>
      obtain ⟨params, rfl, hshape⟩ := hst
      exact ⟨params, rfl, hshape⟩
    | group replace =>
      obtain ⟨params, rfl, hshape⟩ := hst
      exact ⟨params, rfl, hshape⟩

/-- Two calls of one method with arguments of the same shape. The direction of an ordering is part
of the text, so it has to be the same. -/
theorem sameShape_call {s t s' t' : Session} (hst : s.SameShape t) {method : String}
    {args args' : List Value} (hargs : args.map Value.listLength? = args'.map Value.listLength?)
    (hdirection : ∀ call, Call.parse s.entity method args.length = .ok call →
      call.operator.TakesDirection → Call.directionOf args = Call.directionOf args')
    (h : s.call method args = .ok s') (h' : t.call method args' = .ok t') : s'.SameShape t' := by
  obtain ⟨call, plan, hparse, hplan, rfl⟩ := call_ok h
  obtain ⟨call', plan', hparse', hplan', rfl⟩ := call_ok h'
  obtain ⟨params, rfl, hshape⟩ := hst
  have hlength : args.length = args'.length := by
    simpa using congrArg List.length hargs
  have hcall : call = call' := by
    rw [← hlength] at hparse'
    exact Except.ok.inj (hparse.symm.trans hparse')
  subst hcall
  have hplan' : Call.plan (s.afterQualify call.field) method call args' = .ok plan' := hplan'
  have hqualified : (s.afterQualify call.field).SameShape
      ({ s with params }.afterQualify call.field) :=
    ⟨params, rfl, hshape⟩
  exact sameShape_perform hqualified call
    (Call.sameShape_plan hargs (hdirection call hparse) hplan hplan')

/-- A window that both sessions get, or neither. -/
theorem sameShape_window {s' t' : Session} {r r' : Except ArgumentFault Session}
    {params : ParamTable} (hr : r' = r.map fun t => { t with params })
    (hparams : ∀ t, r = .ok t → t.params.shape = params.shape)
    (h : r.mapError QueryError.argument = .ok s') (h' : r'.mapError QueryError.argument = .ok t') :
    s'.SameShape t' := by
  subst hr
  cases r with
  | error fault => cases h
  | ok next =>
    cases h
    cases h'
    exact ⟨params, rfl, hparams _ rfl⟩

/-- An assignment sets its target to a fresh name, which does not depend on the value. -/
theorem assign_eq (s : Session) (field : String) (value : Value) :
    s.assign field value =
      { s.fixAlias with
        kind := .update
        set := s.set ++
          [{ target := s.qualify field, param := s.params.fresh s.config.paramBase }]
        params := (s.params.bind s.config.paramBase value
          (s.entity.typeOf? (s.resolver.strip (s.qualify field)))).2 } :=
  rfl

/-- Assigned values of the same shape lead to sessions of the same shape. -/
theorem sameShape_assign {s t : Session} (hst : s.SameShape t) (field : String) {v w : Value}
    (hvalue : v.listLength? = w.listLength?) : (s.assign field v).SameShape (t.assign field w) := by
  obtain ⟨params, rfl, hshape⟩ := hst
  refine ⟨_, ?_, ParamTable.shape_bind _ hshape s.config.paramBase hvalue⟩
  rw [assign_eq, assign_eq, ParamTable.fresh_congr hshape]
  rfl

theorem sameShape_setParameter {s t : Session} (hst : s.SameShape t) (name : String)
    (type? : Option FieldType) {v w : Value} (hvalue : v.listLength? = w.listLength?) :
    (s.setParameter name v type?).SameShape (t.setParameter name w type?) := by
  obtain ⟨params, rfl, hshape⟩ := hst
  exact ⟨params.set name w type?, rfl, ParamTable.shape_set hshape name hvalue⟩

theorem sameShape_appendParameters {s t : Session} (hst : s.SameShape t)
    {bindings bindings' : List (String × Binding)}
    (hbindings : List.Forall₂ (fun b c => b.1 = c.1 ∧ b.2.SameShape c.2) bindings bindings') :
    (s.appendParameters bindings).SameShape (t.appendParameters bindings') := by
  obtain ⟨params, rfl, hshape⟩ := hst
  exact ⟨params.append bindings', rfl, ParamTable.shape_append hshape hbindings⟩

/-- Values of one shape that are bound to fresh names lead to sessions of the same shape, since the
names depend on the bound names only. -/
theorem sameShape_paramNamed {s t : Session} (hst : s.SameShape t) (base : String)
    (type? : Option FieldType) {v w : Value} (hvalue : v.listLength? = w.listLength?) :
    (s.paramNamed base v type?).2.SameShape (t.paramNamed base w type?).2 := by
  obtain ⟨params, rfl, hshape⟩ := hst
  exact ⟨(params.bind base w type?).2, rfl, ParamTable.shape_bind _ hshape base hvalue⟩

/-- An operation without values does the same to sessions of the same shape. -/
theorem sameShape_run_same {s t s' t' : Session} (hst : s.SameShape t) (operation : Operation)
    (h : operation.run s = .ok s') (h' : operation.run t = .ok t') : s'.SameShape t' := by
  cases operation with
  | assign field value =>
    cases h
    cases h'
    exact sameShape_assign hst field rfl
  | setParameter name value type? =>
    cases h
    cases h'
    exact sameShape_setParameter hst name type? rfl
  | appendParameters bindings =>
    cases h
    cases h'
    exact sameShape_appendParameters hst
      (List.forall₂_same.2 fun b _ => ⟨rfl, Binding.SameShape.refl b.2⟩)
  | paramNamed base value type? =>
    cases h
    cases h'
    exact sameShape_paramNamed hst base type? rfl
  | param value type? =>
    obtain ⟨params, rfl, hshape⟩ := hst
    cases h
    cases h'
    exact sameShape_paramNamed ⟨params, rfl, hshape⟩ s.config.paramBase type? rfl
  | call method args => exact sameShape_call hst rfl (fun _ _ _ => rfl) h h'
  | withConfig config =>
    obtain ⟨params, rfl, hshape⟩ := hst
    simp only [Operation.run, withConfig] at h h'
    cases hvalid : config.validate with
    | error fault =>
      rw [hvalid] at h
      cases h
    | ok _ =>
      rw [hvalid] at h h'
      cases h
      cases h'
      exact ⟨params, rfl, hshape⟩
  | fromEntity =>
    obtain ⟨params, rfl, hshape⟩ := hst
    cases h
    cases h'
    exact ⟨params, fromEntity_withParams s params, by rwa [params_fromEntity]⟩
  | selectItems names =>
    obtain ⟨params, rfl, hshape⟩ := hst
    obtain ⟨resolver, -, hqualified⟩ := afterQualifyAll_eq s names
    cases h
    cases h'
    rw [selectItems, selectItems, afterQualifyAll_withParams s params, hqualified]
    exact ⟨params, rfl, hshape⟩
  | addSelect names =>
    obtain ⟨params, rfl, hshape⟩ := hst
    obtain ⟨resolver, -, hqualified⟩ := afterQualifyAll_eq s names
    cases h
    cases h'
    rw [addSelect, addSelect, afterQualifyAll_withParams s params, hqualified]
    exact ⟨params, rfl, hshape⟩
  | setGroupBy names =>
    obtain ⟨params, rfl, hshape⟩ := hst
    obtain ⟨resolver, groupBy, -, hgrouped⟩ := addGroupBy_eq { s with groupBy := [] } names
    cases h
    cases h'
    change ({ s with groupBy := [] }.addGroupBy names).SameShape
      ({ s with groupBy := [], params }.addGroupBy names)
    rw [addGroupBy_withParams { s with groupBy := [] } params, hgrouped]
    exact ⟨params, rfl, hshape⟩
  | addGroupBy names =>
    obtain ⟨params, rfl, hshape⟩ := hst
    obtain ⟨resolver, groupBy, -, hgrouped⟩ := addGroupBy_eq s names
    cases h
    cases h'
    rw [addGroupBy_withParams s params, hgrouped]
    exact ⟨params, rfl, hshape⟩
  | limit max offset? =>
    obtain ⟨params, rfl, hshape⟩ := hst
    refine sameShape_window (limit_withParams s params max offset?) (fun t ht => ?_) h h'
    obtain ⟨maxResults?, firstResult?, rfl⟩ := limit_eq ht
    exact hshape
  | paginate page perPage =>
    obtain ⟨params, rfl, hshape⟩ := hst
    refine sameShape_window (paginate_withParams s params page perPage) (fun t ht => ?_) h h'
    obtain ⟨maxResults?, firstResult?, rfl⟩ := paginate_eq ht
    exact hshape
  | paginateDefault page =>
    obtain ⟨params, rfl, hshape⟩ := hst
    refine sameShape_window (paginate_withParams s params page s.config.perPage)
      (fun t ht => ?_) h h'
    obtain ⟨maxResults?, firstResult?, rfl⟩ := paginate_eq ht
    exact hshape
  | _ =>
    -- The other operations do not look at the parameters.
    obtain ⟨params, rfl, hshape⟩ := hst
    cases h
    cases h'
    exact ⟨params, rfl, hshape⟩

/-- One operation on sessions of one shape, with values of one shape. -/
theorem sameShape_run {s t s' t' : Session} (hst : s.SameShape t) {operation operation' : Operation}
    (hsame : operation.SameShape s.entity operation') (h : operation.run s = .ok s')
    (h' : operation'.run t = .ok t') : s'.SameShape t' := by
  cases hsame with
  | same => exact sameShape_run_same hst operation h h'
  | assign field hvalue =>
    cases h
    cases h'
    exact sameShape_assign hst field hvalue
  | setParameter name type? hvalue =>
    cases h
    cases h'
    exact sameShape_setParameter hst name type? hvalue
  | appendParameters hbindings =>
    cases h
    cases h'
    exact sameShape_appendParameters hst hbindings
  | paramNamed base type? hvalue =>
    cases h
    cases h'
    exact sameShape_paramNamed hst base type? hvalue
  | param type? hvalue =>
    obtain ⟨params, rfl, hshape⟩ := hst
    cases h
    cases h'
    exact sameShape_paramNamed ⟨params, rfl, hshape⟩ s.config.paramBase type? hvalue
  | call method hargs hdirection => exact sameShape_call hst hargs hdirection h h'

/-! ### Statements -/

/-- Statements of one shape: the same text with equally many parameters, or the same fault. -/
theorem shape_writeAll (scope : Sql.Scope) {table : ParamTable}
    (htable : scope.table.shape = table.shape) (fragments : List Fragment) :
    (writeAll scope {} fragments).map Sql.Writer.shape =
      (writeAll { scope with table } {} fragments).map Sql.Writer.shape := by
  apply foldlM_map_congr Sql.Writer.shape _ fragments rfl
  intro w w' fragment h
  cases fragment with
  | plain text => exact congrArg Except.ok (Sql.Writer.shape_push h text)
  | resolved text => exact Sql.shape_pushText htable text h
  | fault reason => rfl

/-- The text and the number of parameters are those that the writer has. -/
theorem shape_finish (r : Except ValidationFault Sql.Writer) :
    (r.map Sql.Writer.finish).map BuiltQuery.shape =
      (r.map Sql.Writer.shape).map fun shape => (shape.1, shape.2.1) := by
  cases r with
  | error reason => rfl
  | ok w => rfl

/-- Sessions of the same shape have statements of the same shape, or none for the same reason. -/
theorem SameShape.build {s t : Session} (h : s.SameShape t) :
    s.build.map BuiltQuery.shape = t.build.map BuiltQuery.shape := by
  obtain ⟨params, rfl, hshape⟩ := h
  have hwritten := shape_writeAll s.scope hshape s.statementFragments
  rw [build_eq, build_eq, shape_finish, shape_finish, hwritten]
  rfl

/-- So do the statements that count their rows. -/
theorem SameShape.buildCount {s t : Session} (h : s.SameShape t) :
    s.buildCount.map BuiltQuery.shape = t.buildCount.map BuiltQuery.shape := by
  obtain ⟨params, rfl, hshape⟩ := h
  have hwritten := shape_writeAll s.scope hshape s.countFragments
  by_cases hkind : s.kind = .select
  · rw [buildCount_eq s hkind, buildCount_eq { s with params } hkind, shape_finish, shape_finish,
      hwritten]
    rfl
  · rw [buildCount_of_ne_select s hkind, buildCount_of_ne_select { s with params } hkind]

/-- Two runs of the same operations with values of the same shape lead to sessions of the same
shape, by induction on the runs. -/
theorem sameShape_runAll {s t s' t' : Session} (hst : s.SameShape t)
    {operations operations' : List Operation}
    (hsame : List.Forall₂ (Operation.SameShape s.entity) operations operations')
    (h : s.runAll operations = .ok s') (h' : t.runAll operations' = .ok t') :
    s'.SameShape t' := by
  generalize hentity : s.entity = entity at hsame
  induction hsame generalizing s t with
  | nil =>
    cases h
    cases h'
    exact hst
  | @cons operation operation' rest rest' hfirst _ ih =>
    obtain ⟨next, hnext, hrest⟩ := foldlM_cons_eq_ok h
    obtain ⟨next', hnext', hrest'⟩ := foldlM_cons_eq_ok h'
    rw [← hentity] at hfirst
    have hshape := sameShape_run hst hfirst hnext hnext'
    exact ih hshape hrest hrest' ((entity_run hnext).trans hentity)

/-- Values never reach the text. Two runs of the same operations that differ in nothing but their
values, each value in the one of the same shape as in the other, give statements of the same text
with equally many parameters, or fail in the same way. -/
theorem shape_build_eq_of_sameShape {start s t : Session} {operations operations' : List Operation}
    (hsame : List.Forall₂ (Operation.SameShape start.entity) operations operations')
    (hs : start.runAll operations = .ok s) (ht : start.runAll operations' = .ok t) :
    s.build.map BuiltQuery.shape = t.build.map BuiltQuery.shape ∧
      s.buildCount.map BuiltQuery.shape = t.buildCount.map BuiltQuery.shape := by
  have hshape := sameShape_runAll (.refl start) hsame hs ht
  exact ⟨hshape.build, hshape.buildCount⟩

/-- A search for users by name and among others, with a change of the name that is asked for. -/
def search (name : String) (ids : List Value) : List Operation :=
  [.call "filterByName" [.string name], .call "idIn" [.list ids],
    .call "orderById" [.string "desc"], .assign "name" (.string name)]

/-- The two searches have two members each, of which one is given in another form. -/
theorem search_sameShape :
    List.Forall₂ (Operation.SameShape (new Samples.user).entity)
      (search "Ada" [.int 1, .int 2]) (search "Grace" [.int 3, .string "4"]) := by
  have hfilter : (Call.parse Samples.user "filterByName" 1).toOption.map Call.ParsedCall.operator =
      some .filterBy := by
    decide +kernel
  have hmembers : (Call.parse Samples.user "idIn" 1).toOption.map Call.ParsedCall.operator =
      some .isIn := by
    decide +kernel
  exact .cons (.of_operator hfilter (by decide) rfl)
    (.cons (.of_operator hmembers (by decide) rfl)
      (.cons (.same _) (.cons (.assign _ rfl) .nil)))

/-- Two searches for users have the same statement with as many parameters. -/
theorem shape_build_eq_of_sameShape_search :
    List.Forall₂ (Operation.SameShape (new Samples.user).entity)
        (search "Ada" [.int 1, .int 2]) (search "Grace" [.int 3, .string "4"]) ∧
      ∃ s t, (new Samples.user).runAll (search "Ada" [.int 1, .int 2]) = .ok s ∧
        (new Samples.user).runAll (search "Grace" [.int 3, .string "4"]) = .ok t ∧
          s.build.map BuiltQuery.shape = t.build.map BuiltQuery.shape ∧
            s.buildCount.map BuiltQuery.shape = t.buildCount.map BuiltQuery.shape := by
  have hs : ((new Samples.user).runAll (search "Ada" [.int 1, .int 2])).toOption.isSome := by
    decide +kernel
  have ht : ((new Samples.user).runAll (search "Grace" [.int 3, .string "4"])).toOption.isSome := by
    decide +kernel
  obtain ⟨s, hs⟩ := exists_ok_of_isSome hs
  obtain ⟨t, ht⟩ := exists_ok_of_isSome ht
  exact ⟨search_sameShape, s, t, hs, ht, shape_build_eq_of_sameShape search_sameShape hs ht⟩

end Session

end EntityQuery
