import EntityQuery.Proofs.Call.Effect
import EntityQuery.Proofs.Session.Naming

namespace EntityQuery

/-- A text as it is stored under an alias: a declared name without a dot stands behind the alias,
and any other text is taken as it was given. -/
def EntityMeta.spelled (entity : EntityMeta) (a text : String) : String :=
  if entity.declares text ∧ '.' ∉ text.toList then a ++ "." ++ text else text

/-- The parts of a session that hold names. -/
structure Parts where
  select : List String
  joins : List Join
  where? : Option Expr
  having? : Option Expr
  groupBy : List String
  orderBy : List SortEntry
  set : List Assignment

def Session.parts (s : Session) : Parts :=
  ⟨s.select, s.joins, s.where?, s.having?, s.groupBy, s.orderBy, s.set⟩

/-! ### What is stored under an alias -/

/-- What a call that succeeds makes of the parts of a session when the session has an alias: one
part gets a condition, an entry of the ordering or an entry of the grouping, and each of them has
the field behind the alias. -/
inductive Call.Stores (s : Session) (a : String) (call : ParsedCall) (args : List Value) :
    Parts → Prop
  | condition {predicate : Expr} (hpart : call.operator.part = .condition)
      (hpredicate : predicateFor? s.entity (s.entity.spelled a call.field) call args
        (s.params.fresh s.config.paramBase) = some predicate) :
      Stores s a call args
        { s.parts with where? := some (Session.combine s.where? call.conjunction predicate) }
  | ordering {replaces : Bool} {direction? : Option Direction}
      (hpart : call.operator.part = .ordering replaces) :
      Stores s a call args
        { s.parts with
          orderBy := (if replaces then [] else s.orderBy) ++
            [{ text := s.entity.spelled a call.field, direction? }] }
  | grouping {replaces : Bool} (hpart : call.operator.part = .grouping replaces) :
      Stores s a call args
        { s.parts with
          groupBy := (if replaces then [] else s.groupBy) ++ [s.entity.spelled a call.field] }

namespace Operation

/-- What an operation makes of the parts of a session when the session has an alias. No resolver
comes into this: the alias is known, and names are spelled by it. -/
def Stores (s : Session) (a : String) (after : Parts) : Operation → Prop
  | selectFromEntity _ => after = { s.parts with select := [a] }
  | fromEntity => after = { s.parts with select := if s.select.isEmpty then [a] else s.select }
  | selectItems names => after = { s.parts with select := names.map (s.entity.spelled a) }
  | addSelect names =>
    after = { s.parts with select := s.select ++ names.map (s.entity.spelled a) }
  | addJoin kind target tableAlias condition? =>
    after =
      { s.parts with
        joins := s.joins ++
          [{ kind, target := s.entity.spelled a target, tableAlias, condition? }] }
  | setWhere predicate => after = { s.parts with where? := some predicate }
  | attach conjunction predicate =>
    after = { s.parts with where? := some (Session.combine s.where? conjunction predicate) }
  | setHaving predicate => after = { s.parts with having? := some predicate }
  | attachHaving conjunction predicate =>
    after = { s.parts with having? := some (Session.combine s.having? conjunction predicate) }
  | pushOrder replace text direction? =>
    after =
      { s.parts with
        orderBy := (if replace then [] else s.orderBy) ++
          [{ text := s.entity.spelled a text, direction? }] }
  | setGroupBy names => after = { s.parts with groupBy := names.map (s.entity.spelled a) }
  | addGroupBy names =>
    after = { s.parts with groupBy := s.groupBy ++ names.map (s.entity.spelled a) }
  | assign field _ =>
    after =
      { s.parts with
        set := s.set ++
          [{ target := s.entity.spelled a field
             param := s.params.fresh s.config.paramBase }] }
  | call method args =>
    (∀ e, s.call method args = .error e → after = s.parts) ∧
      ∀ t, s.call method args = .ok t →
        ∃ call, Call.parse s.entity method args.length = .ok call ∧
          Call.Stores s a call args after
  | _ => after = s.parts

end Operation

namespace Session

variable {s : Session} {a : String}

/-- The session's own spelling of a text is the one under the alias, if that is the alias with which
the session qualifies the text. Nothing is asked of the alias if it does not. -/
theorem qualify_eq_spelled {text : String} (h : s.resolver.qualifies text → s.entityAlias = a) :
    s.qualify text = s.entity.spelled a text := by
  rw [EntityMeta.spelled]
  split
  · rename_i hname
    have hqualifies : s.resolver.qualifies text := AliasResolver.qualifies_iff.2 hname.symm
    rw [← h hqualifies]
    exact AliasResolver.qualify_of_qualifies hqualifies
  · rename_i hother
    refine AliasResolver.qualify_of_not_qualifies ?_
    rw [← Bool.not_eq_true, AliasResolver.qualifies_iff]
    exact fun hname => hother hname.symm

/-- A list of names is spelled by one alias, which is the session's own if any of them is
qualified. -/
theorem map_qualify_eq_map_spelled {names : List String}
    (h : names.any s.resolver.qualifies → s.entityAlias = a) :
    names.map s.qualify = names.map (s.entity.spelled a) := by
  apply List.map_congr_left
  intro name hname
  exact qualify_eq_spelled fun hqualifies => h (List.any_eq_true.2 ⟨name, hname, hqualifies⟩)

theorem parts_afterQualifyAll (s : Session) (names : List String) :
    (s.afterQualifyAll names).parts = s.parts := by
  obtain ⟨resolver, -, hqualified⟩ := afterQualifyAll_eq s names
  rw [hqualified]
  rfl

/-- Of the parts of a session, groupings only change the groupings. -/
theorem parts_addGroupBy (s : Session) (names : List String) :
    (s.addGroupBy names).parts =
      { s.parts with groupBy := s.groupBy ++ names.map s.qualify } := by
  obtain ⟨resolver, groupBy, -, hgrouped⟩ := addGroupBy_eq s names
  rw [← groupBy_addGroupBy, hgrouped]
  rfl

/-- Carrying out the plan of a call stores what the call stores under the alias with which its field
is qualified. -/
theorem stores_perform {call : Call.ParsedCall} {method : String} {args : List Value}
    {plan : Call.Plan} (hfield : s.qualify call.field = s.entity.spelled a call.field)
    (hplan : Call.plan (s.afterQualify call.field) method call args = .ok plan) :
    Call.Stores s a call args (Call.perform (s.afterQualify call.field) call plan).parts := by
  have hpredicate {predicate : Expr} {param : String}
      (h : Call.predicateOf? (s.afterQualify call.field) call args param = some predicate) :
      Call.predicateFor? s.entity (s.entity.spelled a call.field) call args param =
        some predicate := by
    rwa [Call.predicateOf?_afterQualify, Call.predicateOf?, hfield] at h
  cases Call.fits_of_plan hplan with
  | bound hpart _ hadds _ => exact .condition hpart (hpredicate (hadds _))
  | unbound hpart _ hadds _ => exact .condition hpart (hpredicate (hadds _))
  | order hpart =>
    rw [Call.perform, pushOrder, qualify_afterQualify, hfield]
    exact .ordering hpart
  | group hpart =>
    rw [Call.perform, pushGroup, qualify_afterQualify, hfield]
    exact .grouping hpart

/-- A call that fails stores nothing, and one that succeeds stores the field of its name under the
alias. -/
theorem stores_call {method : String} {args : List Value}
    (h : ((Operation.call method args).qualified s).any s.resolver.qualifies → s.entityAlias = a) :
    (Operation.call method args).Stores s a (s.apply method args).2.parts := by
  rw [Operation.qualified] at h
  constructor
  · intro e hcall
    rw [Session.call] at hcall
    rw [apply] at hcall ⊢
    cases hparse : Call.parse s.entity method args.length with
    | error fault => rfl
    | ok call =>
      rw [hparse] at hcall
      cases hplan : Call.plan (s.afterQualify call.field) method call args with
      | error fault =>
        simp only [hplan]
        rfl
      | ok plan =>
        simp only [hplan] at hcall
        cases hcall
  · intro t hcall
    have hrun : (Operation.call method args).run s = .ok t := hcall
    have happly : (s.apply method args).2 = t := after_of_run hrun
    obtain ⟨call, plan, hparse, hplan, rfl⟩ := call_ok hcall
    rw [hparse] at h
    have hfield : s.qualify call.field = s.entity.spelled a call.field :=
      qualify_eq_spelled fun hqualifies => h (by simp [hqualifies])
    rw [happly]
    exact ⟨call, hparse, stores_perform hfield hplan⟩

/-- An operation stores what it stores under an alias, if that is the alias that it needs. An
operation that needs none stores the same under any alias. -/
theorem stores_after {operation : Operation}
    (h : operation.needsAlias s → (operation.overridden s).entityAlias = a) :
    operation.Stores s a (operation.after s).parts := by
  -- An operation on names needs the alias exactly if one of them is qualified.
  have hmany (names : List String) (hneeds : operation.needsAlias s = names.any s.resolver.qualifies)
      (hsame : operation.overridden s = s.resolver) :
      names.map s.qualify = names.map (s.entity.spelled a) := by
    rw [hneeds, hsame] at h
    exact map_qualify_eq_map_spelled h
  have hone (text : String) (hneeds : operation.needsAlias s = [text].any s.resolver.qualifies)
      (hsame : operation.overridden s = s.resolver) :
      s.qualify text = s.entity.spelled a text :=
    (List.cons.inj (hmany [text] hneeds hsame)).1
  cases operation with
  | withConfig config =>
    change ((Operation.withConfig config).after s).parts = s.parts
    rw [Operation.after, Operation.run, withConfig]
    · cases config.validate <;> rfl
    · simp
  | selectFromEntity override? =>
    have halias : (Operation.overridden s (.selectFromEntity override?)).entityAlias = a := h rfl
    subst halias
    cases override? <;> rfl
  | fromEntity =>
    change s.fromEntity.parts =
      { s.parts with select := if s.select.isEmpty then [a] else s.select }
    rw [fromEntity]
    split
    · rename_i hempty
      have halias : s.entityAlias = a := h hempty
      rw [halias]
      rfl
    · rfl
  | selectItems names =>
    change { (s.afterQualifyAll names).parts with select := names.map s.qualify } =
      { s.parts with select := names.map (s.entity.spelled a) }
    rw [parts_afterQualifyAll, hmany names rfl rfl]
  | addSelect names =>
    change { (s.afterQualifyAll names).parts with select := s.select ++ names.map s.qualify } =
      { s.parts with select := s.select ++ names.map (s.entity.spelled a) }
    rw [parts_afterQualifyAll, hmany names rfl rfl]
  | addJoin kind target tableAlias condition? =>
    rw [Operation.Stores, ← hone target rfl rfl]
    rfl
  | pushOrder replace text direction? =>
    rw [Operation.Stores, ← hone text rfl rfl]
    rfl
  | setGroupBy names =>
    rw [Operation.Stores, ← hmany names rfl rfl]
    exact parts_addGroupBy { s with groupBy := [] } names
  | addGroupBy names =>
    rw [Operation.Stores, ← hmany names rfl rfl]
    exact parts_addGroupBy s names
  | assign field value =>
    have hfield : s.qualify field = s.entity.spelled a field := qualify_eq_spelled fun _ => h rfl
    rw [Operation.Stores, ← hfield]
    rfl
  | limit max offset? =>
    exact of_window (p := fun t => t.parts = s.parts) (fun _ h => limit_eq h) fun _ _ => rfl
  | paginate page perPage =>
    exact of_window (p := fun t => t.parts = s.parts) (fun _ h => paginate_eq h) fun _ _ => rfl
  | paginateDefault page =>
    exact of_window (p := fun t => t.parts = s.parts) (fun _ h => paginate_eq h) fun _ _ => rfl
  | call method args => exact stores_call h
  | _ => rfl

/-! ### The alias of a run -/

/-- What the alias of a session has been all along the run of operations that led to it. -/
structure IsAliasOf (start : Session) (operations : List Operation) (a : String) : Prop where
  /-- A declared bare name is qualified by the alias whenever an operation qualifies it. -/
  qualified : ∀ earlier operation later, operations = earlier ++ operation :: later →
    ∀ name ∈ operation.qualified (start.afterAll earlier),
      start.entity.declares name → '.' ∉ name.toList →
        (start.afterAll earlier).qualify name = a ++ "." ++ name
  /-- Every operation of the run stores names under the alias: the selection, the joins, the
  ordering, the grouping and the assignments, and the conditions that calls add. -/
  stores : ∀ earlier operation later, operations = earlier ++ operation :: later →
    operation.Stores (start.afterAll earlier) a
      (operation.after (start.afterAll earlier)).parts
  /-- The run leads to what it leads to when the alias is fixed from the start. -/
  stored : (start.fixedTo a).afterAll operations = (start.afterAll operations).fixedTo a
  /-- The text declares the entity under the alias. -/
  text : HasHead
    ((start.afterAll operations).itemsText ++
      declaration (start.afterAll operations).kind (start.entity.name ++ " " ++ a))
    (start.afterAll operations).toText
  /-- The statement declares the table under the alias, which is quoted if it is reserved. -/
  statement : ∀ q, (start.afterAll operations).build = .ok q →
    ∃ w, writeAll (start.afterAll operations).scope {} (start.afterAll operations).itemFragments =
        .ok w ∧
      HasHead
        (w.sql ++ declaration (start.afterAll operations).kind
          (sqlTable start.entity.table ++ separatorOf (start.afterAll operations).kind ++
            sqlWord a))
        q.sql
  /-- An override changes nothing behind an operation that needed the alias. -/
  override : ∀ earlier operation between name later,
    operations = earlier ++ operation :: between ++ .selectFromEntity (some name) :: later →
      operation.needsAlias (start.afterAll earlier) →
        start.afterAll operations =
          start.afterAll (earlier ++ operation :: between ++ .selectFromEntity none :: later)

/-- The entity of a session is the one that it was made for. -/
theorem entity_afterAll (s : Session) (operations : List Operation) :
    (s.afterAll operations).entity = s.entity := by
  induction operations generalizing s with
  | nil => rfl
  | cons operation rest ih => exact (ih _).trans (follows_after s operation).entity

/-- An operation that needs the alias decides it for the rest of the run. -/
theorem entityAlias_of_needsAlias {start : Session} {earlier later : List Operation}
    {operation : Operation} (h : operation.needsAlias (start.afterAll earlier)) :
    (start.afterAll (earlier ++ operation :: later)).entityAlias =
      (operation.overridden (start.afterAll earlier)).entityAlias := by
  rw [afterAll_append]
  exact AliasResolver.entityAlias_of_fixed (fixed?_afterAll h later)

/-- Whatever is asked of a session and in whatever order, it has one alias: all names are qualified
by it, its text and its statement declare it, and no override replaces it once it was needed. -/
theorem isAliasOf_afterAll (start : Session) (operations : List Operation) :
    IsAliasOf start operations (start.afterAll operations).entityAlias where
  qualified := by
    rintro earlier operation later rfl name hname hdeclared hdot
    have hqualifies : (start.afterAll earlier).resolver.qualifies name := by
      have hentity : (start.afterAll earlier).resolver.entity = start.entity :=
        entity_afterAll start earlier
      simp only [AliasResolver.qualifies, hentity, hdeclared, Bool.and_true, Bool.not_eq_true']
      simpa using hdot
    -- A qualified name needs the alias, which is fixed from then on.
    obtain ⟨hneeds, hresolver⟩ := needsAlias_of_qualified hname hqualifies
    rw [entityAlias_of_needsAlias hneeds, hresolver]
    exact AliasResolver.qualify_of_qualifies hqualifies
  stores := by
    rintro earlier operation later rfl
    exact stores_after fun hneeds => (entityAlias_of_needsAlias hneeds).symm
  stored := afterAll_fixedTo rfl
  text := by
    rw [← entity_afterAll start operations]
    exact hasHead_toText _
  statement q hq := by
    rw [← entity_afterAll start operations]
    exact hasHead_build hq
  override := by
    rintro earlier operation between name later rfl hneeds
    -- The override comes after the alias was fixed, so it is the same as none.
    have hfixed : (start.afterAll (earlier ++ operation :: between)).resolver.fixed? =
        some (operation.overridden (start.afterAll earlier)).entityAlias := by
      rw [afterAll_append]
      exact fixed?_afterAll hneeds between
    have hsame : (Operation.selectFromEntity (some name)).after
          (start.afterAll (earlier ++ operation :: between)) =
        (Operation.selectFromEntity none).after
          (start.afterAll (earlier ++ operation :: between)) := by
      change (start.afterAll (earlier ++ operation :: between)).selectFromEntity (some name) =
        (start.afterAll (earlier ++ operation :: between)).selectFromEntity none
      simp only [selectFromEntity, AliasResolver.withAlias_of_fixed hfixed]
    rw [afterAll_append, afterAll_append start (earlier ++ operation :: between)]
    exact congrArg (fun t => afterAll t later) hsame

/-- The ordering needs the alias, and the override comes too late. A call that fails adds
nothing. -/
theorem isAliasOf_afterAll_user :
    let run : List Operation :=
      [.pushOrder false "name" none, .selectFromEntity (some "x"), .selectItems ["id", "COUNT(*)"],
        .addJoin .inner "team" "t" none, .setGroupBy ["team", "u.id"],
        .call "whereName" [.string "Ann"], .call "whereNickname" [.null]]
    let t := (new Samples.user).afterAll run
    IsAliasOf (new Samples.user) run "u" ∧
      t.select = ["u.id", "COUNT(*)"] ∧ t.groupBy = ["u.team", "u.id"] ∧
      t.orderBy = [{ text := "u.name", direction? := none }] ∧
      t.toText =
        "SELECT u.id, COUNT(*) FROM User u INNER JOIN u.team t WHERE u.name = :p0 " ++
          "GROUP BY u.team, u.id ORDER BY u.name" := by
  intro run t
  have halias : t.entityAlias = "u" := by decide +kernel
  refine ⟨halias ▸ isAliasOf_afterAll (new Samples.user) run, ?_⟩
  decide +kernel

end Session

end EntityQuery
