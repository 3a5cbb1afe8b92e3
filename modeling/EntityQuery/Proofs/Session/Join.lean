import EntityQuery.Proofs.Ident.Table
import EntityQuery.Proofs.Session.Alias
import EntityQuery.Proofs.Session.Count
import EntityQuery.Proofs.Session.Membership

namespace EntityQuery

/-- The joins that an operation adds. -/
def Operation.joined (s : Session) : Operation → List Join
  | addJoin kind target tableAlias condition? =>
    [{ kind, target := s.qualify target, tableAlias, condition? }]
  | _ => []

namespace Session

open Sql

/-! ### The joins of a run -/

theorem joins_perform (s : Session) (call : Call.ParsedCall) (plan : Call.Plan) :
    (Call.perform s call plan).joins = s.joins := by
  cases plan with
  | condition bound? predicate => cases bound? <;> rfl
  | order replace direction? => rfl
  | group replace => rfl

/-- Calls do not join. -/
theorem joins_apply (s : Session) (method : String) (args : List Value) :
    (s.apply method args).2.joins = s.joins := by
  rw [apply]
  split
  · rfl
  · simp only
    split
    · rfl
    · exact joins_perform _ _ _

theorem joins_afterQualifyAll (s : Session) (names : List String) :
    (s.afterQualifyAll names).joins = s.joins := by
  obtain ⟨resolver, -, hqualified⟩ := afterQualifyAll_eq s names
  rw [hqualified]

theorem joins_addGroupBy (s : Session) (names : List String) :
    (s.addGroupBy names).joins = s.joins := by
  obtain ⟨resolver, groupBy, -, hgrouped⟩ := addGroupBy_eq s names
  rw [hgrouped]

/-- An operation puts its joins behind the earlier ones, which it leaves as they are. -/
theorem joins_after (s : Session) (operation : Operation) :
    (operation.after s).joins = s.joins ++ operation.joined s := by
  have hsame {t : Session} (ht : t.joins = s.joins) : t.joins = s.joins ++ [] := by
    rw [ht, List.append_nil]
  cases operation with
  | addJoin kind target tableAlias condition? => rfl
  | withConfig config =>
    rw [Operation.after, Operation.run, withConfig]
    · cases config.validate with
      | error fault => exact hsame rfl
      | ok _ => exact hsame rfl
    · simp
  | fromEntity =>
    change s.fromEntity.joins = _
    rw [fromEntity]
    split
    · exact hsame rfl
    · exact hsame rfl
  | selectItems names => exact hsame (joins_afterQualifyAll s names)
  | addSelect names => exact hsame (joins_afterQualifyAll s names)
  | setGroupBy names => exact hsame (joins_addGroupBy { s with groupBy := [] } names)
  | addGroupBy names => exact hsame (joins_addGroupBy s names)
  | limit max offset? =>
    exact of_window (p := fun t => t.joins = s.joins ++ []) (fun _ h => limit_eq h)
      fun _ _ => hsame rfl
  | paginate page perPage =>
    exact of_window (p := fun t => t.joins = s.joins ++ []) (fun _ h => paginate_eq h)
      fun _ _ => hsame rfl
  | paginateDefault page =>
    exact of_window (p := fun t => t.joins = s.joins ++ []) (fun _ h => paginate_eq h)
      fun _ _ => hsame rfl
  | call method args => exact hsame (joins_apply s method args)
  | _ => exact hsame rfl

/-- A run keeps the joins that were there in front of those that it adds. -/
theorem joins_prefix_afterAll (s : Session) (operations : List Operation) :
    s.joins <+: (s.afterAll operations).joins := by
  induction operations generalizing s with
  | nil => exact List.prefix_rfl
  | cons operation rest ih =>
    have hfirst : s.joins <+: (operation.after s).joins := by
      rw [joins_after]
      exact List.prefix_append _ _
    exact hfirst.trans (ih (operation.after s))

/-- A join that was added stays at its place. -/
theorem getElem?_joins_afterAll (s : Session) (kind : JoinKind) (target tableAlias : String)
    (condition? : Option String) (later : List Operation) :
    ((s.addJoin kind target tableAlias condition?).afterAll later).joins[s.joins.length]? =
      some { kind, target := s.qualify target, tableAlias, condition? } := by
  obtain ⟨more, hmore⟩ :=
    joins_prefix_afterAll (s.addJoin kind target tableAlias condition?) later
  rw [← hmore, addJoin, List.append_assoc]
  simp

/-! ### The statement around a join -/

/-- How a join of a table is written, in front of its condition. -/
def joinText (kind : JoinKind) (table tableAlias : String) : String :=
  " " ++ kind.keyword ++ " " ++ table ++ " " ++ tableAlias ++ " ON "

/-- The text of a join determines its table. -/
theorem joinText_inj {kind : JoinKind} {table other tableAlias : String} :
    joinText kind table tableAlias = joinText kind other tableAlias ↔ table = other := by
  rw [joinText, joinText]
  simp only [String.append_left_inj, String.append_right_inj]

variable (s : Session)

/-- The session without the join at a place. -/
def withoutJoin (i : Nat) : Session :=
  { s with joins := s.joins.eraseIdx i }

/-- What a selection has in front of the join at a place. -/
def fragmentsBefore (i : Nat) : List Fragment :=
  s.itemFragments ++ .plain (" FROM " ++ s.source " ") ::
    (s.joins.take i).flatMap s.joinFragments

/-- What a selection has behind the join at a place. -/
def fragmentsBehind (i : Nat) : List Fragment :=
  (s.joins.drop (i + 1)).flatMap s.joinFragments ++ s.whereFragments ++ s.tailFragments

/-- The statement has, at the place of a join, a text and the translated condition behind it. -/
def HasJoin (q : BuiltQuery) (i : Nat) (text condition : String) : Prop :=
  ∃ before last, writeAll s.scope {} (s.fragmentsBefore i) = .ok before ∧
    writeAll s.scope (before.push text) (.resolved condition :: s.fragmentsBehind i) = .ok last ∧
    q = last.finish

variable {s} {q : BuiltQuery} {i : Nat} {j : Join} {text other condition : String}

/-- A statement has no two texts at one place. -/
theorem HasJoin.unique (h : s.HasJoin q i text condition) (h' : s.HasJoin q i other condition) :
    text = other := by
  obtain ⟨before, last, hbefore, hlast, rfl⟩ := h
  obtain ⟨before', last', hbefore', hlast', hsame⟩ := h'
  obtain rfl : before = before' := Except.ok.inj (hbefore.symm.trans hbefore')
  -- What is written behind the text does not depend on it.
  have hpush (head : String) :
      before.push head = ({ before with sql := "" } : Writer).behind (before.sql ++ head) := by
    simp only [Writer.push, Writer.behind, String.append_empty]
  rw [hpush, writeAll_behind] at hlast hlast'
  obtain ⟨rest, hrest, rfl⟩ := map_eq_ok hlast
  obtain ⟨rest', hrest', rfl⟩ := map_eq_ok hlast'
  obtain rfl : rest = rest' := Except.ok.inj (hrest.symm.trans hrest')
  have hsql := congrArg BuiltQuery.sql hsame
  simpa [Writer.finish, Writer.behind] using hsql

/-- Without the join, what stands in front of it and what stands behind it follow each other. -/
theorem statementFragments_withoutJoin (h : s.kind = .select) (i : Nat) :
    (s.withoutJoin i).statementFragments = s.fragmentsBefore i ++ s.fragmentsBehind i := by
  have hjoins : (s.withoutJoin i).joins = s.joins.take i ++ s.joins.drop (i + 1) :=
    List.eraseIdx_eq_take_drop_succ _ _
  have hrows : (s.withoutJoin i).joinFragments = s.joinFragments := rfl
  have hkind : (s.withoutJoin i).kind = .select := h
  rw [statementFragments_of_select hkind, hjoins, hrows, List.flatMap_append, fragmentsBefore,
    fragmentsBehind]
  simp only [List.append_assoc, List.cons_append]
  rfl

/-- The join stands between the two, with its own fragments. -/
theorem statementFragments_of_getElem? (h : s.kind = .select) (hj : s.joins[i]? = some j) :
    s.statementFragments = s.fragmentsBefore i ++ (s.joinFragments j ++ s.fragmentsBehind i) := by
  obtain ⟨hi, rfl⟩ := List.getElem?_eq_some_iff.1 hj
  have hjoins : s.joins = s.joins.take i ++ s.joins[i] :: s.joins.drop (i + 1) := by
    rw [← List.drop_eq_getElem_cons hi, List.take_append_drop]
  rw [statementFragments_of_select h, fragmentsBefore, fragmentsBehind]
  conv_lhs => rw [hjoins]
  simp only [List.flatMap_append, List.flatMap_cons, List.append_assoc, List.cons_append]

/-- The fragments of a join that names no association. -/
theorem joinFragments_of_table (h : s.associationOf? j.target = none)
    (hcondition : j.condition? = some condition) :
    s.joinFragments j =
      [.plain (" " ++ j.kind.keyword ++ " " ++ j.target ++ " " ++ j.tableAlias), .plain " ON ",
        .resolved condition] := by
  rw [joinFragments, h, hcondition]

/-- A join of a table has its place in the statement, if its condition can be translated and the
session has a statement without it. -/
theorem exists_hasJoin (hkind : s.kind = .select) (hj : s.joins[i]? = some j)
    (hassoc : s.associationOf? j.target = none) (hcondition : j.condition? = some condition)
    (htranslates : ∃ w, Writer.pushText s.scope {} condition = .ok w)
    (hrest : ∃ q, (s.withoutJoin i).build = .ok q) :
    ∃ q, s.build = .ok q ∧
      s.HasJoin q i (joinText j.kind j.target j.tableAlias) condition := by
  obtain ⟨q, hq⟩ := hrest
  rw [build_eq, statementFragments_withoutJoin hkind] at hq
  obtain ⟨whole, hwhole, -⟩ := map_eq_ok hq
  obtain ⟨alone, halone⟩ := htranslates
  have hresolved : writeAll s.scope {} [.resolved condition] = .ok alone := by
    rw [writeAll_cons, Fragment.write, halone]
    rfl
  -- The condition is written behind another text here, but whether fragments can be written depends
  -- on the bound names only.
  have hnames : s.params.NamesIn s.params := .refl _
  obtain ⟨before, hbefore⟩ : ∃ before, writeAll s.scope {} (s.fragmentsBefore i) = .ok before :=
    exists_writeAll_of_subset hwhole hnames (List.subset_append_left _ _) {}
  obtain ⟨middle, hmiddle⟩ : ∃ middle,
      writeAll s.scope (before.push (joinText j.kind j.target j.tableAlias))
        [.resolved condition] = .ok middle :=
    exists_writeAll_of_subset hresolved hnames (List.Subset.refl _) _
  obtain ⟨last, hlast⟩ : ∃ last, writeAll s.scope middle (s.fragmentsBehind i) = .ok last :=
    exists_writeAll_of_subset hwhole hnames (List.subset_append_right _ _) middle
  have hbehind : writeAll s.scope (before.push (joinText j.kind j.target j.tableAlias))
      (.resolved condition :: s.fragmentsBehind i) = .ok last := by
    rw [← List.singleton_append, writeAll_append]
    exact (congrArg (Except.bind · _) hmiddle).trans hlast
  refine ⟨last.finish, ?_, before, last, hbefore, hbehind, rfl⟩
  rw [build_eq, statementFragments_of_getElem? hkind hj, joinFragments_of_table hassoc hcondition,
    writeAll_append, hbefore, Except.bind, List.cons_append, List.cons_append,
    writeAll_plain_plain]
  exact congrArg (Except.map Writer.finish) hbehind

/-! ### Joins of tables -/

/-- A name behind the alias stands for the association of the name. -/
theorem associationOf?_append (s : Session) (name : String) :
    s.associationOf? (s.entityAlias ++ "." ++ name) = s.entity.association? name := by
  rw [associationOf?, AliasResolver.isPrefixOf?_append]
  simp only [String.ofList_toList]

/-- A name that is no association is not joined as one, whether it is stored behind the alias or as
it is. -/
theorem associationOf?_qualify {s t : Session} {kind : JoinKind} {target tableAlias : String}
    {condition? : Option String} {later : List Operation}
    (ht : (s.addJoin kind target tableAlias condition?).afterAll later = t)
    (hname : t.entity.association? target = none) (hqualified : t.associationOf? target = none) :
    t.associationOf? (s.qualify target) = none := by
  cases hqualifies : s.resolver.qualifies target with
  | false =>
    have hstored : s.qualify target = target :=
      AliasResolver.qualify_of_not_qualifies hqualifies
    rw [hstored]
    exact hqualified
  | true =>
    -- The join itself needed the alias, so the target stands behind the one that is kept.
    have hmem : target ∈ (Operation.addJoin kind target tableAlias condition?).qualified s :=
      List.mem_cons_self
    obtain ⟨hneeds, -⟩ := needsAlias_of_qualified hmem hqualifies
    have hfixed := fixed?_afterAll hneeds later
    have halias : t.entityAlias = s.entityAlias := by
      rw [← ht]
      exact AliasResolver.entityAlias_of_fixed hfixed
    have hstored : s.qualify target = s.entityAlias ++ "." ++ target :=
      AliasResolver.qualify_of_qualifies hqualifies
    rw [hstored, ← halias, associationOf?_append]
    exact hname

/-- A stored target is the table as it is written exactly if it was stored as it is and has no
reserved part. -/
theorem qualify_eq_sqlTable_iff (s : Session) {target : String} {ident : Ident}
    (hparse : Ident.parse target = .ok ident) :
    s.qualify target = sqlTable target ↔ s.resolver.qualifies target = false ∧
      ∀ word, .unquoted word ∈ ident.parts → isReserved word = false := by
  cases hqualifies : s.resolver.qualifies target with
  | false =>
    have hstored : s.qualify target = target :=
      AliasResolver.qualify_of_not_qualifies hqualifies
    rw [hstored, eq_comm, sqlTable_eq_self_iff hparse]
    simp
  | true =>
    have hstored : s.qualify target = s.entityAlias ++ "." ++ target :=
      AliasResolver.qualify_of_qualifies hqualifies
    have hdot : '.' ∉ target.toList := by
      rw [AliasResolver.qualifies] at hqualifies
      simpa using (Bool.and_eq_true_iff.1 hqualifies).1
    rw [hstored]
    refine iff_of_false (fun hsame => dot_not_mem_sqlTable hdot ?_) (by simp)
    rw [← hsame]
    simp

/-- A join of a table by a condition is in the statement, behind the words as they are stored. They
are the table as it is written if and only if no field has the name of the table, so that the alias
is put in front of it, and no part of it is a reserved word. -/
theorem joins_table_iff {s t : Session} {kind : JoinKind} {target tableAlias condition : String}
    {later : List Operation} {ident : Ident}
    (ht : (s.addJoin kind target tableAlias (some condition)).afterAll later = t)
    (hkind : t.kind = .select) (hparse : Ident.parse target = .ok ident)
    (hname : t.entity.association? target = none) (hqualified : t.associationOf? target = none)
    (htranslates : ∃ w, Writer.pushText t.scope {} condition = .ok w)
    (hrest : ∃ q, (t.withoutJoin s.joins.length).build = .ok q) :
    ∃ q, t.build = .ok q ∧
      t.HasJoin q s.joins.length (joinText kind (s.qualify target) tableAlias) condition ∧
      (t.HasJoin q s.joins.length (joinText kind (sqlTable target) tableAlias) condition ↔
        s.resolver.qualifies target = false ∧
          ∀ word, .unquoted word ∈ ident.parts → isReserved word = false) := by
  have hj : t.joins[s.joins.length]? =
      some { kind, target := s.qualify target, tableAlias, condition? := some condition } := by
    rw [← ht]
    exact getElem?_joins_afterAll s kind target tableAlias (some condition) later
  have hassoc : t.associationOf? (s.qualify target) = none :=
    associationOf?_qualify ht hname hqualified
  obtain ⟨q, hq, hhas⟩ := exists_hasJoin hkind hj hassoc rfl htranslates hrest
  refine ⟨q, hq, hhas, ?_⟩
  rw [← qualify_eq_sqlTable_iff s hparse]
  constructor
  · exact fun htable => joinText_inj.1 (hhas.unique htable)
  · intro hsame
    rw [← hsame]
    exact hhas

/-- A table in a schema, joined before anything else is asked for. -/
theorem joins_table_iff_memberships :
    ∃ t, ((new Samples.user).addJoin .left "app.memberships" "m" (some "m.user_id = u.id")).afterAll
        [.call "nameIsNotNull" [], .pushOrder false "name" none] = t ∧
      t.kind = .select ∧
      Ident.parse "app.memberships" = .ok ⟨[.unquoted "app", .unquoted "memberships"]⟩ ∧
      t.entity.association? "app.memberships" = none ∧
      t.associationOf? "app.memberships" = none ∧
      ∃ q, t.build = .ok q ∧
        t.HasJoin q 0 (joinText .left ((new Samples.user).qualify "app.memberships") "m")
          "m.user_id = u.id" ∧
        (t.HasJoin q 0 (joinText .left (sqlTable "app.memberships") "m") "m.user_id = u.id" ↔
          (new Samples.user).resolver.qualifies "app.memberships" = false ∧
            ∀ word, .unquoted word ∈ [Ident.Part.unquoted "app", .unquoted "memberships"] →
              isReserved word = false) := by
  generalize ht : ((new Samples.user).addJoin .left "app.memberships" "m"
    (some "m.user_id = u.id")).afterAll
      [.call "nameIsNotNull" [], .pushOrder false "name" none] = t
  have hkind : t.kind = .select := by
    subst ht
    decide +kernel
  have hparse :
      Ident.parse "app.memberships" = .ok ⟨[.unquoted "app", .unquoted "memberships"]⟩ := by
    decide +kernel
  have hname : t.entity.association? "app.memberships" = none := by
    subst ht
    decide +kernel
  have hqualified : t.associationOf? "app.memberships" = none := by
    subst ht
    decide +kernel
  have htranslates : (Writer.pushText t.scope {} "m.user_id = u.id").toOption.isSome := by
    subst ht
    decide +kernel
  have hrest : (t.withoutJoin 0).build.toOption.isSome := by
    subst ht
    decide +kernel
  exact ⟨t, rfl, hkind, hparse, hname, hqualified,
    joins_table_iff ht hkind hparse hname hqualified (exists_ok_of_isSome htranslates)
      (exists_ok_of_isSome hrest)⟩

/-- A reserved table is sent without quotes, and a table with the name of a field behind the alias
of the entity. -/
theorem joins_reserved_table :
    ((new Samples.user).addJoin .inner "order" "o" (some "o.user_id = u.id")).build.toOption.map
          BuiltQuery.sql =
        some "SELECT u.* FROM users u INNER JOIN order o ON o.user_id = u.id" ∧
      ((new Samples.user).addJoin .left "name" "n" (some "n.user_id = u.id")).build.toOption.map
          BuiltQuery.sql =
        some "SELECT u.* FROM users u LEFT JOIN u.name n ON n.user_id = u.id" ∧
      ¬ ∀ (s : Session) (kind : JoinKind) (target tableAlias condition : String) (q : BuiltQuery),
        (Ident.parse target).isOk → s.entity.association? target = none →
          s.associationOf? target = none →
            (s.addJoin kind target tableAlias (some condition)).build = .ok q →
              (s.addJoin kind target tableAlias (some condition)).HasJoin q s.joins.length
                (joinText kind (sqlTable target) tableAlias) condition := by
  refine ⟨by decide +kernel, by decide +kernel, fun hall => ?_⟩
  generalize hs : (new Samples.user).addJoin .inner "order" "o" (some "o.user_id = u.id") = s
  have hj : s.joins[0]? = some ⟨.inner, "order", "o", some "o.user_id = u.id"⟩ := by
    subst hs
    decide +kernel
  have htranslates : (Writer.pushText s.scope {} "o.user_id = u.id").toOption.isSome := by
    subst hs
    decide +kernel
  have hrest : (s.withoutJoin 0).build.toOption.isSome := by
    subst hs
    decide +kernel
  have hassoc : s.associationOf? "order" = none := by
    subst hs
    decide +kernel
  have hkind : s.kind = .select := by
    subst hs
    rfl
  obtain ⟨q, hq, hhas⟩ := exists_hasJoin hkind hj hassoc rfl (exists_ok_of_isSome htranslates)
    (exists_ok_of_isSome hrest)
  have htable := hall (new Samples.user) .inner "order" "o" "o.user_id = u.id" q (by decide +kernel)
    (by decide +kernel) (by decide +kernel) (by rw [hs]; exact hq)
  rw [hs] at htable
  have hsame : "order" = sqlTable "order" := joinText_inj.1 (hhas.unique htable)
  revert hsame
  decide +kernel

end Session

end EntityQuery
