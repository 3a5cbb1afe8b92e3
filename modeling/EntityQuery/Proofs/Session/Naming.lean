import EntityQuery.Proofs.Session.Alias

namespace EntityQuery

/-- Two operations that differ at most in how they spell the names they are given, where `q` is what
a spelling stands for. -/
inductive Operation.SameNames (q : String → String) : Operation → Operation → Prop
  | refl (operation : Operation) : SameNames q operation operation
  | qualify {name given : String} (h : q given = q name) :
    SameNames q (.qualify name) (.qualify given)
  | selectItems {names given : List String} (h : given.map q = names.map q) :
    SameNames q (.selectItems names) (.selectItems given)
  | addSelect {names given : List String} (h : given.map q = names.map q) :
    SameNames q (.addSelect names) (.addSelect given)
  | addJoin {target given : String} (h : q given = q target) (kind : JoinKind) (tableAlias : String)
    (condition? : Option String) :
    SameNames q (.addJoin kind target tableAlias condition?)
      (.addJoin kind given tableAlias condition?)
  | pushOrder {text given : String} (h : q given = q text) (replace : Bool)
    (direction? : Option Direction) :
    SameNames q (.pushOrder replace text direction?) (.pushOrder replace given direction?)
  | setGroupBy {names given : List String} (h : given.map q = names.map q) :
    SameNames q (.setGroupBy names) (.setGroupBy given)
  | addGroupBy {names given : List String} (h : given.map q = names.map q) :
    SameNames q (.addGroupBy names) (.addGroupBy given)
  | assign {field given : String} (h : q given = q field) (value : Value) :
    SameNames q (.assign field value) (.assign given value)

namespace Session

variable {s : Session}

/-! ### The session once its alias is fixed -/

/-- What qualifying a name does to the session is part of fixing the alias. -/
theorem fixAlias_afterQualify (s : Session) (name : String) :
    (s.afterQualify name).fixAlias = s.fixAlias := by
  rw [afterQualify]
  rcases s.resolver.afterQualify_cases name with hsame | hfixed
  · rw [hsame]
  · rw [hfixed]
    rfl

theorem fixAlias_afterQualifyAll (s : Session) (names : List String) :
    (s.afterQualifyAll names).fixAlias = s.fixAlias := by
  induction names generalizing s with
  | nil => rfl
  | cons name rest ih => exact (ih (s.afterQualify name)).trans (s.fixAlias_afterQualify name)

/-- Groupings are stored behind the earlier ones, all qualified by one alias, though each of them
may be the one that fixes it. -/
theorem fixAlias_addGroupBy (s : Session) (names : List String) :
    (s.addGroupBy names).fixAlias =
      { s.fixAlias with groupBy := s.groupBy ++ names.map s.qualify } := by
  induction names generalizing s with
  | nil =>
    rw [List.map_nil, List.append_nil]
    rfl
  | cons name rest ih =>
    have hqualify : (s.pushGroup false name).qualify = s.qualify :=
      funext fun field => s.resolver.qualify_afterQualify name field
    have hfixed : (s.pushGroup false name).fixAlias =
        { s.fixAlias with groupBy := s.groupBy ++ [s.qualify name] } :=
      congrArg (fun t : Session => { t with groupBy := s.groupBy ++ [s.qualify name] })
        (s.fixAlias_afterQualify name)
    change ((s.pushGroup false name).addGroupBy rest).fixAlias = _
    rw [ih, hqualify, hfixed, List.map_cons]
    simp only [pushGroup, List.append_assoc, List.singleton_append]
    rfl

theorem groupBy_addGroupBy (s : Session) (names : List String) :
    (s.addGroupBy names).groupBy = s.groupBy ++ names.map s.qualify :=
  congrArg groupBy (s.fixAlias_addGroupBy names)

/-- The alias is the only thing that fixing it decides, so the text and the statements of a session
are the same before and after. -/
theorem toText_fixAlias (s : Session) : s.fixAlias.toText = s.toText :=
  rfl

theorem build_fixAlias (s : Session) : s.fixAlias.build = s.build :=
  rfl

theorem buildCount_fixAlias (s : Session) : s.fixAlias.buildCount = s.buildCount :=
  rfl

/-! ### Operations with the same names -/

/-- Operations that spell the same names store the same, whether or not the alias was needed for
it. -/
theorem fixAlias_after_of_sameNames {operation operation' : Operation}
    (h : operation.SameNames s.qualify operation') :
    (operation'.after s).fixAlias = (operation.after s).fixAlias := by
  have hone (given name : String) :
      (s.afterQualify given).fixAlias = (s.afterQualify name).fixAlias :=
    (s.fixAlias_afterQualify given).trans (s.fixAlias_afterQualify name).symm
  have hall (given names : List String) :
      (s.afterQualifyAll given).fixAlias = (s.afterQualifyAll names).fixAlias :=
    (s.fixAlias_afterQualifyAll given).trans (s.fixAlias_afterQualifyAll names).symm
  cases h with
  | refl => rfl
  | @qualify name given _ => exact hone given name
  | @selectItems names given hnames =>
    change (s.selectItems given).fixAlias = (s.selectItems names).fixAlias
    rw [selectItems, selectItems, hnames]
    exact congrArg (fun t : Session => { t with kind := .select, select := names.map s.qualify })
      (hall given names)
  | @addSelect names given hnames =>
    change (s.addSelect given).fixAlias = (s.addSelect names).fixAlias
    rw [addSelect, addSelect, hnames]
    exact congrArg (fun t : Session => { t with select := s.select ++ names.map s.qualify })
      (hall given names)
  | @addJoin target given htarget kind tableAlias condition? =>
    change (s.addJoin kind given tableAlias condition?).fixAlias =
      (s.addJoin kind target tableAlias condition?).fixAlias
    rw [addJoin, addJoin, htarget]
    exact congrArg (fun t : Session =>
      { t with joins := s.joins ++
          [({ kind, target := s.qualify target, tableAlias, condition? } : Join)] })
      (hone given target)
  | @pushOrder text given htext replace direction? =>
    change (s.pushOrder replace given direction?).fixAlias =
      (s.pushOrder replace text direction?).fixAlias
    rw [pushOrder, pushOrder, htext]
    exact congrArg (fun t : Session =>
      { t with
        orderBy := (if replace then [] else s.orderBy) ++
          [({ text := s.qualify text, direction? } : SortEntry)] })
      (hone given text)
  | @setGroupBy names given hnames =>
    change ({ s with groupBy := [] }.addGroupBy given).fixAlias =
      ({ s with groupBy := [] }.addGroupBy names).fixAlias
    rw [fixAlias_addGroupBy, fixAlias_addGroupBy]
    exact congrArg (fun groups => { s.fixAlias with groupBy := [] ++ groups }) hnames
  | @addGroupBy names given hnames =>
    change (s.addGroupBy given).fixAlias = (s.addGroupBy names).fixAlias
    rw [fixAlias_addGroupBy, fixAlias_addGroupBy, hnames]
  | @assign field given hfield value =>
    change (s.assign given value).fixAlias = (s.assign field value).fixAlias
    rw [assign, assign, hfield]

theorem fixAlias_of_fixed {a : String} (h : s.resolver.fixed? = some a) : s.fixAlias = s := by
  rw [fixAlias, AliasResolver.fix_of_fixed h]

/-- Once the alias is fixed, two runs that spell the same names lead to the same session. -/
theorem afterAll_eq_of_sameNames {a : String} {operations operations' : List Operation}
    (h : List.Forall₂ (Operation.SameNames s.qualify) operations operations')
    (hfixed : s.resolver.fixed? = some a) : s.afterAll operations' = s.afterAll operations := by
  -- With the alias fixed, a name stands for the same behind every operation of the run.
  generalize hq : s.qualify = q at h
  induction h generalizing s with
  | nil => rfl
  | @cons operation operation' rest rest' hfirst _ ih =>
    have hkept (o : Operation) : (o.after s).resolver = s.resolver :=
      resolver_after_of_fixed hfixed o
    have hstays (o : Operation) : (o.after s).resolver.fixed? = some a := by
      rw [hkept, hfixed]
    subst hq
    have hsame := fixAlias_after_of_sameNames hfirst
    rw [fixAlias_of_fixed (hstays operation), fixAlias_of_fixed (hstays operation')] at hsame
    change (operation'.after s).afterAll rest' = (operation.after s).afterAll rest
    rw [hsame]
    exact ih (hstays operation) (congrArg AliasResolver.qualify (hkept operation))

/-! ### Declared names in their two forms -/

/-- The two forms in which a declared name is given: bare, or behind the alias. -/
def Spells (s : Session) (name given : String) : Prop :=
  given = name ∨ given = s.entityAlias ++ "." ++ name

/-- In either form, a declared name stands for itself behind the alias. -/
theorem qualify_of_spells {name given : String} (h : s.resolver.qualifies name)
    (hgiven : s.Spells name given) : s.qualify given = s.entityAlias ++ "." ++ name := by
  rcases hgiven with rfl | rfl
  · exact AliasResolver.qualify_of_qualifies h
  · exact s.resolver.qualify_append name

/-- Declared names are stored behind the alias, each of them in whichever form it is given. -/
theorem map_qualify_of_spells {names given : List String}
    (h : ∀ name ∈ names, s.resolver.qualifies name) (hgiven : List.Forall₂ s.Spells names given) :
    given.map s.qualify = names.map (s.entityAlias ++ "." ++ ·) := by
  induction hgiven with
  | nil => rfl
  | cons hfirst _ ih =>
    obtain ⟨hname, hrest⟩ := List.forall_mem_cons.1 h
    rw [List.map_cons, List.map_cons, qualify_of_spells hname hfirst, ih hrest]

/-- What the selection, the grouping and the ordering store for texts that they are given. -/
structure StoresAs (s : Session) (given stored : List String) : Prop where
  selectItems : (s.selectItems given).select = stored
  addSelect : (s.addSelect given).select = s.select ++ stored
  setGroupBy : (s.setGroupBy given).groupBy = stored
  addGroupBy : (s.addGroupBy given).groupBy = s.groupBy ++ stored
  pushOrder : List.Forall₂
    (fun text entry => ∀ replace direction?, (s.pushOrder replace text direction?).orderBy =
      (if replace then [] else s.orderBy) ++ [{ text := entry, direction? }]) given stored

/-- The selection, the grouping and the ordering store what the given texts stand for, and nothing
else. -/
theorem storesAs_map_qualify (s : Session) (given : List String) :
    s.StoresAs given (given.map s.qualify) where
  selectItems := rfl
  addSelect := rfl
  setGroupBy := groupBy_addGroupBy { s with groupBy := [] } given
  addGroupBy := groupBy_addGroupBy s given
  pushOrder := by
    rw [List.forall₂_map_right_iff, List.forall₂_same]
    exact fun _ _ _ _ => rfl

/-- What an update stores for a declared name, in whichever form it is given: the name behind the
alias, and the value with the type of the field. The column of the field is set to it. -/
structure AssignsAs (s : Session) (name given : String) (value : Value) : Prop where
  same : s.assign given value = s.assign name value
  set : (s.assign given value).set = s.set ++
    [{ target := s.entityAlias ++ "." ++ name
       param := (s.params.bind s.config.paramBase value (s.entity.typeOf? name)).1 }]
  params : (s.assign given value).params =
    (s.params.bind s.config.paramBase value (s.entity.typeOf? name)).2
  part : ∀ param, (s.assign given value).assignmentPart
      { target := s.entityAlias ++ "." ++ name, param } =
    inOrder
      [plain (sqlWord (s.entity.columnOf name) ++ " = "),
        (s.assign given value).resolved (":" ++ param)]

/-- An assignment reads its field through what the name stands for only. -/
theorem assign_of_qualify {name given : String} (h : s.qualify given = s.qualify name)
    (value : Value) : s.assign given value = s.assign name value := by
  rw [assign, assign, h]

/-- A declared name in either form sets the column of its field. The alias in front of the stored
target is taken off again when the field is looked up. -/
theorem assignsAs_of_spells {name given : String} (h : s.resolver.qualifies name)
    (hgiven : s.Spells name given) (value : Value) : s.AssignsAs name given value := by
  have hqualify : s.qualify given = s.entityAlias ++ "." ++ name := qualify_of_spells h hgiven
  have hstrip : s.resolver.strip (s.entityAlias ++ "." ++ name) = name :=
    s.resolver.strip_append name
  refine ⟨assign_of_qualify ?_ value, ?_, ?_, fun param => ?_⟩
  · exact hqualify.trans (AliasResolver.qualify_of_qualifies h).symm
  · rw [assign, hqualify, hstrip]
  · rw [assign, hqualify, hstrip]
  · have hbare : (s.assign given value).resolver.strip (s.entityAlias ++ "." ++ name) = name :=
      hstrip
    rw [assignmentPart, hbare]
    rfl

/-- A session for which it makes no difference whether names are qualified already. -/
structure QualifiesOnce (s : Session) : Prop where
  /-- A text with a dot is stored as it is. -/
  dotted : ∀ texts : List String, (∀ text ∈ texts, '.' ∈ text.toList) → s.StoresAs texts texts
  /-- A declared name is stored behind the alias, in whichever form it is given. -/
  declared : ∀ names given : List String,
    (∀ name ∈ names, s.entity.declares name ∧ '.' ∉ name.toList) →
      List.Forall₂ s.Spells names given →
        s.StoresAs given (names.map (s.entityAlias ++ "." ++ ·))
  assigned : ∀ (name given : String) (value : Value), s.entity.declares name →
    '.' ∉ name.toList → s.Spells name given → s.AssignsAs name given value
  /-- The text and the statements are the same for names that stand for the same. -/
  statements : ∀ operation operation' : Operation, operation.SameNames s.qualify operation' →
    (operation'.after s).toText = (operation.after s).toText ∧
      (operation'.after s).build = (operation.after s).build ∧
      (operation'.after s).buildCount = (operation.after s).buildCount
  /-- Once the alias is fixed, so are all later sessions. -/
  run : ∀ operations operations' : List Operation,
    List.Forall₂ (Operation.SameNames s.qualify) operations operations' →
      s.fixAlias.afterAll operations' = s.fixAlias.afterAll operations

/-- In every session it makes no difference whether names are qualified already. -/
theorem qualifiesOnce (s : Session) : s.QualifiesOnce where
  dotted texts hdots := by
    have hsame : texts.map s.qualify = texts :=
      (List.map_congr_left fun text htext =>
        AliasResolver.qualify_of_mem_dot (hdots text htext)).trans (List.map_id' texts)
    have hstores := s.storesAs_map_qualify texts
    rwa [hsame] at hstores
  declared names given hnames hgiven := by
    have hqualifies : ∀ name ∈ names, s.resolver.qualifies name := fun name hname =>
      AliasResolver.qualifies_iff.2 (hnames name hname).symm
    have hstores := s.storesAs_map_qualify given
    rwa [map_qualify_of_spells hqualifies hgiven] at hstores
  assigned _ _ value hdeclared hdot hgiven :=
    assignsAs_of_spells (AliasResolver.qualifies_iff.2 ⟨hdot, hdeclared⟩) hgiven value
  statements operation operation' hnames := by
    have hsame := fixAlias_after_of_sameNames hnames
    rw [← toText_fixAlias, ← build_fixAlias, ← buildCount_fixAlias, hsame]
    exact ⟨rfl, rfl, rfl⟩
  run _ _ hnames := afterAll_eq_of_sameNames (s := s.fixAlias) hnames rfl

/-- Names are qualified at most once. What was qualified stays as it is, and a declared name is
found again behind the alias; so it is stored in the same way whether it is given bare or behind the
alias, and an update sets the same column to the same value with the same type. -/
theorem names_qualified_once :
    (∀ r : AliasResolver, r.RoundTrips) ∧ ∀ s : Session, s.QualifiesOnce :=
  ⟨AliasResolver.roundTrips, qualifiesOnce⟩

/-- One name of two is given behind the alias, and an update is grouped by a name that it was
assigned in the other form. -/
theorem names_qualified_once_user :
    (new Samples.user).StoresAs ["u.name", "team"] ["u.name", "u.team"] ∧
      (new Samples.user).AssignsAs "name" "u.name" .null ∧
      (new Samples.user).fixAlias.afterAll [.assign "u.name" .null, .setGroupBy ["u.name"]] =
        (new Samples.user).fixAlias.afterAll [.assign "name" .null, .setGroupBy ["name"]] := by
  obtain ⟨-, hnames, hassigns, -, hruns⟩ := names_qualified_once.2 (new Samples.user)
  have hbare (name : String) : (new Samples.user).Spells name name := Or.inl rfl
  have hbehind (name : String) : (new Samples.user).Spells name ("u" ++ "." ++ name) := Or.inr rfl
  refine ⟨hnames ["name", "team"] _ (by decide) ?_, ?_, hruns _ _ ?_⟩
  · exact .cons (hbehind "name") (.cons (hbare "team") .nil)
  · exact hassigns "name" "u.name" .null (by decide) (by decide) (hbehind "name")
  · have hsame : (new Samples.user).qualify "u.name" = (new Samples.user).qualify "name" := by
      decide
    exact .cons (.assign hsame .null) (.cons (.setGroupBy (by simp [hsame])) .nil)

end Session

end EntityQuery
