import EntityQuery.Proofs.Ident
import EntityQuery.Proofs.Names
import EntityQuery.Proofs.Rows
import EntityQuery.Proofs.Session.Spacing
import EntityQuery.Proofs.Sql.FirstUse

namespace EntityQuery

open Sql

/-! ### Texts without dollar signs -/

/-- A text without a dollar sign. -/
def IsDollarFree (text : String) : Prop :=
  '$' ∉ text.toList

instance (text : String) : Decidable (IsDollarFree text) :=
  inferInstanceAs (Decidable (¬ _))

variable {first second text : String}

theorem isDollarFree_append : IsDollarFree (first ++ second) ↔
    IsDollarFree first ∧ IsDollarFree second := by
  simp only [IsDollarFree, String.toList_append, List.mem_append, not_or]

theorem IsDollarFree.append (h : IsDollarFree first) (h' : IsDollarFree second) :
    IsDollarFree (first ++ second) :=
  isDollarFree_append.2 ⟨h, h'⟩

/-- Quotes are the only characters that a word gets when it is written. -/
theorem IsDollarFree.sqlWord (h : IsDollarFree text) : IsDollarFree (sqlWord text) :=
  dollar_not_mem_sqlWord h

theorem IsDollarFree.sqlTable (h : IsDollarFree text) : IsDollarFree (sqlTable text) :=
  dollar_not_mem_sqlTable h

/-- Texts with a separator between them have only their own characters and those of the
separator. -/
theorem isDollarFree_intercalate {sep : String} {texts : List String} (hsep : IsDollarFree sep)
    (h : ∀ text ∈ texts, IsDollarFree text) : IsDollarFree (sep.intercalate texts) := by
  rw [IsDollarFree, String.toList_intercalate]
  intro hmem
  rcases mem_of_mem_intercalate hmem with hmem | ⟨row, hrow, hmem⟩
  · exact hsep hmem
  · obtain ⟨text, htext, rfl⟩ := List.mem_map.1 hrow
    exact h text htext hmem

/-- Numbers consist of digits. -/
theorem isDollarFree_toString (n : Nat) : IsDollarFree (toString n) := by
  intro hmem
  have hdigits : (toString n).toList = Nat.toDigits 10 n := Nat.toList_repr
  rw [hdigits] at hmem
  have hdigit := Nat.isDigit_of_mem_toDigits (by decide) (by decide) hmem
  revert hdigit
  decide

theorem isDollarFree_joinKeyword (kind : JoinKind) : IsDollarFree kind.keyword := by
  cases kind <;> decide

theorem isDollarFree_directionKeyword (direction : Direction) :
    IsDollarFree direction.keyword := by
  cases direction <;> decide

/-- The names by which the database knows the entity and the entities that it refers to. -/
def EntityMeta.sqlNames (entity : EntityMeta) : List String :=
  entity.table :: entity.fields.map FieldMeta.column ++
    entity.associations.flatMap fun assoc =>
      [assoc.targetTable, assoc.joinColumn, assoc.referencedColumn]

variable {entity : EntityMeta}

theorem EntityMeta.column_mem_sqlNames {field : FieldMeta} (h : field ∈ entity.fields) :
    field.column ∈ entity.sqlNames :=
  List.mem_cons_of_mem _ (List.mem_append_left _ (List.mem_map_of_mem h))

/-- The table and the columns of an association are among the names of the entity. -/
theorem EntityMeta.mem_sqlNames_of_association {assoc : AssociationMeta} {name : String}
    (h : assoc ∈ entity.associations)
    (hname : name ∈ [assoc.targetTable, assoc.joinColumn, assoc.referencedColumn]) :
    name ∈ entity.sqlNames :=
  List.mem_cons_of_mem _ (List.mem_append_right _ (List.mem_flatMap.2 ⟨assoc, h, hname⟩))

/-- A name stands for a column of the entity or for itself. -/
theorem isDollarFree_columnOf {name : String} (hnames : ∀ text ∈ entity.sqlNames, IsDollarFree text)
    (hname : IsDollarFree name) : IsDollarFree (entity.columnOf name) := by
  rw [EntityMeta.columnOf, EntityMeta.columnFor?]
  cases hfield : entity.field? name with
  | some field =>
    exact hnames _ (EntityMeta.column_mem_sqlNames (List.mem_of_find?_eq_some hfield))
  | none =>
    cases hassoc : entity.association? name with
    | some assoc =>
      have hmem : assoc ∈ entity.associations := List.mem_of_find?_eq_some hassoc
      exact hnames _ (EntityMeta.mem_sqlNames_of_association hmem (by simp))
    | none => exact hname

/-- What is left of a name without its alias has no other characters than the name. -/
theorem isDollarFree_strip {r : AliasResolver} (h : IsDollarFree text) :
    IsDollarFree (r.strip text) := by
  rw [AliasResolver.strip]
  split
  · rename_i rest hprefix
    have htext := List.isPrefixOf?_eq_some_iff_append_eq.1 hprefix
    intro hmem
    rw [String.toList_ofList] at hmem
    apply h
    rw [← htext]
    exact List.mem_append_right _ (List.mem_cons_of_mem _ hmem)
  · exact h

/-- The texts that a join keeps. -/
def Join.texts (j : Join) : List String :=
  j.target :: j.tableAlias :: j.condition?.toList

/-! ### Fragments without dollar signs -/

/-- Neither the alias nor any name of the entity has a dollar sign. -/
structure Sql.Scope.IsDollarFree (scope : Scope) : Prop where
  entityAlias : EntityQuery.IsDollarFree scope.entityAlias
  names : ∀ text ∈ scope.entity.sqlNames, EntityQuery.IsDollarFree text

namespace Session

variable {scope : Scope}

/-- A fragment without a dollar sign in its text. -/
def Fragment.IsDollarFree : Fragment → Prop
  | plain text => EntityQuery.IsDollarFree text
  | resolved text => EntityQuery.IsDollarFree text
  | fault _ => True

/-- Translation takes characters from the names of the entity and from the source of the segment,
and leaves placeholders as they are. -/
theorem dollar_not_mem_translatedText (hscope : scope.IsDollarFree) {qualifier : List Char}
    {segment : Segment} (h : '$' ∉ segment.source qualifier) :
    '$' ∉ translatedText scope segment := by
  cases segment with
  | verbatim text => exact h
  | placeholder name inList => exact h
  | field name =>
    have hname : EntityQuery.IsDollarFree (String.ofList name) := by
      rw [EntityQuery.IsDollarFree, String.toList_ofList]
      exact fun hmem => h (List.mem_append_right _ (List.mem_cons_of_mem _ hmem))
    have hdot : EntityQuery.IsDollarFree "." := by decide
    exact (hscope.entityAlias.sqlWord.append hdot).append
      (isDollarFree_columnOf hscope.names hname).sqlWord

/-- All that a fragment writes besides its references is without dollar signs, so each dollar sign
of the statement begins a reference. -/
theorem Fragment.IsDollarFree.translatedText (hscope : scope.IsDollarFree) {fragment : Fragment}
    (h : fragment.IsDollarFree) :
    '$' ∉ (fragment.segments scope).flatMap (Sql.translatedText scope) := by
  cases fragment with
  | plain text =>
    rw [Fragment.segments, List.flatMap_singleton]
    exact h
  | fault reason => exact List.not_mem_nil
  | resolved text =>
    have hsource := (readsAll_segmentsFrom scope.entityAlias.toList [] text.toList).flatMap_source
    intro hmem
    obtain ⟨segment, hsegment, hmem⟩ := List.mem_flatMap.1 hmem
    have hfree : '$' ∉ segment.source scope.entityAlias.toList := by
      intro hmem
      apply h
      rw [← hsource]
      exact List.mem_flatMap.2 ⟨segment, hsegment, hmem⟩
    exact dollar_not_mem_translatedText hscope hfree hmem

/-! ### Sessions without dollar signs -/

/-- Neither the texts of a session nor the alias and the names of its entity have a dollar sign. -/
structure HasNoDollar (s : Session) : Prop where
  scope : s.scope.IsDollarFree
  select : ∀ item ∈ s.select, IsDollarFree item
  joins : ∀ j ∈ s.joins, ∀ text ∈ j.texts, IsDollarFree text
  set : ∀ a ∈ s.set, IsDollarFree a.target ∧ IsDollarFree a.param
  where? : ∀ predicate ∈ s.where?, IsDollarFree predicate.toText
  groupBy : ∀ group ∈ s.groupBy, IsDollarFree group
  having? : ∀ predicate ∈ s.having?, IsDollarFree predicate.toText
  orderBy : ∀ entry ∈ s.orderBy, IsDollarFree entry.text

variable {s : Session}

/-- A row of fragments without dollar signs. -/
def IsDollarFreeRow (row : List Fragment) : Prop :=
  ∀ fragment ∈ row, fragment.IsDollarFree

theorem isDollarFreeRow_commaFragments {α : Type} {items : List α} {row : α → List Fragment}
    (h : ∀ a ∈ items, IsDollarFreeRow (row a)) :
    IsDollarFreeRow (commaFragments (items.map row)) :=
  forall_mem_commaFragments (show IsDollarFree ", " by decide) (List.forall_mem_map.2 h)

theorem IsDollarFreeRow.append {row next : List Fragment} (h : IsDollarFreeRow row)
    (h' : IsDollarFreeRow next) : IsDollarFreeRow (row ++ next) :=
  List.forall_mem_append.2 ⟨h, h'⟩

theorem isDollarFreeRow_nil : IsDollarFreeRow [] :=
  fun _ hmem => absurd hmem List.not_mem_nil

theorem isDollarFreeRow_plain_cons {text : String} {row : List Fragment}
    (htext : IsDollarFree text) (h : IsDollarFreeRow row) :
    IsDollarFreeRow (.plain text :: row) :=
  List.forall_mem_cons.2 ⟨htext, h⟩

theorem isDollarFreeRow_resolved {text : String} (h : IsDollarFree text) :
    IsDollarFreeRow [.resolved text] :=
  List.forall_mem_singleton.2 h

theorem isDollarFreeRow_fault (reason : ValidationFault) : IsDollarFreeRow [.fault reason] :=
  List.forall_mem_singleton.2 trivial

/-- A clause has the characters of its keyword and of its predicate. -/
theorem isDollarFreeRow_predicateFragments {keyword : String} {predicate? : Option Expr}
    (hkeyword : IsDollarFree keyword)
    (h : ∀ predicate ∈ predicate?, IsDollarFree predicate.toText) :
    IsDollarFreeRow (predicateFragments keyword predicate?) := by
  cases predicate? with
  | none => exact isDollarFreeRow_nil
  | some predicate =>
    have htext := h predicate rfl
    rw [predicateFragments]
    split
    · exact isDollarFreeRow_nil
    · exact isDollarFreeRow_plain_cons hkeyword (isDollarFreeRow_resolved htext)

theorem isDollarFree_windowText (s : Session) : IsDollarFree s.windowText := by
  rw [windowText]
  apply IsDollarFree.append
  · split
    · exact isDollarFree_append.2 ⟨by decide, isDollarFree_toString _⟩
    · decide
  · split
    · exact isDollarFree_append.2 ⟨by decide, isDollarFree_toString _⟩
    · decide

namespace HasNoDollar

theorem sqlAlias (h : s.HasNoDollar) : IsDollarFree s.sqlAlias :=
  h.scope.entityAlias.sqlWord

theorem source (h : s.HasNoDollar) {separator : String}
    (hseparator : IsDollarFree separator) :
    IsDollarFree (s.source separator) :=
  ((h.scope.names _ List.mem_cons_self).sqlTable.append hseparator).append h.sqlAlias

theorem whereFragments (h : s.HasNoDollar) : IsDollarFreeRow s.whereFragments :=
  isDollarFreeRow_predicateFragments (by decide) h.where?

theorem groupingFragments (h : s.HasNoDollar) : IsDollarFreeRow s.groupingFragments := by
  have hgroups : IsDollarFree (", ".intercalate s.groupBy) :=
    isDollarFree_intercalate (by decide) h.groupBy
  have hhaving : IsDollarFreeRow (predicateFragments " HAVING " s.having?) :=
    isDollarFreeRow_predicateFragments (by decide) h.having?
  rw [Session.groupingFragments]
  split
  · exact hhaving
  · exact (isDollarFreeRow_plain_cons (by decide) (isDollarFreeRow_resolved hgroups)).append hhaving

theorem orderingFragments (h : s.HasNoDollar) : IsDollarFreeRow s.orderingFragments := by
  rw [Session.orderingFragments]
  split
  · exact isDollarFreeRow_nil
  · refine isDollarFreeRow_plain_cons (by decide) (isDollarFreeRow_commaFragments ?_)
    intro entry hentry
    have htext := h.orderBy entry hentry
    rw [sortFragments]
    split
    · rename_i direction _
      have hkeyword : IsDollarFree (" " ++ direction.keyword) :=
        isDollarFree_append.2 ⟨by decide, isDollarFree_directionKeyword direction⟩
      exact (isDollarFreeRow_resolved htext).append
        (isDollarFreeRow_plain_cons hkeyword isDollarFreeRow_nil)
    · exact isDollarFreeRow_resolved htext

theorem selectItemFragments (h : s.HasNoDollar) {item : String} (hitem : item ∈ s.select) :
    IsDollarFreeRow (s.selectItemFragments item) := by
  rw [Session.selectItemFragments]
  split
  · exact isDollarFreeRow_plain_cons (h.sqlAlias.append (by decide)) isDollarFreeRow_nil
  · exact isDollarFreeRow_resolved (h.select item hitem)

/-- Associations are looked up among those of the entity. -/
theorem mem_of_associationOf? {target : String} {assoc : AssociationMeta}
    (h : s.associationOf? target = some assoc) : assoc ∈ s.entity.associations := by
  rw [associationOf?] at h
  split at h
  · exact List.mem_of_find?_eq_some h
  · cases h

/-- A join has the characters of its own texts, and of the names of its association if there is
one. -/
theorem joinFragments (h : s.HasNoDollar) {j : Join} (hj : j ∈ s.joins) :
    IsDollarFreeRow (s.joinFragments j) := by
  have htarget : IsDollarFree j.target := h.joins j hj _ (by simp [Join.texts])
  have halias : IsDollarFree j.tableAlias := h.joins j hj _ (by simp [Join.texts])
  have hkeyword := isDollarFree_joinKeyword j.kind
  have hcondition (keyword text : String) (hkeyword : IsDollarFree keyword)
      (hcondition : j.condition? = some text) :
      IsDollarFreeRow [.plain keyword, .resolved text] :=
    isDollarFreeRow_plain_cons hkeyword
      (isDollarFreeRow_resolved (h.joins j hj _ (by simp [Join.texts, hcondition])))
  have hblank : IsDollarFree " " := by decide
  unfold Session.joinFragments
  cases hassoc : s.associationOf? j.target with
  | some assoc =>
    have hmem := mem_of_associationOf? hassoc
    have hname (name : String)
        (hname : name ∈ [assoc.targetTable, assoc.joinColumn, assoc.referencedColumn]) :
        IsDollarFree name :=
      h.scope.names _ (EntityMeta.mem_sqlNames_of_association hmem hname)
    have htable := (hname assoc.targetTable (by simp)).sqlTable
    have hcolumn := (hname assoc.joinColumn (by simp)).sqlWord
    have hreferenced := (hname assoc.referencedColumn (by simp)).sqlWord
    have hmarks : IsDollarFree " ON " ∧ IsDollarFree "." ∧ IsDollarFree " = " := by decide
    have hkeys : IsDollarFree
        (" " ++ j.kind.keyword ++ " " ++ sqlTable assoc.targetTable ++ " " ++ j.tableAlias ++
          " ON " ++ j.tableAlias ++ "." ++ sqlWord assoc.referencedColumn ++ " = " ++
          s.sqlAlias ++ "." ++ sqlWord assoc.joinColumn) := by
      simp only [isDollarFree_append, hblank, hkeyword, htable, halias, hmarks, hreferenced,
        h.sqlAlias, hcolumn, and_self]
    cases hj : j.condition? with
    | some text => exact isDollarFreeRow_plain_cons hkeys (hcondition " AND " text (by decide) hj)
    | none => exact isDollarFreeRow_plain_cons hkeys isDollarFreeRow_nil
  | none =>
    cases hj : j.condition? with
    | some text =>
      have htable : IsDollarFree
          (" " ++ j.kind.keyword ++ " " ++ j.target ++ " " ++ j.tableAlias) := by
        simp only [isDollarFree_append, hblank, hkeyword, htarget, halias, and_self]
      exact isDollarFreeRow_plain_cons htable (hcondition " ON " text (by decide) hj)
    | none => exact isDollarFreeRow_fault _

theorem joinsFragments (h : s.HasNoDollar) :
    IsDollarFreeRow (s.joins.flatMap s.joinFragments) := by
  intro fragment hmem
  obtain ⟨j, hj, hmem⟩ := List.mem_flatMap.1 hmem
  exact h.joinFragments hj fragment hmem

theorem selectFragments (h : s.HasNoDollar) : IsDollarFreeRow s.selectFragments := by
  have hsource : IsDollarFree (" FROM " ++ s.source " ") :=
    isDollarFree_append.2 ⟨by decide, h.source (by decide)⟩
  have hfrom := isDollarFreeRow_plain_cons hsource h.joinsFragments
  have hhead : IsDollarFree ("SELECT " ++ if s.distinct then "DISTINCT " else "") := by
    split <;> decide
  have hitems : IsDollarFreeRow
      (if s.select.isEmpty then [.plain (s.sqlAlias ++ ".*")]
        else commaFragments (s.select.map s.selectItemFragments)) := by
    split
    · exact isDollarFreeRow_plain_cons (h.sqlAlias.append (by decide)) isDollarFreeRow_nil
    · exact isDollarFreeRow_commaFragments fun _ => h.selectItemFragments
  exact isDollarFreeRow_plain_cons hhead (hitems.append hfrom)

theorem assignmentFragments (h : s.HasNoDollar) {a : Assignment} (ha : a ∈ s.set) :
    IsDollarFreeRow (s.assignmentFragments a) := by
  obtain ⟨htarget, hparam⟩ := h.set a ha
  have hcolumn := isDollarFree_columnOf h.scope.names
    (isDollarFree_strip (r := s.resolver) htarget)
  exact isDollarFreeRow_plain_cons (hcolumn.sqlWord.append (by decide))
    (isDollarFreeRow_resolved (isDollarFree_append.2 ⟨by decide, hparam⟩))

/-- The beginning of the statement, for each kind of statement. -/
theorem headFragments (h : s.HasNoDollar) : IsDollarFreeRow s.headFragments := by
  have hsource : IsDollarFree (s.source " AS ") := h.source (by decide)
  unfold Session.headFragments
  split
  · exact h.selectFragments
  · split
    · exact isDollarFreeRow_fault _
    · have hupdate : IsDollarFree "UPDATE " := by decide
      exact isDollarFreeRow_plain_cons ((hupdate.append hsource).append (by decide))
        (isDollarFreeRow_commaFragments fun _ => h.assignmentFragments)
  · exact isDollarFreeRow_plain_cons (isDollarFree_append.2 ⟨by decide, hsource⟩)
      isDollarFreeRow_nil

theorem tailFragments (h : s.HasNoDollar) : IsDollarFreeRow s.tailFragments := by
  unfold Session.tailFragments
  split
  · exact (h.groupingFragments.append h.orderingFragments).append
      (isDollarFreeRow_plain_cons (isDollarFree_windowText s) isDollarFreeRow_nil)
  · exact isDollarFreeRow_nil

/-- A session without dollar signs has a statement whose fragments have none. -/
theorem statementFragments (h : s.HasNoDollar) : IsDollarFreeRow s.statementFragments :=
  (h.headFragments.append h.whereFragments).append h.tailFragments

/-- Nor do the fragments of the statement that counts its rows. -/
theorem countFragments (h : s.HasNoDollar) : IsDollarFreeRow s.countFragments := by
  rw [Session.countFragments]
  split
  · have hend : IsDollarFreeRow [.plain ") AS t"] :=
      isDollarFreeRow_plain_cons (by decide) isDollarFreeRow_nil
    have hselect : IsDollarFreeRow (.plain "SELECT COUNT(*) FROM (" :: s.selectFragments) :=
      isDollarFreeRow_plain_cons (by decide) h.selectFragments
    exact ((hselect.append h.whereFragments).append h.groupingFragments).append hend
  · have hhead : IsDollarFree ("SELECT COUNT(*) FROM " ++ s.source " ") :=
      isDollarFree_append.2 ⟨by decide, h.source (by decide)⟩
    exact isDollarFreeRow_plain_cons hhead (h.joinsFragments.append h.whereFragments)

end HasNoDollar

/-! ### The parameters of a statement -/

/-- The references in a text are to all the parameters, in the order of their first use. -/
theorem eraseDups_referenceNumbers_of_writeAll {fragments : List Fragment} {w : Writer}
    (h : writeAll scope {} fragments = .ok w) (hscope : scope.IsDollarFree)
    (hspaced : IsSpaced scope fragments) (hfree : IsDollarFreeRow fragments) :
    (referenceNumbers w.sql.toList).eraseDups = List.range' 1 w.params.length := by
  refine eraseDups_referenceNumbers (foldlM_of_writeAll h) hspaced ?_
  rw [List.flatMap_assoc]
  intro hmem
  obtain ⟨fragment, hfragment, hmem⟩ := List.mem_flatMap.1 hmem
  exact (hfree fragment hfragment).translatedText hscope hmem

/-- A row of fragments has a placeholder of the name. -/
def Mentions (entityAlias : String) (fragments : List Fragment) (name : String)
    (inList : Bool) : Prop :=
  ∃ text, .resolved text ∈ fragments ∧ .placeholder name.toList inList ∈ segments entityAlias text

/-- Every parameter is one that the value of some placeholder takes up. -/
theorem mem_params_of_writeAll {fragments : List Fragment} {w : Writer} {v : Value}
    (h : writeAll scope {} fragments = .ok w) (hv : v ∈ w.params) :
    ∃ name inList value, Mentions scope.entityAlias fragments name inList ∧
      scope.table.value? name = some value ∧ v ∈ value.parameters inList := by
  rcases mem_params_of_foldlM (foldlM_of_writeAll h) hv with
    hv | ⟨name, inList, value, hmem, hvalue, hv⟩
  · cases hv
  · refine ⟨String.ofList name, inList, value, ?_, hvalue, hv⟩
    obtain ⟨fragment, hfragment, hmem⟩ := List.mem_flatMap.1 hmem
    cases fragment with
    | plain text => cases List.mem_singleton.1 hmem
    | fault reason => cases hmem
    | resolved text =>
      refine ⟨text, hfragment, ?_⟩
      rwa [String.toList_ofList]

/-- What is counted is named in the statement itself. -/
theorem resolved_mem_statementFragments {text : String} (hkind : s.kind = .select)
    (h : .resolved text ∈ s.countFragments) : .resolved text ∈ s.statementFragments := by
  rw [countFragments] at h
  rw [statementFragments, headFragments, tailFragments, hkind]
  split at h
  · simp only [List.cons_append, List.mem_cons, List.mem_append, reduceCtorEq, List.not_mem_nil,
      false_or, or_false] at h ⊢
    tauto
  · simp only [selectFragments, List.cons_append, List.mem_cons, List.mem_append, reduceCtorEq,
      false_or] at h ⊢
    tauto

/-- When no text of a session and no name of its entity has a dollar sign, the references in the
statement and in the statement that counts its rows are to all of their parameters, in the order of
their first use. Every parameter is a bound value, or an element of a bound list, whose name stands
in the statement. -/
theorem eraseDups_referenceNumbers_build (s : Session) {q : BuiltQuery} (h : s.HasNoDollar)
    (hq : s.build = .ok q ∨ s.buildCount = .ok q) :
    (referenceNumbers q.sql.toList).eraseDups = List.range' 1 q.params.length ∧
      ∀ v ∈ q.params, ∃ name inList value,
        Mentions s.entityAlias s.statementFragments name inList ∧
          s.params.value? name = some value ∧ v ∈ value.parameters inList := by
  rcases hq with hq | hq
  · rw [build_eq] at hq
    obtain ⟨w, hw, rfl⟩ := map_eq_ok hq
    exact ⟨eraseDups_referenceNumbers_of_writeAll hw h.scope
      s.isSpaced_statementFragments h.statementFragments, fun v => mem_params_of_writeAll hw⟩
  · have hkind : s.kind = .select := by
      by_contra hkind
      rw [s.buildCount_of_ne_select hkind] at hq
      cases hq
    rw [buildCount_eq s hkind] at hq
    obtain ⟨w, hw, rfl⟩ := map_eq_ok hq
    refine ⟨eraseDups_referenceNumbers_of_writeAll hw h.scope
      s.isSpaced_countFragments h.countFragments, fun v hv => ?_⟩
    obtain ⟨name, inList, value, ⟨text, htext, hmem⟩, hvalue, hv⟩ := mem_params_of_writeAll hw hv
    exact ⟨name, inList, value, ⟨text, resolved_mem_statementFragments hkind htext, hmem⟩, hvalue,
      hv⟩

/-- The teams of some users, with a list, a name that occurs twice and a value that nothing
mentions. -/
def Samples.teams : Session where
  resolver := { entity := EntityQuery.Samples.user, fixed? := some "u" }
  select := ["u.team", "COUNT(u.id) > :least"]
  where? := some (.and [.inList "u.id" "ids" false, .raw "u.name <> :name OR u.team = :least"])
  groupBy := ["u.team"]
  orderBy := [{ text := "u.team = :name", direction? := some .ascending }]
  params := (((({} : ParamTable).set "least" (.int 3) none).set "ids" (.list [.int 1, .int 2])
    none).set "name" (.string "Ada") none).set "other" (.int 4) none

/-- The statement of the sample uses two of its four parameters twice. The value that nothing
mentions is not sent. -/
theorem eraseDups_referenceNumbers_build_teams :
    Samples.teams.HasNoDollar ∧ ∃ q, Samples.teams.build = .ok q ∧
      q.sql = "SELECT u.team_id, COUNT(u.id) > $1 FROM users u WHERE u.id IN ($2, $3) AND " ++
        "(u.name <> $4 OR u.team_id = $1) GROUP BY u.team_id ORDER BY u.team_id = $4 ASC" ∧
      (referenceNumbers q.sql.toList).eraseDups = List.range' 1 q.params.length ∧
        ∀ v ∈ q.params, ∃ name inList value,
          Mentions "u" Samples.teams.statementFragments name inList ∧
            Samples.teams.params.value? name = some value ∧ v ∈ value.parameters inList := by
  have hdollar : Samples.teams.HasNoDollar :=
    ⟨⟨by decide +kernel, by decide +kernel⟩, by decide +kernel, by decide +kernel,
      by decide +kernel, by decide +kernel, by decide +kernel, by decide +kernel,
      by decide +kernel⟩
  have hsql : Samples.teams.build.toOption.map BuiltQuery.sql = some
      ("SELECT u.team_id, COUNT(u.id) > $1 FROM users u WHERE u.id IN ($2, $3) AND " ++
        "(u.name <> $4 OR u.team_id = $1) GROUP BY u.team_id ORDER BY u.team_id = $4 ASC") := by
    decide +kernel
  obtain ⟨q, hq⟩ := exists_ok_of_isSome (x := Samples.teams.build) (by decide +kernel)
  rw [hq] at hsql
  exact ⟨hdollar, q, hq, Option.some.inj hsql,
    eraseDups_referenceNumbers_build Samples.teams hdollar (Or.inl hq)⟩

end Session

end EntityQuery
