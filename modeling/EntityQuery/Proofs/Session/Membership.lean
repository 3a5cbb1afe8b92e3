import EntityQuery.Proofs.Call.Contribution
import EntityQuery.Proofs.Parameters.Freshness
import EntityQuery.Proofs.Session.Failure
import EntityQuery.Proofs.Session.Fragments
import EntityQuery.Proofs.Session.Shape
import EntityQuery.Proofs.Sql.Membership
import EntityQuery.Proofs.Sql.Rendering

namespace EntityQuery

open Sql

/-! ### The text of a membership test -/

namespace Sql

variable {entity : EntityMeta} {entityAlias : String} {table : ParamTable} {name : String}

/-- The text of a membership test ends with its placeholder and a bracket. -/
theorem toText_inList (column name : String) (negated : Bool) :
    (Atom.inList column name negated).toText =
      column ++ membershipText negated ++ ":" ++ name ++ ")" := by
  cases negated <;> simp [Atom.toText, membershipText, String.append_assoc]

/-- A test over a placeholder binds the name as a list. -/
theorem pushText_inList {column : String} {written : List Char}
    (hcolumn : Renders entity entityAlias column.toList written) (hname : Text.isAsciiWord name)
    (negated : Bool) (w : Writer) :
    w.pushText ⟨entity, entityAlias, table⟩ (Atom.inList column name negated).toText =
      ((w.push (.ofList (written ++ (membershipText negated).toList))).bind table name true).map
        fun bound => bound.2.push (bound.1 ++ ")") := by
  have hinert : Renders entity entityAlias (membershipText negated).toList
      (membershipText negated).toList := by
    cases negated
    · exact renders_of_inert (by decide)
    · exact renders_of_inert (by decide)
  have hdetached : Detached column.toList (membershipText negated).toList := by
    cases negated
    · exact detached_cons (by decide) (by decide)
    · exact detached_cons (by decide) (by decide)
  have hlead : Renders entity entityAlias (column ++ membershipText negated).toList
      (written ++ (membershipText negated).toList) := by
    rw [String.toList_append]
    exact hcolumn.append hinert hdetached
  have hafter : Renders entity entityAlias ")".toList ")".toList := renders_of_inert (by decide)
  have hstop : StopsWord ")".toList := by
    simpa [StopsWord] using Expr.isSeparator_close.first
  have hcontext :
      isListItem (column ++ membershipText negated).toList.reverse ")".toList = true := by
    rw [String.toList_append, List.reverse_append]
    cases negated <;> rfl
  rw [toText_inList]
  exact pushText_placeholder hlead hname hafter hstop hcontext

/-- A name that is bound to a list is written by references to its members, also when it was
written before, as long as it was written as a list then. -/
theorem exists_bind_list {w : Writer} {items : List Value}
    (hvalue : table.value? name = some (.list items))
    (hwritten : ∀ text, w.written.lookup name = some text →
      RefersTo table w.params name true text) :
    ∃ first next, w.bind table name true = .ok (listText (first + 1) items, next) ∧
      next.sql = w.sql ∧ items <+: next.params.drop first := by
  cases hlookup : w.written.lookup name with
  | some text =>
    obtain ⟨value, first, hsame, rfl, hleads⟩ := hwritten text hlookup
    obtain rfl : value = .list items := Option.some.inj (hsame.symm.trans hvalue)
    exact ⟨first, w, Writer.bind_of_written hlookup, rfl, hleads⟩
  | none =>
    exact ⟨w.params.length, _, Writer.bind_of_value hlookup hvalue, rfl, by simp [Value.parameters]⟩

end Sql

namespace Session

/-! ### Statements with a filter -/

/-- What the statement of a session has behind `WHERE`, between its head and its tail. -/
def HasFilter (t : Session) (q : BuiltQuery) (filter : List Char) : Prop :=
  ∃ head middle last, writeAll t.scope {} t.headFragments = .ok head ∧
    writeAll t.scope head t.whereFragments = .ok middle ∧
    middle.sql.toList = head.sql.toList ++ " WHERE ".toList ++ filter ∧
    writeAll t.scope middle t.tailFragments = .ok last ∧ q = last.finish

section

variable {scope : Scope} {fragments : List Fragment} {before after : Writer}

/-- Fragments that can be written have no fault among them. -/
theorem fault_not_mem_of_writeAll (h : writeAll scope before fragments = .ok after)
    (reason : ValidationFault) : .fault reason ∉ fragments := by
  induction fragments generalizing before with
  | nil => exact List.not_mem_nil
  | cons fragment rest ih =>
    obtain ⟨next, hfirst, hrest⟩ := foldlM_cons_eq_ok h
    rw [List.mem_cons, not_or]
    refine ⟨?_, ih hrest⟩
    rintro rfl
    cases hfirst

/-- What a statement keeps for a name refers to the value of the name, in the context of one of its
placeholders. -/
theorem refersTo_of_writeAll (h : writeAll scope {} fragments = .ok after) {name text : String}
    (htext : after.written.lookup name = some text) :
    ∃ inList, (name, inList) ∈ placeholders (fragments.flatMap (Fragment.segments scope)) ∧
      RefersTo scope.table after.params name inList text := by
  rcases (wrote_of_writeAll h).added name text htext with hnone | ⟨inList, hmem, hrefers⟩
  · cases hnone
  · refine ⟨inList, ?_, hrefers⟩
    rw [← mem_placeholders_iff, String.ofList_toList] at hmem
    exact hmem

/-- Fragments that can be written have only bound names. -/
theorem contains_of_writeAll (h : writeAll scope {} fragments = .ok after) {name : List Char}
    {inList : Bool}
    (hmem : .placeholder name inList ∈ fragments.flatMap (Fragment.segments scope)) :
    scope.table.contains (String.ofList name) := by
  obtain ⟨text, htext⟩ := (wrote_of_writeAll h).placeholders name inList hmem
  obtain ⟨_, -, value, -, hvalue, -⟩ := refersTo_of_writeAll h htext
  obtain ⟨parameter, hparameter, -⟩ := Option.map_eq_some_iff.1 hvalue
  rw [ParamTable.contains_eq, hparameter]
  rfl

/-- Some of the fragments of a statement can be written from anywhere, and with more parameters. -/
theorem exists_writeAll_of_subset {entity : EntityMeta} {entityAlias : String}
    {table params : ParamTable} {some : List Fragment}
    (h : writeAll ⟨entity, entityAlias, table⟩ {} fragments = .ok after)
    (hnames : table.NamesIn params) (hsubset : some ⊆ fragments) (w : Writer) :
    ∃ next, writeAll ⟨entity, entityAlias, params⟩ w some = .ok next := by
  refine exists_writeAll w (fun reason hmem => ?_) fun name inList hmem => ?_
  · exact fault_not_mem_of_writeAll h reason (hsubset hmem)
  · obtain ⟨fragment, hfragment, hsegment⟩ := List.mem_flatMap.1 hmem
    have hbound :=
      contains_of_writeAll h (List.mem_flatMap.2 ⟨fragment, hsubset hfragment, hsegment⟩)
    exact ParamTable.exists_value_of_contains (hnames _ hbound)

end

variable {s : Session} {params : ParamTable}

/-- The names that the head of a statement uses are bound. -/
theorem contains_of_mem_head {name : String} {inList : Bool} (hbuild : ∃ q, s.build = .ok q)
    (hmem : (name, inList) ∈ placeholders (s.headFragments.flatMap (Fragment.segments s.scope))) :
    s.params.contains name := by
  obtain ⟨q, hq⟩ := hbuild
  rw [build_eq] at hq
  obtain ⟨written, hwritten, -⟩ := map_eq_ok hq
  rw [← String.ofList_toList (s := name), mem_placeholders_iff] at hmem
  rw [← String.ofList_toList (s := name)]
  have hstatement : .placeholder name.toList inList ∈
      s.statementFragments.flatMap (Fragment.segments s.scope) := by
    rw [statementFragments, List.append_assoc, List.flatMap_append]
    exact List.mem_append_left _ hmem
  exact contains_of_writeAll hwritten hstatement

/-- The session with one condition, over parameters of its own. -/
def filtered (s : Session) (params : ParamTable) (a : Atom) : Session :=
  { s with params, where? := some (.atom a) }

theorem scope_filtered (s : Session) (params : ParamTable) (a : Atom) :
    (s.filtered params a).scope = ⟨s.entity, s.entityAlias, params⟩ :=
  rfl

theorem headFragments_filtered (s : Session) (params : ParamTable) (a : Atom) :
    (s.filtered params a).headFragments = s.headFragments :=
  rfl

theorem tailFragments_filtered (s : Session) (params : ParamTable) (a : Atom) :
    (s.filtered params a).tailFragments = s.tailFragments :=
  rfl

theorem whereFragments_filtered (s : Session) (params : ParamTable) {a : Atom}
    (ha : a.isEmpty = false) :
    (s.filtered params a).whereFragments = [.plain " WHERE ", .resolved a.toText] := by
  simp [filtered, whereFragments, predicateFragments, Expr.isEmpty, ha, Expr.toText]

/-- A session that has a statement has one with a condition as well, as soon as the text of the
condition can be written behind the head. What holds of the written condition and the parameters so
far has to hold when more parameters follow. -/
theorem exists_hasFilter {a : Atom} {P : List Value → List Char → Prop}
    (hbuild : ∃ q, s.build = .ok q) (hnames : s.params.NamesIn params) (ha : a.isEmpty = false)
    (hmore : ∀ {values more filter}, values <+: more → P values filter → P more filter)
    (hatom : ∀ head, writeAll ⟨s.entity, s.entityAlias, params⟩ {} s.headFragments = .ok head →
      ∃ middle filter,
        (head.push " WHERE ").pushText ⟨s.entity, s.entityAlias, params⟩ a.toText = .ok middle ∧
          middle.sql.toList = head.sql.toList ++ " WHERE ".toList ++ filter ∧
            P middle.params filter) :
    ∃ q filter, (s.filtered params a).build = .ok q ∧ (s.filtered params a).HasFilter q filter ∧
      P q.params filter := by
  obtain ⟨q, hq⟩ := hbuild
  rw [build_eq] at hq
  obtain ⟨written, hwritten, -⟩ := map_eq_ok hq
  obtain ⟨head, hhead⟩ := exists_writeAll_of_subset hwritten hnames
    (fun fragment hmem => List.mem_append_left _ (List.mem_append_left _ hmem)) {}
  obtain ⟨middle, filter, hmiddle, hsql, hfilter⟩ := hatom head hhead
  obtain ⟨last, hlast⟩ := exists_writeAll_of_subset hwritten hnames
    (fun fragment hmem => List.mem_append_right _ hmem) middle
  have hcondition : writeAll ⟨s.entity, s.entityAlias, params⟩ head
      (s.filtered params a).whereFragments = .ok middle := by
    rw [whereFragments_filtered s params ha, writeAll_cons, Fragment.write, Except.bind,
      writeAll_cons, Fragment.write, hmiddle]
    rfl
  have hall : writeAll ⟨s.entity, s.entityAlias, params⟩ {}
      (s.filtered params a).statementFragments = .ok last := by
    rw [statementFragments, headFragments_filtered, tailFragments_filtered, writeAll_append,
      writeAll_append, hhead, Except.bind, hcondition, Except.bind, hlast]
  refine ⟨last.finish, filter, ?_, ⟨head, middle, last, hhead, hcondition, hsql, hlast, rfl⟩,
    hmore (wrote_of_writeAll hlast).params hfilter⟩
  rw [build_eq, scope_filtered, hall]
  rfl

/-- The text of a membership test with references to the members of a list among the parameters. -/
def IsListFilter (written : List Char) (negated : Bool) (items values : List Value)
    (filter : List Char) : Prop :=
  ∃ first, items <+: values.drop first ∧
    filter = written ++ (membershipText negated).toList ++ (listText (first + 1) items).toList ++
      [')']

/-- Parameters that are added behind the others do not change the ones that a filter refers to. -/
theorem IsListFilter.mono {written filter : List Char} {negated : Bool}
    {items values more : List Value} (hmore : values <+: more)
    (h : IsListFilter written negated items values filter) :
    IsListFilter written negated items more filter := by
  obtain ⟨first, hleads, hfilter⟩ := h
  exact ⟨first, hleads.trans (hmore.drop first), hfilter⟩

/-- Behind the head, a membership test over a bound list is written with the members of the list, if
the head does not use the name of the list as a value. -/
theorem exists_pushText_inList {column name : String} {written : List Char} {items : List Value}
    {head : Writer} (negated : Bool)
    (hcolumn : Renders s.entity s.entityAlias column.toList written)
    (hname : Text.isAsciiWord name) (hvalue : params.value? name = some (.list items))
    (hunused : (name, false) ∉ placeholders (s.headFragments.flatMap (Fragment.segments s.scope)))
    (hhead : writeAll ⟨s.entity, s.entityAlias, params⟩ {} s.headFragments = .ok head) :
    ∃ middle filter,
      (head.push " WHERE ").pushText ⟨s.entity, s.entityAlias, params⟩
          (Atom.inList column name negated).toText = .ok middle ∧
        middle.sql.toList = head.sql.toList ++ " WHERE ".toList ++ filter ∧
          IsListFilter written negated items middle.params filter := by
  let before := (head.push " WHERE ").push (.ofList (written ++ (membershipText negated).toList))
  have hwritten : ∀ text, before.written.lookup name = some text →
      RefersTo params before.params name true text := by
    intro text htext
    obtain ⟨inList, hmem, hrefers⟩ := refersTo_of_writeAll hhead htext
    cases inList with
    | true => exact hrefers
    | false => exact absurd hmem hunused
  obtain ⟨first, next, hbind, hsql, hleads⟩ := exists_bind_list hvalue hwritten
  refine ⟨next.push (listText (first + 1) items ++ ")"), _, ?_, ?_, first, hleads, rfl⟩
  · rw [pushText_inList hcolumn hname, hbind]
    rfl
  · simp [before, Writer.push, hsql, List.append_assoc]

/-- A membership test over a bound list has its place in a statement. -/
theorem exists_hasFilter_inList {column name : String} {written : List Char} {items : List Value}
    (negated : Bool) (hbuild : ∃ q, s.build = .ok q) (hnames : s.params.NamesIn params)
    (hcolumn : Renders s.entity s.entityAlias column.toList written)
    (hname : Text.isAsciiWord name) (hvalue : params.value? name = some (.list items))
    (hunused : (name, false) ∉ placeholders (s.headFragments.flatMap (Fragment.segments s.scope))) :
    ∃ q filter, (s.filtered params (.inList column name negated)).build = .ok q ∧
      (s.filtered params (.inList column name negated)).HasFilter q filter ∧
      IsTest q.params written filter (.among negated (listOperands items)) := by
  obtain ⟨q, filter, hq, hhas, first, hleads, rfl⟩ :=
    exists_hasFilter (a := .inList column name negated) (P := IsListFilter written negated items)
      hbuild hnames rfl IsListFilter.mono
      fun _ hhead => exists_pushText_inList negated hcolumn hname hvalue hunused hhead
  exact ⟨q, _, hq, hhas, isTest_listText written negated hleads⟩

/-- A decided test is written without parameters. -/
theorem exists_hasFilter_constant (written : List Char) (holds : Bool)
    (hbuild : ∃ q, s.build = .ok q) (hnames : s.params.NamesIn params) :
    ∃ q filter, (s.filtered params (if holds then .always else .never)).build = .ok q ∧
      (s.filtered params (if holds then .always else .never)).HasFilter q filter ∧
      IsTest q.params written filter (.constant holds) := by
  have htext : (if holds then Atom.always else Atom.never).toText = constantText holds := by
    cases holds <;> rfl
  have hinert : Renders s.entity s.entityAlias (constantText holds).toList
      (constantText holds).toList := by
    cases holds
    · exact renders_of_inert (by decide)
    · exact renders_of_inert (by decide)
  have hempty : (if holds then Atom.always else Atom.never).isEmpty = false := by
    cases holds <;> rfl
  have hwrites : ∀ head : Writer, ∃ middle filter,
      (head.push " WHERE ").pushText ⟨s.entity, s.entityAlias, params⟩
          (if holds then Atom.always else Atom.never).toText = .ok middle ∧
        middle.sql.toList = head.sql.toList ++ " WHERE ".toList ++ filter ∧
          filter = (constantText holds).toList := by
    intro head
    refine ⟨(head.push " WHERE ").push (constantText holds), _, ?_, ?_, rfl⟩
    · rw [htext, pushText_of_renders hinert, String.ofList_toList]
    · simp [Writer.push]
  obtain ⟨q, filter, hq, hhas, rfl⟩ :=
    exists_hasFilter (P := fun _ filter => filter = (constantText holds).toList)
      hbuild hnames hempty (fun _ hfilter => hfilter) fun head _ => hwrites head
  exact ⟨q, _, hq, hhas, .constant holds⟩

/-! ### Ways to ask for a filter -/

/-- How a filter is asked for. -/
inductive Route
  | called
  | attached
deriving DecidableEq, Repr

/-- The session `t` is the session `s` with a filter of a column by the members of a list: by a
dynamic call, which takes the items in the form of the field, or by a predicate over a bound list,
which is not used as one value by the statement so far. -/
inductive Filters (s : Session) :
    Route → String → Bool → List Value → List Value → Session → Prop
  | called {method : String} {call : Call.ParsedCall} {items : List Value} {t : Session}
      (negated : Bool) (hparse : Call.parse s.entity method 1 = .ok call)
      (hoperator : call.operator = if negated then .notIn else .isIn)
      (hcall : s.call method [.list items] = .ok t) :
      Filters s .called (s.qualify call.field) negated items
        (items.map (Call.coercedMember s.entity s.config call.field)) t
  | attached {column name : String} {items : List Value} (negated : Bool)
      (hname : Text.isAsciiWord name) (hvalue : s.params.value? name = some (.list items))
      (hunused : (name, false) ∉
        placeholders (s.headFragments.flatMap (Fragment.segments s.scope))) :
      Filters s .attached column negated items items
        (s.attach .and (.inList column name negated))

/-- The test that a filter has in the statement. Only a call decides the test without members. -/
def Route.test : Route → Bool → List Value → RowTest
  | called, negated, [] => .constant negated
  | _, negated, members => .among negated (listOperands members)

/-- A predicate that is attached to a session without condition is its condition. -/
theorem attach_of_where?_eq_none (hwhere : s.where? = none) (params : ParamTable)
    (conjunction : Call.Conjunction) (a : Atom) :
    { s with params }.attach conjunction (.atom a) = s.filtered params a := by
  have hcombine : combine s.where? conjunction (.atom a) = .atom a := by
    rw [hwhere]
    rfl
  exact congrArg (fun predicate => { s with params, where? := some predicate }) hcombine

/-- The two operators of membership have the same plan, up to the negation. -/
theorem plan_of_membership {method : String} {call : Call.ParsedCall} {negated : Bool}
    (hoperator : call.operator = if negated then .notIn else .isIn) (args : List Value) :
    Call.plan s method call args = Call.planMembership s method call.field negated args := by
  cases negated with
  | false => simp only [Call.plan, hoperator, Bool.false_eq_true, if_false]
  | true => simp only [Call.plan, hoperator, if_true]

/-- A call that asks for a filter binds the members to a fresh name. -/
theorem filtered_of_call {method : String} {call : Call.ParsedCall} {items : List Value}
    {t : Session} {negated : Bool} (hwhere : s.where? = none)
    (hparse : Call.parse s.entity method 1 = .ok call)
    (hoperator : call.operator = if negated then .notIn else .isIn)
    (hcall : s.call method [.list items] = .ok t) :
    ∃ type?, t = (s.afterQualify call.field).filtered
      (s.params.bind s.config.paramBase
        (.list (items.map (Call.coercedMember s.entity s.config call.field))) type?).2
      (if items.isEmpty then if negated then .always else .never
        else .inList (s.qualify call.field) (s.params.fresh s.config.paramBase) negated) := by
  obtain ⟨read, plan, hread, hplan, rfl⟩ := call_ok hcall
  obtain rfl : read = call := Except.ok.inj (hread.symm.trans hparse)
  rw [plan_of_membership hoperator] at hplan
  obtain ⟨_, value, hfirst, hvalue, rfl⟩ := Call.planMembership_ok hplan
  cases hfirst
  have hcoerced := Call.coerceArgument_list_ok hvalue
  rw [s.entity_afterQualify] at hcoerced
  subst hcoerced
  have hpredicate :
      Call.membershipPredicate ((s.afterQualify read.field).qualify read.field) negated items
          (s.params.fresh s.config.paramBase) =
        .atom (if items.isEmpty then if negated then .always else .never
          else .inList (s.qualify read.field) (s.params.fresh s.config.paramBase) negated) := by
    have hqualify : (s.afterQualify read.field).qualify read.field = s.qualify read.field :=
      s.resolver.qualify_afterQualify read.field read.field
    rw [Call.membershipPredicate, hqualify]
    cases items with
    | nil => rfl
    | cons first rest => rfl
  refine ⟨(s.afterQualify read.field).entity.typeOf? read.field, ?_⟩
  refine Eq.trans ?_ (attach_of_where?_eq_none (s := s.afterQualify read.field) hwhere _
    read.conjunction _)
  rw [← hpredicate]
  rfl

/-- The statement of a session with a filter has the test of the filter behind `WHERE`. -/
theorem Filters.exists_hasFilter {t : Session} {route : Route} {column : String} {negated : Bool}
    {items members : List Value} {written : List Char}
    (h : s.Filters route column negated items members t) (hbuild : ∃ q, s.build = .ok q)
    (hwhere : s.where? = none) (hconfig : s.config.validate = .ok ())
    (hcolumn : Renders s.entity s.entityAlias column.toList written) :
    ∃ q filter, t.build = .ok q ∧ t.HasFilter q filter ∧
      IsTest q.params written filter (route.test negated members) := by
  cases h with
  | @called method call _ _ _ hparse hoperator hcall =>
    have hbase := isAsciiWord_paramBase hconfig
    have hcolons := leadingColons_of_isAsciiWord hbase
    have hunchanged := unchanged_afterQualify s call.field
    have hbuild : ∃ q, (s.afterQualify call.field).build = .ok q := by
      rw [hunchanged.build]
      exact hbuild
    obtain ⟨type?, rfl⟩ := filtered_of_call hwhere hparse hoperator hcall
    have hnames := ParamTable.namesIn_bind s.params s.config.paramBase
      (.list (items.map (Call.coercedMember s.entity s.config call.field))) type?
    cases items with
    | nil => exact exists_hasFilter_constant written negated hbuild hnames
    | cons first rest =>
      refine exists_hasFilter_inList negated hbuild hnames ?_
        (ParamTable.isAsciiWord_fresh s.params hbase) ?_ ?_
      · rw [hunchanged.entity, hunchanged.entityAlias]
        exact hcolumn
      · rw [ParamTable.value?, ParamTable.get?_bind_self hcolons]
        rfl
      · -- A name that the statement uses already is bound, so it is not the fresh one.
        intro hmem
        have hbound := contains_of_mem_head hbuild hmem
        rw [hunchanged.params, ParamTable.contains_fresh s.params hcolons] at hbound
        cases hbound
  | @attached _ name _ _ hname hvalue hunused =>
    have hattach := attach_of_where?_eq_none hwhere s.params .and (.inList column name negated)
    rw [Expr.inList, hattach]
    have htest : Route.attached.test negated items = .among negated (listOperands items) := by
      cases items <;> rfl
    rw [htest]
    exact exists_hasFilter_inList negated hbuild (.refl _) hcolumn hname hvalue hunused

/-- In the form of their field, members are null only where they were null. -/
theorem Filters.ne_null {t : Session} {route : Route} {column : String} {negated : Bool}
    {items members : List Value} (h : s.Filters route column negated items members t)
    (hnull : ∀ v ∈ items, v ≠ .null) : ∀ v ∈ members, v ≠ .null := by
  cases h with
  | @called _ call =>
    intro v hv
    obtain ⟨item, hitem, rfl⟩ := List.mem_map.1 hv
    rw [Call.coercedMember]
    split
    · exact inFormOf_ne_null (hnull item hitem)
    · exact hnull item hitem
  | attached => exact hnull

/-- The statement of a session with a filter can be read in one way, and then the test behind
`WHERE` is true exactly for the values of the column that are wanted. Only the negated test over a
bound list without members is true of no value, while every value is wanted. -/
theorem keeps_wanted_iff {t : Session} {route : Route} {column : String} {negated : Bool}
    {items members : List Value} {written : List Char} (hbuild : ∃ q, s.build = .ok q)
    (hwhere : s.where? = none) (hconfig : s.config.validate = .ok ())
    (hcolumn : Renders s.entity s.entityAlias column.toList written)
    (hnull : ∀ v ∈ items, v ≠ .null) (hfilter : s.Filters route column negated items members t) :
    ∃ q filter test, t.build = .ok q ∧ t.HasFilter q filter ∧ IsTest q.params written filter test ∧
      (∀ other, IsTest q.params written filter other → other = test) ∧
      ∀ same x, x ≠ .null →
        ((test.truth same x = .yes ↔ IsWanted same x negated members) ↔
          ¬ (route = .attached ∧ negated ∧ items = [])) := by
  obtain ⟨q, filter, hq, hhas, htest⟩ := hfilter.exists_hasFilter hbuild hwhere hconfig hcolumn
  refine ⟨q, filter, _, hq, hhas, htest, fun other hother => htest.unique hother, ?_⟩
  intro same x hx
  have hmembers := hfilter.ne_null hnull
  have hlisted : ((RowTest.among negated (listOperands members)).truth same x = .yes ↔
      IsWanted same x negated members) ↔ ¬ (negated ∧ members = []) :=
    truth_listOperands_eq_yes_iff hx hmembers
  cases hfilter with
  | called _ hparse hoperator hcall =>
    cases items with
    | nil => simp [Route.test, truth_constant_eq_yes_iff]
    | cons first rest => simpa [Route.test] using hlisted
  | attached _ hname hvalue hunused =>
    cases items with
    | nil => simpa [Route.test] using hlisted
    | cons first rest => simpa [Route.test] using hlisted

/-- The column of the identifier is its own name, behind the alias. -/
theorem renders_userId :
    Renders Samples.user "u" "u.id".toList "u.id".toList := by
  have hcolumn : Renders Samples.user "u" ("u" ++ "." ++ "id").toList
      (sqlWord "u" ++ "." ++ sqlWord (Samples.user.columnOf "id")).toList :=
    renders_column (by decide +kernel) (by decide +kernel)
  have hwritten : sqlWord "u" ++ "." ++ sqlWord (Samples.user.columnOf "id") = "u.id" := by
    decide +kernel
  rwa [hwritten] at hcolumn

/-- Users without two identifiers, one of which is given as text. -/
theorem keeps_wanted_iff_idNotIn :
    ∃ t, (new Samples.user).call "idNotIn" [.list [.int 1, .string "2"]] = .ok t ∧
      ∃ q filter test, t.build = .ok q ∧ t.HasFilter q filter ∧
        IsTest q.params "u.id".toList filter test ∧
        (∀ other, IsTest q.params "u.id".toList filter other → other = test) ∧
        ∀ same x, x ≠ .null →
          ((test.truth same x = .yes ↔ IsWanted same x true [.int 1, .int 2]) ↔
            ¬ (Route.called = .attached ∧ true ∧ [Value.int 1, .string "2"] = [])) := by
  have hbuild : (new Samples.user).build.toOption.isSome := by decide +kernel
  have hcall :
      ((new Samples.user).call "idNotIn" [.list [.int 1, .string "2"]]).toOption.isSome := by
    decide +kernel
  obtain ⟨t, ht⟩ := exists_ok_of_isSome hcall
  have hparse : Call.parse (new Samples.user).entity "idNotIn" 1 =
      .ok ⟨.none, "id", .notIn⟩ := by
    decide +kernel
  have hfilter : (new Samples.user).Filters .called "u.id" true [.int 1, .string "2"]
      [.int 1, .int 2] t :=
    .called true hparse rfl ht
  exact ⟨t, ht, keeps_wanted_iff (exists_ok_of_isSome hbuild) rfl validate_default renders_userId
    (by simp) hfilter⟩

/-- A test for no members over a bound list is unknown for every user, so it keeps none, while the
call for the same list keeps all. -/
theorem keeps_none_without_members :
    let s := (new Samples.user).setParameter "ids" (.list []) none
    let t := s.attach .and (.inList "u.id" "ids" true)
    (∃ q filter test, t.build = .ok q ∧
        q.sql = "SELECT u.* FROM users u WHERE u.id NOT IN (NULL)" ∧ t.HasFilter q filter ∧
        IsTest q.params "u.id".toList filter test ∧
        ∀ same x, test.truth same x = .unknown ∧ IsWanted same x true []) ∧
      ((new Samples.user).call "idNotIn" [.list []]).toOption.map Session.toText =
        some "SELECT u FROM User u WHERE 1=1" := by
  intro s t
  have hbuild : s.build.toOption.isSome := by decide +kernel
  have hsql : t.build.toOption.map BuiltQuery.sql =
      some "SELECT u.* FROM users u WHERE u.id NOT IN (NULL)" := by
    decide +kernel
  have hfilter : s.Filters .attached "u.id" true [] [] t :=
    .attached true (by decide +kernel) rfl (by decide +kernel)
  have halias : s.entityAlias = "u" := by decide +kernel
  have hcolumn : Renders s.entity s.entityAlias "u.id".toList "u.id".toList := by
    rw [halias]
    exact renders_userId
  obtain ⟨q, filter, hq, hhas, htest⟩ :=
    hfilter.exists_hasFilter (exists_ok_of_isSome hbuild) rfl validate_default hcolumn
  rw [hq] at hsql
  refine ⟨⟨q, filter, _, hq, Option.some.inj hsql, hhas, htest, fun same x => ⟨?_, ?_⟩⟩, ?_⟩
  · exact truth_among_null same x true
  · simp [IsWanted, IsAmong]
  · decide +kernel

end Session

end EntityQuery
