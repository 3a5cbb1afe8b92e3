import EntityQuery.Proofs.Call.Plan
import EntityQuery.Proofs.Parameters.Allocation

namespace EntityQuery

namespace Call

/-- The predicate that a call adds about a column, with the placeholder of the value that it binds.
Orderings and groupings add none. -/
def predicateFor? (entity : EntityMeta) (column : String) (call : ParsedCall) (args : List Value)
    (param : String) : Option Expr :=
  let target := patternTarget entity call.field column
  let members := (args.take 1).flatMap membersOf
  match call.operator with
  | .whereIs | .filterBy | .equal => some (.compare column .eq param)
  | .notEqual => some (.compare column .ne param)
  | .greaterThan => some (.compare column .gt param)
  | .greaterThanEqual => some (.compare column .ge param)
  | .lessThan => some (.compare column .lt param)
  | .lessThanEqual => some (.compare column .le param)
  | .like => some (.compare target .like param)
  | .notLike => some (.compare target .notLike param)
  | .isIn => some (membershipPredicate column false members param)
  | .notIn => some (membershipPredicate column true members param)
  | .isNull => some (.nullCheck column true)
  | .isNotNull => some (.nullCheck column false)
  | .isEmpty =>
    some (.or [.nested (.compare column .eq param), .nested (.nullCheck column true)])
  | .isNotEmpty =>
    some (.and [.nested (.compare column .ne param), .nested (.nullCheck column false)])
  | .orderBy | .addOrderBy | .orderAscBy | .addOrderAscBy | .orderDescBy | .addOrderDescBy => none
  | .groupBy | .addGroupBy => none

/-- The predicate that a call adds to a session, about its qualified field. -/
def predicateOf? (s : Session) (call : ParsedCall) (args : List Value) (param : String) :
    Option Expr :=
  predicateFor? s.entity (s.qualify call.field) call args param

variable {s : Session} {method : String} {args : List Value} {call : ParsedCall} {plan : Plan}

/-- Qualifying a name changes no predicate, since the alias is what it would have been. -/
theorem predicateOf?_afterQualify (name param : String) :
    predicateOf? (s.afterQualify name) call args param = predicateOf? s call args param := by
  have hentity : (s.afterQualify name).entity = s.entity := s.resolver.entity_afterQualify name
  have hqualify (field : String) : (s.afterQualify name).qualify field = s.qualify field :=
    s.resolver.qualify_afterQualify name field
  rw [predicateOf?, predicateOf?, hentity, hqualify]

/-- A predicate behind an earlier one, if there is a predicate to attach. -/
def attached (existing? : Option Expr) : Option (Conjunction × Expr) → Option Expr
  | none => existing?
  | some (conjunction, predicate) => some (Session.combine existing? conjunction predicate)

/-! ### What belongs to an operator -/

/-- The part of a session that an operator changes. An ordering or a grouping can take the place of
the earlier one. -/
inductive Part
  | condition
  | ordering (replaces : Bool)
  | grouping (replaces : Bool)
deriving DecidableEq

def Operator.part : Operator → Part
  | .orderBy | .orderAscBy | .orderDescBy => .ordering true
  | .addOrderBy | .addOrderAscBy | .addOrderDescBy => .ordering false
  | .groupBy => .grouping true
  | .addGroupBy => .grouping false
  | _ => .condition

/-- The type that a call binds its value with, if it binds one. Patterns are texts, and the empty
text that a column is compared with has no type. -/
def boundType? (entity : EntityMeta) (call : ParsedCall) : Option (Option FieldType) :=
  match call.operator with
  | .whereIs | .filterBy | .equal | .notEqual | .greaterThan | .greaterThanEqual | .lessThan
  | .lessThanEqual | .isIn | .notIn => some (entity.typeOf? call.field)
  | .like | .notLike => some (some .string)
  | .isEmpty | .isNotEmpty => some none
  | _ => none

/-- A plan of the kind that belongs to the operator of a call. Its condition names no placeholder
but that of the value that it binds. -/
inductive Plan.Fits (s : Session) (call : ParsedCall) (args : List Value) : Plan → Prop
  | bound {value : Value} {type? : Option FieldType} {predicate : String → Expr}
      (hpart : call.operator.part = .condition) (htype : boundType? s.entity call = some type?)
      (hpredicate : ∀ name, predicateOf? s call args name = some (predicate name))
      (hnames : ∀ name, ∀ p ∈ (predicate name).params, p = name) :
      Fits s call args (.condition (some (value, type?)) predicate)
  | unbound {predicate : String → Expr} (hpart : call.operator.part = .condition)
      (htype : boundType? s.entity call = none)
      (hpredicate : ∀ name, predicateOf? s call args name = some (predicate ""))
      (hnames : (predicate "").params = []) : Fits s call args (.condition none predicate)
  | order {replaces : Bool} {direction? : Option Direction}
      (hpart : call.operator.part = .ordering replaces) :
      Fits s call args (.order replaces direction?)
  | group {replaces : Bool} (hpart : call.operator.part = .grouping replaces) :
      Fits s call args (.group replaces)

/-- A test for membership names no placeholder but the one that it is given. -/
theorem eq_of_mem_params_membershipPredicate {column name p : String} {negated : Bool}
    {members : List Value} (h : p ∈ (membershipPredicate column negated members name).params) :
    p = name := by
  cases members with
  | nil => cases negated <;> cases h
  | cons first rest => exact List.mem_singleton.1 h

/-- The plan of a call belongs to its operator. -/
theorem fits_of_plan (h : Call.plan s method call args = .ok plan) : plan.Fits s call args := by
  obtain ⟨conjunction, field, operator⟩ := call
  cases operator
  case whereIs | filterBy | equal | notEqual | greaterThan | greaterThanEqual | lessThan
      | lessThanEqual =>
    obtain ⟨v, w, -, -, rfl⟩ := planCompare_ok h
    exact .bound rfl rfl (fun _ => rfl) fun _ _ hp => List.mem_singleton.1 hp
  case like | notLike =>
    obtain ⟨v, -, -, rfl⟩ := planPattern_ok h
    exact .bound rfl rfl (fun _ => rfl) fun _ _ hp => List.mem_singleton.1 hp
  case isIn | notIn =>
    obtain ⟨v, w, hv, -, rfl⟩ := planMembership_ok h
    refine .bound rfl rfl (fun name => ?_) fun _ _ => eq_of_mem_params_membershipPredicate
    simp only [predicateOf?, predicateFor?]
    rw [firstArgument_ok hv, List.flatMap_singleton]
  case isEmpty | isNotEmpty =>
    cases h
    exact .bound rfl rfl (fun _ => rfl) fun _ _ hp => List.mem_singleton.1 hp
  case isNull | isNotNull =>
    cases h
    exact .unbound rfl rfl (fun _ => rfl) rfl
  case orderBy | addOrderBy =>
    obtain ⟨direction?, -, rfl⟩ := map_eq_ok h
    exact .order rfl
  case orderAscBy | addOrderAscBy | orderDescBy | addOrderDescBy =>
    cases h
    exact .order rfl
  case groupBy | addGroupBy =>
    cases h
    exact .group rfl

/-- Orderings and groupings add no predicate. -/
theorem predicateOf?_eq_none {param : String} (h : call.operator.part ≠ .condition) :
    predicateOf? s call args param = none := by
  obtain ⟨conjunction, field, operator⟩ := call
  cases operator
  case orderBy | addOrderBy | orderAscBy | addOrderAscBy | orderDescBy | addOrderDescBy | groupBy
      | addGroupBy => rfl
  all_goals exact absurd rfl h

/-- Carrying out the plan of a call attaches the predicate of its operator. -/
theorem where?_perform (h : Call.plan s method call args = .ok plan) :
    (perform s call plan).where? =
      attached s.where?
        ((predicateOf? s call args (s.params.fresh s.config.paramBase)).map
          (call.conjunction, ·)) := by
  cases fits_of_plan h with
  | bound _ _ hpredicate =>
    rw [hpredicate]
    rfl
  | unbound _ _ hpredicate =>
    rw [hpredicate]
    rfl
  | order hpart =>
    rw [predicateOf?_eq_none (by simp [hpart])]
    rfl
  | group hpart =>
    rw [predicateOf?_eq_none (by simp [hpart])]
    rfl

end Call

namespace Session

/-- The predicate that a dynamic call attaches with its conjunction, if the call succeeds. -/
def callAttachment? (s : Session) (method : String) (args : List Value) :
    Option (Call.Conjunction × Expr) :=
  match s.call method args, Call.parse s.entity method args.length with
  | .ok _, .ok call =>
    (Call.predicateOf? s call args (s.params.fresh s.config.paramBase)).map (call.conjunction, ·)
  | _, _ => none

/-- A call attaches its predicate to the condition on rows, if it succeeds and its operator has one,
and otherwise leaves the condition alone. -/
theorem where?_apply (s : Session) (method : String) (args : List Value) :
    (s.apply method args).2.where? = Call.attached s.where? (s.callAttachment? method args) := by
  unfold callAttachment? Session.call
  cases hparse : Call.parse s.entity method args.length with
  | error e =>
    have happly : s.apply method args = (.error e, s) := by rw [apply, hparse]
    rw [happly]
    rfl
  | ok call =>
    cases hplan : Call.plan (s.afterQualify call.field) method call args with
    | error e =>
      have happly : s.apply method args = (.error e, s.afterQualify call.field) := by
        simp only [apply, hparse, hplan]
      rw [happly]
      rfl
    | ok plan =>
      have happly : s.apply method args =
          (.ok (), Call.perform (s.afterQualify call.field) call plan) := by
        simp only [apply, hparse, hplan]
      have hperformed := Call.where?_perform hplan
      rw [Call.predicateOf?_afterQualify] at hperformed
      rw [happly]
      exact hperformed

theorem having?_perform (s : Session) (call : Call.ParsedCall) (plan : Call.Plan) :
    (Call.perform s call plan).having? = s.having? := by
  cases plan with
  | condition bound? predicate =>
    cases bound? with
    | none => rfl
    | some bound => rfl
  | order replace direction? => rfl
  | group replace => rfl

/-- No call touches the condition on groups. -/
theorem having?_apply (s : Session) (method : String) (args : List Value) :
    (s.apply method args).2.having? = s.having? := by
  rw [apply]
  split
  · rfl
  · simp only
    split
    · rfl
    · exact having?_perform _ _ _

end Session

end EntityQuery
