import EntityQuery.Call.Plan

namespace EntityQuery.Call

/-- A part of a call. It may have changed the session also where it fails. -/
abbrev Step := EStateM QueryError Session

namespace Step

variable (method field column : String) (args : List Value) (conjunction : Conjunction)

/-- A check that changes nothing. -/
def check {α : Type} : Except QueryError α → Step α
  | .ok a => pure a
  | .error e => throw e

/-- A name as statements have it. The alias may be fixed by that. -/
def qualify (name : String) : Step String := do
  modify fun s => s.afterQualify name
  return (← get).qualify name

/-- Binds a value to a fresh name. -/
def bindFresh (value : Value) (type? : Option FieldType) : Step String :=
  modifyGet fun s =>
    let (name, params) := s.params.bind s.config.paramBase value type?
    (name, { s with params })

/-- Binds an argument in the form of its field. -/
def bindArgument (value : Value) : Step String := do
  let coerced ← check (coerceArgument (← get) field value)
  bindFresh coerced ((← get).entity.typeOf? field)

def compare (op : CompareOp) : Step Expr := do
  let value ← check (firstArgument method args)
  return .compare column op (← bindArgument field value)

def pattern (op : CompareOp) : Step Expr := do
  let pattern ←
    match ← check (firstArgument method args) with
    | .list _ => throw (.argument (.listPattern method))
    | .null => pure .null
    | other => pure (.string other.toText)
  let target :=
    match (← get).entity.typeOf? field with
    | none | some .string => column
    | some _ => column ++ "::text"
  return .compare target op (← bindFresh pattern (some .string))

def membership (negated : Bool) : Step Expr := do
  let members := membersOf (← check (firstArgument method args))
  let param ← bindArgument field (.list members)
  return if members.isEmpty then .atom (if negated then .always else .never)
    else .inList column param negated

def emptiness (empty : Bool) : Step Expr := do
  let param ← bindFresh (.string "") none
  let same := Expr.nested (.compare column (if empty then .eq else .ne) param)
  let null := Expr.nested (.nullCheck column empty)
  return if empty then same.orElse null else same.andThen null

/-- Attaches the condition that a step makes. -/
def attach (condition : Step Expr) : Step Unit := do
  let predicate ← condition
  modify fun s => s.attach conjunction predicate

def order (replace : Bool) (direction? : Option Direction) : Step Unit :=
  modify fun s => s.pushOrder replace field direction?

def group (replace : Bool) : Step Unit :=
  modify fun s => s.pushGroup replace field

/-- Does what the operator of a call says, with the column of its field. -/
def operate (call : ParsedCall) : Step Unit :=
  let field := call.field
  match call.operator with
  | .whereIs | .filterBy | .equal =>
    attach call.conjunction (compare method field column args .eq)
  | .notEqual => attach call.conjunction (compare method field column args .ne)
  | .greaterThan => attach call.conjunction (compare method field column args .gt)
  | .greaterThanEqual => attach call.conjunction (compare method field column args .ge)
  | .lessThan => attach call.conjunction (compare method field column args .lt)
  | .lessThanEqual => attach call.conjunction (compare method field column args .le)
  | .like => attach call.conjunction (pattern method field column args .like)
  | .notLike => attach call.conjunction (pattern method field column args .notLike)
  | .isIn => attach call.conjunction (membership method field column args false)
  | .notIn => attach call.conjunction (membership method field column args true)
  | .isNull => attach call.conjunction (pure (.nullCheck column true))
  | .isNotNull => attach call.conjunction (pure (.nullCheck column false))
  | .isEmpty => attach call.conjunction (emptiness column true)
  | .isNotEmpty => attach call.conjunction (emptiness column false)
  | .orderBy => check (directionOf args) >>= order field true
  | .addOrderBy => check (directionOf args) >>= order field false
  | .orderAscBy => order field true (some .ascending)
  | .addOrderAscBy => order field false (some .ascending)
  | .orderDescBy => order field true (some .descending)
  | .addOrderDescBy => order field false (some .descending)
  | .groupBy => group field true
  | .addGroupBy => group field false

end Step

/-- A call, step by step. -/
def stepwise (method : String) (args : List Value) : Step Unit := do
  let call ← Step.check (parse (← get).entity method args.length)
  let column ← Step.qualify call.field
  Step.operate method column args call

/-! ### Planned calls -/

/-- What a call with a plan leaves behind: the plan is carried out, if there is one. -/
def planned (s : Session) (call : ParsedCall) :
    Except QueryError Plan → EStateM.Result QueryError Session Unit
  | .ok plan => .ok () (perform s call plan)
  | .error e => .error e s

variable {s : Session} {method : String} {args : List Value} {call : ParsedCall}

/-- A check goes on, or ends the call where it stands. -/
theorem run_check_bind {α β : Type} (x : Except QueryError α) (next : α → Step β) :
    (Step.check x >>= next).run s =
      match x with
      | .ok a => (next a).run s
      | .error e => .error e s := by
  cases x <;> rfl

/-- A step that looks at the session. -/
theorem run_get_bind {β : Type} (next : Session → Step β) :
    ((get : Step Session) >>= next).run s = (next s).run s :=
  rfl

/-- A plan that is made in steps fails with the first step that fails. -/
theorem planned_bind {α : Type} (x : Except QueryError α) (next : α → Except QueryError Plan) :
    planned s call (x >>= next) =
      match x with
      | .ok a => planned s call (next a)
      | .error e => .error e s := by
  cases x <;> rfl

/-- Step by step, a comparison does what its plan says. It checks its argument before it binds it,
so it fails without having bound anything. -/
theorem run_compare (op : CompareOp) :
    (Step.attach call.conjunction
      (Step.compare method call.field (s.qualify call.field) args op)).run s =
      planned s call (planCompare s method call.field op args) := by
  simp only [Step.attach, Step.compare, Step.bindArgument, bind_assoc, run_check_bind,
    run_get_bind, planCompare, planned_bind]
  cases firstArgument method args with
  | error e => rfl
  | ok value => cases coerceArgument s call.field value <;> rfl

/-- The same for a pattern, which may not be a list. -/
theorem run_pattern (op : CompareOp) :
    (Step.attach call.conjunction
      (Step.pattern method call.field (s.qualify call.field) args op)).run s =
      planned s call (planPattern s method call.field op args) := by
  simp only [Step.attach, Step.pattern, bind_assoc, run_check_bind, planPattern, planned_bind]
  cases firstArgument method args with
  | error e => rfl
  | ok value => cases value <;> rfl

/-- The same for a test for membership, whose list is checked as a whole. -/
theorem run_membership (negated : Bool) :
    (Step.attach call.conjunction
      (Step.membership method call.field (s.qualify call.field) args negated)).run s =
      planned s call (planMembership s method call.field negated args) := by
  simp only [Step.attach, Step.membership, Step.bindArgument, bind_assoc, run_check_bind,
    run_get_bind, planMembership, planned_bind]
  cases firstArgument method args with
  | error e => rfl
  | ok value =>
    dsimp only
    cases coerceArgument s call.field (.list (membersOf value)) <;> rfl

/-- The direction of an ordering is checked before the ordering is changed. -/
theorem run_order (replace : Bool) :
    (Step.check (directionOf args) >>= Step.order call.field replace).run s =
      planned s call ((directionOf args).map (.order replace)) := by
  rw [run_check_bind]
  cases directionOf args <;> rfl

/-- What an operator does step by step is what its plan says, one case for each operator. -/
theorem run_operate (s : Session) (method : String) (args : List Value) (call : ParsedCall) :
    (Step.operate method (s.qualify call.field) args call).run s =
      planned s call (plan s method call args) := by
  unfold Step.operate plan
  cases call.operator
  case whereIs | filterBy | equal | notEqual | greaterThan | greaterThanEqual | lessThan
      | lessThanEqual => exact run_compare _
  case like | notLike => exact run_pattern _
  case isIn | notIn => exact run_membership _
  case orderBy | addOrderBy => exact run_order _
  all_goals rfl

/-- The result of a call together with the session that it leaves behind. -/
def resultOf : Except QueryError Unit × Session → EStateM.Result QueryError Session Unit
  | (.ok (), t) => .ok () t
  | (.error e, t) => .error e t

/-- Planned and then carried out, a call does what it does step by step. So no step of a call that
fails has changed anything but the alias. -/
theorem run_stepwise (s : Session) (method : String) (args : List Value) :
    (stepwise method args).run s = resultOf (s.apply method args) := by
  rw [stepwise, run_get_bind, run_check_bind, Session.apply]
  cases parse s.entity method args.length with
  | error e => rfl
  | ok call =>
    have hqualified := run_operate (s.afterQualify call.field) method args call
    change (Step.operate method ((s.afterQualify call.field).qualify call.field) args call).run
      (s.afterQualify call.field) = _
    rw [hqualified]
    dsimp only
    cases plan (s.afterQualify call.field) method call args <;> rfl

/-- Step by step, a call that succeeds ends with the session that it gives. -/
theorem run_stepwise_of_call {t : Session} (h : s.call method args = .ok t) :
    (stepwise method args).run s = .ok () t := by
  rw [run_stepwise]
  unfold Session.call at h
  split at h
  · rename_i next happly
    cases h
    rw [happly]
    rfl
  · cases h

/-- Step by step, a call that fails ends with its error and with the session that it leaves behind,
whichever of its steps failed. -/
theorem run_stepwise_of_apply_error {e : QueryError} (h : (s.apply method args).1 = .error e) :
    (stepwise method args).run s = .error e (s.apply method args).2 := by
  rw [run_stepwise]
  cases happly : s.apply method args with
  | mk result left =>
    rw [happly] at h
    cases h
    rfl

end EntityQuery.Call
