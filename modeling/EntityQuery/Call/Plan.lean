import EntityQuery.Session

namespace EntityQuery.Call

/-- What a call adds: a condition with at most one new parameter, of whose name the condition is
made, or an entry of the ordering or the grouping. A call is first turned into a plan, which can
fail; carrying out a plan cannot. -/
inductive Plan
  | condition (bound? : Option (Value × Option FieldType)) (predicate : String → Expr)
  | order (replace : Bool) (direction? : Option Direction)
  | group (replace : Bool)

/-- The first argument of a call that needs one. -/
def firstArgument (method : String) (args : List Value) : Except QueryError Value :=
  match args with
  | [] => .error (.missingArgument method)
  | value :: _ => .ok value

/-- An argument in the declared form of its field, when the session coerces arguments. -/
def coerceArgument (s : Session) (field : String) (value : Value) : Except QueryError Value :=
  if s.config.coerceArguments then
    (s.coerce field value none false).mapError .argument
  else .ok value

/-- The comparison of a column with the argument. -/
def planCompare (s : Session) (method field : String) (op : CompareOp) (args : List Value) :
    Except QueryError Plan := do
  let value ← firstArgument method args
  let value ← coerceArgument s field value
  return .condition (some (value, s.entity.typeOf? field)) (.compare (s.qualify field) op)

/-- The comparison of a column with a pattern, which is text. A field of another type is compared
by its text. -/
def planPattern (s : Session) (method field : String) (op : CompareOp) (args : List Value) :
    Except QueryError Plan := do
  let pattern ←
    match ← firstArgument method args with
    | .list _ => .error (.argument (.listPattern method))
    | .null => .ok .null
    | other => .ok (.string other.toText)
  let column := s.qualify field
  let target :=
    match s.entity.typeOf? field with
    | none | some .string => column
    | some _ => column ++ "::text"
  return .condition (some (pattern, some .string)) (.compare target op)

/-- An argument as a list of members. -/
def membersOf : Value → List Value
  | .list items => items
  | scalar => [scalar]

/-- The test whether a column's value is among the members of the argument. No value is among
none, but the parameter is bound all the same. -/
def planMembership (s : Session) (method field : String) (negated : Bool) (args : List Value) :
    Except QueryError Plan := do
  let value ← firstArgument method args
  let members := membersOf value
  let value ← coerceArgument s field (.list members)
  let predicate := fun param =>
    if members.isEmpty then .atom (if negated then .always else .never)
    else .inList (s.qualify field) param negated
  return .condition (some (value, s.entity.typeOf? field)) predicate

/-- The test whether a column is null or the empty text, or neither. -/
def planEmptiness (s : Session) (field : String) (empty : Bool) : Plan :=
  let column := s.qualify field
  let same := fun param => Expr.nested (.compare column (if empty then .eq else .ne) param)
  let null := Expr.nested (.nullCheck column empty)
  .condition (some (.string "", none)) fun param =>
    if empty then (same param).orElse null else (same param).andThen null

/-- The direction that an argument names. Without one the ordering has none. -/
def directionOf (args : List Value) : Except QueryError (Option Direction) :=
  match args with
  | [] | .null :: _ => .ok none
  | .string text :: _ =>
    match Direction.ofText? text with
    | some direction => .ok (some direction)
    | none => .error (.argument (.direction text))
  | other :: _ => .error (.argument (.directionKind other.kind))

def plan (s : Session) (method : String) (call : ParsedCall) (args : List Value) :
    Except QueryError Plan :=
  let field := call.field
  match call.operator with
  | .whereIs | .filterBy | .equal => planCompare s method field .eq args
  | .notEqual => planCompare s method field .ne args
  | .greaterThan => planCompare s method field .gt args
  | .greaterThanEqual => planCompare s method field .ge args
  | .lessThan => planCompare s method field .lt args
  | .lessThanEqual => planCompare s method field .le args
  | .like => planPattern s method field .like args
  | .notLike => planPattern s method field .notLike args
  | .isIn => planMembership s method field false args
  | .notIn => planMembership s method field true args
  | .isNull => .ok (.condition none fun _ => .nullCheck (s.qualify field) true)
  | .isNotNull => .ok (.condition none fun _ => .nullCheck (s.qualify field) false)
  | .isEmpty => .ok (planEmptiness s field true)
  | .isNotEmpty => .ok (planEmptiness s field false)
  | .orderBy => (directionOf args).map (.order true)
  | .addOrderBy => (directionOf args).map (.order false)
  | .orderAscBy => .ok (.order true (some .ascending))
  | .addOrderAscBy => .ok (.order false (some .ascending))
  | .orderDescBy => .ok (.order true (some .descending))
  | .addOrderDescBy => .ok (.order false (some .descending))
  | .groupBy => .ok (.group true)
  | .addGroupBy => .ok (.group false)

/-- Carries out the plan of a call. -/
def perform (s : Session) (call : ParsedCall) : Plan → Session
  | .condition none predicate => s.attach call.conjunction (predicate "")
  | .condition (some (value, type?)) predicate =>
    let (name, params) := s.params.bind s.config.paramBase value type?
    { s with params }.attach call.conjunction (predicate name)
  | .order replace direction? => s.pushOrder replace call.field direction?
  | .group replace => s.pushGroup replace call.field

end Call

namespace Session

/-- Makes a dynamic call on a session. The session stands beside the result because a call that
fails may already have fixed the alias; it has changed nothing else. -/
def apply (s : Session) (method : String) (args : List Value) :
    Except QueryError Unit × Session :=
  match Call.parse s.entity method args.length with
  | .error e => (.error e, s)
  | .ok call =>
    let qualified := s.afterQualify call.field
    match Call.plan qualified method call args with
    | .error e => (.error e, qualified)
    | .ok plan => (.ok (), Call.perform qualified call plan)

/-- The session after a dynamic call. -/
def call (s : Session) (method : String) (args : List Value) : Except QueryError Session :=
  match s.apply method args with
  | (.ok (), next) => .ok next
  | (.error e, _) => .error e

end Session

end EntityQuery
