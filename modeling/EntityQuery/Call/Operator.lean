namespace EntityQuery.Call

/-- What a dynamic call does with its field. -/
inductive Operator
  | whereIs
  | filterBy
  | orderBy
  | orderAscBy
  | orderDescBy
  | addOrderBy
  | addOrderAscBy
  | addOrderDescBy
  | groupBy
  | addGroupBy
  | greaterThanEqual
  | greaterThan
  | lessThanEqual
  | lessThan
  | notEqual
  | equal
  | notIn
  | isIn
  | notLike
  | like
  | isNull
  | isNotNull
  | isEmpty
  | isNotEmpty
deriving DecidableEq, Repr

/-- Where a keyword stands in the name of a method. -/
inductive Placement
  | leading
  | trailing
deriving DecidableEq, Repr

/-- A keyword, its operator, and whether a call needs an argument for it. -/
structure Entry where
  keyword : String
  operator : Operator
  needsArgument : Bool
deriving DecidableEq, Repr

/-- Keywords in the order in which they are tried. A keyword that another one ends with comes after
the longer one. -/
structure OperatorTable where
  placement : Placement
  entries : List Entry
deriving DecidableEq, Repr

/-- The keywords that begin a name: `filterByStatus`. -/
def structuralTable : OperatorTable where
  placement := .leading
  entries :=
    [⟨"where", .whereIs, true⟩, ⟨"filterBy", .filterBy, true⟩, ⟨"orderBy", .orderBy, false⟩,
      ⟨"orderAscBy", .orderAscBy, false⟩, ⟨"orderDescBy", .orderDescBy, false⟩,
      ⟨"addOrderBy", .addOrderBy, false⟩, ⟨"addOrderAscBy", .addOrderAscBy, false⟩,
      ⟨"addOrderDescBy", .addOrderDescBy, false⟩, ⟨"groupBy", .groupBy, false⟩,
      ⟨"addGroupBy", .addGroupBy, false⟩]

/-- The keywords that end a name: `statusEqual`. -/
def comparisonTable : OperatorTable where
  placement := .trailing
  entries :=
    [⟨"GreaterThanEqual", .greaterThanEqual, true⟩, ⟨"GreaterThan", .greaterThan, true⟩,
      ⟨"LessThanEqual", .lessThanEqual, true⟩, ⟨"LessThan", .lessThan, true⟩,
      ⟨"NotEqual", .notEqual, true⟩, ⟨"Equal", .equal, true⟩, ⟨"NotIn", .notIn, true⟩,
      ⟨"In", .isIn, true⟩, ⟨"NotLike", .notLike, true⟩, ⟨"Like", .like, true⟩,
      ⟨"IsNull", .isNull, false⟩, ⟨"IsNotNull", .isNotNull, false⟩,
      ⟨"IsEmpty", .isEmpty, false⟩, ⟨"IsNotEmpty", .isNotEmpty, false⟩]

/-- The entry of an operator, if the table has one. -/
def OperatorTable.entry? (table : OperatorTable) (operator : Operator) : Option Entry :=
  table.entries.find? fun e => decide (e.operator = operator)

namespace Operator

def name : Operator → String
  | whereIs => "Where"
  | filterBy => "FilterBy"
  | orderBy => "OrderBy"
  | orderAscBy => "OrderAscBy"
  | orderDescBy => "OrderDescBy"
  | addOrderBy => "AddOrderBy"
  | addOrderAscBy => "AddOrderAscBy"
  | addOrderDescBy => "AddOrderDescBy"
  | groupBy => "GroupBy"
  | addGroupBy => "AddGroupBy"
  | greaterThanEqual => "GreaterThanEqual"
  | greaterThan => "GreaterThan"
  | lessThanEqual => "LessThanEqual"
  | lessThan => "LessThan"
  | notEqual => "NotEqual"
  | equal => "Equal"
  | notIn => "NotIn"
  | isIn => "In"
  | notLike => "NotLike"
  | like => "Like"
  | isNull => "IsNull"
  | isNotNull => "IsNotNull"
  | isEmpty => "IsEmpty"
  | isNotEmpty => "IsNotEmpty"

/-- Whether the operator's keyword begins the name. -/
def isStructural (operator : Operator) : Bool :=
  (structuralTable.entry? operator).isSome

/-- Whether a call of the operator needs an argument. -/
def requiresArgument (operator : Operator) : Bool :=
  match (structuralTable.entry? operator).or (comparisonTable.entry? operator) with
  | some entry => entry.needsArgument
  | none => false

end Operator

end EntityQuery.Call
