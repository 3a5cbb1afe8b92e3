import EntityQuery.Text.Basic

namespace EntityQuery

/-- The comparison between a column and a value. -/
inductive CompareOp
  | eq
  | ne
  | gt
  | ge
  | lt
  | le
  | like
  | notLike
deriving DecidableEq, Repr

def CompareOp.symbol : CompareOp → String
  | .eq => "="
  | .ne => "<>"
  | .gt => ">"
  | .ge => ">="
  | .lt => "<"
  | .le => "<="
  | .like => "LIKE"
  | .notLike => "NOT LIKE"

/-- A condition without connectives of its own. A raw text may still contain some. -/
inductive Atom
  | compare (column : String) (op : CompareOp) (param : String)
  | nullCheck (column : String) (isNull : Bool)
  | inList (column param : String) (negated : Bool)
  | between (column low high : String) (negated : Bool)
  | raw (text : String)
  | always
  | never
deriving DecidableEq, Repr

/-- A predicate, which is built from atoms by the connectives. It names its values by placeholders,
and the values themselves stand in the parameter table of a session. -/
inductive Expr
  | atom (a : Atom)
  | and (items : List Expr)
  | or (items : List Expr)
  | not (inner : Expr)
  | nested (inner : Expr)
deriving Repr, Inhabited

/-- Whether a raw text says nothing. -/
def Atom.isEmpty : Atom → Bool
  | raw text => Text.trimmed text == ""
  | _ => false

/-- The placeholders that an atom names. A raw text is not searched for any. -/
def Atom.params : Atom → List String
  | compare _ _ param => [param]
  | inList _ param _ => [param]
  | between _ low high _ => [low, high]
  | _ => []

namespace Expr

/-- The comparison of a column with a placeholder. -/
def compare (column : String) (op : CompareOp) (param : String) : Expr :=
  .atom (.compare column op param)

/-- A condition in the words of its author. -/
def raw (text : String) : Expr :=
  .atom (.raw text)

/-- The test for null, or for its opposite. -/
def nullCheck (column : String) (isNull : Bool) : Expr :=
  .atom (.nullCheck column isNull)

/-- The test whether a column's value is among those of a list, or among the others. -/
def inList (column param : String) (negated : Bool) : Expr :=
  .atom (.inList column param negated)

/-- The test whether a column's value lies between two others, or outside. -/
def between (column low high : String) (negated : Bool) : Expr :=
  .atom (.between column low high negated)

/-- The range between two values without its ends. -/
def range (column low high : String) : Expr :=
  .and [compare column .gt low, compare column .lt high]

/-- Both of two predicates. A conjunction takes the second one as a further item. -/
def andThen : Expr → Expr → Expr
  | .and items, other => .and (items ++ [other])
  | first, other => .and [first, other]

/-- Either of two predicates. A disjunction takes the second one as a further item. -/
def orElse : Expr → Expr → Expr
  | .or items, other => .or (items ++ [other])
  | first, other => .or [first, other]

mutual

/-- Whether a predicate contains no condition. -/
def isEmpty : Expr → Bool
  | .atom a => a.isEmpty
  | .and items => allEmpty items
  | .or items => allEmpty items
  | .not inner => isEmpty inner
  | .nested inner => isEmpty inner

/-- Whether none of several predicates contains a condition. -/
def allEmpty : List Expr → Bool
  | [] => true
  | item :: rest => isEmpty item && allEmpty rest

end

mutual

/-- The placeholders that the atoms of a predicate name, from left to right. -/
def params : Expr → List String
  | .atom a => a.params
  | .and items => allParams items
  | .or items => allParams items
  | .not inner => params inner
  | .nested inner => params inner

/-- The placeholders that several predicates name. -/
def allParams : List Expr → List String
  | [] => []
  | item :: rest => params item ++ allParams rest

end

theorem allEmpty_eq_all (items : List Expr) : allEmpty items = items.all isEmpty := by
  induction items with
  | nil => rfl
  | cons item rest ih => simp [allEmpty, ih]

theorem allParams_eq_flatMap (items : List Expr) : allParams items = items.flatMap params := by
  induction items with
  | nil => rfl
  | cons item rest ih => simp [allParams, ih]

end Expr

end EntityQuery
