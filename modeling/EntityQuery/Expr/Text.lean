import EntityQuery.Expr

namespace EntityQuery

def Atom.toText : Atom → String
  | compare column op param => column ++ " " ++ op.symbol ++ " :" ++ param
  | nullCheck column isNull => column ++ if isNull then " IS NULL" else " IS NOT NULL"
  | inList column param negated =>
    column ++ (if negated then " NOT IN " else " IN ") ++ "(:" ++ param ++ ")"
  | between column low high negated =>
    column ++ (if negated then " NOT BETWEEN :" else " BETWEEN :") ++ low ++ " AND :" ++ high
  | raw text => Text.trimmed text
  | always => "1=1"
  | never => "1=0"

namespace Expr

/-- Whether a predicate stands in parentheses as part of a group: a group of several conditions
does, and so does a raw text. -/
def needsParens : Expr → Bool
  | .atom (.raw _) => true
  | .and items => 1 < (items.filter fun item => !item.isEmpty).length
  | .or items => 1 < (items.filter fun item => !item.isEmpty).length
  | _ => false

mutual

/-- The written form of a predicate, with placeholders as `:name`. A negation or a pair of
parentheses around nothing is not written. -/
def toText : Expr → String
  | .atom a => a.toText
  | .and items => " AND ".intercalate (conditionTexts items)
  | .or items => " OR ".intercalate (conditionTexts items)
  | .not inner =>
    let text := toText inner
    if text = "" then "" else "NOT (" ++ text ++ ")"
  | .nested inner =>
    let text := toText inner
    if text = "" then text else "(" ++ text ++ ")"

/-- The texts of the parts of a group. Parts that contain no condition are left out. -/
def conditionTexts : List Expr → List String
  | [] => []
  | item :: rest =>
    if isEmpty item then conditionTexts rest
    else
      let text := toText item
      (if item.needsParens then "(" ++ text ++ ")" else text) :: conditionTexts rest

end

end Expr

end EntityQuery
