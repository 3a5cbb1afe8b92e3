import EntityQuery.Calendar.Time
import EntityQuery.Json.Printer
import EntityQuery.Numeric.Decimal96
import EntityQuery.Uuid
import EntityQuery.Value.Kind

namespace EntityQuery

/-- A value of one of the kinds that the database stores, or a list of values. Arguments of calls,
bound parameters and cells of results are values. -/
inductive Value
  | null
  | bool (b : Bool)
  | int (n : Int64)
  | float (x : Binary64)
  | decimal (d : Decimal96)
  | string (s : String)
  | date (d : Date)
  | time (t : Time)
  | dateTime (dt : DateTime)
  | uuid (u : Uuid)
  | json (doc : Json)
  | list (items : List Value)
deriving Repr

namespace Value

def kind : Value → ValueKind
  | null => .null
  | bool _ => .bool
  | int _ => .int
  | float _ => .float
  | decimal _ => .decimal
  | string _ => .string
  | date _ => .date
  | time _ => .time
  | dateTime _ => .dateTime
  | uuid _ => .uuid
  | json _ => .json
  | list _ => .list

def isNull : Value → Bool
  | null => true
  | _ => false

/-- Null, the empty string and the empty list are empty. -/
def isEmpty : Value → Bool
  | null => true
  | string s => s == ""
  | list items => items.isEmpty
  | _ => false

def asString? : Value → Option String
  | string s => some s
  | _ => none

mutual

/-- The text by which a value is shown. -/
def toText : Value → String
  | null => "NULL"
  | bool b => if b then "true" else "false"
  | int n => toString n.toInt
  | float x => x.toText
  | decimal d => d.toText
  | string s => s
  | date d => d.toText
  | time t => t.toText
  | dateTime dt => dt.toText
  | uuid u => u.toText
  | json doc => doc.toText
  | list items => "[" ++ ", ".intercalate (toTexts items) ++ "]"

/-- The texts of several values. -/
def toTexts : List Value → List String
  | [] => []
  | item :: rest => toText item :: toTexts rest

end

mutual

/-- The document that stands for a value in rows that are handed out as objects. Numbers of the
database that documents cannot hold exactly, and all dates and identifiers, become strings. -/
def toJson : Value → Json
  | null => .null
  | bool b => .bool b
  | int n => .ofInt n.toInt
  | float x => .ofBinary64 x
  | decimal d => .string d.toText
  | json doc => doc
  | list items => .array (toJsons items)
  | string s => .string s
  | date d => .string d.toText
  | time t => .string t.toText
  | dateTime dt => .string dt.toText
  | uuid u => .string u.toText

/-- The documents of several values. -/
def toJsons : List Value → List Json
  | [] => []
  | item :: rest => toJson item :: toJsons rest

end

theorem toTexts_eq_map (items : List Value) : toTexts items = items.map toText := by
  induction items with
  | nil => rfl
  | cons item rest ih => simp [toTexts, ih]

theorem toJsons_eq_map (items : List Value) : toJsons items = items.map toJson := by
  induction items with
  | nil => rfl
  | cons item rest ih => simp [toJsons, ih]

end Value

end EntityQuery
