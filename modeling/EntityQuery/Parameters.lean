import EntityQuery.FieldType
import EntityQuery.Keyed
import EntityQuery.Value

namespace EntityQuery

/-- A value bound to a name, with the declared type it was bound for. -/
structure Parameter where
  name : String
  value : Value
  type? : Option FieldType := none
deriving Repr

/-- A name without one leading colon. -/
def bareName (name : String) : String :=
  match name.toList with
  | ':' :: rest => String.ofList rest
  | _ => name

/-- A name without all its leading colons. -/
def lookupName (name : String) : String :=
  String.ofList (name.toList.dropWhile (· == ':'))

/-- The parameter of a name, which may be written with a colon. -/
def Parameter.of (name : String) (value : Value) (type? : Option FieldType) : Parameter :=
  { name := bareName name, value, type? }

/-- One of several bindings that are made at once. A descriptor is bound under its own name. -/
inductive Binding
  | value (v : Value)
  | typed (v : Value) (type : FieldType)
  | descriptor (parameter : Parameter)
deriving Repr

/-- The parameters of a session, sorted by their key, which is the name without a leading colon. -/
structure ParamTable where
  entries : List (String × Parameter) := []
deriving Repr

namespace ParamTable

variable (table : ParamTable)

def size : Nat :=
  table.entries.length

def isEmpty : Bool :=
  table.entries.isEmpty

/-- Whether a key is taken. -/
def hasKey (key : String) : Bool :=
  Keyed.contains key table.entries

def get? (name : String) : Option Parameter :=
  table.entries.lookup (lookupName name)

/-- Whether a name is bound. -/
def contains (name : String) : Bool :=
  table.hasKey (lookupName name)

def value? (name : String) : Option Value :=
  (table.get? name).map Parameter.value

/-- The parameters in the order of their keys. -/
def toList : List Parameter :=
  table.entries.map Prod.snd

/-- Puts a parameter under its own name. -/
def insert (parameter : Parameter) : ParamTable :=
  ⟨Keyed.insert parameter.name parameter table.entries⟩

/-- Binds a value to a name, instead of an earlier one. -/
def set (name : String) (value : Value) (type? : Option FieldType) : ParamTable :=
  table.insert (.of name value type?)

/-- The generated name of a base and a number. -/
def candidate (base : String) (i : Nat) : String :=
  base ++ toString i

/-- The first number from `i` on whose name is free, among as many as the fuel allows and the one
behind them. -/
def freeFrom (base : String) : Nat → Nat → Nat
  | 0, i => i
  | fuel + 1, i => if table.hasKey (candidate base i) then freeFrom base fuel (i + 1) else i

/-- The first number whose name is free. A table of `n` parameters leaves one of the first `n + 1`
names free. -/
def freeIndex (base : String) : Nat :=
  table.freeFrom base table.size 0

/-- Reserves the first free name of a base. The name holds null until a value is bound to it. -/
def allocate (base : String) : String × ParamTable :=
  let name := candidate base (table.freeIndex base)
  (name, ⟨Keyed.insert name (.of name .null none) table.entries⟩)

/-- Binds a value to the first free name of a base. -/
def bind (base : String) (value : Value) (type? : Option FieldType) : String × ParamTable :=
  let (name, reserved) := table.allocate base
  (name, reserved.set name value type?)

/-- Makes one of several bindings. -/
def appendOne (key : String) : Binding → ParamTable
  | .value v => table.set key v none
  | .typed v type => table.set key v (some type)
  | .descriptor parameter => table.insert parameter

/-- Makes several bindings, one after the other. -/
def append (bindings : List (String × Binding)) : ParamTable :=
  bindings.foldl (fun table (key, binding) => table.appendOne key binding) table

end ParamTable

end EntityQuery
