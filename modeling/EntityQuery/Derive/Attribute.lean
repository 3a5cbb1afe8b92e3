import EntityQuery.Derive.Fault
import EntityQuery.Derive.Token

namespace EntityQuery.Derive

/-- The words that are no key. -/
def keywords : List String :=
  ["_", "abstract", "as", "async", "await", "become", "box", "break", "const", "continue", "crate",
    "do", "dyn", "else", "enum", "extern", "false", "final", "fn", "for", "if", "impl", "in", "let",
    "loop", "macro", "match", "mod", "move", "mut", "override", "priv", "pub", "ref", "return",
    "Self", "self", "static", "struct", "super", "trait", "true", "try", "type", "typeof", "unsafe",
    "unsized", "use", "virtual", "where", "while", "yield"]

/-- A key and what stands behind it. -/
def readKey : List Token → Except Fault (String × List Token)
  | ⟨.word, word⟩ :: rest =>
    if keywords.contains word then .error (.keyword word) else .ok (word, rest)
  | _ => .error .expectedIdentifier

/-- The text behind an equals sign, and what stands behind the text. -/
def readText : List Token → Except Fault (String × List Token)
  | ⟨.mark '=', _⟩ :: ⟨.text value, _⟩ :: rest => .ok (value, rest)
  | ⟨.mark '=', _⟩ :: [] => .error .expectedTextAtEnd
  | ⟨.mark '=', _⟩ :: _ => .error .expectedText
  | _ => .error .expectedEquals

/-- Entries with commas between them; a comma may also stand behind the last one. -/
def readEntries {ε : Type} (readEntry : List Token → Except Fault (ε × List Token))
    (tokens : List Token) : Except Fault (List ε) :=
  if tokens.isEmpty then .ok []
  else
    match readEntry tokens with
    | .error fault => .error fault
    | .ok (entry, []) => .ok [entry]
    | .ok (entry, ⟨.mark ',', _⟩ :: rest) =>
      if rest.length < tokens.length then (readEntries readEntry rest).map (entry :: ·)
      else .error .unexpectedToken
    | .ok _ => .error .unexpectedToken
termination_by tokens.length

/-- An entry of a struct's attribute. -/
inductive StructEntry
  | table (name : String)
  | entityAlias (name : String)
deriving DecidableEq, Repr

/-- An entry of a field's attribute. -/
inductive FieldEntry
  | id
  | column (name : String)
  | fieldType (name : String)
  | association (target : String)
  | targetTable (name : String)
  | references (name : String)
deriving DecidableEq, Repr

def readStructEntry (tokens : List Token) : Except Fault (StructEntry × List Token) := do
  let (key, rest) ← readKey tokens
  let (value, rest) ← readText rest
  match key with
  | "table" => return (.table value, rest)
  | "alias" => return (.entityAlias value, rest)
  | _ => throw (.unknownStructKey key)

def readFieldEntry (tokens : List Token) : Except Fault (FieldEntry × List Token) := do
  let (key, rest) ← readKey tokens
  if key = "id" then return (.id, rest)
  let (value, rest) ← readText rest
  match key with
  | "column" => return (.column value, rest)
  | "field_type" => return (.fieldType value, rest)
  | "association" => return (.association value, rest)
  | "target_table" => return (.targetTable value, rest)
  | "references" => return (.references value, rest)
  | _ => throw (.unknownFieldKey key)

/-- The name of the attributes that are meant for the derivation. -/
def attributeName : String := "orm"

/-- What an attribute holds for the derivation: nothing if it has another name. -/
def argumentsOf? : List Token → Except Fault (Option (List Token))
  | ⟨.word, name⟩ :: rest =>
    if name = attributeName then
      match rest with
      | [] => .error .missingArguments
      | ⟨.mark ':', _⟩ :: _ => .ok none
      | ⟨.mark c, _⟩ :: inside =>
        if (closing? c).isSome then .ok (some inside.dropLast)
        else .error (if c = '=' then .missingParentheses else .unexpectedToken)
      | _ => .error .unexpectedToken
    else .ok none
  | _ => .ok none

/-- What the attributes of a struct say. -/
structure StructOptions where
  table? : Option String := none
  alias? : Option String := none
deriving DecidableEq, Repr

/-- The options with one more entry, which counts instead of an earlier one with its key. -/
def StructOptions.add (options : StructOptions) : StructEntry → StructOptions
  | .table name => { options with table? := some name }
  | .entityAlias name => { options with alias? := some name }

/-- What an attribute says together with the ones in front of it: what it gives counts. -/
def StructOptions.merge (options later : StructOptions) : StructOptions where
  table? := later.table?.or options.table?
  alias? := later.alias?.or options.alias?

/-- What the attributes of a field say. -/
structure FieldOptions where
  isId : Bool := false
  column? : Option String := none
  fieldType? : Option String := none
  association? : Option String := none
  targetTable? : Option String := none
  references? : Option String := none
deriving DecidableEq, Repr

/-- The options with one more entry, which counts instead of an earlier one with its key. -/
def FieldOptions.add (options : FieldOptions) : FieldEntry → FieldOptions
  | .id => { options with isId := true }
  | .column name => { options with column? := some name }
  | .fieldType name => { options with fieldType? := some name }
  | .association target => { options with association? := some target }
  | .targetTable name => { options with targetTable? := some name }
  | .references name => { options with references? := some name }

/-- What an attribute says together with the ones in front of it: what it gives counts, and a mark
stays. -/
def FieldOptions.merge (options later : FieldOptions) : FieldOptions where
  isId := options.isId || later.isId
  column? := later.column?.or options.column?
  fieldType? := later.fieldType?.or options.fieldType?
  association? := later.association?.or options.association?
  targetTable? := later.targetTable?.or options.targetTable?
  references? := later.references?.or options.references?

/-- How the attributes of one kind of item are read: an entry, the options that nothing is said
about, what an entry adds to them, and what an attribute says together with the ones in front. -/
structure OptionReader (ε ω : Type) where
  readEntry : List Token → Except Fault (ε × List Token)
  unset : ω
  add : ω → ε → ω
  merge : ω → ω → ω

namespace OptionReader

variable {ε ω : Type} (reader : OptionReader ε ω)

/-- What one attribute says. -/
def readArguments (arguments : List Token) : Except Fault ω :=
  (readEntries reader.readEntry arguments).map fun entries => entries.foldl reader.add reader.unset

/-- What the attributes in front and one more attribute say. An attribute with another name says
nothing. -/
def readAttribute (options : ω) (tokens : List Token) : Except Fault ω := do
  match ← argumentsOf? tokens with
  | none => return options
  | some arguments => return reader.merge options (← reader.readArguments arguments)

/-- What the attributes of an item say together. -/
def read (attributes : List (List Token)) : Except Fault ω :=
  attributes.foldlM reader.readAttribute reader.unset

end OptionReader

def structReader : OptionReader StructEntry StructOptions :=
  ⟨readStructEntry, {}, StructOptions.add, StructOptions.merge⟩

def fieldReader : OptionReader FieldEntry FieldOptions :=
  ⟨readFieldEntry, {}, FieldOptions.add, FieldOptions.merge⟩

/-- What the attributes of a struct say together. -/
def structOptions (attributes : List (List Token)) : Except Fault StructOptions :=
  structReader.read attributes

def fieldOptions (attributes : List (List Token)) : Except Fault FieldOptions :=
  fieldReader.read attributes

end EntityQuery.Derive
