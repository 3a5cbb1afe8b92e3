namespace EntityQuery.Derive

/-- What is derived from the declaration of a record type. -/
inductive Derivation
  | entity
  | fromRecord
deriving DecidableEq, Repr

def Derivation.name : Derivation → String
  | entity => "Entity"
  | fromRecord => "FromRecord"

def Derivation.ofName? (s : String) : Option Derivation :=
  [entity, fromRecord].find? fun derivation => derivation.name == s

/-- Why a derivation is refused. -/
inductive Fault
  | source
  | genericEntity
  | notStruct (derivation : Derivation)
  | namelessFields (derivation : Derivation)
  | badAlias (text : String)
  | unknownStructKey (key : String)
  | unknownFieldKey (key : String)
  | unknownFieldType (text : String)
  | targetWithoutAssociation
  | expectedIdentifier
  | keyword (word : String)
  | expectedEquals
  | expectedText
  | expectedTextAtEnd
  | unexpectedToken
  | missingArguments
  | missingParentheses
deriving DecidableEq, Repr

def Fault.message : Fault → String
  | source => "cannot parse string into token stream"
  | genericEntity => "Entity cannot be derived for generic structs"
  | notStruct derivation => s!"{derivation.name} can only be derived for structs"
  | namelessFields derivation =>
    s!"{derivation.name} can only be derived for structs with named fields"
  | badAlias text => s!"alias `{text}` must be a plain identifier"
  | unknownStructKey key => s!"unknown struct attribute `{key}`; expected `table` or `alias`"
  | unknownFieldKey key => s!"unknown field attribute `{key}`"
  | unknownFieldType text => s!"unknown field type `{text}`"
  | targetWithoutAssociation =>
    "`target_table` and `references` require `association = \"Target\"`"
  | expectedIdentifier => "expected identifier"
  | keyword word => s!"expected identifier, found keyword `{word}`"
  | expectedEquals => "expected `=`"
  | expectedText => "expected string literal"
  | expectedTextAtEnd => "unexpected end of input, expected string literal"
  | unexpectedToken => "unexpected token"
  | missingArguments => "expected attribute arguments in parentheses: #[orm(...)]"
  | missingParentheses => "expected parentheses: #[orm(...)]"

end EntityQuery.Derive
