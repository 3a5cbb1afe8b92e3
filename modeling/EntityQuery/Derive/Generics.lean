import EntityQuery.Derive.TypeText

namespace EntityQuery.Derive

def comma : Token :=
  .ofMark ','

def isLifetimeArg (arg : List Token) : Bool :=
  arg.map Token.kind == [.lifetime]

/-- Arguments, each with whether a comma follows it, with the lifetimes in front. The lifetimes end
with a comma if others follow. -/
def joinArguments (args : List (List Token × Bool)) : List Token :=
  let tokens := fun (arg, hasComma) => arg ++ if hasComma then [comma] else []
  let lifetimes := args.filter fun (arg, _) => isLifetimeArg arg
  let others := args.filter fun (arg, _) => !isLifetimeArg arg
  let between :=
    match lifetimes.getLast? with
    | some (_, false) => if others.isEmpty then [] else [comma]
    | _ => []
  lifetimes.flatMap tokens ++ between ++ others.flatMap tokens

/-- Tokens with the lifetimes in front in all their angle brackets, at every depth. Every argument
keeps the comma behind it. -/
def argumentsInOrder (tokens : List Token) : List Token :=
  match tokens with
  | [] => []
  | t :: rest =>
    match if t.kind = .mark '<' then splitAt? (.mark '>') {} rest else none with
    | some (inside, after) =>
      if inside.length ≤ rest.length ∧ after.length ≤ rest.length then
        t :: joinArguments (splitCommas {} [] (argumentsInOrder inside)) ++
          .ofMark '>' :: argumentsInOrder after
      else tokens
    | none => t :: argumentsInOrder rest
termination_by tokens.length

/-- What stands behind the attributes with which tokens begin. -/
def afterAttributes (tokens : List Token) : List Token :=
  match tokens with
  | ⟨.mark '#', _⟩ :: ⟨.mark '[', _⟩ :: inside =>
    match splitAt? (.mark ']') {} inside with
    | some (_, rest) => if rest.length ≤ inside.length then afterAttributes rest else tokens
    | none => tokens
  | _ => tokens
termination_by tokens.length

/-- A parameter of a declaration, with the attributes in front of it and whether a comma follows it
in the source. An implementation repeats the parameters without their defaults and applies the
declared name to them; lifetimes come first in both. -/
structure GenericParam where
  attributes : List Token
  tokens : List Token
  comma : Bool
deriving DecidableEq, Repr

namespace GenericParam

/-- Takes a parameter apart. -/
def ofTokens (source : List Token) (comma : Bool) : GenericParam :=
  let tokens := afterAttributes source
  ⟨source.take (source.length - tokens.length), tokens, comma⟩

variable (p : GenericParam)

def isLifetime : Bool :=
  (p.tokens.head?.map Token.kind) == some .lifetime

/-- The parameter with its attributes, without its default. A colon without bounds is dropped
too. -/
def declared : List Token :=
  let kept :=
    match splitAt? (.mark '=') {} p.tokens with
    | some (kept, _) => kept
    | none => p.tokens
  let bounded := (kept.getLast?.map Token.kind) != some (.mark ':')
  p.attributes ++ argumentsInOrder (if bounded then kept else kept.dropLast)

/-- The parameter as an argument: its name, without its attributes. -/
def argument : List Token :=
  match p.tokens with
  | ⟨.word, "const"⟩ :: rest => rest.take 1
  | tokens => tokens.take 1

end GenericParam

/-- The parameters in angle brackets. -/
def genericParams (tokens : List Token) : List GenericParam :=
  match tokens with
  | ⟨.mark '<', _⟩ :: inside =>
    (splitCommas {} [] inside.dropLast).map fun (tokens, comma) => .ofTokens tokens comma
  | _ => []

/-- Parameters with the lifetimes in front. -/
def lifetimesFirst (params : List GenericParam) : List GenericParam :=
  params.filter GenericParam.isLifetime ++ params.filter fun p => !p.isLifetime

/-- The text of the arguments in angle brackets. -/
def argumentsText (params : List GenericParam) : String :=
  if params.isEmpty then ""
  else "<" ++ compact (joinArguments (params.map fun p => (p.argument, p.comma))) ++ ">"

/-- The conditions behind `where`. -/
def wherePredicates : List Token → List (List Token)
  | ⟨.word, "where"⟩ :: rest => (commaPieces rest).map argumentsInOrder
  | _ => []

end EntityQuery.Derive
