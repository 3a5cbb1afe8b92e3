import EntityQuery.Derive.Token
import EntityQuery.FieldType

namespace EntityQuery.Derive

/-- How deep a token stands inside angle brackets and inside other brackets. Angle brackets inside
other ones are not counted, since there they may be comparisons. -/
structure Depth where
  angle : Nat := 0
  bracket : Nat := 0
deriving DecidableEq, Repr

namespace Depth

/-- Whether a token of this depth stands inside no bracket. -/
def isTop (d : Depth) : Bool :=
  d.angle == 0 && d.bracket == 0

/-- The depth behind a token. -/
def after (d : Depth) (t : Token) : Depth :=
  match t.kind with
  | .mark '<' => if d.bracket = 0 then { d with angle := d.angle + 1 } else d
  | .mark '>' => if d.bracket = 0 then { d with angle := d.angle - 1 } else d
  | .mark c =>
    if (closing? c).isSome then { d with bracket := d.bracket + 1 }
    else if c = ')' ∨ c = ']' ∨ c = '\x7d' then { d with bracket := d.bracket - 1 }
    else d
  | _ => d

end Depth

/-- Splits tokens at the first one of a kind that stands inside no bracket. That one is dropped. -/
def splitAt? (kind : TokenKind) (d : Depth) : List Token → Option (List Token × List Token)
  | [] => none
  | t :: rest =>
    if d.isTop && t.kind == kind then some ([], rest)
    else (splitAt? kind (d.after t) rest).map fun (before, after) => (t :: before, after)

/-- Splits tokens at the commas that stand inside no bracket, each piece with whether a comma
follows it. Nothing behind the last comma is no piece. -/
def splitCommas (d : Depth) (piece : List Token) : List Token → List (List Token × Bool)
  | [] => if piece.isEmpty then [] else [(piece.reverse, false)]
  | t :: rest =>
    if d.isTop && t.kind == .mark ',' then (piece.reverse, true) :: splitCommas {} [] rest
    else splitCommas (d.after t) (t :: piece) rest

/-- The pieces between the commas that stand inside no bracket. -/
def commaPieces (tokens : List Token) : List (List Token) :=
  (splitCommas {} [] tokens).map Prod.fst

/-- A segment of a path, with the arguments that it has in angle brackets. -/
structure Segment where
  name : String
  args? : Option (List (List Token)) := none
deriving DecidableEq, Repr

/-- The arguments behind an opening angle bracket, and what stands behind the closing one. -/
def angleArgs? (tokens : List Token) : Option (List (List Token) × List Token) :=
  (splitAt? (.mark '>') {} tokens).map fun (inside, after) => (commaPieces inside, after)

/-- The first segment of a path and what stands behind it. A result type behind parentheses ends
the path. -/
def segment? : List Token → Option (Segment × List Token)
  | ⟨.word, name⟩ :: rest =>
    let withArgs := fun inside : List Token =>
      (angleArgs? inside).map fun (args, after) => (⟨name, some args⟩, after)
    match rest with
    | ⟨.mark '<', _⟩ :: inside => withArgs inside
    | ⟨.mark ':', _⟩ :: ⟨.mark ':', _⟩ :: ⟨.mark '<', _⟩ :: inside => withArgs inside
    | ⟨.mark '(', _⟩ :: inside =>
      (splitAt? (.mark ')') {} inside).map fun (_, after) =>
        match after with
        | ⟨.arrow, _⟩ :: _ => (⟨name, none⟩, [])
        | _ => (⟨name, none⟩, after)
    | _ => some (⟨name, none⟩, rest)
  | _ => none

/-- The last segment of a path that has nothing in front of its first segment. -/
def lastSegmentOf? (tokens : List Token) : Option Segment :=
  match segment? tokens with
  | some (segment, []) => some segment
  | some (_, ⟨.mark ':', _⟩ :: ⟨.mark ':', _⟩ :: rest) =>
    if rest.length < tokens.length then lastSegmentOf? rest else none
  | _ => none
termination_by tokens.length

/-- The last segment of a type that is a path. The path may begin at the root, or with a type in
angle brackets. -/
def lastSegment? : List Token → Option Segment
  | ⟨.mark ':', _⟩ :: ⟨.mark ':', _⟩ :: rest => lastSegmentOf? rest
  | ⟨.mark '<', _⟩ :: inside =>
    match splitAt? (.mark '>') {} inside with
    | some (_, ⟨.mark ':', _⟩ :: ⟨.mark ':', _⟩ :: rest) => lastSegmentOf? rest
    | _ => none
  | tokens => lastSegmentOf? tokens

/-- Whether an argument in angle brackets is a type: neither a lifetime, nor a constant, nor a
binding or a bound of an associated type. -/
def isTypeArg : List Token → Bool
  | ⟨.lifetime, _⟩ :: rest => (rest.head?.map Token.kind) == some (.mark '+')
  | ⟨.literal, _⟩ :: _ => false
  | ⟨.text _, _⟩ :: _ => false
  | ⟨.mark c, _⟩ :: _ => c != '\x7b' && c != '-'
  | ⟨.word, name⟩ :: rest =>
    if name = "true" ∨ name = "false" then false
    else
      match (segment? (⟨.word, name⟩ :: rest)).map Prod.snd with
      | some (⟨.mark '=', _⟩ :: _) => false
      | some (⟨.mark ':', _⟩ :: ⟨.mark ':', _⟩ :: _) => true
      | some (⟨.mark ':', _⟩ :: _) => false
      | _ => true
  | _ => true

/-- The type of which a type is an option. -/
def optionInner? (type : List Token) : Option (List Token) :=
  match lastSegment? type with
  | some ⟨"Option", some [arg]⟩ => if isTypeArg arg then some arg else none
  | _ => none

/-- The type to which a type is a reference. -/
def referenced? : List Token → Option (List Token)
  | ⟨.mark '&', _⟩ :: rest =>
    let rest :=
      match rest with
      | ⟨.lifetime, _⟩ :: rest => rest
      | rest => rest
    match rest with
    | ⟨.word, "mut"⟩ :: rest => some rest
    | rest => some rest
  | _ => none

/-- The names of types whose values have a meaning of their own. -/
def namedTypes : List (String × FieldType) :=
  [("String", .string), ("str", .string), ("i16", .smallInt), ("i32", .integer), ("i64", .bigInt),
    ("bool", .boolean), ("f32", .float), ("f64", .float), ("Decimal", .decimal),
    ("NaiveDate", .date), ("NaiveTime", .time), ("NaiveDateTime", .dateTime),
    ("DateTime", .dateTimeTz), ("Uuid", .guid), ("Value", .json)]

/-- The meaning of a type's values, by the last name of its path. Options and references mean what
they lead to; a type without a meaning of its own is another one. -/
def inferType (type : List Token) : FieldType :=
  let inner := (optionInner? type).getD type
  match referenced? inner with
  | some target => if target.length < type.length then inferType target else .other
  | none =>
    match lastSegment? inner with
    | some segment => (namedTypes.lookup segment.name).getD .other
    | none => .other
termination_by type.length

/-- The words that attributes have for the meanings of values. The derivation has a table of its
own, since it runs before the types that it describes are there. -/
def typeWords : List (String × FieldType) :=
  [("string", .string), ("text", .string), ("smallint", .smallInt), ("integer", .integer),
    ("int", .integer), ("bigint", .bigInt), ("boolean", .boolean), ("bool", .boolean),
    ("decimal", .decimal), ("numeric", .decimal), ("float", .float), ("date", .date),
    ("time", .time), ("datetime", .dateTime), ("datetimetz", .dateTimeTz), ("guid", .guid),
    ("uuid", .guid), ("json", .json), ("jsonb", .json), ("other", .other)]

/-- The meaning that an attribute gives with a word, in any case. -/
def typeOfWord? (text : String) : Option FieldType :=
  typeWords.lookup (Text.asciiLower text)

end EntityQuery.Derive
