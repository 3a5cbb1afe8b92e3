import EntityQuery.Json
import EntityQuery.Numeric.Binary64.Text
import EntityQuery.Text.Hex

namespace EntityQuery.Json

/-- Floating-point numbers in documents keep their point, and have an exponent outside
`1e-5 ≤ x < 1e16`. -/
def floatStyle : Binary64.Style := ⟨.even, -4, 16, true⟩

def numberText : JsonNumber → String
  | .int n => toString n
  | .float x => x.format floatStyle

/-- A character inside a string: quotes, backslashes and control characters are escaped. -/
def escapeChar (c : Char) : List Char :=
  match c.toNat with
  | 0x22 => ['\\', '\x22']
  | 0x5c => ['\\', '\\']
  | 0x08 => ['\\', 'b']
  | 0x09 => ['\\', 't']
  | 0x0a => ['\\', 'n']
  | 0x0c => ['\\', 'f']
  | 0x0d => ['\\', 'r']
  | n =>
    if n < 32 then ['\\', 'u', '0', '0', Text.hexDigit (n / 16), Text.hexDigit (n % 16)] else [c]

/-- A string in quotes. -/
def stringText (s : String) : String :=
  String.ofList ('\x22' :: s.toList.flatMap escapeChar ++ ['\x22'])

mutual

/-- The text of a document, without blanks. -/
def toText : Json → String
  | .null => "null"
  | .bool b => if b then "true" else "false"
  | .number n => numberText n
  | .string s => stringText s
  | .array items => "[" ++ ",".intercalate (itemTexts items) ++ "]"
  | .object members => "\x7b" ++ ",".intercalate (memberTexts members) ++ "\x7d"

def itemTexts : List Json → List String
  | [] => []
  | item :: rest => toText item :: itemTexts rest

def memberTexts : List (String × Json) → List String
  | [] => []
  | (key, value) :: rest => (stringText key ++ ":" ++ toText value) :: memberTexts rest

end

end EntityQuery.Json
