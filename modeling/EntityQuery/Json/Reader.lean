import EntityQuery.Json.Number
import EntityQuery.Text.Hex

namespace EntityQuery.Json

/-- The characters between the tokens of a document. -/
def isGap (c : Char) : Bool :=
  c == ' ' || c == '\t' || c == '\n' || c == '\r'

/-- A text without the gap at its start. -/
def skipGap (cs : List Char) : List Char :=
  cs.dropWhile isGap

/-- The code unit that four hexadecimal digits spell. -/
def unit? (a b c d : Char) : Option Nat :=
  Text.hexNumber? [a, b, c, d]

/-- The character that a single letter behind a backslash stands for. -/
def simpleEscape? (c : Char) : Option Char :=
  match c.toNat with
  | 0x22 => some '\x22'
  | 0x5c => some '\\'
  | 0x2f => some '/'
  | 0x62 => some (Char.ofNat 8)
  | 0x66 => some (Char.ofNat 12)
  | 0x6e => some '\n'
  | 0x72 => some '\r'
  | 0x74 => some '\t'
  | _ => none

/-- The character of two code units of a pair of surrogates. -/
def pairChar? (high low : Nat) : Option Char :=
  if 0xD800 ≤ high ∧ high < 0xDC00 ∧ 0xDC00 ≤ low ∧ low < 0xE000 then
    some (Char.ofNat (0x10000 + (high - 0xD800) * 0x400 + (low - 0xDC00)))
  else none

/-- Whether a code unit is half of a pair. -/
def isSurrogate (unit : Nat) : Bool :=
  0xD800 ≤ unit && unit < 0xE000

/-- Reads the characters of a string behind its opening quote. A code unit that is half of a pair
is refused when the other half does not follow. -/
def readString : List Char → Option (List Char × List Char)
  | '\\' :: 'u' :: a :: b :: c :: d :: '\\' :: 'u' :: a' :: b' :: c' :: d' :: rest =>
    match unit? a b c d with
    | none => none
    | some high =>
      if isSurrogate high then
        match (unit? a' b' c' d').bind (pairChar? high) with
        | none => none
        | some ch => (readString rest).map fun (s, after) => (ch :: s, after)
      else
        (readString ('\\' :: 'u' :: a' :: b' :: c' :: d' :: rest)).map fun (s, after) =>
          (Char.ofNat high :: s, after)
  | '\\' :: 'u' :: a :: b :: c :: d :: rest =>
    match unit? a b c d with
    | none => none
    | some unit =>
      if isSurrogate unit then none
      else (readString rest).map fun (s, after) => (Char.ofNat unit :: s, after)
  | '\\' :: c :: rest =>
    match simpleEscape? c with
    | none => none
    | some ch => (readString rest).map fun (s, after) => (ch :: s, after)
  | c :: rest =>
    if c.toNat = 0x22 then some ([], rest)
    else if c.toNat < 32 ∨ c = '\\' then none
    else (readString rest).map fun (s, after) => (c :: s, after)
  | [] => none

mutual

/-- Reads a document. `depth` bounds the nesting and `fuel` the steps; each step reads at least
one character. -/
def readValue (depth : Nat) : Nat → List Char → Option (Json × List Char)
  | 0, _ => none
  | fuel + 1, cs =>
    match skipGap cs with
    | 'n' :: 'u' :: 'l' :: 'l' :: rest => some (.null, rest)
    | 't' :: 'r' :: 'u' :: 'e' :: rest => some (.bool true, rest)
    | 'f' :: 'a' :: 'l' :: 's' :: 'e' :: rest => some (.bool false, rest)
    | '\x22' :: rest => (readString rest).map fun (s, after) => (.string (String.ofList s), after)
    | '[' :: rest =>
      if depth ≤ 1 then none
      else
        match skipGap rest with
        | ']' :: after => some (.array [], after)
        | _ => (readItems (depth - 1) fuel rest).map fun (items, after) => (.array items, after)
    | '\x7b' :: rest =>
      if depth ≤ 1 then none
      else
        match skipGap rest with
        | '\x7d' :: after => some (.object [], after)
        | _ =>
          (readMembers (depth - 1) fuel rest).map fun (members, after) =>
            (ofMembers members, after)
    | other => (readNumber other).map fun (n, after) => (.number n, after)

/-- Reads the items of an array that has at least one, and the closing bracket. -/
def readItems (depth : Nat) : Nat → List Char → Option (List Json × List Char)
  | 0, _ => none
  | fuel + 1, cs =>
    match readValue depth fuel cs with
    | none => none
    | some (item, rest) =>
      match skipGap rest with
      | ',' :: more => (readItems depth fuel more).map fun (items, after) => (item :: items, after)
      | ']' :: after => some ([item], after)
      | _ => none

/-- Reads the members of an object that has at least one, and the closing brace. -/
def readMembers (depth : Nat) : Nat → List Char → Option (List (String × Json) × List Char)
  | 0, _ => none
  | fuel + 1, cs =>
    match skipGap cs with
    | '\x22' :: quoted =>
      match readString quoted with
      | none => none
      | some (key, rest) =>
        match skipGap rest with
        | ':' :: rest =>
          match readValue depth fuel rest with
          | none => none
          | some (value, rest) =>
            match skipGap rest with
            | ',' :: more =>
              (readMembers depth fuel more).map fun (members, after) =>
                ((String.ofList key, value) :: members, after)
            | '\x7d' :: after => some ([(String.ofList key, value)], after)
            | _ => none
        | _ => none
    | _ => none

end

/-- One more than the deepest nesting of arrays and objects that is read, which is 127. -/
def depthLimit : Nat := 128

/-- Reads a document that fills a text. -/
def ofText? (s : String) : Option Json :=
  match readValue depthLimit (2 * s.length + 2) s.toList with
  | some (doc, rest) => if (skipGap rest).isEmpty then some doc else none
  | none => none

end EntityQuery.Json
