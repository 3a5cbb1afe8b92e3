import EntityQuery.Text.Basic
import EntityQuery.Text.Hex

namespace EntityQuery.Derive

open Text

/-- Splits what stands before a closing quote from what stands behind it. A backslash keeps the
character behind it. -/
def quoted? (quote : Char) : List Char → Option (List Char × List Char)
  | [] => none
  | c :: rest =>
    if c = quote then some ([], rest)
    else if c = '\\' then
      match rest with
      | [] => none
      | kept :: rest => (quoted? quote rest).map fun (body, after) => (c :: kept :: body, after)
    else (quoted? quote rest).map fun (body, after) => (c :: body, after)

/-- Splits what stands before a closing quote with the given number of hash signs from what stands
behind them. -/
def rawQuoted? (hashes : Nat) : List Char → Option (List Char × List Char)
  | [] => none
  | c :: rest =>
    if c = '\x22' ∧ rest.take hashes = List.replicate hashes '#' then some ([], rest.drop hashes)
    else (rawQuoted? hashes rest).map fun (body, after) => (c :: body, after)

/-- The character of a number, if it is one. -/
def charOf? (n : Nat) : Option Char :=
  if n.isValidChar then some (Char.ofNat n) else none

/-- The blanks that disappear behind the end of a line. -/
def isLineBlank (c : Char) : Bool :=
  c == ' ' || c == '\t' || c == '\n' || c == '\r'

/-- The characters of an escape behind its backslash, and the rest: a letter stands for a control
character, a number in base sixteen for the character that has it, and the end of a line for
nothing, with the blanks behind it. -/
def escape? : List Char → Option (List Char × List Char)
  | 'n' :: rest => some (['\n'], rest)
  | 'r' :: rest => some (['\r'], rest)
  | 't' :: rest => some (['\t'], rest)
  | '\\' :: rest => some (['\\'], rest)
  | '0' :: rest => some ([Char.ofNat 0], rest)
  | '\x27' :: rest => some (['\x27'], rest)
  | '\x22' :: rest => some (['\x22'], rest)
  | 'x' :: high :: low :: rest =>
    (hexNumber? [high, low]).bind fun n => if n < 128 then some ([Char.ofNat n], rest) else none
  | 'u' :: '\x7b' :: rest =>
    let digits := (rest.takeWhile (· != '\x7d')).filter (· != '_')
    if digits.isEmpty || 6 < digits.length then none
    else
      ((hexNumber? digits).bind charOf?).map fun c =>
        ([c], (rest.dropWhile (· != '\x7d')).drop 1)
  | '\n' :: rest => some ([], rest.dropWhile isLineBlank)
  | '\r' :: '\n' :: rest => some ([], rest.dropWhile isLineBlank)
  | _ => none

/-- The first characters that a body stands for, and the rest of the body. The two characters that
end a line on some systems count as one. -/
def unit? : List Char → Option (List Char × List Char)
  | [] => none
  | '\\' :: rest => escape? rest
  | '\r' :: '\n' :: rest => some (['\n'], rest)
  | '\r' :: _ => none
  | c :: rest => some ([c], rest)

/-- The text that the body of a literal stands for. -/
def unescape? (cs : List Char) : Option (List Char) :=
  match unit? cs with
  | none => if cs.isEmpty then some [] else none
  | some (chars, rest) =>
    if rest.length < cs.length then (unescape? rest).map (chars ++ ·) else none
termination_by cs.length

/-- How a character is written in a literal: blanks other than a space and control characters, the
quote and the backslash are escaped. -/
def writeChar (c : Char) : List Char :=
  match c with
  | '\t' => ['\\', 't']
  | '\n' => ['\\', 'n']
  | '\r' => ['\\', 'r']
  | '\\' => ['\\', '\\']
  | '\x22' => ['\\', '\x22']
  | '\x00' => ['\\', '0']
  | c =>
    if c.toNat < 32 || (127 ≤ c.toNat && c.toNat < 160) || (isBlank c && c != ' ') then
      ['\\', 'u', '\x7b'] ++ Nat.toDigits 16 c.toNat ++ ['\x7d']
    else [c]

/-- The literal that stands for a text. -/
def quote (cs : List Char) : List Char :=
  ['\x22'] ++ cs.flatMap writeChar ++ ['\x22']

end EntityQuery.Derive
