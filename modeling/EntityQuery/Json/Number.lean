import EntityQuery.Json
import EntityQuery.Text.Basic

namespace EntityQuery.Json

open Text

/-- A number and the text behind it. -/
abbrev NumberResult := Option (JsonNumber × List Char)

/-- The first number that does not fit the word in which digits are collected. -/
def wordLimit : Nat := Nat.pow 2 64

def powerOfTen (n : Nat) : Binary64 :=
  Binary64.ofInt (Nat.pow 10 n)

/-- Scales a number by a power of ten in steps of at most `1e308`, starting with the largest step.
A number that leaves the range upwards is refused. -/
def scale (x : Binary64) (exponent : Int) : Nat → Option Binary64
  | 0 => some x
  | fuel + 1 =>
    if exponent.natAbs ≤ 308 then
      if 0 ≤ exponent then
        let y := x.mulMagnitudes (powerOfTen exponent.natAbs)
        if y.isFinite then some y else none
      else some (x.divMagnitudes (powerOfTen exponent.natAbs))
    else if x.word = 0 then some x
    else if 0 ≤ exponent then none
    else scale (x.divMagnitudes (powerOfTen 308)) (exponent + 308) fuel

/-- The floating-point number `m * 10 ^ exponent` with a sign. The digits were collected in a word
of eight bytes, which is multiplied or divided by powers of ten with a rounding at each step. Three
steps of `1e308` bring every word of digits to zero. -/
def ofParts (negative : Bool) (m : Nat) (exponent : Int) (rest : List Char) : NumberResult :=
  (scale (Binary64.ofInt m) exponent 4).map fun x =>
    (.float (if negative then x.neg else x), rest)

/-- The exponents that are told apart are below this bound. -/
def exponentLimit : Nat := Nat.pow 2 31

/-- Reads the exponent behind `e` and ends the number. An exponent beyond the limit is refused
when it is positive and gives zero when it is negative. -/
def readExponent (negative : Bool) (m : Nat) (exponent : Int) (cs : List Char) : NumberResult :=
  let (down, cs) :=
    match cs with
    | '+' :: rest => (false, rest)
    | '-' :: rest => (true, rest)
    | _ => (false, cs)
  let digits := cs.takeWhile Char.isDigit
  let rest := cs.dropWhile Char.isDigit
  let power := digitsValue digits
  if digits.isEmpty then none
  else if exponentLimit ≤ power then
    if m ≠ 0 ∧ !down then none else some (.float (Binary64.ofWord negative 0), rest)
  else ofParts negative m (if down then exponent - power else exponent + power) rest

/-- Ends a number behind its digits: an exponent may follow. -/
def readTail (negative : Bool) (m : Nat) (exponent : Int) (cs : List Char) : NumberResult :=
  match cs with
  | 'e' :: rest | 'E' :: rest => readExponent negative m exponent rest
  | _ => ofParts negative m exponent cs

/-- Reads the digits behind the point. The first digit that does not fit the word ends the
collection; the digits from there on are dropped. -/
def readFraction (negative : Bool) (m : Nat) (exponent : Int) : List Char → NumberResult
  | [] => readTail negative m exponent []
  | c :: rest =>
    if c.isDigit then
      let wider := 10 * m + digitValue c
      if wider < wordLimit then readFraction negative wider (exponent - 1) rest
      else readTail negative m exponent (rest.dropWhile Char.isDigit)
    else readTail negative m exponent (c :: rest)

/-- Reads what follows the digits before the point: a fraction, an exponent, or neither. -/
def readPoint (negative : Bool) (m : Nat) (exponent : Int) (cs : List Char) : NumberResult :=
  match cs with
  | '.' :: rest =>
    if (rest.takeWhile Char.isDigit).isEmpty then none
    else readFraction negative m exponent rest
  | _ => readTail negative m exponent cs

/-- An integer that fits eight bytes, with the sign of zero kept by a floating-point number. -/
def integer (negative : Bool) (m : Nat) : JsonNumber :=
  if !negative then .int m
  else if m = 0 ∨ Nat.pow 2 63 < m then .float (Binary64.ofInt m).neg
  else .int (-m)

/-- Reads the digits before the point into a word. Digits that do not fit move the point. -/
def readWhole (negative : Bool) (m : Nat) : List Char → NumberResult
  | [] => some (integer negative m, [])
  | c :: rest =>
    if c.isDigit then
      let wider := 10 * m + digitValue c
      if wider < wordLimit then readWhole negative wider rest
      else
        let extra := (c :: rest).takeWhile Char.isDigit
        readPoint negative m extra.length ((c :: rest).dropWhile Char.isDigit)
    else if c = '.' ∨ c = 'e' ∨ c = 'E' then readPoint negative m 0 (c :: rest)
    else some (integer negative m, c :: rest)

/-- Reads a number behind its sign. A leading zero stands alone. -/
def readUnsigned (negative : Bool) (cs : List Char) : NumberResult :=
  match cs with
  | '0' :: d :: rest => if d.isDigit then none else readWhole negative 0 (d :: rest)
  | c :: _ => if c.isDigit then readWhole negative 0 cs else none
  | [] => none

def readNumber (cs : List Char) : NumberResult :=
  match cs with
  | '-' :: rest => readUnsigned true rest
  | _ => readUnsigned false cs

end EntityQuery.Json
