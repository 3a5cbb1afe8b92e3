import EntityQuery.Numeric.Decimal96

namespace EntityQuery.Decimal96

open Numeric Text

/-- The number whose sign is dropped when it is zero. -/
private def finish (negative : Bool) (mantissa scale : Nat) : Option Decimal96 :=
  ofParts? (negative && mantissa != 0) mantissa scale

/-- The characters of a run of places: digits and the separators between them. -/
def isPlace (c : Char) : Bool :=
  c.isDigit || c == '_'

/-- Ends a number at the places that have no room, of which `c` is the first one. It is rounded, and
a separator counts as zero; the places behind it are dropped. Nothing but places may stand there. -/
def roundOff (negative : Bool) (mantissa scale : Nat) (c : Char) (rest : List Char) :
    Option Decimal96 :=
  if !(c :: rest).all isPlace then none
  else if c = '_' ∨ digitValue c < 5 then finish negative mantissa scale
  else if mantissa + 1 < Nat.pow 2 96 then finish negative (mantissa + 1) scale
  else if scale = 0 then none
  else finish negative ((mantissa + 5) / 10) (scale - 1)

/-- Reads the characters behind the sign: digits with at most one point, and underscores behind the
first digit. `point` tells whether the point was read, `started` whether a digit was. The first
place that finds no room is rounded, and the places behind it are dropped. -/
def readFrom (negative : Bool) (mantissa scale : Nat) (point started : Bool) :
    List Char → Option Decimal96
  | [] => if started then finish negative mantissa scale else none
  | c :: rest =>
    if c.isDigit then
      let wider := 10 * mantissa + digitValue c
      if wider < Nat.pow 2 96 then
        let places := if point then scale + 1 else scale
        match rest with
        | [] => finish negative wider places
        | next :: more =>
          if maxScale ≤ places then roundOff negative wider places next more
          else readFrom negative wider places point true rest
      else if point then roundOff negative mantissa scale c rest
      else none
    else if c = '.' ∧ !point then readFrom negative mantissa scale true started rest
    else if c = '_' ∧ started then readFrom negative mantissa scale point true rest
    else none

/-- Reads a decimal without an exponent. -/
def ofPlain? (cs : List Char) : Option Decimal96 :=
  match cs with
  | '-' :: rest => readFrom true 0 0 false false rest
  | '+' :: rest => readFrom false 0 0 false false rest
  | _ => readFrom false 0 0 false false cs

/-- A decimal times a power of ten. While places are left the power only moves the point;
otherwise the number is whole and has to fit without places. -/
def shiftUp (d : Decimal96) (power : Nat) : Option Decimal96 :=
  if power ≤ d.scale then ofParts? d.negative d.mantissa (d.scale - power)
  else if maxScale < power then none
  else if d.mantissa = 0 then some (zero false)
  else ofParts? d.negative (d.mantissa * Nat.pow 10 (power - d.scale)) 0

/-- Reads a decimal with an exponent: a plain decimal, `e` or `E`, and a signed number of at most
28 places. -/
def ofScientific? (cs : List Char) : Option Decimal96 :=
  let isMark := fun c => c == 'e' || c == 'E'
  match ofPlain? (cs.takeWhile fun c => !isMark c), cs.dropWhile fun c => !isMark c with
  | some d, _ :: '-' :: power =>
    (natural? power).bind fun n =>
      if n ≤ maxScale then ofParts? d.negative d.mantissa (d.scale + n) else none
  | some d, _ :: power => (natural? power).bind d.shiftUp
  | _, _ => none

/-- Reads a decimal. A text that is none without an exponent may still be one with an exponent. -/
def ofText? (s : String) : Option Decimal96 :=
  (ofPlain? s.toList).or (ofScientific? s.toList)

end EntityQuery.Decimal96
