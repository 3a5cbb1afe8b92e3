import EntityQuery.Numeric.Shortest
import EntityQuery.Text.Basic

namespace EntityQuery.Binary64

open Numeric

/-- The number nearest to `m * 10 ^ e`. Exponents far outside the format are not multiplied
out. -/
def ofDecimal (negative : Bool) (m : Nat) (e : Int) : Binary64 :=
  if m = 0 then ofWord negative 0
  else
    let top := (Nat.log2 m : Int) * 30103 / 100000 + e
    if 400 < top then ofWord negative binary64.infinityWord
    else if top < -400 then ofWord negative 0
    else ofRatio negative (m * Nat.pow 10 e.toNat) (Nat.pow 10 (-e).toNat)

/-- Reads an unsigned decimal: digits with at most one point, at least one digit in all, and an
optional exponent. -/
def unsigned? (negative : Bool) (cs : List Char) : Option Binary64 :=
  let whole := cs.takeWhile Char.isDigit
  let afterWhole := cs.dropWhile Char.isDigit
  let (fraction, afterFraction) :=
    match afterWhole with
    | '.' :: rest => (rest.takeWhile Char.isDigit, rest.dropWhile Char.isDigit)
    | _ => ([], afterWhole)
  if whole.isEmpty && fraction.isEmpty then none
  else
    let m := Text.digitsValue (whole ++ fraction)
    match afterFraction with
    | [] => some (ofDecimal negative m (-fraction.length))
    | c :: rest =>
      if c = 'e' ∨ c = 'E' then
        (Text.integer? rest).map fun e => ofDecimal negative m (e - fraction.length)
      else none

/-- Reads a floating-point number: an optional sign followed by `inf`, `infinity`, `nan` or a
decimal with an optional exponent, which is rounded once. -/
def ofText? (s : String) : Option Binary64 :=
  let (negative, cs) :=
    match s.toList with
    | '-' :: rest => (true, rest)
    | '+' :: rest => (false, rest)
    | cs => (false, cs)
  let word := String.ofList (cs.map Char.toLower)
  if word == "inf" || word == "infinity" then some (ofWord negative binary64.infinityWord)
  else if word == "nan" then some (ofWord negative nan.word)
  else unsigned? negative cs

/-- How a decimal is laid out. With `decimalPoint` places before its point, a number is written
positionally when `decimalPoint` lies between the bounds, and with an exponent otherwise. -/
structure Style where
  tie : TieRule
  least : Int
  greatest : Int
  keepPoint : Bool
deriving DecidableEq, Repr

/-- The plain style: always positional, whole numbers without a point, and of two equally near
shortest texts the greater one. -/
def plain : Style := ⟨.up, -400, 400, false⟩

/-- The positional text of `digits * 10 ^ exponent`, where `decimalPoint` digits of it, or that
many zeros, stand before the point. -/
def positional (style : Style) (digits : List Char) (decimalPoint : Int) : List Char :=
  if decimalPoint ≤ 0 then '0' :: '.' :: (List.replicate (-decimalPoint).toNat '0' ++ digits)
  else
    let n := decimalPoint.toNat
    if n < digits.length then digits.take n ++ '.' :: digits.drop n
    else
      digits ++ List.replicate (n - digits.length) '0' ++
        if style.keepPoint then ['.', '0'] else []

/-- The text with an exponent: one digit before the point, and the exponent with its sign. -/
def scientific (digits : List Char) (decimalPoint : Int) : List Char :=
  let exponent := decimalPoint - 1
  let sign := if exponent < 0 then '-' else '+'
  digits.take 1 ++ (if digits.length = 1 then [] else '.' :: digits.drop 1) ++
    'e' :: sign :: (toString exponent.natAbs).toList

/-- The text of a positive decimal. -/
def layout (style : Style) (d : DecimalDigits) : List Char :=
  let digits := (toString d.digits).toList
  let decimalPoint := (digits.length : Int) + d.exponent
  if style.least ≤ decimalPoint ∧ decimalPoint ≤ style.greatest then
    positional style digits decimalPoint
  else scientific digits decimalPoint

/-- The text of a number in a style, with the fewest digits that read back as the number. -/
def format (style : Style) (x : Binary64) : String :=
  let sign := if x.isNegative then "-" else ""
  match x.magnitude with
  | .notANumber => "NaN"
  | .infinite => sign ++ "inf"
  | .finite m e =>
    if m = 0 then sign ++ if style.keepPoint then "0.0" else "0"
    else sign ++ String.ofList (layout style (shortest style.tie m e))

/-- The text of a number in the plain style. -/
def toText (x : Binary64) : String :=
  x.format plain

end EntityQuery.Binary64
