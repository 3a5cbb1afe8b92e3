import EntityQuery.Numeric.Decimal96
import EntityQuery.Wire.Bytes

namespace EntityQuery.Wire

open Numeric

/-- A decimal in groups of four digits, with the weight of the first group, a power of 10000. The
places are counted apart, so that zeros behind the point need not be written out. -/
structure Groups where
  /-- The power of 10000 by which the first group counts. -/
  weight : Int
  negative : Bool
  scale : Nat
  digits : List Nat
deriving DecidableEq, Repr

namespace Groups

/-- The groups of a natural number, the highest first. Zero has none. -/
def ofNat (n : Nat) : List Nat :=
  if n = 0 then [] else ofNat (n / 10000) ++ [n % 10000]
termination_by n
decreasing_by omega

/-- The groups without the zeros at their end. -/
def dropZeros (digits : List Nat) : List Nat :=
  (digits.reverse.dropWhile (· == 0)).reverse

/-- The groups of a decimal. The places are filled up to whole groups; zero groups at the end are
left out if they stand behind the point of a number of at least one. -/
def ofDecimal (d : Decimal96) : Groups :=
  if d.mantissa = 0 then ⟨0, false, 0, []⟩
  else
    let digits := ofNat (d.mantissa * Nat.pow 10 ((4 - d.scale % 4) % 4))
    let weight : Int := (digits.length : Int) - ((d.scale + 3) / 4 : Nat) - 1
    let whole := (weight + 1).toNat
    { weight
      negative := d.negative
      scale := d.scale
      digits :=
        if 0 ≤ weight then digits.take whole ++ dropZeros (digits.drop whole) else digits }

/-- The decimal nearest to `mantissa / 10 ^ scale` with as many places as there is room for, a half
going to the even neighbour. -/
def fitted? (mantissa scale : Nat) : Option Decimal96 :=
  (List.range (scale + 1)).findSome? fun cut =>
    Decimal96.ofParts? false (divNearestEven mantissa (Nat.pow 10 cut)) (scale - cut)

/-- The sum of a decimal without sign and `digits / 10 ^ places`. -/
def addFraction (d : Decimal96) (digits places : Nat) : Option Decimal96 :=
  let scale := max d.scale places
  fitted? (d.mantissa * Nat.pow 10 (scale - d.scale) + digits * Nat.pow 10 (scale - places)) scale

/-- The whole number of groups that `missing` zero groups follow. -/
def wholeOf? (digits : List Nat) (missing : Nat) : Option Decimal96 := do
  let whole ← digits.foldlM (fun n group => bounded? (10000 * n + group)) 0
  let power ← bounded? (Nat.pow 10000 missing)
  Decimal96.ofParts? false (whole * power) 0
where
  /-- A number for which 96 bits have room. -/
  bounded? (n : Nat) : Option Nat :=
    if n < Nat.pow 2 96 then some n else none

/-- Adds the groups behind the point, the first of which ends at the given place. What lies behind
the last possible place is rounded by its first group, a half going up. -/
def addFractions (d : Decimal96) (places : Nat) : List Nat → Option Decimal96
  | [] => some d
  | group :: rest =>
    if places ≤ Decimal96.maxScale then
      (addFraction d group places).bind fun d => addFractions d (places + 4) rest
    else if places = Decimal96.maxScale + 4 ∧ 5000 ≤ group then
      addFraction d 1 Decimal96.maxScale
    else some d

/-- The decimal of groups, with their places as far as there is room for them. -/
def toDecimal? (g : Groups) : Option Decimal96 := do
  let count := (g.weight + 1).toNat
  let whole ← wholeOf? (g.digits.take count) (count - g.digits.length)
  let sum ← addFractions whole (4 * ((-(g.weight + 1)).toNat + 1)) (g.digits.drop count)
  return { sum with negative := g.negative }.rescale g.scale

/-- The word that marks a negative number. -/
def negativeMark : Nat := 0x4000

/-- The bytes of groups: how many they are, the weight, the sign, the places, and the groups. -/
def toBytes (g : Groups) : Bytes :=
  bigEndian 2 g.digits.length ++ signedBytes 2 g.weight ++
    bigEndian 2 (if g.negative then negativeMark else 0) ++ bigEndian 2 g.scale ++
    g.digits.flatMap (bigEndian 2)

/-- Reads a run of bytes as a number of two-byte words. -/
def words? : Nat → Bytes → Option (List Nat)
  | 0, bytes => if bytes.isEmpty then some [] else none
  | count + 1, bytes => do
    let (word, rest) ← takeBytes? 2 bytes
    return ofBigEndian word :: (← words? count rest)

/-- Reads groups. A sign that marks infinity or what is no number is refused, and so are bytes
behind the last group. -/
def ofBytes? (bytes : Bytes) : Option Groups := do
  let (head, rest) ← takeBytes? 8 bytes
  let sign := ofBigEndian ((head.drop 4).take 2)
  if sign = 0 ∨ sign = negativeMark then
    return {
      weight := ofSignedBytes ((head.drop 2).take 2)
      negative := sign = negativeMark
      scale := ofBigEndian (head.drop 6)
      digits := ← words? (ofBigEndian (head.take 2)) rest }
  else none

end Groups

end EntityQuery.Wire
