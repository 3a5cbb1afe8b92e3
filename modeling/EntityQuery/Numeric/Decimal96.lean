import EntityQuery.Numeric.Binary64
import EntityQuery.Numeric.Integer

namespace EntityQuery

open Numeric

/-- The number `mantissa / 10 ^ scale` with a sign, where the mantissa has 96 bits. The number of
places is part of the number, so `1.50` and `1.5` differ, and so is the sign of zero. -/
structure Decimal96 where
  negative : Bool
  mantissa : Nat
  scale : Nat
  mantissa_lt : mantissa < Nat.pow 2 96 := by decide
  scale_le : scale ≤ 28 := by decide
deriving DecidableEq, Repr

namespace Decimal96

/-- The largest number of places. -/
def maxScale : Nat := 28

/-- The number of the given parts, if they fit. -/
def ofParts? (negative : Bool) (mantissa scale : Nat) : Option Decimal96 :=
  if hm : mantissa < Nat.pow 2 96 then
    if hs : scale ≤ 28 then some ⟨negative, mantissa, scale, hm, hs⟩ else none
  else none

/-- Zero without places, with the given sign. -/
def zero (negative : Bool) : Decimal96 := ⟨negative, 0, 0, by decide, by decide⟩

/-- An eight-byte integer as a decimal without places. -/
def ofInt64 (v : Int64) : Decimal96 where
  negative := v.toInt < 0
  mantissa := v.toInt.natAbs
  scale := 0
  mantissa_lt := by
    have hle := Int64.le_toInt v
    have hlt := Int64.toInt_lt v
    rw [Nat.pow_eq]
    omega

/-- The integer part, with its sign. -/
def truncate (d : Decimal96) : Int :=
  let whole := d.mantissa / Nat.pow 10 d.scale
  if d.negative then -(whole : Int) else whole

/-- Whether all places are zero. -/
def isWhole (d : Decimal96) : Bool :=
  d.mantissa % Nat.pow 10 d.scale == 0

/-- The integer part as an eight-byte integer, if it fits. -/
def toInt64? (d : Decimal96) : Option Int64 :=
  int64? d.truncate

/-- The text of a number: its mantissa with the point at its scale. -/
def toText (d : Decimal96) : String :=
  let digits := (toString d.mantissa).toList
  let padded := List.replicate (d.scale + 1 - digits.length) '0' ++ digits
  let point := padded.length - d.scale
  let body :=
    if d.scale = 0 then padded else padded.take point ++ '.' :: padded.drop point
  String.ofList (if d.negative then '-' :: body else body)

/-- Removes zeros from the end of the places. -/
def stripZeros (mantissa : Nat) : Nat → Nat × Nat
  | 0 => (mantissa, 0)
  | scale + 1 =>
    if mantissa % 10 = 0 then stripZeros (mantissa / 10) scale else (mantissa, scale + 1)

/-- Changes the number of places, to at most 28. Places are added as long as the mantissa has
room, and removed with a half going up on the last one. -/
def rescale (d : Decimal96) (places : Nat) : Decimal96 :=
  let target := min places maxScale
  if target ≤ d.scale then
    (ofParts? d.negative (divNearestUp d.mantissa (Nat.pow 10 (d.scale - target))) target).getD d
  else
    widen d (target - d.scale)
where
  widen (d : Decimal96) : Nat → Decimal96
    | 0 => d
    | room + 1 =>
      match ofParts? d.negative (10 * d.mantissa) (d.scale + 1) with
      | some wider => widen wider room
      | none => d

end Decimal96

end EntityQuery
