import EntityQuery.Numeric.Decimal96

namespace EntityQuery.Decimal96

open Numeric

/-- Removes places one at a time, each with a half going up, while there are more than 28 of
them. A number that vanishes on the way is zero without places. -/
def cutPlaces (mantissa : Nat) : Nat → Nat × Nat
  | 0 => (mantissa, 0)
  | scale + 1 =>
    if scale + 1 ≤ maxScale then (mantissa, scale + 1)
    else if mantissa / 10 = 0 then (0, 0)
    else cutPlaces (divNearestUp mantissa 10) scale

/-- Removes places one at a time, each with a half going up, while the mantissa has more bits
than the fraction of a floating-point number. -/
def cutPrecision (mantissa : Nat) : Nat → Nat × Nat
  | 0 => (mantissa, 0)
  | scale + 1 =>
    if mantissa < Nat.pow 2 52 then (mantissa, scale + 1)
    else cutPrecision (divNearestUp mantissa 10) scale

/-- Divides by two as long as that is exact and there are halves to take. -/
def halve (m : Nat) : Nat → Nat × Nat
  | 0 => (m, 0)
  | k + 1 => if m % 2 = 0 then halve (m / 2) k else (m, k + 1)

/-- The decimal of a floating-point number. A whole number is exact; any other is written out in
full and then shortened to the precision it had. -/
def ofBinary64? (x : Binary64) : Option Decimal96 :=
  match x.magnitude with
  | .finite m e =>
    if 0 ≤ e then ofParts? x.isNegative (m * Nat.pow 2 e.toNat) 0
    else if m = 0 then some (zero x.isNegative)
    else
      let (odd, twos) := halve m (-e).toNat
      let (wide, wideScale) := cutPlaces (odd * Nat.pow 5 twos) twos
      let (narrow, narrowScale) := cutPrecision wide wideScale
      let (mantissa, scale) := stripZeros narrow narrowScale
      ofParts? x.isNegative mantissa scale
  | _ => none

/-- The floating-point number of a decimal: the whole part plus the fraction, each rounded, then
rounded once more to the places of the decimal. -/
def toBinary64 (d : Decimal96) : Binary64 :=
  let sign := fun x : Binary64 => if d.negative then x.neg else x
  if d.scale = 0 then Binary64.ofInt (if d.negative then -d.mantissa else d.mantissa)
  else
    let unit : Nat := Nat.pow 10 d.scale
    let grid := Binary64.ofInt unit
    let whole := Binary64.ofInt (d.mantissa / unit : Nat)
    let fraction := (Binary64.ofInt (d.mantissa % unit : Nat)).divMagnitudes grid
    if d.mantissa % unit = 0 then sign whole
    else
      let scaled := (whole.addMagnitudes fraction).mulMagnitudes grid
      sign (scaled.roundMagnitude.divMagnitudes grid)

end EntityQuery.Decimal96
