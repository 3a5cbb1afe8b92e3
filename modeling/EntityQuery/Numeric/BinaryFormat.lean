namespace EntityQuery.Numeric

/-- The natural number nearest to a quotient. A half goes to the even neighbour. -/
def divNearestEven (n d : Nat) : Nat :=
  let q := n / d
  let r := n % d
  if 2 * r < d then q else if d < 2 * r then q + 1 else if q % 2 = 0 then q else q + 1

/-- The natural number nearest to a quotient. A half goes up. -/
def divNearestUp (n d : Nat) : Nat :=
  (2 * n + d) / (2 * d)

/-- A binary interchange format: a word holds a sign, a biased exponent and a fraction. The format
has the widths of the two fields below the sign. -/
structure BinaryFormat where
  fractionBits : Nat
  exponentBits : Nat
deriving DecidableEq, Repr

/-- The format of eight bytes. -/
def binary64 : BinaryFormat := ⟨52, 11⟩

/-- The format of four bytes. -/
def binary32 : BinaryFormat := ⟨23, 8⟩

/-- What the fields below the sign stand for: `significand * 2 ^ exponent`, infinity, or no
number. -/
inductive Magnitude
  | finite (significand : Nat) (exponent : Int)
  | infinite
  | notANumber
deriving DecidableEq, Repr

namespace BinaryFormat

variable (f : BinaryFormat)

/-- The exponent of the last place of the smallest numbers. -/
def minExponent : Int :=
  2 - Nat.pow 2 (f.exponentBits - 1) - f.fractionBits

/-- The exponent field that marks infinity and what is no number. -/
def topField : Nat :=
  Nat.pow 2 f.exponentBits - 1

def infinityWord : Nat :=
  f.topField * Nat.pow 2 f.fractionBits

/-- The value of the sign bit. -/
def signWeight : Nat :=
  Nat.pow 2 (f.fractionBits + f.exponentBits)

/-- Reads the fields below the sign. -/
def decode (word : Nat) : Magnitude :=
  let fraction := word % Nat.pow 2 f.fractionBits
  let field := word / Nat.pow 2 f.fractionBits % Nat.pow 2 f.exponentBits
  if field = f.topField then if fraction = 0 then .infinite else .notANumber
  else if field = 0 then .finite fraction f.minExponent
  else .finite (Nat.pow 2 f.fractionBits + fraction) (f.minExponent + (field - 1 : Nat))

/-- The base-two logarithm of a positive quotient, rounded down. -/
def floorLog2 (num den : Nat) : Int :=
  let guess : Int := (Nat.log2 num : Int) - Nat.log2 den
  if den * Nat.pow 2 guess.toNat ≤ num * Nat.pow 2 (-guess).toNat then guess else guess - 1

/-- The word, without sign, of the number nearest to a quotient, a half going to the even
neighbour. Quotients beyond the largest number give infinity. -/
def roundRatio (num den : Nat) : Nat :=
  if num = 0 then 0
  else
    let exponent := max (floorLog2 num den - f.fractionBits) f.minExponent
    let significand :=
      divNearestEven (num * Nat.pow 2 (-exponent).toNat) (den * Nat.pow 2 exponent.toNat)
    let word := (exponent - f.minExponent).toNat * Nat.pow 2 f.fractionBits + significand
    min word f.infinityWord

end BinaryFormat

end EntityQuery.Numeric
