import EntityQuery.Numeric.BinaryFormat

namespace EntityQuery

open Numeric

/-- A floating-point number of eight bytes, held as its word: two numbers are equal when their words
are. Every operation decodes its arguments to exact quotients and rounds once. -/
structure Binary64 where
  bits : UInt64
deriving DecidableEq, Repr

namespace Binary64

/-- The number with a sign and the word of a magnitude. -/
def ofWord (negative : Bool) (word : Nat) : Binary64 :=
  ⟨UInt64.ofNat (word + if negative then binary64.signWeight else 0)⟩

/-- The fields below the sign, as one number. -/
def word (x : Binary64) : Nat :=
  x.bits.toNat % binary64.signWeight

/-- Whether the sign bit is set. -/
def isNegative (x : Binary64) : Bool :=
  binary64.signWeight ≤ x.bits.toNat

/-- What the number stands for, apart from its sign. -/
def magnitude (x : Binary64) : Magnitude :=
  binary64.decode x.word

/-- Whether the number is neither infinite nor no number. -/
def isFinite (x : Binary64) : Bool :=
  match x.magnitude with
  | .finite _ _ => true
  | _ => false

/-- Positive infinity. -/
def infinity : Binary64 := ofWord false binary64.infinityWord

/-- The word that stands for no number. -/
def nan : Binary64 := ofWord false (binary64.infinityWord + Nat.pow 2 51)

/-- The number with its sign bit turned. -/
def neg (x : Binary64) : Binary64 :=
  ofWord (!x.isNegative) x.word

/-- The number nearest to a quotient of natural numbers with a sign. -/
def ofRatio (negative : Bool) (num den : Nat) : Binary64 :=
  ofWord negative (binary64.roundRatio num den)

/-- The number nearest to an integer. -/
def ofInt (n : Int) : Binary64 :=
  ofRatio (n < 0) n.natAbs 1

/-- The magnitude of a finite number as an exact quotient; zero for the other ones. -/
def ratio (x : Binary64) : Nat × Nat :=
  match x.magnitude with
  | .finite m e => (m * Nat.pow 2 e.toNat, Nat.pow 2 (-e).toNat)
  | _ => (0, 1)

/-- The sum of the magnitudes of two finite numbers. -/
def addMagnitudes (x y : Binary64) : Binary64 :=
  let (a, b) := x.ratio
  let (c, d) := y.ratio
  ofRatio false (a * d + c * b) (b * d)

/-- The product of the magnitudes of two finite numbers. -/
def mulMagnitudes (x y : Binary64) : Binary64 :=
  let (a, b) := x.ratio
  let (c, d) := y.ratio
  ofRatio false (a * c) (b * d)

/-- The quotient of the magnitudes of two finite numbers, the second one not zero. -/
def divMagnitudes (x y : Binary64) : Binary64 :=
  let (a, b) := x.ratio
  let (c, d) := y.ratio
  ofRatio false (a * d) (b * c)

/-- The magnitude of a finite number rounded to an integer, a half going up. -/
def roundMagnitude (x : Binary64) : Binary64 :=
  let (a, b) := x.ratio
  ofRatio false (divNearestUp a b) 1

/-- The integer part of a finite number, with its sign. -/
def truncate (x : Binary64) : Int :=
  let (a, b) := x.ratio
  if x.isNegative then -(a / b : Nat) else (a / b : Nat)

/-- The four-byte word nearest to the number. -/
def toBinary32 (x : Binary64) : UInt32 :=
  let sign := if x.isNegative then binary32.signWeight else 0
  let word :=
    match x.magnitude with
    | .finite _ _ => let (a, b) := x.ratio; binary32.roundRatio a b
    | .infinite => binary32.infinityWord
    | .notANumber =>
      -- the quiet bit is set and the fraction keeps its leading bits
      binary32.infinityWord + (x.word % Nat.pow 2 52 / Nat.pow 2 29 ||| Nat.pow 2 22)
  UInt32.ofNat (sign + word)

/-- The number that a four-byte word stands for. Every such number is one of eight bytes. -/
def ofBinary32 (bits : UInt32) : Binary64 :=
  let negative : Bool := binary32.signWeight ≤ bits.toNat
  let word := bits.toNat % binary32.signWeight
  match binary32.decode word with
  | .finite m e => ofRatio negative (m * Nat.pow 2 e.toNat) (Nat.pow 2 (-e).toNat)
  | .infinite => ofWord negative binary64.infinityWord
  | .notANumber =>
    ofWord negative
      (binary64.infinityWord + (word % Nat.pow 2 23 * Nat.pow 2 29 ||| Nat.pow 2 51))

end Binary64

end EntityQuery
