import EntityQuery.Numeric.Binary64

namespace EntityQuery.Numeric

/-- Which of two equally near grid points is taken. -/
inductive TieRule
  | up
  | even
deriving DecidableEq, Repr

/-- A positive number `digits * 10 ^ exponent`. -/
structure DecimalDigits where
  digits : Nat
  exponent : Int
deriving DecidableEq, Repr

/-- The interval of reals around a number that read back as it, in quarters of the unit of its last
place. It lies between the midpoints to the two neighbours, which belong to it when the significand
of the number is even. -/
structure ReadBack where
  low : Nat
  value : Nat
  high : Nat
  closed : Bool

/-- The interval of the number `m * 2 ^ e`. Below a power of two the neighbour is half as far
away as above it. -/
def ReadBack.of (m : Nat) (e : Int) : ReadBack where
  low := if m = Nat.pow 2 52 ∧ binary64.minExponent < e then 4 * m - 1 else 4 * m - 2
  value := 4 * m
  high := 4 * m + 2
  closed := m % 2 = 0

/-- Whether the grid point `c * a / b` lies in the interval. -/
def ReadBack.contains (r : ReadBack) (a b c : Nat) : Bool :=
  if r.closed then r.low * b ≤ c * a && c * a ≤ r.high * b
  else r.low * b < c * a && c * a < r.high * b

/-- The multiple of `a / b` next to the value that reads back, if there is one. -/
def ReadBack.gridPoint? (r : ReadBack) (tie : TieRule) (a b : Nat) : Option Nat :=
  let below := r.value * b / a
  let rest := r.value * b % a
  match r.contains a b below, r.contains a b (below + 1) with
  | true, false => some below
  | false, true => some (below + 1)
  | false, false => none
  | true, true =>
    if 2 * rest < a then some below
    else if a < 2 * rest then some (below + 1)
    else if tie = .even ∧ below % 2 = 0 then some below
    else some (below + 1)

/-- Tries the grids `10 ^ p`, `10 ^ (p - 1)`, … for a number whose quarter unit is `2 ^ q`. -/
def ReadBack.firstGrid (r : ReadBack) (tie : TieRule) (q : Int) : Nat → Int → DecimalDigits
  | 0, p => ⟨r.value, p⟩
  | fuel + 1, p =>
    let a := Nat.pow 10 p.toNat * Nat.pow 2 (-q).toNat
    let b := Nat.pow 10 (-p).toNat * Nat.pow 2 q.toNat
    match r.gridPoint? tie a b with
    | some c => ⟨c, p⟩
    | none => r.firstGrid tie q fuel (p - 1)

/-- The shortest decimal of the positive number `m * 2 ^ e`. The coarsest grid of decimals with a
point in the interval gives the fewest digits, and of the two grid points around the number the
nearer one in the interval is taken. The first grid tried is coarser than the number, and a grid
twenty places below it is finer than the interval. -/
def shortest (tie : TieRule) (m : Nat) (e : Int) : DecimalDigits :=
  let start := ((Nat.log2 m : Int) + e + 1) * 30103 / 100000 + 1
  (ReadBack.of m e).firstGrid tie (e - 2) 25 start

end EntityQuery.Numeric
