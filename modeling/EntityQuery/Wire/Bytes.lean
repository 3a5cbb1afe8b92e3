namespace EntityQuery.Wire

/-- A run of bytes. -/
abbrev Bytes := List UInt8

/-- The lowest bytes of a number, as many as the first argument says, the highest of them first. -/
def bigEndian : Nat → Nat → Bytes
  | 0, _ => []
  | width + 1, n => UInt8.ofNat (n / Nat.pow 256 width) :: bigEndian width n

def ofBigEndian (bytes : Bytes) : Nat :=
  bytes.foldl (fun n b => 256 * n + b.toNat) 0

/-- A signed number in a width, as its remainder modulo the number of words of the width. -/
def signedBytes (width : Nat) (n : Int) : Bytes :=
  bigEndian width (n % Nat.pow 256 width).toNat

def ofSignedBytes (bytes : Bytes) : Int :=
  let n := ofBigEndian bytes
  if 2 * n < Nat.pow 256 bytes.length then n else n - Nat.pow 256 bytes.length

/-- The first bytes of a run and the rest, if there are so many. -/
def takeBytes? (count : Nat) (bytes : Bytes) : Option (Bytes × Bytes) :=
  if count ≤ bytes.length then some (bytes.take count, bytes.drop count) else none

/-- Bytes of exactly the given number. -/
def ofWidth? (width : Nat) (bytes : Bytes) : Option Bytes :=
  if bytes.length = width then some bytes else none

def textBytes (s : String) : Bytes :=
  s.toUTF8.data.toList

/-- The text of bytes that are the encoding of one. -/
def ofTextBytes? (bytes : Bytes) : Option String :=
  String.fromUTF8? ⟨bytes.toArray⟩

@[simp]
theorem length_bigEndian (width n : Nat) : (bigEndian width n).length = width := by
  induction width with
  | zero => rfl
  | succ width ih => simp [bigEndian, ih]

@[simp]
theorem length_signedBytes (width : Nat) (n : Int) : (signedBytes width n).length = width := by
  simp [signedBytes]

/-- Reading bytes behind the number `start` appends their number to it. -/
theorem foldl_bigEndian (width n start : Nat) :
    (bigEndian width n).foldl (fun n b => 256 * n + b.toNat) start =
      Nat.pow 256 width * start + n % Nat.pow 256 width := by
  induction width generalizing start with
  | zero => simp [bigEndian, Nat.mod_one]
  | succ width ih =>
    have hsplit : n % Nat.pow 256 (width + 1) =
        n % Nat.pow 256 width + Nat.pow 256 width * (n / Nat.pow 256 width % 256) := by
      rw [Nat.pow_eq, Nat.pow_eq, Nat.pow_succ, Nat.mod_mul]
    have hbyte : (UInt8.ofNat (n / Nat.pow 256 width)).toNat = n / Nat.pow 256 width % 256 := by
      simp [UInt8.toNat_ofNat']
    rw [bigEndian, List.foldl_cons, ih, hsplit, hbyte, Nat.mul_add, Nat.pow_eq, Nat.pow_eq,
      Nat.pow_succ]
    ac_rfl

theorem ofBigEndian_bigEndian {width n : Nat} (h : n < Nat.pow 256 width) :
    ofBigEndian (bigEndian width n) = n := by
  rw [ofBigEndian, foldl_bigEndian, Nat.mod_eq_of_lt h]
  simp

/-- A signed number that fits its width is read back. -/
theorem ofSignedBytes_signedBytes {width : Nat} {n : Int}
    (hlow : -Nat.pow 256 width ≤ 2 * n) (hhigh : 2 * n < Nat.pow 256 width) :
    ofSignedBytes (signedBytes width n) = n := by
  have hpos : (0 : Int) < (Nat.pow 256 width : Nat) := by
    exact_mod_cast Nat.pow_pos (by decide)
  generalize hw : (Nat.pow 256 width : Nat) = w at *
  have hnonneg := Int.emod_nonneg n (Int.ne_of_gt hpos)
  have hlt := Int.emod_lt_of_pos n hpos
  have hread : ofBigEndian (signedBytes width n) = (n % (w : Int)).toNat := by
    rw [signedBytes, hw]
    exact ofBigEndian_bigEndian (by omega)
  rw [ofSignedBytes, hread, length_signedBytes, hw]
  rcases Int.lt_or_le n 0 with hneg | hn
  · have hmod : n % (w : Int) = n + w := by
      rw [← Int.add_emod_right, Int.emod_eq_of_lt (by omega) (by omega)]
    rw [hmod]
    split <;> omega
  · have hmod : n % (w : Int) = n := Int.emod_eq_of_lt hn (by omega)
    rw [hmod]
    split <;> omega

theorem ofTextBytes?_textBytes (s : String) : ofTextBytes? (textBytes s) = some s := by
  simp only [ofTextBytes?, textBytes, String.fromUTF8?]
  exact (dif_pos s.isValidUTF8).trans rfl

end EntityQuery.Wire
