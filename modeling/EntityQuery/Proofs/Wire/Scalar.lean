import EntityQuery.Proofs.Wire.Instant
import EntityQuery.Proofs.Wire.Width
import EntityQuery.Wire.Cell

namespace EntityQuery.Wire

open Numeric

variable {type : NativeType} {v w : Value} {width : Nat}

/-! ### Numbers -/

theorem ofWidth?_signedBytes (width : Nat) (n : Int) :
    ofWidth? width (signedBytes width n) = some (signedBytes width n) :=
  if_pos (length_signedBytes width n)

/-- What is read from a number that its width can hold is read from the number itself. -/
theorem ofWidth?_bind_ofSignedBytes {α : Type} (read : Int → Option α) {n : Int}
    (h : 2 * n.natAbs < Nat.pow 256 width) :
    ((ofWidth? width (signedBytes width n)).bind fun bytes => read (ofSignedBytes bytes)) =
      read n := by
  rw [ofWidth?_signedBytes, Option.bind_some,
    ofSignedBytes_signedBytes (by omega) (by omega)]

theorem two_mul_pow (hwidth : 0 < width) :
    2 * Nat.pow 2 (8 * width - 1) = Nat.pow 256 width := by
  calc
    2 * Nat.pow 2 (8 * width - 1) = Nat.pow 2 (8 * width - 1 + 1) := by
      rw [Nat.pow_eq, Nat.pow_eq, Nat.pow_succ, Nat.mul_comm]
    _ = Nat.pow 2 (8 * width) := by rw [Nat.sub_add_cancel (by omega)]
    _ = Nat.pow 256 width := by rw [Nat.pow_eq, Nat.pow_eq, Nat.pow_mul]

theorem fits_iff {bits : Nat} {n : Int} :
    fits bits n ↔ -Nat.pow 2 (bits - 1) ≤ n ∧ n < Nat.pow 2 (bits - 1) := by
  simp only [fits, Bool.and_eq_true, decide_eq_true_eq]

theorem wholeBytes_of_fits {n : Int64} (h : fits (8 * width) n.toInt) :
    wholeBytes width n = .ok (signedBytes width n.toInt) :=
  if_pos h

/-- A whole number is refused in a width exactly if it does not fit. -/
theorem wholeBytes_isOk_iff {n : Int64} :
    (∃ bytes, wholeBytes width n = .ok bytes) ↔ fits (8 * width) n.toInt := by
  constructor
  · rintro ⟨bytes, hbytes⟩
    rw [wholeBytes] at hbytes
    split at hbytes
    · assumption
    · cases hbytes
  · exact fun h => ⟨_, wholeBytes_of_fits h⟩

/-- A whole number that was written is read back. -/
theorem ofWidth?_map_longWhole (hwidth : 0 < width) {n : Int64} {bytes : Bytes}
    (h : wholeBytes width n = .ok bytes) :
    (ofWidth? width bytes).map longWhole = some (.int n) := by
  have hfits := wholeBytes_isOk_iff.1 ⟨bytes, h⟩
  obtain ⟨hlow, hhigh⟩ := fits_iff.1 hfits
  have hpow := two_mul_pow hwidth
  rw [wholeBytes_of_fits hfits] at h
  cases h
  rw [ofWidth?_signedBytes, Option.map_some, longWhole,
    ofSignedBytes_signedBytes (by omega) (by omega), Int64.ofInt_toInt]

/-! ### Dates and times -/

/-- A column of dates reads a date from its number of days. -/
theorem readNative?_dayNumber (d : Date) :
    readNative? .date (signedBytes 4 (dayNumber d)) = some (.date d) := by
  rw [readNative?, ofWidth?_bind_ofSignedBytes ofDayNumber? (two_mul_dayNumber_lt d),
    ofDayNumber?_dayNumber]
  rfl

/-- A column of times reads a time from its microseconds. -/
theorem readNative?_timeMicros {t : Time} (ht : t.isWholeMicros) :
    readNative? .time (signedBytes 8 (timeMicros t)) = some (.time t) := by
  rw [readNative?, ofWidth?_bind_ofSignedBytes ofTimeMicros? (two_mul_timeMicros_lt t),
    ofTimeMicros?_timeMicros ht]
  rfl

/-- Both columns of instants read an instant from its microseconds. -/
theorem readNative?_instantMicros (htype : type = .timestamp ∨ type = .timestamptz)
    {dt : DateTime} (hdt : dt.time.isWholeMicros) :
    readNative? type (signedBytes 8 (instantMicros dt)) = some (.dateTime dt) := by
  have hread := ofWidth?_bind_ofSignedBytes ofInstantMicros? (two_mul_instantMicros_lt hdt)
  rw [ofInstantMicros?_instantMicros hdt] at hread
  rcases htype with rfl | rfl
  · rw [readNative?, hread]
    rfl
  · rw [readNative?, hread]
    rfl

/-- An instant in the form of a type that takes instants. -/
theorem nativePayload_of_takeInstant (htype : type = .timestamp ∨ type = .timestamptz)
    {dt : DateTime} (h : type.takeInstant v = .ok dt) :
    nativePayload type v = .ok (signedBytes 8 (instantMicros dt)) := by
  have hpayload : nativePayload type v =
      (type.takeInstant v).map fun dt => signedBytes 8 (instantMicros dt) := by
    rcases htype with rfl | rfl
    · rfl
    · rfl
  rw [hpayload, h]
  rfl

/-! ### Texts -/

/-- A column of texts takes every value by its text. -/
theorem nativePayload_of_isText (htype : type.isText) (v : Value) :
    nativePayload type v = .ok (textBytes v.toText) := by
  cases type with
  | text => rfl
  | varchar => rfl
  | bpchar => rfl
  | name => rfl
  | unknown => rfl
  | _ => cases htype

/-- It reads that text. -/
theorem readNative?_textBytes (htype : type.isText) (s : String) :
    readNative? type (textBytes s) = some (.string s) := by
  have hread : readNative? type (textBytes s) = (ofTextBytes? (textBytes s)).map .string := by
    cases type with
    | text => rfl
    | varchar => rfl
    | bpchar => rfl
    | name => rfl
    | unknown => rfl
    | _ => cases htype
  rw [hread, ofTextBytes?_textBytes]
  rfl

/-! ### Columns -/

/-- As what a column of a type gives back a value that it took. -/
inductive ReadsAs : NativeType → Value → Value → Prop
  | bool (b : Bool) : ReadsAs .bool (.bool b) (.bool b)
  | int2 (n : Int64) : ReadsAs .int2 (.int n) (.int n)
  | int4 (n : Int64) : ReadsAs .int4 (.int n) (.int n)
  | int8 (n : Int64) : ReadsAs .int8 (.int n) (.int n)
  | uuid (u : Uuid) : ReadsAs .uuid (.uuid u) (.uuid u)
  | date (d : Date) : ReadsAs .date (.date d) (.date d)
  | time {t : Time} (ht : t.isWholeMicros) : ReadsAs .time (.time t) (.time t)
  | instant {type : NativeType} {dt : DateTime} (htype : type = .timestamp ∨ type = .timestamptz)
      (hdt : dt.time.isWholeMicros) : ReadsAs type (.dateTime dt) (.dateTime dt)
  /-- A date is the first instant of its day. -/
  | midnight {type : NativeType} (htype : type = .timestamp ∨ type = .timestamptz) (d : Date) :
      ReadsAs type (.date d) (.dateTime ⟨d, Time.midnight⟩)
  /-- An instant loses its time. -/
  | dateOf (dt : DateTime) : ReadsAs .date (.dateTime dt) (.date dt.date)
  /-- A value becomes its text, and so a text stays what it is. -/
  | text {type : NativeType} {v : Value} (htype : type.isText) (hv : v.isScalar) :
      ReadsAs type v (.string v.toText)

/-- Whether a whole number lies in the range of a type. Other types hold whole numbers as texts. -/
def HasRoomFor : NativeType → Int → Prop
  | .int2, n => -32768 ≤ n ∧ n < 32768
  | .int4, n => -2147483648 ≤ n ∧ n < 2147483648
  | .int8, n => -9223372036854775808 ≤ n ∧ n < 9223372036854775808
  | _, _ => True

/-- Whether a value lies in the range of a type, which only whole numbers can miss. -/
def InRange (type : NativeType) : Value → Prop
  | .int n => HasRoomFor type n.toInt
  | _ => True

/-- So no value is out of its range. -/
theorem inRange_of_isText (htype : type.isText) (v : Value) : InRange type v := by
  cases v with
  | int n =>
    cases type with
    | int2 => cases htype
    | int4 => cases htype
    | int8 => cases htype
    | _ => trivial
  | _ => trivial

namespace ReadsAs

/-- The pairs of what is bound and what is read are scalars. -/
theorem isScalar (h : ReadsAs type v w) : v.isScalar := by
  cases h with
  | text htype hv => exact hv
  | _ => rfl

/-- A column takes exactly the values of its range. -/
theorem exists_nativePayload_iff (h : ReadsAs type v w) :
    (∃ bytes, nativePayload type v = .ok bytes) ↔ InRange type v := by
  cases h with
  | int2 n => exact wholeBytes_isOk_iff.trans fits_iff
  | int4 n => exact wholeBytes_isOk_iff.trans fits_iff
  | int8 n => exact wholeBytes_isOk_iff.trans fits_iff
  | instant htype hdt =>
    exact ⟨fun _ => trivial, fun _ => ⟨_, nativePayload_of_takeInstant htype rfl⟩⟩
  | midnight htype d =>
    exact ⟨fun _ => trivial, fun _ => ⟨_, nativePayload_of_takeInstant htype rfl⟩⟩
  | text htype hv =>
    exact ⟨fun _ => inRange_of_isText htype v, fun _ => ⟨_, nativePayload_of_isText htype v⟩⟩
  | _ => exact ⟨fun _ => trivial, fun _ => ⟨_, rfl⟩⟩

/-- A column reads the bytes of what it took. -/
theorem readNative?_of_nativePayload (h : ReadsAs type v w) {bytes : Bytes}
    (hbytes : nativePayload type v = .ok bytes) : readNative? type bytes = some w := by
  cases h with
  | bool b =>
    cases hbytes
    cases b <;> rfl
  | int2 n => exact ofWidth?_map_longWhole (by decide) hbytes
  | int4 n => exact ofWidth?_map_longWhole (by decide) hbytes
  | int8 n => exact ofWidth?_map_longWhole (by decide) hbytes
  | uuid u =>
    cases hbytes
    rw [readNative?, Uuid.ofBytes?, dif_pos u.length_bytes]
    rfl
  | date d =>
    cases hbytes
    exact readNative?_dayNumber d
  | dateOf dt =>
    cases hbytes
    exact readNative?_dayNumber dt.date
  | time ht =>
    cases hbytes
    exact readNative?_timeMicros ht
  | instant htype hdt =>
    rw [nativePayload_of_takeInstant htype rfl] at hbytes
    cases hbytes
    exact readNative?_instantMicros htype hdt
  | midnight htype d =>
    rw [nativePayload_of_takeInstant htype rfl] at hbytes
    cases hbytes
    exact readNative?_instantMicros htype Time.isWholeMicros_midnight
  | text htype hv =>
    rw [nativePayload_of_isText htype] at hbytes
    cases hbytes
    exact readNative?_textBytes htype _

/-- A column takes exactly the values of its range, and gives back what it took. -/
theorem readCell?_bind (h : ReadsAs type v w) :
    ((∃ cell, bind (.native type) v = .ok cell) ↔ InRange type v) ∧
      ∀ cell, bind (.native type) v = .ok cell → readCell? (.native type) cell = some w := by
  have hbind : bind (.native type) v = (nativePayload type v).map some :=
    bind_of_isScalar _ h.isScalar
  rw [← h.exists_nativePayload_iff, hbind]
  constructor
  · constructor
    · rintro ⟨cell, hcell⟩
      obtain ⟨bytes, hbytes, -⟩ := map_eq_ok hcell
      exact ⟨bytes, hbytes⟩
    · rintro ⟨bytes, hbytes⟩
      exact ⟨some bytes, by rw [hbytes]; rfl⟩
  · intro cell hcell
    obtain ⟨bytes, hbytes, rfl⟩ := map_eq_ok hcell
    exact h.readNative?_of_nativePayload hbytes

/-- The last microsecond of a leap day. -/
def leapDay : DateTime where
  date := { year := 2024, month := 2, day := 29, valid := by decide }
  time := { second := 86399, nano := 999999000, valid := by decide }

/-- An instant in a column of instants is in range, so it is bound and read back. -/
theorem readCell?_bind_leapDay :
    ReadsAs .timestamptz (.dateTime leapDay) (.dateTime leapDay) ∧
      ((∃ cell, bind (.native .timestamptz) (.dateTime leapDay) = .ok cell) ↔
        InRange .timestamptz (.dateTime leapDay)) ∧
      ∀ cell, bind (.native .timestamptz) (.dateTime leapDay) = .ok cell →
        readCell? (.native .timestamptz) cell = some (.dateTime leapDay) :=
  have hreads : ReadsAs .timestamptz (.dateTime leapDay) (.dateTime leapDay) :=
    .instant (Or.inr rfl) (by decide)
  ⟨hreads, hreads.readCell?_bind⟩

end ReadsAs

end EntityQuery.Wire
