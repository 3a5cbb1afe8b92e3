import EntityQuery.Proofs.Calendar.Date
import EntityQuery.Wire.Instant

namespace EntityQuery

open Calendar

/-- Whether a time has whole microseconds and lies in no leap second. -/
def Time.isWholeMicros (t : Time) : Bool :=
  t.nano % 1000 == 0 && t.nano < nanosPerSecond

/-- A time has whole microseconds exactly if its nanoseconds are thousands and it is in no leap
second. -/
theorem Time.isWholeMicros_iff {t : Time} :
    t.isWholeMicros ↔ t.nano % 1000 = 0 ∧ t.nano < 1000000000 := by
  simp only [isWholeMicros, Bool.and_eq_true, beq_iff_eq, decide_eq_true_eq]
  rfl

theorem Time.isWholeMicros_midnight : Time.midnight.isWholeMicros := by decide

namespace Wire

/-- Every date is read back from its number of days, also those before the first day of the
count. -/
theorem ofDayNumber?_dayNumber (d : Date) : ofDayNumber? (dayNumber d) = some d := by
  rw [ofDayNumber?, dayNumber, Int.sub_add_cancel]
  exact d.ofDays?_toDays

/-- Four bytes have room for the number of every date. -/
theorem two_mul_dayNumber_lt (d : Date) : 2 * (dayNumber d).natAbs < Nat.pow 256 4 := by
  have hdays := d.natAbs_toDays_lt
  rw [dayNumber, epochDay, Nat.pow_eq]
  omega

/-- Eight bytes have room for the microseconds of every time. -/
theorem two_mul_timeMicros_lt (t : Time) : 2 * (timeMicros t : Int).natAbs < Nat.pow 256 8 := by
  have hvalid := t.valid
  simp only [isTime, Bool.and_eq_true, Bool.or_eq_true, decide_eq_true_eq] at hvalid
  rw [secondsPerDay, nanosPerSecond] at hvalid
  rw [timeMicros, nanosPerSecond, Nat.pow_eq]
  omega

/-- A time with whole microseconds is read back from their number. -/
theorem ofTimeMicros?_timeMicros {t : Time} (h : t.isWholeMicros) :
    ofTimeMicros? (timeMicros t) = some t := by
  obtain ⟨hwhole, hnano⟩ := Time.isWholeMicros_iff.1 h
  have hsecond := t.second_lt
  have hmicros : ((timeMicros t : Int) % microsPerDay).toNat =
      1000000 * t.second + t.nano / 1000 := by
    rw [timeMicros, nanosPerSecond, microsPerDay]
    omega
  have hseconds : (1000000 * t.second + t.nano / 1000) / 1000000 = t.second := by omega
  have hnanos : (1000000 * t.second + t.nano / 1000) % 1000000 * 1000 = t.nano := by omega
  simp only [ofTimeMicros?, hmicros, hseconds, hnanos]
  exact dif_pos t.valid

/-- The microseconds of an instant that has whole ones, counted in seconds and the rest. -/
theorem instantMicros_eq {dt : DateTime} (h : dt.time.isWholeMicros) :
    instantMicros dt =
      (dt.seconds - epochDay * secondsPerDay) * 1000000 + (dt.time.nano / 1000 : Nat) := by
  obtain ⟨hwhole, hnano⟩ := Time.isWholeMicros_iff.1 h
  have hnanos : (dt.seconds - epochDay * secondsPerDay) * (nanosPerSecond : Nat) + dt.time.nano =
      1000 * ((dt.seconds - epochDay * secondsPerDay) * 1000000 + (dt.time.nano / 1000 : Nat)) := by
    rw [nanosPerSecond]
    omega
  rw [instantMicros, hnanos, Int.mul_tdiv_cancel_left _ (by decide)]

/-- So is an instant, from the number of microseconds since the first instant of the count. -/
theorem ofInstantMicros?_instantMicros {dt : DateTime} (h : dt.time.isWholeMicros) :
    ofInstantMicros? (instantMicros dt) = some dt := by
  obtain ⟨hwhole, hnano⟩ := Time.isWholeMicros_iff.1 h
  have hseconds : instantMicros dt / 1000000 + epochDay * secondsPerDay = dt.seconds := by
    rw [instantMicros_eq h]
    omega
  have hnanos : (instantMicros dt % 1000000).toNat * 1000 = dt.time.nano := by
    rw [instantMicros_eq h]
    omega
  rw [ofInstantMicros?, hseconds, hnanos]
  exact dt.ofSeconds?_seconds

/-- Eight bytes have room for the microseconds between the epoch and an instant. -/
theorem two_mul_instantMicros_lt {dt : DateTime} (h : dt.time.isWholeMicros) :
    2 * (instantMicros dt).natAbs < Nat.pow 256 8 := by
  have hdays := dt.date.natAbs_toDays_lt
  have hsecond := dt.time.second_lt
  obtain ⟨-, hnano⟩ := Time.isWholeMicros_iff.1 h
  rw [instantMicros_eq h, DateTime.seconds, epochDay, secondsPerDay, Nat.pow_eq]
  omega

end Wire

end EntityQuery
