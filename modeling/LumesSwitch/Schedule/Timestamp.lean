import LumesSwitch.Board

/-!
# The wall clock (`timestamp.c`, `standard/time.c`)

The clock counts seconds since 1970 and is trusted for seven days after it was set.

- `TimePar.timestampGetMinuteInDay`, `TimePar.timestampGetWeekDay` — its readers;
- `TimePar.Valid` — when they give the time.
-/

namespace LumesSwitch

/-- `INVALID_MINUTE`, `INVALID_WEEK_DAY` -/
def invalidMinute : UInt16 := 0xFFFF
def invalidWeekDay : UInt8 := 8

/-- `SET_TIMESTAMP_MAX_INTERVAL_S` -/
def setTimestampMaxIntervalS : UInt32 := 7 * 24 * 60 * 60

/-- `time_par`, and the seconds counter `clock_time_s` reads. -/
structure TimePar where
  currentTime : UInt32
  isSetFlag : Bool
  setStTime : UInt32
  timeS : UInt32

/-- The fields of `struct tm` that are read: Sunday is day 0. -/
structure Tm where
  tmSec : UInt32
  tmMin : UInt32
  tmHour : UInt32
  tmWday : UInt32

/-- `std_gmtime`; `time_t` is taken for unsigned. -/
def stdGmtime (time : UInt32) : Tm where
  tmSec := time % 86400 % 60
  tmMin := time % 86400 % 3600 / 60
  tmHour := time % 86400 / 3600
  tmWday := (time / 86400 + 4) % 7

namespace TimePar

/-- The clock is set, and was set at most seven days ago. -/
def Valid (t : TimePar) : Prop :=
  t.isSetFlag = true ∧ clockTimeExceed t.timeS t.setStTime setTimestampMaxIntervalS = false

instance (t : TimePar) : Decidable t.Valid := inferInstanceAs (Decidable (_ ∧ _))

/-- `timestamp_get_minute_in_day` -/
def timestampGetMinuteInDay (t : TimePar) : UInt16 :=
  if t.isSetFlag then
    if !clockTimeExceed t.timeS t.setStTime setTimestampMaxIntervalS then
      let tm := stdGmtime t.currentTime
      (tm.tmHour * 60 + tm.tmMin).toUInt16
    else invalidMinute
  else invalidMinute

/-- `timestamp_get_week_day` -/
def timestampGetWeekDay (t : TimePar) : UInt8 :=
  if t.isSetFlag then
    if !clockTimeExceed t.timeS t.setStTime setTimestampMaxIntervalS then
      (stdGmtime t.currentTime).tmWday.toUInt8
    else invalidWeekDay
  else invalidWeekDay

theorem minute_of_valid {t : TimePar} (h : t.Valid) :
    t.timestampGetMinuteInDay =
      ((stdGmtime t.currentTime).tmHour * 60 + (stdGmtime t.currentTime).tmMin).toUInt16 := by
  rw [timestampGetMinuteInDay, if_pos h.1, h.2]
  rfl

theorem weekDay_of_valid {t : TimePar} (h : t.Valid) :
    t.timestampGetWeekDay = (stdGmtime t.currentTime).tmWday.toUInt8 := by
  rw [timestampGetWeekDay, if_pos h.1, h.2]
  rfl

theorem minute_of_not_valid {t : TimePar} (h : ¬ t.Valid) :
    t.timestampGetMinuteInDay = invalidMinute := by
  rw [timestampGetMinuteInDay]
  split
  · next hset =>
    split
    · next hex => exact absurd ⟨hset, Bool.not_eq_true' _ ▸ hex⟩ h
    · rfl
  · rfl

theorem weekDay_of_not_valid {t : TimePar} (h : ¬ t.Valid) :
    t.timestampGetWeekDay = invalidWeekDay := by
  rw [timestampGetWeekDay]
  split
  · next hset =>
    split
    · next hex => exact absurd ⟨hset, Bool.not_eq_true' _ ▸ hex⟩ h
    · rfl
  · rfl

/-- A valid clock is inside the day. -/
theorem minute_lt {t : TimePar} (h : t.Valid) : t.timestampGetMinuteInDay < 1440 := by
  rw [minute_of_valid h, UInt16.lt_iff_toNat_lt]
  have hsec : t.currentTime.toNat % 86400 < 86400 := Nat.mod_lt _ (by decide)
  simp only [stdGmtime, UInt32.toNat_toUInt16, UInt32.toNat_add, UInt32.toNat_mul,
    UInt32.toNat_div, UInt32.toNat_mod, UInt32.reduceToNat, UInt16.reduceToNat]
  omega

theorem weekDay_lt {t : TimePar} (h : t.Valid) : t.timestampGetWeekDay < 7 := by
  rw [weekDay_of_valid h, UInt8.lt_iff_toNat_lt]
  simp only [stdGmtime, UInt32.toNat_toUInt8, UInt32.toNat_add, UInt32.toNat_div,
    UInt32.toNat_mod, UInt32.reduceToNat, UInt8.reduceToNat]
  omega

/-- The clock reads a minute if and only if it is valid. -/
theorem minute_ne_invalid_iff {t : TimePar} :
    t.timestampGetMinuteInDay ≠ invalidMinute ↔ t.Valid := by
  constructor
  · intro hne
    by_contra h
    exact hne (minute_of_not_valid h)
  · intro h heq
    have hlt := minute_lt h
    rw [heq] at hlt
    exact absurd hlt (by decide)

end TimePar

end LumesSwitch
