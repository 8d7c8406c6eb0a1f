import Mathlib.Data.UInt
import LumesSwitch.Lib.Run
import LumesSwitch.Lib.Words
import LumesSwitch.Schedule.Timestamp

/-!
# The clock goes on (`timestamp.c`)

The clock advances by whole seconds of the system tick, a 32-bit counter of 16 MHz, and carries
the ticks of a second that is not over to the next call.

- `Timestamp.timestampSet`, `Timestamp.timestampProc` — the clock is set, and advanced;
- `TickWatch` — the ticks that have truly passed since it was set;
- `TickWatch.exact_iff` — the runs in which no call loses or gains a second;
- `TimePar.timestampGetSecondInDay` — the third reader, which tests the flag the other way;
- `Timestamp.readersAgree_iff` — the runs in which the readers agree.
-/

namespace LumesSwitch

open Runs Words

/-- `TIMESTAMP_CHECK_INTERVAL`, `PAR_LEN_SET_TIMESTAMP`, `INVALID_SEC` -/
def timestampCheckInterval : UInt32 := 16000000
def parLenSetTimestamp : Nat := 4
def invalidSec : UInt32 := 0xFFFFFFFF

/-- `time_par` whole, and the system tick that `clock_time` reads. -/
structure Timestamp extends TimePar where
  previousTime : UInt32
  timeTick : UInt32
  tick : UInt32

namespace TimePar

/-- `timestamp_get_second_in_day` -/
def timestampGetSecondInDay (t : TimePar) : UInt32 :=
  -- the other readers want the flag set
  if !t.isSetFlag then
    if !clockTimeExceed t.timeS t.setStTime setTimestampMaxIntervalS then
      let tm := stdGmtime t.currentTime
      (tm.tmHour * 60 + tm.tmMin) * 60 + tm.tmSec
    else invalidSec
  else invalidSec

end TimePar

namespace Timestamp

/-- `timestamp_set`, with what it returns -/
def timestampSet (t : Timestamp) (modelIdx : Nat) (par : List UInt8) : Timestamp × Int :=
  if par.length = parLenSetTimestamp then
    if modelIdx = 0 then
      ({ t with
          isSetFlag := true, currentTime := ofLe32 par, timeTick := t.tick, setStTime := t.timeS },
        0)
    else (t, -1)
  else (t, -1)

/-- `timestamp_proc` -/
def timestampProc (t : Timestamp) : Timestamp :=
  if t.isSetFlag then
    let tDelta := t.tick - t.timeTick
    let t := if tDelta ≥ timestampCheckInterval then
        let intervalCnt := tDelta / timestampCheckInterval
        { t with
          currentTime :=
            runFrom (fun time _ => time + 1) t.currentTime (List.range intervalCnt.toNat)
          timeTick := t.timeTick + intervalCnt * timestampCheckInterval }
      else t
    if t.previousTime ≠ t.currentTime then { t with previousTime := t.currentTime } else t
  else t

/-! ## Advancing -/

theorem runFrom_succ (time : UInt32) (n : Nat) :
    runFrom (fun (time : UInt32) (_ : Nat) => time + 1) time (List.range n) =
      time + UInt32.ofNat n := by
  induction n with
  | zero => exact (UInt32.add_zero time).symm
  | succ n ih =>
    rw [List.range_succ, runFrom_append, ih]
    show time + UInt32.ofNat n + 1 = _
    rw [UInt32.add_assoc, UInt32.ofNat_add]
    rfl

/-- What a call does to a clock that is set: the second that is not over is carried. -/
theorem timestampProc_spec (t : Timestamp) (h : t.isSetFlag = true) :
    t.timestampProc.currentTime.toNat =
        (t.currentTime.toNat + (t.tick - t.timeTick).toNat / 16000000) % 2 ^ 32 ∧
      (t.timestampProc.tick - t.timestampProc.timeTick).toNat =
        (t.tick - t.timeTick).toNat % 16000000 ∧
      t.timestampProc.isSetFlag = true ∧ t.timestampProc.tick = t.tick := by
  have hprev : ∀ t : Timestamp,
      (if t.previousTime ≠ t.currentTime then { t with previousTime := t.currentTime } else t) =
        { t with previousTime := t.currentTime } := by
    intro t
    split
    · rfl
    · next heq => rw [← Decidable.not_not.mp heq]
  rw [timestampProc, if_pos h]
  dsimp only
  rw [hprev]
  generalize hdelta : t.tick - t.timeTick = delta
  by_cases hlong : delta ≥ timestampCheckInterval
  · rw [if_pos hlong]
    have hcnt : (delta / timestampCheckInterval).toNat = delta.toNat / 16000000 :=
      UInt32.toNat_div ..
    have hdelta_lt := delta.toNat_lt
    have hwhole : (delta / timestampCheckInterval * timestampCheckInterval).toNat =
        delta.toNat / 16000000 * 16000000 := by
      rw [UInt32.toNat_mul, hcnt]
      show delta.toNat / 16000000 * 16000000 % 2 ^ 32 = _
      omega
    refine ⟨?_, ?_, h, rfl⟩
    · dsimp only
      rw [runFrom_succ, UInt32.ofNat_toNat, UInt32.toNat_add, hcnt]
    · have hrest : t.tick - (t.timeTick + delta / timestampCheckInterval * timestampCheckInterval) =
          delta - delta / timestampCheckInterval * timestampCheckInterval := by
        rw [← hdelta]
        exact sub_add_eq_sub_sub ..
      dsimp only
      rw [hrest, UInt32.toNat_sub_of_le, hwhole]
      · omega
      · rw [UInt32.le_iff_toNat_le, hwhole]
        omega
  · rw [if_neg hlong]
    have hshort : delta.toNat < 16000000 := UInt32.lt_iff_toNat_lt.mp (UInt32.not_le.mp hlong)
    have hcurrent := t.currentTime.toNat_lt
    refine ⟨?_, ?_, h, rfl⟩
    · show t.currentTime.toNat = _
      omega
    · show (t.tick - t.timeTick).toNat = _
      rw [hdelta, Nat.mod_eq_of_lt hshort]

/-- What an accepted setting does. -/
theorem timestampSet_accepted {t : Timestamp} {modelIdx : Nat} {par : List UInt8}
    (h : (t.timestampSet modelIdx par).2 = 0) :
    (t.timestampSet modelIdx par).1 = { t with
      isSetFlag := true, currentTime := ofLe32 par, timeTick := t.tick, setStTime := t.timeS } := by
  unfold timestampSet at h ⊢
  split at h
  · next hlen =>
    split at h
    · next hidx => rw [if_pos hlen, if_pos hidx]
    · exact absurd h (show (-1 : Int) ≠ 0 by decide)
  · exact absurd h (show (-1 : Int) ≠ 0 by decide)

end Timestamp

/-! ## No second lost -/

/-- The clock, and the ticks that have passed since it was set. -/
structure TickWatch where
  clock : Timestamp
  elapsed : Nat

namespace TickWatch

/-- A call, `gap` ticks after the last one. -/
def step (w : TickWatch) (gap : UInt32) : TickWatch where
  clock := { w.clock with tick := w.clock.tick + gap }.timestampProc
  elapsed := w.elapsed + gap.toNat

/-- The clock gives the time it was set to and the whole seconds since then, in 32 bits. -/
def Exact (value : UInt32) (w : TickWatch) : Prop :=
  w.clock.currentTime.toNat = (value.toNat + w.elapsed / 16000000) % 2 ^ 32

instance (value : UInt32) (w : TickWatch) : Decidable (Exact value w) :=
  inferInstanceAs (Decidable (_ = _))

/-- The gap, and what is carried of the second that is not over, are less than the range of the
tick. -/
def GapOk (w : TickWatch) (gap : UInt32) : Prop := w.elapsed % 16000000 + gap.toNat < 2 ^ 32

instance (w : TickWatch) (gap : UInt32) : Decidable (GapOk w gap) :=
  inferInstanceAs (Decidable (_ < _))

/-- The ticks that are carried are those of the second that is not over. -/
structure Inv (value : UInt32) (w : TickWatch) : Prop where
  isSet : w.clock.isSetFlag = true
  carried : (w.clock.tick - w.clock.timeTick).toNat = w.elapsed % 16000000
  exact : Exact value w

/-- One call, whatever its gap: the tick that the difference is taken of wraps. -/
theorem Inv.step_spec {value : UInt32} {w : TickWatch} (h : Inv value w) (gap : UInt32) :
    (w.step gap).clock.currentTime.toNat = (w.clock.currentTime.toNat +
        (w.elapsed % 16000000 + gap.toNat) % 2 ^ 32 / 16000000) % 2 ^ 32 ∧
      ((w.step gap).clock.tick - (w.step gap).clock.timeTick).toNat =
        (w.elapsed % 16000000 + gap.toNat) % 2 ^ 32 % 16000000 ∧
      (w.step gap).clock.isSetFlag = true := by
  obtain ⟨hcurrent, hcarried, hset, -⟩ :=
    ({ w.clock with tick := w.clock.tick + gap } : Timestamp).timestampProc_spec h.isSet
  have hdelta : (w.clock.tick + gap - w.clock.timeTick).toNat =
      (w.elapsed % 16000000 + gap.toNat) % 2 ^ 32 := by
    rw [add_sub_right_comm, UInt32.toNat_add, h.carried]
  dsimp only at hcurrent hcarried
  rw [hdelta] at hcurrent hcarried
  exact ⟨hcurrent, hcarried, hset⟩

/-- **Step lemma.** -/
theorem Inv.step {value : UInt32} {w : TickWatch} (h : Inv value w) {gap : UInt32}
    (hgap : GapOk w gap) : Inv value (w.step gap) := by
  obtain ⟨hcurrent, hcarried, hset⟩ := h.step_spec gap
  have hexact := h.exact
  unfold GapOk at hgap
  unfold Exact at hexact
  rw [Nat.mod_eq_of_lt hgap] at hcurrent hcarried
  refine ⟨hset, ?_, ?_⟩
  · rw [hcarried]
    show _ = (w.elapsed + gap.toNat) % 16000000
    omega
  · show (w.step gap).clock.currentTime.toNat =
      (value.toNat + (w.elapsed + gap.toNat) / 16000000) % _
    rw [hcurrent, hexact]
    omega

/-- A call that comes too late loses the 268 seconds of a wrap. -/
theorem Inv.gapOk_of_exact {value : UInt32} {w : TickWatch} (h : Inv value w) {gap : UInt32}
    (hafter : Exact value (w.step gap)) : GapOk w gap := by
  have hcurrent := (h.step_spec gap).1
  have hexact := h.exact
  have hgap := gap.toNat_lt
  replace hafter : (w.step gap).clock.currentTime.toNat =
    (value.toNat + (w.elapsed + gap.toNat) / 16000000) % 2 ^ 32 := hafter
  unfold Exact at hexact
  rw [hcurrent, hexact] at hafter
  unfold GapOk
  by_contra hlong
  have hwrap : (w.elapsed % 16000000 + gap.toNat) % 2 ^ 32 =
      w.elapsed % 16000000 + gap.toNat - 2 ^ 32 := by omega
  rw [hwrap] at hafter
  omega

/-- **Every run** of calls after an accepted setting, with any gaps that the tick can tell: the
clock is exact after each call if and only if no call comes too late for what is carried. -/
theorem exact_iff (t : Timestamp) (modelIdx : Nat) (par : List UInt8)
    (h : (t.timestampSet modelIdx par).2 = 0) (gaps : List UInt32) :
    AllStates step (Exact (ofLe32 par)) ⟨(t.timestampSet modelIdx par).1, 0⟩ gaps ↔
      AllSteps step GapOk ⟨(t.timestampSet modelIdx par).1, 0⟩ gaps := by
  have hinit : Inv (ofLe32 par) ⟨(t.timestampSet modelIdx par).1, 0⟩ := by
    rw [Timestamp.timestampSet_accepted h]
    refine ⟨rfl, ?_, ?_⟩
    · show (t.tick - t.tick).toNat = 0
      rw [UInt32.sub_self]
      rfl
    · show (ofLe32 par).toNat = ((ofLe32 par).toNat + 0 / 16000000) % 2 ^ 32
      exact (Nat.mod_eq_of_lt (ofLe32 par).toNat_lt).symm
  exact AllStates.iff_allSteps_of_breaks (fun _ h => h.exact) (fun _ _ h hgap => h.step hgap)
    (fun _ _ h hafter => h.gapOk_of_exact hafter) hinit

/-- A clock before it is set, at tick 0. -/
def unset : Timestamp := ⟨⟨0, false, 0, 0⟩, 0, 0, 0⟩

/-- One tick short of a second, and then the longest gap. -/
theorem exact_of_short_gaps :
    AllStates step (Exact 5) ⟨(unset.timestampSet 0 [5, 0, 0, 0]).1, 0⟩ [15999999, 4278967296] :=
  (exact_iff unset 0 [5, 0, 0, 0] rfl [15999999, 4278967296]).mpr (by decide)

theorem not_exact_of_carried :
    ¬ ∀ (t : Timestamp) (modelIdx : Nat) (par : List UInt8),
      (t.timestampSet modelIdx par).2 = 0 → ∀ gaps : List UInt32,
        AllStates step (Exact (ofLe32 par)) ⟨(t.timestampSet modelIdx par).1, 0⟩ gaps := by
  intro h
  obtain ⟨-, -, hlate⟩ := h unset 0 [0, 0, 0, 0] rfl [15999999, 4294967295]
  revert hlate
  decide

end TickWatch

/-! ## The readers -/

namespace Timestamp

/-- **The readers agree**: they all give their invalid value, or they give one time. -/
def ReadersAgree (t : Timestamp) : Prop :=
  (t.timestampGetSecondInDay = invalidSec ∧
      t.timestampGetMinuteInDay = invalidMinute ∧ t.timestampGetWeekDay = invalidWeekDay) ∨
    t.timestampGetSecondInDay ≠ invalidSec ∧
      t.timestampGetMinuteInDay ≠ invalidMinute ∧ t.timestampGetWeekDay ≠ invalidWeekDay ∧
      t.timestampGetMinuteInDay.toNat = (t.timestampGetSecondInDay).toNat / 60 ∧
      (t.timestampGetSecondInDay).toNat = t.currentTime.toNat % 86400 ∧
      t.timestampGetWeekDay.toNat = (t.currentTime.toNat / 86400 + 4) % 7

instance (t : Timestamp) : Decidable t.ReadersAgree := inferInstanceAs (Decidable (_ ∨ _))

/-- More than seven days have passed since the setting, or since boot if there was none. -/
def Exceeded (t : Timestamp) : Prop :=
  clockTimeExceed t.timeS t.setStTime setTimestampMaxIntervalS = true

instance (t : Timestamp) : Decidable t.Exceeded := inferInstanceAs (Decidable (_ = _))

/-- The seconds of the day, put together from the calendar. -/
theorem second_toNat (time : UInt32) :
    (((stdGmtime time).tmHour * 60 + (stdGmtime time).tmMin) * 60 + (stdGmtime time).tmSec).toNat =
      time.toNat % 86400 := by
  simp only [stdGmtime, UInt32.toNat_add, UInt32.toNat_mul, UInt32.toNat_div,
    UInt32.toNat_mod, UInt32.reduceToNat]
  generalize hday : time.toNat % 86400 = day
  have hlt : day < 86400 := hday ▸ Nat.mod_lt _ (by decide)
  simp (disch := omega) only [Nat.mod_eq_of_lt]
  omega

/-- The clock reads a second if and only if it was never set, and seven days are not over. -/
theorem second_ne_invalid_iff {t : Timestamp} :
    t.timestampGetSecondInDay ≠ invalidSec ↔ t.isSetFlag = false ∧ ¬ t.Exceeded := by
  have hday : ((stdGmtime t.currentTime).tmHour * 60 + (stdGmtime t.currentTime).tmMin) * 60 +
      (stdGmtime t.currentTime).tmSec ≠ invalidSec := by
    intro heq
    have hnat : t.currentTime.toNat % 86400 = 0xFFFFFFFF := by
      rw [← second_toNat, heq]
      rfl
    omega
  rw [TimePar.timestampGetSecondInDay, Exceeded]
  cases hset : t.isSetFlag with
  | true => exact iff_of_false (fun h => h rfl) fun h => Bool.noConfusion h.1
  | false =>
    cases hex : clockTimeExceed t.timeS t.setStTime setTimestampMaxIntervalS with
    | true => exact iff_of_false (fun h => h rfl) fun h => h.2 rfl
    | false => exact iff_of_true hday ⟨rfl, Bool.false_ne_true⟩

/-- **State lemma**: one reader tests the flag the other way, so they agree only where none
gives the time. -/
theorem readersAgree_iff_exceeded (t : Timestamp) : t.ReadersAgree ↔ t.Exceeded := by
  constructor
  · rintro (⟨hsec, hmin, -⟩ | ⟨hsec, hmin, -⟩)
    · by_contra hex
      have hset : t.isSetFlag = true := by
        cases hflag : t.isSetFlag with
        | true => rfl
        | false => exact absurd hsec (second_ne_invalid_iff.mpr ⟨hflag, hex⟩)
      exact TimePar.minute_ne_invalid_iff.mpr ⟨hset, Bool.eq_false_iff.mpr hex⟩ hmin
    · have hunset := (second_ne_invalid_iff.mp hsec).1
      rw [(TimePar.minute_ne_invalid_iff.mp hmin).1] at hunset
      exact Bool.noConfusion hunset
  · intro hex
    have hvalid : ¬ t.toTimePar.Valid := fun h => Bool.false_ne_true (h.2.symm.trans hex)
    refine .inl ⟨?_, TimePar.minute_of_not_valid hvalid, TimePar.weekDay_of_not_valid hvalid⟩
    by_contra hsec
    exact (second_ne_invalid_iff.mp hsec).2 hex

/-- What happens to the clock. -/
inductive Event where
  | set (modelIdx : Nat) (par : List UInt8)
  | proc
  /-- the system tick, and the seconds counter, go on -/
  | time (ticks s : UInt32)

def step (t : Timestamp) : Event → Timestamp
  | .set modelIdx par => (t.timestampSet modelIdx par).1
  | .proc => t.timestampProc
  | .time ticks s => { t with tick := t.tick + ticks, timeS := t.timeS + s }

/-- **Every run**, from any state of the clock. -/
theorem readersAgree_iff (t : Timestamp) (evs : List Event) :
    (runFrom step t evs).ReadersAgree ↔ (runFrom step t evs).Exceeded :=
  readersAgree_iff_exceeded _

/-- A clock that has just been set has a minute and no second. -/
theorem not_readersAgree_set :
    ¬ ∀ (evs : List Event), (runFrom step TickWatch.unset evs).ReadersAgree := by
  intro h
  have hset := h [.time 16000000 1, .set 0 [0, 225, 11, 94], .proc]
  revert hset
  decide

end Timestamp

end LumesSwitch
