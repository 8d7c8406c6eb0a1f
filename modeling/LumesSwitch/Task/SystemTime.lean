import Mathlib.Data.List.Count
import Mathlib.Data.UInt
import LumesSwitch.Lib.Run
import LumesSwitch.Schedule.Clock

/-!
# The system time (`system_time.c`)

The main loop calls `system_time_run` whenever it comes round. The function counts the
milliseconds that have passed since its last call, and makes up for the calls of its handlers. The
tenths and the seconds are counted with the remainders of the counters below them, which are words
that wrap.

- `SystemTime.systemTimeRun` — the function, with the handlers that it calls;
- `TimeWatch` — the ticks that have truly passed, and the handlers called, beside it;
- `TimeWatch.handled_iff` — the runs in which no millisecond is lost or handled twice;
- `TimeWatch.Drift.all` — how far the tenths and the seconds go wrong in them.
-/

namespace LumesSwitch

open Runs

/-- `CHECK_INTERVAL` -/
def checkInterval : UInt32 := 16000

/-- What `system_time_run` calls: `system_timer_handle_ms`, `system_timer_handle_100ms`,
`mesh_iv_update_st_poll_s`, `user_system_time_proc`, `mesh_beacon_poll_1s`, `bind_periodic_handle`,
`lock_schedule_task`, and what follows for a millisecond or more. -/
inductive TimerCall where
  | handleMs
  | handle100ms
  | ivUpdateStPollS
  | userSystemTimeProc
  | meshBeaconPoll1s
  | bindPeriodicHandle
  | lockScheduleTask
  | handleUpdateStatePeriodically
  deriving DecidableEq

/-- `system_time_ms`, `system_time_100ms`, `system_time_s`, `system_time_tick` -/
structure SystemTime where
  ms : UInt32
  hundredMs : UInt32
  s : UInt32
  tick : UInt32

namespace SystemTime

/-- `system_time_init`, at boot -/
def systemTimeInit (clock : UInt32) : SystemTime := ⟨0, 0, 0, clock⟩

/-- The part of `system_time_run` for tenths of a second that are over. -/
def run100ms (t : SystemTime) (inc100ms : UInt32) : SystemTime × List TimerCall :=
  let incS := (t.hundredMs % 10 + inc100ms) / 10
  let t := { t with hundredMs := t.hundredMs + inc100ms }
  let calls := List.replicate inc100ms.toNat TimerCall.handle100ms
  if incS ≠ 0 then
    ({ t with s := runFrom (fun s _ => s + 1) t.s (List.range incS.toNat) },
      calls ++ (List.replicate incS.toNat .ivUpdateStPollS ++
        [.userSystemTimeProc, .meshBeaconPoll1s, .bindPeriodicHandle, .lockScheduleTask]))
  else (t, calls)

/-- `system_time_run`, with the calls that it makes; `provisioned` is the state of the device. -/
def systemTimeRun (t : SystemTime) (clock : UInt32) (provisioned : Bool) :
    SystemTime × List TimerCall :=
  let tDelta := clock - t.tick
  if tDelta ≥ checkInterval then
    let intervalCnt := tDelta / checkInterval
    let (t, calls) :=
      if intervalCnt ≠ 0 then
        let inc100ms := (t.ms % 100 + intervalCnt) / 100
        let t := { t with ms := t.ms + intervalCnt }
        let msCalls := List.replicate intervalCnt.toNat TimerCall.handleMs
        if inc100ms ≠ 0 then
          let (t, calls) := t.run100ms inc100ms
          (t, msCalls ++ calls)
        else (t, msCalls)
      else (t, [])
    ({ t with tick := t.tick + intervalCnt * checkInterval },
      calls ++ if provisioned then [.handleUpdateStatePeriodically] else [])
  else (t, [])

/-! ## One call -/

/-- How many calls of each timer there are in `calls`. -/
structure Counts (calls : List TimerCall) (ms hundred s : Nat) : Prop where
  ms : calls.count .handleMs = ms
  hundred : calls.count .handle100ms = hundred
  second : calls.count .ivUpdateStPollS = s

theorem Counts.append {xs ys : List TimerCall} {m h s m' h' s' : Nat} (hx : Counts xs m h s)
    (hy : Counts ys m' h' s') : Counts (xs ++ ys) (m + m') (h + h') (s + s') where
  ms := by rw [List.count_append, hx.ms, hy.ms]
  hundred := by rw [List.count_append, hx.hundred, hy.hundred]
  second := by rw [List.count_append, hx.second, hy.second]

theorem counts_handleMs (n : Nat) : Counts (List.replicate n .handleMs) n 0 0 where
  ms := List.count_replicate_self
  hundred := List.count_eq_zero.mpr fun h => nomatch List.eq_of_mem_replicate h
  second := List.count_eq_zero.mpr fun h => nomatch List.eq_of_mem_replicate h

theorem counts_handle100ms (n : Nat) : Counts (List.replicate n .handle100ms) 0 n 0 where
  ms := List.count_eq_zero.mpr fun h => nomatch List.eq_of_mem_replicate h
  hundred := List.count_replicate_self
  second := List.count_eq_zero.mpr fun h => nomatch List.eq_of_mem_replicate h

theorem counts_ivUpdateStPollS (n : Nat) : Counts (List.replicate n .ivUpdateStPollS) 0 0 n where
  ms := List.count_eq_zero.mpr fun h => nomatch List.eq_of_mem_replicate h
  hundred := List.count_eq_zero.mpr fun h => nomatch List.eq_of_mem_replicate h
  second := List.count_replicate_self

/-- The tenths, and the seconds that come with them. -/
theorem run100ms_spec (t : SystemTime) (n : UInt32) (hn : n.toNat < 2 ^ 31) :
    (t.run100ms n).1.hundredMs.toNat = (t.hundredMs.toNat + n.toNat) % 2 ^ 32 ∧
      (t.run100ms n).1.s.toNat =
        (t.s.toNat + (t.hundredMs.toNat % 10 + n.toNat) / 10) % 2 ^ 32 ∧
      (t.run100ms n).1.ms = t.ms ∧ (t.run100ms n).1.tick = t.tick ∧
      Counts (t.run100ms n).2 0 n.toNat ((t.hundredMs.toNat % 10 + n.toNat) / 10) := by
  have hincS : ((t.hundredMs % 10 + n) / 10).toNat = (t.hundredMs.toNat % 10 + n.toNat) / 10 := by
    rw [UInt32.toNat_div, UInt32.toNat_add, UInt32.toNat_mod]
    show (t.hundredMs.toNat % 10 + n.toNat) % 2 ^ 32 / 10 = _
    rw [Nat.mod_eq_of_lt (by omega)]
  have hs_lt := t.s.toNat_lt
  rw [run100ms]
  dsimp only
  split
  · refine ⟨UInt32.toNat_add .., ?_, rfl, rfl, ?_⟩
    · dsimp only
      rw [Timestamp.runFrom_succ, UInt32.ofNat_toNat, UInt32.toNat_add, hincS]
    · rw [← hincS]
      have hrest : Counts [.userSystemTimeProc, .meshBeaconPoll1s, .bindPeriodicHandle,
          .lockScheduleTask] 0 0 0 := ⟨rfl, rfl, rfl⟩
      have hcalls := (counts_handle100ms n.toNat).append
        ((counts_ivUpdateStPollS ((t.hundredMs % 10 + n) / 10).toNat).append hrest)
      simpa only [Nat.zero_add, Nat.add_zero] using hcalls
  · next hzero =>
    have hnone : (t.hundredMs.toNat % 10 + n.toNat) / 10 = 0 := by
      rw [← hincS, not_not.mp hzero]
      rfl
    rw [hnone]
    refine ⟨UInt32.toNat_add .., ?_, rfl, rfl, counts_handle100ms n.toNat⟩
    exact (Nat.mod_eq_of_lt hs_lt).symm

/-- The counters behind a call that comes `delta` ticks after the last millisecond. -/
structure RunSpec (t : SystemTime) (delta : Nat) (clock : UInt32) (r : SystemTime × List TimerCall) :
    Prop where
  ms : r.1.ms.toNat = (t.ms.toNat + delta / 16000) % 2 ^ 32
  hundred : r.1.hundredMs.toNat =
    (t.hundredMs.toNat + (t.ms.toNat % 100 + delta / 16000) / 100) % 2 ^ 32
  second : r.1.s.toNat = (t.s.toNat +
    (t.hundredMs.toNat % 10 + (t.ms.toNat % 100 + delta / 16000) / 100) / 10) % 2 ^ 32
  carried : (clock - r.1.tick).toNat = delta % 16000
  calls : Counts r.2 (delta / 16000) ((t.ms.toNat % 100 + delta / 16000) / 100)
    ((t.hundredMs.toNat % 10 + (t.ms.toNat % 100 + delta / 16000) / 100) / 10)

/-- Whole milliseconds off the difference leave those ticks that are not one. -/
theorem sub_tick (clock tick : UInt32) :
    (clock - (tick + (clock - tick) / checkInterval * checkInterval)).toNat =
      (clock - tick).toNat % 16000 := by
  have hrest : clock - (tick + (clock - tick) / checkInterval * checkInterval) =
      (clock - tick) - (clock - tick) / checkInterval * checkInterval := sub_add_eq_sub_sub ..
  rw [hrest]
  generalize clock - tick = delta
  have hlt := delta.toNat_lt
  have hwhole : (delta / checkInterval * checkInterval).toNat = delta.toNat / 16000 * 16000 := by
    rw [UInt32.toNat_mul, UInt32.toNat_div]
    show delta.toNat / 16000 * 16000 % 2 ^ 32 = _
    omega
  rw [UInt32.toNat_sub_of_le, hwhole]
  · omega
  · rw [UInt32.le_iff_toNat_le, hwhole]
    omega

/-- The last call of a pass is none of the timers. -/
theorem counts_periodically (provisioned : Bool) :
    Counts (if provisioned then [.handleUpdateStatePeriodically] else []) 0 0 0 := by
  cases provisioned <;> exact ⟨rfl, rfl, rfl⟩

/-- **One call.** -/
theorem systemTimeRun_spec (t : SystemTime) (clock : UInt32) (provisioned : Bool) :
    RunSpec t (clock - t.tick).toNat clock (t.systemTimeRun clock provisioned) := by
  have hms_lt := t.ms.toNat_lt
  have hhundred_lt := t.hundredMs.toNat_lt
  have hs_lt := t.s.toNat_lt
  have hdelta_lt := (clock - t.tick).toNat_lt
  have hcnt : ((clock - t.tick) / checkInterval).toNat = (clock - t.tick).toNat / 16000 :=
    UInt32.toNat_div ..
  have hinc : ((t.ms % 100 + (clock - t.tick) / checkInterval) / 100).toNat =
      (t.ms.toNat % 100 + (clock - t.tick).toNat / 16000) / 100 := by
    rw [UInt32.toNat_div, UInt32.toNat_add, UInt32.toNat_mod, hcnt]
    show (t.ms.toNat % 100 + (clock - t.tick).toNat / 16000) % 2 ^ 32 / 100 = _
    rw [Nat.mod_eq_of_lt (by omega)]
  have hcarried := sub_tick clock t.tick
  rw [systemTimeRun]
  dsimp only
  by_cases hlong : clock - t.tick ≥ checkInterval
  · have hlong' : 16000 ≤ (clock - t.tick).toNat := UInt32.le_iff_toNat_le.mp hlong
    have hne : (clock - t.tick) / checkInterval ≠ 0 := by
      intro hzero
      rw [hzero] at hcnt
      have hnone : (0 : UInt32).toNat = 0 := rfl
      omega
    rw [if_pos hlong, if_pos hne]
    have hms := counts_handleMs ((clock - t.tick) / checkInterval).toNat
    split
    · obtain ⟨hhundred, hs, hms', htick, hcalls⟩ := run100ms_spec
        { t with ms := t.ms + (clock - t.tick) / checkInterval }
        ((t.ms % 100 + (clock - t.tick) / checkInterval) / 100) (by rw [hinc]; omega)
      have hall := (hms.append hcalls).append (counts_periodically provisioned)
      dsimp only at hhundred hs hms' htick hall ⊢
      rw [hinc] at hhundred hs
      rw [hinc] at hall
      refine ⟨?_, hhundred, hs, ?_, ?_⟩
      · dsimp only
        rw [hms', UInt32.toNat_add, hcnt]
      · dsimp only
        rw [htick]
        exact hcarried
      · simpa only [Nat.zero_add, Nat.add_zero, hcnt] using hall
    · next hzero =>
      have hnone : (t.ms.toNat % 100 + (clock - t.tick).toNat / 16000) / 100 = 0 := by
        rw [← hinc, not_not.mp hzero]
        rfl
      have hall := hms.append (counts_periodically provisioned)
      refine ⟨?_, ?_, ?_, hcarried, ?_⟩
      · dsimp only
        rw [UInt32.toNat_add, hcnt]
      · rw [hnone]
        exact (Nat.mod_eq_of_lt hhundred_lt).symm
      · rw [hnone, Nat.add_zero, Nat.div_eq_of_lt (Nat.mod_lt _ (by decide))]
        exact (Nat.mod_eq_of_lt hs_lt).symm
      · rw [hnone, Nat.add_zero, Nat.div_eq_of_lt (Nat.mod_lt _ (by decide)), ← hcnt]
        exact hall
  · have hshort : (clock - t.tick).toNat < 16000 :=
      UInt32.lt_iff_toNat_lt.mp (UInt32.not_le.mp hlong)
    rw [if_neg hlong]
    have hzero : (clock - t.tick).toNat / 16000 = 0 := Nat.div_eq_of_lt hshort
    have hnone : (t.ms.toNat % 100 + 0) / 100 = 0 := by omega
    have hnone' : (t.hundredMs.toNat % 10 + 0) / 10 = 0 := by omega
    constructor
    · rw [hzero]
      exact (Nat.mod_eq_of_lt hms_lt).symm
    · rw [hzero, hnone]
      exact (Nat.mod_eq_of_lt hhundred_lt).symm
    · rw [hzero, hnone, hnone']
      exact (Nat.mod_eq_of_lt hs_lt).symm
    · exact (Nat.mod_eq_of_lt hshort).symm
    · rw [hzero, hnone, hnone']
      exact ⟨rfl, rfl, rfl⟩

end SystemTime

/-! ## Over a run -/

/-- The counters, the tick that is read, the ticks that have truly passed since the boot, and the
handlers called. -/
structure TimeWatch where
  time : SystemTime
  clock : UInt32
  elapsed : Nat
  calls : List TimerCall

namespace TimeWatch

/-- A call, some ticks after the last one; the device may have been provisioned or not. -/
structure Pass where
  gap : UInt32
  provisioned : Bool

def step (w : TimeWatch) (p : Pass) : TimeWatch :=
  let clock := w.clock + p.gap
  let (time, calls) := w.time.systemTimeRun clock p.provisioned
  ⟨time, clock, w.elapsed + p.gap.toNat, w.calls ++ calls⟩

/-- The boot, at any tick. -/
def init (clock : UInt32) : TimeWatch := ⟨.systemTimeInit clock, clock, 0, []⟩

/-- The milliseconds that have passed, and how often each handler has been called. -/
def passedMs (w : TimeWatch) : Nat := w.elapsed / 16000
def handledMs (w : TimeWatch) : Nat := w.calls.count .handleMs
def handled100ms (w : TimeWatch) : Nat := w.calls.count .handle100ms
def polledS (w : TimeWatch) : Nat := w.calls.count .ivUpdateStPollS

/-- The gap, and what is carried of the millisecond that is not over, are less than the range of
the tick. -/
def GapOk (w : TimeWatch) (p : Pass) : Prop := w.elapsed % 16000 + p.gap.toNat < 2 ^ 32

instance (w : TimeWatch) (p : Pass) : Decidable (GapOk w p) := inferInstanceAs (Decidable (_ < _))

/-- What is carried between the calls. -/
structure Inv (w : TimeWatch) : Prop where
  carried : (w.clock - w.time.tick).toNat = w.elapsed % 16000
  ms : w.time.ms.toNat = w.handledMs % 2 ^ 32
  hundred : w.time.hundredMs.toNat = w.handled100ms % 2 ^ 32
  second : w.time.s.toNat = w.polledS % 2 ^ 32
  handled : w.handledMs = w.passedMs
  /-- A wrap of the word takes the tenths 96 milliseconds back or 4 milliseconds on. -/
  early : 100 * w.handled100ms + w.time.ms.toNat % 100 ≤ w.passedMs + 4 * (w.passedMs / 2 ^ 32)
  late : w.passedMs ≤ 100 * w.handled100ms + w.time.ms.toNat % 100 + 96 * (w.passedMs / 2 ^ 32)
  earlyS : 10 * w.polledS + w.time.hundredMs.toNat % 10 ≤
    w.handled100ms + 4 * (w.handled100ms / 2 ^ 32)
  lateS : w.handled100ms ≤
    10 * w.polledS + w.time.hundredMs.toNat % 10 + 6 * (w.handled100ms / 2 ^ 32)

theorem passedMs_init (clock : UInt32) : (init clock).passedMs = 0 := Nat.zero_div 16000

theorem inv_init (clock : UInt32) : Inv (init clock) where
  carried := by
    show (clock - clock).toNat = 0
    rw [UInt32.sub_self]
    rfl
  ms := rfl
  hundred := rfl
  second := rfl
  handled := (passedMs_init clock).symm
  early := by
    rw [passedMs_init]
    exact Nat.le_refl _
  late := by
    rw [passedMs_init]
    exact Nat.zero_le _
  earlyS := by
    have hhundred : (init clock).time.hundredMs.toNat = 0 := rfl
    have hpolled : (init clock).polledS = 0 := rfl
    omega
  lateS := Nat.zero_le _

/-- The ticks since the last millisecond, as a call finds them. -/
theorem Inv.delta {w : TimeWatch} (h : Inv w) (p : Pass) :
    (w.clock + p.gap - w.time.tick).toNat = (w.elapsed % 16000 + p.gap.toNat) % 2 ^ 32 := by
  rw [add_sub_right_comm, UInt32.toNat_add, h.carried]

/-- A call, whatever its gap: the tick that the difference is taken of wraps. -/
theorem Inv.step_spec {w : TimeWatch} (h : Inv w) (p : Pass) :
    SystemTime.RunSpec w.time ((w.elapsed % 16000 + p.gap.toNat) % 2 ^ 32) (w.step p).clock
      ((w.step p).time, (w.time.systemTimeRun (w.clock + p.gap) p.provisioned).2) := by
  rw [← h.delta p]
  exact w.time.systemTimeRun_spec (w.clock + p.gap) p.provisioned

theorem step_counts {w : TimeWatch} {p : Pass} {m n s : Nat}
    (h : SystemTime.Counts (w.time.systemTimeRun (w.clock + p.gap) p.provisioned).2 m n s) :
    (w.step p).handledMs = w.handledMs + m ∧ (w.step p).handled100ms = w.handled100ms + n ∧
      (w.step p).polledS = w.polledS + s := by
  have hcalls : (w.step p).calls =
    w.calls ++ (w.time.systemTimeRun (w.clock + p.gap) p.provisioned).2 := rfl
  rw [handledMs, handled100ms, polledS, hcalls, List.count_append, List.count_append,
    List.count_append, h.ms, h.hundred, h.second]
  exact ⟨rfl, rfl, rfl⟩

/-- **Step lemma.** -/
theorem Inv.step {w : TimeWatch} (h : Inv w) {p : Pass} (hp : GapOk w p) : Inv (w.step p) := by
  have hrun := h.step_spec p
  unfold GapOk at hp
  rw [Nat.mod_eq_of_lt hp] at hrun
  obtain ⟨hms, hhundred, hs, hcarried, hcalls⟩ := hrun
  obtain ⟨hmsCnt, hhundredCnt, hsCnt⟩ := step_counts hcalls
  dsimp only at hms hhundred hs hcarried
  have hgap := p.gap.toNat_lt
  have hpassed : (w.step p).passedMs =
      w.passedMs + (w.elapsed % 16000 + p.gap.toNat) / 16000 := by
    show (w.elapsed + p.gap.toNat) / 16000 = w.elapsed / 16000 + _
    omega
  -- a call comes to at most 268436 milliseconds, so a word wraps once in it at most
  have hcnt : (w.elapsed % 16000 + p.gap.toNat) / 16000 < 2 ^ 32 / 16000 + 1 := by omega
  generalize (w.elapsed % 16000 + p.gap.toNat) / 16000 = cnt at *
  have hhandled := h.handled
  have hmsw := h.ms
  have hhundredw := h.hundred
  have hsw := h.second
  have hearly := h.early
  have hlate := h.late
  have hearlyS := h.earlyS
  have hlateS := h.lateS
  generalize hinc : (w.time.ms.toNat % 100 + cnt) / 100 = inc at *
  generalize hincS : (w.time.hundredMs.toNat % 10 + inc) / 10 = incS at *
  refine ⟨?_, ?_, ?_, ?_, ?_, ?_, ?_, ?_, ?_⟩
  · rw [hcarried]
    show _ = (w.elapsed + p.gap.toNat) % 16000
    omega
  · rw [hms, hmsCnt, hmsw, Nat.mod_add_mod]
  · rw [hhundred, hhundredCnt, hhundredw, Nat.mod_add_mod]
  · rw [hs, hsCnt, hsw, Nat.mod_add_mod]
  · rw [hmsCnt, hpassed, hhandled]
  · rw [hms, hhundredCnt, hpassed]
    omega
  · rw [hms, hhundredCnt, hpassed]
    omega
  · rw [hhundred, hsCnt, hhundredCnt]
    omega
  · rw [hhundred, hsCnt, hhundredCnt]
    omega

/-- Every millisecond that has passed has been handled once. -/
def Handled (w : TimeWatch) : Prop := w.handledMs = w.passedMs

instance (w : TimeWatch) : Decidable (Handled w) := inferInstanceAs (Decidable (_ = _))

/-- A call that comes too late loses the 268 seconds of a wrap. -/
theorem Inv.gapOk_of_handled {w : TimeWatch} (h : Inv w) {p : Pass} (hafter : Handled (w.step p)) :
    GapOk w p := by
  have hcnt := (step_counts (h.step_spec p).calls).1
  have hhandled := h.handled
  have hgap := p.gap.toNat_lt
  replace hafter : (w.step p).handledMs = (w.elapsed + p.gap.toNat) / 16000 := hafter
  rw [hcnt, hhandled] at hafter
  unfold passedMs at hafter
  unfold GapOk
  by_contra hlong
  have hwrap : (w.elapsed % 16000 + p.gap.toNat) % 2 ^ 32 =
      w.elapsed % 16000 + p.gap.toNat - 2 ^ 32 := by omega
  rw [hwrap] at hafter
  omega

/-- **Every run** of the main loop: each millisecond is handled exactly once if and only if no
pass comes too late for what is carried. -/
theorem handled_iff (clock : UInt32) (ps : List Pass) :
    AllStates step Handled (init clock) ps ↔ AllSteps step GapOk (init clock) ps :=
  AllStates.iff_allSteps_of_breaks (fun _ h => h.handled) (fun _ _ h hp => h.step hp)
    (fun _ _ h hafter => h.gapOk_of_handled hafter) (inv_init clock)

/-- The tenths and the seconds that have been handled, for the milliseconds that have passed: they
go 96 milliseconds late or 4 early with each wrap of the word that counts the milliseconds, and
600 late or 400 early with each wrap of the one that counts the tenths. -/
structure Drift (w : TimeWatch) : Prop where
  early : 100 * w.handled100ms ≤ w.passedMs + 4 * (w.passedMs / 2 ^ 32)
  late : w.passedMs < 100 * (w.handled100ms + 1) + 96 * (w.passedMs / 2 ^ 32)
  earlyS : 10 * w.polledS ≤ w.handled100ms + 4 * (w.handled100ms / 2 ^ 32)
  lateS : w.handled100ms < 10 * (w.polledS + 1) + 6 * (w.handled100ms / 2 ^ 32)

/-- **Every run** in which no pass comes too late. -/
theorem drift_of_gapOk (clock : UInt32) (ps : List Pass)
    (h : AllSteps step GapOk (init clock) ps) : AllStates step Drift (init clock) ps := by
  refine AllStates.of_invariant (I := Inv) (fun w hw => ?_) (fun _ _ hw hp => hw.step hp)
    (inv_init clock) h
  have hearly := hw.early
  have hlate := hw.late
  have hearlyS := hw.earlyS
  have hlateS := hw.lateS
  constructor <;> omega

/-- For example, a second in two passes, the second of them one tick short. -/
theorem drift_of_second :
    AllStates step Drift (init 4294967290) [⟨8000001, false⟩, ⟨7999998, true⟩] :=
  drift_of_gapOk _ _ (by decide)

end TimeWatch

end LumesSwitch
