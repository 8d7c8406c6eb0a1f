import LumesSwitch.Lib.Words
import LumesSwitch.Flash.FlashLog
import LumesSwitch.Schedule.Timestamp

/-!
# The button lock (`lock_schedule.c`)

A button is unlocked, locked, or locked by a schedule: inside a window of minutes on the
active days of the week. The present lock of a schedule is worked out when the minute
changes and when a schedule is set; it and the configuration have a flash log each.

- `Locks.lockScheduleTask` — the task, once a second;
- `Locks.vdLockScheduleSet` — the message that sets a button's configuration;
- `Locks.lockScheduleInit` — the boot.
-/

namespace LumesSwitch

open Bufs Nor Runs Words

/-- `lock_unlock_enum`, without `TS_LOCK_UNKNOWN`. -/
inductive LockUnlock where
  | unlock
  | lock
  deriving DecidableEq, Repr

namespace LockUnlock

def code : LockUnlock → UInt8
  | .unlock => 0
  | .lock => 1

/-- A byte below `TS_LOCK_UNKNOWN`. -/
def ofCode (x : UInt8) : Option LockUnlock :=
  if x = 0 then some .unlock else if x = 1 then some .lock else none

@[simp] theorem ofCode_code (v : LockUnlock) : ofCode v.code = some v := by
  cases v <;> rfl

end LockUnlock

/-- `lock_schedule_t` -/
structure LockSchedule where
  lock : UInt8
  enSchedule : UInt8
  startTMin : UInt16
  stopTMin : UInt16
  activeDay : UInt8
  rsv : UInt8
  deriving DecidableEq

namespace LockSchedule

def toBytes (p : LockSchedule) : List UInt8 :=
  p.lock :: p.enSchedule :: (u16Bytes p.startTMin ++ u16Bytes p.stopTMin) ++ [p.activeDay, p.rsv]

def ofBytes (bs : List UInt8) : LockSchedule where
  lock := bs.getD 0 0
  enSchedule := bs.getD 1 0
  startTMin := ofU16Bytes (bs.getD 2 0) (bs.getD 3 0)
  stopTMin := ofU16Bytes (bs.getD 4 0) (bs.getD 5 0)
  activeDay := bs.getD 6 0
  rsv := bs.getD 7 0

@[simp] theorem toBytes_length (p : LockSchedule) : p.toBytes.length = 8 := rfl

theorem ofBytes_toBytes (p : LockSchedule) : ofBytes p.toBytes = p := by
  have hstart := ofU16Bytes_u16Bytes p.startTMin
  have hstop := ofU16Bytes_u16Bytes p.stopTMin
  show LockSchedule.mk p.lock p.enSchedule
    (ofU16Bytes (UInt8.ofNat p.startTMin.toNat) (UInt8.ofNat (p.startTMin.toNat / 2 ^ 8)))
    (ofU16Bytes (UInt8.ofNat p.stopTMin.toNat) (UInt8.ofNat (p.stopTMin.toNat / 2 ^ 8)))
    p.activeDay p.rsv = p
  rw [hstart, hstop]

/-- `ALL_DAY_OF_WEEK`, and the entry `lock_schedule_reset_to_default` writes. -/
def byDefault : LockSchedule := ⟨0, 0, 0, 0, 0x7F, 0⟩

/-- The lock that `lock_schedule_check_active_time_point` works out for a minute and a
day of the week. -/
def setLockVal (p : LockSchedule) (presentMin : UInt16) (wday : UInt8) : LockUnlock :=
  let bitPos := if wday = 0 then 6 else wday - 1
  if (p.activeDay >>> (6 - bitPos)) &&& 1 = 1 then
    if p.startTMin > p.stopTMin then
      if presentMin ≥ p.startTMin ∨ presentMin < p.stopTMin then .lock else .unlock
    else if p.startTMin < p.stopTMin then
      if presentMin ≥ p.startTMin ∧ presentMin < p.stopTMin then .lock else .unlock
    else .lock
  else .unlock

end LockSchedule

theorem lockScheduleBlock_pos (b : Board) : 1 ≤ 8 * b.numberButton := by
  have hbtn : b.numberButton = b.numberRl + 2 := rfl
  omega

theorem lockScheduleBlock_le (b : Board) : 8 * b.numberButton ≤ 255 := by
  have h := b.le_three
  have hbtn : b.numberButton = b.numberRl + 2 := rfl
  omega

theorem lockScheduleBlock_le_size (b : Board) : 8 * b.numberButton ≤ 4000 :=
  Nat.le_trans (lockScheduleBlock_le b) (by decide)

theorem lockScheduleSize_le (b : Board) : 4000 + 8 * b.numberButton ≤ flashSectorSize := by
  have h := b.le_three
  have hbtn : b.numberButton = b.numberRl + 2 := rfl
  rw [flashSectorSize]
  omega

theorem lockStatusBlock_pos (b : Board) : 1 ≤ b.numberButton := Nat.succ_pos _

theorem lockStatusBlock_le (b : Board) : b.numberButton ≤ 255 := by
  have h := lockScheduleBlock_le b
  omega

theorem lockStatusBlock_le_size (b : Board) : b.numberButton ≤ 4000 :=
  Nat.le_trans (lockStatusBlock_le b) (by decide)

theorem lockStatusSize_le (b : Board) : 4000 + b.numberButton ≤ flashSectorSize := by
  have h := lockScheduleSize_le b
  omega

/-- The log `FLASH_ADR_LOCK_SCHEDULE`: the configuration of all buttons. -/
def lockScheduleLog (b : Board) : FlashLog where
  flashAdr := 0x7A000
  flashSize := 4000
  blockSize := 8 * b.numberButton
  block_pos := lockScheduleBlock_pos b
  block_le := lockScheduleBlock_le b
  block_le_size := lockScheduleBlock_le_size b
  size_le := lockScheduleSize_le b

/-- The log `FLASH_ADR_LOCK_STATUS`: the present lock of all buttons. -/
def lockStatusLog (b : Board) : FlashLog where
  flashAdr := 0x7C000
  flashSize := 4000
  blockSize := b.numberButton
  block_pos := lockStatusBlock_pos b
  block_le := lockStatusBlock_le b
  block_le_size := lockStatusBlock_le_size b
  size_le := lockStatusSize_le b

/-- `lock_com_par` and `lock_schedule_st`, the two logs, and the clock. -/
structure Locks (b : Board) where
  isReadyFlag : Bool
  presentMin : UInt16
  presentLock : b.Btn → LockUnlock
  lockScheduleSt : b.Btn → LockSchedule
  scheduleLog : LogState
  statusLog : LogState
  time : TimePar

namespace Locks

variable {b : Board}

/-! ## Flash -/

/-- The bytes of `present_lock`. -/
def statusBytes (f : b.Btn → LockUnlock) : List UInt8 := encodeRecords (fun v => [v.code]) f

/-- The bytes of `lock_schedule_st`. -/
def scheduleBytes (f : b.Btn → LockSchedule) : List UInt8 := encodeRecords LockSchedule.toBytes f

/-- `current_lock_status_store` -/
def currentLockStatusStore (s : Locks b) : Locks b :=
  { s with statusLog := (lockStatusLog b).put s.statusLog (statusBytes s.presentLock) }

/-- The locks that the status log holds; `none` for a byte that is no lock. -/
def storedLock (log : LogState) : b.Btn → Option LockUnlock :=
  decodeRecords 1 (fun bs => LockUnlock.ofCode (bs.getD 0 0)) ((lockStatusLog b).restore log)

/-- `current_lock_status_restore` -/
def currentLockStatusRestore (s : Locks b) : Locks b :=
  let log := (lockStatusLog b).reindex s.statusLog
  let read : b.Btn → Option LockUnlock := storedLock log
  let s := { s with statusLog := log, presentLock := fun i => (read i).getD .unlock }
  if ∃ i, read i = none then s.currentLockStatusStore else s

/-- `lock_schedule_store` -/
def lockScheduleStore (s : Locks b) : Locks b :=
  { s with scheduleLog := (lockScheduleLog b).put s.scheduleLog (scheduleBytes s.lockScheduleSt) }

/-- `lock_schedule_reset_to_default` -/
def lockScheduleResetToDefault (s : Locks b) : Locks b :=
  lockScheduleStore { s with lockScheduleSt := fun _ => .byDefault }

/-- `lock_schedule_restore` -/
def lockScheduleRestore (s : Locks b) : Locks b :=
  let log := (lockScheduleLog b).reindex s.scheduleLog
  let st : b.Btn → LockSchedule :=
    decodeRecords 8 LockSchedule.ofBytes ((lockScheduleLog b).restore log)
  let s := { s with scheduleLog := log, lockScheduleSt := st }
  if ∃ i, (st i).lock > 1 then s.lockScheduleResetToDefault else s

/-- `lock_schedule_init` -/
def lockScheduleInit (s : Locks b) : Locks b :=
  let s := s.lockScheduleRestore.currentLockStatusRestore
  { s with presentLock := fun i =>
      if (s.lockScheduleSt i).lock = 1 then
        if (s.lockScheduleSt i).enSchedule = 0 then .lock else s.presentLock i
      else .unlock }

/-! ## The check -/

/-- Change the present lock of a button. -/
def setPresent (s : Locks b) (i : b.Btn) (v : LockUnlock) : Locks b :=
  { s with presentLock := Function.update s.presentLock i v }

/-- `lock_schedule_check_active_time_point` -/
def lockScheduleCheckActiveTimePoint (s : Locks b) (wday : UInt8) (i : b.Btn) : Locks b :=
  if wday ≥ invalidWeekDay then s
  else
    let p := s.lockScheduleSt i
    let v := p.setLockVal s.presentMin wday
    if s.presentLock i ≠ v ∨ s.presentMin = p.startTMin ∨ s.presentMin = p.stopTMin then
      (s.setPresent i v).currentLockStatusStore
    else s

/-- The body of the loop of `lock_schedule_check_lock_unlock`. -/
def checkButton (wday : UInt8) (s : Locks b) (i : b.Btn) : Locks b :=
  if (s.lockScheduleSt i).lock = 0 then s.setPresent i .unlock
  else if (s.lockScheduleSt i).enSchedule = 0 then s.setPresent i .lock
  else s.lockScheduleCheckActiveTimePoint wday i

/-- `lock_schedule_check_lock_unlock` -/
def lockScheduleCheckLockUnlock (s : Locks b) : Locks b :=
  runFrom (checkButton s.time.timestampGetWeekDay) s (List.finRange b.numberButton)

/-- `lock_schedule_task` -/
def lockScheduleTask (s : Locks b) : Locks b :=
  let tmp := s.time.timestampGetMinuteInDay
  if tmp ≠ invalidMinute then
    if s.isReadyFlag = false then
      if clockTimeExceed s.time.timeS 0 10 then { s with isReadyFlag := true } else s
    else if tmp ≠ s.presentMin then
      lockScheduleCheckLockUnlock { s with presentMin := tmp }
    else s
  else s

/-! ## Configuration -/

/-- Change the configuration of a button. -/
def setSchedule (s : Locks b) (i : b.Btn) (p : LockSchedule) : Locks b :=
  { s with lockScheduleSt := Function.update s.lockScheduleSt i p }

/-- `VD_TS_LOCK_SCHEDULE` -/
def vdTsLockSchedule : UInt8 := 0xC8

/-- What `vd_lock_schedule_set` does for a button of the board, and whether it is
accepted (`err == 0`). -/
def applySet (s : Locks b) (i : b.Btn) (p : LockSchedule) : Locks b × Bool :=
  let old := s.lockScheduleSt i
  if p.lock = 1 then
    if p.enSchedule &&& 1 = 1 then
      if p.startTMin ≤ 1439 ∧ p.stopTMin ≤ 1439 then
        let s := s.setSchedule i ⟨1, 1, p.startTMin, p.stopTMin, p.activeDay, old.rsv⟩
        (s.lockScheduleCheckLockUnlock.lockScheduleStore, true)
      else (s, false)
    else
      let s := s.setSchedule i { old with lock := 1, enSchedule := 0 }
      ((s.setPresent i .lock).lockScheduleStore, true)
  else
    let s := s.setSchedule i { old with lock := 0, enSchedule := 0 }
    ((s.setPresent i .unlock).lockScheduleStore, true)

/-- `vd_lock_schedule_set`: a button index out of range is refused; the answer to any
other message is the configuration of its button. -/
def vdLockScheduleSet (s : Locks b) (modelIdx : UInt8) (par : LockSchedule) :
    Locks b × Bool × Option (List UInt8) :=
  if h : modelIdx.toNat < b.numberButton then
    let i : b.Btn := ⟨modelIdx.toNat, h⟩
    let (s, accepted) := s.applySet i par
    (s, accepted, some (vdTsLockSchedule :: (s.lockScheduleSt i).toBytes))
  else (s, false, none)

/-! ## Events -/

/-- What happens to the locks: the clock is set, runs on or jumps; the task; a message;
power is lost and comes back. -/
inductive Event where
  | time (t : TimePar)
  | task
  | set (modelIdx : UInt8) (par : LockSchedule)
  | reboot

/-- The variables after power-on, before `lock_schedule_init`; the logs are what the
flash holds. -/
def powerOn (b : Board) (scheduleLog statusLog : LogState) : Locks b where
  isReadyFlag := false
  presentMin := 255
  presentLock := fun _ => .unlock
  lockScheduleSt := fun _ => ⟨0, 0, 0, 0, 0, 0⟩
  scheduleLog := scheduleLog
  statusLog := statusLog
  time := ⟨0, false, 0, 0⟩

def reboot (s : Locks b) : Locks b := (powerOn b s.scheduleLog s.statusLog).lockScheduleInit

def step (s : Locks b) : Event → Locks b
  | .time t => { s with time := t }
  | .task => s.lockScheduleTask
  | .set modelIdx par => (s.vdLockScheduleSet modelIdx par).1
  | .reboot => s.reboot

/-! ## What the operations change -/

theorem setPresent_self (s : Locks b) (i : b.Btn) (v : LockUnlock) :
    (s.setPresent i v).presentLock i = v := Function.update_self ..

theorem setPresent_other (s : Locks b) {i j : b.Btn} (v : LockUnlock) (h : j ≠ i) :
    (s.setPresent i v).presentLock j = s.presentLock j := Function.update_of_ne h ..

theorem setSchedule_self (s : Locks b) (i : b.Btn) (p : LockSchedule) :
    (s.setSchedule i p).lockScheduleSt i = p := Function.update_self ..

theorem setSchedule_other (s : Locks b) {i j : b.Btn} (p : LockSchedule) (h : j ≠ i) :
    (s.setSchedule i p).lockScheduleSt j = s.lockScheduleSt j := Function.update_of_ne h ..

/-- A button of the check changes its present lock and the status log at most. -/
theorem checkButton_frame (wday : UInt8) (s : Locks b) (i : b.Btn) :
    ∃ v log, checkButton wday s i =
      { s with presentLock := Function.update s.presentLock i v, statusLog := log } := by
  rw [checkButton]
  split
  · exact ⟨_, _, rfl⟩
  · split
    · exact ⟨_, _, rfl⟩
    · rw [lockScheduleCheckActiveTimePoint]
      split
      · exact ⟨s.presentLock i, s.statusLog, by rw [Function.update_eq_self]⟩
      · dsimp only
        split
        · exact ⟨_, _, rfl⟩
        · exact ⟨s.presentLock i, s.statusLog, by rw [Function.update_eq_self]⟩

theorem check_frame (s : Locks b) :
    ∃ present log, s.lockScheduleCheckLockUnlock =
      { s with presentLock := present, statusLog := log } := by
  rw [lockScheduleCheckLockUnlock]
  generalize s.time.timestampGetWeekDay = wday
  refine invariant_runFrom
    (I := fun t => ∃ present log, t = { s with presentLock := present, statusLog := log })
    ?_ ⟨s.presentLock, s.statusLog, rfl⟩ _
  rintro t i ⟨present, log, rfl⟩
  obtain ⟨v, log', ht⟩ :=
    checkButton_frame wday { s with presentLock := present, statusLog := log } i
  exact ⟨_, _, ht⟩

theorem check_presentMin (s : Locks b) :
    s.lockScheduleCheckLockUnlock.presentMin = s.presentMin := by
  obtain ⟨present, log, hs⟩ := s.check_frame
  rw [hs]

theorem check_lockScheduleSt (s : Locks b) :
    s.lockScheduleCheckLockUnlock.lockScheduleSt = s.lockScheduleSt := by
  obtain ⟨present, log, hs⟩ := s.check_frame
  rw [hs]

theorem check_time (s : Locks b) : s.lockScheduleCheckLockUnlock.time = s.time := by
  obtain ⟨present, log, hs⟩ := s.check_frame
  rw [hs]

/-- What the task does. -/
inductive TaskStep (s s' : Locks b) : Prop where
  | idle (hidle : s.time.Valid → s.isReadyFlag = true →
      s.time.timestampGetMinuteInDay = s.presentMin) (hs' : s' = s)
  | ready (hnot : s.isReadyFlag = false) (hs' : s' = { s with isReadyFlag := true })
  | check (hvalid : s.time.Valid) (hready : s.isReadyFlag = true)
      (hne : s.time.timestampGetMinuteInDay ≠ s.presentMin) (hs' : s' = lockScheduleCheckLockUnlock
        { s with presentMin := s.time.timestampGetMinuteInDay })

theorem taskStep (s : Locks b) : TaskStep s s.lockScheduleTask := by
  rw [lockScheduleTask]
  split
  · next hmin =>
    split
    · next hnot =>
      split
      · exact .ready hnot rfl
      · exact .idle (fun _ hready => nomatch hnot.symm.trans hready) rfl
    · next hready =>
      split
      · next hne =>
        exact .check (TimePar.minute_ne_invalid_iff.mp hmin) (Bool.not_eq_false _ ▸ hready) hne rfl
      · next heq => exact .idle (fun _ _ => not_not.mp heq) rfl
  · next hmin =>
    exact .idle (fun hvalid => absurd (TimePar.minute_ne_invalid_iff.mpr hvalid) hmin) rfl

/-- A message that locks its button by a schedule. -/
def SetsSchedule (p : LockSchedule) : Prop :=
  p.lock = 1 ∧ p.enSchedule &&& 1 = 1 ∧ p.startTMin ≤ 1439 ∧ p.stopTMin ≤ 1439

instance (p : LockSchedule) : Decidable (SetsSchedule p) := inferInstanceAs (Decidable (_ ∧ _))

/-- The configuration such a message leaves. -/
def withSchedule (old p : LockSchedule) : LockSchedule :=
  ⟨1, 1, p.startTMin, p.stopTMin, p.activeDay, old.rsv⟩

/-- The configuration that any other accepted message leaves. -/
def withoutSchedule (old : LockSchedule) (v : LockUnlock) : LockSchedule :=
  { old with lock := v.code, enSchedule := 0 }

/-- A message is accepted. -/
def Accepts (s : Locks b) (modelIdx : UInt8) (par : LockSchedule) : Prop :=
  (s.vdLockScheduleSet modelIdx par).2.1 = true

instance (s : Locks b) (modelIdx : UInt8) (par : LockSchedule) :
    Decidable (Accepts s modelIdx par) :=
  inferInstanceAs (Decidable (_ = true))

/-- What a message does: it is refused, sets a schedule, or locks or unlocks for good. -/
inductive SetStep (s : Locks b) (modelIdx : UInt8) (par : LockSchedule) (s' : Locks b) : Prop where
  | refused (hacc : ¬ s.Accepts modelIdx par) (hs' : s' = s)
  | schedule (i : b.Btn) (hi : i.val = modelIdx.toNat) (hacc : s.Accepts modelIdx par)
      (hp : SetsSchedule par)
      (hs' : s' = (s.setSchedule i (withSchedule (s.lockScheduleSt i) par)
        |>.lockScheduleCheckLockUnlock.lockScheduleStore))
  | plain (i : b.Btn) (hi : i.val = modelIdx.toNat) (hacc : s.Accepts modelIdx par)
      (hp : ¬ SetsSchedule par) (v : LockUnlock) (hv : v = if par.lock = 1 then .lock else .unlock)
      (hs' : s' = ((s.setSchedule i (withoutSchedule (s.lockScheduleSt i) v)).setPresent i v
        |>.lockScheduleStore))

/-- A message for a button of the board. -/
theorem vdLockScheduleSet_eq (s : Locks b) {modelIdx : UInt8} (par : LockSchedule)
    (hidx : modelIdx.toNat < b.numberButton) :
    s.vdLockScheduleSet modelIdx par =
      ((s.applySet ⟨modelIdx.toNat, hidx⟩ par).1, (s.applySet ⟨modelIdx.toNat, hidx⟩ par).2,
        some (vdTsLockSchedule ::
          ((s.applySet ⟨modelIdx.toNat, hidx⟩ par).1.lockScheduleSt
            ⟨modelIdx.toNat, hidx⟩).toBytes)) := by
  rw [vdLockScheduleSet, dif_pos hidx]

/-- A message for a button of the board that sets a schedule is accepted. -/
theorem accepts_of_setsSchedule {s : Locks b} {par : LockSchedule} (hp : SetsSchedule par)
    {i : b.Btn} {modelIdx : UInt8} (hi : i.val = modelIdx.toNat) : Accepts s modelIdx par := by
  obtain ⟨hlock, hen, hrange⟩ := hp
  rw [Accepts, s.vdLockScheduleSet_eq par (hi ▸ i.isLt)]
  dsimp only
  rw [applySet, if_pos hlock, if_pos hen, if_pos hrange]

theorem setStep (s : Locks b) (modelIdx : UInt8) (par : LockSchedule) :
    SetStep s modelIdx par (s.step (.set modelIdx par)) := by
  have hstep : s.step (.set modelIdx par) = (s.vdLockScheduleSet modelIdx par).1 := rfl
  by_cases hidx : modelIdx.toNat < b.numberButton
  · have happly := s.vdLockScheduleSet_eq par hidx
    have hacc_iff : s.Accepts modelIdx par ↔ (s.applySet ⟨modelIdx.toNat, hidx⟩ par).2 = true := by
      rw [Accepts, happly]
    rw [hstep, happly]
    rw [applySet] at hacc_iff ⊢
    by_cases hlock : par.lock = 1
    · rw [if_pos hlock] at hacc_iff ⊢
      by_cases hen : par.enSchedule &&& 1 = 1
      · rw [if_pos hen] at hacc_iff ⊢
        by_cases hrange : par.startTMin ≤ 1439 ∧ par.stopTMin ≤ 1439
        · rw [if_pos hrange] at hacc_iff ⊢
          exact .schedule _ rfl (hacc_iff.mpr rfl) ⟨hlock, hen, hrange⟩ rfl
        · rw [if_neg hrange] at hacc_iff ⊢
          exact .refused (fun hacc => nomatch hacc_iff.mp hacc) rfl
      · rw [if_neg hen] at hacc_iff ⊢
        exact .plain _ rfl (hacc_iff.mpr rfl) (fun hp => hen hp.2.1) .lock (if_pos hlock).symm rfl
    · rw [if_neg hlock] at hacc_iff ⊢
      exact .plain _ rfl (hacc_iff.mpr rfl) (fun hp => hlock hp.1) .unlock (if_neg hlock).symm rfl
  · have hnone : s.vdLockScheduleSet modelIdx par = (s, false, none) := dif_neg hidx
    refine .refused (fun hacc => ?_) ?_
    · rw [Accepts, hnone] at hacc
      cases hacc
    · rw [hstep, hnone]

/-- After a boot an unscheduled button has the lock of its configuration. -/
theorem init_presentLock (s : Locks b) (i : b.Btn) :
    (((s.lockScheduleInit).lockScheduleSt i).lock ≠ 1 →
        s.lockScheduleInit.presentLock i = .unlock) ∧
      (((s.lockScheduleInit).lockScheduleSt i).lock = 1 →
        ((s.lockScheduleInit).lockScheduleSt i).enSchedule = 0 →
        s.lockScheduleInit.presentLock i = .lock) := by
  rw [lockScheduleInit]
  dsimp only
  constructor
  · intro h
    rw [if_neg h]
  · intro h h'
    rw [if_pos h, if_pos h']

theorem currentLockStatusRestore_lockScheduleSt (s : Locks b) :
    s.currentLockStatusRestore.lockScheduleSt = s.lockScheduleSt := by
  rw [currentLockStatusRestore]
  split <;> rfl

theorem init_presentMin (s : Locks b) : s.lockScheduleInit.presentMin = s.presentMin := by
  rw [lockScheduleInit]
  dsimp only
  rw [currentLockStatusRestore, lockScheduleRestore]
  split <;> split <;> rfl

/-- After a boot `lock` is 0 or 1 in every configuration. -/
theorem init_lock_le (s : Locks b) (i : b.Btn) :
    (s.lockScheduleInit.lockScheduleSt i).lock ≤ 1 := by
  rw [lockScheduleInit]
  dsimp only
  rw [currentLockStatusRestore_lockScheduleSt, lockScheduleRestore]
  split
  · show (0 : UInt8) ≤ 1
    decide
  · next h => exact UInt8.not_lt.mp fun hgt => h ⟨i, hgt⟩

end Locks

end LumesSwitch
