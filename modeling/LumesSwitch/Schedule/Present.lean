import LumesSwitch.Schedule.Model

/-!
# The present lock and the schedule

What the lock is for: the present lock of a button is a function of its configuration
and the time. The check that works it out uses the minute of the last tick, and runs
only when the minute changes or a schedule is set.

- `LockSchedule.wants` — the lock a configuration asks for at a time;
- `Locks.check_presentLock` — what the check leaves in each present lock;
- `Observed` — the locks, with the time each present lock was last worked out for;
- `locks_follow_of_stepOk` — the present locks follow the schedules where that time
  calls for the same lock as the clock.
-/

namespace LumesSwitch

open Runs

/-! ## What a schedule asks for -/

/-- Minute `m` is in the window from `start` to `stop`, which may run over midnight. -/
def InWindow (start stop m : UInt16) : Prop :=
  if start < stop then start ≤ m ∧ m < stop
  else if stop < start then (start ≤ m ∧ m < 1440) ∨ m < stop
  else True

instance (start stop m : UInt16) : Decidable (InWindow start stop m) := by
  unfold InWindow
  infer_instance

/-- The bit of a day of the week in `active_day`: Monday has bit 6, Saturday bit 1 and
Sunday bit 0. -/
def dayBit (wday : UInt8) : Nat := if wday = 0 then 0 else 7 - wday.toNat

namespace LockSchedule

/-- The button is locked by its schedule. -/
def Scheduled (p : LockSchedule) : Prop := p.lock ≠ 0 ∧ p.enSchedule ≠ 0

instance (p : LockSchedule) : Decidable p.Scheduled := inferInstanceAs (Decidable (_ ∧ _))

/-- The schedule is active: today's bit is set and the minute is in the window. -/
def ActiveAt (p : LockSchedule) (m : UInt16) (wday : UInt8) : Prop :=
  p.activeDay.toNat.testBit (dayBit wday) = true ∧ InWindow p.startTMin p.stopTMin m

instance (p : LockSchedule) (m : UInt16) (wday : UInt8) : Decidable (p.ActiveAt m wday) :=
  inferInstanceAs (Decidable (_ ∧ _))

/-- The lock a configuration asks for at a minute of a day. -/
def wants (p : LockSchedule) (m : UInt16) (wday : UInt8) : LockUnlock :=
  if p.lock = 0 then .unlock
  else if p.enSchedule = 0 then .lock
  else if p.ActiveAt m wday then .lock
  else .unlock

theorem dayBit_eq (x : UInt8) {wday : UInt8} (h : wday < 7) :
    (x >>> (6 - if wday = 0 then 6 else wday - 1)) &&& 1 = 1 ↔
      x.toNat.testBit (dayBit wday) = true := by
  have hall : ∀ x : Fin 256, ∀ w : Fin 7,
      ((UInt8.ofNat x.val >>> (6 - if UInt8.ofNat w.val = 0 then 6 else UInt8.ofNat w.val - 1))
        &&& 1 = 1 ↔ x.val.testBit (dayBit (UInt8.ofNat w.val)) = true) := by
    decide +kernel
  have hw : wday.toNat < 7 := UInt8.lt_iff_toNat_lt.mp h
  have := hall ⟨x.toNat, x.toNat_lt⟩ ⟨wday.toNat, hw⟩
  rwa [UInt8.ofNat_toNat, UInt8.ofNat_toNat] at this

/-- The check computes whether the schedule is active. -/
theorem setLockVal_eq (p : LockSchedule) {m : UInt16} {wday : UInt8} (hm : m < 1440)
    (hw : wday < 7) : p.setLockVal m wday = if p.ActiveAt m wday then .lock else .unlock := by
  rw [setLockVal, if_congr (dayBit_eq p.activeDay hw) rfl rfl]
  by_cases hday : p.activeDay.toNat.testBit (dayBit wday) = true
  · have hact : p.ActiveAt m wday ↔ InWindow p.startTMin p.stopTMin m := and_iff_right hday
    rw [if_pos hday, if_congr hact rfl rfl]
    unfold InWindow
    by_cases hgt : p.startTMin > p.stopTMin
    · rw [if_pos hgt]
      refine if_congr ?_ rfl rfl
      rw [if_neg (UInt16.lt_asymm hgt), if_pos hgt]
      exact or_congr_left (and_iff_left hm).symm
    · rw [if_neg hgt]
      by_cases hlt : p.startTMin < p.stopTMin
      · rw [if_pos hlt]
        exact if_congr (by rw [if_pos hlt]) rfl rfl
      · rw [if_neg hlt]
        exact (if_pos (by rw [if_neg hlt, if_neg hgt]; trivial)).symm
  · rw [if_neg hday, if_neg fun h => hday h.1]

theorem wants_eq_setLockVal {p : LockSchedule} (h : p.Scheduled) {m : UInt16} {wday : UInt8}
    (hm : m < 1440) (hw : wday < 7) : p.wants m wday = p.setLockVal m wday := by
  rw [wants, if_neg h.1, if_neg h.2, p.setLockVal_eq hm hw]

end LockSchedule

namespace Locks

variable {b : Board}

/-! ## The check -/

/-- The present lock the check leaves, from the one it finds. -/
def judge (p : LockSchedule) (m : UInt16) (wday : UInt8) (v : LockUnlock) : LockUnlock :=
  if p.lock = 0 then .unlock
  else if p.enSchedule = 0 then .lock
  else if wday ≥ invalidWeekDay then v
  else p.setLockVal m wday

theorem judge_of_not_scheduled {p : LockSchedule} (h : ¬ p.Scheduled) (m m' : UInt16)
    (wday wday' : UInt8) (v : LockUnlock) : judge p m wday v = p.wants m' wday' := by
  rw [judge, LockSchedule.wants]
  by_cases hlock : p.lock = 0
  · rw [if_pos hlock, if_pos hlock]
  · have hen : p.enSchedule = 0 := not_not.mp fun hen => h ⟨hlock, hen⟩
    rw [if_neg hlock, if_neg hlock, if_pos hen, if_pos hen]

theorem judge_of_scheduled {p : LockSchedule} (h : p.Scheduled) (m : UInt16) {wday : UInt8}
    (hw : wday < 7) (v : LockUnlock) : judge p m wday v = p.setLockVal m wday := by
  rw [judge, if_neg h.1, if_neg h.2, if_neg]
  intro hge
  have h8 : (8 : Nat) ≤ wday.toNat := UInt8.le_iff_toNat_le.mp hge
  have h7 : wday.toNat < 7 := UInt8.lt_iff_toNat_lt.mp hw
  omega

theorem judge_of_invalid {p : LockSchedule} (h : p.Scheduled) (m : UInt16) (v : LockUnlock) :
    judge p m invalidWeekDay v = v := by
  rw [judge, if_neg h.1, if_neg h.2, if_pos (UInt8.le_refl _)]

theorem checkButton_presentLock_self (wday : UInt8) (s : Locks b) (i : b.Btn) :
    (checkButton wday s i).presentLock i =
      judge (s.lockScheduleSt i) s.presentMin wday (s.presentLock i) := by
  rw [checkButton, judge]
  split
  · exact Function.update_self ..
  · split
    · exact Function.update_self ..
    · rw [lockScheduleCheckActiveTimePoint]
      split
      · rfl
      · dsimp only
        split
        · exact Function.update_self ..
        · next h =>
          -- not written: it is what the check works out
          exact not_not.mp fun hne => h (.inl hne)

theorem checkButton_presentLock_other (wday : UInt8) (s : Locks b) {i j : b.Btn} (h : j ≠ i) :
    (checkButton wday s j).presentLock i = s.presentLock i := by
  obtain ⟨v, log, hs⟩ := checkButton_frame wday s j
  rw [hs]
  exact Function.update_of_ne h.symm ..

/-- **Step lemma** of the check. -/
theorem check_presentLock (s : Locks b) (i : b.Btn) :
    s.lockScheduleCheckLockUnlock.presentLock i =
      judge (s.lockScheduleSt i) s.presentMin s.time.timestampGetWeekDay (s.presentLock i) := by
  rw [lockScheduleCheckLockUnlock]
  generalize s.time.timestampGetWeekDay = wday
  have hother : ∀ (t : Locks b) j, j ≠ i →
      ((checkButton wday t j).presentLock i, (checkButton wday t j).lockScheduleSt i,
        (checkButton wday t j).presentMin) = (t.presentLock i, t.lockScheduleSt i, t.presentMin) := by
    intro t j hj
    obtain ⟨v, log, ht⟩ := checkButton_frame wday t j
    rw [checkButton_presentLock_other _ t hj, ht]
  have hself : ∀ t : Locks b,
      ((checkButton wday t i).presentLock i, (checkButton wday t i).lockScheduleSt i,
        (checkButton wday t i).presentMin) =
        (judge (t.lockScheduleSt i) t.presentMin wday (t.presentLock i), t.lockScheduleSt i,
          t.presentMin) := by
    intro t
    obtain ⟨v, log, ht⟩ := checkButton_frame wday t i
    rw [checkButton_presentLock_self, ht]
  have hview := runFrom_view (fun t : Locks b => (t.presentLock i, t.lockScheduleSt i, t.presentMin))
    (g := fun v => (judge v.2.1 v.2.2 wday v.1, v.2)) hother hself
    (List.nodup_finRange b.numberButton) (List.mem_finRange i) s
  exact congrArg Prod.fst hview

/-! ## Without a schedule -/

/-- A button without a schedule has the lock of its configuration. -/
def PlainOk (s : Locks b) : Prop :=
  ∀ i, ¬ (s.lockScheduleSt i).Scheduled → ∀ m wday,
    s.presentLock i = (s.lockScheduleSt i).wants m wday

theorem plainOk_init (s : Locks b) : s.lockScheduleInit.PlainOk := by
  intro i hns m wday
  obtain ⟨hunlock, hlock⟩ := init_presentLock s i
  have hle := init_lock_le s i
  generalize s.lockScheduleInit = t at *
  rw [LockSchedule.wants]
  by_cases h0 : (t.lockScheduleSt i).lock = 0
  · rw [if_pos h0]
    exact hunlock (by rw [h0]; decide)
  · have h1 : (t.lockScheduleSt i).lock = 1 := by
      rw [UInt8.le_iff_toNat_le] at hle
      rw [← UInt8.toNat_inj] at h0 ⊢
      simp only [UInt8.reduceToNat] at hle h0 ⊢
      omega
    have hen : (t.lockScheduleSt i).enSchedule = 0 := not_not.mp fun hen => hns ⟨h0, hen⟩
    rw [if_neg h0, if_pos hen]
    exact hlock h1 hen

theorem plainOk_check (s : Locks b) : s.lockScheduleCheckLockUnlock.PlainOk := by
  obtain ⟨present, log, hframe⟩ := check_frame s
  have hpresent := check_presentLock s
  rw [hframe] at hpresent ⊢
  exact fun i hns m wday => (hpresent i).trans (judge_of_not_scheduled hns ..)

/-- A configuration without a schedule asks for its lock. -/
theorem withoutSchedule_spec (old : LockSchedule) (v : LockUnlock) :
    ¬ (withoutSchedule old v).Scheduled ∧ ∀ m wday, v = (withoutSchedule old v).wants m wday := by
  cases v with
  | unlock => exact ⟨fun h => h.1 rfl, fun _ _ => rfl⟩
  | lock => exact ⟨fun h => h.2 rfl, fun _ _ => rfl⟩

/-- Only another button can still have a schedule. -/
theorem ne_of_scheduled {s : Locks b} {i j : b.Btn} {v : LockUnlock}
    (h : ((s.setSchedule i (withoutSchedule (s.lockScheduleSt i) v)).lockScheduleSt j).Scheduled) :
    j ≠ i := by
  rintro rfl
  rw [setSchedule_self] at h
  exact (withoutSchedule_spec (s.lockScheduleSt j) v).1 h

theorem PlainOk.setPlain {s : Locks b} (h : s.PlainOk) (i : b.Btn) (v : LockUnlock) :
    ((s.setSchedule i (withoutSchedule (s.lockScheduleSt i) v)).setPresent i v).PlainOk := by
  intro j hns m wday
  have hcfg : ((s.setSchedule i (withoutSchedule (s.lockScheduleSt i) v)).setPresent i v
      |>.lockScheduleSt j) =
        (s.setSchedule i (withoutSchedule (s.lockScheduleSt i) v)).lockScheduleSt j := rfl
  rw [hcfg] at hns ⊢
  by_cases hj : j = i
  · subst hj
    rw [setPresent_self, setSchedule_self]
    exact (withoutSchedule_spec _ v).2 m wday
  · rw [setPresent_other _ _ hj, setSchedule_other _ _ hj]
    rw [setSchedule_other _ _ hj] at hns
    exact h j hns m wday

/-! ## With a schedule -/

/-- A present lock is what was worked out for the minute and the day that `judged` gives. -/
def JudgedOk (s : Locks b) (judged : b.Btn → Option (UInt16 × UInt8)) : Prop :=
  ∀ i m wday, (s.lockScheduleSt i).Scheduled → judged i = some (m, wday) →
    m < 1440 ∧ wday < 7 ∧ s.presentLock i = (s.lockScheduleSt i).setLockVal m wday

/-- The check works out every schedule for its own minute and day. -/
theorem judgedOk_check {s : Locks b} (hmin : s.presentMin < 1440) (hvalid : s.time.Valid) :
    JudgedOk s.lockScheduleCheckLockUnlock fun _ =>
      some (s.presentMin, s.time.timestampGetWeekDay) := by
  obtain ⟨present, log, hframe⟩ := check_frame s
  have hpresent := check_presentLock s
  have hw := TimePar.weekDay_lt hvalid
  rw [hframe] at hpresent ⊢
  rintro i m wday hsch heq
  obtain ⟨rfl, rfl⟩ := Prod.mk.inj (Option.some.inj heq)
  exact ⟨hmin, hw, (hpresent i).trans (judge_of_scheduled hsch _ hw _)⟩

variable {s : Locks b} {judged : b.Btn → Option (UInt16 × UInt8)}

/-- Without a valid clock the check leaves the schedules alone. -/
theorem JudgedOk.check_invalid (h : JudgedOk s judged) (hvalid : ¬ s.time.Valid) :
    JudgedOk s.lockScheduleCheckLockUnlock judged := by
  obtain ⟨present, log, hframe⟩ := check_frame s
  have hpresent := check_presentLock s
  rw [TimePar.weekDay_of_not_valid hvalid] at hpresent
  rw [hframe] at hpresent ⊢
  rintro i m wday hsch heq
  obtain ⟨hm, hw, hv⟩ := h i m wday hsch heq
  exact ⟨hm, hw, ((hpresent i).trans (judge_of_invalid hsch ..)).trans hv⟩

theorem JudgedOk.setSchedule (h : JudgedOk s judged) (i : b.Btn) (p : LockSchedule) :
    JudgedOk (s.setSchedule i p) (Function.update judged i none) := by
  intro j m wday hsch heq
  by_cases hj : j = i
  · rw [hj, Function.update_self] at heq
    cases heq
  · rw [Function.update_of_ne hj] at heq
    rw [setSchedule_other _ _ hj] at hsch ⊢
    exact h j m wday hsch heq

theorem JudgedOk.setPlain (h : JudgedOk s judged) (i : b.Btn) (v : LockUnlock) :
    JudgedOk ((s.setSchedule i (withoutSchedule (s.lockScheduleSt i) v)).setPresent i v) judged := by
  intro j m wday hsch heq
  have hj : j ≠ i := ne_of_scheduled hsch
  have hcfg := s.setSchedule_other (withoutSchedule (s.lockScheduleSt i) v) hj
  have hkeep := (s.setSchedule i (withoutSchedule (s.lockScheduleSt i) v)).setPresent_other v hj
  have hsch' : (s.lockScheduleSt j).Scheduled := hcfg ▸ hsch
  obtain ⟨hm, hw, hv⟩ := h j m wday hsch' heq
  refine ⟨hm, hw, hkeep.trans (hv.trans ?_)⟩
  exact congrArg (·.setLockVal m wday) hcfg.symm

end Locks

/-! ## The time of the last check -/

/-- The locks; the minute and the day for which the present lock of each scheduled
button was last worked out, if it was since the boot and since its schedule was set; and
whether a message was accepted since the boot while the clock was valid. -/
structure Observed (b : Board) where
  locks : Locks b
  judged : b.Btn → Option (UInt16 × UInt8)
  seen : Bool

namespace Observed

variable {b : Board}

open Locks

/-- After the boot on what the flash holds. -/
def boot (b : Board) (scheduleLog statusLog : LogState) : Observed b where
  locks := (powerOn b scheduleLog statusLog).lockScheduleInit
  judged := fun _ => none
  seen := false

/-- The task checks the buttons. -/
def Checks (s : Locks b) : Prop :=
  s.time.Valid ∧ s.isReadyFlag = true ∧ s.time.timestampGetMinuteInDay ≠ s.presentMin

instance (s : Locks b) : Decidable (Checks s) := inferInstanceAs (Decidable (_ ∧ _))

def step (o : Observed b) : Event → Observed b
  | .time t => { o with locks := o.locks.step (.time t) }
  | .task =>
    { o with
      locks := o.locks.step .task
      judged :=
        if Checks o.locks then
          fun _ => some (o.locks.time.timestampGetMinuteInDay, o.locks.time.timestampGetWeekDay)
        else o.judged }
  | .set modelIdx par =>
    { locks := o.locks.step (.set modelIdx par)
      judged :=
        if Accepts o.locks modelIdx par ∧ SetsSchedule par then
          if o.locks.time.Valid then
            fun _ => some (o.locks.presentMin, o.locks.time.timestampGetWeekDay)
          else fun i => if i.val = modelIdx.toNat then none else o.judged i
        else o.judged
      seen := o.seen || decide (Accepts o.locks modelIdx par ∧ o.locks.time.Valid) }
  | .reboot => ⟨o.locks.reboot, fun _ => none, false⟩

/-- Every present lock is what its configuration asks for now; a schedule asks for
something where the clock is valid. -/
def Follows (s : Locks b) : Prop :=
  ∀ i, ((s.lockScheduleSt i).Scheduled → s.time.Valid) →
    s.presentLock i =
      (s.lockScheduleSt i).wants s.time.timestampGetMinuteInDay s.time.timestampGetWeekDay

/-- The locks follow the schedules after an accepted message, with the clock valid, and
after every later task of a module that is ready. -/
def FollowsAfter (o : Observed b) : Event → Prop
  | .set modelIdx par =>
    Accepts o.locks modelIdx par → o.locks.time.Valid → Follows (o.locks.step (.set modelIdx par))
  | .task => o.locks.isReadyFlag = true → o.seen = true → Follows (o.locks.step .task)
  | _ => True

/-! ## The condition -/

/-- What a schedule asks for now is what it asked for when the present lock of its button
was last worked out, and that was since it was set. -/
def UpToDate (s : Locks b) (judged : b.Btn → Option (UInt16 × UInt8)) (i : b.Btn) : Prop :=
  (s.lockScheduleSt i).Scheduled →
    ∃ t ∈ judged i, ((s.lockScheduleSt i).ActiveAt t.1 t.2 ↔
      (s.lockScheduleSt i).ActiveAt s.time.timestampGetMinuteInDay s.time.timestampGetWeekDay)

instance (s : Locks b) (judged : b.Btn → Option (UInt16 × UInt8)) (i : b.Btn) :
    Decidable (UpToDate s judged i) := inferInstanceAs (Decidable (_ → _))

/-- A schedule asks for the same lock in the minute of the last tick and in the minute
of the clock. -/
def SameMinute (s : Locks b) (p : LockSchedule) : Prop :=
  p.Scheduled → (p.ActiveAt s.presentMin s.time.timestampGetWeekDay ↔
    p.ActiveAt s.time.timestampGetMinuteInDay s.time.timestampGetWeekDay)

instance (s : Locks b) (p : LockSchedule) : Decidable (SameMinute s p) :=
  inferInstanceAs (Decidable (_ → _))

/-- The condition: a message that sets a schedule comes where the minute of the last tick
is as good as the minute of the clock, for every button; another message, and a tick that
does not check, where every other schedule is up to date. -/
def StepOk (o : Observed b) : Event → Prop
  | .set modelIdx par => o.locks.time.Valid → ∀ i : b.Btn, i.val = modelIdx.toNat →
    if SetsSchedule par then
      ∀ j, SameMinute o.locks
        (Function.update o.locks.lockScheduleSt i (withSchedule (o.locks.lockScheduleSt i) par) j)
    else Accepts o.locks modelIdx par → ∀ j, j ≠ i → UpToDate o.locks o.judged j
  | .task => o.locks.time.Valid → o.locks.isReadyFlag = true → o.seen = true →
    o.locks.time.timestampGetMinuteInDay = o.locks.presentMin →
      ∀ j, UpToDate o.locks o.judged j
  | _ => True

instance (o : Observed b) : ∀ ev, Decidable (StepOk o ev)
  | .set _ _ => inferInstanceAs (Decidable (_ → ∀ _ : b.Btn, _ → ite _ _ _))
  | .task => inferInstanceAs (Decidable (_ → _ → _ → _ → ∀ _, _))
  | .time _ => inferInstanceAs (Decidable True)
  | .reboot => inferInstanceAs (Decidable True)

/-! ## The invariant -/

/-- What holds of the locks in every state: configurations without a schedule have their
lock, and a present lock is what it was last worked out to be. -/
structure Inv (o : Observed b) : Prop where
  minute : o.locks.presentMin < 1440
  plain : o.locks.PlainOk
  judged : JudgedOk o.locks o.judged

theorem inv_boot (scheduleLog statusLog : LogState) : Inv (boot b scheduleLog statusLog) := by
  constructor
  case minute =>
    show (powerOn b scheduleLog statusLog).lockScheduleInit.presentMin < 1440
    rw [init_presentMin]
    exact (by decide : (255 : UInt16) < 1440)
  case plain => exact plainOk_init _
  case judged => exact fun i m wday _ h => nomatch h

/-- **Step lemma**. -/
theorem Inv.step {o : Observed b} (h : Inv o) (ev : Event) : Inv (o.step ev) := by
  cases ev with
  | reboot => exact inv_boot _ _
  | time t => exact ⟨h.minute, h.plain, h.judged⟩
  | task =>
    show Inv { o with locks := o.locks.lockScheduleTask, judged := ite _ _ _ }
    cases taskStep o.locks with
    | idle hidle hs' =>
      rw [hs', if_neg fun hc : Checks o.locks => hc.2.2 (hidle hc.1 hc.2.1)]
      exact h
    | ready hnot hs' =>
      rw [hs', if_neg fun hc : Checks o.locks => nomatch hnot.symm.trans hc.2.1]
      exact ⟨h.minute, h.plain, h.judged⟩
    | check hvalid hready hne hs' =>
      rw [if_pos (show Checks o.locks from ⟨hvalid, hready, hne⟩), hs']
      have hlt := TimePar.minute_lt hvalid
      refine ⟨?_, plainOk_check _, judgedOk_check hlt hvalid⟩
      show (lockScheduleCheckLockUnlock _).presentMin < 1440
      rw [check_presentMin]
      exact hlt
  | set modelIdx par =>
    show Inv ⟨o.locks.step (.set modelIdx par),
      if Accepts o.locks modelIdx par ∧ SetsSchedule par then _ else _, _⟩
    cases setStep o.locks modelIdx par with
    | refused hacc hs' =>
      rw [hs', if_neg fun hc => hacc hc.1]
      exact ⟨h.minute, h.plain, h.judged⟩
    | plain i hi hacc hp v hv hs' =>
      rw [hs', if_neg fun hc => hp hc.2]
      exact ⟨h.minute, h.plain.setPlain i v, h.judged.setPlain i v⟩
    | schedule i hi hacc hp hs' =>
      have hmin := check_presentMin
        (o.locks.setSchedule i (withSchedule (o.locks.lockScheduleSt i) par))
      have hplain := plainOk_check
        (o.locks.setSchedule i (withSchedule (o.locks.lockScheduleSt i) par))
      rw [hs', if_pos ⟨hacc, hp⟩]
      by_cases hvalid : o.locks.time.Valid
      · rw [if_pos hvalid]
        exact ⟨hmin ▸ h.minute, hplain, judgedOk_check
          (s := o.locks.setSchedule i (withSchedule (o.locks.lockScheduleSt i) par)) h.minute hvalid⟩
      · have hjudged : (fun j : b.Btn => if j.val = modelIdx.toNat then none else o.judged j) =
            Function.update o.judged i none := by
          funext j
          rw [Function.update_apply, ← hi]
          exact if_congr Fin.ext_iff.symm rfl rfl
        rw [if_neg hvalid, hjudged]
        exact ⟨hmin ▸ h.minute, hplain, (h.judged.setSchedule i _).check_invalid hvalid⟩

/-- Where every schedule is up to date the locks follow. -/
theorem Inv.follows {o : Observed b} (h : Inv o)
    (hup : o.locks.time.Valid → ∀ j, UpToDate o.locks o.judged j) : Follows o.locks := by
  intro i hvalid
  by_cases hsch : (o.locks.lockScheduleSt i).Scheduled
  · have hv := hvalid hsch
    obtain ⟨⟨m, wday⟩, heq, hact⟩ := hup hv i hsch
    obtain ⟨hm, hw, hpresent⟩ := h.judged i m wday hsch heq
    rw [hpresent, LockSchedule.wants_eq_setLockVal hsch (TimePar.minute_lt hv)
      (TimePar.weekDay_lt hv), LockSchedule.setLockVal_eq _ hm hw,
      LockSchedule.setLockVal_eq _ (TimePar.minute_lt hv) (TimePar.weekDay_lt hv)]
    exact if_congr hact rfl rfl
  · exact h.plain i hsch _ _

/-- **Transport**: a step that meets the condition leaves the locks as the schedules ask. -/
theorem Inv.followsAfter {o : Observed b} (h : Inv o) {ev : Event} (hok : StepOk o ev) :
    FollowsAfter o ev := by
  have h' := h.step ev
  cases ev with
  | reboot => trivial
  | time t => trivial
  | task =>
    intro hready hseen
    refine h'.follows ?_
    show (o.locks.step .task).time.Valid → ∀ j, UpToDate (o.locks.step .task)
      (if Checks o.locks then _ else o.judged) j
    cases taskStep o.locks with
    | idle hidle hs' =>
      rw [show o.locks.step .task = o.locks from hs',
        if_neg fun hc : Checks o.locks => hc.2.2 (hidle hc.1 hc.2.1)]
      exact fun hvalid => hok hvalid hready hseen (hidle hvalid hready)
    | ready hnot hs' => cases hnot.symm.trans hready
    | check hvalid hready hne hs' =>
      rw [show o.locks.step .task = _ from hs',
        if_pos (show Checks o.locks from ⟨hvalid, hready, hne⟩)]
      intro _ j _
      refine ⟨_, rfl, ?_⟩
      rw [check_time]
  | set modelIdx par =>
    intro hacc hvalid
    refine h'.follows fun _ j => ?_
    show UpToDate (o.locks.step (.set modelIdx par))
      (if Accepts o.locks modelIdx par ∧ SetsSchedule par then _ else o.judged) j
    cases setStep o.locks modelIdx par with
    | refused hnot hs' => exact absurd hacc hnot
    | schedule i hi hacc hp hs' =>
      have hsame := hok hvalid i hi
      rw [if_pos hp] at hsame
      rw [hs', if_pos ⟨hacc, hp⟩, if_pos hvalid]
      intro hsch
      refine ⟨_, rfl, ?_⟩
      have hcfg : ((o.locks.setSchedule i (withSchedule (o.locks.lockScheduleSt i) par)
            |>.lockScheduleCheckLockUnlock.lockScheduleStore)).lockScheduleSt =
          Function.update o.locks.lockScheduleSt i (withSchedule (o.locks.lockScheduleSt i) par) :=
        check_lockScheduleSt _
      have htime : ((o.locks.setSchedule i (withSchedule (o.locks.lockScheduleSt i) par)
            |>.lockScheduleCheckLockUnlock.lockScheduleStore)).time = o.locks.time := check_time _
      rw [hcfg] at hsch ⊢
      rw [htime]
      exact hsame j hsch
    | plain i hi hacc hp v hv hs' =>
      have hup := hok hvalid i hi
      rw [if_neg hp] at hup
      rw [hs', if_neg fun hc => hp hc.2]
      intro hsch
      have hj : j ≠ i := ne_of_scheduled hsch
      have hcfg := o.locks.setSchedule_other (withoutSchedule (o.locks.lockScheduleSt i) v) hj
      have hold := hup hacc j hj
      rw [UpToDate, ← hcfg] at hold
      exact hold hsch

/-- **Run theorem**: in every run from a boot, on any flash content, whose steps meet the
condition, the present locks follow the schedules after every accepted message and every
later task. -/
theorem locks_follow_of_stepOk (scheduleLog statusLog : LogState) (evs : List Event)
    (h : AllSteps step StepOk (boot b scheduleLog statusLog) evs) :
    AllSteps step FollowsAfter (boot b scheduleLog statusLog) evs :=
  AllSteps.transport (fun _ ev hI _ => hI.step ev) (fun _ _ hI hok => hI.followsAfter hok)
    (inv_boot scheduleLog statusLog) h

/-- A flash that holds nothing. -/
def erasedLog : LogState := ⟨0, fun _ => Nor.erasedByte⟩

/-- Thursday, 12:00, and `m` minutes; `s` seconds after the boot. -/
def noonAnd (m s : UInt32) : TimePar := ⟨43200 + 60 * m, true, 1, s⟩

/-- Button 0 is locked from 12:00 to 13:00, every day. -/
def lockAtNoon : LockSchedule := ⟨1, 1, 720, 780, 0x7F, 0⟩

/-- The clock is set; the module gets ready and checks; the schedule is set, and runs to
its end. -/
def noonRun : List Event :=
  [.time (noonAnd 0 11), .task, .task, .set 0 lockAtNoon, .task, .time (noonAnd 60 3611), .task]

theorem locks_follow_atNoon :
    AllSteps step StepOk (boot board1 erasedLog erasedLog) noonRun ∧
      AllSteps step FollowsAfter (boot board1 erasedLog erasedLog) noonRun := by
  have hok : AllSteps step StepOk (boot board1 erasedLog erasedLog) noonRun := by decide +kernel
  exact ⟨hok, locks_follow_of_stepOk erasedLog erasedLog noonRun hok⟩

/-- A schedule that is set at noon, before the first tick, is worked out for 04:15, the
minute of a module that has seen none. -/
theorem locks_notFollow_beforeTick :
    ¬ AllSteps step FollowsAfter (boot board1 erasedLog erasedLog)
      [.time (noonAnd 0 1), .set 0 lockAtNoon] := by
  rintro ⟨-, hset, -⟩
  have hfollows := hset (by decide +kernel) (by decide +kernel) ⟨0, by decide⟩
  revert hfollows
  decide +kernel

end Observed

end LumesSwitch
