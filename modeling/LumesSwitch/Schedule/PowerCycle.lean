import LumesSwitch.Schedule.Present

/-!
# The lock over a power cycle

The configuration is stored by every message that is accepted. The present locks are
stored by a check that changes the lock of a schedule, or comes to its first or last
minute; a message that locks or unlocks a button for good stores its configuration only,
from which the boot finds its lock. So what the flash can miss is the present lock of a
button that gets a schedule.

- `Locks.StoredSchedule`, `Locks.StoredStatus` — what the two logs hold;
- `Locks.check_stored` — what a check does to the status log;
- `Recorded` — the locks with the last message accepted for each button;
- `locks_survive_iff` — the condition for a run to survive a power cut at any point.
-/

namespace LumesSwitch

open Bufs Nor Runs Words

namespace Locks

variable {b : Board}

/-! ## Blocks -/

theorem statusBytes_length (f : b.Btn → LockUnlock) :
    (statusBytes f).length = (lockStatusLog b).blockSize :=
  (encodeRecords_length (w := 1) (fun _ => rfl) f).trans (Nat.one_mul _)

theorem scheduleBytes_length (f : b.Btn → LockSchedule) :
    (scheduleBytes f).length = (lockScheduleLog b).blockSize :=
  encodeRecords_length LockSchedule.toBytes_length f

theorem statusBytes_not_blank (f : b.Btn → LockUnlock) : ¬ Blank (statusBytes f) := by
  intro h
  have hmem : (f Board.buttonScene0Idx).code ∈ statusBytes f :=
    List.mem_flatMap.mpr ⟨Board.buttonScene0Idx, List.mem_finRange _, List.mem_singleton_self _⟩
  have hff := h _ hmem
  revert hff
  cases f Board.buttonScene0Idx <;> decide

theorem scheduleBytes_not_blank {f : b.Btn → LockSchedule} (h : ∀ i, (f i).lock ≤ 1) :
    ¬ Blank (scheduleBytes f) := by
  intro hblank
  have hmem : (f Board.buttonScene0Idx).lock ∈ scheduleBytes f :=
    List.mem_flatMap.mpr ⟨Board.buttonScene0Idx, List.mem_finRange _, List.mem_cons_self⟩
  have hle := h Board.buttonScene0Idx
  rw [hblank _ hmem] at hle
  exact absurd hle (by decide)

def statusBlock (f : b.Btn → LockUnlock) : (lockStatusLog b).Block :=
  ⟨statusBytes f, statusBytes_length f, statusBytes_not_blank f⟩

def scheduleBlock (f : b.Btn → LockSchedule) (h : ∀ i, (f i).lock ≤ 1) :
    (lockScheduleLog b).Block :=
  ⟨scheduleBytes f, scheduleBytes_length f, scheduleBytes_not_blank h⟩

/-- The status log holds the locks `f`. -/
def StoredStatus (s : Locks b) (f : b.Btn → LockUnlock) : Prop :=
  LogRel (lockStatusLog b) s.statusLog (some (statusBlock f))

/-- The schedule log holds the configurations, all well formed. -/
def StoredSchedule (s : Locks b) : Prop :=
  ∃ h : ∀ i, (s.lockScheduleSt i).lock ≤ 1,
    LogRel (lockScheduleLog b) s.scheduleLog (some (scheduleBlock s.lockScheduleSt h))

theorem storedLock_of_logRel {log : LogState} {f : b.Btn → LockUnlock}
    (h : LogRel (lockStatusLog b) log (some (statusBlock f))) :
    storedLock log = fun i => some (f i) := by
  rw [storedLock, h.restore_eq]
  show decodeRecords 1 _ (encodeRecords (fun v : LockUnlock => [v.code]) f) = _
  refine decodeRecords_map (w := 1) (g := some) ?_ ?_ f
  · exact fun _ => rfl
  · exact LockUnlock.ofCode_code

/-! ## The operations and the logs -/

theorem storedStatus_store {s : Locks b} {f : b.Btn → LockUnlock} (h : s.StoredStatus f) :
    s.currentLockStatusStore.StoredStatus s.presentLock :=
  LogRel.put h (statusBlock s.presentLock)

theorem StoredSchedule.congr {s s' : Locks b} (h : s.StoredSchedule)
    (hcfg : s'.lockScheduleSt = s.lockScheduleSt) (hlog : s'.scheduleLog = s.scheduleLog) :
    s'.StoredSchedule := by
  rw [StoredSchedule, hcfg, hlog]
  exact h

/-- A configuration that is changed and stored. -/
theorem storedSchedule_store {s s' : Locks b} (h : s.StoredSchedule)
    (hle : ∀ i, (s'.lockScheduleSt i).lock ≤ 1) (hlog : s'.scheduleLog = s.scheduleLog) :
    s'.lockScheduleStore.StoredSchedule := by
  obtain ⟨hold, hrel⟩ := h
  rw [← hlog] at hrel
  exact ⟨hle, LogRel.put hrel (scheduleBlock s'.lockScheduleSt hle)⟩

/-! ## The check and the status log -/

/-- The check stores the locks when it comes to button `i`: its schedule asks for another
lock than the present one, or the minute is its first or last. -/
def Stores (s : Locks b) (wday : UInt8) (i : b.Btn) : Prop :=
  (s.lockScheduleSt i).Scheduled ∧ ¬ wday ≥ invalidWeekDay ∧
    (s.presentLock i ≠ (s.lockScheduleSt i).setLockVal s.presentMin wday ∨
      s.presentMin = (s.lockScheduleSt i).startTMin ∨ s.presentMin = (s.lockScheduleSt i).stopTMin)

theorem setPresent_presentLock_eq (s : Locks b) (i : b.Btn) :
    s.setPresent i (s.presentLock i) = s := by
  rw [setPresent, Function.update_eq_self]

/-- **Step lemma** of the check: the lock that is judged right, stored or not. -/
theorem checkButton_stores {s : Locks b} {wday : UInt8} {i : b.Btn} (h : s.Stores wday i) :
    checkButton wday s i = (s.setPresent i
      (judge (s.lockScheduleSt i) s.presentMin wday (s.presentLock i))).currentLockStatusStore := by
  obtain ⟨hsch, hw, hwrite⟩ := h
  rw [checkButton, if_neg hsch.1, if_neg hsch.2, lockScheduleCheckActiveTimePoint, if_neg hw,
    judge, if_neg hsch.1, if_neg hsch.2, if_neg hw]
  exact if_pos hwrite

theorem checkButton_not_stores {s : Locks b} {wday : UInt8} {i : b.Btn} (h : ¬ s.Stores wday i) :
    checkButton wday s i = s.setPresent i
      (judge (s.lockScheduleSt i) s.presentMin wday (s.presentLock i)) := by
  rw [checkButton, judge]
  split
  · rfl
  · next hlock =>
    split
    · rfl
    · next hen =>
      rw [lockScheduleCheckActiveTimePoint]
      split
      · rw [setPresent_presentLock_eq]
      · next hw =>
        dsimp only
        rw [if_neg fun hwrite => h ⟨⟨hlock, hen⟩, hw, hwrite⟩]
        have hsame : s.presentLock i = (s.lockScheduleSt i).setLockVal s.presentMin wday :=
          not_not.mp fun hne => h ⟨⟨hlock, hen⟩, hw, .inl hne⟩
        rw [← hsame, setPresent_presentLock_eq]

/-- After the check the log holds the lock of a schedule if it did before, or if the check
stores at all. -/
theorem checkLoop_stored (wday : UInt8) (is : List b.Btn) (hn : is.Nodup) {s : Locks b}
    {f : b.Btn → LockUnlock} (hf : s.StoredStatus f) :
    ∃ f', (runFrom (checkButton wday) s is).StoredStatus f' ∧
      ∀ i, (s.lockScheduleSt i).Scheduled →
        (f' i = (runFrom (checkButton wday) s is).presentLock i ↔
          f i = s.presentLock i ∨ ∃ j ∈ is, s.Stores wday j) := by
  induction is generalizing s f with
  | nil => exact ⟨f, hf, fun i _ => by simp⟩
  | cons j is ih =>
    obtain ⟨hj, hn'⟩ := List.nodup_cons.mp hn
    -- the other buttons do not see this one
    obtain ⟨v, log, hframe⟩ := checkButton_frame wday s j
    have hstores : ∀ k ∈ is, ((checkButton wday s j).Stores wday k ↔ s.Stores wday k) := by
      intro k hk
      have hkj : k ≠ j := fun hkj => hj (hkj ▸ hk)
      rw [hframe]
      unfold Stores
      dsimp only
      rw [Function.update_of_ne hkj]
    have hcfg : (checkButton wday s j).lockScheduleSt = s.lockScheduleSt := by rw [hframe]
    rw [runFrom_cons]
    by_cases hst : s.Stores wday j
    · have hf' : (checkButton wday s j).StoredStatus (checkButton wday s j).presentLock := by
        rw [checkButton_stores hst]
        exact storedStatus_store hf
      obtain ⟨f', hf'', hiff⟩ := ih hn' hf'
      refine ⟨f', hf'', fun i hsch => ?_⟩
      rw [hiff i (hcfg ▸ hsch)]
      exact iff_of_true (.inl rfl) (.inr ⟨j, List.mem_cons_self, hst⟩)
    · have hf' : (checkButton wday s j).StoredStatus f := by
        rw [checkButton_not_stores hst]
        exact hf
      obtain ⟨f', hf'', hiff⟩ := ih hn' hf'
      refine ⟨f', hf'', fun i hsch => ?_⟩
      have hkeep : (checkButton wday s j).presentLock i = s.presentLock i := by
        by_cases hij : i = j
        · subst hij
          rw [checkButton_presentLock_self, judge, if_neg hsch.1, if_neg hsch.2]
          split
          · rfl
          · next hw => exact (not_not.mp fun hne => hst ⟨hsch, hw, .inl fun heq => hne heq.symm⟩)
        · exact checkButton_presentLock_other wday s (Ne.symm hij)
      rw [hiff i (hcfg ▸ hsch), hkeep]
      refine or_congr_right ?_
      constructor
      · rintro ⟨k, hk, hs⟩
        exact ⟨k, List.mem_cons_of_mem _ hk, (hstores k hk).mp hs⟩
      · rintro ⟨k, hk, hs⟩
        rcases List.mem_cons.mp hk with rfl | hk
        · exact absurd hs hst
        · exact ⟨k, hk, (hstores k hk).mpr hs⟩

theorem check_stored {s : Locks b} {f : b.Btn → LockUnlock} (hf : s.StoredStatus f) :
    ∃ f', s.lockScheduleCheckLockUnlock.StoredStatus f' ∧
      ∀ i, (s.lockScheduleSt i).Scheduled →
        (f' i = s.lockScheduleCheckLockUnlock.presentLock i ↔
          f i = s.presentLock i ∨ ∃ j, s.Stores s.time.timestampGetWeekDay j) := by
  obtain ⟨f', hf', hiff⟩ := checkLoop_stored s.time.timestampGetWeekDay
    (List.finRange b.numberButton) (List.nodup_finRange _) hf
  refine ⟨f', hf', fun i hsch => ?_⟩
  rw [lockScheduleCheckLockUnlock, hiff i hsch]
  exact or_congr_right (exists_congr fun j => and_iff_right (List.mem_finRange j))

/-! ## The boot -/

/-- The boot reads the configuration back. -/
theorem restore_schedule {s t : Locks b} (h : s.StoredSchedule)
    (hlog : t.scheduleLog = s.scheduleLog) :
    t.lockScheduleRestore = { t with
      scheduleLog := (lockScheduleLog b).reindex s.scheduleLog
      lockScheduleSt := s.lockScheduleSt } := by
  obtain ⟨hle, hrel⟩ := h
  have hread : decodeRecords 8 LockSchedule.ofBytes
      ((lockScheduleLog b).restore ((lockScheduleLog b).reindex s.scheduleLog)) =
        s.lockScheduleSt := by
    rw [hrel.reindex.restore_eq]
    exact decodeRecords_encodeRecords LockSchedule.toBytes_length LockSchedule.ofBytes_toBytes _
  rw [lockScheduleRestore, hlog, hread]
  refine if_neg ?_
  rintro ⟨i, hi⟩
  exact UInt8.not_lt.mpr (hle i) hi

/-- The boot reads the present locks back. -/
theorem restore_status {s t : Locks b} {f : b.Btn → LockUnlock} (h : s.StoredStatus f)
    (hlog : t.statusLog = s.statusLog) :
    t.currentLockStatusRestore = { t with
      statusLog := (lockStatusLog b).reindex s.statusLog
      presentLock := f } := by
  rw [currentLockStatusRestore, hlog, storedLock_of_logRel h.reindex]
  refine if_neg ?_
  rintro ⟨i, hi⟩
  cases hi

/-- **Step lemma** of the boot. -/
theorem reboot_eq {s : Locks b} {f : b.Btn → LockUnlock} (hsch : s.StoredSchedule)
    (hst : s.StoredStatus f) :
    s.reboot = { powerOn b s.scheduleLog s.statusLog with
      scheduleLog := (lockScheduleLog b).reindex s.scheduleLog
      statusLog := (lockStatusLog b).reindex s.statusLog
      lockScheduleSt := s.lockScheduleSt
      presentLock := fun i =>
        if (s.lockScheduleSt i).lock = 1 then
          if (s.lockScheduleSt i).enSchedule = 0 then .lock else f i
        else .unlock } := by
  have hrestore := restore_schedule hsch (t := powerOn b s.scheduleLog s.statusLog) rfl
  have hstatus := restore_status hst (t := { powerOn b s.scheduleLog s.statusLog with
    scheduleLog := (lockScheduleLog b).reindex s.scheduleLog
    lockScheduleSt := s.lockScheduleSt }) rfl
  rw [reboot, lockScheduleInit, hrestore, hstatus]

theorem reboot_stored {s : Locks b} {f : b.Btn → LockUnlock} (hsch : s.StoredSchedule)
    (hst : s.StoredStatus f) : s.reboot.StoredSchedule ∧ s.reboot.StoredStatus f := by
  rw [reboot_eq hsch hst]
  obtain ⟨hle, hrel⟩ := hsch
  exact ⟨⟨hle, hrel.reindex⟩, LogRel.reindex hst⟩

/-- The first boot, on erased sectors. -/
def firstBoot (b : Board) (scheduleMem statusMem : Mem) : Locks b :=
  (powerOn b ⟨0, erase (lockScheduleLog b).flashAdr flashSectorSize scheduleMem⟩
    ⟨0, erase (lockStatusLog b).flashAdr flashSectorSize statusMem⟩).lockScheduleInit

/-- A byte of erased flash, or none at all, is no lock but the unlocked one. -/
theorem ofCode_erased (n k : Nat) :
    (LockUnlock.ofCode ((((List.replicate n erasedByte).drop k).take 1).getD 0 0)).getD .unlock =
      .unlock := by
  rw [List.drop_replicate, List.take_replicate]
  cases min 1 (n - k) with
  | zero => rfl
  | succ m => rfl

/-- An erased configuration is replaced by the default, and stored. -/
theorem restore_schedule_erased {t : Locks b}
    (h : LogRel (lockScheduleLog b) ((lockScheduleLog b).reindex t.scheduleLog) none) :
    t.lockScheduleRestore.lockScheduleSt = (fun _ => .byDefault) ∧
      t.lockScheduleRestore.StoredSchedule ∧ t.lockScheduleRestore.statusLog = t.statusLog := by
  have hdef : ∀ i : b.Btn, ((fun _ => LockSchedule.byDefault : b.Btn → LockSchedule) i).lock ≤ 1 :=
    fun _ => by show LockSchedule.byDefault.lock ≤ 1; decide
  have hlock : ∃ i : b.Btn, (decodeRecords 8 LockSchedule.ofBytes ((lockScheduleLog b).restore
      ((lockScheduleLog b).reindex t.scheduleLog)) i).lock > 1 := by
    refine ⟨Board.buttonScene0Idx, ?_⟩
    rw [h.restore_eq]
    show (((List.replicate (8 * (b.numberRl + 2)) erasedByte).drop (8 * 0)).take 8).getD 0 0 > 1
    rw [Nat.mul_zero, List.drop_zero, List.take_replicate, Nat.min_eq_left (by omega)]
    decide
  rw [lockScheduleRestore, if_pos hlock]
  exact ⟨rfl, ⟨hdef, h.put (scheduleBlock _ hdef)⟩, rfl⟩

/-- Erased locks are replaced by unlocked ones, and stored. -/
theorem restore_status_erased {t : Locks b}
    (h : LogRel (lockStatusLog b) ((lockStatusLog b).reindex t.statusLog) none) :
    t.currentLockStatusRestore.StoredStatus (fun _ => .unlock) ∧
      t.currentLockStatusRestore.lockScheduleSt = t.lockScheduleSt ∧
      t.currentLockStatusRestore.scheduleLog = t.scheduleLog := by
  have hnone : ∃ i : b.Btn, storedLock ((lockStatusLog b).reindex t.statusLog) i = none := by
    refine ⟨Board.buttonScene0Idx, ?_⟩
    rw [storedLock, h.restore_eq]
    show LockUnlock.ofCode
      ((((List.replicate (b.numberRl + 2) erasedByte).drop (1 * 0)).take 1).getD 0 0) = none
    rw [Nat.mul_zero, List.drop_zero, List.take_replicate, Nat.min_eq_left (by omega)]
    rfl
  have hunlock : (fun i : b.Btn =>
      (storedLock ((lockStatusLog b).reindex t.statusLog) i).getD .unlock) = fun _ => .unlock := by
    funext i
    rw [storedLock, h.restore_eq]
    exact ofCode_erased b.numberButton (1 * i.val)
  rw [currentLockStatusRestore, if_pos hnone, hunlock]
  exact ⟨h.put (statusBlock _), rfl, rfl⟩

theorem init_erased {t : Locks b}
    (hsch : LogRel (lockScheduleLog b) ((lockScheduleLog b).reindex t.scheduleLog) none)
    (hst : LogRel (lockStatusLog b) ((lockStatusLog b).reindex t.statusLog) none) :
    t.lockScheduleInit.lockScheduleSt = (fun _ => .byDefault) ∧
      t.lockScheduleInit.StoredSchedule ∧ t.lockScheduleInit.StoredStatus fun _ => .unlock := by
  obtain ⟨hdef, hschedule, hlog⟩ := restore_schedule_erased hsch
  rw [← hlog] at hst
  obtain ⟨hstatus, hcfg, hlog'⟩ := restore_status_erased hst
  rw [lockScheduleInit]
  exact ⟨hcfg.trans hdef, hschedule.congr hcfg hlog', hstatus⟩

theorem firstBoot_stored (scheduleMem statusMem : Mem) :
    (firstBoot b scheduleMem statusMem).lockScheduleSt = (fun _ => .byDefault) ∧
      (firstBoot b scheduleMem statusMem).StoredSchedule ∧
      (firstBoot b scheduleMem statusMem).StoredStatus fun _ => .unlock :=
  init_erased (LogRel.firstBoot (lockScheduleLog b) scheduleMem 0)
    (LogRel.firstBoot (lockStatusLog b) statusMem 0)

/-! ## A power cut -/

/-- The flash holds the present lock of every schedule. -/
def Kept (s : Locks b) (f : b.Btn → LockUnlock) : Prop :=
  ∀ i, (s.lockScheduleSt i).Scheduled → f i = s.presentLock i

/-- The present locks survive a power cut if and only if the flash holds those of the
schedules: the others follow from the configuration. -/
theorem reboot_presentLock_iff {s : Locks b} {f : b.Btn → LockUnlock} (hsch : s.StoredSchedule)
    (hst : s.StoredStatus f) (hplain : s.PlainOk) :
    s.reboot.presentLock = s.presentLock ↔ s.Kept f := by
  have hle := hsch.1
  rw [reboot_eq hsch hst, funext_iff]
  refine forall_congr' fun i => ?_
  dsimp only
  by_cases hlock : (s.lockScheduleSt i).lock = 1
  · have hne : (s.lockScheduleSt i).lock ≠ 0 := by rw [hlock]; decide
    rw [if_pos hlock]
    by_cases hen : (s.lockScheduleSt i).enSchedule = 0
    · have hns : ¬ (s.lockScheduleSt i).Scheduled := fun h => h.2 hen
      rw [if_pos hen, hplain i hns 0 0, LockSchedule.wants, if_neg hne, if_pos hen]
      exact iff_of_true rfl fun h => absurd h hns
    · rw [if_neg hen]
      exact ⟨fun h _ => h, fun h => h ⟨hne, hen⟩⟩
  · have hzero : (s.lockScheduleSt i).lock = 0 := by
      have h1 := UInt8.le_iff_toNat_le.mp (hle i)
      rw [← UInt8.toNat_inj] at hlock ⊢
      simp only [UInt8.reduceToNat] at h1 hlock ⊢
      omega
    have hns : ¬ (s.lockScheduleSt i).Scheduled := fun h => h.1 hzero
    rw [if_neg hlock, hplain i hns 0 0, LockSchedule.wants, if_pos hzero]
    exact iff_of_true rfl fun h => absurd h hns

end Locks

/-! ## Runs -/

/-- The locks, and the last message accepted for each button. -/
structure Recorded (b : Board) where
  locks : Locks b
  accepted : b.Btn → Option LockSchedule

namespace Recorded

variable {b : Board}

open Locks

def step (r : Recorded b) : Event → Recorded b
  | .set modelIdx par =>
    { locks := r.locks.step (.set modelIdx par)
      accepted :=
        if Accepts r.locks modelIdx par then
          fun i => if i.val = modelIdx.toNat then some par else r.accepted i
        else r.accepted }
  | ev => { r with locks := r.locks.step ev }

/-- The configuration is what the last accepted message asks for. -/
def AsAccepted : Option LockSchedule → LockSchedule → Prop
  | none, cfg => cfg = .byDefault
  | some p, cfg =>
    if SetsSchedule p then
      cfg.lock = 1 ∧ cfg.enSchedule = 1 ∧ cfg.startTMin = p.startTMin ∧
        cfg.stopTMin = p.stopTMin ∧ cfg.activeDay = p.activeDay
    else cfg.lock = (if p.lock = 1 then 1 else 0) ∧ cfg.enSchedule = 0

/-- A power cut now keeps the present locks, and brings back the configurations that were
accepted last. -/
def Survives (r : Recorded b) : Prop :=
  r.locks.reboot.presentLock = r.locks.presentLock ∧
    ∀ i, AsAccepted (r.accepted i) (r.locks.reboot.lockScheduleSt i)

/-- The check of a message stores: some schedule asks, in the minute of the last tick, for
another lock than the present one, or this minute is its first or last. -/
def CheckStores (s : Locks b) : Prop :=
  s.time.Valid ∧ ∃ i, (s.lockScheduleSt i).Scheduled ∧
    ((s.presentLock i = .lock ↔ ¬ (s.lockScheduleSt i).ActiveAt s.presentMin
        s.time.timestampGetWeekDay) ∨
      s.presentMin = (s.lockScheduleSt i).startTMin ∨ s.presentMin = (s.lockScheduleSt i).stopTMin)

/-- The condition: a message that sets a schedule comes where the flash holds the present
lock of its button, or its check stores. -/
def StepOk (r : Recorded b) : Event → Prop
  | .set modelIdx par => SetsSchedule par → ∀ i : b.Btn, i.val = modelIdx.toNat →
    storedLock r.locks.statusLog i = some (r.locks.presentLock i) ∨
      CheckStores (r.locks.setSchedule i (withSchedule (r.locks.lockScheduleSt i) par))
  | _ => True

/-- What holds in every state. -/
structure Inv (r : Recorded b) : Prop where
  minute : r.locks.presentMin < 1440
  plain : r.locks.PlainOk
  schedule : r.locks.StoredSchedule
  status : ∃ f, r.locks.StoredStatus f
  accepted : ∀ i, AsAccepted (r.accepted i) (r.locks.lockScheduleSt i)

theorem Inv.survives_iff {r : Recorded b} (h : Inv r) {f : b.Btn → LockUnlock}
    (hf : r.locks.StoredStatus f) : Survives r ↔ r.locks.Kept f := by
  rw [Survives, reboot_presentLock_iff h.schedule hf h.plain]
  refine and_iff_left fun i => ?_
  rw [reboot_eq h.schedule hf]
  exact h.accepted i

theorem checkStores_iff {s : Locks b} (hmin : s.presentMin < 1440) :
    CheckStores s ↔ ∃ i, s.Stores s.time.timestampGetWeekDay i := by
  by_cases hvalid : s.time.Valid
  · have hw := TimePar.weekDay_lt hvalid
    have hw' : ¬ s.time.timestampGetWeekDay ≥ invalidWeekDay := by
      intro hge
      have h8 : (8 : Nat) ≤ s.time.timestampGetWeekDay.toNat := UInt8.le_iff_toNat_le.mp hge
      have h7 : s.time.timestampGetWeekDay.toNat < 7 := UInt8.lt_iff_toNat_lt.mp hw
      omega
    rw [CheckStores, and_iff_right hvalid]
    refine exists_congr fun i => and_congr_right fun _ => ?_
    rw [and_iff_right hw', LockSchedule.setLockVal_eq _ hmin hw]
    refine or_congr_left ?_
    by_cases hact : (s.lockScheduleSt i).ActiveAt s.presentMin s.time.timestampGetWeekDay
    · rw [if_pos hact]
      exact ⟨fun h hlock => h.mp hlock hact,
        fun h => ⟨fun hlock => absurd hlock h, fun hn => absurd hact hn⟩⟩
    · rw [if_neg hact]
      constructor
      · intro h hunlock
        cases hunlock.symm.trans (h.mpr hact)
      · intro h
        refine ⟨fun _ => hact, fun _ => ?_⟩
        cases hp : s.presentLock i with
        | lock => rfl
        | unlock => exact absurd hp h
  · constructor
    · rintro ⟨hv, -⟩
      exact absurd hv hvalid
    · rintro ⟨i, -, hw, -⟩
      rw [TimePar.weekDay_of_not_valid hvalid] at hw
      exact absurd (UInt8.le_refl _) hw

theorem asAccepted_withSchedule {par : LockSchedule} (hp : SetsSchedule par) (old : LockSchedule) :
    AsAccepted (some par) (withSchedule old par) := by
  rw [AsAccepted, if_pos hp]
  exact ⟨rfl, rfl, rfl, rfl, rfl⟩

theorem asAccepted_withoutSchedule {par : LockSchedule} (hp : ¬ SetsSchedule par)
    (old : LockSchedule) :
    AsAccepted (some par) (withoutSchedule old (if par.lock = 1 then .lock else .unlock)) := by
  rw [AsAccepted, if_neg hp]
  refine ⟨?_, rfl⟩
  by_cases hlock : par.lock = 1
  · rw [if_pos hlock, if_pos hlock]
    rfl
  · rw [if_neg hlock, if_neg hlock]
    rfl

/-- What an accepted message records. -/
theorem asAccepted_set {s : Locks b} {accepted : b.Btn → Option LockSchedule} {i : b.Btn}
    {modelIdx : UInt8} (hi : i.val = modelIdx.toNat) {par cfg : LockSchedule}
    (h : ∀ j, AsAccepted (accepted j) (s.lockScheduleSt j)) (hcfg : AsAccepted (some par) cfg) :
    ∀ j, AsAccepted (if j.val = modelIdx.toNat then some par else accepted j)
      ((s.setSchedule i cfg).lockScheduleSt j) := by
  intro j
  by_cases hj : j = i
  · rw [hj, if_pos hi, setSchedule_self]
    exact hcfg
  · rw [if_neg fun hc => hj (Fin.ext (hc.trans hi.symm)), setSchedule_other _ _ hj]
    exact h j

theorem lock_le_setSchedule {s : Locks b} (h : s.StoredSchedule) (i : b.Btn) {p : LockSchedule}
    (hp : p.lock ≤ 1) (j : b.Btn) : ((s.setSchedule i p).lockScheduleSt j).lock ≤ 1 := by
  by_cases hj : j = i
  · rw [hj, setSchedule_self]
    exact hp
  · rw [setSchedule_other _ _ hj]
    exact h.1 j

theorem check_scheduleLog (s : Locks b) :
    s.lockScheduleCheckLockUnlock.scheduleLog = s.scheduleLog := by
  obtain ⟨present, log, hs⟩ := s.check_frame
  rw [hs]

/-- A check by the task keeps what the flash holds. -/
theorem Inv.check {r : Recorded b} (h : Inv r) {f : b.Btn → LockUnlock}
    (hf : r.locks.StoredStatus f) {m : UInt16} (hm : m < 1440) :
    Inv { r with locks := lockScheduleCheckLockUnlock { r.locks with presentMin := m } } ∧
      (Survives r → (Survives
        { r with locks := lockScheduleCheckLockUnlock { r.locks with presentMin := m } } ↔ True)) := by
  obtain ⟨f', hf', hiff⟩ := check_stored (s := { r.locks with presentMin := m }) hf
  have hcfg := check_lockScheduleSt { r.locks with presentMin := m }
  have h' : Inv { r with locks := lockScheduleCheckLockUnlock { r.locks with presentMin := m } } := by
    refine ⟨?_, plainOk_check _, h.schedule.congr hcfg (check_scheduleLog _), ⟨f', hf'⟩,
      fun i => ?_⟩
    · rw [check_presentMin]
      exact hm
    · show AsAccepted (r.accepted i) ((lockScheduleCheckLockUnlock _).lockScheduleSt i)
      rw [hcfg]
      exact h.accepted i
  refine ⟨h', fun hs => iff_of_true ((h'.survives_iff hf').mpr fun i hsch => ?_) trivial⟩
  rw [hcfg] at hsch
  exact (hiff i hsch).mpr (.inl ((h.survives_iff hf).mp hs i hsch))

/-- A message that locks or unlocks a button for good keeps what the flash holds. -/
theorem Inv.plainSet {r : Recorded b} (h : Inv r) {f : b.Btn → LockUnlock}
    (hf : r.locks.StoredStatus f) {i : b.Btn} {modelIdx : UInt8} (hi : i.val = modelIdx.toNat)
    {par : LockSchedule} (hp : ¬ SetsSchedule par) {v : LockUnlock}
    (hv : v = if par.lock = 1 then .lock else .unlock) :
    Inv ⟨((r.locks.setSchedule i (withoutSchedule (r.locks.lockScheduleSt i) v)).setPresent i v
        |>.lockScheduleStore),
        fun j => if j.val = modelIdx.toNat then some par else r.accepted j⟩ ∧
      (Survives r → Survives
        ⟨((r.locks.setSchedule i (withoutSchedule (r.locks.lockScheduleSt i) v)).setPresent i v
          |>.lockScheduleStore),
          fun j => if j.val = modelIdx.toNat then some par else r.accepted j⟩) := by
  have hlock : (withoutSchedule (r.locks.lockScheduleSt i) v).lock ≤ 1 := by
    show v.code ≤ 1
    cases v <;> decide
  have hsch : (((r.locks.setSchedule i (withoutSchedule (r.locks.lockScheduleSt i) v)).setPresent i v
      |>.lockScheduleStore)).StoredSchedule :=
    storedSchedule_store h.schedule (lock_le_setSchedule h.schedule i hlock) rfl
  have hacc : AsAccepted (some par) (withoutSchedule (r.locks.lockScheduleSt i) v) :=
    hv ▸ asAccepted_withoutSchedule hp _
  have h' : Inv ⟨((r.locks.setSchedule i (withoutSchedule (r.locks.lockScheduleSt i) v)).setPresent i v
        |>.lockScheduleStore),
      fun j => if j.val = modelIdx.toNat then some par else r.accepted j⟩ :=
    ⟨h.minute, h.plain.setPlain i v, hsch, ⟨f, hf⟩, asAccepted_set hi h.accepted hacc⟩
  refine ⟨h', fun hs => (h'.survives_iff hf).mpr fun j hj => ?_⟩
  have hji : j ≠ i := ne_of_scheduled hj
  have hold : (r.locks.lockScheduleSt j).Scheduled :=
    (r.locks.setSchedule_other (withoutSchedule (r.locks.lockScheduleSt i) v) hji) ▸ hj
  have hkeep := (r.locks.setSchedule i (withoutSchedule (r.locks.lockScheduleSt i) v)).setPresent_other
    v hji
  exact ((h.survives_iff hf).mp hs j hold).trans hkeep.symm

/-- A message that sets a schedule keeps what the flash holds if and only if the flash
holds the present lock of its button, or the check stores. -/
theorem Inv.scheduleSet {r : Recorded b} (h : Inv r) {f : b.Btn → LockUnlock}
    (hf : r.locks.StoredStatus f) {i : b.Btn} {modelIdx : UInt8} (hi : i.val = modelIdx.toNat)
    {par : LockSchedule} (hp : SetsSchedule par) :
    Inv ⟨(r.locks.setSchedule i (withSchedule (r.locks.lockScheduleSt i) par)
        |>.lockScheduleCheckLockUnlock.lockScheduleStore),
        fun j => if j.val = modelIdx.toNat then some par else r.accepted j⟩ ∧
      (Survives r → (Survives
        ⟨(r.locks.setSchedule i (withSchedule (r.locks.lockScheduleSt i) par)
          |>.lockScheduleCheckLockUnlock.lockScheduleStore),
          fun j => if j.val = modelIdx.toNat then some par else r.accepted j⟩ ↔
        StepOk r (.set modelIdx par))) := by
  have hle := lock_le_setSchedule h.schedule i
    (p := withSchedule (r.locks.lockScheduleSt i) par) (UInt8.le_refl _)
  have hself := r.locks.setSchedule_self i (withSchedule (r.locks.lockScheduleSt i) par)
  have hother := fun j (hj : j ≠ i) =>
    r.locks.setSchedule_other (withSchedule (r.locks.lockScheduleSt i) par) hj
  have hokiff : StepOk r (.set modelIdx par) ↔ f i = r.locks.presentLock i ∨
      CheckStores (r.locks.setSchedule i (withSchedule (r.locks.lockScheduleSt i) par)) := by
    have hread := storedLock_of_logRel hf
    constructor
    · intro hok
      have := hok hp i hi
      rw [hread] at this
      exact this.imp_left Option.some.inj
    · intro hok _ j hj
      obtain rfl : j = i := Fin.ext (hj.trans hi.symm)
      rw [hread]
      exact hok.imp_left (congrArg some)
  have hacc := asAccepted_set hi h.accepted (asAccepted_withSchedule hp (r.locks.lockScheduleSt i))
  rw [hokiff, checkStores_iff (s := r.locks.setSchedule i _) h.minute]
  have hpresent : (r.locks.setSchedule i (withSchedule (r.locks.lockScheduleSt i) par)).presentLock =
    r.locks.presentLock := rfl
  have hmin : (r.locks.setSchedule i (withSchedule (r.locks.lockScheduleSt i) par)).presentMin <
    1440 := h.minute
  have hlog : (r.locks.setSchedule i (withSchedule (r.locks.lockScheduleSt i) par)).scheduleLog =
    r.locks.scheduleLog := rfl
  have hf0 : (r.locks.setSchedule i
      (withSchedule (r.locks.lockScheduleSt i) par)).StoredStatus f := hf
  generalize r.locks.setSchedule i (withSchedule (r.locks.lockScheduleSt i) par) = t at *
  obtain ⟨f', hf', hiff⟩ := check_stored hf0
  have hcfg := check_lockScheduleSt t
  have h' : Inv ⟨t.lockScheduleCheckLockUnlock.lockScheduleStore,
      fun j => if j.val = modelIdx.toNat then some par else r.accepted j⟩ := by
    refine ⟨?_, plainOk_check t, ?_, ⟨f', hf'⟩, fun j => ?_⟩
    · show t.lockScheduleCheckLockUnlock.presentMin < 1440
      rw [check_presentMin]
      exact hmin
    · refine storedSchedule_store h.schedule ?_ ((check_scheduleLog t).trans hlog)
      rw [hcfg]
      exact hle
    · show AsAccepted _ (t.lockScheduleCheckLockUnlock.lockScheduleSt j)
      rw [hcfg]
      exact hacc j
  refine ⟨h', fun hs => ?_⟩
  have hkept := (h.survives_iff hf).mp hs
  rw [h'.survives_iff hf', ← hpresent]
  constructor
  · intro hk
    have hsch : (t.lockScheduleSt i).Scheduled := by
      rw [hself]
      exact ⟨show (1 : UInt8) ≠ 0 by decide, show (1 : UInt8) ≠ 0 by decide⟩
    refine (hiff i hsch).mp (hk i ?_)
    show (t.lockScheduleCheckLockUnlock.lockScheduleSt i).Scheduled
    rw [hcfg]
    exact hsch
  · intro hok j hj
    have hsch : (t.lockScheduleSt j).Scheduled := hcfg ▸ hj
    refine (hiff j hsch).mpr ?_
    by_cases hji : j = i
    · rw [hji]
      exact hok
    · exact .inl ((hkept j (hother j hji ▸ hsch)).trans (congrFun hpresent j).symm)

/-- **Step lemma**: the invariant is kept, and whether the flash keeps the present locks
after the step is said by the condition. -/
theorem Inv.step {r : Recorded b} (h : Inv r) (ev : Event) :
    Inv (r.step ev) ∧ (Survives r → (Survives (r.step ev) ↔ StepOk r ev)) := by
  obtain ⟨f, hf⟩ := h.status
  cases ev with
  | time t =>
    have h' : Inv (r.step (.time t)) := ⟨h.minute, h.plain, h.schedule, ⟨f, hf⟩, h.accepted⟩
    refine ⟨h', fun hs => iff_of_true ?_ trivial⟩
    exact (h'.survives_iff hf).mpr ((h.survives_iff hf).mp hs)
  | reboot =>
    obtain ⟨hsch', hst'⟩ := reboot_stored h.schedule hf
    have heq := reboot_eq h.schedule hf
    have h' : Inv (r.step .reboot) := by
      refine ⟨?_, plainOk_init _, hsch', ⟨f, hst'⟩, fun i => ?_⟩
      · show r.locks.reboot.presentMin < 1440
        rw [heq]
        exact (by decide : (255 : UInt16) < 1440)
      · show AsAccepted (r.accepted i) (r.locks.reboot.lockScheduleSt i)
        rw [heq]
        exact h.accepted i
    refine ⟨h', fun _ => iff_of_true ((h'.survives_iff hst').mpr fun i hsch => ?_) trivial⟩
    show f i = r.locks.reboot.presentLock i
    have hsch'' : (r.locks.lockScheduleSt i).Scheduled := by
      have : (r.locks.reboot.lockScheduleSt i).Scheduled := hsch
      rwa [heq] at this
    have hlock : (r.locks.lockScheduleSt i).lock = 1 := by
      have h1 := UInt8.le_iff_toNat_le.mp (h.schedule.1 i)
      have h0 := hsch''.1
      rw [ne_eq, ← UInt8.toNat_inj] at h0
      rw [← UInt8.toNat_inj]
      simp only [UInt8.reduceToNat] at h1 h0 ⊢
      omega
    rw [heq]
    dsimp only
    rw [if_pos hlock, if_neg hsch''.2]
  | task =>
    show Inv { r with locks := r.locks.lockScheduleTask } ∧
      (Survives r → (Survives { r with locks := r.locks.lockScheduleTask } ↔ True))
    cases taskStep r.locks with
    | idle hidle hs' =>
      rw [hs']
      exact ⟨h, fun hs => iff_of_true hs trivial⟩
    | ready hnot hs' =>
      rw [hs']
      have h' : Inv { r with locks := { r.locks with isReadyFlag := true } } :=
        ⟨h.minute, h.plain, h.schedule, ⟨f, hf⟩, h.accepted⟩
      exact ⟨h', fun hs =>
        iff_of_true ((h'.survives_iff hf).mpr ((h.survives_iff hf).mp hs)) trivial⟩
    | check hvalid hready hne hs' =>
      rw [hs']
      exact h.check hf (TimePar.minute_lt hvalid)
  | set modelIdx par =>
    show Inv ⟨r.locks.step (.set modelIdx par), if _ then _ else _⟩ ∧
      (Survives r → (Survives ⟨r.locks.step (.set modelIdx par), if _ then _ else _⟩ ↔ _))
    cases setStep r.locks modelIdx par with
    | refused hacc hs' =>
      rw [hs', if_neg hacc]
      refine ⟨h, fun hs => iff_of_true hs ?_⟩
      intro hp i hi
      exact absurd (accepts_of_setsSchedule hp hi) hacc
    | plain i hi hacc hp v hv hs' =>
      rw [hs', if_pos hacc]
      have h' := h.plainSet hf hi hp hv
      refine ⟨h'.1, fun hs => iff_of_true (h'.2 hs) fun hp' => absurd hp' hp⟩
    | schedule i hi hacc hp hs' =>
      rw [hs', if_pos hacc]
      exact h.scheduleSet hf hi hp

/-- After the first boot on erased sectors; no message was accepted. -/
def firstBoot (b : Board) (scheduleMem statusMem : Mem) : Recorded b :=
  ⟨Locks.firstBoot b scheduleMem statusMem, fun _ => none⟩

theorem inv_firstBoot (scheduleMem statusMem : Mem) : Inv (firstBoot b scheduleMem statusMem) := by
  obtain ⟨hdef, hsch, hst⟩ := firstBoot_stored (b := b) scheduleMem statusMem
  refine ⟨?_, plainOk_init _, hsch, ⟨_, hst⟩, fun i => congrFun hdef i⟩
  show (Locks.firstBoot b scheduleMem statusMem).presentMin < 1440
  rw [Locks.firstBoot, init_presentMin]
  exact (by decide : (255 : UInt16) < 1440)

/-- **Run theorem**: in a run from erased flash, the locks survive a power cut at any
point if and only if every step meets the condition. -/
theorem locks_survive_iff (scheduleMem statusMem : Mem) (evs : List Event) :
    AllStates step Survives (firstBoot b scheduleMem statusMem) evs ↔
      AllSteps step StepOk (firstBoot b scheduleMem statusMem) evs := by
  have hI := inv_firstBoot (b := b) scheduleMem statusMem
  obtain ⟨hdef, -, hst⟩ := firstBoot_stored (b := b) scheduleMem statusMem
  refine AllStates.iff_allSteps (I := Inv) (fun r ev h => (h.step ev).1)
    (fun r ev h hs => (h.step ev).2 hs) hI ((hI.survives_iff hst).mpr fun i hsch => ?_)
  have hcfg : (firstBoot b scheduleMem statusMem).locks.lockScheduleSt i = .byDefault :=
    congrFun hdef i
  rw [hcfg] at hsch
  exact absurd rfl hsch.1

/-- Button 0 is locked for good, then by a schedule that is in its window: the check finds
it locked, and stores nothing. The next boot unlocks it. -/
theorem lock_lost_by_reboot :
    ¬ AllStates step Survives (firstBoot board1 (fun _ => 0) (fun _ => 0))
      [.set 0 ⟨1, 0, 0, 0, 0, 0⟩, .time (Observed.noonAnd 10 11), .task, .task,
        .set 0 Observed.lockAtNoon] := by
  rintro ⟨-, -, -, -, -, hlast, -⟩
  have hlost := congrFun hlast ⟨0, by decide⟩
  revert hlost
  decide +kernel

end Recorded

end LumesSwitch
