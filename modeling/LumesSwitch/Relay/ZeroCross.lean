import LumesSwitch.Relay.Momentary

/-!
# The delay behind a zero crossing (`relay.c`)

A drive waits for a zero crossing, and then for what is left of the half period once the delay
of the relay is taken off. The half period is measured from the interrupts of a whole second; up
to then it is 0, and the difference wraps in its 16 bits.

- `Device.cmpValues` — the compare values programmed so far;
- `Device.gridView_part` — what a part does to them and to the half period;
- `GridWatch` — whether a measurement is complete;
- `GridWatch.cmpOk_iff` — the runs in which every compare value is the exact difference.
-/

namespace LumesSwitch

open Flags Runs

/-- `NORMAL_RL_ON_DELAY`, `NORMAL_RL_OFF_DELAY`, `ADJUST_60HZ_US` -/
def normalRlDelay : Nat := 5200
def adjust60hzUs : Nat := 300

/-- The compare value that is programmed. -/
def RelayOut.cmpValue : RelayOut → Option UInt16
  | .timerCmp us => some us
  | _ => none

/-- The value is the half period less the delay, with the correction for 60 Hz and without a
wrap; it is positive, and inside the half period. -/
structure ExactCmp (half us : UInt16) : Prop where
  exact : (us.toNat : Int) =
    half.toNat - normalRlDelay + if half = 8000 then (adjust60hzUs : Int) else 0
  pos : 0 < us.toNat
  inside : us.toNat < half.toNat

instance (half us : UInt16) : Decidable (ExactCmp half us) :=
  decidable_of_iff (_ ∧ _ ∧ _) ⟨fun ⟨h, h', h''⟩ => ⟨h, h', h''⟩, fun ⟨h, h', h''⟩ => ⟨h, h', h''⟩⟩

namespace Device

variable {b : Board} {ε : Type}

/-- The compare values programmed so far, in order. -/
def cmpValues (s : Device b ε) : List UInt16 := s.relay.out.filterMap RelayOut.cmpValue

/-- The half period, and the compare values. -/
def gridView (s : Device b ε) : UInt16 × List UInt16 := (s.relay.halfPeriodOfGrid, s.cmpValues)

/-- The crossings of the second, with the one that comes. -/
def crossings (s : Device b ε) : UInt8 :=
  if clockTimeExceed s.sh.timeMs s.relay.gridFreq.lastIrqTMs 5 then s.relay.gridFreq.cnt + 1
  else s.relay.gridFreq.cnt

/-- The interrupt completes a measurement. -/
def Measures (s : Device b ε) : Prop :=
  s.relay.gridFreq.isCalculating = true ∧
    s.sh.timeMs - s.relay.gridFreq.startTMs ≥ 1000 ∧ s.crossings ≠ 0

instance (s : Device b ε) : Decidable s.Measures := inferInstanceAs (Decidable (_ ∧ _ ∧ _))

end Device

/-! ## What is asked of the values -/

/-- The device, and whether a measurement of the grid is complete. -/
structure GridWatch (b : Board) (ε : Type) where
  dev : Device b ε
  measured : Bool

namespace GridWatch

variable {b : Board} {ε : Type}

/-- One part. -/
def step (w : GridWatch b ε) (p : RelayPart b ε) : GridWatch b ε where
  dev := w.dev.part p
  measured := match p with
    | .zeroSync => w.measured || decide w.dev.Measures
    | _ => w.measured

/-- The device after a boot. -/
def boot (rand : Nat → Nat) (stateLog onTimeLog : LogState) (sh : Shared b) (env : ε) :
    GridWatch b ε := ⟨.boot rand stateLog onTimeLog sh env, false⟩

/-- Every compare value that the part programs is exact for the half period in use. -/
def CmpOk (w : GridWatch b ε) (p : RelayPart b ε) : Prop :=
  ∀ us ∈ (w.dev.part p).cmpValues.drop w.dev.cmpValues.length,
    ExactCmp w.dev.relay.halfPeriodOfGrid us

instance (w : GridWatch b ε) (p : RelayPart b ε) : Decidable (w.CmpOk p) :=
  inferInstanceAs (Decidable (∀ us ∈ _, _))

/-- No drive begins before the first measurement of the grid is complete. -/
def DrivesMeasured (w : GridWatch b ε) : RelayPart b ε → Prop
  | .drive => w.dev.drivenNext ≠ none → w.measured = true
  | _ => True

end GridWatch

namespace Device

variable {b : Board} {ε : Type}

/-! ## Frames -/

theorem gridView_of_outView {s s' : Device b ε}
    (h : s'.outView RelayOut.cmpValue = s.outView RelayOut.cmpValue) : s'.gridView = s.gridView :=
  congrArg (fun v => (v.1, v.2.2)) h

theorem gridView_of_beside {s s' : Device b ε} (h : s'.besideCommand.1 = s.besideCommand.1) :
    s'.gridView = s.gridView := gridView_of_outView (outView_of_beside h)

theorem gridView_map (s : Device b ε) (c : b.Chn) :
    (s.mapChannel (silentCallback b ε) c).gridView = s.gridView := by
  rw [mapChannel]
  dsimp only
  rw [run_silentCallback]
  split
  · exact (gridView_of_outView (outView_emit_none _ rfl)).trans rfl
  · rfl

/-! ## A drive -/

/-- The compare value of the half period, as it is computed. -/
def cmpUs (half : UInt16) : UInt16 := if half = 8000 then half - 5200 + 300 else half - 5200

theorem gridView_startDrive (s : Device b ε) (c : b.Chn) :
    (s.startDrive c).gridView = (s.gridView.1, s.gridView.2 ++ [cmpUs s.gridView.1]) :=
  congrArg (fun v => (v.1, v.2.2)) (s.outView_startDrive (f := RelayOut.cmpValue) c)

theorem gridView_drive (s : Device b ε) :
    (s.part .drive).gridView = if s.drivenNext = none then s.gridView
      else (s.gridView.1, s.gridView.2 ++ [cmpUs s.gridView.1]) := by
  cases hst : s.relay.relayModuleSt with
  | busy =>
    have hnext : s.drivenNext = none := if_neg (by rw [hst]; decide)
    have hpart : s.part .drive = s.procBusy := by rw [part, hst]
    rw [hnext, if_pos rfl, hpart, procBusy]
    split <;> rfl
  | idle =>
    have hpart : s.part .drive = s.procIdle := by rw [part, hst]
    rw [hpart, procIdle, drivenNext, if_pos hst]
    dsimp only
    generalize hs1 : (if s.relay.doneOnOffControlFlag = true then s.consumeDone else s) = s1
    have hview : s1.gridView = s.gridView := by
      rw [← hs1]
      split
      · exact gridView_of_outView (s.outView_consumeDone rfl)
      · rfl
    rw [← hview]
    split
    · cases s1.nextChannel with
      | none => rfl
      | some c => exact s1.gridView_startDrive c
    · rfl

/-! ## A zero crossing -/

/-- The measurement, and the compare values are left alone. -/
theorem gridView_gridFreqZeroSync (s : Device b ε) :
    s.gridFreqZeroSync.gridView =
      (if s.Measures then (if s.crossings < 55 then 10000 else 8000) else s.gridView.1,
        s.gridView.2) := by
  rw [gridFreqZeroSync]
  dsimp only
  by_cases hcalc : s.relay.gridFreq.isCalculating = true
  · rw [if_pos hcalc]
    generalize hs1 : (if clockTimeExceed s.sh.timeMs s.relay.gridFreq.lastIrqTMs 5 = true then
      s.updRelay fun r => { r with gridFreq := { r.gridFreq with
        cnt := r.gridFreq.cnt + 1, lastIrqTMs := s.sh.timeMs } } else s) = s1
    have hs : s1.gridView = s.gridView ∧ s1.sh = s.sh ∧ s1.relay.gridFreq.cnt = s.crossings ∧
        s1.relay.gridFreq.startTMs = s.relay.gridFreq.startTMs := by
      rw [← hs1, crossings]
      split
      · exact ⟨rfl, rfl, rfl, rfl⟩
      · exact ⟨rfl, rfl, rfl, rfl⟩
    obtain ⟨hview, hsh, hcnt, hstart⟩ := hs
    have hiff : (s1.sh.timeMs - s1.relay.gridFreq.startTMs ≥ 1000 ∧ s1.relay.gridFreq.cnt ≠ 0) ↔
        s.Measures := by
      rw [hsh, hcnt, hstart]
      exact ⟨fun h => ⟨hcalc, h⟩, And.right⟩
    by_cases hdone : s.Measures
    · rw [if_pos (hiff.2 hdone), if_pos hdone, hcnt]
      refine Prod.ext ?_ ((Prod.ext_iff.1 hview).2 :)
      -- the source keeps the comparison in a variable
      exact if_congr decide_eq_true_iff rfl rfl
    · rw [if_neg fun h => hdone (hiff.1 h), if_neg hdone]
      exact hview
  · rw [if_neg hcalc, if_neg fun h : s.Measures => hcalc h.1]

theorem gridView_zeroSync (s : Device b ε) :
    s.handleZeroSync.gridView =
      (if s.Measures then (if s.crossings < 55 then 10000 else 8000) else s.gridView.1,
        s.gridView.2) := by
  rw [handleZeroSync]
  split
  · exact gridView_gridFreqZeroSync _
  · exact s.gridView_gridFreqZeroSync

/-- **A part** programs a compare value if it begins a drive, and changes the half period if it
completes a measurement. -/
theorem gridView_part (s : Device b ε) (p : RelayPart b ε) :
    (s.part p).gridView = match p with
      | .drive => if s.drivenNext = none then s.gridView
        else (s.gridView.1, s.gridView.2 ++ [cmpUs s.gridView.1])
      | .zeroSync =>
        (if s.Measures then (if s.crossings < 55 then 10000 else 8000) else s.gridView.1,
          s.gridView.2)
      | _ => s.gridView := by
  cases p with
  | net i st => exact gridView_of_beside (congrArg Prod.fst (s.besideCommand_netState i st))
  | button i st store =>
    exact gridView_of_beside (congrArg Prod.fst (s.besideCommand_setTargetState ..))
  | toggle i => exact gridView_of_beside (congrArg Prod.fst (s.besideCommand_toggleState ..))
  | changeMode i m => exact gridView_of_outView (s.outView_changeMode i m)
  | onTime rand => exact gridView_of_outView (s.outView_onTimeProc (fun _ _ => rfl) rand)
  | map i => exact s.gridView_map i
  | mask => rfl
  | storeDelay =>
    show s.handleStoreDelay.gridView = s.gridView
    rw [handleStoreDelay]
    dsimp only
    split <;> rfl
  | autoOff i => exact gridView_of_outView (s.outView_checkAutoOffChannel i)
  | drive => exact s.gridView_drive
  | watch => exact gridView_of_outView (s.outView_checkBusyTimeout rfl)
  | zeroSync => exact s.gridView_zeroSync
  | timerMatch => exact gridView_of_outView s.outView_handleControlWhenTimerMatch
  | clock ms sec => rfl
  | other env factActive lightness nwk => rfl

end Device

namespace GridWatch

variable {b : Board} {ε : Type} {w : GridWatch b ε}

/-- Up to the first measurement the half period is 0, and then one of the two. -/
def HalfPeriodOk (measured : Bool) (half : UInt16) : Prop :=
  if measured then half = 10000 ∨ half = 8000 else half = 0

/-- The half period fits what has been measured. -/
def Inv (w : GridWatch b ε) : Prop := HalfPeriodOk w.measured w.dev.relay.halfPeriodOfGrid

/-- A half period that has been measured is longer than the delay; that of a boot is not. -/
theorem HalfPeriodOk.exactCmp_iff {measured : Bool} {half : UInt16}
    (h : HalfPeriodOk measured half) : ExactCmp half (Device.cmpUs half) ↔ measured = true := by
  unfold HalfPeriodOk at h
  cases measured with
  | true =>
    rw [if_pos rfl] at h
    rcases h with rfl | rfl
    · exact iff_of_true (by decide) rfl
    · exact iff_of_true (by decide) rfl
  | false =>
    rw [if_neg Bool.false_ne_true] at h
    subst h
    exact iff_of_false (by decide) Bool.false_ne_true

/-- **Step lemma.** -/
theorem Inv.step (h : w.Inv) (p : RelayPart b ε) : (w.step p).Inv := by
  have hpart : (w.dev.part p).relay.halfPeriodOfGrid = _ :=
    congrArg Prod.fst (w.dev.gridView_part p)
  cases p with
  | zeroSync =>
    show HalfPeriodOk (w.measured || decide w.dev.Measures)
      (w.dev.part .zeroSync).relay.halfPeriodOfGrid
    rw [hpart]
    dsimp only
    by_cases hm : w.dev.Measures
    · rw [if_pos hm, decide_eq_true hm, Bool.or_true]
      split
      · exact .inl rfl
      · exact .inr rfl
    · rw [if_neg hm, decide_eq_false hm, Bool.or_false]
      exact h
  | drive =>
    show HalfPeriodOk w.measured (w.dev.part .drive).relay.halfPeriodOfGrid
    rw [hpart]
    dsimp only
    split
    · exact h
    · exact h
  | _ =>
    show HalfPeriodOk w.measured (w.dev.part _).relay.halfPeriodOfGrid
    rw [hpart]
    exact h

/-- One part. -/
theorem Inv.cmpOk_step_iff (h : w.Inv) (p : RelayPart b ε) : w.CmpOk p ↔ w.DrivesMeasured p := by
  have hpart : (w.dev.part p).cmpValues = _ := congrArg Prod.snd (w.dev.gridView_part p)
  unfold CmpOk
  rw [hpart]
  cases p with
  | zeroSync =>
    exact iff_of_true (by simp [Device.gridView]) trivial
  | drive =>
    dsimp only [DrivesMeasured]
    by_cases hnext : w.dev.drivenNext = none
    · rw [if_pos hnext]
      exact iff_of_true (by simp [Device.gridView]) fun hne => absurd hnext hne
    · rw [if_neg hnext]
      have hdrop : (w.dev.gridView.2 ++ [Device.cmpUs w.dev.gridView.1]).drop
          w.dev.cmpValues.length = [Device.cmpUs w.dev.gridView.1] := List.drop_left
      rw [hdrop, List.forall_mem_singleton]
      exact h.exactCmp_iff.trans ⟨fun h _ => h, fun h => h hnext⟩
  | _ => exact iff_of_true (by simp [Device.gridView]) trivial

/-- **Every run** from `relay_init`, with the interrupts between any parts of a pass: the compare
values are exact if and only if no drive begins before the first measurement of the grid is
complete. -/
theorem cmpOk_iff (rand : Nat → Nat) (stateLog onTimeLog : LogState) (sh : Shared b) (env : ε)
    (ps : List (RelayPart b ε)) :
    AllSteps step CmpOk (boot rand stateLog onTimeLog sh env) ps ↔
      AllSteps step DrivesMeasured (boot rand stateLog onTimeLog sh env) ps := by
  have hboot : (boot rand stateLog onTimeLog sh env).Inv := by
    show HalfPeriodOk false _
    rfl
  exact AllSteps.iff_of_kept (fun _ p h => h.cmpOk_step_iff p) (fun _ p h _ => h.step p) hboot ps

/-- The first drive of a new device comes before any measurement, and its compare value is
`0 - 5200` in 16 bits. -/
theorem cmp_wraps_at_boot :
    ¬ ∀ (b : Board) (ε : Type) (rand : Nat → Nat) (stateLog onTimeLog : LogState) (sh : Shared b)
      (env : ε) (ps : List (RelayPart b ε)),
      AllSteps step CmpOk (boot rand stateLog onTimeLog sh env) ps := by
  intro h
  obtain ⟨hfirst, -⟩ := h board1 Unit (fun _ => 0) emptyLog emptyLog demoShared () [.drive]
  have hvalue : (60336 : UInt16) ∈ ((boot (fun _ => 0) emptyLog emptyLog demoShared ()).dev.part
      .drive).cmpValues.drop (boot (fun _ => 0) emptyLog emptyLog demoShared
        ()).dev.cmpValues.length := by
    decide +kernel
  exact absurd (hfirst _ hvalue).inside (by decide +kernel)

end GridWatch

end LumesSwitch
