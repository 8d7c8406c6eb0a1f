import LumesSwitch.Energy.Channels
import LumesSwitch.Energy.Monotone

/-!
# Periodic energy reports (`energy.c`)

A channel that has not reported its energy for its period is asked for a report. The time of the
last report is a field of the energy record, and the report of current, voltage and power sets it
too, where it is done: then the period of the energy begins anew.

- `ReportRun` — the module, with the time of the last energy publication or request;
- `ReportRun.Inv` — the code's own time is that one, unless a publication is pending;
- `ReportRun.eventOk_iff` — the runs in which energy is requested in time and the other reports
  leave its timers alone.
-/

namespace LumesSwitch

open Nor Runs

variable {b : Board}

/-- The module, and when each channel has last published its energy or asked for it; after a
boot, the time of the boot. -/
structure ReportRun (b : Board) where
  dev : EnergyState b
  last : b.Chn → UInt32

namespace ReportRun

/-- An energy publication of channel `c` is pending. -/
def pending (s : EnergyState b) (c : b.Chn) : Bool := (s.ch c).publishEnergy.enable

/-- The last report behind an event: a publication is asked for when it gets pending, and done
when it is no longer. -/
def lastReport (r : ReportRun b) (s' : EnergyState b) (c : b.Chn) : EnergyEvent b → UInt32
  | .reboot _ => 0
  | _ => if pending s' c = pending r.dev c then r.last c else r.dev.env.timeS

/-- One event. -/
def step (r : ReportRun b) (ev : EnergyEvent b) : ReportRun b where
  dev := r.dev.handle ev
  last c := r.lastReport (r.dev.handle ev) c ev

/-- The module after `energy_init`. -/
def init (rand : b.Chn → Nat → Nat) (s : EnergyState b) : ReportRun b where
  dev := s.energyInit rand
  last _ := 0

/-- `energy_proc` -/
def energyProc (rand : b.Chn → Nat → Nat) : List (EnergyEvent b) :=
  [.publishPeriodicProc rand, .publishActiveEnergyDelayProc, .publishIupPfDelayProc,
    .measurementProc rand]

/-- More than the period since the last report, `energy_publish_periodic_proc` leaves a
publication pending. -/
def RequestOk (r : ReportRun b) : EnergyEvent b → Prop
  | .publishPeriodicProc rand => ∀ c,
    clockTimeExceed r.dev.env.timeS (r.last c) (r.dev.ch c).powerTLenS = true →
      pending (r.dev.publishPeriodicProc rand) c = true
  | _ => True

/-- The timers that are not of the reports of current, voltage and power. -/
def otherTimers (e : EnergyChannel) : PublishDelay × UInt32 × UInt32 × UInt32 :=
  (e.publishEnergy, e.powerTLenS, e.updateWhTStart, e.queryTStart)

/-- A report of current, voltage and power leaves the other timers alone. -/
def TimersOk (r : ReportRun b) : EnergyEvent b → Prop
  | .publishIupPfDelayProc => ∀ c,
    otherTimers (r.dev.publishIupPfDelayProc.ch c) = otherTimers (r.dev.ch c)
  | _ => True

def EventOk (r : ReportRun b) (ev : EnergyEvent b) : Prop := r.RequestOk ev ∧ r.TimersOk ev

/-- A report of current, voltage and power is due. -/
def IupDue (s : EnergyState b) (c : b.Chn) : Prop :=
  (s.ch c).publishIup.enable = true ∧
    clockTimeExceed s.env.timeMs (s.ch c).publishIup.startTMs (s.ch c).publishIup.waitTMs = true

instance (s : EnergyState b) (c : b.Chn) : Decidable (IupDue s c) :=
  inferInstanceAs (Decidable (_ ∧ _))

/-- Where it is, the energy record bears the present second already. -/
def SameSecond (r : ReportRun b) : EnergyEvent b → Prop
  | .publishIupPfDelayProc => ∀ c, IupDue r.dev c →
    (r.dev.ch c).publishEnergy.updateLastTS = r.dev.env.timeS
  | _ => True

instance (r : ReportRun b) (ev : EnergyEvent b) : Decidable (r.RequestOk ev) :=
  match ev with
  | .publishPeriodicProc _ => inferInstanceAs (Decidable (∀ _, _ → _))
  | .measurement .. | .cfOverflow .. | .relayStateChange .. | .publishActiveEnergyDelayProc
  | .publishIupPfDelayProc | .measurementProc _ | .queryActiveEnergy _ | .store | .delete _
  | .clean | .reboot _ | .environment _ => isTrue trivial

end ReportRun

/-! ## The energy record of a channel -/

namespace EnergyState

variable {s : EnergyState b} {c : b.Chn}

/-- The record stays, or a publication is pending. -/
def Asks (e e' : EnergyChannel) : Prop :=
  e'.publishEnergy = e.publishEnergy ∨ e'.publishEnergy.enable = true

theorem enable_setupPublishEnergyDelay (s : EnergyState b) (c : b.Chn) (w : UInt32) :
    ((s.setupPublishEnergyDelay c w).ch c).publishEnergy.enable = true := by
  rw [setupPublishEnergyDelay, upd_ch_self]
  split
  · assumption
  · rfl

theorem publishEnergy_checkPublishAllParameter (rand : b.Chn → Nat → Nat) (s : EnergyState b)
    (c : b.Chn) :
    ((s.checkPublishAllParameter rand c).ch c).publishEnergy = (s.ch c).publishEnergy := by
  have hsetup : ∀ (s : EnergyState b) (w : UInt32) (src : SourceReport),
      ((s.setupPublishIupPfDelay c w src).ch c).publishEnergy = (s.ch c).publishEnergy := by
    intro s w src
    rw [setupPublishIupPfDelay, upd_ch_self]
    split <;> rfl
  rw [checkPublishAllParameter]
  dsimp only
  generalize hs' : (if (s.ch c).forceReportIup = true then _ else s) = s'
  have hkeep : (s'.ch c).publishEnergy = (s.ch c).publishEnergy := by
    rw [← hs']
    split
    · rw [upd_ch_self, updateInputToReport, upd_ch_self]
      exact hsetup s _ _
    · rfl
  split
  · exact hkeep
  · split
    · rw [hsetup, upd_ch_self]
      exact hkeep
    · exact hkeep

theorem asks_calculatorKwh (rand : b.Chn → Nat → Nat) (s : EnergyState b) (c : b.Chn) :
    Asks (s.ch c) ((calculatorKwh rand s c).ch c) := by
  rw [calculatorKwh]
  dsimp only
  split
  · split
    · exact .inr (enable_setupPublishEnergyDelay _ c _)
    · rw [upd_ch_self]
      exact .inl rfl
  · split
    · rw [upd_ch_self]
      exact .inl rfl
    · exact .inl rfl

theorem asks_measurement (rand : b.Chn → Nat → Nat) (s : EnergyState b) (c : b.Chn) :
    Asks (s.ch c) ((measurement rand s c).ch c) := by
  rw [measurement]
  dsimp only
  generalize hs' : (if clockTimeExceed s.env.timeMs (s.ch c).queryTStart 2000 = true then _
    else s) = s'
  have hkeep : (s'.ch c).publishEnergy = (s.ch c).publishEnergy := by
    rw [← hs']
    split
    · simp [send]
    · rfl
  split
  · have hcheck : (((s'.upd c fun e => { e with
        updatedFlag := ⟨false, false, false, false⟩ }).checkPublishAllParameter rand c).ch
          c).publishEnergy = (s.ch c).publishEnergy := by
      rw [publishEnergy_checkPublishAllParameter, upd_ch_self]
      exact hkeep
    rcases asks_calculatorKwh rand ((s'.upd c fun e => { e with
        updatedFlag := ⟨false, false, false, false⟩ }).checkPublishAllParameter rand c) c with
      hsame | henable
    · exact .inl (hsame.trans hcheck)
    · exact .inr henable
  · exact .inl hkeep

/-- An iteration of the periodic loop, by the time in the energy record. -/
theorem publishPeriodic_publishEnergy (rand : b.Chn → Nat → Nat) (s : EnergyState b) (c : b.Chn) :
    (clockTimeExceed s.env.timeS (s.ch c).publishEnergy.updateLastTS (s.ch c).powerTLenS = true →
      ((publishPeriodic rand s c).ch c).publishEnergy.enable = true) ∧
    Asks (s.ch c) ((publishPeriodic rand s c).ch c) := by
  rw [publishPeriodic]
  dsimp only
  generalize hs' : (if clockTimeExceed s.env.timeS (s.ch c).publishIup.updateLastTS
    (s.ch c).iupTLenS then _ else s) = s'
  have hkeep : s'.env = s.env ∧ (s'.ch c).publishEnergy = (s.ch c).publishEnergy ∧
      (s'.ch c).powerTLenS = (s.ch c).powerTLenS := by
    rw [← hs']
    split
    · refine ⟨rfl, ?_⟩
      rw [upd_ch_self, setupPublishIupPfDelay, upd_ch_self]
      split <;> exact ⟨rfl, rfl⟩
    · exact ⟨rfl, rfl, rfl⟩
  -- the record of current, voltage and power may change, not that of the energy
  obtain ⟨henv, henergy, hlen⟩ := hkeep
  split
  · have henable := enable_setupPublishEnergyDelay s' c 0
    rw [upd_ch_self]
    exact ⟨fun _ => henable, .inr henable⟩
  · next hnot =>
    rw [henv, henergy, hlen] at hnot
    exact ⟨fun h => absurd h hnot, .inl henergy⟩

/-- An iteration of the energy loop publishes, or does nothing. -/
theorem publishActiveEnergy_publishEnergy (s : EnergyState b) (c : b.Chn) :
    ((s.publishActiveEnergy c).ch c).publishEnergy = (s.ch c).publishEnergy ∨
    ((s.ch c).publishEnergy.enable = true ∧
      ((s.publishActiveEnergy c).ch c).publishEnergy =
        { (s.ch c).publishEnergy with enable := false, updateLastTS := s.env.timeS }) := by
  rw [publishActiveEnergy]
  dsimp only
  split
  · next hdue =>
    refine .inr ⟨(Bool.and_eq_true_iff.mp hdue).1, ?_⟩
    split
    · simp [send, storeActivePower, storeRecord]
    · simp [send]
  · exact .inl rfl

/-- An iteration of the other loop brings the time of the energy record forward. -/
theorem otherTimers_publishIupPf (s : EnergyState b) (c : b.Chn) :
    ReportRun.otherTimers ((s.publishIupPf c).ch c) =
      if ReportRun.IupDue s c then
        ({ (s.ch c).publishEnergy with updateLastTS := s.env.timeS }, (s.ch c).powerTLenS,
          (s.ch c).updateWhTStart, (s.ch c).queryTStart)
      else ReportRun.otherTimers (s.ch c) := by
  rw [publishIupPf]
  dsimp only
  by_cases hdue : ReportRun.IupDue s c
  · rw [if_pos hdue, if_pos (Bool.and_eq_true_iff.mpr hdue)]
    split
    · simp [ReportRun.otherTimers, iupReportDone]
    · simp [ReportRun.otherTimers, iupReportDone, send, updateInputToReport]
  · rw [if_neg hdue, if_neg fun h => hdue (Bool.and_eq_true_iff.mp h)]

/-! ## The loops, and the other calls -/

theorem publishPeriodicProc_publishEnergy (rand : b.Chn → Nat → Nat) (s : EnergyState b)
    (c : b.Chn) :
    (clockTimeExceed s.env.timeS (s.ch c).publishEnergy.updateLastTS (s.ch c).powerTLenS = true →
      ((s.publishPeriodicProc rand).ch c).publishEnergy.enable = true) ∧
    Asks (s.ch c) ((s.publishPeriodicProc rand).ch c) := by
  refine loop_ch (local_publishPeriodic rand) (Q := fun e' =>
    (clockTimeExceed s.env.timeS (s.ch c).publishEnergy.updateLastTS (s.ch c).powerTLenS = true →
      e'.publishEnergy.enable = true) ∧ Asks (s.ch c) e') ?_
  intro s' hch henv
  rw [← hch, ← henv]
  exact publishPeriodic_publishEnergy rand s' c

theorem publishActiveEnergyDelayProc_publishEnergy (s : EnergyState b) (c : b.Chn) :
    (s.publishActiveEnergyDelayProc.ch c).publishEnergy = (s.ch c).publishEnergy ∨
    ((s.ch c).publishEnergy.enable = true ∧
      (s.publishActiveEnergyDelayProc.ch c).publishEnergy =
        { (s.ch c).publishEnergy with enable := false, updateLastTS := s.env.timeS }) := by
  refine loop_ch local_publishActiveEnergy (Q := fun e' =>
    e'.publishEnergy = (s.ch c).publishEnergy ∨ ((s.ch c).publishEnergy.enable = true ∧
      e'.publishEnergy =
        { (s.ch c).publishEnergy with enable := false, updateLastTS := s.env.timeS })) ?_
  intro s' hch henv
  rw [← hch, ← henv]
  exact publishActiveEnergy_publishEnergy s' c

theorem otherTimers_publishIupPfDelayProc (s : EnergyState b) (c : b.Chn) :
    ReportRun.otherTimers (s.publishIupPfDelayProc.ch c) =
      if ReportRun.IupDue s c then
        ({ (s.ch c).publishEnergy with updateLastTS := s.env.timeS }, (s.ch c).powerTLenS,
          (s.ch c).updateWhTStart, (s.ch c).queryTStart)
      else ReportRun.otherTimers (s.ch c) := by
  refine loop_ch local_publishIupPf (Q := fun e' => ReportRun.otherTimers e' =
    if ReportRun.IupDue s c then
      ({ (s.ch c).publishEnergy with updateLastTS := s.env.timeS }, (s.ch c).powerTLenS,
        (s.ch c).updateWhTStart, (s.ch c).queryTStart)
    else ReportRun.otherTimers (s.ch c)) ?_
  intro s' hch henv
  have hdue : ReportRun.IupDue s' c ↔ ReportRun.IupDue s c := by
    unfold ReportRun.IupDue
    rw [hch, henv]
  simp only [otherTimers_publishIupPf, hdue, hch, henv]

theorem asks_measurementProc (rand : b.Chn → Nat → Nat) (s : EnergyState b) (c : b.Chn) :
    Asks (s.ch c) ((s.measurementProc rand).ch c) := by
  refine loop_ch (local_measurement rand) (Q := Asks (s.ch c)) ?_
  intro s' hch _
  rw [← hch]
  exact asks_measurement rand s' c

/-- A callback for one channel. -/
theorem asks_onIdx {f : b.Chn → EnergyState b} (hlocal : ∀ i, Local i s (f i))
    (hself : ∀ i, Asks (s.ch i) ((f i).ch i)) (idx : Nat) (c : b.Chn) :
    Asks (s.ch c) ((s.onIdx idx f).ch c) := by
  rw [onIdx]
  split
  · next hidx =>
    by_cases hc : c = ⟨idx, hidx⟩
    · rw [hc]
      exact hself _
    · rw [(hlocal _).ch c hc]
      exact .inl rfl
  · exact .inl rfl

theorem asks_handleMeasurementComplete (s : EnergyState b) (idx : Nat) (mType : MType) (v : ℚ)
    (c : b.Chn) : Asks (s.ch c) ((s.handleMeasurementComplete idx mType v).ch c) := by
  cases mType with
  | voltage =>
    rw [handleMeasurementComplete, onIdx]
    split
    · dsimp only
      split
      · exact .inl rfl
      · split <;> exact .inl rfl
    · exact .inl rfl
  | _ =>
    refine asks_onIdx (fun i => (Local.refl i s).upd _) (fun i => ?_) idx c
    rw [upd_ch_self]
    exact .inl rfl

theorem asks_handleCfCntScaleOverflow (s : EnergyState b) (idx : Nat) (c : b.Chn) :
    Asks (s.ch c) ((s.handleCfCntScaleOverflow idx).ch c) := by
  refine asks_onIdx (fun i => (Local.refl i s).upd _) (fun i => ?_) idx c
  rw [upd_ch_self]
  exact .inl rfl

theorem asks_handleRelayStateChange (s : EnergyState b) (idx : Nat) (st isFast : Bool)
    (rand : Nat) (c : b.Chn) :
    Asks (s.ch c) ((s.handleRelayStateChange idx st isFast rand).ch c) := by
  refine asks_onIdx (fun i => ?_) (fun i => ?_) idx c
  · dsimp only
    split
    · split
      · exact (((Local.refl i s).upd _).upd _).setupPublishEnergyDelay _
      · exact ((Local.refl i s).upd _).upd _
    · exact (Local.refl i s).upd _
  · dsimp only
    split
    · split
      · exact .inr (enable_setupPublishEnergyDelay _ i _)
      · rw [upd_ch_self, upd_ch_self]
        exact .inl rfl
    · rw [upd_ch_self]
      exact .inl rfl

theorem asks_handleDeletePowerInformation (s : EnergyState b) (idx : Nat) (c : b.Chn) :
    Asks (s.ch c) ((s.handleDeletePowerInformation idx).ch c) := by
  refine asks_onIdx (fun i => ?_) (fun i => ?_) idx c
  · exact ((Local.refl i s).upd _).store.setupPublishEnergyDelay _
  · exact .inr (enable_setupPublishEnergyDelay _ i _)

/-- **Any other event**: the energy record stays, or a publication is pending. -/
theorem asks_handle (s : EnergyState b) (c : b.Chn) {ev : EnergyEvent b}
    (hactive : ev ≠ .publishActiveEnergyDelayProc) (hiup : ev ≠ .publishIupPfDelayProc)
    (hreboot : ∀ rand, ev ≠ .reboot rand) : Asks (s.ch c) ((s.handle ev).ch c) := by
  cases ev with
  | measurement idx mType value => exact s.asks_handleMeasurementComplete idx mType value c
  | cfOverflow idx report =>
    cases report with
    | none => exact s.asks_handleCfCntScaleOverflow idx c
    | some v =>
      rcases (s.handleCfCntScaleOverflow idx).asks_handleMeasurementComplete idx .activeEnergy v c
        with hsame | henable
      · rcases s.asks_handleCfCntScaleOverflow idx c with hsame' | henable
        · exact .inl (hsame.trans hsame')
        · exact .inr ((congrArg PublishDelay.enable hsame).trans henable)
      · exact .inr henable
  | relayStateChange idx st isFast rand => exact s.asks_handleRelayStateChange idx st isFast rand c
  | publishActiveEnergyDelayProc => exact absurd rfl hactive
  | publishIupPfDelayProc => exact absurd rfl hiup
  | publishPeriodicProc rand => exact (publishPeriodicProc_publishEnergy rand s c).2
  | measurementProc rand => exact asks_measurementProc rand s c
  | queryActiveEnergy idx =>
    exact asks_onIdx (fun i => (Local.refl i s).setupPublishEnergyDelay 0)
      (fun i => .inr (enable_setupPublishEnergyDelay s i 0)) idx c
  | delete idx => exact s.asks_handleDeletePowerInformation idx c
  | reboot rand => exact absurd rfl (hreboot rand)
  | store => exact .inl rfl
  | clean => exact .inl rfl
  | environment env => exact .inl rfl

end EnergyState

/-! ## Runs -/

namespace ReportRun

variable {r : ReportRun b}

/-- Unless a publication is pending, the time in the energy record is the last report's. -/
def Inv (r : ReportRun b) : Prop :=
  ∀ c, pending r.dev c = true ∨ r.last c = (r.dev.ch c).publishEnergy.updateLastTS

theorem inv_init (rand : b.Chn → Nat → Nat) (s : EnergyState b) : (init rand s).Inv :=
  fun _ => .inr rfl

theorem lastReport_of_ne (r : ReportRun b) (s' : EnergyState b) (c : b.Chn) {ev : EnergyEvent b}
    (hreboot : ∀ rand, ev ≠ .reboot rand) :
    r.lastReport s' c ev = if pending s' c = pending r.dev c then r.last c
      else r.dev.env.timeS := by
  cases ev with
  | reboot rand => exact absurd rfl (hreboot rand)
  | _ => rfl

/-- A record that stays, or a request. -/
theorem Inv.of_asks (h : r.Inv) {ev : EnergyEvent b} (hreboot : ∀ rand, ev ≠ .reboot rand)
    {c : b.Chn} (hasks : EnergyState.Asks (r.dev.ch c) ((r.dev.handle ev).ch c)) :
    pending (r.step ev).dev c = true ∨
      (r.step ev).last c = ((r.step ev).dev.ch c).publishEnergy.updateLastTS := by
  rcases hasks with hsame | henable
  -- no report has been done, so the last one is as long ago as before
  · have hpending : pending (r.dev.handle ev) c = pending r.dev c :=
      congrArg PublishDelay.enable hsame
    show pending (r.dev.handle ev) c = true ∨ r.lastReport (r.dev.handle ev) c ev =
      ((r.dev.handle ev).ch c).publishEnergy.updateLastTS
    rw [lastReport_of_ne _ _ _ hreboot, if_pos hpending, hpending, hsame]
    exact h c
  · exact .inl henable

/-- **Step lemma.** -/
theorem Inv.step (h : r.Inv) (ev : EnergyEvent b) (hok : r.SameSecond ev) : (r.step ev).Inv := by
  intro c
  cases ev with
  | reboot rand => exact .inr rfl
  | publishActiveEnergyDelayProc =>
    rcases r.dev.publishActiveEnergyDelayProc_publishEnergy c with hsame | ⟨henable, hdone⟩
    · refine h.of_asks ?_ (.inl hsame)
      exact nofun
    · -- the publication is done in the present second
      have hchanged : pending r.dev.publishActiveEnergyDelayProc c ≠ pending r.dev c := by
        rw [pending, pending, hdone, henable]
        exact Bool.false_ne_true
      refine .inr ?_
      show (if pending r.dev.publishActiveEnergyDelayProc c = pending r.dev c then r.last c
        else r.dev.env.timeS) = (r.dev.publishActiveEnergyDelayProc.ch c).publishEnergy.updateLastTS
      rw [if_neg hchanged, hdone]
  | publishIupPfDelayProc =>
    refine h.of_asks ?_ (.inl ?_)
    · exact nofun
    -- the report writes the present second into the energy record, which bears it already
    have htimers := congrArg Prod.fst (r.dev.otherTimers_publishIupPfDelayProc c)
    refine htimers.trans ?_
    split
    · next hdue =>
      show { (r.dev.ch c).publishEnergy with updateLastTS := r.dev.env.timeS } = _
      rw [← hok c hdue]
    · rfl
  | _ =>
    refine h.of_asks ?_ (EnergyState.asks_handle r.dev c ?_ ?_ ?_)
    all_goals exact nofun

/-- A request in time, where the time in the record is right. -/
theorem Inv.requestOk (h : r.Inv) (ev : EnergyEvent b) : r.RequestOk ev := by
  cases ev with
  | publishPeriodicProc rand =>
    intro c hexceed
    obtain ⟨hrequest, hasks⟩ := EnergyState.publishPeriodicProc_publishEnergy rand r.dev c
    -- a publication that is pending is request enough
    rcases h c with hpending | hlast
    · rcases hasks with hsame | henable
      · exact (congrArg PublishDelay.enable hsame).trans hpending
      · exact henable
    · rw [hlast] at hexceed
      exact hrequest hexceed
  | _ => trivial

theorem timersOk_iff (r : ReportRun b) (ev : EnergyEvent b) : r.TimersOk ev ↔ r.SameSecond ev := by
  cases ev with
  | publishIupPfDelayProc =>
    refine forall_congr' fun c => ?_
    rw [EnergyState.otherTimers_publishIupPfDelayProc]
    by_cases hdue : IupDue r.dev c
    · rw [if_pos hdue]
      constructor
      · intro h _
        have henergy := congrArg Prod.fst h
        exact (congrArg PublishDelay.updateLastTS henergy).symm
      · intro h
        rw [← h hdue]
        rfl
    · rw [if_neg hdue]
      exact iff_of_true rfl fun h => absurd h hdue
  | _ => exact Iff.rfl

theorem Inv.eventOk_step_iff (h : r.Inv) (ev : EnergyEvent b) : r.EventOk ev ↔ r.SameSecond ev :=
  (and_iff_right (h.requestOk ev)).trans (r.timersOk_iff ev)

/-- **Every run** from `energy_init`: energy is requested at the first call more than a period
behind the last report, and the reports of current, voltage and power leave the other timers
alone, if and only if each of those that is done comes in the second that the energy record
bears already. -/
theorem eventOk_iff (rand : b.Chn → Nat → Nat) (s : EnergyState b) (evs : List (EnergyEvent b)) :
    AllSteps step EventOk (init rand s) evs ↔ AllSteps step SameSecond (init rand s) evs :=
  AllSteps.iff_of_kept (I := Inv) (fun _ ev h => h.eventOk_step_iff ev) (fun _ ev h => h.step ev)
    (inv_init rand s) evs

/-- Relay 0 of two is switched on, and its current, voltage and power are reported in second
2000; `energy_proc` is called again in second 3001. -/
def relayReported : List (EnergyEvent board2) :=
  [.relayStateChange 0 true false 0] ++ reading 0 ++
    [.environment { quietEnv with timeMs := 2000000, timeS := 2000 }] ++ energyProc noRand ++
    [.environment { quietEnv with timeMs := 3001000, timeS := 3001 }] ++ energyProc noRand

/-- The energy is not requested then, although its period of 3000 seconds is over. -/
theorem not_requestOk_relayReported :
    ¬ AllSteps step RequestOk
      (init noRand ⟨fun _ => EnergyState.ramCleared, ⟨0, fun _ => erasedByte⟩, quietEnv, []⟩)
      relayReported := by
  decide +kernel

end ReportRun

end LumesSwitch
