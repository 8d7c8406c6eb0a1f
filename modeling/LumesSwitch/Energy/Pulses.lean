import LumesSwitch.Energy.Answers
import LumesSwitch.Energy.Channels
import LumesSwitch.Energy.Monotone

/-!
# From the pulses of the chip to the total (`bl0906.c`, `energy.c`)

The driver subtracts the first count of a boot, and starts anew when the counter of the chip has
wrapped. The energy module takes the first count that is not 0 for an offset of its own, so the
pulses up to it are lost, and until the scan after it the total is 0.

- `Meter.handleActiveEnergyRsp` — an answer of the chip, with the callbacks into `energy.c`;
- `PulseRun` — the readings of a run beside it, and `pulsesCounted`, what they show;
- `PulseRun.total_le` — no energy is invented: a total is at most what was restored and counted;
- `PulseRun.conserves_iff` — all of it is in the total of every scan only if there is none.
-/

namespace LumesSwitch

open Nor Runs

/-! ## The driver -/

/-- `Vref`, `Rf`, `Rv`, `Gain_i`, `Rl`, `cfdiv` -/
def vref : ℚ := 1.097
def rf : ℚ := 470 * 4
def rv : ℚ := 1.1
def gainI : ℚ := 16
def rl : ℚ := 2
def cfdiv : ℚ := 1

/-- `WH_PER_PULSE`, with the factor `k_p` of the chip. -/
def whPerPulse : ℚ :=
  let kP := 40.4125 * rl * rv * gainI / (vref * vref * (rf + rv))
  4194304 * 0.032768 / (3600000 * cfdiv * kP)

/-- The energy of `n` pulses, calibrated with the factor `k_p` of the channel. -/
def whOf (kP : UInt16) (n : Nat) : ℚ := n * whPerPulse * kP.toNat / 1000

/-- `CF_CNT_UNKNOWN` -/
def cfCntUnknown : UInt32 := 0xFFFFFFFF

/-- `array_to_u24` -/
def arrayToU24 (par : Fin 3 → UInt8) : UInt32 :=
  (par 0).toUInt32 ||| (par 1).toUInt32 <<< 8 ||| (par 2).toUInt32 <<< 16

/-- `extend_value_t` -/
structure ExtendValue where
  cfCntOffset : UInt32
  cfCntPresent : UInt32

/-- The channel of the register of a counter. -/
def cfIndex (reg : UInt8) : Option Nat :=
  if reg = regCf1Cnt then some 0
  else if reg = regCf2Cnt then some 1
  else if reg = regCf3Cnt then some 2
  else none

/-- `extend_value` and the factors `k_p` of the driver, above the energy module. -/
structure Meter (b : Board) where
  energy : EnergyState b
  extendValue : b.Chn → ExtendValue
  kP : b.Chn → UInt16

namespace Meter

variable {b : Board}

/-- `energy_init`, which runs `bl0906_init` -/
def energyInit (rand : b.Chn → Nat → Nat) (s : EnergyState b) (kP : b.Chn → UInt16) : Meter b where
  energy := s.energyInit rand
  extendValue _ := ⟨cfCntUnknown, cfCntUnknown⟩
  kP := kP

/-- `bl0906_handle_active_energy_rsp` behind the choice of the channel. -/
def countRsp (m : Meter b) (c : b.Chn) (cfCnt : UInt32) : Meter b :=
  let x := m.extendValue c
  let x := if x.cfCntOffset = cfCntUnknown then { x with cfCntOffset := cfCnt } else x
  let (x, energy) :=
    if x.cfCntPresent = cfCntUnknown then ({ x with cfCntPresent := cfCnt }, m.energy)
    else if cfCnt < x.cfCntPresent then
      ({ x with cfCntOffset := cfCnt }, m.energy.handleCfCntScaleOverflow c)
    else (x, m.energy)
  let x := { x with cfCntPresent := cfCnt }
  let deltaCfCnt := cfCnt - x.cfCntOffset
  { m with
    extendValue := Function.update m.extendValue c x
    energy := energy.handleMeasurementComplete c .activeEnergy (whOf (m.kP c) deltaCfCnt.toNat) }

/-- `bl0906_handle_active_energy_rsp` for a register. -/
def handleActiveEnergyRsp (m : Meter b) (reg : UInt8) (par : Fin 3 → UInt8) : Meter b :=
  match cfIndex reg with
  | none => m
  | some idx => if h : idx < b.numberRl then m.countRsp ⟨idx, h⟩ (arrayToU24 par) else m

end Meter

/-! ## Runs -/

/-- The pulses between the readings of a counter, the last reading first. -/
def pulsesCounted : List Nat → Nat
  | v :: u :: rest => (v + 2 ^ 24 - u) % 2 ^ 24 + pulsesCounted (u :: rest)
  | _ => 0

/-- The event is no callback of the driver for the energy, no delete and no reboot. -/
def EnergyEvent.LeavesCounts {b : Board} : EnergyEvent b → Prop
  | .measurement _ .activeEnergy _ | .cfOverflow _ _ | .delete _ | .reboot _ => False
  | _ => True

/-- An answer of a counter, or anything else that happens to the energy module. -/
inductive PulseEvent (b : Board) where
  | countRsp (reg : UInt8) (par : Fin 3 → UInt8)
  | call (ev : EnergyEvent b) (h : ev.LeavesCounts)

/-- The modules, and the readings of each channel since the boot, the last one first. -/
structure PulseRun (b : Board) where
  meter : Meter b
  readings : b.Chn → List Nat

/-- The loop of `energy_measurement_proc` finds all four values of the round. -/
def EnergyState.ScanReady {b : Board} (s : EnergyState b) (c : b.Chn) : Prop :=
  (s.ch c).updatedFlag = ⟨true, true, true, true⟩ ∧
    clockTimeExceed s.env.timeMs (s.ch c).queryTStart 2000 = false

instance {b : Board} (s : EnergyState b) (c : b.Chn) : Decidable (s.ScanReady c) :=
  inferInstanceAs (Decidable (_ ∧ _))

/-- The event is a measurement scan that takes the values of the channel. -/
def EnergyState.Scans {b : Board} (s : EnergyState b) (c : b.Chn) : EnergyEvent b → Prop
  | .measurementProc _ => s.ScanReady c
  | _ => False

namespace PulseRun

variable {b : Board}

/-- One event. -/
def step (r : PulseRun b) : PulseEvent b → PulseRun b
  | .countRsp reg par =>
    { meter := r.meter.handleActiveEnergyRsp reg par
      readings c := if cfIndex reg = some c.val then (arrayToU24 par).toNat :: r.readings c
        else r.readings c }
  | .call ev _ => { r with meter := { r.meter with energy := r.meter.energy.handle ev } }

/-- The modules after `energy_init`. -/
def init (rand : b.Chn → Nat → Nat) (s : EnergyState b) (kP : b.Chn → UInt16) : PulseRun b where
  meter := .energyInit rand s kP
  readings _ := []

/-- The total that `energy_init` has restored. -/
def restored (rand : b.Chn → Nat → Nat) (s : EnergyState b) (c : b.Chn) : ℚ :=
  ((s.energyInit rand).ch c).activeEnergyPowerOn

/-- The total energy of the channel. -/
def total (r : PulseRun b) (c : b.Chn) : ℚ := (r.meter.energy.ch c).totalActiveEnergy

/-- What was restored, and the energy of the pulses since the first reading. -/
def used (r : PulseRun b) (e0 : ℚ) (c : b.Chn) : ℚ :=
  e0 + whOf (r.meter.kP c) (pulsesCounted (r.readings c))

/-- The event is a measurement scan that takes the values of the channel. -/
def Scans (r : PulseRun b) (c : b.Chn) : PulseEvent b → Prop
  | .call ev _ => r.meter.energy.Scans c ev
  | .countRsp _ _ => False

/-- After a scan the total is what was restored and counted. -/
def Conserves (e0 : ℚ) (c : b.Chn) (r : PulseRun b) (ev : PulseEvent b) : Prop :=
  r.Scans c ev → (r.step ev).total c = (r.step ev).used e0 c

instance (r : PulseRun b) (c : b.Chn) (ev : PulseEvent b) : Decidable (r.Scans c ev) :=
  match ev with
  | .call (.measurementProc _) _ => inferInstanceAs (Decidable (r.meter.energy.ScanReady c))
  | .call (.measurement ..) _ | .call (.cfOverflow ..) _ | .call (.relayStateChange ..) _
  | .call .publishActiveEnergyDelayProc _ | .call .publishIupPfDelayProc _
  | .call (.publishPeriodicProc _) _ | .call (.queryActiveEnergy _) _ | .call .store _
  | .call (.delete _) _ | .call .clean _ | .call (.reboot _) _ | .call (.environment _) _
  | .countRsp .. => isFalse id

instance (e0 : ℚ) (c : b.Chn) (r : PulseRun b) (ev : PulseEvent b) :
    Decidable (Conserves e0 c r ev) :=
  inferInstanceAs (Decidable (_ → _))

/-- At a scan nothing was restored, and no pulse has been counted, or none with energy. -/
def NothingUsed (e0 : ℚ) (c : b.Chn) (r : PulseRun b) (ev : PulseEvent b) : Prop :=
  r.Scans c ev → e0 = 0 ∧ (r.meter.kP c = 0 ∨ pulsesCounted (r.readings c) = 0)

end PulseRun

/-! ## One event -/

theorem whPerPulse_pos : 0 < whPerPulse := by
  norm_num [whPerPulse, vref, rf, rv, gainI, rl, cfdiv]

theorem whOf_nonneg (kP : UInt16) (n : Nat) : 0 ≤ whOf kP n := by
  have hpos := whPerPulse_pos
  rw [whOf]
  positivity

theorem whOf_mono {n m : Nat} (kP : UInt16) (h : n ≤ m) : whOf kP n ≤ whOf kP m := by
  have hpos := whPerPulse_pos
  rw [whOf, whOf]
  gcongr

theorem whOf_eq_zero_iff {kP : UInt16} {n : Nat} : whOf kP n = 0 ↔ kP = 0 ∨ n = 0 := by
  have hne : whPerPulse ≠ 0 := ne_of_gt whPerPulse_pos
  have hkP : kP.toNat = 0 ↔ kP = 0 := (UInt16.toNat_inj (b := 0))
  rw [whOf, div_eq_zero_iff, mul_eq_zero, mul_eq_zero, Nat.cast_eq_zero, Nat.cast_eq_zero, hkP]
  simp only [hne, or_false, OfNat.ofNat_ne_zero]
  exact or_comm

theorem whOf_add (kP : UInt16) (n m : Nat) : whOf kP (n + m) = whOf kP n + whOf kP m := by
  rw [whOf, whOf, whOf, Nat.cast_add]
  ring

theorem arrayToU24_lt (par : Fin 3 → UInt8) : (arrayToU24 par).toNat < 2 ^ 24 := by
  have h0 := (par 0).toNat_lt
  have h1 := (par 1).toNat_lt
  have h2 := (par 2).toNat_lt
  simp only [arrayToU24, UInt32.toNat_or, UInt32.toNat_shiftLeft, UInt8.toNat_toUInt32]
  refine Nat.or_lt_two_pow (Nat.or_lt_two_pow (by omega) ?_) ?_
  all_goals
    refine lt_of_le_of_lt (Nat.mod_le ..) ?_
    rw [Nat.shiftLeft_eq]
    simp
    omega

namespace EnergyState

variable {b : Board} {s : EnergyState b} {c : b.Chn}

/-- An iteration of the measurement loop calculates if the values are in. -/
theorem account_measurement (rand : b.Chn → Nat → Nat) (s : EnergyState b) (c : b.Chn) :
    ((measurement rand s c).ch c).account =
      if s.ScanReady c then (s.ch c).account.calculate else (s.ch c).account := by
  have hview : (measurement rand s c).view.account c =
      if s.ScanReady c then (s.view.account c).calculate else s.view.account c := by
    rw [measurement]
    dsimp only
    by_cases hexceed : clockTimeExceed s.env.timeMs (s.ch c).queryTStart 2000 = true
    · -- a new round begins, and its flags are down
      have hready : ¬ s.ScanReady c := fun h => Bool.false_ne_true (h.2.symm.trans hexceed)
      rw [if_pos hexceed, if_neg hready, if_neg (by simp [upd, send])]
      rw [view_upd_same _ _ (by rfl), view_send _ (fun _ => rfl), view_upd_same _ _ (by rfl)]
    · rw [if_neg hexceed]
      by_cases hflag : (s.ch c).updatedFlag = ⟨true, true, true, true⟩
      · have hready : s.ScanReady c := ⟨hflag, Bool.eq_false_iff.mpr hexceed⟩
        rw [if_pos hflag, if_pos hready, view_calculatorKwh, view_checkPublishAllParameter,
          view_upd_same _ _ (by rfl)]
        exact Function.update_self ..
      · rw [if_neg hflag, if_neg fun h : s.ScanReady c => hflag h.1]
  exact hview

/-- **The measurement scan** calculates the account of a channel whose values are in. -/
theorem account_measurementProc (rand : b.Chn → Nat → Nat) (s : EnergyState b) (c : b.Chn) :
    ((s.measurementProc rand).ch c).account =
      if s.ScanReady c then (s.ch c).account.calculate else (s.ch c).account := by
  refine loop_ch (local_measurement rand)
    (Q := fun e => e.account =
      if s.ScanReady c then (s.ch c).account.calculate else (s.ch c).account) ?_
  intro s' hch henv
  have hready : s'.ScanReady c ↔ s.ScanReady c := by
    unfold ScanReady
    rw [hch, henv]
  simp only [account_measurement, hready, hch]

/-- Publications leave the accounts alone. -/
theorem account_publishActiveEnergyDelayProc (s : EnergyState b) (c : b.Chn) :
    (s.publishActiveEnergyDelayProc.ch c).account = (s.ch c).account := by
  refine keep_runFrom (fun s' : EnergyState b => (s'.ch c).account) (fun s' i => ?_) s b.chns
  have hview : (s'.publishActiveEnergy i).view.account = s'.view.account := by
    by_cases hfires : (s'.ch i).publishEnergy.enable = true ∧
        clockTimeExceed s'.env.timeMs (s'.ch i).publishEnergy.startTMs
          (s'.ch i).publishEnergy.waitTMs = true
    · rw [view_publishActiveEnergy_fires s' i hfires.1 hfires.2]
      split <;> rfl
    · rw [publishActiveEnergy_idle s' i hfires]
  exact congrFun hview c

/-- What any other call does to the account of a channel. -/
theorem account_handle_scan {ev : EnergyEvent b} (h : s.Scans c ev) :
    ((s.handle ev).ch c).account = (s.ch c).account.calculate := by
  cases ev with
  | measurementProc rand => exact (account_measurementProc rand s c).trans (if_pos h)
  | _ => exact h.elim

theorem account_handle_of_not_scan {ev : EnergyEvent b} (hev : ev.LeavesCounts)
    (h : ¬ s.Scans c ev) : ((s.handle ev).ch c).account = (s.ch c).account := by
  have hof : ∀ {s' : EnergyState b}, s'.view = s.view → (s'.ch c).account = (s.ch c).account :=
    fun hview => congrFun (congrArg EnergyView.account hview) c
  cases ev with
  | measurement idx mType value =>
    cases mType with
    | activeEnergy => exact hev.elim
    | _ => exact hof (s.view_handleMeasurementComplete idx (by decide) value)
  | cfOverflow idx report => exact hev.elim
  | delete idx => exact hev.elim
  | reboot rand => exact hev.elim
  | relayStateChange idx st isFast rand =>
    exact hof (s.view_handleRelayStateChange idx st isFast rand)
  | publishActiveEnergyDelayProc => exact s.account_publishActiveEnergyDelayProc c
  | publishIupPfDelayProc => exact hof (keep_runFrom view view_publishIupPf s b.chns)
  | publishPeriodicProc rand =>
    exact hof (keep_runFrom view (view_publishPeriodic rand) s b.chns)
  | measurementProc rand => exact (account_measurementProc rand s c).trans (if_neg h)
  | queryActiveEnergy idx =>
    exact hof (s.onIdx_view idx fun i => view_setupPublishEnergyDelay s i 0)
  | store => rfl
  | clean => rfl
  | environment env => rfl

end EnergyState

/-! ## Accounts -/

namespace Account

variable {a : Account} {e e' : ℚ}

/-- The account stands for an energy of `e` at most. -/
structure AtMost (a : Account) (e : ℚ) : Prop where
  pending_le : a.base + (a.cf - a.offset) ≤ e
  total_le : a.total ≤ e

/-- The account has taken no offset since it was started. -/
structure Unset (a : Account) : Prop where
  total : a.total = 0
  offset : a.offset = 0

theorem cf_calculate (a : Account) : a.calculate.cf = a.cf := by
  rw [calculate]
  split
  · rfl
  · split <;> rfl

namespace AtMost

theorem measure (h : a.AtMost e) {v : ℚ} (hv : v - a.cf ≤ e' - e) (he : e ≤ e') :
    (a.measure v).AtMost e' := by
  have hpending := h.pending_le
  refine ⟨?_, le_trans h.total_le he⟩
  show a.base + (v - a.offset) ≤ e'
  linarith

/-- An overflow makes history of the running total, which may be less than the account. -/
theorem overflow (h : a.AtMost e) (he : e ≤ e') (h0 : 0 ≤ e') :
    (a.overflow.measure 0).AtMost e' := by
  have htotal := h.total_le
  refine ⟨?_, h0⟩
  show a.total + (0 - 0) ≤ e'
  linarith

theorem calculate (h : a.AtMost e) (hcf : 0 ≤ a.cf) : a.calculate.AtMost e := by
  have hpending := h.pending_le
  have hbase : a.base + (a.cf - a.cf) ≤ a.base + (a.cf - 0) := by linarith only [hcf]
  rw [Account.calculate]
  by_cases hoffset : a.offset ≠ 0
  · rw [if_pos hoffset]
    -- the total becomes what is pending
    exact ⟨hpending, hpending⟩
  · rw [if_neg hoffset]
    rw [not_ne_iff.mp hoffset] at hpending
    split
    -- the first count is taken for the offset, which only drops what it showed
    · exact ⟨le_trans hbase hpending, h.total_le⟩
    · exact h

end AtMost

namespace Unset

theorem total_calculate (h : a.Unset) : a.calculate.total = 0 := by
  rw [calculate, if_neg (not_ne_iff.mpr h.offset)]
  split <;> exact h.total

theorem calculate_eq (h : a.Unset) (hcf : a.cf ≤ 0) : a.calculate = a := by
  rw [calculate, if_neg (not_ne_iff.mpr h.offset), if_neg (not_lt.mpr hcf)]

end Unset

end Account

/-! ## The readings -/

/-- The driver has taken the readings, the last one first, and has delivered the count since its
offset. -/
def Tracks (kP : UInt16) (x : ExtendValue) (a : Account) : List Nat → Prop
  | [] => x = ⟨cfCntUnknown, cfCntUnknown⟩ ∧ a.cf = 0
  | v :: rest =>
    v < 2 ^ 24 ∧ x.cfCntPresent.toNat = v ∧ x.cfCntOffset.toNat ≤ v ∧
      v - x.cfCntOffset.toNat ≤ pulsesCounted (v :: rest) ∧
      a.cf = whOf kP (v - x.cfCntOffset.toNat)

namespace Tracks

variable {kP : UInt16} {x : ExtendValue} {a a' : Account} {rs : List Nat}

/-- Only the last count of the account is looked at. -/
theorem of_cf (h : Tracks kP x a rs) (hcf : a'.cf = a.cf) : Tracks kP x a' rs := by
  cases rs with
  | nil => exact ⟨h.1, hcf.trans h.2⟩
  | cons v rest =>
    obtain ⟨hv, hpresent, hoffset, hle, hcount⟩ := h
    exact ⟨hv, hpresent, hoffset, hle, hcf.trans hcount⟩

theorem cf_nonneg (h : Tracks kP x a rs) : 0 ≤ a.cf := by
  cases rs with
  | nil => exact le_of_eq h.2.symm
  | cons v rest =>
    rw [h.2.2.2.2]
    exact whOf_nonneg kP _

theorem cf_le (h : Tracks kP x a rs) : a.cf ≤ whOf kP (pulsesCounted rs) := by
  cases rs with
  | nil =>
    rw [h.2]
    exact whOf_nonneg kP _
  | cons v rest =>
    rw [h.2.2.2.2]
    exact whOf_mono kP h.2.2.2.1

end Tracks

namespace Meter

variable {b : Board} {m : Meter b} {c : b.Chn} {cfCnt : UInt32} {rs : List Nat}

/-- What an answer does to its channel: the count goes on, or the account is carried over and
the count starts anew. -/
structure Counted (m m' : Meter b) (c : b.Chn) (rs rs' : List Nat) : Prop where
  kP : m'.kP = m.kP
  tracks : Tracks (m.kP c) (m'.extendValue c) (m'.energy.ch c).account rs'
  account :
    (∃ v, (m'.energy.ch c).account = ((m.energy.ch c).account.measure v) ∧
      v - (m.energy.ch c).account.cf ≤
        whOf (m.kP c) (pulsesCounted rs') - whOf (m.kP c) (pulsesCounted rs)) ∨
    (m'.energy.ch c).account = (m.energy.ch c).account.overflow.measure 0
  pulses : pulsesCounted rs ≤ pulsesCounted rs'

theorem account_measure (s : EnergyState b) (c : b.Chn) (v : ℚ) :
    ((s.handleMeasurementComplete c .activeEnergy v).ch c).account =
      (s.ch c).account.measure v := by
  have hview := congrArg EnergyView.account (s.view_measureEnergy c v)
  exact (congrFun hview c).trans (Function.update_self ..)

theorem account_overflow (s : EnergyState b) (c : b.Chn) :
    ((s.handleCfCntScaleOverflow c).ch c).account = (s.ch c).account.overflow := by
  have hview := congrArg EnergyView.account (s.view_overflow c)
  exact (congrFun hview c).trans (Function.update_self ..)

/-- The first answer of a boot. -/
theorem countRsp_first (hx : m.extendValue c = ⟨cfCntUnknown, cfCntUnknown⟩) :
    m.countRsp c cfCnt = { m with
      extendValue := Function.update m.extendValue c ⟨cfCnt, cfCnt⟩
      energy := m.energy.handleMeasurementComplete c .activeEnergy 0 } := by
  rw [countRsp, hx]
  simp [whOf]

theorem ne_unknown {x : UInt32} (h : x.toNat < 2 ^ 24) : x ≠ cfCntUnknown := by
  rintro rfl
  exact absurd h (by decide)

/-- An answer behind a larger count: the counter has wrapped, and both offsets are set anew. -/
theorem countRsp_wrap (hoffset : (m.extendValue c).cfCntOffset.toNat < 2 ^ 24)
    (hpresent : (m.extendValue c).cfCntPresent.toNat < 2 ^ 24)
    (hwrap : cfCnt < (m.extendValue c).cfCntPresent) :
    m.countRsp c cfCnt = { m with
      extendValue := Function.update m.extendValue c ⟨cfCnt, cfCnt⟩
      energy := (m.energy.handleCfCntScaleOverflow c).handleMeasurementComplete c
        .activeEnergy 0 } := by
  have hzero : whOf (m.kP c) (cfCnt - cfCnt).toNat = 0 := by simp [whOf]
  simp only [countRsp, if_neg (ne_unknown hoffset), if_neg (ne_unknown hpresent), if_pos hwrap,
    hzero]

/-- An answer behind a count that is not larger. -/
theorem countRsp_on (hoffset : (m.extendValue c).cfCntOffset.toNat < 2 ^ 24)
    (hpresent : (m.extendValue c).cfCntPresent.toNat < 2 ^ 24)
    (hon : ¬ cfCnt < (m.extendValue c).cfCntPresent)
    (hle : (m.extendValue c).cfCntOffset ≤ cfCnt) :
    m.countRsp c cfCnt = { m with
      extendValue := Function.update m.extendValue c ⟨(m.extendValue c).cfCntOffset, cfCnt⟩
      energy := m.energy.handleMeasurementComplete c .activeEnergy
        (whOf (m.kP c) (cfCnt.toNat - (m.extendValue c).cfCntOffset.toNat)) } := by
  simp only [countRsp, if_neg (ne_unknown hoffset), if_neg (ne_unknown hpresent), if_neg hon,
    UInt32.toNat_sub_of_le _ _ hle]

/-- **An answer**: the driver has taken one more reading. -/
theorem counted (hlt : cfCnt.toNat < 2 ^ 24)
    (h : Tracks (m.kP c) (m.extendValue c) (m.energy.ch c).account rs) :
    Counted m (m.countRsp c cfCnt) c rs (cfCnt.toNat :: rs) := by
  cases rs with
  | nil =>
    rw [countRsp_first h.1]
    -- the first reading is the offset, and nothing is counted yet
    refine ⟨rfl, ⟨hlt, ?_⟩, .inl ⟨0, account_measure .., ?_⟩, Nat.le_refl 0⟩
    · simp [account_measure, Account.measure, pulsesCounted, whOf]
    · simp [h.2, pulsesCounted]
  | cons u rest =>
    obtain ⟨hu, hpresent, hoffset, hle, hcf⟩ := h
    have hoffset' := Nat.lt_of_le_of_lt hoffset hu
    have hpresent' := hpresent ▸ hu
    have hpulses : pulsesCounted (cfCnt.toNat :: u :: rest) =
        (cfCnt.toNat + 2 ^ 24 - u) % 2 ^ 24 + pulsesCounted (u :: rest) := rfl
    by_cases hwrap : cfCnt < (m.extendValue c).cfCntPresent
    -- the pulses up to the wrap are not delivered, so the account falls short of the readings
    · rw [countRsp_wrap hoffset' hpresent' hwrap]
      refine ⟨rfl, ⟨hlt, ?_⟩, .inr ?_, ?_⟩
      · simp [account_measure, Account.measure, whOf]
      · rw [account_measure, account_overflow]
      · omega
    · have hon : u ≤ cfCnt.toNat :=
        Nat.le_of_not_lt fun h => hwrap (UInt32.lt_iff_toNat_lt.mpr (hpresent ▸ h))
      rw [countRsp_on hoffset' hpresent' hwrap
        (UInt32.le_iff_toNat_le.mpr (Nat.le_trans hoffset hon))]
      -- the count since the offset is the old one and what has come since
      have hcount : cfCnt.toNat - (m.extendValue c).cfCntOffset.toNat =
          (cfCnt.toNat - u) + (u - (m.extendValue c).cfCntOffset.toNat) := by omega
      have hmod : (cfCnt.toNat + 2 ^ 24 - u) % 2 ^ 24 = cfCnt.toNat - u := by omega
      refine ⟨rfl, ⟨hlt, ?_⟩, .inl ⟨_, account_measure .., ?_⟩, ?_⟩
      · simp only [Function.update_self, account_measure, Account.measure, hpulses, hmod]
        exact ⟨trivial, by omega, by omega, trivial⟩
      · rw [hcf, hcount, hpulses, hmod, whOf_add, whOf_add]
        linarith
      · omega

/-- An answer of another channel. -/
theorem countRsp_other {i : b.Chn} (hi : c ≠ i) (m : Meter b) (cfCnt : UInt32) :
    (m.countRsp i cfCnt).kP = m.kP ∧ (m.countRsp i cfCnt).extendValue c = m.extendValue c ∧
      ((m.countRsp i cfCnt).energy.ch c).account = (m.energy.ch c).account := by
  have hmeasure : ∀ (s : EnergyState b) (v : ℚ),
      ((s.handleMeasurementComplete i .activeEnergy v).ch c).account = (s.ch c).account := by
    intro s v
    have hview := congrArg EnergyView.account (s.view_measureEnergy i v)
    exact (congrFun hview c).trans (Function.update_of_ne hi ..)
  have hoverflow : ((m.energy.handleCfCntScaleOverflow i).ch c).account =
      (m.energy.ch c).account := by
    have hview := congrArg EnergyView.account (m.energy.view_overflow i)
    exact (congrFun hview c).trans (Function.update_of_ne hi ..)
  refine ⟨rfl, Function.update_of_ne hi .., ?_⟩
  rw [countRsp]
  dsimp only
  rw [hmeasure]
  split
  all_goals
    split
    · rfl
    · split
      · exact hoverflow
      · rfl

theorem handleActiveEnergyRsp_other {reg : UInt8} (hreg : cfIndex reg ≠ some c.val) (m : Meter b)
    (par : Fin 3 → UInt8) :
    (m.handleActiveEnergyRsp reg par).kP = m.kP ∧
      (m.handleActiveEnergyRsp reg par).extendValue c = m.extendValue c ∧
      ((m.handleActiveEnergyRsp reg par).energy.ch c).account = (m.energy.ch c).account := by
  rw [handleActiveEnergyRsp]
  split
  · exact ⟨rfl, rfl, rfl⟩
  · next idx hidx =>
    split
    · refine countRsp_other ?_ m _
      rintro rfl
      exact hreg hidx
    · exact ⟨rfl, rfl, rfl⟩

end Meter

namespace PulseRun

variable {b : Board} {r : PulseRun b} {c : b.Chn}

/-- The account of the channel. -/
def account (r : PulseRun b) (c : b.Chn) : Account := (r.meter.energy.ch c).account

/-- The driver has taken the readings of the channel. -/
def Follows (r : PulseRun b) (c : b.Chn) : Prop :=
  Tracks (r.meter.kP c) (r.meter.extendValue c) (r.account c) (r.readings c)

/-- The readings of the channel and what the driver knows of them stay. -/
structure Rests (r r' : PulseRun b) (c : b.Chn) : Prop where
  kP : r'.meter.kP = r.meter.kP
  extendValue : r'.meter.extendValue c = r.meter.extendValue c
  readings : r'.readings c = r.readings c

theorem Rests.follows {r' : PulseRun b} (h : Rests r r' c) (hf : r.Follows c)
    (hcf : (r'.account c).cf = (r.account c).cf) : r'.Follows c := by
  unfold Follows
  rw [h.kP, h.extendValue, h.readings]
  exact hf.of_cf hcf

theorem Rests.used_eq {r' : PulseRun b} (h : Rests r r' c) (e0 : ℚ) :
    r'.used e0 c = r.used e0 c := by
  unfold used
  rw [h.kP, h.readings]

/-- **One event**: the channel is read or scanned, or its account stays. -/
theorem step_cases (h : r.Follows c) (ev : PulseEvent b) :
    (¬ r.Scans c ev ∧
      Meter.Counted r.meter (r.step ev).meter c (r.readings c) ((r.step ev).readings c)) ∨
    (r.Scans c ev ∧ Rests r (r.step ev) c ∧
      (r.step ev).account c = (r.account c).calculate) ∨
    (¬ r.Scans c ev ∧ Rests r (r.step ev) c ∧ (r.step ev).account c = r.account c) := by
  cases ev with
  | countRsp reg par =>
    by_cases hreg : cfIndex reg = some c.val
    · refine .inl ⟨id, ?_⟩
      have hstep : r.step (.countRsp reg par) =
          ⟨r.meter.countRsp c (arrayToU24 par), fun i =>
            if cfIndex reg = some i.val then (arrayToU24 par).toNat :: r.readings i
            else r.readings i⟩ := by
        simp only [step, Meter.handleActiveEnergyRsp, hreg, c.isLt, dif_pos]
      rw [hstep]
      dsimp only
      rw [if_pos hreg]
      exact Meter.counted (arrayToU24_lt par) h
    · refine .inr (.inr ⟨id, ?_⟩)
      obtain ⟨hkP, hextend, haccount⟩ := Meter.handleActiveEnergyRsp_other hreg r.meter par
      exact ⟨⟨hkP, hextend, if_neg hreg⟩, haccount⟩
  | call ev hev =>
    by_cases hscan : r.meter.energy.Scans c ev
    · exact .inr (.inl ⟨hscan, ⟨rfl, rfl, rfl⟩, EnergyState.account_handle_scan hscan⟩)
    · exact .inr (.inr ⟨hscan, ⟨rfl, rfl, rfl⟩,
        EnergyState.account_handle_of_not_scan hev hscan⟩)

/-! ## Runs -/

theorem restored_nonneg (rand : b.Chn → Nat → Nat) (s : EnergyState b) (c : b.Chn) :
    0 ≤ restored rand s c := by
  show 0 ≤ if _ = 0xFFFFFFFF then (0 : ℚ) else ofU32 _
  split
  · exact le_refl _
  · exact Nat.cast_nonneg _

theorem follows_init (rand : b.Chn → Nat → Nat) (s : EnergyState b) (kP : b.Chn → UInt16)
    (c : b.Chn) : (init rand s kP).Follows c := ⟨rfl, rfl⟩

theorem account_init (rand : b.Chn → Nat → Nat) (s : EnergyState b) (kP : b.Chn → UInt16)
    (c : b.Chn) : (init rand s kP).account c = ⟨restored rand s c, 0, 0, 0⟩ := rfl

theorem used_init (rand : b.Chn → Nat → Nat) (s : EnergyState b) (kP : b.Chn → UInt16) (e0 : ℚ)
    (c : b.Chn) : (init rand s kP).used e0 c = e0 := by
  have hzero : whOf (kP c) 0 = 0 := whOf_eq_zero_iff.mpr (.inr rfl)
  show e0 + whOf (kP c) 0 = e0
  rw [hzero, add_zero]

/-- What an event does to the channel keeps the driver along with the readings. -/
theorem Follows.step (h : r.Follows c) (ev : PulseEvent b) : (r.step ev).Follows c := by
  rcases step_cases h ev with ⟨-, hcounted⟩ | ⟨-, hrests, haccount⟩ | ⟨-, hrests, haccount⟩
  · unfold Follows
    rw [hcounted.kP]
    exact hcounted.tracks
  · refine hrests.follows h ?_
    rw [haccount, Account.cf_calculate]
  · exact hrests.follows h (by rw [haccount])

/-- No more energy than was restored and counted. -/
def Bounded (e0 : ℚ) (c : b.Chn) (r : PulseRun b) : Prop :=
  r.Follows c ∧ (r.account c).AtMost (r.used e0 c)

/-- **Step lemma.** -/
theorem Bounded.step {e0 : ℚ} (h0 : 0 ≤ e0) (h : Bounded e0 c r) (ev : PulseEvent b) :
    Bounded e0 c (r.step ev) := by
  obtain ⟨hfollows, hmost⟩ := h
  refine ⟨hfollows.step ev, ?_⟩
  rcases step_cases hfollows ev with ⟨-, hcounted⟩ | ⟨-, hrests, haccount⟩ |
    ⟨-, hrests, haccount⟩
  · have hused : (r.step ev).used e0 c - r.used e0 c =
        whOf (r.meter.kP c) (pulsesCounted ((r.step ev).readings c)) -
          whOf (r.meter.kP c) (pulsesCounted (r.readings c)) := by
      rw [used, used, hcounted.kP]
      ring
    have hmono := whOf_mono (r.meter.kP c) hcounted.pulses
    have hnonneg : 0 ≤ (r.step ev).used e0 c := add_nonneg h0 (whOf_nonneg _ _)
    rcases hcounted.account with ⟨v, hv, hle⟩ | hv
    · have hv' : (r.step ev).account c = (r.account c).measure v := hv
      have hle' : v - (r.account c).cf ≤ (r.step ev).used e0 c - r.used e0 c := hused ▸ hle
      rw [hv']
      exact hmost.measure hle' (by linarith)
    · have hv' : (r.step ev).account c = (r.account c).overflow.measure 0 := hv
      rw [hv']
      exact hmost.overflow (by linarith) hnonneg
  · rw [hrests.used_eq, haccount]
    exact hmost.calculate hfollows.cf_nonneg
  · rw [hrests.used_eq, haccount]
    exact hmost

/-- **No energy is invented**: in every run from `energy_init` without a delete, a total is at
most what was restored and counted. -/
theorem total_le (rand : b.Chn → Nat → Nat) (s : EnergyState b) (kP : b.Chn → UInt16) (c : b.Chn)
    (evs : List (PulseEvent b)) :
    (runFrom step (init rand s kP) evs).total c ≤
      (runFrom step (init rand s kP) evs).used (restored rand s c) c := by
  have h0 := restored_nonneg rand s c
  have hinit : Bounded (restored rand s c) c (init rand s kP) := by
    refine ⟨follows_init rand s kP c, ?_⟩
    rw [account_init, used_init]
    exact ⟨le_of_eq (by simp), h0⟩
  have hrun : Bounded (restored rand s c) c (runFrom step (init rand s kP) evs) :=
    invariant_runFrom (I := Bounded (restored rand s c) c) (fun r ev h => h.step h0 ev) hinit evs
  exact hrun.2.total_le

/-- The energy module has not seen a count yet. -/
def Fresh (c : b.Chn) (r : PulseRun b) : Prop := r.Follows c ∧ (r.account c).Unset

/-- The total is 0 behind every scan up to the one that sees the first count, so it is right
only if nothing was used. -/
theorem Fresh.conserves_step_iff {e0 : ℚ} (h0 : 0 ≤ e0) (h : Fresh c r) (ev : PulseEvent b) :
    Conserves e0 c r ev ↔ NothingUsed e0 c r ev := by
  refine imp_congr_right fun hscan => ?_
  rcases step_cases h.1 ev with ⟨hnot, -⟩ | ⟨-, hrests, haccount⟩ | ⟨hnot, -⟩
  · exact absurd hscan hnot
  · have htotal : (r.step ev).total c = 0 :=
      (congrArg Account.total haccount).trans h.2.total_calculate
    have hnonneg := whOf_nonneg (r.meter.kP c) (pulsesCounted (r.readings c))
    rw [htotal, hrests.used_eq, used, eq_comm, add_eq_zero_iff_of_nonneg h0 hnonneg,
      whOf_eq_zero_iff]
  · exact absurd hscan hnot

/-- **Step lemma.** -/
theorem Fresh.step {e0 : ℚ} (h : Fresh c r) (ev : PulseEvent b) (hok : NothingUsed e0 c r ev) :
    Fresh c (r.step ev) := by
  obtain ⟨hfollows, hunset⟩ := h
  refine ⟨hfollows.step ev, ?_⟩
  rcases step_cases hfollows ev with ⟨-, hcounted⟩ | ⟨hscan, hrests, haccount⟩ |
    ⟨-, hrests, haccount⟩
  · rcases hcounted.account with ⟨v, hv, -⟩ | hv
    -- neither a count nor an overflow starts the total
    · have hv' : (r.step ev).account c = (r.account c).measure v := hv
      rw [hv']
      exact ⟨hunset.total, hunset.offset⟩
    · have hv' : (r.step ev).account c = (r.account c).overflow.measure 0 := hv
      rw [hv']
      exact ⟨rfl, rfl⟩
  · -- nothing has been used, so the count is 0 and no offset is taken
    have hcf : (r.account c).cf ≤ 0 :=
      le_of_le_of_eq hfollows.cf_le (whOf_eq_zero_iff.mpr (hok hscan).2)
    rw [haccount, hunset.calculate_eq hcf]
    exact hunset
  · rw [haccount]
    exact hunset

/-- **Every run** from `energy_init` without a delete: after each scan the total of a channel is
what was restored and what its pulses show if and only if, at each scan, nothing was restored
and no pulse has been counted since the first reading. -/
theorem conserves_iff (rand : b.Chn → Nat → Nat) (s : EnergyState b) (kP : b.Chn → UInt16)
    (c : b.Chn) (evs : List (PulseEvent b)) :
    AllSteps step (Conserves (restored rand s c) c) (init rand s kP) evs ↔
      AllSteps step (NothingUsed (restored rand s c) c) (init rand s kP) evs := by
  refine AllSteps.iff_of_kept (I := Fresh c) ?_ ?_ ?_ evs
  · exact fun r ev h => h.conserves_step_iff (restored_nonneg rand s c) ev
  · exact fun r ev h hok => h.step ev hok
  · exact ⟨follows_init rand s kP c, ⟨rfl, rfl⟩⟩

/-- A device that has stored 100 Wh for channel 0. -/
def stored100 : EnergyState board2 :=
  (runFrom EnergyRun.step (.firstBoot noRand 0 (fun _ => erasedByte) quietEnv)
    (reading 1 ++ reading 101 ++ [.store])).dev

/-- A round of channel 0, with the bytes of the counter. -/
def round (par : Fin 3 → UInt8) : List (PulseEvent board2) :=
  [.call (.measurement 0 .current 0) trivial, .call (.measurement 0 .voltage 230000) trivial,
    .call (.measurement 0 .activePower 0) trivial, .countRsp regCf1Cnt par,
    .call (.measurementProc noRand) trivial]

/-- After the first scan of the next boot the total is 0, not the 100 Wh. -/
theorem not_conserves_stored100 :
    ¬ AllSteps step (Conserves (restored noRand stored100 board2.chn0) board2.chn0)
      (init noRand stored100 fun _ => 1000) (round fun _ => 0) := by
  decide +kernel

end PulseRun

end LumesSwitch
