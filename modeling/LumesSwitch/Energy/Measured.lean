import LumesSwitch.Energy.Gain
import LumesSwitch.Energy.Picture
import LumesSwitch.Reset.FactoryReset

/-!
# From the registers of the chip to the energy module (`bl0906.c`, `energy.c`)

The energy module asks for a round of values, the driver asks the chip for one register after the
other, and what the answers hold is converted and handed to the energy module for the relay and the
quantity of the register that is outstanding. Requests and answers may get lost or come late.

- `MeterStack.report` — the handlers of the answers;
- `MeterStack` — the energy module, the driver and the chip with the line between them;
- `MeterStack.truthful` — what the energy module takes as measured for a relay has been in the
  register of the chip for it, since the boot.
-/

namespace LumesSwitch

open Runs Links

variable {b : Board}

/-! ## Conversions -/

/-- `Gain_v` -/
def gainV : ℚ := 1

/-- `bl0906_handle_current_rsp`: the current in mA, with the factor `k_i` of the channel. -/
def currentOf (kI : UInt16) (data : Fin 3 → UInt8) : ℚ :=
  (arrayToU24 data).toNat * vref / (12875 * rl * gainI) * 1000 * kI.toNat / 1000

/-- `bl0906_handle_voltage_rsp`: the voltage in mV. -/
def voltageOf (kU : UInt16) (data : Fin 3 → UInt8) : ℚ :=
  (arrayToU24 data).toNat * vref * (rf + rv) / (13162 * rv * gainV * 1000) * 1000 * kU.toNat / 1000

/-- `bl0906_handle_active_power_rsp`: the power in mW, and nothing of a negative one. -/
def powerOf (kP : UInt16) (data : Fin 3 → UInt8) : ℚ :=
  (if (data (Fin.last 2) >>> 7) &&& 1 = 1 then 0
    else (arrayToU24 data).toNat * vref * vref * (rf + rv) /
      (40.4125 * rl * rv * gainI * 1000) * 1000) * kP.toNat / 1000

/-! ## The registers of a relay -/

/-- The register of relay `idx`, of three. -/
def regFor (r₀ r₁ r₂ : UInt8) : Nat → UInt8
  | 0 => r₀
  | 1 => r₁
  | _ => r₂

/-- The relay of a register: `index` of a handler. -/
def regIndex (r₀ r₁ r₂ reg : UInt8) : Option Nat :=
  if reg = r₀ then some 0
  else if reg = r₁ then some 1
  else if reg = r₂ then some 2
  else none

def regIRms : Nat → UInt8 := regFor regI1Rms regI2Rms regI3Rms
def regWatt : Nat → UInt8 := regFor regWatt1 regWatt2 regWatt3
def regCfCnt : Nat → UInt8 := regFor regCf1Cnt regCf2Cnt regCf3Cnt

/-- `index` of `bl0906_handle_current_rsp` -/
def iRmsIndex : UInt8 → Option Nat := regIndex regI1Rms regI2Rms regI3Rms

/-- `index` of `bl0906_handle_active_power_rsp` -/
def wattIndex : UInt8 → Option Nat := regIndex regWatt1 regWatt2 regWatt3

/-- `bl0906_measurenment_start` with all bits of the mask, for a relay that there is. -/
def bl0906MeasurenmentStart (idx : Nat) : List UInt8 :=
  [regIRms idx] ++ (if idx = 0 then [regVRms] else []) ++ [regWatt idx] ++ [regCfCnt idx]

/-! ## The modules and the chip -/

/-- The energy module on top of the driver, the chip behind the line, and the factors in use.
`past` is what the registers of the chip have held since the boot. -/
structure MeterStack (b : Board) where
  meter : Meter b
  link : MeterLink
  calibVal : CalibVal
  past : List (UInt8 → Fin 3 → UInt8)

/-- What happens on the line: passes of the driver, messages and answers that come or are lost,
and noise. -/
def GainEvent.OnLine : GainEvent → Prop
  | .read .. | .restart => False
  | _ => True

/-- What happens to the energy module from above. -/
def EnergyEvent.FromAbove : EnergyEvent b → Prop
  | .measurement .. | .cfOverflow .. | .reboot _ => False
  | _ => True

/-- What happens. A request that is pushed copies what is behind its register from the stack. -/
inductive StackEvent (b : Board) where
  | line (ev : GainEvent) (h : ev.OnLine)
  | call (ev : EnergyEvent b) (h : ev.FromAbove) (stack : Nat → UInt8)
  | measures (reg : UInt8 → Fin 3 → UInt8)
  | restart (rand : b.Chn → Nat → Nat) (calibVal : CalibVal)

namespace MeterStack

/-- The factor of a channel. -/
def factor (k : Fin 3 → UInt16) (c : b.Chn) : UInt16 := k ⟨c, Nat.lt_of_lt_of_le c.isLt b.le_three⟩

/-- `bl0906_update_energy` for relay `idx`, with a value that depends on its factor. -/
def update (m : Meter b) (idx : Option Nat) (mType : MType) (value : b.Chn → ℚ) : Meter b :=
  match idx with
  | none => m
  | some idx =>
    if h : idx < b.numberRl then
      { m with energy := m.energy.handleMeasurementComplete idx mType (value ⟨idx, h⟩) }
    else m

/-- The handler of an answer, with the register that is outstanding and the data. -/
def report (v : CalibVal) (m : Meter b) : MeterHandler × UInt8 × List UInt8 → Meter b
  | (handler, reg, par) =>
    let data : Fin 3 → UInt8 := fun i => par.getD i 0
    match handler with
    | .current => update m (iRmsIndex reg) .current fun c => currentOf (factor v.kI c) data
    | .voltage =>
      { m with energy := m.energy.handleMeasurementComplete 0 .voltage (voltageOf v.kU data) }
    | .activePower => update m (wattIndex reg) .activePower fun c => powerOf (factor v.kP c) data
    | .activeEnergy => m.handleActiveEnergyRsp reg data
    | .rmsos | .temperature | .gain => m

/-- The relays whose values the energy module asks for. -/
def asked (out : List EnergyOut) : List Nat :=
  out.filterMap fun
    | .measurementStart idx => some idx
    | _ => none

/-- A call of the energy module, and the requests that it gives rise to. -/
def call (s : MeterStack b) (ev : EnergyEvent b) (stack : Nat → UInt8) : MeterStack b :=
  let energy := { s.meter.energy with out := [] }.handle ev
  let regs := (asked energy.out).flatMap bl0906MeasurenmentStart
  { s with
    meter := { s.meter with energy }
    link := runFrom (fun link reg => link.step (.read reg stack)) s.link regs }

/-- The driver goes on, and hands the answers that it has booked to the energy module. -/
def handOn (s : MeterStack b) (link : MeterLink) : MeterStack b :=
  { s with
    link
    meter := (link.driver.core.booked.drop s.link.driver.core.booked.length).foldl
      (report s.calibVal) s.meter }

/-- A boot of the switch, with the factors that it finds. What the chip holds stays. -/
def restart (s : MeterStack b) (rand : b.Chn → Nat → Nat) (calibVal : CalibVal) : MeterStack b where
  meter := ⟨s.meter.energy.reboot rand, fun _ => ⟨cfCntUnknown, cfCntUnknown⟩,
    factor calibVal.kP⟩
  link := s.link.step .restart
  calibVal := calibVal
  past := []

/-- The registers hold what they hold. -/
def note (s : MeterStack b) : MeterStack b := { s with past := s.link.net.device.reg :: s.past }

def step (s : MeterStack b) : StackEvent b → MeterStack b
  | .line ev _ => (s.handOn (s.link.step ev)).note
  | .call ev _ stack => (s.call ev stack).note
  | .measures reg =>
    note { s with link := { s.link with net := { s.link.net with
      device := { s.link.net.device with reg } } } }
  | .restart rand calibVal => (s.restart rand calibVal).note

/-- The first boot. -/
def init (rand : b.Chn → Nat → Nat) (energy : EnergyState b) (reg : UInt8 → Fin 3 → UInt8)
    (calibVal : CalibVal) : MeterStack b :=
  (restart ⟨⟨energy, fun _ => ⟨0, 0⟩, factor calibVal.kP⟩, .init reg, calibVal, []⟩ rand
    calibVal).note

/-- No noise has the right checksum for the register that is outstanding. -/
def NoiseOk (s : MeterStack b) : StackEvent b → Prop
  | .line ev _ => s.link.NoiseOk ev
  | _ => True

/-- No answer for the register has come since the boot. -/
def Unread (s : MeterStack b) (reg : UInt8) : Prop :=
  ∀ e ∈ s.link.driver.core.booked, e.2.1 ≠ reg

/-- A value is what the register has held, in the sense of `means`; or it is none, and there has
been no answer. -/
def Held (s : MeterStack b) (reg : UInt8) (means : (Fin 3 → UInt8) → ℚ → Prop) (value : ℚ) :
    Prop :=
  s.Unread reg ∧ value = 0 ∨ ∃ r ∈ s.past, means (r reg) value

/-- **What is taken as measured** of channel `c` is what its registers have held. A current of
10 mA and less is none, and a power of half a watt and less may be none. -/
structure Truthful (s : MeterStack b) (c : b.Chn) : Prop where
  current : s.Held (regIRms c)
    (fun data x => x = if currentOf (factor s.calibVal.kI c) data ≤ 10 then 0
      else currentOf (factor s.calibVal.kI c) data) (s.meter.energy.ch c).value.iRms
  voltage : s.Held regVRms (fun data x => x = voltageOf s.calibVal.kU data)
    (s.meter.energy.ch c).value.vRms
  power : s.Held (regWatt c)
    (fun data x => x = powerOf (factor s.calibVal.kP c) data ∨
      powerOf (factor s.calibVal.kP c) data ≤ 500 ∧ x = 0)
    (s.meter.energy.ch c).value.activePower

end MeterStack

/-! ## What the calls do to the values -/

namespace EnergyState

variable {s : EnergyState b} {c : b.Chn}

/-- The values of a channel that are reported. -/
def reading (s : EnergyState b) (c : b.Chn) : Reading := (s.ch c).value.reading

/-- Calls from above leave the values alone. -/
theorem reading_handle {ev : EnergyEvent b} (h : ev.FromAbove) :
    (s.handle ev).reading c = s.reading c := by
  have henergy : ∀ ev : EnergyEvent b, ev.EnergyOnly → (s.handle ev).reading c = s.reading c :=
    fun ev h => congrArg IupChannel.value (iup_handle_energy h)
  cases ev with
  | relayStateChange idx st isFast rand =>
    obtain ⟨force, hiup⟩ := iup_handleRelayStateChange (s := s) (i := c) idx st isFast rand
    exact congrArg IupChannel.value hiup
  | publishIupPfDelayProc =>
    refine loop_iup (Q := fun v => v.value = s.reading c) local_publishIupPf
      iup_publishIupPf_other fun s' _ _ hiup => ?_
    have hvalue : (s'.iup c).value = s.reading c := congrArg IupChannel.value hiup
    rcases s'.iup_publishIupPf c with hsame | ⟨-, hdrop⟩ | htell
    · rw [hsame, hvalue]
    · rw [hdrop]
      exact hvalue
    · rw [htell]
      exact hvalue
  | publishPeriodicProc rand =>
    refine loop_iup (Q := fun v => v.value = s.reading c) (local_publishPeriodic rand)
      (iup_publishPeriodic_other rand) fun s' _ _ hiup => ?_
    have hvalue : (s'.iup c).value = s.reading c := congrArg IupChannel.value hiup
    rcases s'.iup_publishPeriodic rand c with hsame | hask
    · rw [hsame, hvalue]
    · rw [hask]
      exact hvalue
  | measurementProc rand =>
    refine loop_iup (Q := fun v => v.value = s.reading c) (local_measurement rand)
      (iup_measurement_other rand) fun s' _ _ hiup => ?_
    have hvalue : (s'.iup c).value = s.reading c := congrArg IupChannel.value hiup
    have hforced : (if (s'.iup c).force then (s'.iup c).forced (s'.changeWait rand c)
        else s'.iup c).value = s.reading c := by
      split
      · rw [IupChannel.forced]
        dsimp only
        split
        · exact hvalue
        · exact hvalue
      · exact hvalue
    have hmeasured := s'.iup_measurement rand c
    dsimp only at hmeasured
    split at hmeasured
    · rcases hmeasured with ⟨hsame, -⟩ | ⟨-, hdelta⟩
      · rw [hsame, hforced]
      · rw [hdelta]
        exact hforced
    · rw [hmeasured, hvalue]
  | publishActiveEnergyDelayProc => exact henergy .publishActiveEnergyDelayProc trivial
  | queryActiveEnergy idx => exact henergy (.queryActiveEnergy idx) trivial
  | store => exact henergy .store trivial
  | delete idx => exact henergy (.delete idx) trivial
  | clean => exact henergy .clean trivial
  | environment env => exact henergy (.environment env) trivial
  | measurement idx mType value => exact h.elim
  | cfOverflow idx report => exact h.elim
  | reboot rand => exact h.elim

theorem reading_upd (i : b.Chn) (f : EnergyChannel → EnergyChannel) :
    (s.upd i f).reading c = if c = i then (f (s.ch i)).value.reading else s.reading c := by
  by_cases h : c = i
  · rw [if_pos h, h, reading, upd_ch_self]
  · rw [if_neg h]
    exact congrArg IupChannel.value (iup_upd_other f h)

theorem onIdx_val (i : b.Chn) (f : b.Chn → EnergyState b) : s.onIdx i f = f i := dif_pos i.isLt

/-- A current is taken in for its channel. -/
theorem reading_current (i : b.Chn) (value : ℚ) :
    (s.handleMeasurementComplete i .current value).reading c =
      if c = i then { s.reading c with iRms := if value ≤ 10 then 0 else value }
      else s.reading c := by
  rw [handleMeasurementComplete, onIdx_val, reading_upd]
  split
  · next h =>
    rw [h]
    rfl
  · rfl

theorem reading_power (i : b.Chn) (value : ℚ) :
    (s.handleMeasurementComplete i .activePower value).reading c =
      if c = i then { s.reading c with
        activePower := if value ≤ 500 ∧ (s.reading c).iRms = 0 then 0 else value }
      else s.reading c := by
  rw [handleMeasurementComplete, onIdx_val, reading_upd]
  split
  · next h =>
    rw [h]
    rfl
  · rfl

/-- The one voltage is taken in for all channels. -/
theorem reading_voltage (value : ℚ) :
    (s.handleMeasurementComplete 0 .voltage value).reading c =
      { s.reading c with vRms := value } := by
  have hzero : (0 : Nat) < b.numberRl := b.one_le
  rw [handleMeasurementComplete, onIdx, dif_pos hzero]
  dsimp only
  rw [if_neg (not_not.mpr rfl)]
  split
  · rfl
  · rfl

theorem reading_energy (idx : Nat) (value : ℚ) :
    (s.handleMeasurementComplete idx .activeEnergy value).reading c = s.reading c := by
  rw [handleMeasurementComplete, onIdx]
  split
  · rw [reading_upd]
    split
    · next h =>
      rw [h]
      rfl
    · rfl
  · rfl

theorem reading_cfOverflow (idx : Nat) :
    (s.handleCfCntScaleOverflow idx).reading c = s.reading c := by
  rw [handleCfCntScaleOverflow, onIdx]
  split
  · rw [reading_upd]
    split
    · next h =>
      rw [h]
      rfl
    · rfl
  · rfl

end EnergyState

/-! ## The answers -/

namespace MeterStack

theorem regIndex_eq_some {r₀ r₁ r₂ reg : UInt8} (h₁₀ : r₁ ≠ r₀) (h₂₀ : r₂ ≠ r₀) (h₂₁ : r₂ ≠ r₁)
    {idx : Nat} : regIndex r₀ r₁ r₂ reg = some idx ↔ reg = regFor r₀ r₁ r₂ idx ∧ idx < 3 := by
  constructor
  · intro h
    rw [regIndex] at h
    split_ifs at h with h₀ h₁ h₂
    · obtain rfl := Option.some.inj h
      exact ⟨h₀, by decide⟩
    · obtain rfl := Option.some.inj h
      exact ⟨h₁, by decide⟩
    · obtain rfl := Option.some.inj h
      exact ⟨h₂, by decide⟩
  · rintro ⟨rfl, h⟩
    match idx, h with
    | 0, _ => exact if_pos rfl
    | 1, _ => exact (if_neg h₁₀).trans (if_pos rfl)
    | 2, _ => exact (if_neg h₂₀).trans ((if_neg h₂₁).trans (if_pos rfl))

theorem iRmsIndex_eq_some {reg : UInt8} {idx : Nat} :
    iRmsIndex reg = some idx ↔ reg = regIRms idx ∧ idx < 3 :=
  regIndex_eq_some (by decide) (by decide) (by decide)

theorem wattIndex_eq_some {reg : UInt8} {idx : Nat} :
    wattIndex reg = some idx ↔ reg = regWatt idx ∧ idx < 3 :=
  regIndex_eq_some (by decide) (by decide) (by decide)

/-- A value for the relay of a register, if there is one. -/
theorem update_cases {index : UInt8 → Option Nat} {regOf : Nat → UInt8}
    (hindex : ∀ {reg idx}, index reg = some idx ↔ reg = regOf idx ∧ idx < 3) (m : Meter b)
    (reg : UInt8) (mType : MType) (value : b.Chn → ℚ) :
    (update m (index reg) mType value = m ∧ ∀ c : b.Chn, reg ≠ regOf c) ∨ ∃ i : b.Chn,
      (∀ c : b.Chn, c = i ↔ reg = regOf c) ∧ update m (index reg) mType value =
        { m with energy := m.energy.handleMeasurementComplete i mType (value i) } := by
  have hlt : ∀ c : b.Chn, c.val < 3 := fun c => Nat.lt_of_lt_of_le c.isLt b.le_three
  cases hreg : index reg with
  | none =>
    refine .inl ⟨rfl, fun c hc => ?_⟩
    rw [hindex.mpr ⟨hc, hlt c⟩] at hreg
    exact Option.some_ne_none _ hreg
  | some idx =>
    rw [update]
    by_cases h : idx < b.numberRl
    · rw [dif_pos h]
      refine .inr ⟨⟨idx, h⟩, fun c => ⟨?_, fun hc => ?_⟩, rfl⟩
      · rintro rfl
        exact (hindex.mp hreg).1
      · rw [hindex.mpr ⟨hc, hlt c⟩] at hreg
        exact Fin.ext (Option.some.inj hreg)
    · rw [dif_neg h]
      refine .inl ⟨rfl, fun c hc => h ?_⟩
      rw [hindex.mpr ⟨hc, hlt c⟩] at hreg
      exact Option.some.inj hreg ▸ c.isLt

/-- The energies are not among the values. -/
theorem reading_handleActiveEnergyRsp (m : Meter b) (reg : UInt8) (par : Fin 3 → UInt8)
    (c : b.Chn) : (m.handleActiveEnergyRsp reg par).energy.reading c = m.energy.reading c := by
  have hcount : ∀ (i : b.Chn) (cfCnt : UInt32),
      (m.countRsp i cfCnt).energy.reading c = m.energy.reading c := by
    intro i cfCnt
    rw [Meter.countRsp]
    dsimp only
    rw [EnergyState.reading_energy]
    generalize (if (m.extendValue i).cfCntOffset = cfCntUnknown then _ else m.extendValue i) = x
    split
    · rfl
    · split
      · exact EnergyState.reading_cfOverflow _
      · rfl
  rw [Meter.handleActiveEnergyRsp]
  split
  · rfl
  · split
    · exact hcount _ _
    · rfl

/-- **What an answer does** to the values of a channel. -/
theorem reading_report (v : CalibVal) (m : Meter b) (f : MeterHandler) (reg : UInt8)
    (par : List UInt8) (c : b.Chn) :
    let data : Fin 3 → UInt8 := fun i => par.getD i 0
    let x := currentOf (factor v.kI c) data
    let y := powerOf (factor v.kP c) data
    let r := m.energy.reading c
    (report v m (f, reg, par)).energy.reading c =
      match f with
      | .current => if reg = regIRms c then { r with iRms := if x ≤ 10 then 0 else x } else r
      | .voltage => { r with vRms := voltageOf v.kU data }
      | .activePower =>
        if reg = regWatt c then { r with
          activePower := if y ≤ 500 ∧ r.iRms = 0 then 0 else y }
        else r
      | _ => r := by
  cases f with
  | current =>
    simp only [report]
    rcases update_cases iRmsIndex_eq_some m reg .current
      (fun c => currentOf (factor v.kI c) fun i => par.getD i 0) with ⟨hsame, hne⟩ | ⟨i, hi, hupd⟩
    · rw [hsame, if_neg (hne c)]
    · rw [hupd, EnergyState.reading_current]
      by_cases h : c = i
      · rw [if_pos h, if_pos ((hi c).mp h), h]
      · rw [if_neg h, if_neg fun hc => h ((hi c).mpr hc)]
  | voltage => exact EnergyState.reading_voltage _
  | activePower =>
    simp only [report]
    rcases update_cases wattIndex_eq_some m reg .activePower
      (fun c => powerOf (factor v.kP c) fun i => par.getD i 0) with ⟨hsame, hne⟩ | ⟨i, hi, hupd⟩
    · rw [hsame, if_neg (hne c)]
    · rw [hupd, EnergyState.reading_power]
      by_cases h : c = i
      · rw [if_pos h, if_pos ((hi c).mp h), h]
      · rw [if_neg h, if_neg fun hc => h ((hi c).mpr hc)]
  | activeEnergy => exact reading_handleActiveEnergyRsp m reg _ c
  | _ => rfl

variable {s : MeterStack b} {c : b.Chn}

/-- What a value depends on. -/
theorem Held.congr {s' : MeterStack b} {reg : UInt8} {means : (Fin 3 → UInt8) → ℚ → Prop}
    {value : ℚ} (h : s.Held reg means value)
    (hbooked : ∀ e ∈ s'.link.driver.core.booked, e ∈ s.link.driver.core.booked ∨ e.2.1 ≠ reg)
    (hpast : ∀ r ∈ s.past, r ∈ s'.past) : s'.Held reg means value := by
  rcases h with ⟨hunread, hzero⟩ | ⟨r, hr, hmeans⟩
  · refine .inl ⟨fun e he => ?_, hzero⟩
    rcases hbooked e he with hold | hne
    · exact hunread e hold
    · exact hne
  · exact .inr ⟨r, hpast r hr, hmeans⟩

/-- The driver and the values go along with what the registers have held. -/
structure Sound (s : MeterStack b) : Prop where
  assigned : s.link.driver.core.Assigned
  replies : ∀ a ∈ s.link.net.toHost, ∃ c : MeterChip, c.reg ∈ s.past ∧ ∃ address, a = c.answer address
  truthful : ∀ c, s.Truthful c

/-- And what they hold has been noted. -/
structure Inv (s : MeterStack b) : Prop where
  sound : s.Sound
  noted : s.link.net.device.reg ∈ s.past

theorem Truthful.congr {s' : MeterStack b} (h : s.Truthful c)
    (hbooked : s'.link.driver.core.booked = s.link.driver.core.booked)
    (hpast : ∀ r ∈ s.past, r ∈ s'.past) (hcalib : s'.calibVal = s.calibVal)
    (hreading : s'.meter.energy.reading c = s.meter.energy.reading c) : s'.Truthful c := by
  have hmem : ∀ reg, ∀ e ∈ s'.link.driver.core.booked,
      e ∈ s.link.driver.core.booked ∨ e.2.1 ≠ reg := fun _ e he => .inl (hbooked ▸ he)
  refine ⟨?_, ?_, ?_⟩
  · have hvalue : (s'.meter.energy.ch c).value.iRms = (s.meter.energy.ch c).value.iRms :=
      congrArg Reading.iRms hreading
    rw [hvalue, hcalib]
    exact h.current.congr (hmem _) hpast
  · have hvalue : (s'.meter.energy.ch c).value.vRms = (s.meter.energy.ch c).value.vRms :=
      congrArg Reading.vRms hreading
    rw [hvalue, hcalib]
    exact h.voltage.congr (hmem _) hpast
  · have hvalue : (s'.meter.energy.ch c).value.activePower =
        (s.meter.energy.ch c).value.activePower := congrArg Reading.activePower hreading
    rw [hvalue, hcalib]
    exact h.power.congr (hmem _) hpast

/-- What is noted stays. -/
theorem Sound.note (h : s.Sound) : s.note.Inv where
  sound := {
    assigned := h.assigned
    replies := fun a ha => by
      obtain ⟨c, hc, hanswer⟩ := h.replies a ha
      exact ⟨c, List.mem_cons_of_mem _ hc, hanswer⟩
    truthful := fun c => (h.truthful c).congr rfl (fun r hr => List.mem_cons_of_mem _ hr) rfl rfl }
  noted := List.mem_cons_self

/-- The handlers of the registers that are read. -/
theorem handlerOf_regIRms (c : b.Chn) : handlerOf (regIRms c) = some .current := by
  match c.val, Nat.lt_of_lt_of_le c.isLt b.le_three with
  | 0, _ => rfl
  | 1, _ => rfl
  | 2, _ => rfl

theorem handlerOf_regWatt (c : b.Chn) : handlerOf (regWatt c) = some .activePower := by
  match c.val, Nat.lt_of_lt_of_le c.isLt b.le_three with
  | 0, _ => rfl
  | 1, _ => rfl
  | 2, _ => rfl

theorem eq_regVRms_of_handlerOf {reg : UInt8} (h : handlerOf reg = some .voltage) :
    reg = regVRms := by
  unfold handlerOf at h
  split_ifs at h with h₀ h₁ h₂
  · injection h with h
    cases h
  · injection h with h
    cases h
  · exact h₂
  all_goals
    injection h with h
    cases h

/-- What an answer `e` does to a value: the value of its register is new, the others stay. -/
theorem Held.report {s' : MeterStack b} {reg : UInt8} {means : (Fin 3 → UInt8) → ℚ → Prop}
    {value value' : ℚ} (h : s.Held reg means value) {e : MeterHandler × UInt8 × List UInt8}
    (hbooked : s'.link.driver.core.booked = s.link.driver.core.booked ++ [e])
    (hpast : ∀ r ∈ s.past, r ∈ s'.past)
    (hnew : e.2.1 = reg → ∃ r ∈ s'.past, means (r reg) value')
    (hother : e.2.1 ≠ reg → value' = value) : s'.Held reg means value' := by
  by_cases hreg : e.2.1 = reg
  · exact .inr (hnew hreg)
  · rw [hother hreg]
    refine h.congr (fun e' he' => ?_) hpast
    rw [hbooked] at he'
    rcases List.mem_append.mp he' with hold | hlast
    · exact .inl hold
    · rw [List.mem_singleton.mp hlast]
      exact .inr hreg

/-- **An answer** that has been in the registers keeps the values true. -/
theorem Truthful.report (h : s.Truthful c) {r : UInt8 → Fin 3 → UInt8} (hr : r ∈ s.past)
    {link : MeterLink} {f : MeterHandler} {reg : UInt8} (hf : handlerOf reg = some f)
    {par : List UInt8} (hpar : (fun i : Fin 3 => par.getD i 0) = r reg)
    (hbooked : link.driver.core.booked = s.link.driver.core.booked ++ [(f, reg, par)]) :
    ({ s with link, meter := MeterStack.report s.calibVal s.meter (f, reg, par) } :
      MeterStack b).Truthful c := by
  have hreading := reading_report s.calibVal s.meter f reg par c
  dsimp only at hreading
  rw [hpar] at hreading
  refine ⟨h.current.report hbooked (fun _ h => h) ?_ ?_,
    h.voltage.report hbooked (fun _ h => h) ?_ ?_, h.power.report hbooked (fun _ h => h) ?_ ?_⟩
  · intro (hreg : reg = regIRms c)
    obtain rfl : f = .current := by
      rw [hreg, handlerOf_regIRms] at hf
      exact (Option.some.inj hf).symm
    dsimp only at hreading
    rw [if_pos hreg] at hreading
    exact ⟨r, hr, hreg ▸ congrArg Reading.iRms hreading⟩
  · intro (hreg : reg ≠ regIRms c)
    refine (congrArg Reading.iRms hreading).trans ?_
    cases f with
    | current => exact congrArg Reading.iRms (if_neg hreg)
    | activePower =>
      dsimp only
      split
      · rfl
      · rfl
    | _ => rfl
  · intro (hreg : reg = regVRms)
    obtain rfl : f = .voltage := by
      rw [hreg] at hf
      exact (Option.some.inj hf).symm
    exact ⟨r, hr, hreg ▸ congrArg Reading.vRms hreading⟩
  · intro (hreg : reg ≠ regVRms)
    refine (congrArg Reading.vRms hreading).trans ?_
    cases f with
    | voltage => exact absurd (eq_regVRms_of_handlerOf hf) hreg
    | current =>
      dsimp only
      split
      · rfl
      · rfl
    | activePower =>
      dsimp only
      split
      · rfl
      · rfl
    | _ => rfl
  · intro (hreg : reg = regWatt c)
    obtain rfl : f = .activePower := by
      rw [hreg, handlerOf_regWatt] at hf
      exact (Option.some.inj hf).symm
    dsimp only at hreading
    rw [if_pos hreg] at hreading
    have hpower : ((MeterStack.report s.calibVal s.meter (.activePower, reg, par)).energy.ch
        c).value.activePower = _ := congrArg Reading.activePower hreading
    refine ⟨r, hr, ?_⟩
    dsimp only
    rw [hpower, hreg]
    dsimp only
    split
    · next hsmall => exact .inr ⟨hsmall.1, rfl⟩
    · exact .inl rfl
  · intro (hreg : reg ≠ regWatt c)
    refine (congrArg Reading.activePower hreading).trans ?_
    cases f with
    | current =>
      dsimp only
      split
      · rfl
      · rfl
    | activePower => exact congrArg Reading.activePower (if_neg hreg)
    | _ => rfl

/-! ## Steps -/

/-- Nothing is booked. -/
theorem Sound.handOn (h : s.Sound) {link : MeterLink}
    (hbooked : link.driver.core.booked = s.link.driver.core.booked)
    (hassigned : link.driver.core.Assigned)
    (hreplies : ∀ a ∈ link.net.toHost, ∃ c : MeterChip, c.reg ∈ s.past ∧
      ∃ address, a = c.answer address) : (s.handOn link).Sound := by
  have hmeter : (s.handOn link).meter = s.meter := by
    rw [MeterStack.handOn, hbooked, List.drop_length]
    rfl
  refine ⟨hassigned, hreplies, fun c => (h.truthful c).congr hbooked (fun _ hr => hr) rfl ?_⟩
  rw [hmeter]

/-- The three bytes that the driver hands on are the first three of the string. -/
theorem getD_data (r : RxString) (i : Fin 3) :
    (((List.range bl0906RxLen).map r.byteAt).take 3).getD i 0 = r.byteAt i := by
  rcases i with ⟨_ | _ | _ | n, hn⟩
  · rfl
  · rfl
  · rfl
  · omega

/-- **A string that is received** is an answer that has been in the registers, or is not booked. -/
theorem Sound.receive (h : s.Sound) (r : RxString) (net : Net MeterChip (List UInt8) (Fin 4 → UInt8))
    (hr : ∀ reg, s.link.driver.core.Outstanding reg → r.Right reg →
      ∃ regs ∈ s.past, (fun i : Fin 3 => r.byteAt i) = regs reg)
    (hreplies : ∀ a ∈ net.toHost, ∃ c : MeterChip, c.reg ∈ s.past ∧
      ∃ address, a = c.answer address) : (s.handOn ⟨s.link.driver.receive r, net⟩).Sound := by
  obtain ⟨hcore, -⟩ := MeterDriver.receive_cases h.assigned r
  have hassigned : (s.link.driver.receive r).core.Assigned := by
    rw [hcore]
    exact h.assigned.step (.receive r)
  rcases s.link.driver.core.receive_eq r with hsame | ⟨reg, f, hout, hf, hright, heq⟩
  · exact h.handOn (by rw [hcore, hsame]) hassigned hreplies
  · obtain ⟨regs, hregs, hdata⟩ := hr reg hout hright
    obtain ⟨f', hf', hfunc⟩ := h.assigned reg hout
    obtain rfl : f' = f := Option.some.inj (hfunc.symm.trans hf)
    have hbooked : (s.link.driver.receive r).core.booked = s.link.driver.core.booked ++
        [(f', reg, ((List.range bl0906RxLen).map r.byteAt).take 3)] := by
      rw [hcore, heq]
    have hpar : (fun i : Fin 3 => (((List.range bl0906RxLen).map r.byteAt).take 3).getD i 0) =
        regs reg := (funext (getD_data r)).trans hdata
    have hto : s.handOn ⟨s.link.driver.receive r, net⟩ =
        { s with
          link := ⟨s.link.driver.receive r, net⟩
          meter := MeterStack.report s.calibVal s.meter
            (f', reg, ((List.range bl0906RxLen).map r.byteAt).take 3) } := by
      rw [MeterStack.handOn, hbooked, List.drop_left]
      rfl
    refine ⟨hassigned, hreplies, fun c => ?_⟩
    rw [hto]
    exact (h.truthful c).report hregs hf' hpar hbooked

/-- The chip answers with what its registers hold. -/
theorem handle_reply {c : MeterChip} {m : List UInt8} {a : Fin 4 → UInt8}
    (h : (MeterChip.handle c m).2 = some a) : ∃ address, a = c.answer address := by
  unfold MeterChip.handle at h
  split at h
  · split_ifs at h
    exact ⟨_, (Option.some.inj h).symm⟩
  · cases h
  · cases h

/-- The data of an answer are the register's. -/
theorem data_rxOf_answer (c : MeterChip) (address before : UInt8) (behind : Nat → UInt8) :
    (fun i : Fin 3 => (rxOf (c.answer address) before behind).byteAt i) = c.reg address := by
  funext i
  rcases i with ⟨_ | _ | _ | n, hn⟩
  · rfl
  · rfl
  · rfl
  · omega

/-- **Step lemma** for the line. -/
theorem Inv.line (h : s.Inv) {ev : GainEvent} (hline : ev.OnLine) (hok : s.link.NoiseOk ev) :
    (s.handOn (s.link.step ev)).Sound := by
  have hsound := h.sound
  cases ev with
  | proc now stack =>
    have hset : (s.link.driver.bl0906SetGainProc now stack).1.core.Assigned ∧
        (s.link.driver.bl0906SetGainProc now stack).1.core.booked = s.link.driver.core.booked := by
      rw [MeterDriver.bl0906SetGainProc]
      split
      · exact ⟨hsound.assigned.step (.read regGain1 stack), rfl⟩
      · exact ⟨hsound.assigned, rfl⟩
    exact hsound.handOn ((Bl0906.fifoProc_cases _ now).1.trans hset.2) (hset.1.step (.proc now))
      hsound.replies
  | deliver i =>
    refine hsound.handOn rfl hsound.assigned (Net.forall_mem_toHost_deliver hsound.replies ?_ i)
    intro m a ha
    exact ⟨s.link.net.device, h.noted, handle_reply ha⟩
  | lose i => exact hsound.handOn rfl hsound.assigned hsound.replies
  | receive i before behind =>
    rw [MeterLink.step]
    cases ha : s.link.net.toHost[i]? with
    | none => exact hsound.handOn rfl hsound.assigned hsound.replies
    | some a =>
      refine hsound.receive (rxOf a before behind) _ (fun reg _ hright => ?_)
        (Net.forall_mem_toHost_reply hsound.replies i)
      obtain ⟨c, hc, address, rfl⟩ := hsound.replies a (List.mem_of_getElem? ha)
      obtain rfl : address = reg :=
        MeterLink.culcCheckSum_inj (MeterLink.right_rxOf_iff.mp hright)
      exact ⟨c.reg, hc, data_rxOf_answer c address before behind⟩
  | loseReply i =>
    exact hsound.handOn rfl hsound.assigned (Net.forall_mem_toHost_reply hsound.replies i)
  | noise r =>
    exact hsound.receive r _ (fun reg hout hright => absurd hright (hok reg hout)) hsound.replies
  | dip reg => exact hsound.handOn rfl hsound.assigned hsound.replies
  | read address stack => exact hline.elim
  | restart => exact hline.elim

/-- **Step lemma** for a call of the energy module. -/
theorem Inv.call (h : s.Inv) {ev : EnergyEvent b} (habove : ev.FromAbove) (stack : Nat → UInt8) :
    (s.call ev stack).Sound := by
  obtain ⟨hassigned, hbooked, hnet⟩ : (s.call ev stack).link.driver.core.Assigned ∧
      (s.call ev stack).link.driver.core.booked = s.link.driver.core.booked ∧
      (s.call ev stack).link.net = s.link.net := by
    rw [MeterStack.call]
    refine invariant_runFrom (I := fun link : MeterLink => link.driver.core.Assigned ∧
      link.driver.core.booked = s.link.driver.core.booked ∧ link.net = s.link.net)
      (fun link reg h => ?_) ⟨h.sound.assigned, rfl, rfl⟩ _
    exact ⟨h.1.step (.read reg stack), h.2⟩
  refine ⟨hassigned, by rw [hnet]; exact h.sound.replies, fun c => ?_⟩
  exact (h.sound.truthful c).congr hbooked (fun _ hr => hr) rfl
    (EnergyState.reading_handle (s := { s.meter.energy with out := [] }) habove)

theorem sound_restart (s : MeterStack b) (rand : b.Chn → Nat → Nat) (calibVal : CalibVal) :
    (s.restart rand calibVal).Sound where
  assigned := Bl0906.assigned_init
  replies _ ha := nomatch ha
  truthful c := by
    have hunread : ∀ reg, (s.restart rand calibVal).Unread reg := fun _ _ he => nomatch he
    exact ⟨.inl ⟨hunread _, rfl⟩, .inl ⟨hunread _, rfl⟩, .inl ⟨hunread _, rfl⟩⟩

/-- **Step lemma.** -/
theorem Inv.step (h : s.Inv) {ev : StackEvent b} (hok : s.NoiseOk ev) : (s.step ev).Inv := by
  cases ev with
  | line ev hline => exact (h.line hline hok).note
  | call ev habove stack => exact (h.call habove stack).note
  | measures reg => exact Sound.note ⟨h.sound.assigned, h.sound.replies, fun c =>
      (h.sound.truthful c).congr rfl (fun _ hr => hr) rfl rfl⟩
  | restart rand calibVal => exact (sound_restart s rand calibVal).note

/-- **What the energy module takes as measured** of a relay has been in the registers of the chip
for it since the boot, whatever is lost, late or out of order on the line, with noise that no
checksum fits. -/
theorem truthful (rand : b.Chn → Nat → Nat) (energy : EnergyState b)
    (reg : UInt8 → Fin 3 → UInt8) (calibVal : CalibVal) (evs : List (StackEvent b))
    (hok : AllSteps step NoiseOk (init rand energy reg calibVal) evs) (c : b.Chn) :
    (runFrom step (init rand energy reg calibVal) evs).Truthful c :=
  (hok.invariant (I := Inv) (fun _ _ h hev => h.step hev)
    (sound_restart _ rand calibVal).note).sound.truthful c

/-- The current of relay 0 is asked for and answered; it falls while the answer is on its way, and a
noise of one byte comes before it. -/
def firstCurrent : List (StackEvent board2) :=
  [.call (.environment { quietEnv with timeMs := 3000 }) trivial fun _ => 0,
    .call (.measurementProc noRand) trivial fun _ => 0, .line (.proc 3000 fun _ => 0) trivial,
    .line (.deliver 0) trivial, .measures fun _ _ => 0,
    .line (.noise ⟨[0], by decide, 0, fun _ => 0⟩) trivial,
    .line (.receive 0 0 fun _ => 0) trivial]

/-- It is the current that was answered. -/
theorem truthful_firstCurrent :
    let v : CalibVal := ⟨1000, fun _ => 1000, fun _ => 1000⟩
    let s := runFrom step (init noRand Picture.unbooted (fun _ _ => 2) v) firstCurrent
    s.Truthful ⟨0, by decide⟩ ∧ 300 < (s.meter.energy.ch ⟨0, by decide⟩).value.iRms := by
  refine ⟨truthful noRand Picture.unbooted (fun _ _ => 2) _ firstCurrent ?_ _, by decide +kernel⟩
  refine ⟨trivial, trivial, trivial, trivial, trivial, fun reg hout => ?_, trivial, trivial⟩
  obtain rfl : regI1Rms = reg := hout.1
  decide

end MeterStack

end LumesSwitch
