import Mathlib.Algebra.Order.Floor.Ring
import Mathlib.Data.Rat.Floor
import LumesSwitch.Board
import LumesSwitch.Lib.Words
import LumesSwitch.Flash.FlashLog

/-!
# Energy accounting (`energy.c`)

The meter chip counts energy from its own zero; `energy.c` adds the count since
the offset captured at power-on to the history restored from flash, publishes
the sum and stores it. One flash record holds the totals of all channels.

The per-channel arrays of the source are the fields of `EnergyChannel`. The
`float` accumulators are exact rationals. `rand()` is an argument of the
functions that call it, one value for each call. The publications of current,
voltage and power share the delay and period records with those of energy, so
they are modelled too.
-/

namespace LumesSwitch

open Words

/-- `m_type_enum` -/
inductive MType where
  | current
  | voltage
  | activePower
  | activeEnergy
  deriving DecidableEq, Repr

/-- `SourceReport_Enum` -/
inductive SourceReport where
  | unknown
  | changeSt
  | delta
  | periodic
  | query
  deriving DecidableEq, Repr

/-- `energy_updated_flag_t` -/
structure EnergyUpdatedFlag where
  iRms : Bool
  vRms : Bool
  activePower : Bool
  activeEnergy : Bool
  deriving DecidableEq, Repr

/-- `energy_value_t` -/
structure EnergyValue where
  iRms : ℚ
  vRms : ℚ
  activePower : ℚ
  activeEnergy : ℚ
  deriving DecidableEq, Repr

/-- `publish_energy_delay_par_t`, and `publish_iup_pf_delay_par_t` less its source. -/
structure PublishDelay where
  enable : Bool
  startTMs : UInt32
  waitTMs : UInt32
  updateLastTS : UInt32
  deriving DecidableEq, Repr

/-- The entries of the arrays of `energy.c` for one channel. -/
structure EnergyChannel where
  updatedFlag : EnergyUpdatedFlag
  value : EnergyValue
  reported : EnergyValue
  queryTStart : UInt32
  updateWhTStart : UInt32
  totalActiveEnergy : ℚ
  activeEnergyPowerOn : ℚ
  activeEnergyOffset : ℚ
  activePowerMax : ℚ
  forceReportIup : Bool
  fastReportIup : Bool
  publishEnergy : PublishDelay
  publishIup : PublishDelay
  publishIupSrc : SourceReport
  reportPowerOn : Bool
  iupTLenS : UInt32
  powerTLenS : UInt32

/-- What `energy.c` sends and calls. -/
inductive EnergyOut where
  /-- `VD_ACTIVE_ENERGY_INFORMATION` to the gateway -/
  | activeEnergy (idx : Nat) (status : Bool) (wh : UInt32)
  /-- `VD_IUP_INFORMATION` to the gateway -/
  | iupPf (idx : Nat) (i v : UInt16) (p : UInt32)
  /-- `bl0906_measurenment_start` -/
  | measurementStart (idx : Nat)
  /-- `fact_set_energy_status(true)` -/
  | factEnergyOk
  deriving DecidableEq, Repr

/-- What `energy.c` reads of other modules. -/
structure EnergyEnv where
  /-- `clock_time_ms`, `clock_time_s` -/
  timeMs : UInt32
  timeS : UInt32
  /-- `pvEnergy_get_actual_relay_state` returns `G_ON`; `none` before it is set -/
  actualRelayOn : Option (Nat → Bool)
  /-- the present lightness of the relay elements is `LEVEL_OFF` -/
  lightnessOff : Nat → Bool
  /-- `fact_is_active` -/
  factActive : Bool

/-- The state of the module, with the sector it writes and what it sent. -/
structure EnergyState (b : Board) where
  ch : b.Chn → EnergyChannel
  log : LogState
  env : EnergyEnv
  out : List EnergyOut

/-! ## Conversions and constants -/

/-- A `float` converted to `u32`: truncated, then reduced to 32 bits. -/
def toU32 (x : ℚ) : UInt32 := UInt32.ofInt (if 0 ≤ x then ⌊x⌋ else ⌈x⌉)

/-- A `float` converted to `u16`. -/
def toU16 (x : ℚ) : UInt16 := (toU32 x).toUInt16

/-- A word of a flash record as a `float`. -/
def ofU32 (x : UInt32) : ℚ := (x.toNat : ℚ)

/-- `abs` (tutility.h) -/
def absQ (x : ℚ) : ℚ := if 0 < x then x else -x

/-- `MACRO_IUP_REPORT_TIME`, and `MACRO_ACTIVE_ENERGY_REPORT_TIME` with the
same constants. -/
def macroReportTime (rand : Nat) : UInt32 := UInt32.ofNat (5000 + rand % 25000)

/-- A period of `offset` seconds and up to five minutes. -/
def periodicTLen (offset rand : Nat) : UInt32 := UInt32.ofNat (offset + rand % (5 * 60))

/-- The log of the sector `FLASH_ADR_ENERGY`: blocks of `NUMBER_RL` words. -/
def energyLog (b : Board) : FlashLog :=
  .sector 0x7F000 (4 * b.numberRl) b.chnWords_pos b.chnWords_le

namespace EnergyState

variable {b : Board}

/-- Change the entries of one channel. -/
def upd (s : EnergyState b) (c : b.Chn) (f : EnergyChannel → EnergyChannel) : EnergyState b :=
  { s with ch := Function.update s.ch c (f (s.ch c)) }

/-- The guard `idx < NUMBER_RL` of the callbacks. -/
def onIdx (s : EnergyState b) (idx : Nat) (f : b.Chn → EnergyState b) : EnergyState b :=
  if h : idx < b.numberRl then f ⟨idx, h⟩ else s

def send (s : EnergyState b) (o : EnergyOut) : EnergyState b := { s with out := s.out ++ [o] }

/-! ## Flash -/

/-- The record read at the current index. -/
def restoreRecord (s : EnergyState b) : b.Chn → UInt32 :=
  decodeWords ((energyLog b).restore s.log)

/-- `flash_user_store` of one word for each channel. -/
def storeRecord (s : EnergyState b) (tmp : b.Chn → UInt32) : EnergyState b :=
  { s with log := (energyLog b).put s.log (encodeWords tmp) }

/-- `restore_active_power` -/
def restoreActivePower (s : EnergyState b) : EnergyState b :=
  let s := { s with log := (energyLog b).reindex s.log }
  let tmp := s.restoreRecord
  { s with ch := fun c =>
      { s.ch c with activeEnergyPowerOn := if tmp c = 0xFFFFFFFF then 0 else ofU32 (tmp c) } }

/-- `store_active_power` -/
def storeActivePower (s : EnergyState b) : EnergyState b :=
  s.storeRecord fun c => toU32 (s.ch c).totalActiveEnergy

/-- `energy_clean_all_active_power` -/
def energyCleanAllActivePower (s : EnergyState b) : EnergyState b :=
  s.storeRecord fun _ => 0

/-! ## Setting up publications -/

/-- `energy_setup_publish_energy_delay` on its channel. -/
def setupPublishEnergyDelay (s : EnergyState b) (c : b.Chn) (waitTMs : UInt32) :
    EnergyState b :=
  s.upd c fun e =>
    if e.publishEnergy.enable then e
    else { e with publishEnergy := { e.publishEnergy with
            enable := true, startTMs := s.env.timeMs, waitTMs := waitTMs } }

/-- `energy_setup_publish_iup_pf_delay` on its channel. -/
def setupPublishIupPfDelay (s : EnergyState b) (c : b.Chn) (waitTMs : UInt32)
    (src : SourceReport) : EnergyState b :=
  s.upd c fun e =>
    if e.publishIup.enable && waitTMs > 3000 * 2 then e
    else { e with
            publishIup := { e.publishIup with
              enable := true, startTMs := s.env.timeMs, waitTMs := waitTMs }
            publishIupSrc := src }

/-- `update_input_to_report` -/
def updateInputToReport (s : EnergyState b) (c : b.Chn) : EnergyState b :=
  s.upd c fun e => { e with reported := { e.reported with
    iRms := e.value.iRms, vRms := e.value.vRms, activePower := e.value.activePower } }

/-! ## Callbacks of the driver -/

/-- `energy_handle_measurement_complete` -/
def handleMeasurementComplete (s : EnergyState b) (idx : Nat) (mType : MType) (value : ℚ) :
    EnergyState b :=
  s.onIdx idx fun c =>
    match mType with
    | .current =>
      s.upd c fun e => { e with
        updatedFlag := { e.updatedFlag with iRms := true }
        value := { e.value with iRms := if value ≤ 10 then 0 else value } }
    | .voltage =>
      -- there is one voltage, measured on channel 0
      if idx ≠ 0 then s
      else
        let s := { s with ch := fun i => { s.ch i with
          updatedFlag := { (s.ch i).updatedFlag with vRms := true }
          value := { (s.ch i).value with vRms := value } } }
        if s.env.factActive && (200000 ≤ value && value ≤ 240000) then s.send .factEnergyOk
        else s
    | .activePower =>
      s.upd c fun e => { e with
        updatedFlag := { e.updatedFlag with activePower := true }
        value := { e.value with
          activePower := if value ≤ 500 ∧ e.value.iRms = 0 then 0 else value }
        activePowerMax := if value > e.activePowerMax then value else e.activePowerMax }
    | .activeEnergy =>
      s.upd c fun e => { e with
        updatedFlag := { e.updatedFlag with activeEnergy := true }
        value := { e.value with activeEnergy := value } }

/-- `energy_handle_cf_cnt_scale_overflow` -/
def handleCfCntScaleOverflow (s : EnergyState b) (idx : Nat) : EnergyState b :=
  s.onIdx idx fun c =>
    s.upd c fun e => { e with
      activeEnergyPowerOn := e.totalActiveEnergy
      totalActiveEnergy := 0
      activeEnergyOffset := 0 }

/-! ## Publications -/

/-- The body of the loop of `energy_publish_active_energy_delay_proc`. -/
def publishActiveEnergy (s : EnergyState b) (c : b.Chn) : EnergyState b :=
  let e := s.ch c
  if e.publishEnergy.enable &&
      clockTimeExceed s.env.timeMs e.publishEnergy.startTMs e.publishEnergy.waitTMs then
    -- `reported` is the total of the last publication, or the record after a boot
    let needSave := decide (e.totalActiveEnergy - e.reported.activeEnergy > 1)
    let s := s.upd c fun e => { e with
      reported := { e.reported with activeEnergy := e.totalActiveEnergy }
      updateWhTStart := s.env.timeMs }
    let s := if needSave then s.storeActivePower else s
    let s := s.send (.activeEnergy c (!s.env.lightnessOff c)
      (toU32 (s.ch c).reported.activeEnergy))
    s.upd c fun e => { e with publishEnergy := { e.publishEnergy with
      enable := false, updateLastTS := s.env.timeS } }
  else s

/-- `energy_publish_active_energy_delay_proc` -/
def publishActiveEnergyDelayProc (s : EnergyState b) : EnergyState b :=
  Runs.runFrom publishActiveEnergy s b.chns

/-- `is_satisfy_percent_change_condition` -/
def isSatisfyPercentChangeCondition (s : EnergyState b) (c : b.Chn) (delta value : ℚ)
    (percent : UInt32) (type : MType) : Bool :=
  if toU32 value = 0 then
    match s.env.actualRelayOn with
    | some on => on c &&
        ((type == .activePower && toU32 delta ≥ 5000) || (type == .current && toU32 delta ≥ 20))
    | none => false
  else toU32 (delta / value * 100) ≥ percent

/-- `energy_iup_is_need_report_by_delta` -/
def iupIsNeedReportByDelta (s : EnergyState b) (c : b.Chn) : Bool :=
  let e := s.ch c
  let scale : UInt32 :=
    if e.value.activePower < 10000 then (if e.value.activePower < 2500 then 4 else 2) else 1
  s.isSatisfyPercentChangeCondition c (absQ (e.reported.iRms - e.value.iRms))
      e.reported.iRms (30 * scale) .current
    || s.isSatisfyPercentChangeCondition c (absQ (e.reported.vRms - e.value.vRms))
      e.reported.vRms 10 .voltage
    || s.isSatisfyPercentChangeCondition c (absQ (e.reported.activePower - e.value.activePower))
      e.reported.activePower (30 * scale) .activePower

/-- Both ends of an iteration that answers a pending report of current, voltage
and power: the flag is cleared, and the time of the *energy* publication set. -/
def iupReportDone (s : EnergyState b) (c : b.Chn) : EnergyState b :=
  s.upd c fun e => { e with
    publishIup := { e.publishIup with enable := false }
    publishEnergy := { e.publishEnergy with updateLastTS := s.env.timeS } }

/-- The body of the loop of `energy_publish_iup_pf_delay_proc`. -/
def publishIupPf (s : EnergyState b) (c : b.Chn) : EnergyState b :=
  let e := s.ch c
  if e.publishIup.enable &&
      clockTimeExceed s.env.timeMs e.publishIup.startTMs e.publishIup.waitTMs then
    if e.publishIupSrc = .delta ∧ s.iupIsNeedReportByDelta c = false then s.iupReportDone c
    else
      let s := s.updateInputToReport c
      let r := (s.ch c).reported
      let s := s.send (.iupPf c (toU16 r.iRms) (toU16 (r.vRms / 100))
        (toU32 r.activePower % 0x1000000))
      s.iupReportDone c
  else s

/-- `energy_publish_iup_pf_delay_proc` -/
def publishIupPfDelayProc (s : EnergyState b) : EnergyState b :=
  Runs.runFrom publishIupPf s b.chns

/-- The body of the loop of `energy_publish_periodic_proc`. -/
def publishPeriodic (rand : b.Chn → Nat → Nat) (s : EnergyState b) (c : b.Chn) :
    EnergyState b :=
  let s :=
    if clockTimeExceed s.env.timeS (s.ch c).publishIup.updateLastTS (s.ch c).iupTLenS then
      let s := s.setupPublishIupPfDelay c 0 .periodic
      s.upd c fun e => { e with
        iupTLenS := periodicTLen (115 * 60) (rand c 0)
        publishIup := { e.publishIup with updateLastTS := s.env.timeS } }
    else s
  if clockTimeExceed s.env.timeS (s.ch c).publishEnergy.updateLastTS (s.ch c).powerTLenS then
    let s := s.setupPublishEnergyDelay c 0
    s.upd c fun e => { e with
      powerTLenS := periodicTLen (50 * 60) (rand c 1)
      publishEnergy := { e.publishEnergy with updateLastTS := s.env.timeS } }
  else s

/-- `energy_publish_periodic_proc` -/
def publishPeriodicProc (rand : b.Chn → Nat → Nat) (s : EnergyState b) : EnergyState b :=
  Runs.runFrom (publishPeriodic rand) s b.chns

/-! ## Measurement -/

/-- `energy_get_active_power_threshold` -/
def getActivePowerThreshold (e : EnergyChannel) : ℚ :=
  if e.activePowerMax < 100 then 50
  else if e.activePowerMax < 300 then 150
  else if e.activePowerMax < 500 then 400
  else if e.activePowerMax < 1000 then 750
  else 1000

/-- `energy_calculator_kwh` -/
def calculatorKwh (rand : b.Chn → Nat → Nat) (s : EnergyState b) (c : b.Chn) :
    EnergyState b :=
  let e := s.ch c
  if e.activeEnergyOffset ≠ 0 then
    let s := s.upd c fun e => { e with totalActiveEnergy :=
      e.activeEnergyPowerOn + (e.value.activeEnergy - e.activeEnergyOffset) }
    let e := s.ch c
    if absQ (e.totalActiveEnergy - e.reported.activeEnergy) ≥ getActivePowerThreshold e ∧
        clockTimeExceed s.env.timeMs e.updateWhTStart 30000 then
      s.setupPublishEnergyDelay c (macroReportTime (rand c 3))
    else s
  -- the first count since boot is where the running total starts
  else if e.value.activeEnergy > 0 then
    s.upd c fun e => { e with activeEnergyOffset := e.value.activeEnergy }
  else s

/-- `energy_check_publish_all_parameter` -/
def checkPublishAllParameter (rand : b.Chn → Nat → Nat) (s : EnergyState b) (c : b.Chn) :
    EnergyState b :=
  let s :=
    if (s.ch c).forceReportIup then
      let wait := if (s.ch c).fastReportIup then UInt32.ofNat (4000 + rand c 0 % 3000)
        else macroReportTime (rand c 0)
      let s := (s.setupPublishIupPfDelay c wait .changeSt).updateInputToReport c
      s.upd c fun e => { e with forceReportIup := false }
    else s
  if (s.ch c).publishIup.enable then s
  else if s.iupIsNeedReportByDelta c then
    let delayMs := if (s.ch c).reportPowerOn then UInt32.ofNat (60000 + rand c 2 % 60000)
      else macroReportTime (rand c 1)
    let s := s.upd c fun e => { e with reportPowerOn := false }
    s.setupPublishIupPfDelay c delayMs .delta
  else s

/-- The body of the loop of `energy_measurement_proc`. -/
def measurement (rand : b.Chn → Nat → Nat) (s : EnergyState b) (c : b.Chn) : EnergyState b :=
  let none : EnergyUpdatedFlag := ⟨false, false, false, false⟩
  let s :=
    if clockTimeExceed s.env.timeMs (s.ch c).queryTStart 2000 then
      let s := s.upd c fun e => { e with updatedFlag := none }
      let s := s.send (.measurementStart c)
      s.upd c fun e => { e with queryTStart := s.env.timeMs }
    else s
  -- all four values of this round have come in
  if (s.ch c).updatedFlag = ⟨true, true, true, true⟩ then
    let s := s.upd c fun e => { e with updatedFlag := none }
    (s.checkPublishAllParameter rand c).calculatorKwh rand c
  else s

/-- `energy_measurement_proc` -/
def measurementProc (rand : b.Chn → Nat → Nat) (s : EnergyState b) : EnergyState b :=
  Runs.runFrom (measurement rand) s b.chns

/-! ## Requests of other modules -/

/-- `energy_handle_delete_power_information` -/
def handleDeletePowerInformation (s : EnergyState b) (idx : Nat) : EnergyState b :=
  s.onIdx idx fun c =>
    let s := s.upd c fun e => { e with
      activeEnergyPowerOn := 0, totalActiveEnergy := 0, activeEnergyOffset := 0 }
    s.storeActivePower.setupPublishEnergyDelay c 0

/-- `energy_handle_relay_state_change` -/
def handleRelayStateChange (s : EnergyState b) (idx : Nat) (st isFast : Bool) (rand : Nat) :
    EnergyState b :=
  s.onIdx idx fun c =>
    let s := s.upd c fun e => { e with forceReportIup := true, fastReportIup := isFast }
    if st = false then
      let s := s.upd c fun e => { e with activePowerMax := 0 }
      let tmp := toU32 ((s.ch c).totalActiveEnergy - (s.ch c).reported.activeEnergy)
      if tmp ≥ 5 then s.setupPublishEnergyDelay c (UInt32.ofNat (30000 + rand % 30000)) else s
    else s

/-- The RAM of a channel before `energy_init`. -/
def ramCleared : EnergyChannel where
  updatedFlag := ⟨false, false, false, false⟩
  value := ⟨0, 0, 0, 0⟩
  reported := ⟨0, 0, 0, 0⟩
  queryTStart := 0
  updateWhTStart := 0
  totalActiveEnergy := 0
  activeEnergyPowerOn := 0
  activeEnergyOffset := 0
  activePowerMax := 0
  forceReportIup := false
  fastReportIup := false
  publishEnergy := ⟨false, 0, 0, 0⟩
  publishIup := ⟨false, 0, 0, 0⟩
  publishIupSrc := .unknown
  reportPowerOn := false
  iupTLenS := 0
  powerTLenS := 0

/-- `energy_init` -/
def energyInit (rand : b.Chn → Nat → Nat) (s : EnergyState b) : EnergyState b :=
  let s := { s with ch := fun c => { s.ch c with
    queryTStart := 0
    updateWhTStart := 0
    updatedFlag := ⟨false, false, false, false⟩
    reported := ⟨0, 0, 0, 0⟩
    value := ⟨0, 0, 0, 0⟩ } }
  let s := s.restoreActivePower
  -- the history waits in `activeEnergyPowerOn` until the running total has started
  { s with ch := fun c => { s.ch c with
    reported := { (s.ch c).reported with activeEnergy := (s.ch c).activeEnergyPowerOn }
    totalActiveEnergy := 0
    activeEnergyOffset := 0
    publishEnergy := { (s.ch c).publishEnergy with enable := false, updateLastTS := 0 }
    publishIup := { (s.ch c).publishIup with enable := false, updateLastTS := 0 }
    publishIupSrc := .unknown
    forceReportIup := false
    iupTLenS := periodicTLen (115 * 60) (rand c 0)
    powerTLenS := periodicTLen (50 * 60) (rand c 1)
    activePowerMax := 0
    reportPowerOn := true } }

/-- A reboot: the RAM is lost, then `energy_init` runs. -/
def reboot (rand : b.Chn → Nat → Nat) (s : EnergyState b) : EnergyState b :=
  energyInit rand { s with ch := fun _ => ramCleared }

end EnergyState

end LumesSwitch
