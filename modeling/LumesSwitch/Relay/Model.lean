import Mathlib.Logic.Relation
import LumesSwitch.Board
import LumesSwitch.Lib.Flags
import LumesSwitch.Lib.Words
import LumesSwitch.Flash.FlashLog

/-!
# The relay driver (`relay.c`)

A relay command only writes `RLS_SET`. The next `relay_proc` pass maps it to
`RLS_TARGET` and complements `RLS_PRESENT`, so that the pass finds a channel to
drive; the drive itself is done by the timer interrupt behind the next zero
crossing, and consumed by a later pass.

`Device` holds the variables of `relay.c`, what it shares with other modules,
and in `env` the state of the modules it calls back into. The state-change
callback is a parameter: `StateChangeCallback` lets it issue relay commands and
change the other modules, nothing else.
-/

namespace LumesSwitch

open Flags Words Runs

/-! ## Types -/

/-- The switch modes of `sw_config_st.switch_mode`. -/
inductive SwitchMode where
  | toggle
  | momentary
  | lighting
  deriving DecidableEq, Repr

/-- The power-on policies of `sw_config_st.power_on_state`. -/
inductive PowerOnState where
  | off
  | on
  | restore
  deriving DecidableEq, Repr

/-- `src_control_enum` -/
inductive SrcControl where
  | device
  | app
  | binding
  | unknown
  deriving DecidableEq, Repr

/-- `RelayModuleStatus_Enum` -/
inductive RelayModuleStatus where
  | idle
  | busy
  deriving DecidableEq, Repr

/-- `G_OFF`, `G_ON` -/
def gOff : UInt8 := 0
def gOn : UInt8 := 1

/-- `G_ONOFF_SET` -/
def gOnoffSet : UInt16 := 0x0282

/-- `BACKUP_MASK_RL`, the same for every board. -/
def backupMaskRl : BitVec 16 := 0x07#16

/-- `LEVEL_OFF`, `LEVEL_MAX` -/
def levelOff : Int := -32768
def levelMax : Int := 32767

/-- `relay_active_t`: the channel of a drive, and whether its state is `G_ON`.
The two are always written together. -/
structure Drive (b : Board) where
  chn : b.Chn
  on : Bool
  deriving DecidableEq

/-- `store_relay_st_delay_t` -/
structure StoreRelayStDelay where
  enable : Bool
  startWaitTimeT : UInt32
  timeLength : UInt32

/-- `caculator_grid_freq_t` -/
structure GridFreq where
  lastIrqTMs : UInt32
  startTMs : UInt32
  freq : UInt8
  cnt50HZ : UInt8
  cnt60HZ : UInt8
  isCalculating : Bool
  cnt : UInt8

/-- The entries of `relay_on_time_par` for one channel. -/
structure RelayOnTime where
  totalSeconds : UInt32
  totalSecondsStored : UInt32
  checkStartTMs : UInt32
  responseLastTS : UInt32
  intervalTS : UInt32

/-- What `relay.c` sends and calls, in order. -/
inductive RelayOut where
  /-- `led_push_led_command_to_fifo`: LED `idx` on, red or blue -/
  | ledOn (idx : Nat) (red : Bool)
  /-- `VD_TOTAL_RELAY_ON_TIME_INFORMATION` to the gateway -/
  | onTimeRsp (idx : Nat) (seconds : UInt32)
  /-- `CycleFunc_add(relay_store_total_relay_on_time_delay, TIMER_5S)` -/
  | storeOnTimeTask
  /-- `timer1_update_cmp_value` -/
  | timerCmp (us : UInt16)
  /-- `start_reboot` -/
  | startReboot

/-- The variables of `relay.c`; `active` is `none` for `NO_RL_CHN_ACTIVE`, `pin`
is the level last written to each control pin, `timer1` whether the timer runs. -/
structure RelayState (b : Board) where
  rlsTarget : BitVec 16
  rlsPresent : BitVec 16
  rlsSet : BitVec 16
  rlsActual : BitVec 16
  relayModuleSt : RelayModuleStatus
  doneOnOffControlFlag : Bool
  halfPeriodOfGrid : UInt16
  mdBusyStTime : UInt32
  waitZeroPointStTime : UInt32
  controlWhenTimeout : Bool
  srcControl : b.Chn → SrcControl
  active : Option (Drive b)
  onRelayStartTime : b.Chn → UInt32
  onRelayFlag : b.Chn → Bool
  storeDelay : StoreRelayStDelay
  onTime : b.Chn → RelayOnTime
  powerOnControl : b.Chn → Bool
  gridFreq : GridFreq
  stateLog : LogState
  onTimeLog : LogState
  pin : b.Chn → Bool
  timer1 : Bool
  out : List RelayOut

/-- `st_transition_t`, lightness -/
structure StTransition where
  present : Int
  target : Int

/-- `nwk_message_para_t` -/
structure NwkMessagePara where
  src : UInt16
  dst : UInt16
  opcode : UInt16

/-- What `relay.c` shares with other modules. -/
structure Shared (b : Board) where
  switchMode : b.Chn → SwitchMode
  powerOnState : b.Chn → PowerOnState
  timeMs : UInt32
  timeS : UInt32
  factActive : Bool
  eleAdrPrimary : UInt16
  lightness : b.Btn → StTransition
  nwkControlMsgPara : b.Btn → NwkMessagePara

/-- A command for a relay: a network on/off, `relay_toggle_state`, or
`relay_set_target_state`. -/
inductive RelayCmd where
  | net (st : Bool)
  | toggle
  | set (st : Bool)
  deriving DecidableEq, Repr

/-- An accepted command, with the relay's flags when it was accepted. -/
structure CmdEntry (b : Board) where
  chn : b.Chn
  cmd : RelayCmd
  target : Bool
  set : Bool
  deriving DecidableEq, Repr

/-- The device as `relay.c` sees it. `trace` lists the commands accepted so far;
the code never reads it. -/
structure Device (b : Board) (ε : Type) where
  relay : RelayState b
  sh : Shared b
  env : ε
  trace : List (CmdEntry b)

theorem relayStateBlock_pos : 1 ≤ 2 := by decide

theorem relayStateBlock_le : 2 ≤ 255 := by decide

/-- The log of the sector `FLASH_ADR_RELAY_STATE`: the word `RLS_TARGET`. -/
def relayStateLog : FlashLog := .sector 0x7E000 2 relayStateBlock_pos relayStateBlock_le

/-- The log of the sector `FLASH_ADR_RELAY_ON_TIME`: one word for each channel. -/
def relayOnTimeLog (b : Board) : FlashLog :=
  .sector 0x37000 (4 * b.numberRl) b.chnWords_pos b.chnWords_le

/-- The bytes of a 16-bit word. -/
def le16 (w : BitVec 16) : List UInt8 :=
  [UInt8.ofNat w.toNat, UInt8.ofNat (w.toNat / 2 ^ 8)]

/-- The 16-bit word in two bytes. -/
def ofLe16 (bs : List UInt8) : BitVec 16 :=
  BitVec.ofNat 16 ((bs.getD 0 0).toNat + 2 ^ 8 * (bs.getD 1 0).toNat)

namespace Device

variable {b : Board} {ε : Type}

/-! ## Access -/

/-- Change the variables of `relay.c`. -/
def updRelay (s : Device b ε) (f : RelayState b → RelayState b) : Device b ε :=
  { s with relay := f s.relay }

def updOnTime (s : Device b ε) (c : b.Chn) (f : RelayOnTime → RelayOnTime) : Device b ε :=
  s.updRelay fun r => { r with onTime := Function.update r.onTime c (f (r.onTime c)) }

def emit (s : Device b ε) (o : RelayOut) : Device b ε :=
  s.updRelay fun r => { r with out := r.out ++ [o] }

/-- `(w >> idx) & 0x01` -/
def bit (w : BitVec 16) (idx : Nat) : UInt8 := if isOn w idx then gOn else gOff

/-- Record an accepted command; there is none for a channel the board lacks. -/
def record (s : Device b ε) (idx : Nat) (cmd : RelayCmd) : Device b ε :=
  if h : idx < b.numberRl then
    { s with
      trace := s.trace ++
        [⟨⟨idx, h⟩, cmd, isOn s.relay.rlsTarget idx, isOn s.relay.rlsSet idx⟩] }
  else s

/-- `update_control_message_params` -/
def updateControlMessageParams (s : Device b ε) (idx : Nat) (src dst opcode : UInt16) :
    Device b ε :=
  if h : idx < b.numberButton then
    { s with sh := { s.sh with
        nwkControlMsgPara := Function.update s.sh.nwkControlMsgPara ⟨idx, h⟩ ⟨src, dst, opcode⟩ } }
  else s

/-! ## Commands -/

/-- `relay_setup_store_state_delay` -/
def setupStoreStateDelay (s : Device b ε) : Device b ε :=
  s.updRelay fun r => { r with storeDelay := ⟨true, s.sh.timeMs, 3000⟩ }

/-- The body of `relay_set_target_state`. -/
def writeSet (s : Device b ε) (idx : Nat) (st : UInt8) (src : SrcControl) (store : Bool) :
    Device b ε :=
  if h : idx < b.numberRl then
    let s := s.updRelay fun r => { r with
      rlsSet := Flags.put r.rlsSet idx (decide (st = gOn)) &&& backupMaskRl }
    -- only a state that is not the target yet is worth a store
    let s := if st ≠ bit s.relay.rlsTarget idx ∧ store then s.setupStoreStateDelay else s
    let s := s.updRelay fun r => { r with srcControl := Function.update r.srcControl ⟨idx, h⟩ src }
    if src = .device then
      let adr := UInt16.ofNat idx + s.sh.eleAdrPrimary
      s.updateControlMessageParams (idx + Board.eleRelayOffset) adr adr gOnoffSet
    else s
  else s

/-- `relay_set_target_state` -/
def setTargetState (s : Device b ε) (idx : Nat) (st : UInt8) (src : SrcControl)
    (store : Bool) : Device b ε :=
  (s.record idx (.set (decide (st = gOn)))).writeSet idx st src store

/-- `relay_toggle_state` -/
def toggleState (s : Device b ε) (idx : Nat) (src : SrcControl) : Device b ε :=
  let st := if bit s.relay.rlsTarget idx = gOn then gOff else gOn
  (s.record idx .toggle).writeSet idx st src true

/-- The relay's part of `send_control_dev_manual_to_mcu` once it has accepted a
command: a command for the state the relay has writes nothing. -/
def netState (s : Device b ε) (idx : Nat) (st : Bool) : Device b ε :=
  let s' := s.record idx (.net st)
  if isOn s.relay.rlsTarget idx = st then s'
  else s'.writeSet idx (if st then gOn else gOff) .app true

/-- `relay_control_same_state`: `RLS_PRESENT` becomes the complement of
`RLS_TARGET`, so that the channel is driven again. -/
def controlSameState (s : Device b ε) (c : b.Chn) : Device b ε :=
  s.updRelay fun r => { r with rlsPresent := Flags.put r.rlsPresent c (!isOn r.rlsTarget c) }

/-- `relay_handle_switch_change_mode`, for a channel of the board. -/
def handleSwitchChangeMode (s : Device b ε) (c : b.Chn) : Device b ε :=
  match s.sh.switchMode c with
  | .lighting | .toggle => s.controlSameState c
  | .momentary =>
    -- a momentary relay does not stay ON
    if isOn s.relay.rlsTarget c = false then s.controlSameState c
    else s.setTargetState c gOff .device true

/-- `sw_config_st.switch_mode[c] = m` -/
def writeSwitchMode (s : Device b ε) (c : b.Chn) (m : SwitchMode) : Device b ε :=
  { s with sh := { s.sh with switchMode := Function.update s.sh.switchMode c m } }

/-- An accepted switch-mode setting of `sw_cfg_handle_set_message`: the array is
updated, and the relay told when the mode is another one. -/
def changeMode (s : Device b ε) (c : b.Chn) (m : SwitchMode) : Device b ε :=
  let s' := s.writeSwitchMode c m
  if s.sh.switchMode c ≠ m then s'.handleSwitchChangeMode c else s'

/-! ## On-time -/

/-- `relay_store_total_relay_on_time` -/
def storeTotalRelayOnTime (s : Device b ε) : Device b ε :=
  if b.chns.any fun c => (s.relay.onTime c).totalSeconds ≠ (s.relay.onTime c).totalSecondsStored
  then s.updRelay fun r => { r with
    onTimeLog := (relayOnTimeLog b).put r.onTimeLog (encodeWords fun c => (r.onTime c).totalSeconds)
    onTime := fun c => { r.onTime c with totalSecondsStored := (r.onTime c).totalSeconds } }
  else s

/-- `relay_response_total_relay_on_time`, for a channel of the board. -/
def responseTotalRelayOnTime (s : Device b ε) (c : b.Chn) : Device b ε :=
  (s.emit (.onTimeRsp c (s.relay.onTime c).totalSeconds)).storeTotalRelayOnTime

/-- `relay_check_publish_relay_on_time` -/
def checkPublishRelayOnTime (rand : Nat) (s : Device b ε) (c : b.Chn) : Device b ε :=
  let p := s.relay.onTime c
  if clockTimeExceed s.sh.timeS p.responseLastTS p.intervalTS then
    let s := s.updOnTime c fun p => { p with
      intervalTS := UInt32.ofNat (12 * 60 * 60 + rand % (12 * 60 * 60))
      responseLastTS := s.sh.timeS }
    s.responseTotalRelayOnTime c
  else s

/-- Bring a start of counting that lies in the future back to now. -/
def clampCheckStart (s : Device b ε) (c : b.Chn) : Device b ε :=
  s.updOnTime c fun p => { p with
    checkStartTMs := if p.checkStartTMs > s.sh.timeMs then s.sh.timeMs else p.checkStartTMs }

/-- The body of the loop of `relay_on_time_proc`. -/
def onTimeChannel (rand : Nat → Nat) (s : Device b ε) (c : b.Chn) : Device b ε :=
  if isOn s.relay.rlsPresent c then
    let s := s.clampCheckStart c
    let expireTimeMs := s.sh.timeMs - (s.relay.onTime c).checkStartTMs
    if expireTimeMs ≥ 60000 then
      let s := s.updOnTime c fun p => { p with
        totalSeconds := p.totalSeconds + expireTimeMs / 1000
        checkStartTMs := s.sh.timeMs }
      s.checkPublishRelayOnTime (rand c) c
    else s
  else s.checkPublishRelayOnTime (rand c) c

/-- `relay_on_time_proc`. Its static `tick_ms` is never written: the loop runs
once five seconds have passed since boot. -/
def onTimeProc (rand : Nat → Nat) (s : Device b ε) : Device b ε :=
  if clockTimeExceed s.sh.timeMs 0 5000 then runFrom (onTimeChannel rand) s b.chns else s

end Device

/-! ## The state-change callback -/

/-- What a state-change callback may do: accept a relay command, or change the
other modules' state and the parameters of the last control messages. -/
inductive CallbackStep {b : Board} {ε : Type} : Device b ε → Device b ε → Prop where
  | setTargetState (s : Device b ε) (idx : Nat) (st : UInt8) (src : SrcControl) (store : Bool) :
      CallbackStep s (s.setTargetState idx st src store)
  | toggleState (s : Device b ε) (idx : Nat) (src : SrcControl) :
      CallbackStep s (s.toggleState idx src)
  | netState (s : Device b ε) (idx : Nat) (st : Bool) : CallbackStep s (s.netState idx st)
  | other (s : Device b ε) (env : ε) (nwk : b.Btn → NwkMessagePara) :
      CallbackStep s { s with env := env, sh := { s.sh with nwkControlMsgPara := nwk } }

/-- `pvRL_handle_relay_state_change` -/
structure StateChangeCallback (b : Board) (ε : Type) where
  run : Device b ε → b.Chn → UInt8 → Device b ε
  steps : ∀ s c st, Relation.ReflTransGen CallbackStep s (run s c st)

namespace Device

variable {b : Board} {ε : Type} (cb : StateChangeCallback b ε)

/-! ## `relay_proc` -/

/-- The body of the loop of `relay_map_set_and_target_status`. -/
def mapChannel (s : Device b ε) (c : b.Chn) : Device b ε :=
  if isOn s.relay.rlsSet c ≠ isOn s.relay.rlsTarget c then
    let st := isOn s.relay.rlsSet c
    let level := if st then levelMax else levelOff
    let s := s.updRelay fun r => { r with
      rlsTarget := Flags.put r.rlsTarget c st
      rlsPresent := Flags.put r.rlsPresent c (!st) }
    let s := { s with sh := { s.sh with
      lightness := Function.update s.sh.lightness (Board.relayEle c) ⟨level, level⟩ } }
    let s := s.emit (.ledOn c (isOn s.relay.rlsTarget c))
    -- no other module hears of a change in the factory test
    if s.sh.factActive then s else cb.run s c (if st then gOn else gOff)
  else s

/-- The masking at the end of `relay_map_set_and_target_status`. -/
def maskRls (s : Device b ε) : Device b ε :=
  s.updRelay fun r => { r with
    rlsPresent := r.rlsPresent &&& backupMaskRl
    rlsTarget := r.rlsTarget &&& backupMaskRl
    rlsSet := r.rlsSet &&& backupMaskRl }

/-- `relay_map_set_and_target_status` -/
def mapSetAndTargetStatus (s : Device b ε) : Device b ε :=
  if s.relay.rlsSet ≠ s.relay.rlsTarget then (runFrom (mapChannel cb) s b.chns).maskRls else s

/-- `relay_store_target_state` -/
def storeTargetState (s : Device b ε) : Device b ε :=
  s.updRelay fun r => { r with stateLog := relayStateLog.put r.stateLog (le16 r.rlsTarget) }

/-- `relay_handle_store_delay` -/
def handleStoreDelay (s : Device b ε) : Device b ε :=
  let d := s.relay.storeDelay
  if d.enable && clockTimeExceed s.sh.timeMs d.startWaitTimeT d.timeLength then
    s.storeTargetState.updRelay fun r =>
      { r with storeDelay := { r.storeDelay with enable := false } }
  else s

/-- The body of the loop of `relay_check_auto_off`. -/
def checkAutoOffChannel (s : Device b ε) (c : b.Chn) : Device b ε :=
  if s.sh.switchMode c = .momentary ∧ s.relay.onRelayFlag c = true ∧
      clockTimeExceed s.sh.timeMs (s.relay.onRelayStartTime c) 500 = true then
    let s := s.updRelay fun r => { r with onRelayFlag := Function.update r.onRelayFlag c false }
    s.setTargetState c gOff .device true
  else s

/-- `relay_check_auto_off` -/
def checkAutoOff (s : Device b ε) : Device b ε := runFrom checkAutoOffChannel s b.chns

/-- The on-time part of a consumed drive of channel `c`: an OFF drive counts the
time since the start of counting, an ON drive starts it. -/
def consumeOnTime (s : Device b ε) (c : b.Chn) (on : Bool) : Device b ε :=
  let s := s.clampCheckStart c
  let s :=
    if on = false then
      -- the first drive since boot ends no ON period
      if s.relay.powerOnControl c = false then
        (s.updOnTime c fun p => { p with
          totalSeconds := p.totalSeconds + (s.sh.timeMs - p.checkStartTMs) / 1000 }).emit
            .storeOnTimeTask
      else s
    else s.updOnTime c fun p => { p with checkStartTMs := s.sh.timeMs }
  s.updRelay fun r => { r with
    powerOnControl := Function.update r.powerOnControl c false
    rlsActual := r.rlsActual &&& backupMaskRl }

/-- The consumption of a finished drive in `relay_proc`. -/
def consumeDone (s : Device b ε) : Device b ε :=
  let s :=
    match s.relay.active with
    | none => s
    | some ⟨c, on⟩ =>
      let lighting := decide (s.sh.switchMode c = SwitchMode.lighting)
      let s := s.updRelay fun r => { r with
        rlsPresent := Flags.put r.rlsPresent c on &&& backupMaskRl
        rlsActual := Flags.put r.rlsActual c (lighting || on) }
      s.consumeOnTime c on
  s.updRelay fun r => { r with doneOnOffControlFlag := false }

/-- `relay_set_up_time_to_change_state`: the delays for ON and for OFF are equal. -/
def setUpTimeToChangeState (s : Device b ε) : Device b ε :=
  let cmp := s.relay.halfPeriodOfGrid - 5200
  s.emit (.timerCmp (if s.relay.halfPeriodOfGrid = 8000 then cmp + 300 else cmp))

/-- Start a drive of channel `c`. -/
def startDrive (s : Device b ε) (c : b.Chn) : Device b ε :=
  let on := isOn s.relay.rlsTarget c
  let s := s.updRelay fun r => { r with active := some ⟨c, on⟩ }
  let s :=
    -- a momentary relay switched ON by the network goes OFF by itself
    if on = true ∧ s.sh.switchMode c = .momentary ∧ s.relay.srcControl c = .app then
      s.updRelay fun r => { r with
        onRelayStartTime := Function.update r.onRelayStartTime c s.sh.timeMs
        onRelayFlag := Function.update r.onRelayFlag c true
        srcControl := Function.update r.srcControl c .device }
    else s
  let s := s.updRelay fun r => { r with
    relayModuleSt := .busy, waitZeroPointStTime := s.sh.timeMs }
  s.setUpTimeToChangeState.updRelay fun r => { r with controlWhenTimeout := false }

/-- The first channel whose target is not its present state. -/
def nextChannel (s : Device b ε) : Option b.Chn :=
  b.chns.find? fun c => isOn s.relay.rlsTarget c != isOn s.relay.rlsPresent c

/-- The idle branch of `relay_proc`. -/
def procIdle (s : Device b ε) : Device b ε :=
  let s := if s.relay.doneOnOffControlFlag then s.consumeDone else s
  if s.relay.rlsTarget ≠ s.relay.rlsPresent then
    match s.nextChannel with
    | some c => s.startDrive c
    | none => s
  else s

/-- The busy branch of `relay_proc`: the zero crossing is overdue. -/
def procBusy (s : Device b ε) : Device b ε :=
  if s.relay.active.isSome ∧ s.relay.controlWhenTimeout = false ∧
      clockTimeExceed s.sh.timeMs s.relay.waitZeroPointStTime 70 = true then
    s.updRelay fun r => { r with controlWhenTimeout := true, timer1 := true }
  else s

/-- The watch on a module that stays busy. -/
def checkBusyTimeout (s : Device b ε) : Device b ε :=
  let s := if s.relay.relayModuleSt ≠ .busy then
    s.updRelay fun r => { r with mdBusyStTime := s.sh.timeMs } else s
  if clockTimeExceed s.sh.timeMs s.relay.mdBusyStTime 10000 then s.emit .startReboot else s

/-- `relay_proc` -/
def proc (rand : Nat → Nat) (s : Device b ε) : Device b ε :=
  let s := s.onTimeProc rand
  let s := s.mapSetAndTargetStatus cb
  let s := s.handleStoreDelay
  let s := s.checkAutoOff
  let s := match s.relay.relayModuleSt with
    | .idle => s.procIdle
    | .busy => s.procBusy
  s.checkBusyTimeout

/-! ## Interrupts -/

/-- Write the pin of the drive in progress: `relay_normal_on`, `relay_normal_off`. -/
def drivePin (s : Device b ε) : Device b ε :=
  match s.relay.active with
  | none => s
  | some ⟨c, on⟩ =>
    let level := if s.sh.switchMode c = SwitchMode.lighting then true else on
    s.updRelay fun r => { r with pin := Function.update r.pin c level }

/-- `relay_handle_control_when_timer_match` -/
def handleControlWhenTimerMatch (s : Device b ε) : Device b ε :=
  let s := s.updRelay fun r => { r with timer1 := false }
  if s.relay.relayModuleSt = .busy then
    s.drivePin.updRelay fun r => { r with doneOnOffControlFlag := true, relayModuleSt := .idle }
  else s

/-- The grid-frequency part of `RL_handleZeroSync`. -/
def gridFreqZeroSync (s : Device b ε) : Device b ε :=
  if s.relay.gridFreq.isCalculating then
    let s :=
      -- two interrupts within 5 ms are one zero crossing
      if clockTimeExceed s.sh.timeMs s.relay.gridFreq.lastIrqTMs 5 then
        s.updRelay fun r => { r with gridFreq := { r.gridFreq with
          cnt := r.gridFreq.cnt + 1, lastIrqTMs := s.sh.timeMs } }
      else s
    if s.sh.timeMs - s.relay.gridFreq.startTMs ≥ 1000 ∧ s.relay.gridFreq.cnt ≠ 0 then
      let is50 := decide (s.relay.gridFreq.cnt < 55)
      let g := { s.relay.gridFreq with
        freq := s.relay.gridFreq.cnt
        cnt50HZ := if is50 then s.relay.gridFreq.cnt50HZ + 1 else 0
        cnt60HZ := if is50 then 0 else s.relay.gridFreq.cnt60HZ + 1 }
      s.updRelay fun r => { r with
        halfPeriodOfGrid := if is50 then 10000 else 8000
        gridFreq := { g with
          isCalculating := !decide (g.cnt50HZ ≥ 10 ∨ g.cnt60HZ ≥ 10)
          startTMs := s.sh.timeMs
          cnt := 0 } }
    else s
  else s

/-- `RL_handleZeroSync` -/
def handleZeroSync (s : Device b ε) : Device b ε :=
  let s :=
    if s.relay.controlWhenTimeout = false then
      s.updRelay fun r => { r with controlWhenTimeout := true, timer1 := true }
    else s
  s.gridFreqZeroSync

/-! ## Boot -/

/-- The policy of a channel applied to the restored `RLS_TARGET`. -/
def applyPowerOnState (sh : Shared b) (w : BitVec 16) (c : b.Chn) : BitVec 16 :=
  match sh.switchMode c with
  | .momentary => setOff w c
  | .toggle | .lighting =>
    match sh.powerOnState c with
    | .on => setOn w c
    | .off => setOff w c
    | .restore => w

/-- `relay_restore_target_state` -/
def restoreTargetState (s : Device b ε) : Device b ε :=
  let log := relayStateLog.reindex s.relay.stateLog
  let w := ofLe16 (relayStateLog.restore log)
  -- erased flash: nothing was ever stored
  let w := if w = 0xFFFF#16 then 0 else w
  let target := runFrom (applyPowerOnState s.sh) w b.chns &&& backupMaskRl
  -- the complement makes `relay_proc` drive every channel once
  let s := s.updRelay fun r => { r with
    stateLog := log
    rlsTarget := target
    rlsPresent := ~~~target &&& backupMaskRl
    rlsSet := target
    rlsActual := 0 }
  let level (c : b.Chn) := if isOn target c then levelMax else levelOff
  let lightness := runFrom
    (fun l c => Function.update l (Board.relayEle c) ⟨level c, level c⟩) s.sh.lightness b.chns
  { s with sh := { s.sh with lightness := lightness } }

/-- `relay_restore_total_relay_on_time` -/
def restoreTotalRelayOnTime (s : Device b ε) : Device b ε :=
  let log := (relayOnTimeLog b).reindex s.relay.onTimeLog
  let tmp : b.Chn → UInt32 := decodeWords ((relayOnTimeLog b).restore log)
  s.updRelay fun r => { r with
    onTimeLog := log
    onTime := fun c =>
      let total := if tmp c = 0xFFFFFFFF then 0 else tmp c
      { r.onTime c with totalSeconds := total, totalSecondsStored := total } }

/-- `relay_report_relay_on_time_init` -/
def reportRelayOnTimeInit (rand : Nat → Nat) (s : Device b ε) : Device b ε :=
  s.updRelay fun r => { r with onTime := fun c => { r.onTime c with
    responseLastTS := 0
    intervalTS := UInt32.ofNat (5 * 60 + rand c % (5 * 60)) } }

/-- `relay_init`; the interrupts, the timer and the callbacks it sets up are the
events and parameters of the model, and `energy_init` has a model of its own. -/
def relayInit (rand : Nat → Nat) (s : Device b ε) : Device b ε :=
  let s := s.updRelay fun r => { r with
    pin := fun _ => false
    srcControl := fun _ => .device
    powerOnControl := fun _ => true }
  let s := s.restoreTargetState
  let s := s.updRelay fun r => { r with
    relayModuleSt := .idle
    mdBusyStTime := s.sh.timeMs
    gridFreq := { r.gridFreq with startTMs := s.sh.timeMs } }
  s.restoreTotalRelayOnTime.reportRelayOnTimeInit rand

end Device

/-- The variables of `relay.c` before `relay_init`: their static values, and
the two sectors as they are. -/
def RelayState.powerUp (b : Board) (stateLog onTimeLog : LogState) : RelayState b where
  rlsTarget := 0
  rlsPresent := 0
  rlsSet := 0
  rlsActual := 0
  relayModuleSt := .idle
  doneOnOffControlFlag := false
  halfPeriodOfGrid := 0
  mdBusyStTime := 0
  waitZeroPointStTime := 0
  controlWhenTimeout := false
  srcControl _ := .device
  active := none
  onRelayStartTime _ := 0
  onRelayFlag _ := false
  storeDelay := ⟨false, 0, 0⟩
  onTime _ := ⟨0, 0, 0, 0, 0⟩
  powerOnControl _ := false
  gridFreq := ⟨0, 0, 50, 0, 0, true, 0⟩
  stateLog := stateLog
  onTimeLog := onTimeLog
  pin _ := false
  timer1 := false
  out := []

/-- The device after a boot. -/
def Device.boot {b : Board} {ε : Type} (rand : Nat → Nat) (stateLog onTimeLog : LogState)
    (sh : Shared b) (env : ε) : Device b ε :=
  Device.relayInit rand ⟨.powerUp b stateLog onTimeLog, sh, env, []⟩

end LumesSwitch
