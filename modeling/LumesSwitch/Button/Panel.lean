import LumesSwitch.Scene.Table
import LumesSwitch.Net.Commands

/-!
# The buttons and what they do (`button.c`, `dimming.c`)

An event of a scene button sends what its table entry says, or a key report; a hold of
a button with a dimming event starts to dim and its release stops. An event of a relay
button switches its relay or, in lighting mode and bound to a group, dims the group.
Two pairs of buttons, held together, arm a factory reset.

- `Panel.buttonHandleOptionBtnState` — the handler of every button event;
- `PanelEvent`, `Panel.step` — the events, and what else goes on in between.
-/

namespace LumesSwitch

open Flags Runs Words

/-! ## Types -/

/-- `btn_many_par_t` -/
structure BtnManyPar where
  disableStTimeMs : UInt32
  isEnable : Bool

/-- `Step_Reset_Enum` -/
inductive StepReset where
  | idle
  | hold5S
  | hold5SRelease
  deriving DecidableEq

/-- `para_btn_reset_t` -/
structure ParaBtnReset where
  isActive : Bool
  step : StepReset
  changeStepLastT : UInt32
  isActiveStTime : UInt32

/-- `send_exe_scene_delay_t` -/
structure SendExeSceneDelay where
  sendLastTMs : UInt32
  enSend : Bool
  btnKey : UInt8
  sendEvIdx : UInt8

/-- The part of `sw_cfg_auto_t` that `sw_config_enable_auto_send` uses. -/
structure SwCfgAuto where
  en : Bool
  sendLastT : UInt32
  opIndex : UInt8
  btnIdx : UInt8

/-- The switch with its buttons. -/
structure Panel (b : Board) where
  dev : NetDevice b
  scenes : Scenes b
  presentLock : b.Btn → UInt8
  optBtnBeforeSt : b.Btn → BtnEvt
  btnManyPar : b.Btn → BtnManyPar
  paraBtnReset : ParaBtnReset
  paraBtnDefault : ParaBtnReset
  dimmingDirecArr : b.Btn → UInt8
  sendExeSceneDelay : SendExeSceneDelay
  swCfgAuto : SwCfgAuto

/-- `TS_LOCK` -/
def tsLock : UInt8 := 1

/-- `BTN_KEY_PRESS_1_TIME`, `BTN_KEY_PRESS_2_TIMES`, `BTN_KEY_HOLD_2_SECONDS` -/
def btnKeyPress1Time : UInt8 := 0
def btnKeyPress2Times : UInt8 := 1
def btnKeyHold2Seconds : UInt8 := 4

/-- `VD_RC_KEY_REPORT` -/
def vdRcKeyReport : UInt16 := 0xC0

/-- `UD_UP` -/
def udUp : UInt8 := 0

/-- `CONFIRM_RESET_TIMEOUT_MS` -/
def confirmResetTimeoutMs : UInt32 := 5000

/-! ## The gestures -/

namespace ParaBtnReset

/-- `update_reset_by_btn_step`, `update_default_by_btn_step` -/
def updateStep (p : ParaBtnReset) (now : UInt32) (step : StepReset) : ParaBtnReset :=
  { p with step := step, changeStepLastT := now }

/-- `ev_handle_reset_timeout_handle`, `ev_handle_default_timeout_handle` -/
def timeout (p : ParaBtnReset) : ParaBtnReset := { p with step := .idle, isActive := false }

/-- `button_check_clean_reset_param`, `button_check_clean_default_param` -/
def checkClean (p : ParaBtnReset) (now : UInt32) : ParaBtnReset :=
  let p := if p.isActive ∧ now - p.isActiveStTime > confirmResetTimeoutMs then p.timeout else p
  if p.step = .hold5S ∧ clockTimeExceed now p.changeStepLastT 2000 = true then p.timeout else p

/-- HOLD_5S of one button of the pair, the other one last seen at `other`. -/
def hold (p : ParaBtnReset) (now : UInt32) (other : ButtonState) : ParaBtnReset :=
  if other = .hold5S then p.updateStep now .hold5S else p

/-- RELEASE of one button of the pair: with the other one released too the reset is
armed. -/
def release (p : ParaBtnReset) (now : UInt32) (other : ButtonState) : ParaBtnReset :=
  if p.step = .hold5S then
    if clockTimeExceed now p.changeStepLastT 2000 = false then
      if other = .release then
        { p.updateStep now .hold5SRelease with isActive := true, isActiveStTime := now }
      else p
    else p.timeout
  else p

/-- The confirming press: whether the reset goes ahead. -/
def confirm (p : ParaBtnReset) (now : UInt32) : ParaBtnReset × Bool :=
  if p.isActive ∧ p.step = .hold5SRelease then
    if clockTimeExceed now p.isActiveStTime confirmResetTimeoutMs = false then (p, true)
    else (p.checkClean now, false)
  else (p, false)

end ParaBtnReset

namespace Panel

variable {b : Board}

/-! ## Access -/

/-- `clock_time_ms` -/
def now (s : Panel b) : UInt32 := s.dev.sh.timeMs

/-- `clock_time_exceed_ms` -/
def exceedMs (s : Panel b) (ref span : UInt32) : Bool := clockTimeExceed s.now ref span

/-- `button_is_lock` -/
def buttonIsLock (s : Panel b) (i : b.Btn) : Bool := s.presentLock i = tsLock

/-- Change the relay driver and the modules around it. -/
def onDev (s : Panel b) (f : NetDevice b → NetDevice b) : Panel b := { s with dev := f s.dev }

def send (s : Panel b) (o : NetOut) : Panel b := s.onDev fun d => d.send o

/-- Change the last event of a button. -/
def updBtn (s : Panel b) (i : b.Btn) (f : BtnEvt → BtnEvt) : Panel b :=
  { s with optBtnBeforeSt := Function.update s.optBtnBeforeSt i (f (s.optBtnBeforeSt i)) }

def updMany (s : Panel b) (i : b.Btn) (p : BtnManyPar) : Panel b :=
  { s with btnManyPar := Function.update s.btnManyPar i p }

/-- Change the last event of a relay button in lighting mode. -/
def updTouch (s : Panel b) (i : b.Btn) (f : BtnEvt → BtnEvt) : Panel b :=
  s.onDev fun d => d.onEnv fun x =>
    { x with touchBtnBeforeSt := Function.update x.touchBtnBeforeSt i (f (x.touchBtnBeforeSt i)) }

/-- `cotrol_binding_locally_flag[i] = v` -/
def setLocally (s : Panel b) (i : b.Btn) (v : Bool) : Panel b :=
  s.onDev fun d => d.onEnv fun x =>
    { x with controlBindingLocallyFlag := Function.update x.controlBindingLocallyFlag i v }

/-- A LED command for the scene LED of a button. -/
def ledScene (s : Panel b) (i : b.Btn) (blink : Nat) : Panel b := s.send (.led (1 <<< i.val) blink)

/-- A LED command for the LED of relay button `i`. -/
def ledRelay (s : Panel b) (i : b.Btn) (n : Nat) : Panel b :=
  s.send (.led (1 <<< (i.val - Board.eleRelayOffset)) n)

/-! ## Scene buttons -/

/-- `key_report_send` -/
def keyReportSend (s : Panel b) (i : b.Btn) (keyCode : UInt8) (enExecution : Bool) : Panel b :=
  if s.dev.eleAdr i ≠ adrUnassigned then
    let s := if enExecution then s.send (.executionSceneActive i keyCode) else s
    s.send (.cmd vdRcKeyReport [keyCode] (s.dev.eleAdr i) gatewayUnicastAddr)
  else s

/-- `execution_set_up_auto_send` -/
def executionSetUpAutoSend (s : Panel b) : Panel b :=
  { s with sendExeSceneDelay := ⟨s.now - 2000, true, 0, 0⟩ }

/-- `execution_dimming_control_by_key_number`, with what it sends. -/
def dimmingControl (s : Panel b) (i : b.Btn) (evt : UInt8) (st : DimmingButton) : Panel b :=
  let r := s.scenes.executionDimmingControlByKeyNumber s.dev.sh.eleAdrPrimary i evt st
  { s with
    scenes := r.1
    dev := s.dev.onEnv fun x => { x with out := x.out ++ r.2 } }

/-- PRESS_ONE_TIME, PRESS_TWO_TIME of a scene button: behind a hold that dimmed, the
press counts for nothing. -/
def scenePress (s : Panel b) (i : b.Btn) (keyCode : UInt8) : Panel b :=
  if s.buttonIsLock i then s
  else
    match s.scenes.executionDimmingIsExist i with
    | none => s.keyReportSend i keyCode true
    | some _ =>
      if (s.btnManyPar i).isEnable = false then s.updMany i { s.btnManyPar i with isEnable := true }
      else s.keyReportSend i keyCode false

/-- HOLD_500MS of a scene button. -/
def sceneHold500MS (s : Panel b) (i : b.Btn) : Panel b :=
  match s.scenes.executionDimmingIsExist i with
  | none => s
  | some newEvt =>
    let s := s.updBtn i fun e => { e with hold500msFlag := true }
    let s := s.dimmingControl i newEvt .hold500MS
    let s := s.keyReportSend i newEvt false
    -- the presses that end this hold are not reported
    s.updMany i ⟨s.now, false⟩

/-- RELEASE of a scene button, when it is not locked. -/
def sceneReleaseUnlocked (s : Panel b) (i : b.Btn) : Panel b :=
  let last := s.optBtnBeforeSt i
  match s.scenes.executionDimmingIsExist i with
  | some newEvt =>
    if last.hold500msFlag then
      (s.dimmingControl i newEvt .release).updBtn i fun e => { e with hold500msFlag := false }
    -- a press too short for a hold dims one step
    else if last.evt = .startPress then s.dimmingControl i newEvt .startPress
    else s
  | none =>
    if last.evt = .hold2S ∧ s.exceedMs last.updateStT 2000 = false then
      s.keyReportSend i btnKeyHold2Seconds true
    else s

/-- RELEASE of a scene button. -/
def sceneRelease (s : Panel b) (i : b.Btn) : Panel b :=
  let last := s.optBtnBeforeSt i
  let s :=
    if (s.scenes.executionDimmingIsExist i).isSome ∧
        (last.evt = .startPress ∨ last.evt = .hold50MS) then s.ledScene i 1
    else s
  if s.buttonIsLock i then s else s.sceneReleaseUnlocked i

/-- `button_handle_scene_btn_state` -/
def buttonHandleSceneBtnState (s : Panel b) (i : b.Btn) (evt : ButtonState) : Panel b :=
  let noDimming := (s.scenes.executionDimmingIsExist i).isNone
  match evt with
  | .noPress =>
    if (s.btnManyPar i).isEnable = false ∧ s.exceedMs (s.btnManyPar i).disableStTimeMs 1000 = true
    then s.updMany i { s.btnManyPar i with isEnable := true }
    else s
  | .startPress =>
    if s.buttonIsLock i = false ∧ noDimming = true then s.ledScene i 1 else s
  | .hold500MS => s.sceneHold500MS i
  | .pressOneTime => s.scenePress i btnKeyPress1Time
  | .pressTwoTime => s.scenePress i btnKeyPress2Times
  | .pressTenTime =>
    if i = Board.buttonScene1Idx then s.executionSetUpAutoSend.ledScene i 2 else s
  | .hold2S => if s.buttonIsLock i = false ∧ noDimming = true then s.ledScene i 2 else s
  | .release => s.sceneRelease i
  | _ => s

/-! ## Relay buttons -/

/-- `dimming_active` -/
def dimmingActive (s : Panel b) (i : b.Btn) (dir : ControlDirection) (dst : UInt16) : Panel b :=
  s.send (.cmd vdDimmingControlSet
    ([0x00, 0x13] ++ dir.code :: [0x20, 0x30, (s.dev.env.dimmingConfig i).tranT])
    s.dev.sh.eleAdrPrimary dst)

/-- HOLD_500MS of a button bound to `adr`: it dims up and down in turn, and up from off. -/
def dimmingHold (s : Panel b) (i : b.Btn) (adr : UInt16) : Panel b :=
  let isOff := decide ((s.dev.sh.lightness i).present = levelOff)
  let dir := if isOff then udUp else (s.dimmingDirecArr i ^^^ 1) &&& 1
  let s := { s with dimmingDirecArr := Function.update s.dimmingDirecArr i dir }
  let s :=
    if dir = udUp then
      let s := s.onDev fun d =>
        d.myHandleMeshCmdSigGOnOffSet ⟨gOn, 0, 0, 0⟩ none i gatewayUnicastAddr (d.eleAdr i)
      ((s.setLocally i true).dimmingActive i .upSmooth adr).ledRelay i 1
    else if isOff = false then (s.dimmingActive i .downSmoothLimit adr).ledRelay i 2
    else s
  s.updTouch i fun e => { e with hold500msFlag := true }

/-- RELEASE of a button bound to `adr`. -/
def dimmingRelease (s : Panel b) (i : b.Btn) (adr : UInt16) : Panel b :=
  let last := s.dev.env.touchBtnBeforeSt i
  if last.hold500msFlag then
    ((s.dimmingActive i .stop adr).updTouch i fun e => { e with hold500msFlag := false }).setLocally
      i false
  else if last.evt = .startPress ∨ last.evt = .hold50MS then
    s.onDev fun d => d.toggleState (i.val - Board.eleRelayOffset) .device
  else s

/-- `dimming_handle_btn_st` -/
def dimmingHandleBtnSt (s : Panel b) (i : b.Btn) (evt : ButtonState) : Panel b :=
  let adr := s.dev.env.getGroupBindingAdr i
  -- not bound: a toggle button
  if adr = adrUnassigned then
    if evt = .startPress then s.onDev fun d => d.toggleState (i.val - Board.eleRelayOffset) .device
    else s
  else
    let s :=
      match evt with
      | .hold500MS => s.dimmingHold i adr
      | .release => s.dimmingRelease i adr
      | _ => s
    s.updTouch i fun e => { e with evt := evt, updateStT := s.now }

/-- `sw_config_enable_auto_send` -/
def swConfigEnableAutoSend (s : Panel b) : Panel b :=
  if s.swCfgAuto.en = false then
    { s with swCfgAuto := ⟨true, if s.now ≥ 1000 then s.now - 1000 else s.now, 0, 0⟩ }
  else s

/-- The events of relay button `i` of channel `c` in toggle or momentary mode. -/
def relayBtnEvent (s : Panel b) (i : b.Btn) (c : b.Chn) (mode : SwitchMode) (evt : ButtonState) :
    Panel b :=
  match evt with
  | .startPress =>
    if mode = .toggle then s.onDev fun d => d.toggleState c .device
    else if mode = .momentary then s.onDev fun d => d.setTargetState c gOn .device true
    else s
  | .pressTenTime =>
    if i = Board.buttonSwitch0Idx then s.swConfigEnableAutoSend.ledRelay i 2 else s
  | .release =>
    if mode = .momentary then s.onDev fun d => d.setTargetState c gOff .device true else s
  | _ => s

/-- `button_handle_relay_btn_state` -/
def buttonHandleRelayBtnState (s : Panel b) (i : b.Btn) (evt : ButtonState) : Panel b :=
  if evt = .noPress then s
  else
    match Board.relayIdx i with
    | none => s
    | some c =>
      if s.buttonIsLock i then s
      else
        let mode := s.dev.sh.switchMode c
        if mode = .lighting then s.dimmingHandleBtnSt i evt else s.relayBtnEvent i c mode evt

/-! ## All buttons -/

/-- The gesture of the config buttons in `button_handle_special_event`, `other` the other
button of the pair. The LED commands of the gestures are left out. -/
def handleConfigBtn (s : Panel b) (i other : b.Btn) (evt : ButtonState) : Panel b :=
  match evt with
  | .hold5S =>
    { s with paraBtnReset := s.paraBtnReset.hold s.now (s.optBtnBeforeSt other).evt }
  | .pressOneTime =>
    if i = Board.buttonSwitch0Idx then
      let r := s.paraBtnReset.confirm s.now
      let s := { s with paraBtnReset := r.1 }
      if r.2 then s.send (.setupFactoryReset true) else s
    else s
  | .release =>
    { s with paraBtnReset := s.paraBtnReset.release s.now (s.optBtnBeforeSt other).evt }
  | _ => s

/-- The gesture of the default buttons in `button_handle_special_event`. -/
def handleDefaultBtn (s : Panel b) (i other : b.Btn) (evt : ButtonState) : Panel b :=
  match evt with
  | .hold5S =>
    { s with paraBtnDefault := s.paraBtnDefault.hold s.now (s.optBtnBeforeSt other).evt }
  | .pressFiveTime =>
    if i = Board.buttonScene1Idx then
      let r := s.paraBtnDefault.confirm s.now
      let s := { s with paraBtnDefault := r.1 }
      if r.2 then (s.send (.setupFactoryReset false)).send .forceResetEnergyAndRelayOnTime else s
    else s
  | .release =>
    { s with paraBtnDefault := s.paraBtnDefault.release s.now (s.optBtnBeforeSt other).evt }
  | _ => s

/-- `button_handle_special_event` -/
def buttonHandleSpecialEvent (s : Panel b) (i : b.Btn) (evt : ButtonState) : Panel b :=
  let s :=
    if i = Board.buttonScene0Idx then s.handleConfigBtn i Board.buttonSwitch0Idx evt
    else if i = Board.buttonSwitch0Idx then s.handleConfigBtn i Board.buttonScene0Idx evt
    else s
  if i = Board.buttonScene1Idx then s.handleDefaultBtn i Board.buttonSwitch0Idx evt
  else if i = Board.buttonSwitch0Idx then s.handleDefaultBtn i Board.buttonScene1Idx evt
  else s

/-- The handler of the button's own function: a scene button's, or a relay button's
while no reset is armed. -/
def buttonHandleFunction (s : Panel b) (i : b.Btn) (evt : ButtonState) : Panel b :=
  if i.val < Board.numberScene then s.buttonHandleSceneBtnState i evt
  else if s.paraBtnReset.isActive = false then s.buttonHandleRelayBtnState i evt
  else s

/-- `button_handle_option_btn_state` -/
def buttonHandleOptionBtnState (s : Panel b) (i : b.Btn) (evt : ButtonState) : Panel b :=
  let s :=
    if s.dev.sh.factActive then s
    else (s.buttonHandleFunction i evt).buttonHandleSpecialEvent i evt
  s.updBtn i fun e => { e with evt := evt, updateStT := s.now }

end Panel

/-! ## Runs -/

/-- What happens to the switch. -/
inductive PanelEvent (b : Board) where
  /-- an event of a button -/
  | btn (i : b.Btn) (evt : ButtonState)
  /-- `present_lock` is written -/
  | lock (i : b.Btn) (st : UInt8)
  /-- a scene setup message -/
  | scene (par : Nat → UInt8)
  /-- the part of `system_timer_handle_100ms` that is about the gestures -/
  | clean
  /-- a network command -/
  | sendControl (m : b.Btn) (st updateEn : Bool)
  /-- an on/off message -/
  | onOffSet (set : MeshCmdGOnoffSet) (extra : Option UInt8) (m : b.Btn) (src dst : UInt16)
  | changeMode (c : b.Chn) (m : SwitchMode)
  | zeroSync
  | timerMatch
  | proc (rand : Nat → Nat)
  /-- time passes -/
  | clock (ms s : UInt32)
  /-- the other modules go on: bindings, subscriptions, dimming settings; the variables
  of `dimming.c` are its own -/
  | other (env : NetState b) (factActive : Bool) (lightness : b.Btn → StTransition)
      (nwk : b.Btn → NwkMessagePara)

namespace Panel

variable {b : Board}

/-- One event. -/
def step (s : Panel b) : PanelEvent b → Panel b
  | .btn i evt => s.buttonHandleOptionBtnState i evt
  | .lock i st => { s with presentLock := Function.update s.presentLock i st }
  | .scene par => { s with scenes := (s.scenes.handle par).1 }
  | .clean =>
    { s with
      paraBtnReset := s.paraBtnReset.checkClean s.now
      paraBtnDefault := s.paraBtnDefault.checkClean s.now }
  | .sendControl m st updateEn => s.onDev fun d => d.sendControlDevManualToMcu m st updateEn
  | .onOffSet set extra m src dst =>
    s.onDev fun d => d.myHandleMeshCmdSigGOnOffSet set extra m src dst
  | .changeMode c m => s.onDev fun d => d.changeMode c m
  | .zeroSync => s.onDev fun d => d.handleZeroSync
  | .timerMatch => s.onDev fun d => d.handleControlWhenTimerMatch
  | .proc rand => s.onDev fun d => d.proc (netCallback b) rand
  | .clock ms sec => s.onDev fun d => d.step (netCallback b) (.clock ms sec)
  | .other env factActive lightness nwk => s.onDev fun d =>
    d.step (netCallback b) (.other
      { env with
        touchBtnBeforeSt := d.env.touchBtnBeforeSt
        controlBindingLocallyFlag := d.env.controlBindingLocallyFlag }
      factActive lightness nwk)

/-! ## A new device -/

/-- A one-relay device after a boot, with nothing stored. -/
def new1 : Panel board1 where
  dev := bootedNet
  scenes := .erased board1
  presentLock _ := 0
  optBtnBeforeSt _ := ⟨.noPress, 0, false⟩
  btnManyPar _ := ⟨0, true⟩
  paraBtnReset := ⟨false, .idle, 0xFFFFFFFF, 0⟩
  paraBtnDefault := ⟨false, .idle, 0xFFFFFFFF, 0⟩
  dimmingDirecArr _ := 2
  sendExeSceneDelay := ⟨0, false, 0, 0⟩
  swCfgAuto := ⟨false, 0, 0, 0⟩

/-- An ADD that dims up `0xC001` on a hold of button 0. -/
def addHoldUp : PanelEvent board1 :=
  .scene (received [0x00, btnKeyHoldUp, 0, 0, 1, 0x01, 0xC0, 9, 0xDD, 0x11, 0x02, 0x00, 0x13, 0,
    0x20, 0x30, 0x32, 0])

end Panel

end LumesSwitch
