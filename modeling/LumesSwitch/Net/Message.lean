import LumesSwitch.Relay.Env

/-!
# Control messages (`net_message.c`)

A network command for a relay goes through `send_control_dev_manual_to_mcu`. A
state change found by `relay_proc` comes back as
`net_message_handle_state_change`, which reports it and, for an element bound to
a group, passes it on: to the other elements of the device that are bound to the
same group as commands, and to the group as a message.

- `Device.sendControlDevManualToMcu`, `Device.sendOnOffControlToBleGroup`,
  `Device.netMessageHandleStateChange` — the functions;
- `netCallback` — the last one as the state-change callback of the relay driver.
-/

namespace LumesSwitch

open Relation Runs Words

/-! ## Types -/

/-- `binding_para_t` -/
structure BindingPara where
  en : Bool
  groupDst : UInt16

/-- `dimming_on_type_enum` -/
inductive DimmingOnType where
  | restore
  | setUpValue
  | invalid
  deriving DecidableEq

/-- `dim_config_set_t` -/
structure DimConfigSet where
  onType : DimmingOnType
  onValue : UInt16
  tranT : UInt8

/-- `auto_trans_par_t` -/
structure AutoTransPar where
  autoTransStT : UInt32
  presentSt : UInt8

/-- `mesh_cmd_g_onoff_set_t` -/
structure MeshCmdGOnoffSet where
  onoff : UInt8
  tid : UInt8
  transitT : UInt8
  delay : UInt8

/-- What the modules around the relay driver send and call, in order. -/
inductive NetOut where
  /-- `mesh_tx_cmd_rsp` -/
  | cmd (op : UInt16) (par : List UInt8) (src dst : UInt16)
  /-- `mesh_tx_cmd_lightness_st` to the gateway -/
  | lightnessSt (ele : Nat) (src : UInt16)
  /-- `light_publish_status_delay` -/
  | publishStatusDelay (ele : Nat) (ms : Nat)
  /-- `execution_scene_active` for an on/off event -/
  | executionSceneActive (ele : Nat) (key : UInt8)
  /-- `energy_handle_relay_state_change` -/
  | energyRelayStateChange (idx : Nat) (st : UInt8) (fast : Bool)
  /-- a LED command -/
  | led (idx : Nat) (n : Nat)
  /-- `setup_factory_reset_with_delay` -/
  | setupFactoryReset (ledBlink : Bool)
  /-- `factory_force_reset_enery_and_relay_on_time` -/
  | forceResetEnergyAndRelayOnTime
  deriving DecidableEq

/-- What goes out as a message, or can. -/
def NetOut.isMessage : NetOut → Bool
  | .cmd .. | .lightnessSt .. | .publishStatusDelay .. | .executionSceneActive .. => true
  | .energyRelayStateChange .. | .led .. | .setupFactoryReset _
  | .forceResetEnergyAndRelayOnTime => false

/-- The state of the modules around the relay driver that its callback uses.
`swOutside` is what a read of `switch_mode` outside its array finds, `rand` the
numbers `rand()` is going to return. -/
structure NetState (b : Board) where
  incommingSt : b.Btn → UInt8
  sceneActiveArr : b.Btn → Bool
  genExecutionSceneSt : b.Btn → UInt8
  stateOfGroupBinding : b.Btn → UInt8
  relayControlFirstTimeFlag : b.Chn → Bool
  forceControlBinding : b.Btn → Bool
  bindingParaSt : b.Btn → BindingPara
  onoffSubList : b.Btn → List UInt16
  dimmingConfig : b.Btn → DimConfigSet
  touchBtnBeforeSt : b.Btn → BtnEvt
  controlBindingLocallyFlag : b.Btn → Bool
  autoTransPar : b.Chn → AutoTransPar
  enGroupDefault : b.Chn → Bool
  swOutside : Int → Option SwitchMode
  rand : Nat → Nat
  out : List NetOut

/-- The relay driver with the modules around it. -/
abbrev NetDevice (b : Board) : Type := Device b (NetState b)

/-- `G_ONOFF_RSV`, `SUB_UNKNOWN` -/
def gOnoffRsv : UInt8 := 2
def subUnknown : UInt8 := 2

/-- `ADR_UNASSIGNED`, `ADR_GROUP_START_POINT`, `ADR_FIXED_GROUP_START`,
`ADR_ALL_PROXY`, `ADR_ALL_NODES` -/
def adrUnassigned : UInt16 := 0
def adrGroupStartPoint : UInt16 := 0xC000
def adrFixedGroupStart : UInt16 := 0xFF00
def adrAllProxy : UInt16 := 0xFFFC
def adrAllNodes : UInt16 := 0xFFFF

/-- `GATEWAY_UNICAST_ADDR` -/
def gatewayUnicastAddr : UInt16 := 1

/-- `G_ONOFF_SET_NOACK`, `LIGHTNESS_SET_NOACK`, `VD_BINDING_CONTROL_LOCALLY` -/
def gOnoffSetNoack : UInt16 := 0x0382
def lightnessSetNoack : UInt16 := 0x4D82
def vdBindingControlLocally : UInt16 := 0xDC

/-- `TYPE_CTL_LIGHTNESS`, `TYPE_CTL_ON_OFF` -/
def typeCtlLightness : UInt8 := 0
def typeCtlOnOff : UInt8 := 1

/-- `EV_SW_ON`, `EV_SW_OFF` -/
def evSwOn : UInt8 := 5
def evSwOff : UInt8 := 6

/-- `DIMMING_LIGHTNESS_MIN` -/
def dimmingLightnessMin : UInt16 := 0x2628

namespace NetState

variable {b : Board}

/-- `get_group_binding_adr` -/
def getGroupBindingAdr (x : NetState b) (m : b.Btn) : UInt16 :=
  let p := x.bindingParaSt m
  if p.en ∧ (x.onoffSubList m).any (fun a =>
      a ≠ adrUnassigned ∧ a ≠ adrAllNodes ∧ p.groupDst = a) then
    p.groupDst
  else adrUnassigned

/-- `dimming_mod_lightness`: whether there is a set-up value for ON. -/
def dimmingModLightness (x : NetState b) (m : b.Btn) : Bool :=
  x.getGroupBindingAdr m ≠ adrUnassigned ∧ (x.dimmingConfig m).onType = .setUpValue ∧
    (x.dimmingConfig m).onValue ≥ dimmingLightnessMin

/-- Whether the group message goes to the switches only. -/
def locally (x : NetState b) (m : b.Btn) : Bool :=
  (x.touchBtnBeforeSt m).hold500msFlag && x.controlBindingLocallyFlag m

/-- `auto_reset_time_trans` -/
def autoResetTimeTrans (x : NetState b) (now : UInt32) (c : b.Chn) (st : UInt8) : NetState b :=
  if (x.autoTransPar c).presentSt ≠ st then
    { x with autoTransPar := Function.update x.autoTransPar c ⟨now, st⟩ }
  else x

end NetState

namespace Device

variable {b : Board}

/-! ## Access -/

/-- Change the modules around the driver. -/
def onEnv (s : NetDevice b) (f : NetState b → NetState b) : NetDevice b :=
  { s with env := f s.env }

/-- Send, or call, one thing. -/
def send (s : NetDevice b) (o : NetOut) : NetDevice b :=
  s.onEnv fun x => { x with out := x.out ++ [o] }

/-- Drop the number that `rand()` has returned. -/
def dropRand (s : NetDevice b) : NetDevice b :=
  s.onEnv fun x => { x with rand := fun i => x.rand (i + 1) }

/-- The address of an element. -/
def eleAdr (s : NetDevice b) (m : b.Btn) : UInt16 := s.sh.eleAdrPrimary + UInt16.ofNat m

/-- `sw_config_st.switch_mode[i]`, for any `i`. -/
def switchModeAt (s : NetDevice b) (i : Int) : Option SwitchMode :=
  if h : 0 ≤ i ∧ i.toNat < b.numberRl then some (s.sh.switchMode ⟨i.toNat, h.2⟩)
  else s.env.swOutside i

/-- `sw_config_get_sw_mode`: only the upper bound of the index is checked. -/
def swConfigGetSwMode (s : NetDevice b) (i : Int) : Option SwitchMode :=
  if i < b.numberRl then s.switchModeAt i else none

/-- `check_en_control` -/
def checkEnControl (s : NetDevice b) (m : b.Btn) (dst : UInt16) : Bool :=
  let mode := s.swConfigGetSwMode (m.val - Board.eleRelayOffset)
  mode = some .toggle ∨ mode = some .lighting ∨ dst ≤ adrFixedGroupStart

/-- `light_publish_status_delay` with a delay that depends on the destination of
the last control message. -/
def publishStatus (s : NetDevice b) (m : b.Btn) : NetDevice b :=
  let dst := (s.sh.nwkControlMsgPara m).dst
  if dst ≥ adrGroupStartPoint then
    let r := s.env.rand 0
    let ms := if dst < adrFixedGroupStart then 1000 + r % 3000 else 5000 + r % 30000
    s.dropRand.send (.publishStatusDelay m ms)
  else s.send (.publishStatusDelay m 0)

/-! ## Commands -/

/-- `send_control_dev_manual_to_mcu`. The control is checked for the element whose
number is the channel's. -/
def sendControlDevManualToMcu (s : NetDevice b) (m : b.Btn) (st updateEn : Bool) :
    NetDevice b :=
  match Board.relayIdx m with
  | none => s
  | some c =>
    let e := Board.eleOfChn c
    if s.checkEnControl e (s.sh.nwkControlMsgPara e).dst ∨ s.env.sceneActiveArr e then
      -- a scene's permission is for one command
      let s := s.onEnv fun x =>
        { x with sceneActiveArr := Function.update x.sceneActiveArr e false }
      let s := if Flags.isOn s.relay.rlsTarget c = st then s.publishStatus m else s
      let s := s.netState c st
      if updateEn then
        s.onEnv fun x => { x with
          incommingSt := Function.update x.incommingSt (Board.relayEle c)
            (if st then gOn else gOff) }
      else s
    else s

/-- `my_handle_mesh_cmd_sig_g_on_off_set`; `extra` is the byte behind the message,
for a length of one more than it. -/
def myHandleMeshCmdSigGOnOffSet (s : NetDevice b) (set : MeshCmdGOnoffSet)
    (extra : Option UInt8) (m : b.Btn) (src dst : UInt16) : NetDevice b :=
  match Board.relayIdx m with
  | none => s
  | some c =>
    if s.checkEnControl m dst = false then s
    else if s.env.enGroupDefault c = false ∧ dst > adrAllProxy then s
    -- a message of one of the device's own relay elements
    else if b.chns.any fun c' =>
        src.toNat = s.sh.eleAdrPrimary.toNat + Board.eleRelayOffset + c'.val then s
    else if extra = some 0 ∧
        (if (s.sh.lightness m).present ≠ levelOff then 1 else 0) = set.onoff then
      s.onEnv fun x =>
        { x with forceControlBinding := Function.update x.forceControlBinding m false }
    else
      (s.updateControlMessageParams m src dst gOnoffSet).sendControlDevManualToMcu m
        (set.onoff ≠ 0) true

/-! ## State changes -/

/-- The body of the loop of `send_on_off_control_to_ble_group`: another element
bound to the same group is commanded. -/
def bindSibling (m : b.Btn) (adr : UInt16) (status : UInt8) (s : NetDevice b) (c : b.Chn) :
    NetDevice b :=
  let i := Board.relayEle c
  let tempBinding := s.env.getGroupBindingAdr i
  if i ≠ m ∧ tempBinding ≠ adrUnassigned ∧ tempBinding = adr then
    let s := s.updateControlMessageParams i (s.eleAdr m) adr gOnoffSet
    let s := s.sendControlDevManualToMcu i (status = gOn) true
    s.onEnv fun x =>
      { x with stateOfGroupBinding := Function.update x.stateOfGroupBinding i status }
  else s

/-- A message to the group, or to its switches only. -/
def sendToGroup (s : NetDevice b) (m : b.Btn) (adr op : UInt16) (type : UInt8)
    (par : List UInt8) : NetDevice b :=
  if s.env.locally m then
    (s.send (.cmd vdBindingControlLocally (type :: par) (s.eleAdr m) adr)).onEnv fun x =>
      { x with controlBindingLocallyFlag := Function.update x.controlBindingLocallyFlag m false }
  else s.send (.cmd op par (s.eleAdr m) adr)

/-- The message part of `send_on_off_control_to_ble_group`. -/
def sendBinding (s : NetDevice b) (m : b.Btn) (adr : UInt16) (status : UInt8) : NetDevice b :=
  if status = gOn ∧ s.switchModeAt m.val = some .lighting ∧ s.env.dimmingModLightness m then
    let v := (s.env.dimmingConfig m).onValue
    s.sendToGroup m adr lightnessSetNoack typeCtlLightness
      (u16Bytes v ++ [0, UInt8.ofNat (v.toNat * 0x0A / 0xFFFF), 0])
  else
    let force := s.env.forceControlBinding m
    let s := if force then s.onEnv fun x =>
        { x with forceControlBinding := Function.update x.forceControlBinding m false }
      else s
    s.sendToGroup m adr gOnoffSetNoack typeCtlOnOff
      ([status, 0, 0x0A, 1] ++ if force then [0] else [])

/-- `send_on_off_control_to_ble_group` -/
def sendOnOffControlToBleGroup (s : NetDevice b) (m : b.Btn) (status : UInt8) : NetDevice b :=
  let adr := s.env.getGroupBindingAdr m
  let dst := (s.sh.nwkControlMsgPara m).dst
  let setGroupSt (s : NetDevice b) : NetDevice b := s.onEnv fun x =>
    { x with stateOfGroupBinding := Function.update x.stateOfGroupBinding m status }
  if adr = adrUnassigned then s
  else
    let s := if dst = adr then s.onEnv fun x =>
        { x with forceControlBinding := Function.update x.forceControlBinding m false }
      else s
    -- the first state since boot is noted and not sent
    if s.env.stateOfGroupBinding m = subUnknown then setGroupSt s
    else if (s.env.stateOfGroupBinding m ≠ status ∧ dst ≠ adr ∧ dst < adrAllProxy) ∨
        s.env.forceControlBinding m = true then
      (runFrom (bindSibling m adr status) (setGroupSt s) b.chns).sendBinding m adr status
    -- the command came from the group itself, or to all nodes
    else if dst = adr ∨ dst ≥ adrAllProxy then setGroupSt s
    else s

/-- The execution-scene part of `net_message_handle_state_change`. -/
def executeOnOff (s : NetDevice b) (m : b.Btn) (status : UInt8) : NetDevice b :=
  let st := s.env.genExecutionSceneSt m
  let s :=
    if status ≠ st ∧ st ≠ gOnoffRsv ∧ (s.sh.nwkControlMsgPara m).dst < adrFixedGroupStart then
      s.send (.executionSceneActive m (if status = gOn then evSwOn else evSwOff))
    else s
  s.onEnv fun x =>
    { x with genExecutionSceneSt := Function.update x.genExecutionSceneSt m status }

/-- The report of a state change to the gateway. -/
def reportState (s : NetDevice b) (c : b.Chn) (m : b.Btn) (status : UInt8) : NetDevice b :=
  if (s.sh.nwkControlMsgPara m).dst < adrGroupStartPoint then
    let s :=
      if s.env.incommingSt m ≠ status then
        (s.send (.lightnessSt m (s.eleAdr m))).onEnv fun x =>
          { x with incommingSt := Function.update x.incommingSt m status }
      else s.send (.publishStatusDelay m 0)
    (s.send (.energyRelayStateChange c status true)).onEnv fun x =>
      { x with relayControlFirstTimeFlag := Function.update x.relayControlFirstTimeFlag c false }
  else
    let s := (s.publishStatus m).send (.energyRelayStateChange c status false)
    let p := s.sh.nwkControlMsgPara m
    s.updateControlMessageParams m p.src (s.eleAdr m) p.opcode

/-- `net_message_handle_state_change` -/
def netMessageHandleStateChange (s : NetDevice b) (c : b.Chn) (status : UInt8) : NetDevice b :=
  let m := Board.relayEle c
  if status < gOnoffRsv then
    let s := s.executeOnOff m status
    -- an unknown state counts as the opposite one, so that the change is sent
    let s :=
      if s.env.stateOfGroupBinding m = subUnknown then s.onEnv fun x =>
        { x with stateOfGroupBinding := Function.update x.stateOfGroupBinding m (status ^^^ 1) }
      else s
    let s := s.sendOnOffControlToBleGroup m status
    let s := s.reportState c m status
    s.onEnv fun x => x.autoResetTimeTrans s.sh.timeMs c status
  else s

/-! ## The callback -/

/-- What the functions above do, step by step. `touch_btn_before_st` is only written by
`dimming.c`. -/
inductive NetStep : NetDevice b → NetDevice b → Prop where
  | onEnv (s : NetDevice b) (f : NetState b → NetState b)
      (hf : ∀ x, (f x).touchBtnBeforeSt = x.touchBtnBeforeSt) : NetStep s (s.onEnv f)
  | params (s : NetDevice b) (idx : Nat) (src dst op : UInt16) :
      NetStep s (s.updateControlMessageParams idx src dst op)
  | netState (s : NetDevice b) (c : b.Chn) (st : Bool) : NetStep s (s.netState c st)

/-- Such steps, one after the other. -/
abbrev NetSteps (s s' : NetDevice b) : Prop := ReflTransGen NetStep s s'

theorem NetStep.callback {s s' : NetDevice b} (h : NetStep s s') :
    ReflTransGen CallbackStep s s' := by
  cases h with
  | onEnv f hf => exact .single (.other s (f s.env) s.sh.nwkControlMsgPara)
  | params idx src dst op =>
    rw [updateControlMessageParams]
    split
    · exact .single (.other s s.env _)
    · exact .refl
  | netState c st => exact .single (.netState s c st)

theorem NetSteps.callback {s s' : NetDevice b} (h : NetSteps s s') :
    ReflTransGen CallbackStep s s' := by
  induction h with
  | refl => exact .refl
  | tail _ hstep ih => exact ih.trans hstep.callback

theorem steps_send (s : NetDevice b) (o : NetOut) : NetSteps s (s.send o) :=
  .single (.onEnv s _ fun _ => rfl)

theorem steps_publishStatus (s : NetDevice b) (m : b.Btn) : NetSteps s (s.publishStatus m) := by
  rw [publishStatus]
  dsimp only
  split
  · refine .trans ?_ (steps_send _ _)
    exact .single (.onEnv s _ fun _ => rfl)
  · exact s.steps_send _

theorem steps_sendControl (s : NetDevice b) (m : b.Btn) (st updateEn : Bool) :
    NetSteps s (s.sendControlDevManualToMcu m st updateEn) := by
  rw [sendControlDevManualToMcu]
  cases Board.relayIdx m with
  | none => exact .refl
  | some c =>
    dsimp only
    split
    · -- the scene flag, the answer to a command for the same state, the command
      generalize hs1 : s.onEnv _ = s1
      have h1 : NetSteps s s1 := hs1 ▸ .single (.onEnv s _ fun _ => rfl)
      generalize hs2 : (if Flags.isOn s1.relay.rlsTarget c = st then s1.publishStatus m else s1)
        = s2
      have h2 : NetSteps s1 s2 := by
        rw [← hs2]
        split
        · exact s1.steps_publishStatus m
        · exact .refl
      have h3 : NetSteps s (s2.netState c st) := (h1.trans h2).tail (.netState s2 c st)
      split
      · exact h3.tail (.onEnv _ _ fun _ => rfl)
      · exact h3
    · exact .refl

/-- The command part of an on/off message. -/
theorem steps_myHandleMeshCmdSigGOnOffSet (s : NetDevice b) (set : MeshCmdGOnoffSet)
    (extra : Option UInt8) (m : b.Btn) (src dst : UInt16) :
    NetSteps s (s.myHandleMeshCmdSigGOnOffSet set extra m src dst) := by
  rw [myHandleMeshCmdSigGOnOffSet]
  cases Board.relayIdx m with
  | none => exact .refl
  | some c =>
    dsimp only
    generalize (if (s.sh.lightness m).present ≠ levelOff then (1 : UInt8) else 0) = present
    split
    · exact .refl
    · split
      · exact .refl
      · split
        · exact .refl
        · split
          · exact .single (.onEnv s _ fun _ => rfl)
          · exact .head (.params s ..) (steps_sendControl _ _ _ _)

theorem steps_bindSibling (m : b.Btn) (adr : UInt16) (status : UInt8) (s : NetDevice b)
    (c : b.Chn) : NetSteps s (bindSibling m adr status s c) := by
  rw [bindSibling]
  dsimp only
  split
  · exact .tail (.head (.params s ..) (steps_sendControl _ _ _ _)) (.onEnv _ _ fun _ => rfl)
  · exact .refl

theorem steps_sendToGroup (s : NetDevice b) (m : b.Btn) (adr op : UInt16) (type : UInt8)
    (par : List UInt8) : NetSteps s (s.sendToGroup m adr op type par) := by
  rw [sendToGroup]
  split
  · exact (s.steps_send _).tail (.onEnv _ _ fun _ => rfl)
  · exact s.steps_send _

theorem steps_sendBinding (s : NetDevice b) (m : b.Btn) (adr : UInt16) (status : UInt8) :
    NetSteps s (s.sendBinding m adr status) := by
  rw [sendBinding]
  dsimp only
  split
  · exact s.steps_sendToGroup ..
  · split
    · refine .trans ?_ (steps_sendToGroup ..)
      exact .single (.onEnv s _ fun _ => rfl)
    · exact s.steps_sendToGroup ..

/-- Steps of a loop body are steps of the loop. -/
theorem steps_runFrom {f : NetDevice b → b.Chn → NetDevice b}
    (hf : ∀ s c, NetSteps s (f s c)) (s : NetDevice b) (cs : List b.Chn) :
    NetSteps s (runFrom f s cs) := by
  induction cs generalizing s with
  | nil => exact .refl
  | cons c cs ih => exact (hf s c).trans (ih (f s c))

theorem steps_sendOnOffControlToBleGroup (s : NetDevice b) (m : b.Btn) (status : UInt8) :
    NetSteps s (s.sendOnOffControlToBleGroup m status) := by
  rw [sendOnOffControlToBleGroup]
  dsimp only
  split
  · exact .refl
  · generalize hs1 : (if (s.sh.nwkControlMsgPara m).dst = s.env.getGroupBindingAdr m
      then s.onEnv _ else s) = s1
    have h1 : NetSteps s s1 := by
      rw [← hs1]
      split
      · exact .single (.onEnv s _ fun _ => rfl)
      · exact .refl
    refine h1.trans ?_
    split
    · exact .single (.onEnv s1 _ fun _ => rfl)
    · split
      · refine .trans (.trans ?_ (steps_runFrom (steps_bindSibling m _ status) _ _))
          (steps_sendBinding _ _ _ _)
        exact .single (.onEnv s1 _ fun _ => rfl)
      · split
        · exact .single (.onEnv s1 _ fun _ => rfl)
        · exact .refl

theorem steps_executeOnOff (s : NetDevice b) (m : b.Btn) (status : UInt8) :
    NetSteps s (s.executeOnOff m status) := by
  unfold executeOnOff
  dsimp only
  split
  · exact (s.steps_send _).tail (.onEnv _ _ fun _ => rfl)
  · exact .single (.onEnv s _ fun _ => rfl)

theorem steps_reportState (s : NetDevice b) (c : b.Chn) (m : b.Btn) (status : UInt8) :
    NetSteps s (s.reportState c m status) := by
  rw [reportState]
  dsimp only
  split
  · split
    · refine .tail (.trans ?_ (steps_send _ _)) (.onEnv _ _ fun _ => rfl)
      exact (s.steps_send _).tail (.onEnv _ _ fun _ => rfl)
    · exact ((s.steps_send _).trans (steps_send _ _)).tail (.onEnv _ _ fun _ => rfl)
  · exact ((s.steps_publishStatus m).trans (steps_send _ _)).tail (.params ..)

theorem touch_autoResetTimeTrans (x : NetState b) (now : UInt32) (c : b.Chn) (st : UInt8) :
    (x.autoResetTimeTrans now c st).touchBtnBeforeSt = x.touchBtnBeforeSt := by
  rw [NetState.autoResetTimeTrans]
  split <;> rfl

theorem steps_netMessageHandleStateChange (s : NetDevice b) (c : b.Chn) (status : UInt8) :
    NetSteps s (s.netMessageHandleStateChange c status) := by
  rw [netMessageHandleStateChange]
  dsimp only
  split
  · refine (s.steps_executeOnOff (Board.relayEle c) status).trans ?_
    generalize s.executeOnOff (Board.relayEle c) status = s1
    generalize hs2 : (if s1.env.stateOfGroupBinding (Board.relayEle c) = subUnknown
      then s1.onEnv _ else s1) = s2
    have h2 : NetSteps s1 s2 := by
      rw [← hs2]
      split
      · exact .single (.onEnv s1 _ fun _ => rfl)
      · exact .refl
    exact ((h2.trans (s2.steps_sendOnOffControlToBleGroup _ status)).trans
      (steps_reportState _ c _ status)).tail
        (.onEnv _ _ fun x => touch_autoResetTimeTrans x _ c status)
  · exact .refl

/-- **Frame**: no step touches the button states of `dimming.c`. -/
theorem NetSteps.touch {s s' : NetDevice b} (h : NetSteps s s') :
    s'.env.touchBtnBeforeSt = s.env.touchBtnBeforeSt := by
  induction h with
  | refl => rfl
  | tail _ hstep ih =>
    refine Eq.trans ?_ ih
    cases hstep with
    | onEnv f hf => exact hf _
    | params idx src dst op => rw [env_updateControlMessageParams]
    | netState c st => rw [env_netState]

end Device

/-- `net_message_handle_state_change` as the callback of the relay driver. -/
def netCallback (b : Board) : StateChangeCallback b (NetState b) where
  run := Device.netMessageHandleStateChange
  steps s c st := (s.steps_netMessageHandleStateChange c st).callback

end LumesSwitch
