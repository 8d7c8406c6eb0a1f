import LumesSwitch.Lib.Flags
import LumesSwitch.Lib.Words
import LumesSwitch.Flash.FlashLog
import LumesSwitch.Relay.Model

/-!
# The switch configuration (`sw_config.c`)

The configuration is one packed structure with a flash log of its own. It is read at
boot, where invalid entries are replaced, and changed by configuration messages.

- `SwConfig` — the structure, with its bytes;
- `SwCfg.swConfigInit` — the boot;
- `SwCfg.swCfgHandleSetMessage`, `SwCfg.userCmdSigGOnPowerupSet` — the messages.
-/

namespace LumesSwitch

open Bufs Flags Runs Words

/-! ## Types -/

/-- `TOGGLE_SWITCH_TYPE`, `MOMENTORY_SWITCH_TYPE`, `SWITCH_TYPE_UNKNOWN` -/
def toggleSwitchType : UInt8 := 0
def momentorySwitchType : UInt8 := 1
def switchTypeUnknown : UInt8 := 3

/-- `TOGGLE_DEFAULT`, `TOGGLE_DELAY_ON`, `TOGGLE_DELAY_OFF`, `TOGGLE_UNKNOWN` -/
def toggleDefault : UInt8 := 0
def toggleDelayOn : UInt8 := 1
def toggleDelayOff : UInt8 := 2
def toggleUnknown : UInt8 := 5

/-- `POWER_UP_OFF`, `POWER_UP_ON`, `POWER_UP_RESTORE`, `POWER_UP_UNKNOWN` -/
def powerUpOff : UInt8 := 0
def powerUpOn : UInt8 := 1
def powerUpRestore : UInt8 := 2
def powerUpUnknown : UInt8 := 3

/-- `LINK_ENABLE`, `LINK_UNKNOWN` -/
def linkEnable : UInt8 := 1
def linkUnknown : UInt8 := 2

/-- `AUTO_ON_OFF_MIN_TIME_S`, `AUTO_ON_OFF_MAX_TIME_S` -/
def autoOnOffMinTimeS : UInt16 := 1
def autoOnOffMaxTimeS : UInt16 := 10800

/-- `MAX_U8` -/
def maxU8 : UInt8 := 0xFF

/-- `VD_CONFIG_SW_SET_MAP_UNMAP_INPUT`, `VD_CONFIG_SWITCH_MODE_OPT`,
`VD_CONFIG_ON_POWER_UP_STATE`, `VD_LINK_UNLINK_V2_OPT`, `VD_EN_ON_OFF_GROUP_DEFAULT` -/
def vdConfigSwSetMapUnmapInput : UInt8 := 0x11
def vdConfigSwitchModeOpt : UInt8 := 0x21
def vdConfigOnPowerUpState : UInt8 := 0x2A
def vdLinkUnlinkV2Opt : UInt8 := 0x2D
def vdEnOnOffGroupDefault : UInt8 := 0x31

/-- `extended_param_t` -/
structure ExtendedParam where
  toggleType : UInt8
  delayTimeS : UInt16
  deriving DecidableEq

namespace ExtendedParam

def toBytes (p : ExtendedParam) : List UInt8 := p.toggleType :: u16Bytes p.delayTimeS

def ofBytes (bs : List UInt8) : ExtendedParam :=
  ⟨bs.getD 0 0, ofU16Bytes (bs.getD 1 0) (bs.getD 2 0)⟩

theorem toBytes_length (p : ExtendedParam) : p.toBytes.length = 3 := rfl

theorem ofBytes_toBytes (p : ExtendedParam) : ofBytes p.toBytes = p :=
  congrArg (ExtendedParam.mk p.toggleType) (ofU16Bytes_u16Bytes p.delayTimeS)

end ExtendedParam

/-- `sw_config_t` -/
@[ext] structure SwConfig (b : Board) where
  switchMode : b.Chn → UInt8
  extendedParamSt : b.Chn → ExtendedParam
  linkUnlink : b.Chn → UInt16
  mapInput : b.Chn → UInt8
  enGroupDefault : b.Chn → UInt8
  powerOnState : b.Chn → UInt8
  rsv : Fin 64 → UInt8

/-- What `sw_config.c` sends and shows, in order. -/
inductive SwConfigOut where
  /-- `VD_CONFIG_NODE_STATUS` of an element to the gateway -/
  | nodeStatus (ele : Nat) (par : List UInt8)
  /-- `G_ON_POWER_UP_STATUS` of an element to the gateway -/
  | onPowerUpStatus (ele : Nat) (st : UInt8)
  /-- `sw_blink_led_config` -/
  | blink (mask : BitVec 16) (success : Bool)
  deriving DecidableEq

/-- The variables of `sw_config.c`. -/
structure SwCfg (b : Board) where
  st : SwConfig b
  log : LogState
  out : List SwConfigOut

/-! ## The bytes of the structure -/

section Bytes

variable {n : Nat}

/-- An array of bytes, and of 16-bit words, in memory. -/
def u8Array (f : Fin n → UInt8) : List UInt8 := encodeRecords (fun x => [x]) f
def u16Array (f : Fin n → UInt16) : List UInt8 := encodeRecords u16Bytes f

def ofU8Array (bs : List UInt8) : Fin n → UInt8 := decodeRecords 1 (fun r => r.getD 0 0) bs
def ofU16Array (bs : List UInt8) : Fin n → UInt16 :=
  decodeRecords 2 (fun r => ofU16Bytes (r.getD 0 0) (r.getD 1 0)) bs

theorem u8Array_length (f : Fin n → UInt8) : (u8Array f).length = n :=
  (encodeRecords_length (w := 1) (fun _ => rfl) f).trans (Nat.one_mul n)

theorem u16Array_length (f : Fin n → UInt16) : (u16Array f).length = 2 * n :=
  encodeRecords_length (w := 2) (fun _ => rfl) f

theorem ofU8Array_field (f : Fin n → UInt8) {pre : List UInt8} {off : Nat}
    (hpre : pre.length = off) (post : List UInt8) :
    ofU8Array ((pre ++ (u8Array f ++ post)).drop off) = f := by
  have hw : ∀ x : UInt8, [x].length = 1 := fun _ => rfl
  refine decodeRecords_field hw ?_ f hpre post
  exact fun _ => rfl

theorem ofU16Array_field (f : Fin n → UInt16) {pre : List UInt8} {off : Nat}
    (hpre : pre.length = off) (post : List UInt8) :
    ofU16Array ((pre ++ (u16Array f ++ post)).drop off) = f := by
  have hw : ∀ x : UInt16, (u16Bytes x).length = 2 := fun _ => rfl
  refine decodeRecords_field hw ?_ f hpre post
  exact ofU16Bytes_u16Bytes

end Bytes

namespace SwConfig

variable {b : Board}

def extendedBytes (c : SwConfig b) : List UInt8 :=
  encodeRecords ExtendedParam.toBytes c.extendedParamSt

/-- The structure as it lies in memory. -/
def toBytes (c : SwConfig b) : List UInt8 :=
  u8Array c.switchMode ++ (c.extendedBytes ++ (u16Array c.linkUnlink ++ (u8Array c.mapInput ++
    (u8Array c.enGroupDefault ++ (u8Array c.powerOnState ++ u8Array c.rsv)))))

def ofBytes (b : Board) (bs : List UInt8) : SwConfig b where
  switchMode := ofU8Array bs
  extendedParamSt := decodeRecords 3 ExtendedParam.ofBytes (bs.drop b.numberRl)
  linkUnlink := ofU16Array (bs.drop (4 * b.numberRl))
  mapInput := ofU8Array (bs.drop (6 * b.numberRl))
  enGroupDefault := ofU8Array (bs.drop (7 * b.numberRl))
  powerOnState := ofU8Array (bs.drop (8 * b.numberRl))
  rsv := ofU8Array (bs.drop (9 * b.numberRl))

theorem extendedBytes_length (c : SwConfig b) : c.extendedBytes.length = 3 * b.numberRl :=
  encodeRecords_length ExtendedParam.toBytes_length _

theorem toBytes_length (c : SwConfig b) : c.toBytes.length = 9 * b.numberRl + 64 := by
  simp only [toBytes, List.length_append, u8Array_length, u16Array_length, extendedBytes_length]
  omega

/-- **Round trip** of the structure through its bytes. -/
theorem ofBytes_toBytes (c : SwConfig b) : ofBytes b c.toBytes = c := by
  have hext := c.extendedBytes_length
  have h8 : ∀ f : b.Chn → UInt8, (u8Array f).length = b.numberRl := u8Array_length
  have h16 := u16Array_length c.linkUnlink
  -- the bytes before each field
  have hsw : c.toBytes = [] ++ (u8Array c.switchMode ++ _) := rfl
  have hex : c.toBytes = u8Array c.switchMode ++ (c.extendedBytes ++ _) := rfl
  have hlink : c.toBytes = (u8Array c.switchMode ++ c.extendedBytes) ++
      (u16Array c.linkUnlink ++ _) := (List.append_assoc ..).symm
  have hmap : c.toBytes = (u8Array c.switchMode ++ c.extendedBytes ++ u16Array c.linkUnlink) ++
      (u8Array c.mapInput ++ (u8Array c.enGroupDefault ++
        (u8Array c.powerOnState ++ u8Array c.rsv))) := by
    simp only [toBytes, List.append_assoc]
  have hen : c.toBytes = (u8Array c.switchMode ++ c.extendedBytes ++ u16Array c.linkUnlink ++
      u8Array c.mapInput) ++ (u8Array c.enGroupDefault ++
        (u8Array c.powerOnState ++ u8Array c.rsv)) := by
    simp only [toBytes, List.append_assoc]
  have hpow : c.toBytes = (u8Array c.switchMode ++ c.extendedBytes ++ u16Array c.linkUnlink ++
      u8Array c.mapInput ++ u8Array c.enGroupDefault) ++
        (u8Array c.powerOnState ++ u8Array c.rsv) := by
    simp only [toBytes, List.append_assoc]
  have hrsv : c.toBytes = (u8Array c.switchMode ++ c.extendedBytes ++ u16Array c.linkUnlink ++
      u8Array c.mapInput ++ u8Array c.enGroupDefault ++ u8Array c.powerOnState) ++
        (u8Array c.rsv ++ []) := by
    simp only [toBytes, List.append_assoc, List.append_nil]
  refine SwConfig.ext ?_ ?_ ?_ ?_ ?_ ?_ ?_
  · rw [hsw]
    have hoff : ([] : List UInt8).length = 0 := rfl
    exact ofU8Array_field c.switchMode hoff _
  · rw [hex]
    exact decodeRecords_field ExtendedParam.toBytes_length ExtendedParam.ofBytes_toBytes _ (h8 _) _
  · rw [hlink]
    refine ofU16Array_field _ ?_ _
    simp only [List.length_append, h8, hext]
    omega
  · rw [hmap]
    refine ofU8Array_field _ ?_ _
    simp only [List.length_append, h8, hext, h16]
    omega
  · rw [hen]
    refine ofU8Array_field _ ?_ _
    simp only [List.length_append, h8, hext, h16]
    omega
  · rw [hpow]
    refine ofU8Array_field _ ?_ _
    simp only [List.length_append, h8, hext, h16]
    omega
  · rw [hrsv]
    refine ofU8Array_field _ ?_ _
    simp only [List.length_append, h8, hext, h16]
    omega

end SwConfig

theorem swConfigBlock_pos (b : Board) : 1 ≤ 9 * b.numberRl + 64 := by omega

theorem swConfigBlock_le (b : Board) : 9 * b.numberRl + 64 ≤ 255 := by
  have hthree := b.le_three
  omega

/-- The log of the sector `FLASH_ADR_BLE_SWITCH_CONFIG`: the structure. -/
def swConfigLog (b : Board) : FlashLog :=
  .sector 0x78000 (9 * b.numberRl + 64) (swConfigBlock_pos b) (swConfigBlock_le b)

/-! ## Boot -/

namespace SwConfig

variable {b : Board}

/-- An entry of channel `i` that `sw_check_valid_params` replaces. -/
def NeedsCheck (c : SwConfig b) (i : b.Chn) : Prop :=
  c.switchMode i ≥ switchTypeUnknown ∨ (c.extendedParamSt i).toggleType = maxU8 ∨
    c.linkUnlink i ≥ linkUnknown.toUInt16 ∨ (c.mapInput i).toNat > b.numberRl ∨
    c.enGroupDefault i = maxU8 ∨ c.powerOnState i ≥ powerUpUnknown

instance (c : SwConfig b) (i : b.Chn) : Decidable (c.NeedsCheck i) :=
  inferInstanceAs (Decidable (_ ∨ _ ∨ _ ∨ _ ∨ _ ∨ _))

/-- The replacements of `sw_check_valid_params`. -/
def checked (c : SwConfig b) : SwConfig b where
  switchMode i := if c.switchMode i ≥ switchTypeUnknown then toggleSwitchType else c.switchMode i
  extendedParamSt i :=
    if (c.extendedParamSt i).toggleType = maxU8 then ⟨toggleUnknown, autoOnOffMinTimeS⟩
    else c.extendedParamSt i
  linkUnlink i :=
    if c.linkUnlink i ≥ linkUnknown.toUInt16 then linkEnable.toUInt16 else c.linkUnlink i
  mapInput i :=
    if (c.mapInput i).toNat > b.numberRl then UInt8.ofNat (i + 1) else c.mapInput i
  enGroupDefault i := if c.enGroupDefault i = maxU8 then 1 else c.enGroupDefault i
  powerOnState i :=
    if c.powerOnState i ≥ powerUpUnknown then powerUpRestore else c.powerOnState i
  rsv := c.rsv

end SwConfig

namespace SwCfg

variable {b : Board}

def send (s : SwCfg b) (o : SwConfigOut) : SwCfg b := { s with out := s.out ++ [o] }

/-- `sw_config_store` -/
def swConfigStore (s : SwCfg b) : SwCfg b :=
  { s with log := (swConfigLog b).put s.log s.st.toBytes }

/-- `sw_check_valid_params` -/
def swCheckValidParams (s : SwCfg b) : SwCfg b :=
  let s' := { s with st := s.st.checked }
  if b.chns.any fun i => s.st.NeedsCheck i then s'.swConfigStore else s'

/-- `sw_config_init` -/
def swConfigInit (s : SwCfg b) : SwCfg b :=
  let log := (swConfigLog b).reindex s.log
  swCheckValidParams { s with
    log := log
    st := SwConfig.ofBytes b ((swConfigLog b).restore log) }

/-! ## Responses -/

/-- The button id of channel `i`. -/
def btnId (i : b.Chn) : UInt8 := UInt8.ofNat (i + 1 + Board.eleRelayOffset)

/-- The element of channel `i`. -/
def rspEle (i : b.Chn) : Nat := Board.eleRelayOffset + i

/-- `sw_blink_led_config` for one channel. -/
def blink (s : SwCfg b) (i : b.Chn) (success : Bool) : SwCfg b :=
  s.send (.blink (setOn 0 i) success)

/-- `sw_cfg_response_link_unlink` -/
def responseLinkUnlink (s : SwCfg b) (i : b.Chn) : SwCfg b :=
  s.send (.nodeStatus (rspEle i) [vdConfigSwSetMapUnmapInput, (s.st.linkUnlink i).toUInt8])

/-- `sw_config_response_switch_mode_by_bit_mask` -/
def responseSwitchModeByBitMask (mask : BitVec 16) (s : SwCfg b) : SwCfg b :=
  runFrom (fun s (i : b.Chn) =>
    if isOn mask i then
      let mode := s.st.switchMode i
      s.send (.nodeStatus (rspEle i) (vdConfigSwitchModeOpt :: btnId i :: mode ::
        if mode = toggleSwitchType then (s.st.extendedParamSt i).toBytes else []))
    else s) s b.chns

/-- `sw_cfg_response_switch_mode` -/
def responseSwitchMode (s : SwCfg b) (idx : Nat) : SwCfg b :=
  s.responseSwitchModeByBitMask (setOn 0 idx)

/-- `on_power_up_st_t`: the state in the low half of the byte, the button id in the high one. -/
def onPowerUpSt (s : SwCfg b) (i : b.Chn) : UInt8 :=
  (s.st.powerOnState i &&& (0x0F : UInt8)) ||| (btnId i <<< (4 : UInt8))

/-- `sw_cfg_response_on_power_up_st_config` -/
def responseOnPowerUpStConfig (s : SwCfg b) (i : b.Chn) : SwCfg b :=
  s.send (.nodeStatus (rspEle i) [vdConfigOnPowerUpState, s.onPowerUpSt i])

/-- `sw_cfg_response_link_unlink_v2`; in `link_unlink_v2_t` the link is in the low two bits. -/
def responseLinkUnlinkV2 (s : SwCfg b) (m : b.Btn) : SwCfg b :=
  s.send (.nodeStatus m (vdLinkUnlinkV2Opt ::
    b.chns.map fun i =>
      ((s.st.linkUnlink i).toUInt8 &&& (3 : UInt8)) ||| (btnId i <<< (2 : UInt8))))

/-- `sw_response_enable_disable_group_default` -/
def responseEnableDisableGroupDefault (s : SwCfg b) (i : b.Chn) : SwCfg b :=
  s.send (.nodeStatus (rspEle i) [vdEnOnOffGroupDefault, s.st.enGroupDefault i])

/-! ## Messages

`par` is the message from its parameters on, `parLen` their number. -/

/-- The channel of an index in a byte. -/
def chnOfByte (x : UInt8) : Option b.Chn :=
  if h : x.toNat < b.numberRl then some ⟨x.toNat, h⟩ else none

/-- The link of the addressed relay, without a store. -/
def linkUnlinkOpt (s : SwCfg b) (idx : b.Chn) (par : Nat → UInt8) : SwCfg b :=
  if par 0 < linkUnknown then
    let s := { s with st := { s.st with
      linkUnlink := Function.update s.st.linkUnlink idx (par 0).toUInt16 } }
    (s.responseLinkUnlink idx).blink idx true
  else s.blink idx false

/-- The toggle parameters in a switch-mode message for channel `id`. The short form
resets the toggle type of another index. -/
def setExtended (c : SwConfig b) (id : b.Chn) (par : Nat → UInt8) (parLen : Nat) : SwConfig b :=
  if parLen = 5 then
    let delayS := ofU16Bytes (par 3) (par 4)
    if par 1 = toggleSwitchType ∧
        ¬ (par 2 ≥ toggleUnknown ∨ par 2 = toggleDelayOff ∨ par 2 = toggleDelayOn) ∧
        autoOnOffMinTimeS ≤ delayS ∧ delayS ≤ autoOnOffMaxTimeS then
      { c with extendedParamSt := Function.update c.extendedParamSt id ⟨par 2, delayS⟩ }
    else c
  else
    match (chnOfByte (par 0 - 1) : Option b.Chn) with
    | none => c
    | some btnIdx =>
      if par 1 = toggleSwitchType then
        let p := { c.extendedParamSt btnIdx with toggleType := toggleDefault }
        { c with extendedParamSt := Function.update c.extendedParamSt btnIdx p }
      else c

/-- The channel that a switch-mode message of an accepted length addresses. -/
def switchModeId (par : Nat → UInt8) (parLen : Nat) : Option b.Chn :=
  if parLen = 2 ∨ parLen = 5 then chnOfByte (par 0 - 1 - UInt8.ofNat Board.eleRelayOffset)
  else none

/-- `VD_CONFIG_SWITCH_MODE_OPT`, with the channel that is told of a new mode. -/
def switchModeOpt (s : SwCfg b) (par : Nat → UInt8) (parLen : Nat) : SwCfg b × Option b.Chn :=
  match (switchModeId par parLen : Option b.Chn) with
  | none => (s, none)
  | some id =>
    let tmpMode := s.st.switchMode id
    let success := decide (par 1 < switchTypeUnknown)
    let s :=
      if success then
        let st := { s.st with switchMode := Function.update s.st.switchMode id (par 1) }
        { s with st := setExtended st id par parLen }.swConfigStore
      else s
    let s := (s.responseSwitchMode id).blink id success
    (s, if tmpMode ≠ s.st.switchMode id then some id else none)

/-- The channel that a power-on message of the accepted length addresses. -/
def onPowerUpStateId (par : Nat → UInt8) (parLen : Nat) : Option b.Chn :=
  if parLen = 2 then chnOfByte (par 0 - 1) else none

/-- `sw_config_st.power_on_state[i] = v`, stored. -/
def storePowerOnState (s : SwCfg b) (i : b.Chn) (v : UInt8) : SwCfg b :=
  { s with st := { s.st with
    powerOnState := Function.update s.st.powerOnState i v } }.swConfigStore

/-- `VD_CONFIG_ON_POWER_UP_STATE` -/
def onPowerUpStateOpt (s : SwCfg b) (par : Nat → UInt8) (parLen : Nat) : SwCfg b :=
  match (onPowerUpStateId par parLen : Option b.Chn) with
  | none => s
  | some id =>
    let s := if par 1 < powerUpUnknown then (s.storePowerOnState id (par 1)).blink id true
      else s.blink id false
    s.responseOnPowerUpStConfig id

/-- The body of the loop over the entries of a link list: the configuration, whether one
was valid, and the channels named. -/
def linkItem (par : Nat → UInt8) (x : SwConfig b × Bool × BitVec 16) (i : Nat) :
    SwConfig b × Bool × BitVec 16 :=
  let (c, valid, mask) := x
  match (chnOfByte ((par i >>> 2) - 1 - UInt8.ofNat Board.eleRelayOffset) : Option b.Chn) with
  | none => x
  | some id =>
    let link := par i &&& 3
    if link < linkUnknown then
      ({ c with linkUnlink := Function.update c.linkUnlink id link.toUInt16 }, true, setOn mask id)
    else (c, valid, setOn mask id)

/-- `VD_LINK_UNLINK_V2_OPT` -/
def linkUnlinkV2Opt (s : SwCfg b) (m : b.Btn) (par : Nat → UInt8) (parLen : Nat) : SwCfg b :=
  let (c, valid, mask) := runFrom (linkItem par) (s.st, false, 0) (List.range parLen)
  let s := { s with st := c }
  if valid then (s.swConfigStore.responseLinkUnlinkV2 m).send (.blink mask true)
  else s.send (.blink mask false)

/-- `VD_EN_ON_OFF_GROUP_DEFAULT` -/
def enOnOffGroupDefaultOpt (s : SwCfg b) (idx : b.Chn) (par : Nat → UInt8) : SwCfg b :=
  if par 0 ≤ 1 then
    let s := s.blink idx true
    if par 0 = s.st.enGroupDefault idx then s.responseEnableDisableGroupDefault idx
    else
      let st := { s.st with enGroupDefault := Function.update s.st.enGroupDefault idx (par 0) }
      { s with st := st }.swConfigStore.responseEnableDisableGroupDefault idx
  else (s.blink idx false).responseEnableDisableGroupDefault idx

/-- `sw_cfg_handle_set_message`; `none` is the error of an element without a relay. The
channel is the one `pvConfig_handle_btn_change_mode` is called for. -/
def swCfgHandleSetMessage (s : SwCfg b) (m : b.Btn) (par : Nat → UInt8) (parLen : Nat)
    (cmd : UInt8) : Option (SwCfg b × Option b.Chn) :=
  match Board.relayIdx m with
  | none => none
  | some idx =>
    if cmd = vdConfigSwSetMapUnmapInput then some (s.linkUnlinkOpt idx par, none)
    else if cmd = vdConfigSwitchModeOpt then some (s.switchModeOpt par parLen)
    else if cmd = vdConfigOnPowerUpState then some (s.onPowerUpStateOpt par parLen, none)
    else if cmd = vdLinkUnlinkV2Opt then some (s.linkUnlinkV2Opt m par parLen, none)
    else if cmd = vdEnOnOffGroupDefault then some (s.enOnOffGroupDefaultOpt idx par, none)
    else some (s, none)

/-- `user_cmd_sig_g_on_powerup_get`, for a channel of the board. -/
def userCmdSigGOnPowerupGet (s : SwCfg b) (idx : b.Chn) : SwCfg b :=
  s.send (.onPowerUpStatus (rspEle idx) (s.st.powerOnState idx))

/-- `user_cmd_sig_g_on_powerup_set`; `none` is the error of an element without a relay. -/
def userCmdSigGOnPowerupSet (s : SwCfg b) (m : b.Btn) (par : Nat → UInt8) : Option (SwCfg b) :=
  match Board.relayIdx m with
  | none => none
  | some idx =>
    let s := if par 0 < powerUpUnknown then (s.storePowerOnState idx (par 0)).blink idx true
      else s.blink idx false
    some (s.userCmdSigGOnPowerupGet idx)

end SwCfg

end LumesSwitch
