import LumesSwitch.Button.Panel
import LumesSwitch.Config.ButtonIds
import LumesSwitch.Energy.Periodic
import LumesSwitch.Schedule.PowerCycle

/-!
# The automatic configuration report (`sw_config.c`)

Once it is enabled, a task goes through the options and, for each, through the relays or
buttons. Every second or two it makes one report, until it is through.

- `SendDevice.swConfigAutoSendTask` — the task;
- `SendItem` — what is to be reported, and `timesReported`, how often it is in a run;
- `SendDevice.reported_once` — what every run from the enabling to the end reports once.
-/

namespace LumesSwitch

open Flags Runs Words

/-! ## The task -/

/-- The options of `opcode_msg_auto_send`. -/
inductive AutoOp where
  | switchMode
  | onPowerUpState
  | linkUnlinkV2
  | groupDefault
  | lockSchedule
  | activeEnergy
  | relayOnTime
  deriving DecidableEq

/-- `VD_ACTIVE_ENERGY_INFORMATION`, `VD_TOTAL_RELAY_ON_TIME_INFORMATION` -/
def vdActiveEnergyInformation : UInt8 := 0xEA
def vdTotalRelayOnTimeInformation : UInt8 := 0xEC

def AutoOp.code : AutoOp → UInt8
  | .switchMode => vdConfigSwitchModeOpt
  | .onPowerUpState => vdConfigOnPowerUpState
  | .linkUnlinkV2 => vdLinkUnlinkV2Opt
  | .groupDefault => vdEnOnOffGroupDefault
  | .lockSchedule => Locks.vdTsLockSchedule
  | .activeEnergy => vdActiveEnergyInformation
  | .relayOnTime => vdTotalRelayOnTimeInformation

/-- `opcode_msg_auto_send` -/
def opcodeMsgAutoSend : List AutoOp :=
  [.switchMode, .onPowerUpState, .linkUnlinkV2, .groupDefault, .lockSchedule, .activeEnergy,
    .relayOnTime]

/-- `sw_cfg_auto_t`, without the fields that are never read. -/
structure AutoSend extends SwCfgAuto where
  delaySt : UInt32
  enDelay : Bool

namespace AutoSend

/-- `sw_config_enable_auto_send` -/
def enable (now : UInt32) (a : AutoSend) : AutoSend :=
  if a.en = false then
    { a with
      en := true, sendLastT := if now ≥ 1000 then now - 1000 else now, opIndex := 0, btnIdx := 0 }
  else a

/-- `sw_config_next_op_index` -/
def nextOpIndex (a : AutoSend) : AutoSend := { a with opIndex := a.opIndex + 1, btnIdx := 0 }

/-- `sw_cfg_auto_st.btn_idx++` -/
def nextBtn (a : AutoSend) : AutoSend := { a with btnIdx := a.btnIdx + 1 }

/-- The next option, if `n` indices are done. -/
def wrapAt (n : Nat) (a : AutoSend) : AutoSend := if a.btnIdx.toNat ≥ n then a.nextOpIndex else a

end AutoSend

/-- The button of the panel enables the task. -/
theorem swCfgAuto_swConfigEnableAutoSend {b : Board} (s : Panel b) {a : AutoSend}
    (h : a.toSwCfgAuto = s.swCfgAuto) :
    s.swConfigEnableAutoSend.swCfgAuto = (a.enable s.now).toSwCfgAuto := by
  rw [Panel.swConfigEnableAutoSend, AutoSend.enable, ← h]
  split
  · rfl
  · exact h.symm

/-- What the task reports of. -/
structure SendSource (b : Board) (ε : Type) where
  cfg : SwCfg b
  locks : Locks b
  energy : EnergyState b
  relay : Device b ε

deriving instance DecidableEq for RelayOut

/-- A report. -/
inductive SendReport where
  | config (o : SwConfigOut)
  /-- `VD_CONFIG_NODE_STATUS` of an element to the gateway -/
  | lockSchedule (ele : Nat) (par : List UInt8)
  /-- a publication of the relay's energy is pending; `energy_proc` sends it -/
  | energy (idx : Nat)
  | relay (o : RelayOut)
  deriving DecidableEq

/-- The task with what it reports of. -/
structure SendDevice (b : Board) (ε : Type) where
  auto : AutoSend
  source : SendSource b ε

/-- `vd_lock_schedule_response` -/
def Locks.vdLockScheduleResponse {b : Board} (s : Locks b) (modelIdx : UInt8) : List SendReport :=
  if h : modelIdx.toNat < b.numberButton then
    [.lockSchedule modelIdx.toNat
      (vdTsLockSchedule :: (s.lockScheduleSt ⟨modelIdx.toNat, h⟩).toBytes)]
  else []

namespace SendDevice

variable {b : Board} {ε : Type}

/-- `clock_time_ms` -/
def now (s : SendDevice b ε) : UInt32 := s.source.relay.sh.timeMs

def updAuto (s : SendDevice b ε) (f : AutoSend → AutoSend) : SendDevice b ε :=
  { s with auto := f s.auto }

/-- `sw_cfg_handle_get_message`, which reads its index for no option of the task. -/
def ask (s : SendDevice b ε) (par cmd : UInt8) : SendDevice b ε × List SendReport :=
  match s.source.cfg.swCfgHandleGetMessage Board.buttonScene0Idx (fun _ => par) cmd with
  | none => (s, [])
  | some cfg =>
    ({ s with source := { s.source with cfg := cfg } },
      (cfg.out.drop s.source.cfg.out.length).map .config)

/-- `energy_setup_publish_energy_delay` -/
def askEnergy (s : SendDevice b ε) (idx : UInt8) : SendDevice b ε × List SendReport :=
  match (SwCfg.chnOfByte idx : Option b.Chn) with
  | none => (s, [])
  | some c =>
    let energy := s.source.energy.setupPublishEnergyDelay c 0
    ({ s with source := { s.source with energy := energy } },
      if (energy.ch c).publishEnergy.enable then [.energy c] else [])

/-- `relay_response_total_relay_on_time` -/
def askOnTime (s : SendDevice b ε) (idx : UInt8) : SendDevice b ε × List SendReport :=
  match (SwCfg.chnOfByte idx : Option b.Chn) with
  | none => (s, [])
  | some c =>
    let relay := s.source.relay.responseTotalRelayOnTime c
    ({ s with source := { s.source with relay := relay } },
      (relay.relay.out.drop s.source.relay.relay.out.length).map .relay)

/-- The element of relay `btn_idx`, in a byte. -/
def modelIdx (s : SendDevice b ε) : UInt8 := s.auto.btnIdx + UInt8.ofNat Board.eleRelayOffset

/-- The cases of the switch over the option. -/
def sendOp (s : SendDevice b ε) (op : AutoOp) : SendDevice b ε × List SendReport :=
  match op with
  | .switchMode =>
    let (s', out) := (s.updAuto .nextBtn).ask s.modelIdx vdConfigSwitchModeOpt
    (s'.updAuto (.wrapAt b.numberRl), out)
  | .onPowerUpState | .linkUnlinkV2 =>
    let (s', out) := s.ask 0 op.code
    (s'.updAuto .nextOpIndex, out)
  | .groupDefault =>
    -- asks for the switch mode, too, and takes every other relay only
    let (s', out) := (s.updAuto .nextBtn).ask s.modelIdx vdConfigSwitchModeOpt
    ((s'.updAuto .nextBtn).updAuto (.wrapAt b.numberRl), out)
  | .lockSchedule =>
    ((s.updAuto .nextBtn).updAuto (.wrapAt b.numberButton),
      s.source.locks.vdLockScheduleResponse s.auto.btnIdx)
  | .activeEnergy =>
    let (s', out) := s.askEnergy s.auto.btnIdx
    ((s'.updAuto .nextBtn).updAuto (.wrapAt b.numberRl), out)
  | .relayOnTime =>
    let (s', out) := s.askOnTime s.auto.btnIdx
    ((s'.updAuto .nextBtn).updAuto (.wrapAt b.numberRl), out)

/-- The delayed enabling. -/
def checkDelay (s : SendDevice b ε) : SendDevice b ε :=
  if s.auto.enDelay = true ∧ clockTimeExceed s.now s.auto.delaySt 30000 = true then
    (s.updAuto fun a => { a with enDelay := false }).updAuto (.enable s.now)
  else s

/-- A report is due. -/
def Due (s : SendDevice b ε) (rand : Nat) : Prop :=
  s.auto.en = true ∧
    clockTimeExceed s.now s.auto.sendLastT (UInt32.ofNat (1000 + rand % 1000)) = true

instance (s : SendDevice b ε) (rand : Nat) : Decidable (s.Due rand) :=
  inferInstanceAs (Decidable (_ ∧ _))

/-- `sw_config_auto_send_task` -/
def swConfigAutoSendTask (rand : Nat) (s : SendDevice b ε) :
    SendDevice b ε × List SendReport :=
  if s.Due rand then
    match opcodeMsgAutoSend[s.auto.opIndex.toNat]? with
    | none => (s.updAuto fun a => { a with en := false }, [])
    | some op =>
      let (s', out) := s.sendOp op
      ((s'.updAuto fun a => { a with sendLastT := s.now }).checkDelay, out)
  else (s.checkDelay, [])

end SendDevice

/-! ## Runs -/

/-- What happens. -/
inductive SendEvent (b : Board) (ε : Type) where
  | task (rand : Nat)
  /-- `sw_config_enable_auto_send`, from a button or a message -/
  | enable
  /-- `sw_setup_enable_send_config_delay` -/
  | setupDelay (en : Bool)
  /-- anything else, the clock included -/
  | other (source : SendSource b ε)

/-- What is to be reported, by the lists of options and relays or buttons. -/
inductive SendItem (b : Board) where
  | switchMode (c : b.Chn)
  | onPowerUpState (c : b.Chn)
  | linkUnlinkV2 (c : b.Chn)
  | groupDefault (c : b.Chn)
  | lockSchedule (i : b.Btn)
  | activeEnergy (c : b.Chn)
  | relayOnTime (c : b.Chn)

namespace SendItem

variable {b : Board}

/-- The option. -/
def op : SendItem b → AutoOp
  | .switchMode _ => .switchMode
  | .onPowerUpState _ => .onPowerUpState
  | .linkUnlinkV2 _ => .linkUnlinkV2
  | .groupDefault _ => .groupDefault
  | .lockSchedule _ => .lockSchedule
  | .activeEnergy _ => .activeEnergy
  | .relayOnTime _ => .relayOnTime

/-- The element of the relay or button. -/
def ownEle : SendItem b → Nat
  | .switchMode c | .onPowerUpState c | .linkUnlinkV2 c | .groupDefault c | .activeEnergy c
  | .relayOnTime c => Board.relayEle c
  | .lockSchedule i => i

/-- The element that the report comes from: the lists over all relays come from the first. -/
def sentFrom : SendItem b → Nat
  | .onPowerUpState _ | .linkUnlinkV2 _ => Board.relayEle b.chn0
  | item => item.ownEle

end SendItem

/-- A list of the option `cmd` from element `ele` has the entry `x`. -/
def SendReport.lists (ele : Nat) (cmd x : UInt8) : SendReport → Bool
  | .config (.nodeStatus e (c :: xs)) => decide (e = ele ∧ c = cmd ∧ x ∈ xs)
  | _ => false

/-- The report gives the present value of the item, from element `ele`. -/
def SendSource.reports {b : Board} {ε : Type} (x : SendSource b ε) (ele : Nat) :
    SendItem b → SendReport → Bool
  | .switchMode c, r => decide (r = .config (.nodeStatus ele
      (vdConfigSwitchModeOpt :: SwCfg.btnId c :: SwCfg.value x.cfg.st c .switchMode)))
  | .onPowerUpState c, r => r.lists ele vdConfigOnPowerUpState (x.cfg.onPowerUpSt c)
  | .linkUnlinkV2 c, r => r.lists ele vdLinkUnlinkV2Opt
      (((x.cfg.st.linkUnlink c).toUInt8 &&& (3 : UInt8)) ||| (SwCfg.btnId c <<< (2 : UInt8)))
  | .groupDefault c, r => decide (r = .config (.nodeStatus ele
      [vdEnOnOffGroupDefault, x.cfg.st.enGroupDefault c]))
  | .lockSchedule i, r => decide (r = .lockSchedule ele
      (Locks.vdTsLockSchedule :: (x.locks.lockScheduleSt i).toBytes))
  | .activeEnergy c, r => decide (r = .energy c ∧ ele = Board.relayEle c)
  | .relayOnTime c, r => decide (r = .relay (.onTimeRsp c (x.relay.relay.onTime c).totalSeconds) ∧
      ele = Board.relayEle c)

namespace SendDevice

variable {b : Board} {ε : Type}

/-- One event, with the reports of the task. -/
def step (s : SendDevice b ε) : SendEvent b ε → SendDevice b ε × List SendReport
  | .task rand => s.swConfigAutoSendTask rand
  | .enable => (s.updAuto (.enable s.now), [])
  | .setupDelay en =>
    (s.updAuto fun a =>
      if en then { a with enDelay := true, delaySt := s.now } else { a with enDelay := false }, [])
  | .other source => ({ s with source := source }, [])

def next (s : SendDevice b ε) (ev : SendEvent b ε) : SendDevice b ε := (s.step ev).1

/-- How often the run reports the item from element `ele`. -/
def timesReported (item : SendItem b) (ele : Nat) (s : SendDevice b ε)
    (evs : List (SendEvent b ε)) : Nat :=
  totalCost (fun s ev => (s.step ev).2.countP (s.source.reports ele item)) next s evs

end SendDevice

/-! ## The cursor -/

namespace AutoOp

/-- The place in the list. -/
def index : AutoOp → Nat
  | .switchMode => 0
  | .onPowerUpState => 1
  | .linkUnlinkV2 => 2
  | .groupDefault => 3
  | .lockSchedule => 4
  | .activeEnergy => 5
  | .relayOnTime => 6

/-- The indices that the option has, and the way from one to the next. -/
def visits (b : Board) : AutoOp → Nat
  | .switchMode | .groupDefault | .activeEnergy | .relayOnTime => b.numberRl
  | .onPowerUpState | .linkUnlinkV2 => 1
  | .lockSchedule => b.numberButton

def stride : AutoOp → Nat
  | .groupDefault => 2
  | _ => 1

theorem index_of_getElem? {k : Nat} {op : AutoOp} (h : opcodeMsgAutoSend[k]? = some op) :
    op.index = k := by
  have hk : k < 7 := (List.getElem?_eq_some_iff.mp h).1
  have hall : ∀ i : Fin 7, opcodeMsgAutoSend[i.val]?.map AutoOp.index = some i.val := by decide
  have hindex := hall ⟨k, hk⟩
  rw [h] at hindex
  exact Option.some.inj hindex

theorem index_lt (op : AutoOp) : op.index < 7 := by
  cases op <;> decide

theorem index_inj {op op' : AutoOp} (h : op.index = op'.index) : op = op' := by
  cases op <;> cases op' <;> first | rfl | exact absurd h (by decide)

theorem visits_pos (b : Board) (op : AutoOp) : 0 < op.visits b := by
  have hpos := b.one_le
  have hbtn : b.numberButton = b.numberRl + 2 := rfl
  cases op <;> rw [visits] <;> omega

theorem visits_le (b : Board) (op : AutoOp) : op.visits b ≤ 5 := by
  have hthree := b.le_three
  have hbtn : b.numberButton = b.numberRl + 2 := rfl
  cases op <;> rw [visits] <;> omega

end AutoOp

namespace AutoSend

/-- The cursor behind a report of the option. -/
def after (b : Board) (a : AutoSend) : AutoOp → AutoSend
  | .switchMode | .activeEnergy | .relayOnTime => a.nextBtn.wrapAt b.numberRl
  | .onPowerUpState | .linkUnlinkV2 => a.nextOpIndex
  | .groupDefault => a.nextBtn.nextBtn.wrapAt b.numberRl
  | .lockSchedule => a.nextBtn.wrapAt b.numberButton

/-- The cursor is on a report, or behind the last. -/
structure CursorOk (b : Board) (a : AutoSend) : Prop where
  op_le : a.opIndex.toNat ≤ 7
  btn_lt : ∀ op : AutoOp, op.index = a.opIndex.toNat → a.btnIdx.toNat < op.visits b
  ended : a.en = false → a.opIndex.toNat = 7

/-- What the next report depends on. -/
def cursor (a : AutoSend) : Bool × UInt8 × UInt8 := (a.en, a.opIndex, a.btnIdx)

/-- From `a` to `a'` the cursor goes to the next index of the option, or to the next option. -/
structure Advances (b : Board) (op : AutoOp) (a a' : AutoSend) : Prop where
  en : a'.en = a.en
  wrap : op.visits b ≤ a.btnIdx.toNat + op.stride →
    a'.opIndex.toNat = op.index + 1 ∧ a'.btnIdx.toNat = 0
  stay : a.btnIdx.toNat + op.stride < op.visits b →
    a'.opIndex.toNat = op.index ∧ a'.btnIdx.toNat = a.btnIdx.toNat + op.stride

variable {b : Board} {a a' : AutoSend} {op : AutoOp}

/-- A task that runs is not enabled again. -/
theorem cursor_enable (h : a.en = true) (now : UInt32) : (a.enable now).cursor = a.cursor := by
  rw [enable, if_neg fun hx => Bool.false_ne_true (hx.symm.trans h)]

theorem CursorOk.congr (h : a.CursorOk b) (heq : a'.cursor = a.cursor) : a'.CursorOk b := by
  obtain ⟨hen, hop, hbtn⟩ := by simpa only [cursor, Prod.mk.injEq] using heq
  refine ⟨hop ▸ h.op_le, fun op hindex => ?_, fun hoff => ?_⟩
  · rw [hbtn]
    exact h.btn_lt op (hindex.trans (congrArg UInt8.toNat hop))
  · rw [hop]
    exact h.ended (hen.symm.trans hoff)

theorem opIndex_nextOpIndex (hop : op.index = a.opIndex.toNat) :
    a.nextOpIndex.opIndex.toNat = op.index + 1 := by
  have hlt := op.index_lt
  show (a.opIndex + 1).toNat = _
  rw [UInt8.toNat_add, UInt8.toNat_one, ← hop]
  omega

theorem btnIdx_nextBtn (h : a.btnIdx.toNat < 255) :
    a.nextBtn.btnIdx.toNat = a.btnIdx.toNat + 1 := by
  show (a.btnIdx + 1).toNat = _
  rw [UInt8.toNat_add, UInt8.toNat_one]
  omega

theorem advances_wrapAt {n : Nat} (hop : op.index = a.opIndex.toNat) (hn : op.visits b = n)
    (hop' : a'.opIndex = a.opIndex) (hbtn : a'.btnIdx.toNat = a.btnIdx.toNat + op.stride)
    (hen : a'.en = a.en) : Advances b op a (a'.wrapAt n) := by
  rw [wrapAt]
  constructor
  · split
    · exact hen
    · exact hen
  · intro hwrap
    rw [if_pos (by omega)]
    exact ⟨opIndex_nextOpIndex (hop.trans (congrArg UInt8.toNat hop'.symm)), rfl⟩
  · intro hstay
    rw [if_neg (by omega)]
    exact ⟨(congrArg UInt8.toNat hop').trans hop.symm, hbtn⟩

theorem Advances.cases (h : Advances b op a a') :
    (a'.opIndex.toNat = op.index + 1 ∧ a'.btnIdx.toNat = 0 ∧
      op.visits b ≤ a.btnIdx.toNat + op.stride) ∨
    (a'.opIndex.toNat = op.index ∧ a'.btnIdx.toNat = a.btnIdx.toNat + op.stride ∧
      a.btnIdx.toNat + op.stride < op.visits b) := by
  by_cases hwrap : op.visits b ≤ a.btnIdx.toNat + op.stride
  · obtain ⟨hop, hbtn⟩ := h.wrap hwrap
    exact .inl ⟨hop, hbtn, hwrap⟩
  · obtain ⟨hop, hbtn⟩ := h.stay (Nat.lt_of_not_le hwrap)
    exact .inr ⟨hop, hbtn, Nat.lt_of_not_le hwrap⟩

/-- A report takes the cursor to the next one. -/
theorem advances_after (hok : a.CursorOk b) (hop : op.index = a.opIndex.toNat) :
    Advances b op a (a.after b op) := by
  have hbtn := hok.btn_lt op hop
  have hvisits := op.visits_le b
  have hone : a.nextBtn.btnIdx.toNat = a.btnIdx.toNat + 1 := btnIdx_nextBtn (by omega)
  have hlist : op.visits b = 1 → op.stride = 1 → Advances b op a a.nextOpIndex := by
    intro hvisits hstride
    refine ⟨rfl, fun _ => ⟨opIndex_nextOpIndex hop, rfl⟩, fun hstay => ?_⟩
    omega
  cases op with
  | switchMode | activeEnergy | relayOnTime | lockSchedule =>
    exact advances_wrapAt hop rfl rfl hone rfl
  | onPowerUpState | linkUnlinkV2 => exact hlist rfl rfl
  | groupDefault =>
    have htwo : a.nextBtn.nextBtn.btnIdx.toNat = a.btnIdx.toNat + 2 := by
      rw [btnIdx_nextBtn (by omega), hone]
    exact advances_wrapAt hop rfl rfl htwo rfl

theorem Advances.cursorOk (h : Advances b op a a') (hen : a.en = true) : a'.CursorOk b := by
  have hlt := op.index_lt
  have hen' : a'.en = true := h.en.trans hen
  rcases h.cases with ⟨hop', hbtn', hwrap⟩ | ⟨hop', hbtn', hstay⟩
  · refine ⟨by omega, fun op' _ => hbtn' ▸ op'.visits_pos b, fun hoff => ?_⟩
    exact absurd (hoff.symm.trans hen') Bool.false_ne_true
  · refine ⟨by omega, fun op' hop => ?_, fun hoff => ?_⟩
    · obtain rfl := AutoOp.index_inj (hop.trans hop')
      omega
    · exact absurd (hoff.symm.trans hen') Bool.false_ne_true

end AutoSend

namespace SendDevice

variable {b : Board} {ε : Type} {s : SendDevice b ε}

theorem auto_ask (s : SendDevice b ε) (par cmd : UInt8) : (s.ask par cmd).1.auto = s.auto := by
  rw [ask]
  split <;> rfl

theorem auto_askEnergy (s : SendDevice b ε) (idx : UInt8) :
    (s.askEnergy idx).1.auto = s.auto := by
  rw [askEnergy]
  split <;> rfl

theorem auto_askOnTime (s : SendDevice b ε) (idx : UInt8) :
    (s.askOnTime idx).1.auto = s.auto := by
  rw [askOnTime]
  split <;> rfl

theorem auto_sendOp (s : SendDevice b ε) (op : AutoOp) :
    (s.sendOp op).1.auto = s.auto.after b op := by
  cases op with
  | switchMode =>
    exact congrArg (AutoSend.wrapAt b.numberRl)
      ((s.updAuto .nextBtn).auto_ask s.modelIdx vdConfigSwitchModeOpt)
  | groupDefault =>
    exact congrArg (fun a : AutoSend => a.nextBtn.wrapAt b.numberRl)
      ((s.updAuto .nextBtn).auto_ask s.modelIdx vdConfigSwitchModeOpt)
  | onPowerUpState | linkUnlinkV2 | lockSchedule => rfl
  | activeEnergy =>
    exact congrArg (fun a : AutoSend => a.nextBtn.wrapAt b.numberRl) (s.auto_askEnergy _)
  | relayOnTime =>
    exact congrArg (fun a : AutoSend => a.nextBtn.wrapAt b.numberRl) (s.auto_askOnTime _)

/-- While the task runs, the delayed enabling leaves the cursor alone. -/
theorem cursor_checkDelay (h : s.auto.en = true) :
    s.checkDelay.auto.cursor = s.auto.cursor := by
  rw [checkDelay]
  split
  · exact AutoSend.cursor_enable (a := { s.auto with enDelay := false }) h s.now
  · rfl

/-! ## The reports -/

/-- A question for a switch mode is answered with that of the relay behind, if at all: never
with that of the first. -/
theorem mem_ask_switchMode {par : UInt8} {r : SendReport}
    (hr : r ∈ (s.ask par vdConfigSwitchModeOpt).2) :
    ∃ c : b.Chn, 0 < c.val ∧ r = .config (s.source.cfg.modeStatus c) := by
  have hget := s.source.cfg.getMessage_switchMode Board.buttonScene0Idx fun _ => par
  rw [ask, show vdConfigSwitchModeOpt = ConfigOption.switchMode.cmd from rfl, hget] at hr
  cases hchn : (SwCfg.chnOfByte (par - UInt8.ofNat Board.eleRelayOffset) : Option b.Chn) with
  | none =>
    rw [hchn] at hr
    dsimp only at hr
    rw [List.drop_length] at hr
    exact absurd hr List.not_mem_nil
  | some i =>
    have hi := SwCfg.toNat_of_chnOfByte hchn
    have hthree := b.le_three
    have hlt := i.isLt
    have hpar := par.toNat_lt
    -- the relay is that of `par - 2`, and the answer has the bit of `par - 1`
    have hidx : 0 < (par - 1).toNat ∧ (par - 1).toNat < 16 := by
      rw [SwCfg.toNat_sub_offset] at hi
      rw [SwCfg.toNat_sub_one]
      omega
    have hzero : ∀ i : Nat, isOn (0 : BitVec 16) i = false := fun i => by simp [isOn]
    rw [hchn] at hr
    dsimp only at hr
    rw [SwCfg.responseSwitchMode, SwCfg.responseSwitchModeByBitMask_eq] at hr
    dsimp only at hr
    rw [List.drop_left] at hr
    simp only [List.mem_map, List.mem_filter, isOn_setOn _ hidx.2, hzero, Bool.or_false,
      decide_eq_true_eq] at hr
    obtain ⟨-, ⟨c, ⟨-, hc⟩, rfl⟩, rfl⟩ := hr
    exact ⟨c, hc ▸ hidx.1, rfl⟩

/-- The answer about the power-on states of all relays. -/
theorem out_onPowerUpState (s : SendDevice b ε) :
    (s.sendOp .onPowerUpState).2 = [.config (.nodeStatus Board.eleRelayOffset
      (vdConfigOnPowerUpState :: b.chns.map s.source.cfg.onPowerUpSt))] := by
  have hget : s.source.cfg.swCfgHandleGetMessage Board.buttonScene0Idx (fun _ => 0)
      AutoOp.onPowerUpState.code = some s.source.cfg.responseAllOnPowerUpStConfig := rfl
  rw [sendOp, ask, hget]
  dsimp only
  rw [SwCfg.responseAllOnPowerUpStConfig, SwCfg.send, List.drop_left]
  rfl

theorem out_linkUnlinkV2 (s : SendDevice b ε) :
    (s.sendOp .linkUnlinkV2).2 =
      [.config (s.source.cfg.linkStatus (Board.relayEle b.chn0))] := by
  have hget : s.source.cfg.swCfgHandleGetMessage Board.buttonScene0Idx (fun _ => 0)
      AutoOp.linkUnlinkV2.code =
        some (s.source.cfg.responseLinkUnlinkV2 (Board.relayEle b.chn0)) := rfl
  rw [sendOp, ask, hget]
  dsimp only
  rw [SwCfg.responseLinkUnlinkV2, SwCfg.send, List.drop_left]
  rfl

theorem out_lockSchedule {i : b.Btn} (hi : s.auto.btnIdx.toNat = i.val) :
    (s.sendOp .lockSchedule).2 =
      [.lockSchedule i (Locks.vdTsLockSchedule :: (s.source.locks.lockScheduleSt i).toBytes)] := by
  have hlt : s.auto.btnIdx.toNat < b.numberButton := hi ▸ i.isLt
  obtain rfl : (⟨s.auto.btnIdx.toNat, hlt⟩ : b.Btn) = i := Fin.ext hi
  exact dif_pos hlt

theorem out_activeEnergy {c : b.Chn} (hc : s.auto.btnIdx.toNat = c.val) :
    (s.sendOp .activeEnergy).2 = [.energy c] := by
  rw [sendOp, askEnergy, SwCfg.chnOfByte_eq hc]
  exact if_pos (EnergyState.enable_setupPublishEnergyDelay ..)

theorem out_relayOnTime {c : b.Chn} (hc : s.auto.btnIdx.toNat = c.val) :
    (s.sendOp .relayOnTime).2 =
      [.relay (.onTimeRsp c (s.source.relay.relay.onTime c).totalSeconds)] := by
  have hstore : ∀ d : Device b ε, d.storeTotalRelayOnTime.relay.out = d.relay.out := by
    intro d
    rw [Device.storeTotalRelayOnTime]
    split <;> rfl
  rw [sendOp, askOnTime, SwCfg.chnOfByte_eq hc]
  dsimp only
  rw [Device.responseTotalRelayOnTime, hstore, Device.emit, Device.updRelay]
  dsimp only
  rw [List.drop_left]
  rfl

end SendDevice

/-! ## What is still to come -/

theorem AutoOp.code_inj {op op' : AutoOp} (h : op.code = op'.code) : op = op' := by
  cases op <;> cases op' <;> first | rfl | exact absurd h (by decide)

/-- The option that a report is about. -/
def SendReport.code : SendReport → UInt8
  | .config (.nodeStatus _ par) => par.headD 0
  | .lockSchedule _ par => par.headD 0
  | .energy _ => vdActiveEnergyInformation
  | .relay (.onTimeRsp ..) => vdTotalRelayOnTimeInformation
  | _ => 0

namespace SendItem

variable {b : Board} {ε : Type} {item : SendItem b}

/-- The items that are asked for by their own option. -/
def Covered : SendItem b → Prop
  | .switchMode _ | .groupDefault _ => False
  | _ => True

/-- The index that the item is reported at. -/
def place : SendItem b → Nat
  | .onPowerUpState _ | .linkUnlinkV2 _ => 0
  | .switchMode c | .groupDefault c | .activeEnergy c | .relayOnTime c => c
  | .lockSchedule i => i

theorem place_lt (item : SendItem b) : item.place < item.op.visits b := by
  cases item with
  | switchMode c | groupDefault c | activeEnergy c | relayOnTime c => exact c.isLt
  | onPowerUpState c | linkUnlinkV2 c => exact Nat.one_pos
  | lockSchedule i => exact i.isLt

theorem Covered.stride (h : item.Covered) : item.op.stride = 1 := by
  cases item with
  | groupDefault c => exact h.elim
  | _ => rfl

theorem Covered.ne_switchMode (h : item.Covered) : item.op ≠ .switchMode := by
  cases item with
  | switchMode c => exact h.elim
  | _ => exact nofun

theorem Covered.ne_groupDefault (h : item.Covered) : item.op ≠ .groupDefault := by
  cases item with
  | groupDefault c => exact h.elim
  | _ => exact nofun

/-- The item has the option and the index. -/
def At (item : SendItem b) (op : AutoOp) (a : AutoSend) : Prop :=
  item.op = op ∧ item.place = a.btnIdx.toNat

instance (item : SendItem b) (op : AutoOp) (a : AutoSend) : Decidable (item.At op a) :=
  inferInstanceAs (Decidable (_ ∧ _))

/-- The report is still to come. -/
def Ahead (item : SendItem b) (a : AutoSend) : Prop :=
  a.opIndex.toNat < item.op.index ∨
    a.opIndex.toNat = item.op.index ∧ a.btnIdx.toNat ≤ item.place

instance (item : SendItem b) (a : AutoSend) : Decidable (item.Ahead a) :=
  inferInstanceAs (Decidable (_ ∨ _))

def left (item : SendItem b) (a : AutoSend) : Nat := if item.Ahead a then 1 else 0

theorem left_congr {a a' : AutoSend} (h : a'.cursor = a.cursor) (item : SendItem b) :
    item.left a' = item.left a := by
  obtain ⟨-, hop, hbtn⟩ := by simpa only [AutoSend.cursor, Prod.mk.injEq] using h
  exact if_congr (by rw [Ahead, Ahead, hop, hbtn]) rfl rfl

/-- The report at the cursor is no longer to come. -/
theorem left_of_advances {op : AutoOp} {a a' : AutoSend} (h : AutoSend.Advances b op a a')
    (hop : op.index = a.opIndex.toNat) (hc : item.Covered) :
    (if item.At op a then 1 else 0) + item.left a' = item.left a := by
  have hplace := item.place_lt
  by_cases hat : item.At op a
  · obtain ⟨rfl, hbtn⟩ := hat
    have hstride := hc.stride
    -- the item that is at the cursor falls behind it
    have hahead : item.Ahead a := .inr ⟨hop.symm, hbtn.ge⟩
    have hahead' : ¬ item.Ahead a' := by
      rw [Ahead]
      rcases h.cases with ⟨hop', hbtn', hwrap⟩ | ⟨hop', hbtn', hstay⟩ <;> omega
    rw [if_pos ⟨rfl, hbtn⟩, left, left, if_pos hahead, if_neg hahead']
  -- any other is ahead of the new cursor if it was ahead of the old one
  · have hiff : item.Ahead a' ↔ item.Ahead a := by
      rw [Ahead, Ahead]
      by_cases hsame : item.op = op
      · obtain rfl := hsame
        have hstride := hc.stride
        have hne : item.place ≠ a.btnIdx.toNat := fun hx => hat ⟨rfl, hx⟩
        rcases h.cases with ⟨hop', hbtn', hwrap⟩ | ⟨hop', hbtn', hstay⟩ <;> omega
      · have hne : item.op.index ≠ op.index := fun hx => hsame (AutoOp.index_inj hx)
        rcases h.cases with ⟨hop', hbtn', hwrap⟩ | ⟨hop', hbtn', hstay⟩ <;> omega
    rw [if_neg hat, Nat.zero_add, left, left]
    exact if_congr hiff rfl rfl

/-- A report that gives an item is about its option. -/
theorem code_of_reports {x : SendSource b ε} {ele : Nat} {r : SendReport}
    (h : x.reports ele item r = true) : r.code = item.op.code := by
  have hlists : ∀ cmd y, r.lists ele cmd y = true → r.code = cmd := by
    intro cmd y hlists
    unfold SendReport.lists at hlists
    split at hlists
    · exact (of_decide_eq_true hlists).2.1
    · exact absurd hlists Bool.false_ne_true
  cases item with
  | switchMode c | groupDefault c | lockSchedule i =>
    obtain rfl := of_decide_eq_true h
    rfl
  | onPowerUpState c | linkUnlinkV2 c => exact hlists _ _ h
  | activeEnergy c | relayOnTime c =>
    obtain ⟨rfl, -⟩ := of_decide_eq_true h
    rfl

end SendItem

namespace SendDevice

variable {b : Board} {ε : Type} {s : SendDevice b ε} {item : SendItem b} {op : AutoOp}

theorem countP_one {p : SendReport → Bool} {r : SendReport} {P : Prop} [Decidable P]
    (h : p r = true ↔ P) : [r].countP p = if P then 1 else 0 := by
  rw [List.countP_singleton]
  exact if_congr h rfl rfl

/-- A report about an option gives an item of it, if it gives that of the item's index. -/
theorem countP_report {r : SendReport} (hcode : r.code = op.code)
    (hself : item.op = op →
      (s.source.reports item.sentFrom item r = true ↔ item.place = s.auto.btnIdx.toNat)) :
    [r].countP (s.source.reports item.sentFrom item) = if item.At op s.auto then 1 else 0 := by
  refine countP_one ⟨fun hr => ?_, fun hat => (hself hat.1).mpr hat.2⟩
  have hop : item.op = op := AutoOp.code_inj ((SendItem.code_of_reports hr).symm.trans hcode)
  exact ⟨hop, (hself hop).mp hr⟩

/-- The answers to a question for a mode give no item that is covered. -/
theorem countP_ask_switchMode (hc : item.Covered) (x : SendSource b ε) (par : UInt8) :
    (s.ask par vdConfigSwitchModeOpt).2.countP (x.reports item.sentFrom item) = 0 := by
  rw [List.countP_eq_zero]
  intro r hr hreports
  obtain ⟨c, -, rfl⟩ := mem_ask_switchMode hr
  have hop : AutoOp.switchMode = item.op := AutoOp.code_inj (SendItem.code_of_reports hreports)
  cases item with
  | switchMode c => exact hc
  | groupDefault c => exact hc
  | _ => exact nomatch hop

/-- The report at the cursor gives the items there, and no other. -/
theorem countP_sendOp (hbtn : s.auto.btnIdx.toNat < op.visits b) (hc : item.Covered) :
    (s.sendOp op).2.countP (s.source.reports item.sentFrom item) =
      if item.At op s.auto then 1 else 0 := by
  cases op with
  | switchMode =>
    -- both are questions for a mode
    rw [if_neg fun hat : item.At .switchMode s.auto => hc.ne_switchMode hat.1]
    exact countP_ask_switchMode hc s.source s.modelIdx
  | groupDefault =>
    rw [if_neg fun hat : item.At .groupDefault s.auto => hc.ne_groupDefault hat.1]
    exact countP_ask_switchMode hc s.source s.modelIdx
  | onPowerUpState =>
    rw [out_onPowerUpState]
    refine countP_report rfl fun hop => ?_
    cases item with
    | onPowerUpState c =>
      refine iff_of_true (decide_eq_true ⟨rfl, rfl, ?_⟩) (Nat.lt_one_iff.mp hbtn).symm
      exact List.mem_map_of_mem (b.mem_chns c)
    | _ => exact nomatch hop
  | linkUnlinkV2 =>
    rw [out_linkUnlinkV2]
    refine countP_report rfl fun hop => ?_
    cases item with
    | linkUnlinkV2 c =>
      refine iff_of_true (decide_eq_true ⟨rfl, rfl, ?_⟩) (Nat.lt_one_iff.mp hbtn).symm
      exact List.mem_map.mpr ⟨c, b.mem_chns c, rfl⟩
    | _ => exact nomatch hop
  | lockSchedule =>
    rw [out_lockSchedule (i := ⟨_, hbtn⟩) rfl]
    refine countP_report rfl fun hop => ?_
    cases item with
    | lockSchedule i =>
      refine ⟨fun hr => (SendReport.lockSchedule.inj (of_decide_eq_true hr)).1.symm, fun hi => ?_⟩
      obtain rfl : i = ⟨_, hbtn⟩ := Fin.ext hi
      exact decide_eq_true rfl
    | _ => exact nomatch hop
  | activeEnergy =>
    rw [out_activeEnergy (c := ⟨_, hbtn⟩) rfl]
    refine countP_report rfl fun hop => ?_
    cases item with
    | activeEnergy c =>
      refine ⟨fun hr => (SendReport.energy.inj (of_decide_eq_true hr).1).symm, fun hi => ?_⟩
      obtain rfl : c = ⟨_, hbtn⟩ := Fin.ext hi
      exact decide_eq_true ⟨rfl, rfl⟩
    | _ => exact nomatch hop
  | relayOnTime =>
    rw [out_relayOnTime (c := ⟨_, hbtn⟩) rfl]
    refine countP_report rfl fun hop => ?_
    cases item with
    | relayOnTime c =>
      refine ⟨fun hr => ?_, fun hi => ?_⟩
      · have hrsp := SendReport.relay.inj (of_decide_eq_true hr).1
        exact (RelayOut.onTimeRsp.inj hrsp).1.symm
      · obtain rfl : c = ⟨_, hbtn⟩ := Fin.ext hi
        exact decide_eq_true ⟨rfl, rfl⟩
    | _ => exact nomatch hop

/-! ## Every run -/

/-- The arrays that a step reads have an entry at the cursor. -/
def InRange (s : SendDevice b ε) : SendEvent b ε → Prop
  | .task rand => s.Due rand → ∀ op, opcodeMsgAutoSend[s.auto.opIndex.toNat]? = some op →
    s.auto.btnIdx.toNat < op.visits b
  | _ => True

/-- The task is enabled. -/
def enabled (s : SendDevice b ε) : SendDevice b ε := s.updAuto (.enable s.now)

/-- The run goes on until the task is through. -/
def Completes (s : SendDevice b ε) (evs : List (SendEvent b ε)) : Prop :=
  AllSteps next (fun s _ => s.auto.en = true) s evs ∧ (runFrom next s evs).auto.en = false

/-- A call of the task. -/
theorem left_task (hok : s.auto.CursorOk b) (hen : s.auto.en = true) (hc : item.Covered)
    (rand : Nat) :
    (s.swConfigAutoSendTask rand).1.auto.CursorOk b ∧
      (s.swConfigAutoSendTask rand).2.countP (s.source.reports item.sentFrom item) +
        item.left (s.swConfigAutoSendTask rand).1.auto = item.left s.auto := by
  by_cases hdue : s.Due rand
  · cases hop : opcodeMsgAutoSend[s.auto.opIndex.toNat]? with
    | none =>
      rw [swConfigAutoSendTask, if_pos hdue, hop]
      have hseven : 7 ≤ s.auto.opIndex.toNat := List.getElem?_eq_none_iff.mp hop
      refine ⟨⟨hok.op_le, hok.btn_lt, fun _ => ?_⟩, Nat.zero_add _⟩
      exact Nat.le_antisymm hok.op_le hseven
    | some op =>
      have hindex := AutoOp.index_of_getElem? hop
      have hbtn := hok.btn_lt op hindex
      have hadv : AutoSend.Advances b op s.auto (s.sendOp op).1.auto := by
        rw [auto_sendOp]
        exact AutoSend.advances_after hok hindex
      rw [swConfigAutoSendTask, if_pos hdue, hop]
      dsimp only
      -- behind the report, the delayed enabling finds the task running
      have hcursor := cursor_checkDelay
        (s := (s.sendOp op).1.updAuto fun a => { a with sendLastT := s.now })
        (hadv.en.trans hen)
      refine ⟨(hadv.cursorOk hen).congr hcursor, ?_⟩
      have hleft := SendItem.left_of_advances hadv hindex hc
      rw [countP_sendOp hbtn hc, SendItem.left_congr hcursor]
      exact hleft
  · rw [swConfigAutoSendTask, if_neg hdue]
    have hcursor := cursor_checkDelay hen
    exact ⟨hok.congr hcursor, (Nat.zero_add _).trans (SendItem.left_congr hcursor item)⟩

/-- **One step** takes its reports from those to come. -/
theorem left_step (hok : s.auto.CursorOk b) (hen : s.auto.en = true) (hc : item.Covered)
    (ev : SendEvent b ε) :
    (s.next ev).auto.CursorOk b ∧
      (s.step ev).2.countP (s.source.reports item.sentFrom item) + item.left (s.next ev).auto =
        item.left s.auto := by
  have hsame : ∀ s' : SendDevice b ε, s'.auto.cursor = s.auto.cursor → s'.auto.CursorOk b ∧
      0 + item.left s'.auto = item.left s.auto :=
    fun s' h => ⟨hok.congr h, (Nat.zero_add _).trans (SendItem.left_congr h item)⟩
  cases ev with
  | task rand => exact left_task hok hen hc rand
  | enable => exact hsame _ (AutoSend.cursor_enable hen s.now)
  | setupDelay en => cases en <;> exact hsame _ rfl
  | other source => exact hsame _ rfl

/-- **What is reported once.** Every run of the task from its enabling to its end, whatever
happens in between, gives the lists of all relays once, the lock schedule of each button, the
energy and the on-time of each relay once, and stays inside the arrays. -/
theorem reported_once (s : SendDevice b ε) (evs : List (SendEvent b ε))
    (hidle : s.auto.en = false) (hrun : s.enabled.Completes evs) :
    (∀ item : SendItem b, item.Covered → timesReported item item.sentFrom s.enabled evs = 1) ∧
      AllSteps next InRange s.enabled evs := by
  obtain ⟨hen, hend⟩ := hrun
  have hauto : s.enabled.auto = { s.auto with
      en := true, sendLastT := if s.now ≥ 1000 then s.now - 1000 else s.now
      opIndex := 0, btnIdx := 0 } := if_pos hidle
  have hok : s.enabled.auto.CursorOk b := by
    rw [hauto]
    exact ⟨Nat.zero_le 7, fun op _ => op.visits_pos b, fun h => absurd h.symm Bool.false_ne_true⟩
  have hkeep : ∀ (s : SendDevice b ε) ev, s.auto.CursorOk b → s.auto.en = true →
      (s.next ev).auto.CursorOk b :=
    fun s ev hok hen =>
      have hcovered : (SendItem.activeEnergy b.chn0).Covered := trivial
      (left_step hok hen hcovered ev).1
  refine ⟨fun item hc => ?_, ?_⟩
  -- at the first option all items that are covered are to come, and behind the last one none
  · have htotal : timesReported item item.sentFrom s.enabled evs +
        item.left (runFrom next s.enabled evs).auto = item.left s.enabled.auto :=
      totalCost_add_potential (I := fun s : SendDevice b ε => s.auto.CursorOk b)
        (p := fun s : SendDevice b ε => item.left s.auto)
        (fun s ev hok hen => left_step hok hen hc ev) hok hen
    have hfirst : item.Ahead s.enabled.auto := by
      rw [hauto]
      refine .inl (Nat.pos_of_ne_zero fun hzero : item.op.index = AutoOp.switchMode.index => ?_)
      exact hc.ne_switchMode (AutoOp.index_inj hzero)
    have hlast : ¬ item.Ahead (runFrom next s.enabled evs).auto := by
      have hlt := item.op.index_lt
      have hseven : (runFrom next s.enabled evs).auto.opIndex.toNat = 7 :=
        (AllSteps.invariant hkeep hok hen).ended hend
      rw [SendItem.Ahead]
      omega
    rw [SendItem.left, SendItem.left, if_pos hfirst, if_neg hlast] at htotal
    exact htotal
  · refine AllSteps.transport (I := fun s : SendDevice b ε => s.auto.CursorOk b) hkeep ?_ hok hen
    intro s ev hok hen
    cases ev with
    | task rand => exact fun _ op hop => hok.btn_lt op (AutoOp.index_of_getElem? hop)
    | _ => trivial

/-! ### A new device -/

/-- A new device with two relays. -/
def newSource (ms : UInt32) : SendSource board2 Unit where
  cfg := .firstBoot board2 fun _ => Nor.erasedByte
  locks := .firstBoot board2 (fun _ => Nor.erasedByte) fun _ => Nor.erasedByte
  energy := (EnergyRun.firstBoot (fun _ _ => 0) 0 (fun _ => Nor.erasedByte) quietEnv).dev
  relay := .boot (fun _ => 0) emptyLog emptyLog
    { switchMode := fun _ => .toggle
      powerOnState := fun _ => .restore
      timeMs := ms
      timeS := 0
      factActive := false
      eleAdrPrimary := 2
      lightness := fun _ => ⟨levelOff, levelOff⟩
      nwkControlMsgPara := fun _ => ⟨0, 0, 0⟩ } ()

def newDevice : SendDevice board2 Unit := ⟨⟨⟨false, 0, 0, 0⟩, 0, false⟩, newSource 0⟩

/-- A call of the task every three seconds. -/
def calls : List (SendEvent board2 Unit) :=
  (List.range 14).flatMap fun k => [.other (newSource (UInt32.ofNat (3000 * (k + 1)))), .task 0]

theorem completes_calls : newDevice.enabled.Completes calls := by
  refine ⟨?_, ?_⟩
  · decide +kernel
  · decide +kernel

theorem reported_once_calls :
    (∀ item : SendItem board2, item.Covered →
      timesReported item item.sentFrom newDevice.enabled calls = 1) ∧
      AllSteps next InRange newDevice.enabled calls :=
  reported_once newDevice calls rfl completes_calls

/-! ### What is never reported -/

/-- A report is an answer to a question for a mode, or about its option. -/
theorem code_of_mem_sendOp {r : SendReport} (hr : r ∈ (s.sendOp op).2) :
    (∃ s' : SendDevice b ε, r ∈ (s'.ask s.modelIdx vdConfigSwitchModeOpt).2) ∨
      r.code = op.code ∧ op ≠ .switchMode ∧ op ≠ .groupDefault := by
  cases op with
  | switchMode => exact .inl ⟨_, hr⟩
  | groupDefault => exact .inl ⟨_, hr⟩
  | onPowerUpState =>
    rw [out_onPowerUpState] at hr
    obtain rfl := List.mem_singleton.mp hr
    exact .inr ⟨rfl, nofun, nofun⟩
  | linkUnlinkV2 =>
    rw [out_linkUnlinkV2] at hr
    obtain rfl := List.mem_singleton.mp hr
    exact .inr ⟨rfl, nofun, nofun⟩
  | lockSchedule =>
    change r ∈ s.source.locks.vdLockScheduleResponse s.auto.btnIdx at hr
    rw [Locks.vdLockScheduleResponse] at hr
    split at hr
    · obtain rfl := List.mem_singleton.mp hr
      exact .inr ⟨rfl, nofun, nofun⟩
    · exact absurd hr List.not_mem_nil
  | activeEnergy =>
    cases hchn : (SwCfg.chnOfByte s.auto.btnIdx : Option b.Chn) with
    | none =>
      rw [sendOp, askEnergy, hchn] at hr
      exact absurd hr List.not_mem_nil
    | some c =>
      rw [out_activeEnergy (SwCfg.toNat_of_chnOfByte hchn)] at hr
      obtain rfl := List.mem_singleton.mp hr
      exact .inr ⟨rfl, nofun, nofun⟩
  | relayOnTime =>
    cases hchn : (SwCfg.chnOfByte s.auto.btnIdx : Option b.Chn) with
    | none =>
      rw [sendOp, askOnTime, hchn] at hr
      exact absurd hr List.not_mem_nil
    | some c =>
      rw [out_relayOnTime (SwCfg.toNat_of_chnOfByte hchn)] at hr
      obtain rfl := List.mem_singleton.mp hr
      exact .inr ⟨rfl, nofun, nofun⟩

/-- The reports of a step are those of an option. -/
theorem mem_step {ev : SendEvent b ε} {r : SendReport} (hr : r ∈ (s.step ev).2) :
    ∃ op, r ∈ (s.sendOp op).2 := by
  cases ev with
  | task rand =>
    rw [step, swConfigAutoSendTask] at hr
    split at hr
    · split at hr
      · exact absurd hr List.not_mem_nil
      · exact ⟨_, hr⟩
    · exact absurd hr List.not_mem_nil
  | enable => exact absurd hr List.not_mem_nil
  | setupDelay en => exact absurd hr List.not_mem_nil
  | other source => exact absurd hr List.not_mem_nil

/-- A step that reports an item answers a question for a mode, or reports the item's option. -/
theorem mem_step_of_reports {item : SendItem b} {ele : Nat} {ev : SendEvent b ε} {r : SendReport}
    (hr : r ∈ (s.step ev).2) (hreports : s.source.reports ele item r = true) :
    (item.op = .switchMode ∧
      ∃ (x : SwCfg b) (c : b.Chn), 0 < c.val ∧ r = .config (x.modeStatus c)) ∨
    (item.op ≠ .switchMode ∧ item.op ≠ .groupDefault ∧ r ∈ (s.sendOp item.op).2) := by
  obtain ⟨op, hr⟩ := mem_step hr
  have hcode : r.code = item.op.code := SendItem.code_of_reports hreports
  rcases code_of_mem_sendOp hr with ⟨s', hask⟩ | ⟨hop, hmode, hgroup⟩
  · obtain ⟨c, hc, rfl⟩ := mem_ask_switchMode hask
    have hop : AutoOp.switchMode = item.op := AutoOp.code_inj hcode
    exact .inl ⟨hop.symm, s'.source.cfg, c, hc, rfl⟩
  · obtain rfl : item.op = op := AutoOp.code_inj (hcode.symm.trans hop)
    exact .inr ⟨hmode, hgroup, hr⟩

/-- What no step reports, no run reports. -/
theorem timesReported_eq_zero {item : SendItem b} {ele : Nat}
    (h : ∀ (s : SendDevice b ε) (ev : SendEvent b ε) (r : SendReport), r ∈ (s.step ev).2 →
      ¬s.source.reports ele item r = true)
    (s : SendDevice b ε) (evs : List (SendEvent b ε)) : timesReported item ele s evs = 0 :=
  totalCost_eq_zero (fun s ev => List.countP_eq_zero.mpr (h s ev)) s evs

/-- The power-on states, from any element but that of the first relay. -/
theorem timesReported_onPowerUpState (c : b.Chn) {ele : Nat} (hele : ele ≠ Board.eleRelayOffset)
    (s : SendDevice b ε) (evs : List (SendEvent b ε)) :
    timesReported (.onPowerUpState c) ele s evs = 0 := by
  refine timesReported_eq_zero (fun s ev r hr hreports => ?_) s evs
  rcases mem_step_of_reports hr hreports with ⟨hop, -⟩ | ⟨-, -, hr⟩
  · cases hop
  · rw [SendItem.op, out_onPowerUpState] at hr
    obtain rfl := List.mem_singleton.mp hr
    exact hele (of_decide_eq_true hreports).1.symm

/-- The mode of the first relay. -/
theorem timesReported_switchMode_chn0 (s : SendDevice b ε) (ele : Nat)
    (evs : List (SendEvent b ε)) : timesReported (.switchMode b.chn0) ele s evs = 0 := by
  refine timesReported_eq_zero (fun s ev r hr hreports => ?_) s evs
  rcases mem_step_of_reports hr hreports with ⟨-, x, c, hc, rfl⟩ | ⟨hop, -⟩
  · -- the answer is about another relay
    have hstatus := SendReport.config.inj (of_decide_eq_true hreports)
    have hid : SwCfg.btnId c = SwCfg.btnId b.chn0 :=
      (List.cons.inj (List.cons.inj (SwConfigOut.nodeStatus.inj hstatus).2).2).1
    have hval := (SwCfg.btnId_toNat c).symm.trans
      ((congrArg UInt8.toNat hid).trans (SwCfg.btnId_toNat b.chn0))
    have hfirst : b.chn0.val = 0 := rfl
    omega
  · exact hop rfl

/-- The group defaults. -/
theorem timesReported_groupDefault (c : b.Chn) (s : SendDevice b ε) (ele : Nat)
    (evs : List (SendEvent b ε)) : timesReported (.groupDefault c) ele s evs = 0 := by
  refine timesReported_eq_zero (fun s ev r hr hreports => ?_) s evs
  rcases mem_step_of_reports hr hreports with ⟨hop, -⟩ | ⟨-, hop, -⟩
  · cases hop
  · exact hop rfl

/-- Every item is reported once, from its own element, and no access is out of range. -/
def Complete (s : SendDevice b ε) (evs : List (SendEvent b ε)) : Prop :=
  (∀ item : SendItem b, timesReported item item.ownEle s evs = 1) ∧ AllSteps next InRange s evs

/-- The second relay of a new device is in the list that comes from the first only. -/
theorem not_complete_calls :
    ¬ ∀ (b : Board) (ε : Type) (s : SendDevice b ε) (evs : List (SendEvent b ε)),
      s.auto.en = false → s.enabled.Completes evs → s.enabled.Complete evs := by
  intro h
  obtain ⟨honce, -⟩ := h board2 Unit newDevice calls rfl completes_calls
  have hown : ((Board.relayEle ⟨1, by decide⟩ : board2.Btn) : Nat) ≠ Board.eleRelayOffset := by
    decide
  have hnever := timesReported_onPowerUpState ⟨1, by decide⟩ hown newDevice.enabled calls
  exact absurd ((honce (.onPowerUpState ⟨1, by decide⟩)).symm.trans hnever) (by decide)

end SendDevice

end LumesSwitch
