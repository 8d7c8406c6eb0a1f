import LumesSwitch.Button.Release
import LumesSwitch.Net.Propagation

/-!
# Messages from the mesh (`net_message.c`, `generic_model.c`, `vendor_model.c`)

An on/off message, a lightness message and their form for the switches only come in as a
command for the element they are delivered to.

- `Node.funcHandleControlMessage`, `Node.receive` — the handlers;
- `Device.OnlyAt` — a command for relay `c` writes the flags of `c` only;
- `Node.took_receive`, `Panel.onlyAt_btn` — so do a message and an event of its button.
-/

namespace LumesSwitch

open Flags Runs Words

/-- `LIGHTNESS_SET`, `LIGHT_CTL_SET`, `LIGHT_HSL_SET` -/
def lightnessSet : UInt16 := 0x4C82
def lightCtlSet : UInt16 := 0x5E82
def lightHslSet : UInt16 := 0x7682

/-- `CONTROL_BDG_SAME_ST_CNT_MAX` -/
def controlBdgSameStCntMax : UInt8 := 3

/-- The switch, and `control_binding_st[i].cnt_same` of every element. -/
structure Node (b : Board) where
  panel : Panel b
  cntSame : b.Btn → UInt8

namespace Node

variable {b : Board}

def onDev (x : Node b) (f : NetDevice b → NetDevice b) : Node b :=
  { x with panel := x.panel.onDev f }

/-- Count a lightness command for the state `st`, and whether it is to be carried out. An
element between its levels counts nothing. -/
def countSame (x : Node b) (m : b.Btn) (st : UInt8) : Node b × Bool :=
  let target := (x.panel.dev.sh.lightness m).target
  let same : Option Bool :=
    if target = levelOff then some (st = gOff)
    else if target = levelMax then some (st = gOn)
    else none
  match same with
  | none => (x, true)
  | some true =>
    let n := x.cntSame m + 1
    ({ x with cntSame := Function.update x.cntSame m n }, !decide (n ≥ controlBdgSameStCntMax))
  | some false => ({ x with cntSame := Function.update x.cntSame m 0 }, true)

/-- `func_handle_control_message`; the messages all start with their lightness. -/
def funcHandleControlMessage (x : Node b) (par : List UInt8) (m : b.Btn) (src dst op : UInt16) :
    Node b :=
  let d := x.panel.dev
  let adr := d.env.getGroupBindingAdr m
  if adr = adrUnassigned ∨ dst ≠ adr then x
  else
    let own := b.chns.any fun c =>
      src.toNat = d.sh.eleAdrPrimary.toNat + Board.eleRelayOffset + c.val
    if op = lightnessSet ∧ own = true then x
    else if op = lightnessSet ∨ op = lightCtlSet ∨ op = lightHslSet then
      let st := if ofU16Bytes (par.getD 0 0) (par.getD 1 0) = 0 then gOff else gOn
      let r := x.countSame m st
      if r.2 = true ∧ d.checkEnControl m dst = true then
        r.1.onDev fun d =>
          (d.sendControlDevManualToMcu m (st = gOn) true).updateControlMessageParams m src dst
            gOnoffSet
      else r.1
    else x

/-- `mesh_cmd_sig_g_onoff_set`, which is `my_handle_mesh_cmd_sig_g_on_off_set` on the bytes of
the message. -/
def meshCmdSigGOnoffSet (x : Node b) (par : List UInt8) (m : b.Btn) (src dst : UInt16) : Node b :=
  x.onDev fun d => d.myHandleMeshCmdSigGOnOffSet
    ⟨par.getD 0 0, par.getD 1 0, par.getD 2 0, par.getD 3 0⟩
    (if par.length = 5 then par[4]? else none) m src dst

/-- `cb_vd_control_locally` -/
def cbVdControlLocally (x : Node b) (par : List UInt8) (m : b.Btn) (src dst : UInt16) : Node b :=
  if par.head? = some typeCtlOnOff then x.meshCmdSigGOnoffSet par.tail m src dst
  else if par.head? = some typeCtlLightness then
    x.funcHandleControlMessage par.tail m src dst lightnessSet
  else x

/-- The handlers of the messages that control relays. -/
def receive (x : Node b) (op : UInt16) (par : List UInt8) (m : b.Btn) (src dst : UInt16) :
    Node b :=
  if op = gOnoffSet ∨ op = gOnoffSetNoack then x.meshCmdSigGOnoffSet par m src dst
  else if op = lightnessSet ∨ op = lightnessSetNoack then
    -- `mesh_cmd_sig_lightness_set`
    x.funcHandleControlMessage par m src dst lightnessSet
  else if op = vdBindingControlLocally then x.cbVdControlLocally par m src dst
  else x

end Node

/-! ## What a command writes -/

namespace Device

variable {b : Board} {c : b.Chn} {d d' d'' : NetDevice b}

/-- The destination of the last control message of relay `c`. -/
def lastDst (d : NetDevice b) (c : b.Chn) : UInt16 :=
  (d.sh.nwkControlMsgPara (Board.relayEle c)).dst

/-- From `d` to `d'` only relay `c` was commanded. -/
structure OnlyAt (c : b.Chn) (d d' : NetDevice b) : Prop where
  kept : EnvKept d d'
  target : d'.core.target = d.core.target
  set : ∀ c', c' ≠ c → d'.core.set c' = d.core.set c'
  lastDst : ∀ c', c' ≠ c → d'.lastDst c' = d.lastDst c'

namespace OnlyAt

theorem of_same (c : b.Chn) (hkept : EnvKept d d') (hcore : d'.core = d.core)
    (hsh : d'.sh = d.sh) : OnlyAt c d d' := by
  refine ⟨hkept, by rw [hcore], fun c' _ => by rw [hcore], fun c' _ => ?_⟩
  rw [Device.lastDst, hsh]
  rfl

theorem refl (c : b.Chn) (d : NetDevice b) : OnlyAt c d d := .of_same c (.refl d) rfl rfl

theorem trans (h : OnlyAt c d d') (h' : OnlyAt c d' d'') : OnlyAt c d d'' :=
  ⟨h.kept.trans h'.kept, h'.target.trans h.target,
    fun c' hc' => (h'.set c' hc').trans (h.set c' hc'),
    fun c' hc' => (h'.lastDst c' hc').trans (h.lastDst c' hc')⟩

end OnlyAt

theorem relayEle_injective : Function.Injective (Board.relayEle : b.Chn → b.Btn) := by
  intro c c' h
  have hval : c.val + 2 = c'.val + 2 := congrArg Fin.val h
  exact Fin.ext (by omega)

/-- New parameters for relay `c`. -/
theorem onlyAt_update (d : NetDevice b) (c : b.Chn) (src dst op : UInt16) :
    OnlyAt c d (d.updateControlMessageParams (Board.relayEle c) src dst op) ∧
      (d.updateControlMessageParams (Board.relayEle c) src dst op).lastDst c = dst := by
  obtain ⟨hkept, hnwk, -, -⟩ := d.update_spec (Board.relayEle c) src dst op
  have hcore := d.core_updateControlMessageParams (Board.relayEle c) src dst op
  refine ⟨⟨hkept, by rw [hcore], fun c' _ => by rw [hcore], fun c' hc' => ?_⟩, ?_⟩
  · rw [lastDst, hnwk, Function.update_of_ne (fun h => hc' (relayEle_injective h))]
    rfl
  · rw [lastDst, hnwk, Function.update_self]

/-- A network command for relay `c`, accepted or not. -/
theorem core_sendControl (d : NetDevice b) (c : b.Chn) (on updateEn : Bool) :
    (d.sendControlDevManualToMcu (Board.relayEle c) on updateEn).core = d.core ∨
      (d.sendControlDevManualToMcu (Board.relayEle c) on updateEn).core =
        d.core.command c (.net on) := by
  have hpublish : ∀ (p : Prop) [Decidable p] (s : NetDevice b) (m : b.Btn),
      (if p then s.publishStatus m else s).core = s.core := by
    intro p _ s m
    split
    · rw [publishStatus]
      dsimp only
      split <;> rfl
    · rfl
  unfold sendControlDevManualToMcu
  rw [Board.relayIdx_relayEle]
  dsimp only
  split
  · right
    generalize hs : d.onEnv _ = s
    have hcore : s.core = d.core := by
      rw [← hs]
      rfl
    have hnet := core_netState (if isOn s.relay.rlsTarget c = on then
      s.publishStatus (Board.relayEle c) else s) c on
    rw [hpublish, hcore] at hnet
    split
    · exact hnet
    · exact hnet
  · exact Or.inl rfl

theorem onlyAt_sendControl (d : NetDevice b) (c : b.Chn) (on : Bool) :
    OnlyAt c d (d.sendControlDevManualToMcu (Board.relayEle c) on true) ∧
      (d.sendControlDevManualToMcu (Board.relayEle c) on true).sh = d.sh := by
  obtain ⟨hkept, hsh, -, -⟩ := d.sendControl_spec c on
  refine ⟨?_, hsh⟩
  rcases d.core_sendControl c on true with hcore | hcore
  · exact .of_same c hkept hcore hsh
  · refine ⟨hkept, ?_, fun c' hc' => ?_, fun c' _ => ?_⟩
    · rw [hcore, RelayCore.command_target]
    · rw [hcore, RelayCore.command_set_other _ _ hc']
    · rw [lastDst, hsh]
      rfl

/-- `relay_set_target_state`, behind the record of the command. -/
theorem onlyAt_writeSet (d : NetDevice b) (c : b.Chn) (st : UInt8) (src : SrcControl)
    (store : Bool) : OnlyAt c d (d.writeSet c st src store) := by
  have hcore := d.core_writeSet c st src store
  obtain ⟨nwk, hsh⟩ := d.shared_writeSet c st src store
  have henv := d.env_writeSet c st src store
  have hcmds : (d.writeSet c st src store).cmds = d.cmds := by
    rw [cmds, henv]
    rfl
  refine ⟨⟨by rw [henv], by rw [henv], by rw [henv], by rw [hsh], by rw [hsh], hcmds⟩,
    by rw [hcore], fun c' hc' => ?_, fun c' hc' => ?_⟩
  · rw [hcore]
    exact Function.update_of_ne hc' ..
  · have hdelay : ∀ (p : Prop) [Decidable p] (s : NetDevice b),
        (if p then s.setupStoreStateDelay else s).sh = s.sh := by
      intro p _ s
      split <;> rfl
    rw [lastDst, writeSet, dif_pos c.isLt]
    dsimp only
    split
    · generalize hs : updRelay _ _ = s
      have hsame : s.sh = d.sh := by
        rw [← hs]
        exact hdelay _ _
      have hlast : s.lastDst c' = d.lastDst c' := by
        rw [lastDst, hsame]
        rfl
      exact ((s.onlyAt_update c _ _ gOnoffSet).1.lastDst c' hc').trans hlast
    · exact congrArg (fun sh : Shared b => (sh.nwkControlMsgPara (Board.relayEle c')).dst)
        (hdelay _ _)

theorem onlyAt_record (d : NetDevice b) (c : b.Chn) (cmd : RelayCmd) :
    OnlyAt c d (d.record c cmd) := by
  have hcore := d.core_record c cmd
  rw [record, dif_pos c.isLt] at hcore ⊢
  exact ⟨.of_env rfl rfl, rfl, fun _ _ => rfl, fun _ _ => rfl⟩

theorem onlyAt_setTargetState (d : NetDevice b) (c : b.Chn) (st : UInt8) (src : SrcControl)
    (store : Bool) : OnlyAt c d (d.setTargetState c st src store) :=
  (d.onlyAt_record c _).trans (onlyAt_writeSet _ c st src store)

theorem onlyAt_toggleState (d : NetDevice b) (c : b.Chn) (src : SrcControl) :
    OnlyAt c d (d.toggleState c src) :=
  (d.onlyAt_record c _).trans (onlyAt_writeSet _ c _ src true)

/-- An on/off message for relay `c` commands it, or changes nothing that is watched here. -/
theorem onlyAt_onOffSet (d : NetDevice b) (set : MeshCmdGOnoffSet) (extra : Option UInt8)
    (c : b.Chn) (src dst : UInt16) :
    OnlyAt c d (d.myHandleMeshCmdSigGOnOffSet set extra (Board.relayEle c) src dst) ∧
      ((d.myHandleMeshCmdSigGOnOffSet set extra (Board.relayEle c) src dst).core = d.core ∧
          (d.myHandleMeshCmdSigGOnOffSet set extra (Board.relayEle c) src dst).sh = d.sh ∨
        (d.myHandleMeshCmdSigGOnOffSet set extra (Board.relayEle c) src dst).lastDst c = dst) := by
  unfold myHandleMeshCmdSigGOnOffSet
  rw [Board.relayIdx_relayEle]
  dsimp only
  generalize (if (d.sh.lightness (Board.relayEle c)).present ≠ levelOff then (1 : UInt8) else 0)
    = present
  split
  · exact ⟨.refl c d, Or.inl ⟨rfl, rfl⟩⟩
  · split
    · exact ⟨.refl c d, Or.inl ⟨rfl, rfl⟩⟩
    · split
      · exact ⟨.refl c d, Or.inl ⟨rfl, rfl⟩⟩
      · split
        · exact ⟨.of_same c ⟨rfl, rfl, rfl, rfl, rfl, rfl⟩ rfl rfl, Or.inl ⟨rfl, rfl⟩⟩
        · obtain ⟨hupd, hdst⟩ := d.onlyAt_update c src dst gOnoffSet
          generalize d.updateControlMessageParams (Board.relayEle c) src dst gOnoffSet = s at *
          obtain ⟨honly, hsh⟩ := s.onlyAt_sendControl c (set.onoff ≠ 0)
          refine ⟨hupd.trans honly, Or.inr ?_⟩
          rw [lastDst, hsh]
          exact hdst

end Device

namespace Node

variable {b : Board}

/-- The relay driver with the modules around it. -/
def dev (x : Node b) : NetDevice b := x.panel.dev

/-- What a message for relay `c` has done: it has commanded it, or changed nothing that is
watched here. -/
structure Took (x x' : Node b) (c : b.Chn) (dst : UInt16) : Prop where
  only : Device.OnlyAt c x.dev x'.dev
  taken : x'.dev.core = x.dev.core ∧ x'.dev.sh = x.dev.sh ∨ x'.dev.lastDst c = dst

theorem Took.ignored {x x' : Node b} (h : x'.dev = x.dev) (c : b.Chn) (dst : UInt16) :
    Took x x' c dst := by
  refine ⟨?_, Or.inl ⟨by rw [h], by rw [h]⟩⟩
  rw [h]
  exact .refl c x.dev

theorem dev_countSame (x : Node b) (m : b.Btn) (st : UInt8) : (x.countSame m st).1.dev = x.dev := by
  rw [countSame]
  dsimp only
  split <;> rfl

theorem took_onOffSet (x : Node b) (par : List UInt8) (c : b.Chn) (src dst : UInt16) :
    Took x (x.meshCmdSigGOnoffSet par (Board.relayEle c) src dst) c dst := by
  obtain ⟨honly, htaken⟩ := x.dev.onlyAt_onOffSet
    ⟨par.getD 0 0, par.getD 1 0, par.getD 2 0, par.getD 3 0⟩
    (if par.length = 5 then par[4]? else none) c src dst
  exact ⟨honly, htaken⟩

theorem took_funcHandleControlMessage (x : Node b) (par : List UInt8) (c : b.Chn)
    (src dst op : UInt16) :
    Took x (x.funcHandleControlMessage par (Board.relayEle c) src dst op) c dst := by
  have hcounted : ∀ st, Took x (x.countSame (Board.relayEle c) st).1 c dst :=
    fun st => .ignored (x.dev_countSame _ st) c dst
  unfold funcHandleControlMessage
  dsimp only
  generalize (if ofU16Bytes (par.getD 0 0) (par.getD 1 0) = 0 then gOff else gOn) = st
  split
  · exact .ignored rfl c dst
  · split
    · exact .ignored rfl c dst
    · split
      · split
        · have hcounted := x.dev_countSame (Board.relayEle c) st
          generalize (x.countSame (Board.relayEle c) st).1 = x1 at hcounted
          obtain ⟨honly, -⟩ := x1.dev.onlyAt_sendControl c (st = gOn)
          obtain ⟨hupd, hdst⟩ := Device.onlyAt_update
            (x1.dev.sendControlDevManualToMcu (Board.relayEle c) (st = gOn) true) c src dst gOnoffSet
          refine ⟨?_, Or.inr hdst⟩
          rw [← hcounted]
          exact honly.trans hupd
        · exact hcounted st
      · exact .ignored rfl c dst

/-- **Spec** of a message for relay `c`. -/
theorem took_receive (x : Node b) (op : UInt16) (par : List UInt8) (c : b.Chn)
    (src dst : UInt16) : Took x (x.receive op par (Board.relayEle c) src dst) c dst := by
  rw [receive]
  split
  · exact x.took_onOffSet par c src dst
  · split
    · exact x.took_funcHandleControlMessage par c src dst _
    · split
      · rw [cbVdControlLocally]
        split
        · exact x.took_onOffSet par.tail c src dst
        · split
          · exact x.took_funcHandleControlMessage par.tail c src dst _
          · exact .ignored rfl c dst
      · exact .ignored rfl c dst

end Node

/-! ## What a relay button writes -/

namespace Panel

variable {b : Board} {s s' s'' : Panel b}

/-- From `s` to `s'` the switch has called other modules, and sent no message. -/
def Calls (s s' : Panel b) : Prop :=
  ∃ new : List NetOut, s'.dev = s.dev.onEnv (fun x => { x with out := x.out ++ new }) ∧
    ∀ o ∈ new, o.isCmd = false

namespace Calls

theorem of_dev (h : s'.dev = s.dev) : Calls s s' := by
  refine ⟨[], ?_, fun o ho => absurd ho List.not_mem_nil⟩
  rw [h, Device.onEnv]
  simp only [List.append_nil]

theorem send (s : Panel b) {o : NetOut} (h : o.isCmd = false) : Calls s (s.send o) :=
  ⟨[o], rfl, fun _ ho => List.mem_singleton.mp ho ▸ h⟩

theorem trans (h : Calls s s') (h' : Calls s' s'') : Calls s s'' := by
  obtain ⟨new, hdev, hnew⟩ := h
  obtain ⟨new', hdev', hnew'⟩ := h'
  refine ⟨new ++ new', ?_, fun o ho => ?_⟩
  · rw [hdev', hdev]
    simp only [Device.onEnv, List.append_assoc]
  · exact (List.mem_append.mp ho).elim (hnew o) (hnew' o)

/-- Calls command no relay. -/
theorem onlyAt (h : Calls s s') (c : b.Chn) : Device.OnlyAt c s.dev s'.dev := by
  obtain ⟨new, hdev, hnew⟩ := h
  have hnone : new.filter NetOut.isCmd = [] := by
    refine List.filter_eq_nil_iff.mpr fun o ho => ?_
    rw [hnew o ho]
    exact Bool.false_ne_true
  rw [hdev]
  refine .of_same c ⟨rfl, rfl, rfl, rfl, rfl, ?_⟩ rfl rfl
  show (s.dev.env.out ++ new).filter NetOut.isCmd = s.dev.env.out.filter NetOut.isCmd
  rw [List.filter_append, hnone, List.append_nil]

end Calls

theorem calls_handleConfigBtn (s : Panel b) (i other : b.Btn) (evt : ButtonState) :
    Calls s (s.handleConfigBtn i other evt) := by
  unfold handleConfigBtn
  cases evt with
  | pressOneTime =>
    dsimp only
    split
    · split
      · refine .trans ?_ (.send _ rfl)
        exact .of_dev rfl
      · exact .of_dev rfl
    · exact .of_dev rfl
  | _ => exact .of_dev rfl

theorem calls_handleDefaultBtn (s : Panel b) (i other : b.Btn) (evt : ButtonState) :
    Calls s (s.handleDefaultBtn i other evt) := by
  unfold handleDefaultBtn
  cases evt with
  | pressFiveTime =>
    dsimp only
    split
    · split
      · refine .trans (.trans ?_ (.send _ rfl)) (.send _ rfl)
        exact .of_dev rfl
      · exact .of_dev rfl
    · exact .of_dev rfl
  | _ => exact .of_dev rfl

theorem calls_buttonHandleSpecialEvent (s : Panel b) (i : b.Btn) (evt : ButtonState) :
    Calls s (s.buttonHandleSpecialEvent i evt) := by
  unfold buttonHandleSpecialEvent
  dsimp only
  generalize hs₁ : (if i = Board.buttonScene0Idx then _ else _) = s₁
  have h₁ : Calls s s₁ := by
    rw [← hs₁]
    split
    · exact s.calls_handleConfigBtn i _ evt
    · split
      · exact s.calls_handleConfigBtn i _ evt
      · exact .of_dev rfl
  refine h₁.trans ?_
  split
  · exact s₁.calls_handleDefaultBtn i _ evt
  · split
    · exact s₁.calls_handleDefaultBtn i _ evt
    · exact .of_dev rfl

theorem calls_swConfigEnableAutoSend (s : Panel b) : Calls s s.swConfigEnableAutoSend := by
  rw [swConfigEnableAutoSend]
  split <;> exact .of_dev rfl

/-- An event of relay `c`'s button in toggle or momentary mode. -/
theorem onlyAt_relayBtnEvent (s : Panel b) (i : b.Btn) (c : b.Chn) (mode : SwitchMode)
    (evt : ButtonState) : Device.OnlyAt c s.dev (s.relayBtnEvent i c mode evt).dev := by
  unfold relayBtnEvent
  cases evt with
  | startPress =>
    dsimp only
    split
    · exact s.dev.onlyAt_toggleState c .device
    · split
      · exact s.dev.onlyAt_setTargetState c gOn .device true
      · exact .refl c s.dev
  | pressTenTime =>
    dsimp only
    split
    · exact (s.calls_swConfigEnableAutoSend.trans (.send _ rfl)).onlyAt c
    · exact .refl c s.dev
  | release =>
    dsimp only
    split
    · exact s.dev.onlyAt_setTargetState c gOff .device true
    · exact .refl c s.dev
  | _ => exact .refl c s.dev

/-- The handlers of a relay's button that is not in lighting mode: beside what they call, its
own event is handled or nothing is. -/
theorem btn_cases (s : Panel b) (c : b.Chn) (evt : ButtonState)
    (hmode : s.dev.sh.switchMode c ≠ .lighting) :
    Calls s (s.step (.btn (Board.relayEle c) evt)) ∨
      Calls (s.relayBtnEvent (Board.relayEle c) c (s.dev.sh.switchMode c) evt)
        (s.step (.btn (Board.relayEle c) evt)) := by
  have hrelay : ¬ (Board.relayEle c).val < Board.numberScene := by
    rw [← Board.relayIdx_eq_none_iff, Board.relayIdx_relayEle]
    exact Option.some_ne_none c
  have hfunction : s.buttonHandleFunction (Board.relayEle c) evt = s ∨
      s.buttonHandleFunction (Board.relayEle c) evt =
        s.relayBtnEvent (Board.relayEle c) c (s.dev.sh.switchMode c) evt := by
    rw [buttonHandleFunction, if_neg hrelay]
    split
    · rw [buttonHandleRelayBtnState]
      split
      · exact Or.inl rfl
      · rw [Board.relayIdx_relayEle]
        dsimp only
        split
        · exact Or.inl rfl
        · exact Or.inr rfl
    · exact Or.inl rfl
  have hoption : ∀ s1, s.buttonHandleFunction (Board.relayEle c) evt = s1 →
      s.dev.sh.factActive = false → Calls s1 (s.step (.btn (Board.relayEle c) evt)) := by
    rintro _ rfl hfact
    have hspecial := (s.buttonHandleFunction (Board.relayEle c) evt).calls_buttonHandleSpecialEvent
      (Board.relayEle c) evt
    show Calls _ (s.buttonHandleOptionBtnState (Board.relayEle c) evt)
    unfold buttonHandleOptionBtnState
    dsimp only
    rw [hfact, if_neg Bool.false_ne_true]
    exact hspecial.trans (.of_dev rfl)
  cases hfact : s.dev.sh.factActive with
  | false => exact hfunction.imp (fun h => hoption s h hfact) fun h => hoption _ h hfact
  | true =>
    left
    show Calls s (s.buttonHandleOptionBtnState (Board.relayEle c) evt)
    unfold buttonHandleOptionBtnState
    dsimp only
    rw [hfact, if_pos rfl]
    exact .of_dev rfl

/-- **Spec** of an event of relay `c`'s button. -/
theorem onlyAt_btn (s : Panel b) (c : b.Chn) (evt : ButtonState)
    (hmode : s.dev.sh.switchMode c ≠ .lighting) :
    Device.OnlyAt c s.dev (s.step (.btn (Board.relayEle c) evt)).dev := by
  rcases s.btn_cases c evt hmode with hcalls | hcalls
  · exact hcalls.onlyAt c
  · exact (s.onlyAt_relayBtnEvent _ c _ evt).trans (hcalls.onlyAt c)

/-- An event that is neither a press nor the release of a momentary button commands
nothing. -/
theorem calls_btn (s : Panel b) (c : b.Chn) {evt : ButtonState}
    (hmode : s.dev.sh.switchMode c ≠ .lighting) (hpress : evt ≠ .startPress)
    (hrelease : evt = .release → s.dev.sh.switchMode c ≠ .momentary) :
    Calls s (s.step (.btn (Board.relayEle c) evt)) := by
  have hevent : Calls s (s.relayBtnEvent (Board.relayEle c) c (s.dev.sh.switchMode c) evt) := by
    unfold relayBtnEvent
    cases evt with
    | startPress => exact absurd rfl hpress
    | pressTenTime =>
      dsimp only
      split
      · exact s.calls_swConfigEnableAutoSend.trans (.send _ rfl)
      · exact .of_dev rfl
    | release =>
      dsimp only
      rw [if_neg (hrelease rfl)]
      exact .of_dev rfl
    | _ => exact .of_dev rfl
  rcases s.btn_cases c evt hmode with hcalls | hcalls
  · exact hcalls
  · exact hevent.trans hcalls

end Panel

end LumesSwitch
