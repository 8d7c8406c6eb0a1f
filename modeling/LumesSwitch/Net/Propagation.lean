import LumesSwitch.Button.Panel
import LumesSwitch.Net.Commands

/-!
# Passing a state change on to the group (`net_message.c`, `sw_binding.c`)

A relay that is bound to a group takes the other members along: the relays of the same
device by commands, the other devices by one message.

- `NetState.bindingEnable`, `NetState.bindingDisable` — the binding of an element;
- `Device.Sends`, `Device.Accepts` — when a change is sent on, and when another relay
  of the device takes the command;
- `Device.handle_spec` — what `net_message_handle_state_change` sends and commands;
- `propagates_iff` — a run passes on what it should exactly if these hold.
-/

namespace LumesSwitch

open Flags Runs Words

/-! ## The binding of an element -/

/-- `BINDING_SUCCESS`, `GROUP_NOT_SET` -/
def bindingSuccess : UInt8 := 0
def groupNotSet : UInt8 := 1

namespace NetState

variable {b : Board}

/-- `binding_enable`, with its answer. The group has to be one of the element's own. -/
def bindingEnable (x : NetState b) (m : b.Btn) (groupAdr : UInt16) : NetState b × UInt8 :=
  if (x.onoffSubList m).any fun a => a ≠ adrUnassigned ∧ a ≠ adrAllNodes ∧ groupAdr = a then
    ({ x with bindingParaSt := Function.update x.bindingParaSt m ⟨true, groupAdr⟩ },
      bindingSuccess)
  else (x, groupNotSet)

/-- `binding_disable` -/
def bindingDisable (x : NetState b) (m : b.Btn) : NetState b :=
  { x with
    bindingParaSt := Function.update x.bindingParaSt m { x.bindingParaSt m with en := false } }

end NetState

/-! ## Binding messages -/

/-- A message of the mesh. -/
def NetOut.isCmd : NetOut → Bool
  | .cmd .. => true
  | _ => false

/-- A message of the element at `src` to group `adr` that carries the state `st`: an
on/off message, a lightness message for ON, or one of them for the switches only. -/
def NetOut.IsBinding (src adr : UInt16) (st : UInt8) : NetOut → Prop
  | .cmd op par src' dst =>
    src' = src ∧ dst = adr ∧
      ((op = gOnoffSetNoack ∧ ∃ rest, par = st :: rest) ∨
        (op = vdBindingControlLocally ∧ ∃ rest, par = typeCtlOnOff :: st :: rest) ∨
        st = gOn ∧ ∃ v rest, dimmingLightnessMin ≤ v ∧
          ((op = lightnessSetNoack ∧ par = u16Bytes v ++ rest) ∨
            op = vdBindingControlLocally ∧ par = typeCtlLightness :: u16Bytes v ++ rest))
  | _ => False

namespace Device

variable {b : Board}

/-- The messages sent so far. -/
def cmds (s : NetDevice b) : List NetOut := s.env.out.filter NetOut.isCmd

/-- Element `relayEle c` is another one than `m`, and bound to the group `adr`. -/
def IsSibling (s : NetDevice b) (m : b.Btn) (adr : UInt16) (c : b.Chn) : Prop :=
  Board.relayEle c ≠ m ∧ s.env.getGroupBindingAdr (Board.relayEle c) = adr

instance (s : NetDevice b) (m : b.Btn) (adr : UInt16) (c : b.Chn) :
    Decidable (s.IsSibling m adr c) := inferInstanceAs (Decidable (_ ∧ _))

/-- The change of element `m` to `st` is sent to its group `adr`: the last command was not
the group's, and either the group is not known to have the state and the command was
not for all nodes, or the message is forced. -/
def Sends (s : NetDevice b) (m : b.Btn) (adr : UInt16) (st : UInt8) : Prop :=
  (s.sh.nwkControlMsgPara m).dst ≠ adr ∧
    ((s.env.stateOfGroupBinding m ≠ st ∧ (s.sh.nwkControlMsgPara m).dst < adrAllProxy) ∨
      s.env.forceControlBinding m = true)

instance (s : NetDevice b) (m : b.Btn) (adr : UInt16) (st : UInt8) :
    Decidable (s.Sends m adr st) := inferInstanceAs (Decidable (_ ∧ _))

/-- The destination that the command of sibling `c` is checked with: that of the element
whose number is the channel's. It is the group's if that element belongs to a
sibling, which was commanded before. -/
def siblingDst (s : NetDevice b) (m : b.Btn) (adr : UInt16) (c : b.Chn) : UInt16 :=
  if ∃ c' : b.Chn, Board.relayEle c' = Board.eleOfChn c ∧ s.IsSibling m adr c' then adr
  else (s.sh.nwkControlMsgPara (Board.eleOfChn c)).dst

/-- Sibling `c` takes the command. -/
def Accepts (s : NetDevice b) (m : b.Btn) (adr : UInt16) (c : b.Chn) : Prop :=
  s.checkEnControl (Board.eleOfChn c) (s.siblingDst m adr c) = true ∨
    s.env.sceneActiveArr (Board.eleOfChn c) = true

instance (s : NetDevice b) (m : b.Btn) (adr : UInt16) (c : b.Chn) :
    Decidable (s.Accepts m adr c) := inferInstanceAs (Decidable (_ ∨ _))

/-! ## The loop over the siblings -/

theorem cmds_send (s : NetDevice b) {o : NetOut} (h : o.isCmd = false) :
    (s.send o).cmds = s.cmds := by
  show (s.env.out ++ [o]).filter NetOut.isCmd = s.env.out.filter NetOut.isCmd
  rw [List.filter_append, List.filter_singleton, h]
  exact List.append_nil _

/-- The check of a command uses the modes only. -/
theorem checkEnControl_congr {s s' : NetDevice b} (hmode : s'.sh.switchMode = s.sh.switchMode)
    (hout : s'.env.swOutside = s.env.swOutside) (e : b.Btn) (dst : UInt16) :
    s'.checkEnControl e dst = s.checkEnControl e dst := by
  unfold checkEnControl swConfigGetSwMode switchModeAt
  rw [hmode, hout]

/-- What a command for another relay leaves alone. -/
structure EnvKept (s s' : NetDevice b) : Prop where
  binding : s'.env.bindingParaSt = s.env.bindingParaSt
  subs : s'.env.onoffSubList = s.env.onoffSubList
  outside : s'.env.swOutside = s.env.swOutside
  mode : s'.sh.switchMode = s.sh.switchMode
  adr : s'.sh.eleAdrPrimary = s.sh.eleAdrPrimary
  cmds : s'.cmds = s.cmds

namespace EnvKept

variable {s s' s'' : NetDevice b}

theorem refl (s : NetDevice b) : EnvKept s s := ⟨rfl, rfl, rfl, rfl, rfl, rfl⟩

theorem trans (h : EnvKept s s') (h' : EnvKept s' s'') : EnvKept s s'' :=
  ⟨h'.binding.trans h.binding, h'.subs.trans h.subs, h'.outside.trans h.outside,
    h'.mode.trans h.mode, h'.adr.trans h.adr, h'.cmds.trans h.cmds⟩

theorem of_env (henv : s'.env = s.env) (hsh : s'.sh = s.sh) : EnvKept s s' := by
  refine ⟨?_, ?_, ?_, by rw [hsh], by rw [hsh], ?_⟩
  · rw [henv]
  · rw [henv]
  · rw [henv]
  · unfold Device.cmds
    rw [henv]

/-- The group of an element is kept. -/
theorem group (h : EnvKept s s') (m : b.Btn) :
    s'.env.getGroupBindingAdr m = s.env.getGroupBindingAdr m := by
  unfold NetState.getGroupBindingAdr
  rw [h.binding, h.subs]

theorem sibling (h : EnvKept s s') (m : b.Btn) (adr : UInt16) (c : b.Chn) :
    s'.IsSibling m adr c ↔ s.IsSibling m adr c := by
  unfold IsSibling
  rw [h.group]

end EnvKept

/-- A status report is no message yet, and commands nothing. -/
theorem publishStatus_spec (s : NetDevice b) (m : b.Btn) :
    EnvKept s (s.publishStatus m) ∧ (s.publishStatus m).sh = s.sh ∧
      (s.publishStatus m).env.sceneActiveArr = s.env.sceneActiveArr ∧
      (s.publishStatus m).trace = s.trace := by
  rw [publishStatus]
  dsimp only
  split
  · exact ⟨⟨rfl, rfl, rfl, rfl, rfl, cmds_send s.dropRand rfl⟩, rfl, rfl, rfl⟩
  · exact ⟨⟨rfl, rfl, rfl, rfl, rfl, s.cmds_send rfl⟩, rfl, rfl, rfl⟩

/-- A command from the network does not touch what is shared. -/
theorem sh_netState (s : NetDevice b) (c : b.Chn) (st : Bool) : (s.netState c st).sh = s.sh := by
  have hrecord : ∀ cmd, (s.record c cmd).sh = s.sh := by
    intro cmd
    rw [record]
    split <;> rfl
  have hdelay : ∀ (p : Prop) [Decidable p] (s : NetDevice b),
      (if p then s.setupStoreStateDelay else s).sh = s.sh := by
    intro p _ s
    split <;> rfl
  unfold netState
  dsimp only
  split
  · exact hrecord _
  · rw [writeSet, dif_pos c.isLt]
    dsimp only
    rw [if_neg (by decide)]
    exact (hdelay _ _).trans (hrecord _)

/-- An accepted command is on record. -/
theorem trace_netState (s : NetDevice b) (c : b.Chn) (st : Bool) :
    (s.netState c st).trace =
      s.trace ++ [⟨c, .net st, isOn s.relay.rlsTarget c, isOn s.relay.rlsSet c⟩] := by
  have htrace := congrArg RelayCore.trace (s.core_netState c st)
  exact htrace.trans (s.core.command_trace c (.net st))

/-- **Spec** of a command for relay `c`: it is accepted or refused by the flags of the
element whose number is the channel's. -/
theorem sendControl_spec (s : NetDevice b) (c : b.Chn) (on : Bool) :
    EnvKept s (s.sendControlDevManualToMcu (Board.relayEle c) on true) ∧
      (s.sendControlDevManualToMcu (Board.relayEle c) on true).sh = s.sh ∧
      (∀ i, i ≠ Board.eleOfChn c →
        (s.sendControlDevManualToMcu (Board.relayEle c) on true).env.sceneActiveArr i =
          s.env.sceneActiveArr i) ∧
      ∃ new, (s.sendControlDevManualToMcu (Board.relayEle c) on true).trace = s.trace ++ new ∧
        (∀ e ∈ new, e.chn = c ∧ e.cmd = .net on) ∧
        (new ≠ [] ↔
          s.checkEnControl (Board.eleOfChn c) (s.sh.nwkControlMsgPara (Board.eleOfChn c)).dst =
              true ∨
            s.env.sceneActiveArr (Board.eleOfChn c) = true) := by
  unfold sendControlDevManualToMcu
  rw [Board.relayIdx_relayEle]
  dsimp only
  split
  · next haccept =>
    -- the scene flag, the answer to a command for the same state, the command
    generalize hs1 : s.onEnv _ = s1
    have h1 : EnvKept s s1 ∧ s1.sh = s.sh ∧
        (∀ i, i ≠ Board.eleOfChn c → s1.env.sceneActiveArr i = s.env.sceneActiveArr i) ∧
        s1.trace = s.trace := by
      rw [← hs1]
      exact ⟨⟨rfl, rfl, rfl, rfl, rfl, rfl⟩, rfl, fun i hi => Function.update_of_ne hi .., rfl⟩
    generalize hs2 : (if isOn s1.relay.rlsTarget c = on then _ else s1) = s2
    have h2 : EnvKept s1 s2 ∧ s2.sh = s1.sh ∧ s2.env.sceneActiveArr = s1.env.sceneActiveArr ∧
        s2.trace = s1.trace := by
      rw [← hs2]
      split
      · exact s1.publishStatus_spec _
      · exact ⟨.refl s1, rfl, rfl, rfl⟩
    obtain ⟨hkept1, hsh1, hscene1, htrace1⟩ := h1
    obtain ⟨hkept2, hsh2, hscene2, htrace2⟩ := h2
    have hkept3 : EnvKept s2 (s2.netState c on) := .of_env (env_netState ..) (s2.sh_netState c on)
    have hset : EnvKept (s2.netState c on) ((s2.netState c on).onEnv fun x =>
        { x with
          incommingSt :=
            Function.update x.incommingSt (Board.relayEle c) (if on then gOn else gOff) }) :=
      ⟨rfl, rfl, rfl, rfl, rfl, rfl⟩
    refine ⟨((hkept1.trans hkept2).trans hkept3).trans hset, ?_, ?_, ?_⟩
    · exact ((s2.sh_netState c on).trans hsh2).trans hsh1
    · intro i hi
      show (s2.netState c on).env.sceneActiveArr i = _
      rw [env_netState, hscene2, hscene1 i hi]
    · refine ⟨_, (s2.trace_netState c on).trans (by rw [htrace2, htrace1]), ?_, ?_⟩
      · intro e he
        rw [List.mem_singleton.mp he]
        exact ⟨rfl, rfl⟩
      · exact iff_of_true (List.cons_ne_nil _ _) haccept
  · next hrefuse =>
    refine ⟨.refl s, rfl, fun _ _ => rfl, [], (List.append_nil _).symm, ?_, ?_⟩
    · intro e he
      exact absurd he List.not_mem_nil
    · exact iff_of_false (fun h => h rfl) hrefuse

/-- New parameters of the last control message of element `m`. -/
theorem update_spec (s : NetDevice b) (m : b.Btn) (src dst op : UInt16) :
    EnvKept s (s.updateControlMessageParams m src dst op) ∧
      (s.updateControlMessageParams m src dst op).sh.nwkControlMsgPara =
        Function.update s.sh.nwkControlMsgPara m ⟨src, dst, op⟩ ∧
      (s.updateControlMessageParams m src dst op).env.sceneActiveArr = s.env.sceneActiveArr ∧
      (s.updateControlMessageParams m src dst op).trace = s.trace := by
  rw [updateControlMessageParams, dif_pos m.isLt]
  exact ⟨⟨rfl, rfl, rfl, rfl, rfl, rfl⟩, rfl, rfl, rfl⟩

/-- What the loop has done behind the first `k` relays. -/
structure LoopInv (s : NetDevice b) (m : b.Btn) (adr : UInt16) (on : Bool) (k : Nat)
    (s' : NetDevice b) : Prop where
  kept : EnvKept s s'
  dst : ∀ e, (s'.sh.nwkControlMsgPara e).dst =
    if ∃ c : b.Chn, c.val < k ∧ Board.relayEle c = e ∧ s.IsSibling m adr c then adr
    else (s.sh.nwkControlMsgPara e).dst
  scene : ∀ c : b.Chn, k ≤ c.val →
    s'.env.sceneActiveArr (Board.eleOfChn c) = s.env.sceneActiveArr (Board.eleOfChn c)
  trace : ∃ new, s'.trace = s.trace ++ new ∧ (∀ e ∈ new, e.chn.val < k ∧ e.cmd = .net on) ∧
    ∀ c : b.Chn, c.val < k → s.IsSibling m adr c →
      ((∃ e ∈ new, e.chn = c) ↔ s.Accepts m adr c)

/-- Behind another relay's body, the loop has got one relay further. -/
theorem LoopInv.skip {s s' : NetDevice b} {m : b.Btn} {adr : UInt16} {on : Bool} {c : b.Chn}
    (h : LoopInv s m adr on c.val s') (hc : ¬ s.IsSibling m adr c) :
    LoopInv s m adr on (c.val + 1) s' := by
  have hlt : ∀ {c' : b.Chn}, c'.val < c.val + 1 → s.IsSibling m adr c' → c'.val < c.val := by
    intro c' hle hsib
    refine Nat.lt_of_le_of_ne (Nat.le_of_lt_succ hle) fun heq => ?_
    obtain rfl : c' = c := Fin.ext heq
    exact hc hsib
  obtain ⟨new, htrace, hnew, hacc⟩ := h.trace
  refine ⟨h.kept, fun e => ?_, fun c' hc' => h.scene c' (Nat.le_of_succ_le hc'), new, htrace,
    fun e he => ⟨Nat.lt_succ_of_lt (hnew e he).1, (hnew e he).2⟩,
    fun c' hc' hsib => hacc c' (hlt hc' hsib) hsib⟩
  rw [h.dst e]
  refine if_congr (exists_congr fun c' => ?_) rfl rfl
  exact ⟨fun ⟨hc', hrest⟩ => ⟨Nat.lt_succ_of_lt hc', hrest⟩,
    fun ⟨hc', hele, hsib⟩ => ⟨hlt hc' hsib, hele, hsib⟩⟩

/-- A relay's number is not its element's. -/
theorem relayEle_ne_eleOfChn (c : b.Chn) : Board.relayEle c ≠ Board.eleOfChn c := by
  intro h
  have hval : c.val + 2 = c.val := congrArg Fin.val h
  omega

/-- **Step lemma** for the loop: a sibling is commanded. -/
theorem LoopInv.command {s s' : NetDevice b} {m : b.Btn} {adr : UInt16} {status : UInt8}
    {c : b.Chn} (h : LoopInv s m adr (status = gOn) c.val s') (hadr : adr ≠ adrUnassigned)
    (hc : s.IsSibling m adr c) :
    LoopInv s m adr (status = gOn) (c.val + 1) (bindSibling m adr status s' c) := by
  have hsib := (h.kept.sibling m adr c).mpr hc
  have hcond : Board.relayEle c ≠ m ∧
      s'.env.getGroupBindingAdr (Board.relayEle c) ≠ adrUnassigned ∧
      s'.env.getGroupBindingAdr (Board.relayEle c) = adr :=
    ⟨hsib.1, by rw [hsib.2]; exact hadr, hsib.2⟩
  obtain ⟨hkept1, hnwk, hscene1, htrace1⟩ := 
    s'.update_spec (Board.relayEle c) (s'.eleAdr m) adr gOnoffSet
  generalize hs1 : s'.updateControlMessageParams (Board.relayEle c) (s'.eleAdr m) adr gOnoffSet = s1
    at *
  obtain ⟨hkept2, hsh2, hscene2, entry, htrace2, hentry, haccept⟩ :=
    s1.sendControl_spec c (status = gOn)
  rw [bindSibling, if_pos hcond, hs1]
  dsimp only
  generalize s1.sendControlDevManualToMcu (Board.relayEle c) (status = gOn) true = s2 at *
  have hset : EnvKept s2 (s2.onEnv fun x => { x with
      stateOfGroupBinding := Function.update x.stateOfGroupBinding (Board.relayEle c) status }) :=
    ⟨rfl, rfl, rfl, rfl, rfl, rfl⟩
  have hkept := (((h.kept.trans hkept1).trans hkept2).trans hset)
  -- the check sees the destination that the sibling before it has been given
  have hchecked : s1.checkEnControl (Board.eleOfChn c)
        (s1.sh.nwkControlMsgPara (Board.eleOfChn c)).dst = true ∨
      s1.env.sceneActiveArr (Board.eleOfChn c) = true ↔ s.Accepts m adr c := by
    have hkept' := h.kept.trans hkept1
    rw [Accepts, checkEnControl_congr hkept'.mode hkept'.outside, hscene1,
      h.scene c (Nat.le_refl _), hnwk, Function.update_of_ne (relayEle_ne_eleOfChn c).symm, h.dst,
      siblingDst]
    refine or_congr (Eq.congr_left (congrArg _ (if_congr (exists_congr fun c' => ?_) rfl rfl)))
      Iff.rfl
    constructor
    · rintro ⟨-, hele, hsib'⟩
      exact ⟨hele, hsib'⟩
    · rintro ⟨hele, hsib'⟩
      have hval : c'.val + 2 = c.val := congrArg Fin.val hele
      exact ⟨by omega, hele, hsib'⟩
  refine ⟨hkept, fun e => ?_, fun c' hc' => ?_, ?_⟩
  · show (s2.sh.nwkControlMsgPara e).dst = _
    rw [hsh2, hnwk]
    by_cases he : e = Board.relayEle c
    · rw [he, Function.update_self, if_pos ⟨c, Nat.lt_succ_self _, rfl, hc⟩]
    · rw [Function.update_of_ne he, h.dst e]
      refine if_congr (exists_congr fun c' => ?_) rfl rfl
      constructor
      · rintro ⟨hlt, hele, hsib'⟩
        exact ⟨Nat.lt_succ_of_lt hlt, hele, hsib'⟩
      · rintro ⟨hlt, hele, hsib'⟩
        refine ⟨Nat.lt_of_le_of_ne (Nat.le_of_lt_succ hlt) fun heq => ?_, hele, hsib'⟩
        obtain rfl : c' = c := Fin.ext heq
        exact he hele.symm
  · have hne : Board.eleOfChn c' ≠ Board.eleOfChn c := by
      intro heq
      have hval := congrArg Fin.val heq
      change c'.val = c.val at hval
      omega
    show s2.env.sceneActiveArr (Board.eleOfChn c') = _
    rw [hscene2 _ hne, hscene1]
    exact h.scene c' (Nat.le_of_succ_le hc')
  · obtain ⟨new, htrace, hnew, hacc⟩ := h.trace
    refine ⟨new ++ entry, ?_, ?_, fun c' hc' hsib' => ?_⟩
    · show s2.trace = _
      rw [htrace2, htrace1, htrace, List.append_assoc]
    · intro e he
      rcases List.mem_append.mp he with he | he
      · exact ⟨Nat.lt_succ_of_lt (hnew e he).1, (hnew e he).2⟩
      · obtain ⟨hchn, hcmd⟩ := hentry e he
        exact ⟨by rw [hchn]; exact Nat.lt_succ_self _, hcmd⟩
    · by_cases heq : c' = c
      · subst heq
        rw [← hchecked, ← haccept]
        constructor
        · rintro ⟨e, he, hchn⟩
          rcases List.mem_append.mp he with he | he
          · have hlt := (hnew e he).1
            rw [hchn] at hlt
            exact absurd hlt (Nat.lt_irrefl _)
          · exact List.ne_nil_of_mem he
        · intro hne
          obtain ⟨e, he⟩ := List.exists_mem_of_ne_nil entry hne
          exact ⟨e, List.mem_append_right new he, (hentry e he).1⟩
      · have hlt : c'.val < c.val :=
          Nat.lt_of_le_of_ne (Nat.le_of_lt_succ hc') fun h => heq (Fin.ext h)
        rw [← hacc c' hlt hsib']
        constructor
        · rintro ⟨e, he, hchn⟩
          rcases List.mem_append.mp he with he | he
          · exact ⟨e, he, hchn⟩
          · exact absurd (hchn.symm.trans (hentry e he).1) heq
        · rintro ⟨e, he, hchn⟩
          exact ⟨e, List.mem_append_left entry he, hchn⟩

/-- **Loop lemma**: exactly the siblings that accept are commanded. -/
theorem loopInv_bindSiblings (s : NetDevice b) (m : b.Btn) {adr : UInt16}
    (hadr : adr ≠ adrUnassigned) (status : UInt8) :
    LoopInv s m adr (status = gOn) b.numberRl (runFrom (bindSibling m adr status) s b.chns) := by
  refine runFrom_finRange (I := fun k s' => LoopInv s m adr (status = gOn) k s')
    (fun s' c h => ?_) ?_
  · by_cases hc : s.IsSibling m adr c
    · exact h.command hadr hc
    · have hcond : ¬ (Board.relayEle c ≠ m ∧
          s'.env.getGroupBindingAdr (Board.relayEle c) ≠ adrUnassigned ∧
          s'.env.getGroupBindingAdr (Board.relayEle c) = adr) := by
        rintro ⟨hne, -, hgroup⟩
        exact hc ((h.kept.sibling m adr c).mp ⟨hne, hgroup⟩)
      rw [bindSibling, if_neg hcond]
      exact h.skip hc
  · refine ⟨.refl s, fun e => ?_, fun _ _ => rfl, [], (List.append_nil _).symm, ?_, ?_⟩
    · rw [if_neg]
      rintro ⟨c, hc, -⟩
      exact Nat.not_lt_zero _ hc
    · intro e he
      exact absurd he List.not_mem_nil
    · intro c hc
      exact absurd hc (Nat.not_lt_zero _)

/-! ## A state change -/

/-- A message to the group is one message. -/
theorem sendToGroup_spec (s : NetDevice b) (m : b.Btn) (adr op : UInt16) (type : UInt8)
    (par : List UInt8) :
    (s.sendToGroup m adr op type par).trace = s.trace ∧
      ((s.sendToGroup m adr op type par).cmds =
          s.cmds ++ [.cmd vdBindingControlLocally (type :: par) (s.eleAdr m) adr] ∨
        (s.sendToGroup m adr op type par).cmds = s.cmds ++ [.cmd op par (s.eleAdr m) adr]) := by
  rw [sendToGroup]
  split
  · exact ⟨rfl, Or.inl (List.filter_append ..)⟩
  · exact ⟨rfl, Or.inr (List.filter_append ..)⟩

/-- The message of a state change carries it. -/
theorem sendBinding_spec (s : NetDevice b) (m : b.Btn) (adr : UInt16) (status : UInt8) :
    (s.sendBinding m adr status).trace = s.trace ∧
      ∃ o, (s.sendBinding m adr status).cmds = s.cmds ++ [o] ∧
        o.IsBinding (s.eleAdr m) adr status := by
  have honOff : ∀ (s' : NetDevice b) rest, s'.trace = s.trace → s'.cmds = s.cmds →
      s'.eleAdr m = s.eleAdr m →
      (s'.sendToGroup m adr gOnoffSetNoack typeCtlOnOff (status :: rest)).trace = s.trace ∧
        ∃ o, (s'.sendToGroup m adr gOnoffSetNoack typeCtlOnOff (status :: rest)).cmds =
            s.cmds ++ [o] ∧ o.IsBinding (s.eleAdr m) adr status := by
    intro s' rest htrace hcmds hadr
    obtain ⟨htrace', hmsg⟩ := s'.sendToGroup_spec m adr gOnoffSetNoack typeCtlOnOff (status :: rest)
    rw [hcmds, hadr] at hmsg
    refine ⟨htrace'.trans htrace, ?_⟩
    rcases hmsg with hmsg | hmsg
    · exact ⟨_, hmsg, rfl, rfl, Or.inr (Or.inl ⟨rfl, rest, rfl⟩)⟩
    · exact ⟨_, hmsg, rfl, rfl, Or.inl ⟨rfl, rest, rfl⟩⟩
  rw [sendBinding]
  dsimp only
  split
  · next hlight =>
    obtain ⟨hon, -, hmod⟩ := hlight
    have hmin : dimmingLightnessMin ≤ (s.env.dimmingConfig m).onValue := by
      rw [NetState.dimmingModLightness] at hmod
      exact (of_decide_eq_true hmod).2.2
    obtain ⟨htrace, hmsg⟩ := s.sendToGroup_spec m adr lightnessSetNoack typeCtlLightness
      (u16Bytes (s.env.dimmingConfig m).onValue ++
        [0, UInt8.ofNat ((s.env.dimmingConfig m).onValue.toNat * 0x0A / 0xFFFF), 0])
    refine ⟨htrace, ?_⟩
    rcases hmsg with hmsg | hmsg
    · exact ⟨_, hmsg, rfl, rfl, Or.inr (Or.inr ⟨hon, _, _, hmin, Or.inr ⟨rfl, rfl⟩⟩)⟩
    · exact ⟨_, hmsg, rfl, rfl, Or.inr (Or.inr ⟨hon, _, _, hmin, Or.inl ⟨rfl, rfl⟩⟩)⟩
  · split
    · exact honOff _ _ rfl rfl rfl
    · exact honOff _ _ rfl rfl rfl

/-- The report of a state change to the gateway is no message to the group. -/
theorem reportState_spec (s : NetDevice b) (c : b.Chn) (m : b.Btn) (status : UInt8) :
    (s.reportState c m status).cmds = s.cmds ∧ (s.reportState c m status).trace = s.trace := by
  have hsend : ∀ (s' : NetDevice b) {o}, o.isCmd = false → s'.cmds = s.cmds →
      (s'.send o).cmds = s.cmds := fun s' _ ho hs' => (s'.cmds_send ho).trans hs'
  rw [reportState]
  dsimp only
  split
  · split
    · refine ⟨hsend _ (o := .energyRelayStateChange c status true) rfl ?_, rfl⟩
      exact hsend s rfl rfl
    · refine ⟨hsend _ (o := .energyRelayStateChange c status true) rfl ?_, rfl⟩
      exact hsend s rfl rfl
  · obtain ⟨hkept, -, -, htrace⟩ := s.publishStatus_spec m
    have hcmds := hsend _ (o := .energyRelayStateChange c status false) rfl hkept.cmds
    generalize hs1 : (s.publishStatus m).send _ = s1 at hcmds
    have htrace1 : s1.trace = s.trace := by
      rw [← hs1]
      exact htrace
    obtain ⟨hkept', -, -, htrace'⟩ := s1.update_spec m (s1.sh.nwkControlMsgPara m).src
      (s1.eleAdr m) (s1.sh.nwkControlMsgPara m).opcode
    exact ⟨hkept'.cmds.trans hcmds, htrace'.trans htrace1⟩

/-- What a sent change has done: one message, and a command for each sibling that accepts. -/
def PassesOn (s s' : NetDevice b) (m : b.Btn) (adr : UInt16) (status : UInt8) : Prop :=
  (∃ o, s'.cmds = s.cmds ++ [o] ∧ o.IsBinding (s.eleAdr m) adr status) ∧
    ∃ new, s'.trace = s.trace ++ new ∧
      ∀ c, s.IsSibling m adr c → ∃ e ∈ new, e.chn = c ∧ e.cmd = .net (status = gOn)

/-- **Spec** of the message part of a state change, where the group state is known. -/
theorem sendOnOffControl_iff (s : NetDevice b) (m : b.Btn) {adr : UInt16} (status : UInt8)
    (hgroup : s.env.getGroupBindingAdr m = adr) (hadr : adr ≠ adrUnassigned)
    (hknown : s.env.stateOfGroupBinding m ≠ subUnknown) :
    PassesOn s (s.sendOnOffControlToBleGroup m status) m adr status ↔
      s.Sends m adr status ∧ ∀ c, s.IsSibling m adr c → s.Accepts m adr c := by
  have hquiet : ∀ s' : NetDevice b, s'.cmds = s.cmds → ¬ PassesOn s s' m adr status := by
    rintro s' hcmds ⟨⟨o, hmsg, -⟩, -⟩
    have hlen := congrArg List.length (hcmds.symm.trans hmsg)
    rw [List.length_append, List.length_singleton] at hlen
    omega
  rw [sendOnOffControlToBleGroup]
  dsimp only
  rw [hgroup, if_neg hadr]
  generalize hs1 : (if (s.sh.nwkControlMsgPara m).dst = adr then _ else s) = s1
  have h1 : s1.sh = s.sh ∧ s1.cmds = s.cmds ∧
      s1.env.stateOfGroupBinding = s.env.stateOfGroupBinding ∧
      (s1.env.forceControlBinding m = true ↔
        (s.sh.nwkControlMsgPara m).dst ≠ adr ∧ s.env.forceControlBinding m = true) ∧
      ((s.sh.nwkControlMsgPara m).dst ≠ adr → s1 = s) := by
    rw [← hs1]
    split
    · next hdst =>
      refine ⟨rfl, rfl, rfl, ?_, fun hne => absurd hdst hne⟩
      refine iff_of_false (fun hforce => ?_) fun h => h.1 hdst
      have hself : Function.update s.env.forceControlBinding m false m = true := hforce
      rw [Function.update_self] at hself
      cases hself
    · next hdst => exact ⟨rfl, rfl, rfl, ⟨fun h => ⟨hdst, h⟩, fun h => h.2⟩, fun _ => rfl⟩
  obtain ⟨hsh1, hcmds1, hst1, hforce1, hsame1⟩ := h1
  rw [hst1, if_neg hknown]
  by_cases hsends : s.Sends m adr status
  · obtain rfl := hsame1 hsends.1
    have hcond : (s1.env.stateOfGroupBinding m ≠ status ∧ (s1.sh.nwkControlMsgPara m).dst ≠ adr ∧
        (s1.sh.nwkControlMsgPara m).dst < adrAllProxy) ∨
        s1.env.forceControlBinding m = true := by
      obtain ⟨hdst, hrest⟩ := hsends
      exact hrest.imp_left fun h => ⟨h.1, hdst, h.2⟩
    rw [if_pos hcond]
    generalize hs2 : s1.onEnv _ = s2
    have h2 : s2.trace = s1.trace ∧ s2.cmds = s1.cmds ∧ s2.eleAdr m = s1.eleAdr m ∧
        ∀ c, (s2.IsSibling m adr c ↔ s1.IsSibling m adr c) ∧
          (s2.Accepts m adr c ↔ s1.Accepts m adr c) := by
      rw [← hs2]
      exact ⟨rfl, rfl, rfl, fun c => ⟨Iff.rfl, Iff.rfl⟩⟩
    obtain ⟨htrace2, hcmds2, hadr2, hsame2⟩ := h2
    have hloop := s2.loopInv_bindSiblings m hadr status
    generalize runFrom (bindSibling m adr status) s2 b.chns = s3 at hloop
    obtain ⟨htrace4, o, hmsg, hbinding⟩ := s3.sendBinding_spec m adr status
    have hadr3 : s3.eleAdr m = s1.eleAdr m := by
      rw [eleAdr, hloop.kept.adr]
      exact hadr2
    obtain ⟨new, htrace, hnew, haccept⟩ := hloop.trace
    have hall : (s3.sendBinding m adr status).trace = s1.trace ++ new := by
      rw [htrace4, htrace, htrace2]
    have hcmds : (s3.sendBinding m adr status).cmds = s1.cmds ++ [o] := by
      rw [hmsg, hloop.kept.cmds, hcmds2]
    constructor
    · rintro ⟨-, new', htrace', hcommanded⟩
      obtain rfl : new = new' := List.append_cancel_left (hall.symm.trans htrace')
      refine ⟨hsends, fun c hc => ?_⟩
      obtain ⟨e, he, hchn, -⟩ := hcommanded c hc
      exact (hsame2 c).2.mp ((haccept c c.isLt ((hsame2 c).1.mpr hc)).mp ⟨e, he, hchn⟩)
    · rintro ⟨-, hall'⟩
      refine ⟨⟨o, hcmds, hadr3 ▸ hbinding⟩, new, hall, fun c hc => ?_⟩
      obtain ⟨e, he, hchn⟩ :=
        (haccept c c.isLt ((hsame2 c).1.mpr hc)).mpr ((hsame2 c).2.mpr (hall' c hc))
      exact ⟨e, he, hchn, (hnew e he).2⟩
  · have hcond : ¬ ((s.env.stateOfGroupBinding m ≠ status ∧ (s.sh.nwkControlMsgPara m).dst ≠ adr ∧
        (s.sh.nwkControlMsgPara m).dst < adrAllProxy) ∨
        s1.env.forceControlBinding m = true) := by
      rintro (⟨hst, hdst, hproxy⟩ | hforce)
      · exact hsends ⟨hdst, Or.inl ⟨hst, hproxy⟩⟩
      · exact hsends ⟨(hforce1.mp hforce).1, Or.inr (hforce1.mp hforce).2⟩
    rw [if_neg hcond]
    refine iff_of_false ?_ fun h => hsends h.1
    split
    · exact hquiet _ hcmds1
    · exact hquiet _ hcmds1

/-- The events of an execution scene are no messages to a group. -/
theorem executeOnOff_spec (s : NetDevice b) (m : b.Btn) (status : UInt8) :
    EnvKept s (s.executeOnOff m status) ∧ (s.executeOnOff m status).sh = s.sh ∧
      (s.executeOnOff m status).env.sceneActiveArr = s.env.sceneActiveArr ∧
      (s.executeOnOff m status).env.stateOfGroupBinding = s.env.stateOfGroupBinding ∧
      (s.executeOnOff m status).env.forceControlBinding = s.env.forceControlBinding ∧
      (s.executeOnOff m status).trace = s.trace := by
  unfold executeOnOff
  dsimp only
  split
  · exact ⟨⟨rfl, rfl, rfl, rfl, rfl, s.cmds_send rfl⟩, rfl, rfl, rfl, rfl, rfl⟩
  · exact ⟨⟨rfl, rfl, rfl, rfl, rfl, rfl⟩, rfl, rfl, rfl, rfl, rfl⟩

/-- **Spec** of `net_message_handle_state_change`: the change is passed on exactly if it is
sent and every sibling accepts. -/
theorem handle_iff (s : NetDevice b) (c : b.Chn) {adr : UInt16} {status : UInt8}
    (hst : status = gOn ∨ status = gOff)
    (hgroup : s.env.getGroupBindingAdr (Board.relayEle c) = adr) (hadr : adr ≠ adrUnassigned) :
    PassesOn s (s.netMessageHandleStateChange c status) (Board.relayEle c) adr status ↔
      s.Sends (Board.relayEle c) adr status ∧
        ∀ c', s.IsSibling (Board.relayEle c) adr c' → s.Accepts (Board.relayEle c) adr c' := by
  have hlt : status < gOnoffRsv := by rcases hst with rfl | rfl <;> decide
  have hflip : status ^^^ 1 ≠ status ∧ status ^^^ 1 ≠ subUnknown ∧ subUnknown ≠ status := by
    rcases hst with rfl | rfl <;> decide
  rw [netMessageHandleStateChange]
  dsimp only
  rw [if_pos hlt]
  generalize Board.relayEle c = m at *
  obtain ⟨hkept1, hsh1, hscene1, hst1, hforce1, htrace1⟩ := s.executeOnOff_spec m status
  generalize s.executeOnOff m status = s1 at *
  generalize hs2 : (if s1.env.stateOfGroupBinding m = subUnknown then _ else s1) = s2
  have h2 : EnvKept s1 s2 ∧ s2.sh = s1.sh ∧ s2.env.sceneActiveArr = s1.env.sceneActiveArr ∧
      s2.env.forceControlBinding = s1.env.forceControlBinding ∧ s2.trace = s1.trace ∧
      s2.env.stateOfGroupBinding m ≠ subUnknown ∧
      (s2.env.stateOfGroupBinding m ≠ status ↔ s1.env.stateOfGroupBinding m ≠ status) := by
    rw [← hs2]
    split
    · next hunknown =>
      have hself : (s1.onEnv fun x => { x with
          stateOfGroupBinding := Function.update x.stateOfGroupBinding m (status ^^^ 1)
          }).env.stateOfGroupBinding m = status ^^^ 1 := Function.update_self ..
      rw [hself, hunknown]
      exact ⟨⟨rfl, rfl, rfl, rfl, rfl, rfl⟩, rfl, rfl, rfl, rfl, hflip.2.1,
        iff_of_true hflip.1 hflip.2.2⟩
    · next hknown => exact ⟨.refl s1, rfl, rfl, rfl, rfl, hknown, Iff.rfl⟩
  obtain ⟨hkept2, hsh2, hscene2, hforce2, htrace2, hknown, hchanged⟩ := h2
  have hkept := hkept1.trans hkept2
  have hsh : s2.sh = s.sh := hsh2.trans hsh1
  have hsends : s2.Sends m adr status ↔ s.Sends m adr status := by
    unfold Sends
    rw [hsh, hforce2, hforce1, hchanged, hst1]
  have haccepts : ∀ c', s2.Accepts m adr c' ↔ s.Accepts m adr c' := by
    intro c'
    have hdst : s2.siblingDst m adr c' = s.siblingDst m adr c' := by
      rw [siblingDst, siblingDst, hsh]
      exact if_congr (exists_congr fun c0 => and_congr_right fun _ => hkept.sibling m adr c0)
        rfl rfl
    rw [Accepts, Accepts, hdst, checkEnControl_congr hkept.mode hkept.outside, hscene2, hscene1]
  have hiff := s2.sendOnOffControl_iff m status ((hkept.group m).trans hgroup) hadr hknown
  generalize s2.sendOnOffControlToBleGroup m status = s3 at hiff
  obtain ⟨hcmds4, htrace4⟩ := s3.reportState_spec c m status
  have hpasses : PassesOn s ((s3.reportState c m status).onEnv fun x =>
      x.autoResetTimeTrans (s3.reportState c m status).sh.timeMs c status) m adr status ↔
      PassesOn s2 s3 m adr status := by
    have hreset : ∀ s' : NetDevice b,
        (s'.onEnv fun x => x.autoResetTimeTrans s'.sh.timeMs c status).cmds = s'.cmds := by
      intro s'
      show (s'.env.autoResetTimeTrans s'.sh.timeMs c status).out.filter _ = s'.env.out.filter _
      rw [NetState.autoResetTimeTrans]
      split <;> rfl
    have hadr' : s2.eleAdr m = s.eleAdr m := by
      rw [eleAdr, eleAdr, hkept.adr]
    rw [PassesOn, PassesOn, hreset, hcmds4, hkept.cmds, hadr', htrace2, htrace1]
    show _ ∧ (∃ new, (s3.reportState c m status).trace = _ ∧ _) ↔ _
    rw [htrace4]
    exact and_congr_right fun _ => exists_congr fun new => and_congr_right fun _ =>
      forall_congr' fun c' => imp_congr (hkept.sibling m adr c').symm Iff.rfl
  rw [hpasses, hiff, hsends]
  exact and_congr_right fun _ => forall_congr' fun c' =>
    imp_congr (hkept.sibling m adr c') (haccepts c')

end Device

/-! ## Runs -/

/-- Who wrote the state that a relay is to take: a button of the switch, a command to some
destination, or anything else. -/
inductive Cause where
  | press
  | command (dst : UInt16)
  | other
  deriving DecidableEq

/-- The command wrote `RLS_SET`. -/
def CmdEntry.writes {b : Board} (e : CmdEntry b) : Bool :=
  match e.cmd with
  | .net st => st ≠ e.target
  | .toggle | .set _ => true

/-- What happens to the switch and its bindings. -/
inductive BindEvent (b : Board) where
  | panel (ev : PanelEvent b)
  | bindingEnable (m : b.Btn) (groupAdr : UInt16)
  | bindingDisable (m : b.Btn)
  /-- the subscription list of an element changes -/
  | subList (m : b.Btn) (subs : List UInt16)

/-- The switch, and who wrote the state of each relay last. -/
structure Traced (b : Board) where
  panel : Panel b
  cause : b.Chn → Cause

namespace Traced

variable {b : Board}

/-- Go on to `p`; what is written on the way is written by `why`. -/
def after (w : Traced b) (p : Panel b) (why : Cause) : Traced b where
  panel := p
  cause c :=
    if (p.dev.trace.drop w.panel.dev.trace.length).any fun e => e.chn = c ∧ e.writes = true then why
    else w.cause c

/-- Who writes at an event. -/
def why (s : Panel b) : PanelEvent b → Cause
  | .btn _ _ => .press
  | .onOffSet _ _ _ _ dst => .command dst
  -- the caller has noted the destination
  | .sendControl m _ _ => .command (s.dev.sh.nwkControlMsgPara m).dst
  | _ => .other

/-- The body of the loop of `relay_map_set_and_target_status`: siblings are commanded in the
name of the group. -/
def mapChannel (w : Traced b) (c : b.Chn) : Traced b :=
  w.after (w.panel.onDev fun d => d.mapChannel (netCallback b) c)
    (.command (w.panel.dev.env.getGroupBindingAdr (Board.relayEle c)))

/-- Where `relay_map_set_and_target_status` starts in a pass, and where its loop ends. -/
def atMap (w : Traced b) (rand : Nat → Nat) : Traced b :=
  { w with panel := w.panel.onDev fun d => d.onTimeProc rand }

def mapped (w : Traced b) (rand : Nat → Nat) : Traced b :=
  let w := w.atMap rand
  if w.panel.dev.relay.rlsSet ≠ w.panel.dev.relay.rlsTarget then runFrom mapChannel w b.chns else w

def step (w : Traced b) : BindEvent b → Traced b
  | .panel (.proc rand) => (w.mapped rand).after (w.panel.step (.proc rand)) .other
  | .panel ev => w.after (w.panel.step ev) (why w.panel ev)
  | .bindingEnable m groupAdr =>
    { w with panel := w.panel.onDev fun d => d.onEnv fun x => (x.bindingEnable m groupAdr).1 }
  | .bindingDisable m =>
    { w with panel := w.panel.onDev fun d => d.onEnv fun x => x.bindingDisable m }
  | .subList m subs =>
    { w with panel := w.panel.onDev fun d => d.onEnv fun x =>
        { x with onoffSubList := Function.update x.onoffSubList m subs } }

/-- The loop that is watched is the one of the pass. -/
theorem mapped_loop (w : Traced b) (rand : Nat → Nat) :
    (w.panel.dev.onTimeProc rand).mapSetAndTargetStatus (netCallback b) =
      if (w.panel.dev.onTimeProc rand).relay.rlsSet ≠ (w.panel.dev.onTimeProc rand).relay.rlsTarget
      then (w.mapped rand).panel.dev.maskRls else (w.mapped rand).panel.dev := by
  have hstep : ∀ (w : Traced b) (c : b.Chn),
      (mapChannel w c).panel.dev = w.panel.dev.mapChannel (netCallback b) c := fun _ _ => rfl
  have hloop := runFrom_map (fun w : Traced b => w.panel.dev) hstep (w.atMap rand) b.chns
  have hstart : (w.atMap rand).panel.dev = w.panel.dev.onTimeProc rand := rfl
  rw [Device.mapSetAndTargetStatus, mapped]
  rw [hstart] at hloop ⊢
  split
  · rw [hloop]
  · exact hstart.symm

/-- A change of relay `c` is about to be applied, outside the factory test, that a button
or a command for the relay alone has caused, and the relay is bound to a group. -/
def Due (w : Traced b) (c : b.Chn) : Prop :=
  w.panel.dev.sh.factActive = false ∧
    isOn w.panel.dev.relay.rlsSet c ≠ isOn w.panel.dev.relay.rlsTarget c ∧
    (w.cause c = .press ∨ w.cause c = .command (w.panel.dev.eleAdr (Board.relayEle c))) ∧
    w.panel.dev.env.getGroupBindingAdr (Board.relayEle c) ≠ adrUnassigned

instance (w : Traced b) (c : b.Chn) : Decidable (w.Due c) :=
  inferInstanceAs (Decidable (_ ∧ _))

/-- Such a change is passed on to the group. -/
def ChannelPropagates (w : Traced b) (c : b.Chn) : Prop :=
  w.Due c → (w.panel.dev).PassesOn (w.panel.dev.mapChannel (netCallback b) c) (Board.relayEle c)
    (w.panel.dev.env.getGroupBindingAdr (Board.relayEle c))
    (if isOn w.panel.dev.relay.rlsSet c then gOn else gOff)

/-- Such a change is sent, and every sibling accepts. -/
def ChannelOk (w : Traced b) (c : b.Chn) : Prop :=
  w.Due c →
    (w.panel.dev).Sends (Board.relayEle c)
      (w.panel.dev.env.getGroupBindingAdr (Board.relayEle c))
      (if isOn w.panel.dev.relay.rlsSet c then gOn else gOff) ∧
    ∀ c', w.panel.dev.IsSibling (Board.relayEle c)
        (w.panel.dev.env.getGroupBindingAdr (Board.relayEle c)) c' →
      w.panel.dev.Accepts (Board.relayEle c)
        (w.panel.dev.env.getGroupBindingAdr (Board.relayEle c)) c'

instance (w : Traced b) (c : b.Chn) : Decidable (w.ChannelOk c) :=
  inferInstanceAs (Decidable (_ → _ ∧ _))

theorem channel_iff (w : Traced b) (c : b.Chn) : w.ChannelPropagates c ↔ w.ChannelOk c := by
  refine forall_congr' fun hdue => ?_
  obtain ⟨hfact, hpending, -, hadr⟩ := hdue
  have hst : (if isOn w.panel.dev.relay.rlsSet c then gOn else gOff) = gOn ∨
      (if isOn w.panel.dev.relay.rlsSet c then gOn else gOff) = gOff := ite_eq_or_eq ..
  rw [Device.mapChannel, if_pos hpending]
  dsimp only
  rw [if_neg (Bool.not_eq_true _ ▸ hfact)]
  exact Device.handle_iff _ c hst rfl hadr

/-- Every change that a pass applies is passed on as it should. -/
def Propagates (w : Traced b) : BindEvent b → Prop
  | .panel (.proc rand) => AllSteps mapChannel ChannelPropagates (w.atMap rand) b.chns
  | _ => True

/-- Every such change is sent, and its siblings accept. -/
def StepOk (w : Traced b) : BindEvent b → Prop
  | .panel (.proc rand) => AllSteps mapChannel ChannelOk (w.atMap rand) b.chns
  | _ => True

instance (w : Traced b) : ∀ ev, Decidable (w.StepOk ev)
  | .panel (.proc _) => inferInstanceAs (Decidable (AllSteps _ _ _ _))
  | .panel (.btn ..) | .panel (.lock ..) | .panel (.scene ..) | .panel .clean
  | .panel (.sendControl ..) | .panel (.onOffSet ..) | .panel (.changeMode ..) | .panel .zeroSync
  | .panel .timerMatch | .panel (.clock ..) | .panel (.other ..) | .bindingEnable ..
  | .bindingDisable _ | .subList .. => inferInstanceAs (Decidable True)

/-- **Step lemma**: a pass passes on what it should exactly if it meets the condition. -/
theorem propagates_step_iff (w : Traced b) (ev : BindEvent b) : w.Propagates ev ↔ w.StepOk ev := by
  cases ev with
  | panel ev =>
    cases ev with
    | proc rand => exact AllSteps.congr channel_iff _ _
    | _ => exact Iff.rfl
  | _ => exact Iff.rfl

/-- **Binding propagation**: in every run, every change that a button or a command for the
relay alone has caused is passed on to the group, with one message and a command for each
sibling, exactly if the change is sent and the siblings accept. -/
theorem propagates_iff (w : Traced b) (evs : List (BindEvent b)) :
    AllSteps Traced.step Propagates w evs ↔ AllSteps Traced.step StepOk w evs :=
  AllSteps.congr propagates_step_iff w evs

/-- Bound to a group, the relay is switched on; unbound, off; bound again, on: the group is
still taken to be on. -/
def onWhileUnbound : List (BindEvent board1) :=
  let relay := Board.relayEle board1.chn0
  let press : List (BindEvent board1) :=
    [.panel (.btn relay .startPress), .panel (.btn relay .release), .panel (.proc fun _ => 0)]
  [.subList relay [0xC001], .bindingEnable relay 0xC001] ++ press ++
    [.bindingDisable relay] ++ press ++ [.bindingEnable relay 0xC001] ++ press

theorem not_propagates_onWhileUnbound :
    ¬ ∀ evs : List (BindEvent board1),
      AllSteps Traced.step Propagates ⟨.new1, fun _ => .other⟩ evs := by
  intro h
  have hrun := (AllSteps.congr propagates_step_iff _ _).mp (h onWhileUnbound)
  revert hrun
  decide +kernel

end Traced

end LumesSwitch
