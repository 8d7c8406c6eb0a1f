import LumesSwitch.Net.Receive

/-!
# Element numbers and relay numbers (`net_message.c`, `sw_config.c`, `scene.c`)

A relay has two numbers, that of its element and that of its channel. Its mode is kept under
the channel's, the parameters of its last control message and its scene flag under the
element's. A command checks them under other numbers.

- `Device.withArrays` — the device with other contents of the arrays;
- `Device.OwnIndex` — a command for a relay reads and writes what is the relay's own;
- `Device.acts_iff` — what it reads;
- `Device.not_ownIndex` — for no relay is that its own.
-/

namespace LumesSwitch

open Flags Runs

/-- `SCENE_RECALL` -/
def sceneRecallOp : UInt16 := 0x4282

namespace Device

variable {b : Board}

/-- The part of a scene recall in `scene.c` that controls the relay: the scene's permission is
noted under the element. -/
def sceneRecall (d : NetDevice b) (m : b.Btn) (src dst : UInt16) (on : Bool) : NetDevice b :=
  let d := d.onEnv fun x => { x with
    forceControlBinding := Function.update x.forceControlBinding m true
    sceneActiveArr := Function.update x.sceneActiveArr m true }
  (d.updateControlMessageParams m src dst sceneRecallOp).sendControlDevManualToMcu m on true

/-- Other switch modes, control message parameters and scene flags, and other memory beside
`switch_mode`. -/
def withArrays (d : NetDevice b) (switchMode : b.Chn → SwitchMode)
    (outside : Int → Option SwitchMode) (nwk : b.Btn → NwkMessagePara) (scene : b.Btn → Bool) :
    NetDevice b :=
  { d with
    sh := { d.sh with switchMode := switchMode, nwkControlMsgPara := nwk }
    env := { d.env with swOutside := outside, sceneActiveArr := scene } }

/-- A command for relay `c` is carried out. -/
def Acts (d : NetDevice b) (c : b.Chn) (on : Bool) : Prop :=
  (d.sendControlDevManualToMcu (Board.relayEle c) on true).trace ≠ d.trace

instance (d : NetDevice b) (c : b.Chn) (on : Bool) : Decidable (d.Acts c on) :=
  inferInstanceAs (Decidable (_ ≠ _))

/-- The numbers under which a command for relay `c` looks for the relay's mode: in
`check_en_control`, which takes off the offset of the relay elements once more, and for the
message to its group, where it is not taken off. -/
def switchModeReads (c : b.Chn) : List Int :=
  [(Board.eleOfChn c).val - Board.eleRelayOffset, (Board.relayEle c).val]

/-- A command for relay `c` and the change that it causes use what is the relay's own. -/
structure OwnIndex (d : NetDevice b) (c : b.Chn) (on : Bool) : Prop where
  /-- whether it is carried out depends on the relay's mode, destination and scene flag -/
  acts : ∀ switchMode outside nwk scene, switchMode c = d.sh.switchMode c →
    (nwk (Board.relayEle c)).dst = d.lastDst c →
    scene (Board.relayEle c) = d.env.sceneActiveArr (Board.relayEle c) →
    ((d.withArrays switchMode outside nwk scene).Acts c on ↔ d.Acts c on)
  /-- the scene flags of other elements are left alone -/
  consumes : ∀ e, e ≠ Board.relayEle c →
    (d.sendControlDevManualToMcu (Board.relayEle c) on true).env.sceneActiveArr e =
      d.env.sceneActiveArr e
  /-- the form of the message to the group depends on the relay's mode -/
  form : ∀ switchMode outside adr, switchMode c = d.sh.switchMode c →
    ((d.withArrays switchMode outside d.sh.nwkControlMsgPara d.env.sceneActiveArr).sendBinding
      (Board.relayEle c) adr (if on then gOn else gOff)).cmds =
    (d.sendBinding (Board.relayEle c) adr (if on then gOn else gOff)).cmds
  /-- the modes read are in the array -/
  inside : ∀ i ∈ switchModeReads c, 0 ≤ i ∧ i < b.numberRl

/-- **Spec** of what decides on a command: the element whose number is the channel's. -/
theorem acts_iff (d : NetDevice b) (c : b.Chn) (on : Bool) :
    d.Acts c on ↔
      d.checkEnControl (Board.eleOfChn c) (d.sh.nwkControlMsgPara (Board.eleOfChn c)).dst = true ∨
        d.env.sceneActiveArr (Board.eleOfChn c) = true := by
  obtain ⟨-, -, -, new, htrace, -, hnew⟩ := d.sendControl_spec c on
  rw [← hnew, Acts, htrace, ne_eq, ne_eq, List.append_right_eq_self]

/-- The check of a command looks for the mode of another relay, or outside the array. -/
theorem checkEnControl_other (d : NetDevice b) (c : b.Chn) {dst : UInt16}
    (hmode : ∀ c', c' ≠ c → d.sh.switchMode c' = .momentary)
    (hout : ∀ i, d.env.swOutside i = none) (hdst : adrFixedGroupStart < dst) :
    d.checkEnControl (Board.eleOfChn c) dst = false := by
  have hread : d.swConfigGetSwMode ((Board.eleOfChn c).val - Board.eleRelayOffset) = none ∨
      d.swConfigGetSwMode ((Board.eleOfChn c).val - Board.eleRelayOffset) = some .momentary := by
    rw [swConfigGetSwMode]
    split
    · rw [switchModeAt]
      split
      · next hin =>
        right
        rw [hmode]
        intro h
        have hlow : 0 ≤ (c.val : Int) - 2 := hin.1
        have hval : ((c.val : Int) - 2).toNat = c.val := congrArg Fin.val h
        omega
      · exact Or.inl (hout _)
    · exact Or.inl rfl
  rw [checkEnControl]
  refine decide_eq_false ?_
  rintro (htoggle | hlight | hle)
  · rcases hread with h | h
    · rw [h] at htoggle
      cases htoggle
    · rw [h] at htoggle
      cases htoggle
  · rcases hread with h | h
    · rw [h] at hlight
      cases hlight
    · rw [h] at hlight
      cases hlight
  · exact absurd hdst (UInt16.not_lt.mpr hle)

/-- With the relay's own mode, destination and scene flag as they are, a command can be
carried out or not. -/
theorem not_acts_own (d : NetDevice b) (c : b.Chn) (on : Bool) :
    ∃ switchMode outside nwk scene, switchMode c = d.sh.switchMode c ∧
      (nwk (Board.relayEle c)).dst = d.lastDst c ∧
      scene (Board.relayEle c) = d.env.sceneActiveArr (Board.relayEle c) ∧
      ¬ ((d.withArrays switchMode outside nwk scene).Acts c on ↔ d.Acts c on) := by
  have hne := relayEle_ne_eleOfChn c
  by_cases hacts : d.Acts c on
  · refine ⟨Function.update (fun _ => .momentary) c (d.sh.switchMode c), fun _ => none,
      Function.update d.sh.nwkControlMsgPara (Board.eleOfChn c) ⟨0, adrAllNodes, 0⟩,
      Function.update d.env.sceneActiveArr (Board.eleOfChn c) false,
      Function.update_self .., ?_, Function.update_of_ne hne .., ?_⟩
    · rw [Function.update_of_ne hne]
      rfl
    · refine fun hiff => absurd ((acts_iff ..).mp (hiff.mpr hacts)) ?_
      rintro (hcheck | hscene)
      · rw [checkEnControl_other _ c (fun c' hc' =>
          Function.update_of_ne hc' (d.sh.switchMode c) fun _ => SwitchMode.momentary)
          (fun _ => rfl)] at hcheck
        · cases hcheck
        · show adrFixedGroupStart < (Function.update d.sh.nwkControlMsgPara (Board.eleOfChn c)
            ⟨0, adrAllNodes, 0⟩ (Board.eleOfChn c)).dst
          rw [Function.update_self]
          decide
      · have hself : Function.update d.env.sceneActiveArr (Board.eleOfChn c) false
            (Board.eleOfChn c) = true := hscene
        rw [Function.update_self] at hself
        cases hself
  · refine ⟨d.sh.switchMode, d.env.swOutside, d.sh.nwkControlMsgPara,
      Function.update d.env.sceneActiveArr (Board.eleOfChn c) true, rfl, rfl,
      Function.update_of_ne hne .., ?_⟩
    exact fun hiff => hacts (hiff.mp ((acts_iff ..).mpr (Or.inr (Function.update_self ..))))

/-- One of the two numbers is outside the array. -/
theorem not_reads_inside (c : b.Chn) :
    ¬ ∀ i ∈ switchModeReads c, 0 ≤ i ∧ i < b.numberRl := by
  intro h
  have hcheck := h _ List.mem_cons_self
  have hform := h _ (List.mem_cons_of_mem _ List.mem_cons_self)
  have hthree := b.le_three
  change 0 ≤ (c.val : Int) - 2 ∧ (c.val : Int) - 2 < b.numberRl at hcheck
  change 0 ≤ ((c.val + 2 : Nat) : Int) ∧ ((c.val + 2 : Nat) : Int) < b.numberRl at hform
  omega

/-- The permission of a scene is not used by the command that comes with it. -/
theorem scene_sceneRecall (d : NetDevice b) (c : b.Chn) (src dst : UInt16) (on : Bool) :
    (d.sceneRecall (Board.relayEle c) src dst on).env.sceneActiveArr (Board.relayEle c) = true := by
  rw [sceneRecall]
  generalize hs : d.onEnv _ = s
  have hflag : s.env.sceneActiveArr (Board.relayEle c) = true := by
    rw [← hs]
    exact Function.update_self ..
  obtain ⟨-, -, hscene, -⟩ := s.update_spec (Board.relayEle c) src dst sceneRecallOp
  generalize s.updateControlMessageParams (Board.relayEle c) src dst sceneRecallOp = s1 at *
  obtain ⟨-, -, hkept, -⟩ := s1.sendControl_spec c on
  rw [hkept _ (relayEle_ne_eleOfChn c), hscene, hflag]

/-- **Confused indices**: for no state of the switch and no relay does a command use what is
the relay's own. -/
theorem not_ownIndex (d : NetDevice b) (c : b.Chn) (on : Bool) : ¬ d.OwnIndex c on := by
  intro h
  obtain ⟨switchMode, outside, nwk, scene, hmode, hdst, hscene, hdiffer⟩ := d.not_acts_own c on
  exact hdiffer (h.acts switchMode outside nwk scene hmode hdst hscene)

end Device

/-! ## A three-relay switch -/

/-- A three-relay switch after a boot, with nothing stored. -/
def net3 : NetDevice board3 :=
  Device.boot (fun _ => 0) emptyLog emptyLog
    { switchMode := fun _ => .toggle
      powerOnState := fun _ => .restore
      timeMs := 0
      timeS := 0
      factActive := false
      eleAdrPrimary := 2
      lightness := fun _ => ⟨levelOff, levelOff⟩
      nwkControlMsgPara := fun _ => ⟨0, 0, 0⟩ }
    { incommingSt := fun _ => gOnoffRsv
      sceneActiveArr := fun _ => false
      genExecutionSceneSt := fun _ => gOnoffRsv
      stateOfGroupBinding := fun _ => subUnknown
      relayControlFirstTimeFlag := fun _ => true
      forceControlBinding := fun _ => false
      bindingParaSt := fun _ => ⟨false, 0⟩
      onoffSubList := fun _ => []
      dimmingConfig := fun _ => ⟨.restore, 0xFFFF, 0x32⟩
      touchBtnBeforeSt := fun _ => ⟨.noPress, 0, false⟩
      controlBindingLocallyFlag := fun _ => false
      autoTransPar := fun _ => ⟨0, 0⟩
      enGroupDefault := fun _ => true
      swOutside := fun _ => none
      rand := fun _ => 0
      out := [] }

/-- Relay 0 has heard OFF for all nodes while it was OFF; relay 2 is commanded ON. -/
def allOff3 : NetDevice board3 :=
  (net3.myHandleMeshCmdSigGOnOffSet ⟨gOff, 0, 0, 0⟩ none (Board.relayEle ⟨0, by decide⟩) 1
    adrAllNodes).updateControlMessageParams (Board.relayEle (b := board3) ⟨2, by decide⟩) 1 6
      gOnoffSet

/-- With relay 0 in momentary mode the command for relay 2 is dropped. -/
theorem not_ownIndex_momentary :
    ¬ ∀ (b : Board) (d : NetDevice b) (c : b.Chn) (on : Bool), d.OwnIndex c on := by
  intro h
  have hacts := (h board3 allOff3 ⟨2, by decide⟩ true).acts
    (fun c => if c.val = 0 then .momentary else .toggle) (fun _ => none)
    allOff3.sh.nwkControlMsgPara allOff3.env.sceneActiveArr rfl rfl rfl
  revert hacts
  decide +kernel

end LumesSwitch
