import LumesSwitch.Config.Model
import LumesSwitch.Net.Index
import LumesSwitch.Relay.Mirror

/-!
# Automatic ON and OFF (`sw_auto.c`)

Every 100 ms `auto_loop_task` looks at the relays in toggle mode that are to go ON or OFF by
themselves. The time since their last change is kept by the state-change callback, which hears of
no change in the factory test; and the command goes through the filter of the network commands,
which takes the channel number for an element number.

- `Device.autoLoopTask` — the task, with the commands it gives;
- `autoTrans_netMessageHandleStateChange` — what the callback does to the times;
- `Device.heard_proc` — a pass changes no state of a relay without the callback hearing of it;
- `AutoRun` — the true time of the last change of each relay;
- `AutoRun.autoOk_of_heard` — the runs in which each command comes in time and gets through.
-/

namespace LumesSwitch

open Flags Runs

/-- `TOGGLE_AUTO_ON`, `TOGGLE_AUTO_OFF` -/
def toggleAutoOn : UInt8 := 3
def toggleAutoOff : UInt8 := 4

/-- `s_to_ms` -/
def sToMs (seconds : UInt32) : UInt32 := seconds * 1000

namespace Device

variable {b : Board}

/-! ## The task -/

/-- The command that `auto_loop_task` gives for channel `c`. -/
def autoCommand (param : b.Chn → ExtendedParam) (s : NetDevice b) (c : b.Chn) : Option Bool :=
  let toggle := (param c).toggleType
  let present := (s.sh.lightness (Board.relayEle c)).present
  let elapsed := clockTimeExceed s.sh.timeMs (s.env.autoTransPar c).autoTransStT
    (sToMs (param c).delayTimeS.toUInt32)
  if s.sh.switchMode c = .toggle then
    if toggle = toggleDefault ∨ toggle ≥ toggleUnknown ∨ toggle = toggleDelayOn ∨
        toggle = toggleDelayOff then none
    else if toggle = toggleAutoOn then
      if present = levelMax then none
      else if elapsed then some true else none
    else if toggle = toggleAutoOff then
      if present = levelOff then none
      else if elapsed then some false else none
    else none
  else none

/-- The body of the loop of `auto_loop_task`, with the commands given so far. -/
def autoLoopChannel (param : b.Chn → ExtendedParam) (p : NetDevice b × List (b.Chn × Bool))
    (c : b.Chn) : NetDevice b × List (b.Chn × Bool) :=
  match autoCommand param p.1 c with
  | some st => (p.1.sendControlDevManualToMcu (Board.relayEle c) st false, p.2 ++ [(c, st)])
  | none => p

/-- `auto_loop_task` -/
def autoLoopTask (param : b.Chn → ExtendedParam) (s : NetDevice b) :
    NetDevice b × List (b.Chn × Bool) := runFrom (autoLoopChannel param) (s, []) b.chns

/-! ## The times -/

/-- The times of the automatic commands. -/
def autoTrans (s : NetDevice b) : b.Chn → AutoTransPar := s.env.autoTransPar

theorem autoTrans_publishStatus (s : NetDevice b) (m : b.Btn) :
    (s.publishStatus m).autoTrans = s.autoTrans := by
  rw [publishStatus]
  dsimp only
  split
  · rfl
  · rfl

theorem autoTrans_update (s : NetDevice b) (idx : Nat) (src dst op : UInt16) :
    (s.updateControlMessageParams idx src dst op).autoTrans = s.autoTrans := by
  rw [autoTrans, env_updateControlMessageParams]
  rfl

theorem autoTrans_sendControl (s : NetDevice b) (m : b.Btn) (st updateEn : Bool) :
    (s.sendControlDevManualToMcu m st updateEn).autoTrans = s.autoTrans := by
  have hnet : ∀ (s : NetDevice b) (c : b.Chn), (s.netState c st).autoTrans = s.autoTrans := by
    intro s c
    rw [autoTrans, env_netState]
    rfl
  rw [sendControlDevManualToMcu]
  cases Board.relayIdx m with
  | none => rfl
  | some c =>
    dsimp only
    split
    · generalize hs1 : s.onEnv _ = s1
      have h1 : s1.autoTrans = s.autoTrans := by
        rw [← hs1]
        rfl
      generalize hs2 : (if isOn s1.relay.rlsTarget c = st then s1.publishStatus m else s1) = s2
      have h2 : s2.autoTrans = s1.autoTrans := by
        rw [← hs2]
        split
        · exact s1.autoTrans_publishStatus m
        · rfl
      split
      · exact (hnet s2 c).trans (h2.trans h1)
      · exact (hnet s2 c).trans (h2.trans h1)
    · rfl

theorem autoTrans_myHandle (s : NetDevice b) (set : MeshCmdGOnoffSet) (extra : Option UInt8)
    (m : b.Btn) (src dst : UInt16) :
    (s.myHandleMeshCmdSigGOnOffSet set extra m src dst).autoTrans = s.autoTrans := by
  rw [myHandleMeshCmdSigGOnOffSet]
  cases Board.relayIdx m with
  | none => rfl
  | some c =>
    dsimp only
    generalize (if (s.sh.lightness m).present ≠ levelOff then (1 : UInt8) else 0) = present
    split
    · rfl
    · split
      · rfl
      · split
        · rfl
        · split
          · rfl
          · rw [autoTrans_sendControl, autoTrans_update]

theorem autoTrans_bindSibling (m : b.Btn) (adr : UInt16) (status : UInt8) (s : NetDevice b)
    (c : b.Chn) : (bindSibling m adr status s c).autoTrans = s.autoTrans := by
  rw [bindSibling]
  dsimp only
  split
  · exact (autoTrans_sendControl _ _ _ _).trans (s.autoTrans_update ..)
  · rfl

theorem autoTrans_sendBinding (s : NetDevice b) (m : b.Btn) (adr : UInt16) (status : UInt8) :
    (s.sendBinding m adr status).autoTrans = s.autoTrans := by
  have hgroup : ∀ (s : NetDevice b) op type par,
      (s.sendToGroup m adr op type par).autoTrans = s.autoTrans := by
    intro s op type par
    rw [sendToGroup]
    split
    · rfl
    · rfl
  rw [sendBinding]
  dsimp only
  split
  · exact hgroup ..
  · rw [hgroup]
    split
    · rfl
    · rfl

theorem autoTrans_sendOnOff (s : NetDevice b) (m : b.Btn) (status : UInt8) :
    (s.sendOnOffControlToBleGroup m status).autoTrans = s.autoTrans := by
  rw [sendOnOffControlToBleGroup]
  dsimp only
  split
  · rfl
  · generalize hs1 : (if (s.sh.nwkControlMsgPara m).dst = s.env.getGroupBindingAdr m
      then s.onEnv _ else s) = s1
    have h1 : s1.autoTrans = s.autoTrans := by
      rw [← hs1]
      split
      · rfl
      · rfl
    split
    · exact h1
    · split
      · rw [autoTrans_sendBinding, keep_runFrom autoTrans (autoTrans_bindSibling m _ status)]
        exact h1
      · split
        · exact h1
        · exact h1

theorem autoTrans_reportState (s : NetDevice b) (c : b.Chn) (m : b.Btn) (status : UInt8) :
    (s.reportState c m status).autoTrans = s.autoTrans := by
  rw [reportState]
  dsimp only
  split
  · split
    · rfl
    · rfl
  · rw [autoTrans_update]
    exact s.autoTrans_publishStatus m

/-- **What the callback does to the times**: a state that was not heard of starts one. -/
theorem autoTrans_netMessageHandleStateChange (s : NetDevice b) (c : b.Chn) {status : UInt8}
    (h : status < gOnoffRsv) :
    (s.netMessageHandleStateChange c status).autoTrans =
      if (s.autoTrans c).presentSt ≠ status then
        Function.update s.autoTrans c ⟨s.sh.timeMs, status⟩
      else s.autoTrans := by
  have hreset : ∀ s' : NetDevice b, s'.autoTrans = s.autoTrans → s'.sh.timeMs = s.sh.timeMs →
      (s'.onEnv fun x => x.autoResetTimeTrans s'.sh.timeMs c status).autoTrans =
        if (s.autoTrans c).presentSt ≠ status then
          Function.update s.autoTrans c ⟨s.sh.timeMs, status⟩
        else s.autoTrans := by
    intro s' htrans htime
    rw [← htrans, ← htime]
    show (s'.env.autoResetTimeTrans s'.sh.timeMs c status).autoTransPar = _
    rw [NetState.autoResetTimeTrans]
    split
    · next hne => exact (if_pos hne).symm
    · next heq => exact (if_neg heq).symm
  rw [netMessageHandleStateChange]
  dsimp only
  rw [if_pos h]
  have hexec : (s.executeOnOff (Board.relayEle c) status).autoTrans = s.autoTrans := by
    unfold executeOnOff
    dsimp only
    split
    · rfl
    · rfl
  have hsteps1 := s.steps_executeOnOff (Board.relayEle c) status
  generalize s.executeOnOff (Board.relayEle c) status = s1 at *
  generalize hs2 : (if s1.env.stateOfGroupBinding (Board.relayEle c) = subUnknown
    then s1.onEnv _ else s1) = s2
  have h2 : s2.autoTrans = s1.autoTrans ∧ NetSteps s1 s2 := by
    rw [← hs2]
    split
    · exact ⟨rfl, .single (.onEnv s1 _ fun _ => rfl)⟩
    · exact ⟨rfl, .refl⟩
  have hsteps : NetSteps s ((s2.sendOnOffControlToBleGroup (Board.relayEle c) status).reportState c
      (Board.relayEle c) status) :=
    ((hsteps1.trans h2.2).trans (s2.steps_sendOnOffControlToBleGroup _ status)).trans
      (steps_reportState _ c _ status)
  refine hreset _ ?_ ?_
  · rw [autoTrans_reportState, autoTrans_sendOnOff, h2.1, hexec]
  · exact (SharedKept.of_beside (besideCommand_of_callbackSteps hsteps.callback)).timeMs

/-! ## A pass, as one relay sees it -/

/-- The state of relay `c` and what its time depends on. -/
def transView (s : NetDevice b) (c : b.Chn) : Bool × AutoTransPar × UInt32 × Bool :=
  (isOn s.relay.rlsTarget c, s.autoTrans c, s.sh.timeMs, s.sh.factActive)

/-- What a change to `on` does to a time. -/
def heard (p : AutoTransPar) (now : UInt32) (on : Bool) : AutoTransPar :=
  if p.presentSt ≠ (if on then gOn else gOff) then ⟨now, if on then gOn else gOff⟩ else p

/-- The mapping of channel `j`: what it does to a state it does to the time, unless in the factory
test. -/
theorem mapChannel_auto (s : NetDevice b) (j : b.Chn) :
    (isOn s.relay.rlsSet j = isOn s.relay.rlsTarget j ∧ s.mapChannel (netCallback b) j = s) ∨
    isOn s.relay.rlsSet j ≠ isOn s.relay.rlsTarget j ∧
      (∀ c, c ≠ j → (s.mapChannel (netCallback b) j).transView c = s.transView c) ∧
      (s.mapChannel (netCallback b) j).transView j =
        (isOn s.relay.rlsSet j,
          if s.sh.factActive then s.autoTrans j
          else heard (s.autoTrans j) s.sh.timeMs (isOn s.relay.rlsSet j),
          s.sh.timeMs, s.sh.factActive) ∧
      (s.sh.factActive = true →
        (s.mapChannel (netCallback b) j).relay.rlsSet = s.relay.rlsSet) := by
  rw [mapChannel]
  by_cases hne : isOn s.relay.rlsSet j ≠ isOn s.relay.rlsTarget j
  · rw [if_pos hne]
    refine .inr ⟨hne, ?_⟩
    dsimp only
    generalize hs1 : emit _ (RelayOut.ledOn j _) = s1
    have htarget : ∀ c : b.Chn, isOn s1.relay.rlsTarget c =
        if c = j then isOn s.relay.rlsSet j else isOn s.relay.rlsTarget c := by
      intro c
      rw [← hs1]
      refine (isOn_put _ (chn_lt j) _ _).trans ?_
      exact if_congr ⟨fun h => Fin.ext h, fun h => congrArg _ h⟩ rfl rfl
    have hrest : s1.autoTrans = s.autoTrans ∧ s1.sh.timeMs = s.sh.timeMs ∧
        s1.sh.factActive = s.sh.factActive ∧ s1.relay.rlsSet = s.relay.rlsSet := by
      rw [← hs1]
      exact ⟨rfl, rfl, rfl, rfl⟩
    obtain ⟨htrans, htime, hfact, hset⟩ := hrest
    cases hactive : s.sh.factActive with
    | true =>
      rw [if_pos (hfact.trans hactive)]
      refine ⟨fun c hc => ?_, ?_, fun _ => hset⟩
      · rw [transView, htarget, if_neg hc, htrans, htime, hfact]
        rfl
      · rw [transView, htarget, if_pos rfl, htrans, htime, hfact, hactive, if_pos rfl]
    | false =>
      rw [if_neg (by rw [hfact, hactive]; decide)]
      generalize hst : (if isOn s.relay.rlsSet j then gOn else gOff) = st
      have hlt : st < gOnoffRsv := by
        rw [← hst]
        split
        · decide
        · decide
      have hbeside := besideCommand_of_callbackSteps
        (s1.steps_netMessageHandleStateChange j st).callback
      have hafter : ∀ c, (s1.netMessageHandleStateChange j st).transView c =
          (isOn s1.relay.rlsTarget c, (s1.netMessageHandleStateChange j st).autoTrans c,
            s1.sh.timeMs, s1.sh.factActive) := by
        intro c
        have hword : (s1.netMessageHandleStateChange j st).relay.rlsTarget = s1.relay.rlsTarget :=
          congrArg (fun p => p.1.rlsTarget) hbeside
        have hms : (s1.netMessageHandleStateChange j st).sh.timeMs = s1.sh.timeMs :=
          congrArg (fun p => p.2.timeMs) hbeside
        have hfa : (s1.netMessageHandleStateChange j st).sh.factActive = s1.sh.factActive :=
          congrArg (fun p => p.2.factActive) hbeside
        rw [transView, hword, hms, hfa]
      have hcall := s1.autoTrans_netMessageHandleStateChange j hlt
      rw [htrans, htime] at hcall
      refine ⟨fun c hc => ?_, ?_, fun h => Bool.noConfusion h⟩
      · show (s1.netMessageHandleStateChange j st).transView c = _
        rw [hafter, htarget, if_neg hc, hcall, htime, hfact]
        refine Prod.ext rfl (Prod.ext ?_ rfl)
        dsimp only
        split
        · exact Function.update_of_ne hc ..
        · rfl
      · show (s1.netMessageHandleStateChange j st).transView j = _
        rw [hafter, htarget, if_pos rfl, hcall, htime, hfact, hactive, if_neg Bool.false_ne_true]
        refine Prod.ext rfl (Prod.ext ?_ rfl)
        dsimp only
        rw [heard, hst]
        split
        · exact Function.update_self ..
        · rfl
  · exact .inl ⟨Decidable.not_not.mp hne, if_neg hne⟩

/-- From one view to the next the state has not changed, or its change was heard of. -/
def Heard (v v' : Bool × AutoTransPar × UInt32 × Bool) : Prop :=
  v' = v ∨ v' = (!v.1, heard v.2.1 v.2.2.1 (!v.1), v.2.2.1, v.2.2.2)

/-- The loop of the mapping comes to each channel once. -/
theorem heard_mapLoop (s : NetDevice b) (c : b.Chn)
    (hfact : s.sh.factActive = true → isOn s.relay.rlsSet c = isOn s.relay.rlsTarget c) :
    Heard (s.transView c) ((runFrom (mapChannel (netCallback b)) s b.chns).transView c) := by
  have hactive : ∀ {s1 : NetDevice b}, s1.transView c = s.transView c →
      s1.sh.factActive = s.sh.factActive := fun h => congrArg (fun v => v.2.2.2) h
  refine runFrom_once
    (P := fun s1 : NetDevice b => s1.transView c = s.transView c ∧
      (s.sh.factActive = true → s1.relay.rlsSet = s.relay.rlsSet))
    (Q := fun s1 : NetDevice b => Heard (s.transView c) (s1.transView c)) ?_ ?_ ?_
    b.nodup_chns (b.mem_chns c) ⟨rfl, fun _ => rfl⟩
  · rintro s1 j hj ⟨hview, hset⟩
    rcases s1.mapChannel_auto j with ⟨-, heq⟩ | ⟨-, hother, -, hkept⟩
    · rw [heq]
      exact ⟨hview, hset⟩
    · exact ⟨(hother c (Ne.symm hj)).trans hview,
        fun h => (hkept ((hactive hview).trans h)).trans (hset h)⟩
  · rintro s1 ⟨hview, hset⟩
    have htarget : isOn s1.relay.rlsTarget c = isOn s.relay.rlsTarget c := congrArg Prod.fst hview
    rcases s1.mapChannel_auto c with ⟨-, heq⟩ | ⟨hne, -, hself, -⟩
    · rw [heq]
      exact .inl hview
    · rw [hself]
      cases hf : s.sh.factActive with
      | true =>
        refine absurd ?_ hne
        rw [hset hf, hfact hf, htarget]
      | false =>
        have hon : isOn s1.relay.rlsSet c = !isOn s1.relay.rlsTarget c := Bool.eq_not.mpr hne
        rw [if_neg (by rw [hactive hview, hf]; decide), hon]
        refine .inr ?_
        rw [← hview]
        rfl
  · intro s1 j hj h
    rcases s1.mapChannel_auto j with ⟨-, heq⟩ | ⟨-, hother, -, -⟩
    · rw [heq]
      exact h
    · rw [hother c (Ne.symm hj)]
      exact h

/-- Commands leave the states and the times alone. -/
theorem transView_of_beside {s s' : NetDevice b} (h : s'.besideCommand = s.besideCommand)
    (c : b.Chn) : s'.transView c = s.transView c :=
  congrArg (fun p : (RelayState b × Shared b) × NetState b =>
    (isOn p.1.1.rlsTarget c, p.2.autoTransPar c, p.1.2.timeMs, p.1.2.factActive)) h

/-- So do drives. -/
theorem transView_of_drive {s s' : NetDevice b} (h : s'.besideDrive = s.besideDrive)
    (c : b.Chn) : s'.transView c = s.transView c :=
  congrArg (fun p => (isOn p.2.1.2.1 c, p.1.2.autoTransPar c, p.1.1.timeMs, p.1.1.factActive)) h

/-- **A pass**: the state of a relay has not changed, or its change was heard of. -/
theorem heard_proc (s : NetDevice b) (rand : Nat → Nat) (c : b.Chn)
    (hfact : s.sh.factActive = true → isOn s.relay.rlsSet c = isOn s.relay.rlsTarget c) :
    Heard (s.transView c) ((s.proc (netCallback b) rand).transView c) := by
  have hon := s.besideOnTime_onTimeProc rand
  have honView : (s.onTimeProc rand).transView c = s.transView c := by
    have hview := congrArg (fun p : RelayState b × Shared b × NetState b =>
      (isOn p.1.rlsTarget c, p.2.2.autoTransPar c, p.2.1.timeMs, p.2.1.factActive)) hon
    exact hview
  have honSet : (s.onTimeProc rand).relay.rlsSet = s.relay.rlsSet :=
    congrArg (fun p => p.1.rlsSet) hon
  have honTarget : (s.onTimeProc rand).relay.rlsTarget = s.relay.rlsTarget :=
    congrArg (fun p => p.1.rlsTarget) hon
  have honFact : (s.onTimeProc rand).sh.factActive = s.sh.factActive :=
    congrArg (fun p => p.2.1.factActive) hon
  have hmap : Heard (s.transView c)
      (((s.onTimeProc rand).mapSetAndTargetStatus (netCallback b)).transView c) := by
    rw [mapSetAndTargetStatus]
    split
    · have hmask : ∀ s : NetDevice b, s.maskRls.transView c = s.transView c := by
        intro s
        refine Prod.ext ?_ rfl
        show isOn (s.relay.rlsTarget &&& backupMaskRl) c = isOn s.relay.rlsTarget c
        rw [isOn_and, isOn_backupMaskRl, Bool.and_true]
      rw [hmask, ← honView]
      exact heard_mapLoop _ c (by rw [honFact, honSet, honTarget]; exact hfact)
    · exact .inl honView
  have hstore : ∀ s : NetDevice b, s.handleStoreDelay.transView c = s.transView c := by
    intro s
    rw [handleStoreDelay]
    dsimp only
    split
    · rfl
    · rfl
  have hoff : ∀ s : NetDevice b, s.checkAutoOff.transView c = s.transView c := by
    intro s
    refine keep_runFrom (fun s : NetDevice b => s.transView c) (fun s j => ?_) s b.chns
    unfold checkAutoOffChannel
    dsimp only
    split
    · exact (transView_of_beside (besideCommand_setTargetState ..) c).trans rfl
    · rfl
  unfold proc
  dsimp only
  rw [transView_of_drive (besideDrive_checkBusyTimeout _) c]
  split
  · rw [transView_of_drive (besideDrive_procIdle _) c, hoff, hstore]
    exact hmap
  · rw [transView_of_drive (besideDrive_procBusy _) c, hoff, hstore]
    exact hmap

theorem transView_changeMode (s : NetDevice b) (c : b.Chn) (m : SwitchMode) (c' : b.Chn) :
    (s.changeMode c m).transView c' = s.transView c' := by
  have hhandle : ∀ s : NetDevice b,
      (s.handleSwitchChangeMode c).transView c' = s.transView c' := by
    intro s
    rw [handleSwitchChangeMode]
    split
    · rfl
    · rfl
    · split
      · rfl
      · exact transView_of_beside (besideCommand_setTargetState ..) c'
  unfold changeMode
  dsimp only
  split
  · exact hhandle _
  · rfl

theorem transView_factActivate (s : NetDevice b) (c : b.Chn) :
    s.factActivate.transView c = s.transView c :=
  keep_runFrom (fun s : NetDevice b => s.transView c)
    (fun _ _ => transView_of_beside (besideCommand_setTargetState ..) c) s b.chns

/-- The states that the flash and the power-on settings give the relays. -/
def restoredTarget (s : NetDevice b) : BitVec 16 :=
  let w := ofLe16 (relayStateLog.restore (relayStateLog.reindex s.relay.stateLog))
  let w := if w = 0xFFFF#16 then 0 else w
  runFrom (applyPowerOnState s.sh) w b.chns &&& backupMaskRl

/-! ## A call of the task -/

/-- The filter of `send_control_dev_manual_to_mcu` lets a command for channel `c` through. -/
def LetsThrough (s : NetDevice b) (c : b.Chn) : Prop :=
  s.checkEnControl (Board.eleOfChn c) (s.sh.nwkControlMsgPara (Board.eleOfChn c)).dst = true ∨
    s.env.sceneActiveArr (Board.eleOfChn c) = true

instance (s : NetDevice b) (c : b.Chn) : Decidable (s.LetsThrough c) :=
  inferInstanceAs (Decidable (_ ∨ _))

/-- What the decision about relay `c` depends on, and what becomes of a command for it. -/
structure SameFor (c : b.Chn) (s s' : NetDevice b) : Prop where
  sh : s'.sh = s.sh
  target : s'.relay.rlsTarget = s.relay.rlsTarget
  times : s'.autoTrans = s.autoTrans
  outside : s'.env.swOutside = s.env.swOutside
  scene : s'.env.sceneActiveArr (Board.eleOfChn c) = s.env.sceneActiveArr (Board.eleOfChn c)
  set : isOn s'.relay.rlsSet c = isOn s.relay.rlsSet c

namespace SameFor

variable {c : b.Chn} {s s' s'' : NetDevice b}

theorem refl (c : b.Chn) (s : NetDevice b) : SameFor c s s := ⟨rfl, rfl, rfl, rfl, rfl, rfl⟩

theorem trans (h : SameFor c s s') (h' : SameFor c s' s'') : SameFor c s s'' :=
  ⟨h'.sh.trans h.sh, h'.target.trans h.target, h'.times.trans h.times,
    h'.outside.trans h.outside, h'.scene.trans h.scene, h'.set.trans h.set⟩

theorem autoCommand (h : SameFor c s s') (param : b.Chn → ExtendedParam) :
    autoCommand param s' c = autoCommand param s c := by
  have htimes : s'.env.autoTransPar = s.env.autoTransPar := h.times
  unfold Device.autoCommand
  rw [h.sh, htimes]

theorem letsThrough (h : SameFor c s s') : s'.LetsThrough c ↔ s.LetsThrough c := by
  rw [LetsThrough, LetsThrough, h.scene, h.sh,
    checkEnControl_congr (congrArg Shared.switchMode h.sh) h.outside]

end SameFor

/-- A command from the network touches of the other modules the scene flag it uses up, the last
state it has told, and what is sent. -/
theorem besides_sendControl (s : NetDevice b) (j : b.Chn) (st updateEn : Bool) :
    (s.sendControlDevManualToMcu (Board.relayEle j) st updateEn).sh = s.sh ∧
      (s.sendControlDevManualToMcu (Board.relayEle j) st updateEn).env.swOutside =
        s.env.swOutside ∧
      ∀ e, e ≠ Board.eleOfChn j →
        (s.sendControlDevManualToMcu (Board.relayEle j) st updateEn).env.sceneActiveArr e =
          s.env.sceneActiveArr e := by
  rw [sendControlDevManualToMcu, Board.relayIdx_relayEle]
  dsimp only
  split
  · generalize hs1 : s.onEnv _ = s1
    have h1 : s1.sh = s.sh ∧ s1.env.swOutside = s.env.swOutside ∧
        ∀ e, e ≠ Board.eleOfChn j → s1.env.sceneActiveArr e = s.env.sceneActiveArr e := by
      rw [← hs1]
      exact ⟨rfl, rfl, fun e he => Function.update_of_ne he ..⟩
    generalize hs2 : (if isOn s1.relay.rlsTarget j = st then s1.publishStatus (Board.relayEle j)
      else s1) = s2
    have h2 : s2.sh = s1.sh ∧ s2.env.swOutside = s1.env.swOutside ∧
        s2.env.sceneActiveArr = s1.env.sceneActiveArr := by
      rw [← hs2]
      split
      · obtain ⟨hkept, hsh, hscene, -⟩ := s1.publishStatus_spec (Board.relayEle j)
        exact ⟨hsh, hkept.outside, hscene⟩
      · exact ⟨rfl, rfl, rfl⟩
    have h3 : (s2.netState j st).sh = s.sh ∧ (s2.netState j st).env.swOutside = s.env.swOutside ∧
        ∀ e, e ≠ Board.eleOfChn j →
          (s2.netState j st).env.sceneActiveArr e = s.env.sceneActiveArr e := by
      rw [sh_netState, env_netState, h2.1, h2.2.1, h2.2.2]
      exact h1
    split
    · exact h3
    · exact h3
  · exact ⟨rfl, rfl, fun _ _ => rfl⟩

/-- A command for another relay. -/
theorem sameFor_sendControl (s : NetDevice b) {c j : b.Chn} (hj : j ≠ c) (st updateEn : Bool) :
    SameFor c s (s.sendControlDevManualToMcu (Board.relayEle j) st updateEn) := by
  have hset : isOn (s.sendControlDevManualToMcu (Board.relayEle j) st updateEn).relay.rlsSet c =
      isOn s.relay.rlsSet c := by
    have hcore : (s.sendControlDevManualToMcu (Board.relayEle j) st updateEn).core.set c =
        s.core.set c := by
      rcases s.core_sendControl j st updateEn with h | h
      · rw [h]
      · rw [h]
        exact s.core.command_set_other _ (Ne.symm hj)
    exact hcore
  have htarget : (s.sendControlDevManualToMcu (Board.relayEle j) st updateEn).relay.rlsTarget =
      s.relay.rlsTarget :=
    congrArg (fun p => p.1.rlsTarget)
      (besideCommand_of_callbackSteps (s.steps_sendControl _ st updateEn).callback)
  have hele : Board.eleOfChn c ≠ Board.eleOfChn j := fun h =>
    hj (Fin.ext (congrArg (fun m : b.Btn => m.val) h.symm))
  obtain ⟨hsh, hout, hscene⟩ := s.besides_sendControl j st updateEn
  exact ⟨hsh, htarget, s.autoTrans_sendControl _ st updateEn, hout, hscene _ hele, hset⟩

/-- A command that is let through, for another state than the relay has. -/
theorem set_sendControl (s : NetDevice b) {c : b.Chn} {st : Bool} (updateEn : Bool)
    (h : s.LetsThrough c) (hst : isOn s.relay.rlsTarget c ≠ st) :
    isOn (s.sendControlDevManualToMcu (Board.relayEle c) st updateEn).relay.rlsSet c = st := by
  have hset : ∀ s' : NetDevice b, s'.core = s.core →
      isOn (s'.netState c st).relay.rlsSet c = st := by
    intro s' hcore
    have hcmd : (s'.netState c st).core.set c = (s.core.command c (.net st)).set c := by
      rw [core_netState, hcore]
    refine hcmd.trans ?_
    have hne : ¬ s.core.target c = st := hst
    rw [RelayCore.command]
    dsimp only
    rw [if_neg hne]
    exact Function.update_self ..
  unfold LetsThrough at h
  rw [sendControlDevManualToMcu, Board.relayIdx_relayEle]
  dsimp only
  rw [if_pos h]
  generalize hs1 : s.onEnv _ = s1
  have hcore1 : s1.core = s.core := by
    rw [← hs1]
    rfl
  have hsame : ¬ isOn s1.relay.rlsTarget c = st := by
    rw [← hs1]
    exact hst
  rw [if_neg hsame]
  split
  · exact hset s1 hcore1
  · exact hset s1 hcore1

/-- The commands of a call that are for relay `c`. -/
def commandsFor (c : b.Chn) (out : List (b.Chn × Bool)) : List Bool :=
  out.filterMap fun p => if p.1 = c then some p.2 else none

/-- **A call of the task** gives relay `c` the command that is decided before it, and a command for
another state is carried out if it is let through. -/
theorem autoLoopTask_spec (param : b.Chn → ExtendedParam) (s : NetDevice b) (c : b.Chn) :
    commandsFor c (s.autoLoopTask param).2 = (autoCommand param s c).toList ∧
      ∀ st, autoCommand param s c = some st → s.LetsThrough c → isOn s.relay.rlsTarget c ≠ st →
        isOn (s.autoLoopTask param).1.relay.rlsSet c = st := by
  have hfor : ∀ (out : List (b.Chn × Bool)) (j : b.Chn) (st : Bool),
      commandsFor c (out ++ [(j, st)]) = commandsFor c out ++ if j = c then [st] else [] := by
    intro out j st
    rw [commandsFor, List.filterMap_append]
    refine congrArg _ ?_
    by_cases hj : j = c
    · simp [hj]
    · simp [hj]
  have hother : ∀ (p : NetDevice b × List (b.Chn × Bool)) (j : b.Chn), j ≠ c →
      SameFor c p.1 (autoLoopChannel param p j).1 ∧
        commandsFor c (autoLoopChannel param p j).2 = commandsFor c p.2 := by
    intro p j hj
    rw [autoLoopChannel]
    cases Device.autoCommand param p.1 j with
    | none => exact ⟨.refl c p.1, rfl⟩
    | some st =>
      refine ⟨p.1.sameFor_sendControl hj st false, ?_⟩
      rw [hfor, if_neg hj, List.append_nil]
  refine runFrom_once
    (P := fun p : NetDevice b × List (b.Chn × Bool) => SameFor c s p.1 ∧ commandsFor c p.2 = [])
    (Q := fun p : NetDevice b × List (b.Chn × Bool) =>
      commandsFor c p.2 = (autoCommand param s c).toList ∧
        ∀ st, autoCommand param s c = some st → s.LetsThrough c → isOn s.relay.rlsTarget c ≠ st →
          isOn p.1.relay.rlsSet c = st) ?_ ?_ ?_ b.nodup_chns (b.mem_chns c) ⟨.refl c s, rfl⟩
  · rintro p j hj ⟨hsame, hout⟩
    obtain ⟨hstep, hcmds⟩ := hother p j hj
    exact ⟨hsame.trans hstep, hcmds.trans hout⟩
  · rintro p ⟨hsame, hout⟩
    rw [autoLoopChannel, hsame.autoCommand]
    cases hcmd : autoCommand param s c with
    | none => exact ⟨hout, by rintro st ⟨⟩⟩
    | some st =>
      refine ⟨?_, ?_⟩
      · rw [hfor, hout, if_pos rfl]
        rfl
      · rintro st' ⟨⟩ hlets hst
        refine set_sendControl p.1 false (hsame.letsThrough.mpr hlets) ?_
        rw [hsame.target]
        exact hst
  · rintro p j hj ⟨hout, hset⟩
    obtain ⟨hstep, hcmds⟩ := hother p j hj
    exact ⟨hcmds.trans hout, fun st hst hlets hne => hstep.set.trans (hset st hst hlets hne)⟩

/-- The task only commands. -/
theorem steps_autoLoopTask (param : b.Chn → ExtendedParam) (s : NetDevice b) :
    NetSteps s (s.autoLoopTask param).1 ∧ (s.autoLoopTask param).1.autoTrans = s.autoTrans := by
  refine invariant_runFrom (I := fun p : NetDevice b × List (b.Chn × Bool) =>
    NetSteps s p.1 ∧ p.1.autoTrans = s.autoTrans) (fun p c hp => ?_) ⟨.refl, rfl⟩ b.chns
  rw [autoLoopChannel]
  cases Device.autoCommand param p.1 c with
  | none => exact hp
  | some st =>
    dsimp only
    exact ⟨hp.1.trans (p.1.steps_sendControl _ st false),
      (p.1.autoTrans_sendControl _ st false).trans hp.2⟩

/-- Relay `c` is to go to `st` by itself. -/
def Wants (param : b.Chn → ExtendedParam) (s : NetDevice b) (c : b.Chn) (st : Bool) : Prop :=
  s.sh.switchMode c = .toggle ∧
    (param c).toggleType = if st then toggleAutoOn else toggleAutoOff

instance (param : b.Chn → ExtendedParam) (s : NetDevice b) (c : b.Chn) (st : Bool) :
    Decidable (s.Wants param c st) := inferInstanceAs (Decidable (_ ∧ _))

/-- The decision, where the light model mirrors the relays. -/
theorem autoCommand_of_mirror {param : b.Chn → ExtendedParam} {s : NetDevice b} {c : b.Chn}
    {st : Bool} (hm : s.Mirror) (h : s.Wants param c st) :
    autoCommand param s c = if isOn s.relay.rlsTarget c ≠ st ∧
      clockTimeExceed s.sh.timeMs (s.autoTrans c).autoTransStT
        (sToMs (param c).delayTimeS.toUInt32) = true then some st else none := by
  obtain ⟨hmode, htype⟩ := h
  have hlevel := hm.level c
  have hval : autoCommand param s c =
      if (s.sh.lightness (Board.relayEle c)).present = (if st then levelMax else levelOff) then none
      else if clockTimeExceed s.sh.timeMs (s.env.autoTransPar c).autoTransStT
        (sToMs (param c).delayTimeS.toUInt32) then some st else none := by
    unfold autoCommand
    dsimp only
    rw [if_pos hmode, htype]
    cases st with
    | true => rfl
    | false => rfl
  have hpresent : (s.sh.lightness (Board.relayEle c)).present =
      (if st then levelMax else levelOff) ↔ isOn s.relay.rlsTarget c = st := by
    rw [hlevel]
    cases isOn s.relay.rlsTarget c <;> cases st <;> decide
  rw [hval]
  by_cases hst : isOn s.relay.rlsTarget c = st
  · rw [if_pos (hpresent.mpr hst), if_neg fun h => h.1 hst]
  · rw [if_neg fun h => hst (hpresent.mp h)]
    exact if_congr (and_iff_right hst).symm rfl rfl

end Device

/-! ## Runs -/

/-- The device with the settings of the task, the true time since boot, and when each relay last
changed its state. -/
structure AutoRun (b : Board) where
  dev : NetDevice b
  param : b.Chn → ExtendedParam
  now : Nat
  changed : b.Chn → Nat

/-- What happens: commands, settings, passes, the factory test, and the task. -/
inductive TaskEvent (b : Board) where
  | setTargetState (idx : Nat) (st : UInt8) (src : SrcControl) (store : Bool)
  | toggleState (idx : Nat) (src : SrcControl)
  | sendControl (m : b.Btn) (st updateEn : Bool)
  | onOffSet (set : MeshCmdGOnoffSet) (extra : Option UInt8) (m : b.Btn) (src dst : UInt16)
  | changeMode (c : b.Chn) (m : SwitchMode)
  | setParam (c : b.Chn) (p : ExtendedParam)
  | zeroSync
  | timerMatch
  | proc (rand : Nat → Nat)
  | factActive (active : Bool)
  | factActivate
  | deinitAfterFact
  | clock (ms s : UInt32)
  /-- the rest of the other modules -/
  | other (env : NetState b) (powerOnState : b.Chn → PowerOnState) (nwk : b.Btn → NwkMessagePara)
  | autoLoop

namespace AutoRun

variable {b : Board}

/-- The device after an event. -/
def devStep (w : AutoRun b) : TaskEvent b → NetDevice b
  | .setTargetState idx st src store => w.dev.setTargetState idx st src store
  | .toggleState idx src => w.dev.toggleState idx src
  | .sendControl m st updateEn => w.dev.sendControlDevManualToMcu m st updateEn
  | .onOffSet set extra m src dst => w.dev.myHandleMeshCmdSigGOnOffSet set extra m src dst
  | .changeMode c m => w.dev.changeMode c m
  | .setParam _ _ => w.dev
  | .zeroSync => w.dev.handleZeroSync
  | .timerMatch => w.dev.handleControlWhenTimerMatch
  | .proc rand => w.dev.proc (netCallback b) rand
  | .factActive active => { w.dev with sh := { w.dev.sh with factActive := active } }
  | .factActivate => w.dev.factActivate
  | .deinitAfterFact => w.dev.deinitAfterFact
  | .clock ms s => { w.dev with sh := { w.dev.sh with
      timeMs := w.dev.sh.timeMs + ms, timeS := w.dev.sh.timeS + s } }
  | .other env powerOnState nwk => { w.dev with
      env := { env with autoTransPar := w.dev.env.autoTransPar }
      sh := { w.dev.sh with powerOnState := powerOnState, nwkControlMsgPara := nwk } }
  | .autoLoop => (w.dev.autoLoopTask w.param).1

def step (w : AutoRun b) (ev : TaskEvent b) : AutoRun b where
  dev := w.devStep ev
  param := match ev with
    | .setParam c p => Function.update w.param c p
    | _ => w.param
  now := match ev with
    | .clock ms _ => w.now + ms.toNat
    | _ => w.now
  changed c :=
    if isOn (w.devStep ev).relay.rlsTarget c = isOn w.dev.relay.rlsTarget c then w.changed c
    else w.now

/-- The device after a boot, with the static values of `auto_trans_par`. -/
def boot (rand : Nat → Nat) (stateLog onTimeLog : LogState) (sh : Shared b) (env : NetState b)
    (param : b.Chn → ExtendedParam) : AutoRun b where
  dev := .boot rand stateLog onTimeLog sh { env with autoTransPar := fun _ => ⟨0, gOnoffRsv⟩ }
  param := param
  now := sh.timeMs.toNat
  changed _ := 0

/-- Relay `c` has been in its state for longer than its delay. -/
def Long (w : AutoRun b) (c : b.Chn) : Prop :=
  w.changed c + 1000 * (w.param c).delayTimeS.toNat < w.now

instance (w : AutoRun b) (c : b.Chn) : Decidable (w.Long c) := inferInstanceAs (Decidable (_ < _))

/-- A call of the task commands relay `c`, which is to go to a state by itself, if and only if the
relay is not there, and has not been for longer than its delay; and the command is carried out. -/
def AutoOk (c : b.Chn) (w : AutoRun b) : TaskEvent b → Prop
  | .autoLoop => ∀ st, w.dev.Wants w.param c st →
      Device.commandsFor c (w.dev.autoLoopTask w.param).2 =
          (if isOn w.dev.relay.rlsTarget c ≠ st ∧ w.Long c then [st] else []) ∧
        (st ∈ Device.commandsFor c (w.dev.autoLoopTask w.param).2 →
          isOn (w.dev.autoLoopTask w.param).1.relay.rlsSet c = st)
  | _ => True

/-- The clock does not come round. -/
def NoWrap (w : AutoRun b) : TaskEvent b → Prop
  | .clock ms _ => w.now + ms.toNat < 2 ^ 32
  | _ => True

/-- Relay `c` does not change its state where the callback does not hear of it, in a pass or at the
end of the factory test, and the filter lets the commands of the task for it through. -/
def HeardAndPassed (c : b.Chn) (w : AutoRun b) : TaskEvent b → Prop
  | .proc _ => w.dev.sh.factActive = true →
      isOn w.dev.relay.rlsSet c = isOn w.dev.relay.rlsTarget c
  | .deinitAfterFact => isOn w.dev.restoredTarget c = isOn w.dev.relay.rlsTarget c
  | .autoLoop => ∀ st, w.dev.Wants w.param c st → isOn w.dev.relay.rlsTarget c ≠ st →
      w.Long c → w.dev.LetsThrough c
  | _ => True

instance (c : b.Chn) (w : AutoRun b) : (ev : TaskEvent b) → Decidable (w.AutoOk c ev)
  | .autoLoop => inferInstanceAs (Decidable (∀ _, _))
  | .setTargetState .. | .toggleState .. | .sendControl .. | .onOffSet .. | .changeMode ..
  | .setParam .. | .zeroSync | .timerMatch | .proc _ | .factActive _ | .factActivate
  | .deinitAfterFact | .clock .. | .other .. => inferInstanceAs (Decidable True)

instance (w : AutoRun b) : (ev : TaskEvent b) → Decidable (w.NoWrap ev)
  | .clock .. => inferInstanceAs (Decidable (_ < _))
  | .setTargetState .. | .toggleState .. | .sendControl .. | .onOffSet .. | .changeMode ..
  | .setParam .. | .zeroSync | .timerMatch | .proc _ | .factActive _ | .factActivate
  | .deinitAfterFact | .other .. | .autoLoop => inferInstanceAs (Decidable True)

instance (c : b.Chn) (w : AutoRun b) : (ev : TaskEvent b) → Decidable (w.HeardAndPassed c ev)
  | .proc _ => inferInstanceAs (Decidable (_ → _))
  | .deinitAfterFact => inferInstanceAs (Decidable (_ = _))
  | .autoLoop => inferInstanceAs (Decidable (∀ _, _))
  | .setTargetState .. | .toggleState .. | .sendControl .. | .onOffSet .. | .changeMode ..
  | .setParam .. | .zeroSync | .timerMatch | .factActive _ | .factActivate
  | .clock .. | .other .. => inferInstanceAs (Decidable True)

/-- **The invariant**: the time of relay `c` is that of its last change. -/
structure Inv (c : b.Chn) (w : AutoRun b) : Prop where
  mirror : w.dev.Mirror
  now_lt : w.now < 2 ^ 32
  time : w.dev.sh.timeMs = UInt32.ofNat w.now
  past : w.changed c ≤ w.now
  timer : (w.dev.autoTrans c).autoTransStT = UInt32.ofNat (w.changed c)
  known : (w.dev.autoTrans c).presentSt = gOnoffRsv ∨
    (w.dev.autoTrans c).presentSt = if isOn w.dev.relay.rlsTarget c then gOn else gOff

variable {w : AutoRun b} {c : b.Chn}

/-- A change that is heard of starts the time, since the state that was heard of last is another. -/
theorem heard_of_known {p : AutoTransPar} {on : Bool}
    (h : p.presentSt = gOnoffRsv ∨ p.presentSt = if on then gOn else gOff) (now : UInt32) :
    Device.heard p now (!on) = ⟨now, if !on then gOn else gOff⟩ := by
  rw [Device.heard, if_pos]
  rcases h with h | h
  · rw [h]
    cases on <;> decide
  · rw [h]
    cases on <;> decide

/-- What leaves alone the state of the relay, its time and the clock. -/
theorem Inv.of_view (h : w.Inv c) {ev : TaskEvent b} (hnow : (w.step ev).now = w.now)
    (hmirror : (w.devStep ev).Mirror)
    (hview : (w.devStep ev).transView c = w.dev.transView c) : (w.step ev).Inv c := by
  have htarget : isOn (w.devStep ev).relay.rlsTarget c = isOn w.dev.relay.rlsTarget c :=
    congrArg Prod.fst hview
  have htrans : (w.step ev).dev.autoTrans c = w.dev.autoTrans c :=
    congrArg (fun v => v.2.1) hview
  have htime : (w.devStep ev).sh.timeMs = w.dev.sh.timeMs := congrArg (fun v => v.2.2.1) hview
  have hchanged : (w.step ev).changed c = w.changed c := if_pos htarget
  refine ⟨hmirror, hnow ▸ h.now_lt, ?_, ?_, ?_, ?_⟩
  · rw [hnow]
    exact htime.trans h.time
  · rw [hnow, hchanged]
    exact h.past
  · rw [htrans, hchanged]
    exact h.timer
  · show _ ∨ _ = if isOn (w.devStep ev).relay.rlsTarget c then gOn else gOff
    rw [htrans, htarget]
    exact h.known

/-- A change of the state that is heard of. -/
theorem Inv.of_change (h : w.Inv c) {ev : TaskEvent b} (hnow : (w.step ev).now = w.now)
    (hmirror : (w.devStep ev).Mirror)
    (hview : (w.devStep ev).transView c = (!isOn w.dev.relay.rlsTarget c,
      Device.heard (w.dev.autoTrans c) w.dev.sh.timeMs (!isOn w.dev.relay.rlsTarget c),
      w.dev.sh.timeMs, w.dev.sh.factActive)) : (w.step ev).Inv c := by
  have htarget : isOn (w.devStep ev).relay.rlsTarget c = !isOn w.dev.relay.rlsTarget c :=
    congrArg Prod.fst hview
  have htrans : (w.step ev).dev.autoTrans c =
      ⟨w.dev.sh.timeMs, if !isOn w.dev.relay.rlsTarget c then gOn else gOff⟩ :=
    (congrArg (fun v => v.2.1) hview).trans (heard_of_known h.known _)
  have htime : (w.devStep ev).sh.timeMs = w.dev.sh.timeMs := congrArg (fun v => v.2.2.1) hview
  have hflip : ∀ t : Bool, ¬ (!t) = t := by decide
  have hchanged : (w.step ev).changed c = w.now := if_neg (htarget ▸ hflip _)
  refine ⟨hmirror, hnow ▸ h.now_lt, ?_, ?_, ?_, ?_⟩
  · rw [hnow]
    exact htime.trans h.time
  · rw [hnow, hchanged]
  · rw [htrans, hchanged]
    exact h.time
  · show _ ∨ _ = if isOn (w.devStep ev).relay.rlsTarget c then gOn else gOff
    rw [htrans, htarget]
    exact .inr rfl

/-- An event in which no time passes: the relay keeps its state and its time, or its change is
heard of. -/
theorem Inv.of_heard (h : w.Inv c) {ev : TaskEvent b} (hnow : (w.step ev).now = w.now)
    (hmirror : (w.devStep ev).Mirror)
    (hview : Device.Heard (w.dev.transView c) ((w.devStep ev).transView c)) :
    (w.step ev).Inv c :=
  hview.elim (h.of_view hnow hmirror) (h.of_change hnow hmirror)

/-- What only commands relays, and leaves the times alone. -/
theorem Inv.of_steps (h : w.Inv c) {ev : TaskEvent b} (hnow : (w.step ev).now = w.now)
    (hsteps : Device.NetSteps w.dev (w.devStep ev))
    (htrans : (w.devStep ev).autoTrans = w.dev.autoTrans) : (w.step ev).Inv c := by
  have hbeside := besideCommand_of_callbackSteps hsteps.callback
  have htarget : (w.devStep ev).relay.rlsTarget = w.dev.relay.rlsTarget :=
    congrArg (fun p => p.1.rlsTarget) hbeside
  have hsh : (w.devStep ev).sh.timeMs = w.dev.sh.timeMs ∧
      (w.devStep ev).sh.factActive = w.dev.sh.factActive :=
    ⟨congrArg (fun p => p.2.timeMs) hbeside, congrArg (fun p => p.2.factActive) hbeside⟩
  refine h.of_view hnow (h.mirror.of_callbackSteps hsteps.callback) ?_
  rw [Device.transView, htarget, htrans, hsh.1, hsh.2]
  rfl

/-- **Step lemma.** -/
theorem Inv.step (h : w.Inv c) {ev : TaskEvent b} (hwrap : w.NoWrap ev)
    (hok : w.HeardAndPassed c ev) : (w.step ev).Inv c := by
  have hmirror : ∀ {s : NetDevice b}, s.relay = w.dev.relay →
      s.sh.lightness = w.dev.sh.lightness → s.Mirror := by
    intro s hrelay hlight
    refine ⟨?_, ?_, ?_, ?_⟩
    · rw [hrelay, hlight]
      exact h.mirror.level
    · rw [hrelay]
      exact h.mirror.set
    · rw [hrelay]
      exact h.mirror.target
    · rw [hrelay]
      exact h.mirror.present
  cases ev with
  | setTargetState idx st src store =>
    exact h.of_view rfl (h.mirror.setTargetState idx st src store)
      (Device.transView_of_beside (w.dev.besideCommand_setTargetState idx st src store) c)
  | toggleState idx src =>
    exact h.of_view rfl (h.mirror.toggleState idx src)
      (Device.transView_of_beside (w.dev.besideCommand_toggleState idx src) c)
  | sendControl m st updateEn =>
    exact h.of_steps rfl (w.dev.steps_sendControl m st updateEn)
      (w.dev.autoTrans_sendControl m st updateEn)
  | onOffSet set extra m src dst =>
    exact h.of_steps rfl (w.dev.steps_myHandleMeshCmdSigGOnOffSet set extra m src dst)
      (w.dev.autoTrans_myHandle set extra m src dst)
  | changeMode j m =>
    exact h.of_view rfl (h.mirror.changeMode j m) (w.dev.transView_changeMode j m c)
  | setParam j p => exact h.of_view rfl h.mirror rfl
  | zeroSync =>
    exact h.of_view rfl h.mirror.handleZeroSync
      (Device.transView_of_drive w.dev.besideDrive_handleZeroSync c)
  | timerMatch =>
    exact h.of_view rfl h.mirror.handleControlWhenTimerMatch
      (Device.transView_of_drive w.dev.besideDrive_handleControlWhenTimerMatch c)
  | proc rand =>
    exact h.of_heard rfl (h.mirror.proc (netCallback b) rand) (w.dev.heard_proc rand c hok)
  | factActive active =>
    -- only the flag of the view changes, which no time depends on
    exact ⟨hmirror rfl rfl, h.now_lt, h.time, (if_pos rfl).trans_le h.past,
      h.timer.trans (congrArg _ (if_pos rfl).symm), h.known⟩
  | factActivate => exact h.of_view rfl h.mirror.factActivate (w.dev.transView_factActivate c)
  | deinitAfterFact =>
    have htarget : isOn (w.devStep .deinitAfterFact).relay.rlsTarget c =
        isOn w.dev.relay.rlsTarget c := hok
    exact h.of_view rfl (Device.mirror_restoreTargetState w.dev) (Prod.ext htarget rfl)
  | clock ms sec =>
    have hchanged : (w.step (.clock ms sec)).changed c = w.changed c := if_pos rfl
    refine ⟨hmirror rfl rfl, hwrap, ?_, ?_, ?_, h.known⟩
    · show w.dev.sh.timeMs + ms = UInt32.ofNat (w.now + ms.toNat)
      rw [h.time, UInt32.ofNat_add, UInt32.ofNat_toNat]
    · rw [hchanged]
      exact Nat.le_add_right_of_le h.past
    · rw [hchanged]
      exact h.timer
  | other env powerOnState nwk => exact h.of_view rfl (hmirror rfl rfl) rfl
  | autoLoop =>
    obtain ⟨hsteps, htrans⟩ := w.dev.steps_autoLoopTask w.param
    exact h.of_steps rfl hsteps htrans

/-- The code's comparison is the true one, as long as the clock has not come round. -/
theorem Inv.over_iff (h : w.Inv c) :
    clockTimeExceed w.dev.sh.timeMs (w.dev.autoTrans c).autoTransStT
      (sToMs (w.param c).delayTimeS.toUInt32) = true ↔ w.Long c := by
  have hpast := h.past
  have hlt := h.now_lt
  have hdelay := (w.param c).delayTimeS.toNat_lt
  have hms : (sToMs (w.param c).delayTimeS.toUInt32).toNat =
      1000 * (w.param c).delayTimeS.toNat := by
    rw [sToMs, UInt32.toNat_mul, UInt16.toNat_toUInt32]
    show (w.param c).delayTimeS.toNat * 1000 % 2 ^ 32 = _
    omega
  rw [clockTimeExceed, h.time, h.timer, ← UInt32.ofNat_sub hpast, decide_eq_true_iff,
    gt_iff_lt, UInt32.lt_iff_toNat_lt, hms, UInt32.toNat_ofNat', Nat.mod_eq_of_lt (by omega), Long]
  omega

/-- One event. -/
theorem Inv.autoOk (h : w.Inv c) {ev : TaskEvent b} (hok : w.HeardAndPassed c ev) :
    w.AutoOk c ev := by
  cases ev with
  | autoLoop =>
    intro st hwants
    obtain ⟨hout, hset⟩ := w.dev.autoLoopTask_spec w.param c
    rw [Device.autoCommand_of_mirror h.mirror hwants] at hout hset
    have hiff : isOn w.dev.relay.rlsTarget c ≠ st ∧
        clockTimeExceed w.dev.sh.timeMs (w.dev.autoTrans c).autoTransStT
          (sToMs (w.param c).delayTimeS.toUInt32) = true ↔
        isOn w.dev.relay.rlsTarget c ≠ st ∧ w.Long c := and_congr_right fun _ => h.over_iff
    by_cases hdue : isOn w.dev.relay.rlsTarget c ≠ st ∧ w.Long c
    · rw [if_pos (hiff.mpr hdue)] at hout hset
      refine ⟨by rw [hout, if_pos hdue]; rfl, fun _ => ?_⟩
      exact hset st rfl (hok st hwants hdue.1 hdue.2) hdue.1
    · rw [if_neg fun h => hdue (hiff.mp h)] at hout
      refine ⟨by rw [hout, if_neg hdue]; rfl, fun hmem => ?_⟩
      rw [hout] at hmem
      cases hmem
  | _ => trivial

/-- **Every run** from a boot in which the clock does not come round, relay `c` does not change its
state where the callback does not hear of it, and the filter lets the commands of the task for it
through: whenever the relay is to go to a state by itself, it is commanded exactly when it has not
been there for longer than its delay, and the command is carried out. -/
theorem autoOk_of_heard (rand : Nat → Nat) (stateLog onTimeLog : LogState) (sh : Shared b)
    (env : NetState b) (param : b.Chn → ExtendedParam) (c : b.Chn) (evs : List (TaskEvent b))
    (hwrap : AllSteps step NoWrap (boot rand stateLog onTimeLog sh env param) evs)
    (hok : AllSteps step (HeardAndPassed c) (boot rand stateLog onTimeLog sh env param) evs) :
    AllSteps step (AutoOk c) (boot rand stateLog onTimeLog sh env param) evs := by
  have hboot : (boot rand stateLog onTimeLog sh env param).Inv c :=
    ⟨Device.mirror_relayInit rand _, sh.timeMs.toNat_lt, UInt32.ofNat_toNat.symm,
      Nat.zero_le _, rfl, .inl rfl⟩
  exact AllSteps.transport (fun _ _ h hs => h.step hs.1 hs.2) (fun _ _ h hs => h.autoOk hs.2) hboot
    (hwrap.and hok)

/-- The settings: ON by itself after one second. -/
def onAfter1S : b.Chn → ExtendedParam := fun _ => ⟨toggleAutoOn, 1⟩

/-- A one-relay device, which goes ON after 1001 ms, is commanded OFF, and goes ON again. -/
theorem autoOk_of_heard_twice :
    AllSteps step (AutoOk board1.chn0)
      (boot (fun _ => 0) emptyLog emptyLog demoShared demoNet onAfter1S)
      [.clock 1000 1, .autoLoop, .clock 1 0, .autoLoop, .proc fun _ => 0,
        .sendControl (Board.relayEle board1.chn0) false true, .proc fun _ => 0, .clock 1001 1,
        .autoLoop] :=
  autoOk_of_heard (fun _ => 0) emptyLog emptyLog demoShared demoNet onAfter1S board1.chn0
    [.clock 1000 1, .autoLoop, .clock 1 0, .autoLoop, .proc fun _ => 0,
      .sendControl (Board.relayEle board1.chn0) false true, .proc fun _ => 0, .clock 1001 1,
      .autoLoop] (by decide +kernel) (by decide +kernel)

/-- Relay 0 hears OFF for all nodes and is put into momentary mode: the command for relay 2 is
dropped. -/
theorem autoLoop_dropped :
    ¬ ∀ (b : Board) (rand : Nat → Nat) (stateLog onTimeLog : LogState) (sh : Shared b)
      (env : NetState b) (param : b.Chn → ExtendedParam) (c : b.Chn) (evs : List (TaskEvent b)),
      AllSteps step NoWrap (boot rand stateLog onTimeLog sh env param) evs →
      AllSteps step (AutoOk c) (boot rand stateLog onTimeLog sh env param) evs := by
  intro h
  have hrun := h board3 (fun _ => 0) emptyLog emptyLog net3.sh net3.env onAfter1S
    ⟨2, by decide⟩
    [.onOffSet ⟨gOff, 0, 0, 0⟩ none (Board.relayEle ⟨0, by decide⟩) 1 adrAllNodes,
      .changeMode ⟨0, by decide⟩ .momentary, .clock 2000 2, .autoLoop] (by decide +kernel)
  revert hrun
  decide +kernel

end AutoRun

end LumesSwitch
