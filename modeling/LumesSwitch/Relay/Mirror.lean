import LumesSwitch.Relay.StoreDelay

/-!
# The light model (`relay.c`)

The element of each relay has a level in the mesh light model. Boot, the end of the factory test
and the mapping write it where they write `RLS_TARGET`; nothing else writes either.

- `Device.Mirror` — the levels are those of the target, and the flags those of the board;
- `Mirror.of_callbackSteps` — whatever the state-change callback commands keeps that;
- `mirror_restoreTargetState` — the boot and the end of the factory test establish it;
- `relay_mirror` — it holds after every operation of a run.
-/

namespace LumesSwitch

open Flags Runs

/-- The level of a relay, present and target. -/
def relayLevel (on : Bool) : StTransition :=
  ⟨if on then levelMax else levelOff, if on then levelMax else levelOff⟩

namespace Device

variable {b : Board} {ε : Type}

/-- `relay_control_refresh_all` -/
def controlRefreshAll (s : Device b ε) : Device b ε := runFrom controlSameState s b.chns

/-- `Switch_handleFactConfirmOrActivate`, at the start of the factory test. -/
def factActivate (s : Device b ε) : Device b ε :=
  runFrom (fun s (c : b.Chn) => s.setTargetState c gOff .device false) s b.chns

/-- `relay_deinit_after_fact` -/
def deinitAfterFact (s : Device b ε) : Device b ε := s.restoreTargetState

/-- **The light model mirrors the relays**, and no flag is set that the board lacks. -/
structure Mirror (s : Device b ε) : Prop where
  level : ∀ c : b.Chn, s.sh.lightness (Board.relayEle c) = relayLevel (isOn s.relay.rlsTarget c)
  set : Masked s.relay.rlsSet
  target : Masked s.relay.rlsTarget
  present : Masked s.relay.rlsPresent

/-! ## Commands -/

theorem masked_writeSet {s : Device b ε} (h : Masked s.relay.rlsSet) (idx : Nat) (st : UInt8)
    (src : SrcControl) (store : Bool) : Masked (s.writeSet idx st src store).relay.rlsSet := by
  by_cases hidx : idx < b.numberRl
  · have hword : (s.writeSet idx st src store).relay.rlsSet = _ :=
      congrArg Prod.fst (s.storing_writeSet ⟨idx, hidx⟩ st src store)
    rw [hword]
    exact masked_and _
  · rw [writeSet_of_ge s hidx]
    exact h

namespace Mirror

variable {s s' : Device b ε}

/-- What commands leave alone has the levels, the target and the present state. -/
theorem of_beside (h : s'.besideCommand.1 = s.besideCommand.1) (hset : Masked s'.relay.rlsSet)
    (hs : s.Mirror) : s'.Mirror := by
  have htarget : s'.relay.rlsTarget = s.relay.rlsTarget := congrArg (fun p => p.1.rlsTarget) h
  have hpresent : s'.relay.rlsPresent = s.relay.rlsPresent := congrArg (fun p => p.1.rlsPresent) h
  have hlevel : s'.sh.lightness = s.sh.lightness := congrArg (fun p => p.2.lightness) h
  refine ⟨fun c => ?_, hset, ?_, ?_⟩
  · rw [hlevel, htarget]
    exact hs.level c
  · rw [htarget]
    exact hs.target
  · rw [hpresent]
    exact hs.present

theorem record (hs : s.Mirror) (idx : Nat) (cmd : RelayCmd) : (s.record idx cmd).Mirror := by
  rw [Device.record]
  split
  · exact ⟨hs.level, hs.set, hs.target, hs.present⟩
  · exact hs

theorem writeSet (hs : s.Mirror) (idx : Nat) (st : UInt8) (src : SrcControl) (store : Bool) :
    (s.writeSet idx st src store).Mirror :=
  hs.of_beside (congrArg Prod.fst (s.besideCommand_writeSet ..))
    (masked_writeSet hs.set idx st src store)

theorem setTargetState (hs : s.Mirror) (idx : Nat) (st : UInt8) (src : SrcControl)
    (store : Bool) : (s.setTargetState idx st src store).Mirror := (hs.record ..).writeSet ..

theorem toggleState (hs : s.Mirror) (idx : Nat) (src : SrcControl) :
    (s.toggleState idx src).Mirror := (hs.record ..).writeSet ..

theorem netState (hs : s.Mirror) (idx : Nat) (st : Bool) : (s.netState idx st).Mirror := by
  rw [Device.netState]
  split
  · exact hs.record ..
  · exact (hs.record ..).writeSet ..

/-- **Re-entrancy**: whatever the callback commands. -/
theorem of_callbackSteps (h : Relation.ReflTransGen CallbackStep s s') (hs : s.Mirror) :
    s'.Mirror := by
  induction h with
  | refl => exact hs
  | tail _ hstep ih =>
    cases hstep with
    | setTargetState idx st src store => exact ih.setTargetState idx st src store
    | toggleState idx src => exact ih.toggleState idx src
    | netState idx st => exact ih.netState idx st
    | other env nwk => exact ⟨ih.level, ih.set, ih.target, ih.present⟩

theorem controlSameState (hs : s.Mirror) (c : b.Chn) : (s.controlSameState c).Mirror :=
  ⟨hs.level, hs.set, hs.target, hs.present.put c _⟩

theorem controlRefreshAll (hs : s.Mirror) : s.controlRefreshAll.Mirror :=
  invariant_runFrom (fun _ c h => h.controlSameState c) hs b.chns

theorem factActivate (hs : s.Mirror) : s.factActivate.Mirror := by
  rw [Device.factActivate]
  exact invariant_runFrom (fun _ c h => h.setTargetState c gOff .device false) hs b.chns

theorem changeMode (hs : s.Mirror) (c : b.Chn) (m : SwitchMode) : (s.changeMode c m).Mirror := by
  have hw : (s.writeSwitchMode c m).Mirror := ⟨hs.level, hs.set, hs.target, hs.present⟩
  unfold Device.changeMode
  dsimp only
  split
  · rw [handleSwitchChangeMode]
    split
    · exact hw.controlSameState c
    · exact hw.controlSameState c
    · split
      · exact hw.controlSameState c
      · exact hw.setTargetState ..
  · exact hw

/-! ## A pass, and the interrupts -/

theorem onTimeProc (hs : s.Mirror) (rand : Nat → Nat) : (s.onTimeProc rand).Mirror := by
  have h := s.besideOnTime_onTimeProc rand
  have hset : (s.onTimeProc rand).relay.rlsSet = s.relay.rlsSet :=
    congrArg (fun p => p.1.rlsSet) h
  have htarget : (s.onTimeProc rand).relay.rlsTarget = s.relay.rlsTarget :=
    congrArg (fun p => p.1.rlsTarget) h
  have hpresent : (s.onTimeProc rand).relay.rlsPresent = s.relay.rlsPresent :=
    congrArg (fun p => p.1.rlsPresent) h
  have hlevel : (s.onTimeProc rand).sh.lightness = s.sh.lightness :=
    congrArg (fun p => p.2.1.lightness) h
  refine ⟨fun c => ?_, ?_, ?_, ?_⟩
  · rw [hlevel, htarget]
    exact hs.level c
  · rw [hset]
    exact hs.set
  · rw [htarget]
    exact hs.target
  · rw [hpresent]
    exact hs.present

/-- Drives leave alone all but the present state. -/
theorem of_besideDrive (h : s'.besideDrive = s.besideDrive) (hp : Masked s'.relay.rlsPresent)
    (hs : s.Mirror) : s'.Mirror := by
  have hset : s'.relay.rlsSet = s.relay.rlsSet := congrArg (fun p => p.2.1.1) h
  have htarget : s'.relay.rlsTarget = s.relay.rlsTarget := congrArg (fun p => p.2.1.2.1) h
  have hlevel : s'.sh.lightness = s.sh.lightness := congrArg (fun p => p.1.1.lightness) h
  refine ⟨fun c => ?_, ?_, ?_, hp⟩
  · rw [hlevel, htarget]
    exact hs.level c
  · rw [hset]
    exact hs.set
  · rw [htarget]
    exact hs.target

theorem handleZeroSync (hs : s.Mirror) : s.handleZeroSync.Mirror := by
  have hgrid : ∀ s : Device b ε, s.gridFreqZeroSync.relay.rlsPresent = s.relay.rlsPresent := by
    intro s
    rw [gridFreqZeroSync]
    dsimp only
    split
    · split <;> split <;> rfl
    · rfl
  refine hs.of_besideDrive s.besideDrive_handleZeroSync ?_
  unfold Device.handleZeroSync
  dsimp only
  rw [hgrid]
  split
  · exact hs.present
  · exact hs.present

theorem handleControlWhenTimerMatch (hs : s.Mirror) : s.handleControlWhenTimerMatch.Mirror := by
  refine hs.of_besideDrive s.besideDrive_handleControlWhenTimerMatch ?_
  rw [Device.handleControlWhenTimerMatch, drivePin]
  dsimp only
  split
  · split
    · exact hs.present
    · exact hs.present
  · exact hs.present

theorem consumeDone (hs : s.Mirror) : s.consumeDone.Mirror := by
  have hrest : ∀ (s : Device b ε) (c : b.Chn) (on : Bool),
      (s.consumeOnTime c on).relay.rlsPresent = s.relay.rlsPresent := by
    intro s c on
    have hlast : ∀ (s : Device b ε) (f : RelayState b → b.Chn → Bool)
        (g : RelayState b → BitVec 16), (s.updRelay fun r =>
        { r with powerOnControl := f r, rlsActual := g r }).relay.rlsPresent =
          s.relay.rlsPresent := fun _ _ _ => rfl
    rw [consumeOnTime, hlast]
    split
    · split <;> rfl
    · rfl
  refine hs.of_besideDrive s.besideDrive_consumeDone ?_
  rw [Device.consumeDone]
  dsimp only
  split
  · exact hs.present
  · show Masked (consumeOnTime _ _ _).relay.rlsPresent
    rw [hrest]
    exact masked_and _

theorem procIdle (hs : s.Mirror) : s.procIdle.Mirror := by
  have hstart : ∀ (s : Device b ε) (c : b.Chn),
      (s.startDrive c).relay.rlsPresent = s.relay.rlsPresent := by
    intro s c
    unfold startDrive
    dsimp only
    split <;> rfl
  unfold Device.procIdle
  dsimp only
  generalize hs1 : (if s.relay.doneOnOffControlFlag then s.consumeDone else s) = s1
  have h1 : s1.Mirror := by
    rw [← hs1]
    split
    · exact hs.consumeDone
    · exact hs
  split
  · split
    · next c _ => exact h1.of_besideDrive (s1.besideDrive_startDrive c) (hstart s1 c ▸ h1.present)
    · exact h1
  · exact h1

theorem procBusy (hs : s.Mirror) : s.procBusy.Mirror := by
  refine hs.of_besideDrive s.besideDrive_procBusy ?_
  rw [Device.procBusy]
  split
  · exact hs.present
  · exact hs.present

theorem checkBusyTimeout (hs : s.Mirror) : s.checkBusyTimeout.Mirror := by
  refine hs.of_besideDrive s.besideDrive_checkBusyTimeout ?_
  unfold Device.checkBusyTimeout
  dsimp only
  split
  · split
    · exact hs.present
    · exact hs.present
  · split
    · exact hs.present
    · exact hs.present

theorem handleStoreDelay (hs : s.Mirror) : s.handleStoreDelay.Mirror := by
  rw [Device.handleStoreDelay]
  dsimp only
  split
  · exact ⟨hs.level, hs.set, hs.target, hs.present⟩
  · exact hs

theorem checkAutoOff (hs : s.Mirror) : s.checkAutoOff.Mirror := by
  refine invariant_runFrom (fun s c hs => ?_) hs b.chns
  unfold checkAutoOffChannel
  dsimp only
  split
  · refine setTargetState ?_ c gOff .device true
    exact ⟨hs.level, hs.set, hs.target, hs.present⟩
  · exact hs

/-- **Step lemma** of the mapping: the level and the target of the channel are written together,
and then the callback goes on from a mirror. -/
theorem mapChannel (hs : s.Mirror) (cb : StateChangeCallback b ε) (c : b.Chn) :
    (s.mapChannel cb c).Mirror := by
  rw [Device.mapChannel]
  split
  · dsimp only
    generalize hs1 : emit _ (RelayOut.ledOn c _) = s1
    have h1 : s1.Mirror := by
      rw [← hs1]
      refine ⟨fun c' => ?_, hs.set, hs.target.put c _, hs.present.put c _⟩
      show Function.update s.sh.lightness (Board.relayEle c) _ (Board.relayEle c') =
        relayLevel (isOn (Flags.put s.relay.rlsTarget c _) c')
      rw [isOn_put _ (chn_lt c)]
      by_cases hc : c' = c
      · subst hc
        rw [Function.update_self, if_pos rfl]
        rfl
      · have hele : Board.relayEle c' ≠ Board.relayEle c := fun h =>
          hc (Option.some.inj (by rw [← Board.relayIdx_relayEle, h, Board.relayIdx_relayEle]))
        rw [Function.update_of_ne hele, if_neg fun h => hc (Fin.ext h)]
        exact hs.level c'
    split
    · exact h1
    · exact of_callbackSteps (cb.steps ..) h1
  · exact hs

theorem mapSetAndTargetStatus (hs : s.Mirror) (cb : StateChangeCallback b ε) :
    (s.mapSetAndTargetStatus cb).Mirror := by
  rw [Device.mapSetAndTargetStatus]
  split
  · have hloop : (runFrom (Device.mapChannel cb) s b.chns).Mirror :=
      invariant_runFrom (fun _ c h => h.mapChannel cb c) hs b.chns
    refine ⟨fun c => ?_, masked_and _, masked_and _, masked_and _⟩
    -- the masking changes no flag of the board
    show _ = relayLevel (isOn (_ &&& backupMaskRl) c)
    rw [hloop.target.and_eq]
    exact hloop.level c
  · exact hs

theorem proc (hs : s.Mirror) (cb : StateChangeCallback b ε) (rand : Nat → Nat) :
    (s.proc cb rand).Mirror := by
  have hmap := ((hs.onTimeProc rand).mapSetAndTargetStatus cb).handleStoreDelay.checkAutoOff
  unfold Device.proc
  dsimp only
  split
  · exact hmap.procIdle.checkBusyTimeout
  · exact hmap.procBusy.checkBusyTimeout

end Mirror

/-! ## Boot, and the end of the factory test -/

/-- The levels are written one relay after the other. -/
theorem lightness_restore (w : BitVec 16) (l : b.Btn → StTransition) (c : b.Chn) :
    runFrom (fun l (c : b.Chn) => Function.update l (Board.relayEle c)
      ⟨if isOn w c then levelMax else levelOff, if isOn w c then levelMax else levelOff⟩) l b.chns
      (Board.relayEle c) = relayLevel (isOn w c) := by
  refine runFrom_finRange (I := fun k (l : b.Btn → StTransition) => ∀ c : b.Chn, c.val < k →
    l (Board.relayEle c) = relayLevel (isOn w c)) (fun l k hl c hc => ?_)
    (fun c hc => absurd hc (Nat.not_lt_zero _)) c c.isLt
  by_cases hck : c = k
  · subst hck
    rw [Function.update_self]
    rfl
  · have hele : Board.relayEle c ≠ Board.relayEle k := fun h =>
      hck (Option.some.inj (by rw [← Board.relayIdx_relayEle, h, Board.relayIdx_relayEle]))
    rw [Function.update_of_ne hele]
    refine hl c (Nat.lt_of_le_of_ne (Nat.lt_succ_iff.mp hc) fun h => hck (Fin.ext h))

/-- Whatever the state was, and whatever is in the flash. -/
theorem mirror_restoreTargetState (s : Device b ε) : s.restoreTargetState.Mirror :=
  ⟨fun c => lightness_restore _ s.sh.lightness c, masked_and _, masked_and _, masked_and _⟩

theorem mirror_relayInit (rand : Nat → Nat) (s : Device b ε) : (s.relayInit rand).Mirror := by
  obtain ⟨hlevel, hset, htarget, hpresent⟩ := mirror_restoreTargetState (s.updRelay fun r =>
    { r with
      pin := fun _ => false
      srcControl := fun _ => .device
      powerOnControl := fun _ => true })
  exact ⟨hlevel, hset, htarget, hpresent⟩

end Device

/-! ## Runs -/

/-- What happens to the relays and to the factory test. -/
inductive MirrorEvent (b : Board) (ε : Type) where
  /-- `relay_init` -/
  | init (rand : Nat → Nat)
  | setTargetState (idx : Nat) (st : UInt8) (src : SrcControl) (store : Bool)
  | toggleState (idx : Nat) (src : SrcControl)
  | netState (idx : Nat) (st : Bool)
  | controlRefreshAll
  | changeMode (c : b.Chn) (m : SwitchMode)
  | zeroSync
  | timerMatch
  | proc (rand : Nat → Nat)
  /-- the factory test is entered, starts, and is left -/
  | factActive (active : Bool)
  | factActivate
  | deinitAfterFact
  | clock (ms s : UInt32)
  /-- the other modules, the settings of the relays and the parameters of control messages -/
  | other (env : ε) (powerOnState : b.Chn → PowerOnState) (nwk : b.Btn → NwkMessagePara)

namespace MirrorEvent

variable {b : Board} {ε : Type}

def run (cb : StateChangeCallback b ε) (s : Device b ε) : MirrorEvent b ε → Device b ε
  | .init rand => s.relayInit rand
  | .setTargetState idx st src store => s.setTargetState idx st src store
  | .toggleState idx src => s.toggleState idx src
  | .netState idx st => s.netState idx st
  | .controlRefreshAll => s.controlRefreshAll
  | .changeMode c m => s.changeMode c m
  | .zeroSync => s.handleZeroSync
  | .timerMatch => s.handleControlWhenTimerMatch
  | .proc rand => s.proc cb rand
  | .factActive active => { s with sh := { s.sh with factActive := active } }
  | .factActivate => s.factActivate
  | .deinitAfterFact => s.deinitAfterFact
  | .clock ms sec =>
    { s with sh := { s.sh with timeMs := s.sh.timeMs + ms, timeS := s.sh.timeS + sec } }
  | .other env powerOnState nwk =>
    { s with
      env := env
      sh := { s.sh with powerOnState := powerOnState, nwkControlMsgPara := nwk } }

/-- **Step lemma.** -/
theorem mirror_run (cb : StateChangeCallback b ε) {s : Device b ε} (hs : s.Mirror)
    (ev : MirrorEvent b ε) : (ev.run cb s).Mirror := by
  cases ev with
  | init rand => exact Device.mirror_relayInit rand s
  | setTargetState idx st src store => exact hs.setTargetState idx st src store
  | toggleState idx src => exact hs.toggleState idx src
  | netState idx st => exact hs.netState idx st
  | controlRefreshAll => exact hs.controlRefreshAll
  | changeMode c m => exact hs.changeMode c m
  | zeroSync => exact hs.handleZeroSync
  | timerMatch => exact hs.handleControlWhenTimerMatch
  | proc rand => exact hs.proc cb rand
  | factActive active => exact ⟨hs.level, hs.set, hs.target, hs.present⟩
  | factActivate => exact hs.factActivate
  | deinitAfterFact => exact Device.mirror_restoreTargetState s
  | clock ms sec => exact ⟨hs.level, hs.set, hs.target, hs.present⟩
  | other env powerOnState nwk => exact ⟨hs.level, hs.set, hs.target, hs.present⟩

end MirrorEvent

/-- **Every run** from a boot, with any callback that only commands: after each operation the
light model mirrors the relays. -/
theorem relay_mirror {b : Board} {ε : Type} (cb : StateChangeCallback b ε) (rand : Nat → Nat)
    (stateLog onTimeLog : LogState) (sh : Shared b) (env : ε) (evs : List (MirrorEvent b ε)) :
    AllStates (fun s ev => MirrorEvent.run cb s ev) Device.Mirror
      (Device.boot rand stateLog onTimeLog sh env) evs :=
  AllStates.of_invariant (fun _ => id) (fun _ ev hs _ => ev.mirror_run cb hs)
    (Device.mirror_relayInit rand _) (AllSteps.of_forall (fun _ _ => trivial) _ evs)

end LumesSwitch
