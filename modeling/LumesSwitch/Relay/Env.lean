import LumesSwitch.Relay.Events

/-!
# What the parts of the relay driver leave alone

Commands, the on-time loop, and the drives with the interrupts behind them each write variables
of their own. For each there is one observation of all that they leave alone, and the lemmas
that later modules use are its components.

- `Device.besideCommand`, `Device.besideOnTime`, `Device.besideDrive` — the observations;
- `Device.outView` — what is sent, seen through a function on the outputs;
- `Device.env_proc` — what the callback leaves alone of the other modules, a pass does too;
- `Device.SharedKept` — of what they share, commands and callbacks only change the
  parameters of the last control messages;
- `Device.pulse` — what the automatic OFF depends on.
-/

namespace LumesSwitch

open Runs

/-- The on-times that are sent for channel `c`, in order. -/
def answersFor (c : Nat) (out : List RelayOut) : List Nat :=
  out.filterMap fun
    | .onTimeRsp idx seconds => if idx = c then some seconds.toNat else none
    | _ => none

theorem answersFor_append (c : Nat) (out out' : List RelayOut) :
    answersFor c (out ++ out') = answersFor c out ++ answersFor c out' := List.filterMap_append

/-- Sending something else is no answer. -/
theorem answersFor_concat {o : RelayOut} (h : ∀ c, answersFor c [o] = []) (out : List RelayOut) :
    (fun c => answersFor c (out ++ [o])) = fun c => answersFor c out := by
  funext c
  rw [answersFor_append, h, List.append_nil]

namespace Device

variable {b : Board} {ε : Type} (s : Device b ε)

/-! ## Observations -/

/-- The driver less what a command writes, what it shares less the parameters of the last
control messages, and the other modules. -/
def besideCommand : (RelayState b × Shared b) × ε :=
  (({ s.relay with rlsSet := 0, storeDelay := ⟨false, 0, 0⟩, srcControl := fun _ => .device },
    { s.sh with nwkControlMsgPara := fun _ => ⟨0, 0, 0⟩ }), s.env)

/-- The device less the on-time. -/
def besideOnTime : RelayState b × Shared b × ε :=
  ({ s.relay with
      onTime := fun _ => ⟨0, 0, 0, 0, 0⟩, onTimeLog := ⟨0, fun _ => 0⟩, out := [] }, s.sh, s.env)

/-- The other modules, the state of the relays with its store, and what is stored and sent of the
on-time. -/
def besideDrive : (Shared b × ε) × (BitVec 16 × BitVec 16 × StoreRelayStDelay × LogState) ×
    (b.Chn → UInt32) × LogState × (Nat → List Nat) :=
  ((s.sh, s.env), (s.relay.rlsSet, s.relay.rlsTarget, s.relay.storeDelay, s.relay.stateLog),
    (fun c => (s.relay.onTime c).totalSecondsStored), s.relay.onTimeLog,
    fun c => answersFor c s.relay.out)

/-- What is outside the driver. -/
def outside : Shared b × ε := (s.sh, s.env)

/-! ## Commands -/

theorem besideCommand_record (idx : Nat) (cmd : RelayCmd) :
    (s.record idx cmd).besideCommand = s.besideCommand := by
  rw [record]
  split <;> rfl

theorem besideCommand_updateControlMessageParams (idx : Nat) (src dst opcode : UInt16) :
    (s.updateControlMessageParams idx src dst opcode).besideCommand = s.besideCommand := by
  rw [updateControlMessageParams]
  split <;> rfl

theorem besideCommand_writeSet (idx : Nat) (st : UInt8) (src : SrcControl) (store : Bool) :
    (s.writeSet idx st src store).besideCommand = s.besideCommand := by
  have hdelay : ∀ (p : Prop) [Decidable p] (s : Device b ε),
      (if p then s.setupStoreStateDelay else s).besideCommand = s.besideCommand := by
    intro p _ s
    split <;> rfl
  rw [writeSet]
  split
  · dsimp only
    split
    · rw [besideCommand_updateControlMessageParams]
      exact hdelay _ (s.updRelay _)
    · exact hdelay _ (s.updRelay _)
  · rfl

theorem besideCommand_setTargetState (idx : Nat) (st : UInt8) (src : SrcControl) (store : Bool) :
    (s.setTargetState idx st src store).besideCommand = s.besideCommand := by
  rw [setTargetState, besideCommand_writeSet, besideCommand_record]

theorem besideCommand_toggleState (idx : Nat) (src : SrcControl) :
    (s.toggleState idx src).besideCommand = s.besideCommand := by
  rw [toggleState, besideCommand_writeSet, besideCommand_record]

theorem besideCommand_netState (idx : Nat) (st : Bool) :
    (s.netState idx st).besideCommand = s.besideCommand := by
  unfold netState
  dsimp only
  split
  · exact s.besideCommand_record idx _
  · rw [besideCommand_writeSet, besideCommand_record]

@[simp] theorem env_updateControlMessageParams (idx : Nat) (src dst opcode : UInt16) :
    (s.updateControlMessageParams idx src dst opcode).env = s.env :=
  congrArg Prod.snd (s.besideCommand_updateControlMessageParams ..)

@[simp] theorem env_writeSet (idx : Nat) (st : UInt8) (src : SrcControl) (store : Bool) :
    (s.writeSet idx st src store).env = s.env :=
  congrArg Prod.snd (s.besideCommand_writeSet ..)

@[simp] theorem env_setTargetState (idx : Nat) (st : UInt8) (src : SrcControl) (store : Bool) :
    (s.setTargetState idx st src store).env = s.env :=
  congrArg Prod.snd (s.besideCommand_setTargetState ..)

@[simp] theorem env_toggleState (idx : Nat) (src : SrcControl) :
    (s.toggleState idx src).env = s.env :=
  congrArg Prod.snd (s.besideCommand_toggleState ..)

@[simp] theorem env_netState (idx : Nat) (st : Bool) : (s.netState idx st).env = s.env :=
  congrArg Prod.snd (s.besideCommand_netState ..)

@[simp] theorem env_changeMode (c : b.Chn) (m : SwitchMode) : (s.changeMode c m).env = s.env := by
  have hhandle : ∀ s : Device b ε, (s.handleSwitchChangeMode c).env = s.env := by
    intro s
    rw [handleSwitchChangeMode]
    split
    · rfl
    · rfl
    · split
      · rfl
      · exact s.env_setTargetState ..
  unfold changeMode
  dsimp only
  split
  · exact hhandle _
  · rfl

end Device

/-- Callback steps are commands, but for the other modules. -/
theorem besideCommand_of_callbackSteps {b : Board} {ε : Type} {s s' : Device b ε}
    (h : Relation.ReflTransGen CallbackStep s s') :
    s'.besideCommand.1 = s.besideCommand.1 := by
  induction h with
  | refl => rfl
  | tail _ hstep ih =>
    refine Eq.trans ?_ ih
    cases hstep with
    | setTargetState idx st src store =>
      exact congrArg Prod.fst (Device.besideCommand_setTargetState _ idx st src store)
    | toggleState idx src => exact congrArg Prod.fst (Device.besideCommand_toggleState _ idx src)
    | netState idx st => exact congrArg Prod.fst (Device.besideCommand_netState _ idx st)
    | other env nwk => rfl

namespace Device

variable {b : Board} {ε : Type} (s : Device b ε)

/-! ## The on-time loop -/

theorem besideOnTime_checkPublishRelayOnTime (rand : Nat) (c : b.Chn) :
    (s.checkPublishRelayOnTime rand c).besideOnTime = s.besideOnTime := by
  have hstore : ∀ s : Device b ε, s.storeTotalRelayOnTime.besideOnTime = s.besideOnTime := by
    intro s
    rw [storeTotalRelayOnTime]
    split <;> rfl
  rw [checkPublishRelayOnTime]
  dsimp only
  split
  · rw [responseTotalRelayOnTime, hstore]
    rfl
  · rfl

theorem besideOnTime_onTimeProc (rand : Nat → Nat) :
    (s.onTimeProc rand).besideOnTime = s.besideOnTime := by
  have hbody : ∀ (s : Device b ε) (c : b.Chn),
      (onTimeChannel rand s c).besideOnTime = s.besideOnTime := by
    intro s c
    rw [onTimeChannel]
    dsimp only
    split
    · split
      · rw [besideOnTime_checkPublishRelayOnTime]
        rfl
      · rfl
    · exact s.besideOnTime_checkPublishRelayOnTime ..
  rw [onTimeProc]
  split
  · exact keep_runFrom besideOnTime hbody s _
  · rfl

theorem outside_onTimeProc (rand : Nat → Nat) : (s.onTimeProc rand).outside = s.outside :=
  congrArg (fun p => (p.2.1, p.2.2)) (s.besideOnTime_onTimeProc rand)

/-! ## Drives and interrupts -/

theorem besideDrive_handleZeroSync : s.handleZeroSync.besideDrive = s.besideDrive := by
  have hgrid : ∀ s : Device b ε, s.gridFreqZeroSync.besideDrive = s.besideDrive := by
    intro s
    rw [gridFreqZeroSync]
    dsimp only
    split
    · split <;> split <;> rfl
    · rfl
  unfold handleZeroSync
  dsimp only
  rw [hgrid]
  split <;> rfl

theorem besideDrive_handleControlWhenTimerMatch :
    s.handleControlWhenTimerMatch.besideDrive = s.besideDrive := by
  rw [handleControlWhenTimerMatch, drivePin]
  dsimp only
  split
  · split <;> rfl
  · rfl

/-- Sending no answer. -/
theorem besideDrive_emit {o : RelayOut} (h : ∀ c, answersFor c [o] = []) :
    (s.emit o).besideDrive = s.besideDrive :=
  congrArg (fun answers => (s.besideDrive.1, s.besideDrive.2.1, s.besideDrive.2.2.1,
    s.besideDrive.2.2.2.1, answers)) (answersFor_concat h s.relay.out)

/-- An update of an on-time entry that leaves the stored total alone. -/
theorem besideDrive_updOnTime (c : b.Chn) {f : RelayOnTime → RelayOnTime}
    (h : ∀ p, (f p).totalSecondsStored = p.totalSecondsStored) :
    (s.updOnTime c f).besideDrive = s.besideDrive := by
  have hstored : (fun c' => ((s.updOnTime c f).relay.onTime c').totalSecondsStored) =
      fun c' => (s.relay.onTime c').totalSecondsStored := by
    funext c'
    show (Function.update s.relay.onTime c (f (s.relay.onTime c)) c').totalSecondsStored = _
    by_cases hc : c' = c
    · subst hc
      rw [Function.update_self, h]
    · rw [Function.update_of_ne hc]
  exact congrArg (fun stored => (s.besideDrive.1, s.besideDrive.2.1, stored,
    s.besideDrive.2.2.2)) hstored

theorem besideDrive_consumeOnTime (c : b.Chn) (on : Bool) :
    (s.consumeOnTime c on).besideDrive = s.besideDrive := by
  have hrest : ∀ (s : Device b ε) (f : RelayState b → b.Chn → Bool)
      (g : RelayState b → BitVec 16), (s.updRelay fun r =>
      { r with powerOnControl := f r, rlsActual := g r }).besideDrive = s.besideDrive :=
    fun _ _ _ => rfl
  have hclamp : (s.clampCheckStart c).besideDrive = s.besideDrive :=
    s.besideDrive_updOnTime c fun _ => rfl
  have hcount : ∀ f : RelayOnTime → RelayOnTime,
      (∀ p, (f p).totalSecondsStored = p.totalSecondsStored) →
        ((s.clampCheckStart c).updOnTime c f).besideDrive = s.besideDrive :=
    fun f hf => (besideDrive_updOnTime _ c hf).trans hclamp
  rw [consumeOnTime]
  rw [hrest]
  split
  · split
    · rw [besideDrive_emit _ fun _ => rfl]
      exact hcount _ fun _ => rfl
    · exact hclamp
  · exact hcount _ fun _ => rfl

theorem besideDrive_consumeDone : s.consumeDone.besideDrive = s.besideDrive := by
  have hdone : ∀ s : Device b ε, (s.updRelay fun r =>
      { r with doneOnOffControlFlag := false }).besideDrive = s.besideDrive := fun _ => rfl
  rw [consumeDone, hdone]
  split
  · rfl
  · rw [besideDrive_consumeOnTime]
    rfl

theorem besideDrive_startDrive (c : b.Chn) : (s.startDrive c).besideDrive = s.besideDrive := by
  have htimer : ∀ s : Device b ε, (s.setUpTimeToChangeState.updRelay fun r =>
      { r with controlWhenTimeout := false }).besideDrive = s.besideDrive :=
    fun s => s.besideDrive_emit fun _ => rfl
  unfold startDrive
  dsimp only
  rw [htimer]
  split <;> rfl

theorem besideDrive_procIdle : s.procIdle.besideDrive = s.besideDrive := by
  unfold procIdle
  dsimp only
  generalize hs₁ : (if s.relay.doneOnOffControlFlag then s.consumeDone else s) = s₁
  have h₁ : s₁.besideDrive = s.besideDrive := by
    rw [← hs₁]
    split
    · exact s.besideDrive_consumeDone
    · rfl
  split
  · split
    · rw [besideDrive_startDrive, h₁]
    · exact h₁
  · exact h₁

theorem besideDrive_procBusy : s.procBusy.besideDrive = s.besideDrive := by
  rw [procBusy]
  split <;> rfl

theorem besideDrive_checkBusyTimeout : s.checkBusyTimeout.besideDrive = s.besideDrive := by
  unfold checkBusyTimeout
  dsimp only
  generalize hs₁ : (if s.relay.relayModuleSt ≠ .busy then s.updRelay fun r =>
    { r with mdBusyStTime := s.sh.timeMs } else s) = s₁
  have h₁ : s₁.besideDrive = s.besideDrive := by
    rw [← hs₁]
    split <;> rfl
  split
  · exact (s₁.besideDrive_emit fun _ => rfl).trans h₁
  · exact h₁

theorem outside_handleZeroSync : s.handleZeroSync.outside = s.outside :=
  congrArg Prod.fst s.besideDrive_handleZeroSync

theorem outside_handleControlWhenTimerMatch :
    s.handleControlWhenTimerMatch.outside = s.outside :=
  congrArg Prod.fst s.besideDrive_handleControlWhenTimerMatch

theorem outside_procIdle : s.procIdle.outside = s.outside :=
  congrArg Prod.fst s.besideDrive_procIdle

theorem outside_procBusy : s.procBusy.outside = s.outside :=
  congrArg Prod.fst s.besideDrive_procBusy

theorem outside_checkBusyTimeout : s.checkBusyTimeout.outside = s.outside :=
  congrArg Prod.fst s.besideDrive_checkBusyTimeout

@[simp] theorem env_handleZeroSync : s.handleZeroSync.env = s.env :=
  congrArg Prod.snd s.outside_handleZeroSync

@[simp] theorem env_handleControlWhenTimerMatch : s.handleControlWhenTimerMatch.env = s.env :=
  congrArg Prod.snd s.outside_handleControlWhenTimerMatch

/-! ## Outputs -/

section Outputs

variable {α : Type*} {f : RelayOut → Option α} {s}

/-- The half period, the target states, and the outputs that `f` is about, in order. -/
def outView (f : RelayOut → Option α) (s : Device b ε) : UInt16 × BitVec 16 × List α :=
  (s.relay.halfPeriodOfGrid, s.relay.rlsTarget, s.relay.out.filterMap f)

theorem outView_of_beside {s' : Device b ε} (h : s'.besideCommand.1 = s.besideCommand.1) :
    s'.outView f = s.outView f := congrArg (fun p : RelayState b × Shared b =>
  (p.1.halfPeriodOfGrid, p.1.rlsTarget, p.1.out.filterMap f)) h

theorem outView_emit (s : Device b ε) (o : RelayOut) :
    (s.emit o).outView f = (s.relay.halfPeriodOfGrid, s.relay.rlsTarget,
      s.relay.out.filterMap f ++ (f o).toList) := by
  show (_, _, (s.relay.out ++ [o]).filterMap f) = _
  rw [List.filterMap_append, List.filterMap_cons, List.filterMap_nil]
  cases f o with
  | none => rfl
  | some x => rfl

/-- What `f` is not about. -/
theorem outView_emit_none (s : Device b ε) {o : RelayOut} (h : f o = none) :
    (s.emit o).outView f = s.outView f := by
  rw [outView_emit, h, Option.toList_none, List.append_nil]
  rfl

theorem outView_changeMode (s : Device b ε) (c : b.Chn) (m : SwitchMode) :
    (s.changeMode c m).outView f = s.outView f := by
  have hhandle : ∀ s : Device b ε, (s.handleSwitchChangeMode c).outView f = s.outView f := by
    intro s
    rw [handleSwitchChangeMode]
    split
    · rfl
    · rfl
    · split
      · rfl
      · exact outView_of_beside (congrArg Prod.fst (s.besideCommand_setTargetState ..))
  unfold changeMode
  dsimp only
  split
  · exact hhandle _
  · rfl

theorem outView_onTimeProc (h : ∀ idx seconds, f (.onTimeRsp idx seconds) = none) (s : Device b ε)
    (rand : Nat → Nat) : (s.onTimeProc rand).outView f = s.outView f := by
  have hstore : ∀ s : Device b ε, s.storeTotalRelayOnTime.outView f = s.outView f := by
    intro s
    rw [storeTotalRelayOnTime]
    split <;> rfl
  have hpublish : ∀ (s : Device b ε) (r : Nat) (c : b.Chn),
      (s.checkPublishRelayOnTime r c).outView f = s.outView f := by
    intro s r c
    rw [checkPublishRelayOnTime]
    dsimp only
    split
    · rw [responseTotalRelayOnTime, hstore, outView_emit_none _ (h _ _)]
      rfl
    · rfl
  rw [onTimeProc]
  split
  · refine keep_runFrom (outView f) (fun s c => ?_) s _
    rw [onTimeChannel]
    dsimp only
    split
    · split
      · rw [hpublish]
        rfl
      · rfl
    · exact hpublish ..
  · rfl

theorem outView_checkAutoOffChannel (s : Device b ε) (c : b.Chn) :
    (s.checkAutoOffChannel c).outView f = s.outView f := by
  rw [checkAutoOffChannel]
  split
  · exact (outView_of_beside (congrArg Prod.fst (besideCommand_setTargetState ..))).trans rfl
  · rfl

theorem outView_consumeDone (h : f .storeOnTimeTask = none) (s : Device b ε) :
    s.consumeDone.outView f = s.outView f := by
  have hdone : ∀ s : Device b ε, (s.updRelay fun r =>
      { r with doneOnOffControlFlag := false }).outView f = s.outView f := fun _ => rfl
  have hrest : ∀ (s : Device b ε) (g : RelayState b → b.Chn → Bool)
      (w : RelayState b → BitVec 16), (s.updRelay fun r =>
      { r with powerOnControl := g r, rlsActual := w r }).outView f = s.outView f :=
    fun _ _ _ => rfl
  rw [consumeDone, hdone]
  split
  · rfl
  · rw [consumeOnTime, hrest]
    split
    · split
      · rw [outView_emit_none _ h]
        rfl
      · rfl
    · rfl

/-- A drive programs one compare value. -/
theorem outView_startDrive (s : Device b ε) (c : b.Chn) :
    (s.startDrive c).outView f = (s.relay.halfPeriodOfGrid, s.relay.rlsTarget,
      s.relay.out.filterMap f ++ (f (.timerCmp
        (if s.relay.halfPeriodOfGrid = 8000 then s.relay.halfPeriodOfGrid - 5200 + 300
          else s.relay.halfPeriodOfGrid - 5200))).toList) := by
  have hset : ∀ s : Device b ε, (s.setUpTimeToChangeState.updRelay fun r =>
      { r with controlWhenTimeout := false }).outView f =
        (s.relay.halfPeriodOfGrid, s.relay.rlsTarget, s.relay.out.filterMap f ++ (f (.timerCmp
          (if s.relay.halfPeriodOfGrid = 8000 then s.relay.halfPeriodOfGrid - 5200 + 300
            else s.relay.halfPeriodOfGrid - 5200))).toList) :=
    fun s => s.outView_emit _
  unfold startDrive
  dsimp only
  rw [hset]
  split <;> rfl

theorem outView_checkBusyTimeout (h : f .startReboot = none) (s : Device b ε) :
    s.checkBusyTimeout.outView f = s.outView f := by
  unfold checkBusyTimeout
  dsimp only
  generalize hs1 : (if s.relay.relayModuleSt ≠ .busy then s.updRelay fun r =>
    { r with mdBusyStTime := s.sh.timeMs } else s) = s1
  have h1 : s1.outView f = s.outView f := by
    rw [← hs1]
    split
    · rfl
    · rfl
  split
  · exact (s1.outView_emit_none h).trans h1
  · exact h1

theorem outView_handleControlWhenTimerMatch (s : Device b ε) :
    s.handleControlWhenTimerMatch.outView f = s.outView f := by
  rw [handleControlWhenTimerMatch, drivePin]
  dsimp only
  split
  · split <;> rfl
  · rfl

end Outputs

/-! ## `relay_proc` -/

theorem outside_handleStoreDelay : s.handleStoreDelay.outside = s.outside := by
  rw [handleStoreDelay]
  dsimp only
  split <;> rfl

@[simp] theorem env_checkAutoOff : s.checkAutoOff.env = s.env := by
  refine keep_runFrom Device.env (fun s c => ?_) s _
  rw [checkAutoOffChannel]
  split
  · exact env_setTargetState ..
  · rfl

/-- **Frame**: what the callback leaves alone of the other modules' state, so does a pass. -/
theorem env_proc {α : Type*} {v : ε → α} {cb : StateChangeCallback b ε}
    (hcb : ∀ s c st, v (cb.run s c st).env = v s.env) (rand : Nat → Nat) :
    v (s.proc cb rand).env = v s.env := by
  have hcall : ∀ (fact : Bool) (s : Device b ε) c st,
      v (if fact then s else cb.run s c st).env = v s.env := by
    intro fact s c st
    cases fact with
    | true => rfl
    | false => exact hcb s c st
  have hmap : ∀ s : Device b ε, v (s.mapSetAndTargetStatus cb).env = v s.env := by
    intro s
    rw [mapSetAndTargetStatus]
    split
    · refine keep_runFrom (fun s : Device b ε => v s.env) (fun s c => ?_) s _
      rw [mapChannel]
      dsimp only
      split
      · exact hcall _ _ _ _
      · rfl
    · rfl
  have hinner : ∀ {s s' : Device b ε}, s'.outside = s.outside → v s'.env = v s.env :=
    fun h => congrArg v (congrArg Prod.snd h)
  unfold proc
  dsimp only
  rw [hinner (outside_checkBusyTimeout _)]
  split
  · rw [hinner (outside_procIdle _), env_checkAutoOff, hinner (outside_handleStoreDelay _), hmap,
      hinner (s.outside_onTimeProc rand)]
  · rw [hinner (outside_procBusy _), env_checkAutoOff, hinner (outside_handleStoreDelay _), hmap,
      hinner (s.outside_onTimeProc rand)]

/-! ## What the driver shares with the other modules -/

/-- From `s` to `s'` only the parameters of control messages have changed of what is
shared. -/
def SharedKept (s s' : Device b ε) : Prop :=
  ∃ nwk, s'.sh = { s.sh with nwkControlMsgPara := nwk }

namespace SharedKept

variable {s s' s'' : Device b ε}

theorem of_eq (h : s'.sh = s.sh) : SharedKept s s' := ⟨s.sh.nwkControlMsgPara, h⟩

theorem refl (s : Device b ε) : SharedKept s s := .of_eq rfl

theorem trans (h : SharedKept s s') (h' : SharedKept s' s'') : SharedKept s s'' := by
  obtain ⟨nwk, hs⟩ := h
  obtain ⟨nwk', hs'⟩ := h'
  exact ⟨nwk', by rw [hs', hs]⟩

theorem timeMs (h : SharedKept s s') : s'.sh.timeMs = s.sh.timeMs := by
  obtain ⟨nwk, hs⟩ := h
  rw [hs]

theorem switchMode (h : SharedKept s s') : s'.sh.switchMode = s.sh.switchMode := by
  obtain ⟨nwk, hs⟩ := h
  rw [hs]

end SharedKept

theorem SharedKept.of_beside {s s' : Device b ε} (h : s'.besideCommand.1 = s.besideCommand.1) :
    SharedKept s s' :=
  ⟨s'.sh.nwkControlMsgPara,
    congrArg (fun p => { p.2 with nwkControlMsgPara := s'.sh.nwkControlMsgPara }) h⟩

theorem shared_record (idx : Nat) (cmd : RelayCmd) : SharedKept s (s.record idx cmd) :=
  .of_beside (congrArg Prod.fst (s.besideCommand_record ..))

theorem shared_updateControlMessageParams (idx : Nat) (src dst opcode : UInt16) :
    SharedKept s (s.updateControlMessageParams idx src dst opcode) :=
  .of_beside (congrArg Prod.fst (s.besideCommand_updateControlMessageParams ..))

theorem shared_writeSet (idx : Nat) (st : UInt8) (src : SrcControl) (store : Bool) :
    SharedKept s (s.writeSet idx st src store) :=
  .of_beside (congrArg Prod.fst (s.besideCommand_writeSet ..))

theorem shared_setTargetState (idx : Nat) (st : UInt8) (src : SrcControl) (store : Bool) :
    SharedKept s (s.setTargetState idx st src store) :=
  .of_beside (congrArg Prod.fst (s.besideCommand_setTargetState ..))

theorem shared_toggleState (idx : Nat) (src : SrcControl) :
    SharedKept s (s.toggleState idx src) :=
  .of_beside (congrArg Prod.fst (s.besideCommand_toggleState ..))

theorem shared_netState (idx : Nat) (st : Bool) : SharedKept s (s.netState idx st) :=
  .of_beside (congrArg Prod.fst (s.besideCommand_netState ..))

end Device

/-! ## The automatic OFF -/

namespace Device

variable {b : Board} {ε : Type} (s : Device b ε)

/-- The automatic OFF of relay `c` is due. -/
def AutoOffDue (c : b.Chn) : Prop :=
  s.sh.switchMode c = .momentary ∧ s.relay.onRelayFlag c = true ∧
    clockTimeExceed s.sh.timeMs (s.relay.onRelayStartTime c) 500 = true

instance (c : b.Chn) : Decidable (s.AutoOffDue c) := inferInstanceAs (Decidable (_ ∧ _ ∧ _))

/-- What the automatic OFF depends on. -/
def pulse : (b.Chn → Bool) × (b.Chn → UInt32) × (b.Chn → SwitchMode) × UInt32 :=
  (s.relay.onRelayFlag, s.relay.onRelayStartTime, s.sh.switchMode, s.sh.timeMs)

theorem autoOffDue_congr {s s' : Device b ε} (h : s'.pulse = s.pulse) (c : b.Chn) :
    s'.AutoOffDue c ↔ s.AutoOffDue c := by
  obtain ⟨hflag, hstart, hmode, htime⟩ := by simpa only [pulse, Prod.mk.injEq] using h
  rw [AutoOffDue, hflag, hstart, hmode, htime]
  rfl

theorem pulse_of_beside {s s' : Device b ε} (h : s'.besideCommand.1 = s.besideCommand.1) :
    s'.pulse = s.pulse :=
  congrArg (fun p => (p.1.onRelayFlag, p.1.onRelayStartTime, p.2.switchMode, p.2.timeMs)) h

theorem pulse_setTargetState (idx : Nat) (st : UInt8) (src : SrcControl) (store : Bool) :
    (s.setTargetState idx st src store).pulse = s.pulse :=
  pulse_of_beside (congrArg Prod.fst (s.besideCommand_setTargetState ..))

theorem pulse_onTimeProc (rand : Nat → Nat) : (s.onTimeProc rand).pulse = s.pulse :=
  congrArg (fun p => (p.1.onRelayFlag, p.1.onRelayStartTime, p.2.1.switchMode, p.2.1.timeMs))
    (s.besideOnTime_onTimeProc rand)

theorem pulse_mapSetAndTargetStatus (cb : StateChangeCallback b ε) :
    (s.mapSetAndTargetStatus cb).pulse = s.pulse := by
  have hcall : ∀ (fact : Bool) (s : Device b ε) c st,
      (if fact then s else cb.run s c st).pulse = s.pulse := by
    intro fact s c st
    cases fact with
    | true => rfl
    | false => exact pulse_of_beside (besideCommand_of_callbackSteps (cb.steps s c st))
  have hbody : ∀ (s : Device b ε) (c : b.Chn), (mapChannel cb s c).pulse = s.pulse := by
    intro s c
    rw [mapChannel]
    dsimp only
    split
    · exact (hcall _ _ _ _).trans rfl
    · rfl
  rw [mapSetAndTargetStatus]
  split
  · exact keep_runFrom pulse hbody s _
  · rfl

theorem pulse_handleStoreDelay : s.handleStoreDelay.pulse = s.pulse := by
  rw [handleStoreDelay]
  dsimp only
  split <;> rfl

end Device

end LumesSwitch
