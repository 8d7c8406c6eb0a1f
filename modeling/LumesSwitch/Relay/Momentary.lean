import LumesSwitch.Net.Message

/-!
# The automatic OFF of momentary relays (`relay.c`)

A drive that a network ON brings about in momentary mode starts a timer, and the pass that finds
it over commands OFF. Neither an OFF nor a new ON stops the timer, and a button ON before the
drive takes the source from the network ON, which then has none.

A pass is cut into its parts, so that commands, mode changes and the clock may come anywhere in
between.

- `Device.part` — the parts; `Device.proc_parts` — a pass is a run of them;
- `AutoView` — what the timer of one relay depends on, and what the parts do to it;
- `AutoLog` — who has commanded the ON in force, and which network ON is owed an OFF;
- `AutoWatch.autoOffOk_iff` — the runs in which the OFF ends the ON that it belongs to.
-/

namespace LumesSwitch

open Flags Runs

/-! ## The parts of a pass -/

/-- The parts of `relay_proc`, and what comes in between. -/
inductive RelayPart (b : Board) (ε : Type) where
  /-- a network command, `SRC_APP` -/
  | net (c : b.Chn) (st : Bool)
  /-- `relay_set_target_state`, `relay_toggle_state` from `SRC_DEVICE` -/
  | button (c : b.Chn) (st store : Bool)
  | toggle (c : b.Chn)
  | changeMode (c : b.Chn) (m : SwitchMode)
  | onTime (rand : Nat → Nat)
  | map (c : b.Chn)
  | mask
  | storeDelay
  | autoOff (c : b.Chn)
  | drive
  | watch
  | zeroSync
  | timerMatch
  | clock (ms s : UInt32)
  | other (env : ε) (factActive : Bool) (lightness : b.Btn → StTransition)
      (nwk : b.Btn → NwkMessagePara)

/-- No callback, in any environment. -/
def silentCallback (b : Board) (ε : Type) : StateChangeCallback b ε where
  run s _ _ := s
  steps _ _ _ := .refl

namespace Device

variable {b : Board} {ε : Type}

/-- One part. -/
def part (s : Device b ε) : RelayPart b ε → Device b ε
  | .net c st => s.netState c st
  | .button c st store => s.setTargetState c (if st then gOn else gOff) .device store
  | .toggle c => s.toggleState c .device
  | .changeMode c m => s.changeMode c m
  | .onTime rand => s.onTimeProc rand
  | .map c => s.mapChannel (silentCallback b ε) c
  | .mask => s.maskRls
  | .storeDelay => s.handleStoreDelay
  | .autoOff c => s.checkAutoOffChannel c
  | .drive => match s.relay.relayModuleSt with
    | .idle => s.procIdle
    | .busy => s.procBusy
  | .watch => s.checkBusyTimeout
  | .zeroSync => s.handleZeroSync
  | .timerMatch => s.handleControlWhenTimerMatch
  | .clock ms sec =>
    { s with sh := { s.sh with timeMs := s.sh.timeMs + ms, timeS := s.sh.timeS + sec } }
  | .other env factActive lightness nwk =>
    { s with
      env := env
      sh := { s.sh with
        factActive := factActive, lightness := lightness, nwkControlMsgPara := nwk } }

theorem run_silentCallback (fact : Bool) (s : Device b ε) (c : b.Chn) (st : UInt8) :
    (if fact then s else (silentCallback b ε).run s c st) = s := ite_self _

/-- The channel whose drive the pass begins. -/
def drivenNext (s : Device b ε) : Option b.Chn :=
  if s.relay.relayModuleSt = .idle then
    let s := if s.relay.doneOnOffControlFlag then s.consumeDone else s
    if s.relay.rlsTarget ≠ s.relay.rlsPresent then s.nextChannel else none
  else none

end Device

/-! ## One relay -/

/-- What the timer of a relay depends on. -/
@[ext] structure AutoView where
  set : Bool
  target : Bool
  mode : SwitchMode
  src : SrcControl
  flag : Bool
  start : UInt32
  now : UInt32

/-- What happens to a relay. -/
inductive AutoEvent where
  | net (st : Bool)
  | device (st : Bool)
  | mode (m : SwitchMode)
  | map
  | autoOff
  /-- a drive begins -/
  | drive
  | clock (ms : UInt32)
  | none

namespace AutoView

variable (v : AutoView)

/-- The timer is over, in momentary mode. -/
def Due : Prop := v.mode = .momentary ∧ v.flag = true ∧ clockTimeExceed v.now v.start 500 = true

instance : Decidable v.Due := inferInstanceAs (Decidable (_ ∧ _ ∧ _))

/-- A drive starts the timer. -/
def Arms : Prop := v.target = true ∧ v.mode = .momentary ∧ v.src = .app

instance : Decidable v.Arms := inferInstanceAs (Decidable (_ ∧ _ ∧ _))

/-- A mode change commands OFF. -/
def ModeOff (m : SwitchMode) : Prop := m = .momentary ∧ v.target = true

instance (m : SwitchMode) : Decidable (v.ModeOff m) := inferInstanceAs (Decidable (_ ∧ _))

/-- One event. -/
def step : AutoEvent → AutoView
  | .net st => if v.target = st then v else { v with set := st, src := .app }
  | .device st => { v with set := st, src := .device }
  | .mode m =>
    if v.mode = m then v
    else if v.ModeOff m then { v with mode := m, set := false, src := .device }
    else { v with mode := m }
  | .map => { v with target := v.set }
  | .autoOff => if v.Due then { v with flag := false, set := false, src := .device } else v
  | .drive => if v.Arms then { v with flag := true, start := v.now, src := .device } else v
  | .clock ms => { v with now := v.now + ms }
  | .none => v

end AutoView

namespace Device

variable {b : Board} {ε : Type}

/-- The view of relay `c`. -/
def autoView (s : Device b ε) (c : b.Chn) : AutoView where
  set := isOn s.relay.rlsSet c
  target := isOn s.relay.rlsTarget c
  mode := s.sh.switchMode c
  src := s.relay.srcControl c
  flag := s.relay.onRelayFlag c
  start := s.relay.onRelayStartTime c
  now := s.sh.timeMs

/-- What a part is to relay `c`. -/
def autoEvent (s : Device b ε) (c : b.Chn) : RelayPart b ε → AutoEvent
  | .net i st => if i = c then .net st else .none
  | .button i st _ => if i = c then .device st else .none
  | .toggle i => if i = c then .device (!isOn s.relay.rlsTarget c) else .none
  | .changeMode i m => if i = c then .mode m else .none
  | .map i => if i = c then .map else .none
  | .autoOff i => if i = c then .autoOff else .none
  | .drive => if s.drivenNext = some c then .drive else .none
  | .clock ms _ => .clock ms
  | _ => .none

end Device

/-! ## What is asked of the timer -/

/-- Who has commanded an ON. -/
inductive OnSource where
  | button
  | network
  deriving DecidableEq

/-- A network ON in momentary mode that is to be ended by an OFF. -/
structure OwedOff where
  /-- no button ON has come before its drive -/
  first : Bool
  /-- milliseconds since its drive began -/
  driven : Option Nat

namespace OwedOff

/-- A button ON comes. -/
def buttonOn (o : OwedOff) : OwedOff := if o.driven = none then { o with first := false } else o

/-- A drive to ON begins. -/
def begin (o : OwedOff) : OwedOff := if o.driven = none then { o with driven := some 0 } else o

def wait (o : OwedOff) (ms : UInt32) : OwedOff := { o with driven := o.driven.map (· + ms.toNat) }

end OwedOff

/-- The commands that a relay has got. The code never reads it. -/
structure AutoLog where
  /-- who has commanded the ON in force -/
  onBy : Option OnSource
  /-- milliseconds since the last network ON -/
  sinceNet : Option Nat
  /-- the timer was set before the last ON -/
  older : Bool
  /-- the network ON that is owed an OFF, as long as mode and command stay -/
  owed : Option OwedOff

namespace AutoLog

def empty : AutoLog := ⟨none, none, false, none⟩

/-- OFF is commanded. -/
def off (g : AutoLog) : AutoLog := { g with onBy := none, owed := none }

/-- What an event adds. A network command for the target state is not applied. -/
def observe (g : AutoLog) (v : AutoView) : AutoEvent → AutoLog
  | .net st =>
    if v.target = st then g
    else if st then
      { onBy := some .network, sinceNet := some 0, older := v.flag
        owed := if v.mode = .momentary then some ⟨true, none⟩ else none }
    else g.off
  | .device st =>
    if st then
      { g with onBy := some .button, older := v.flag, owed := g.owed.map OwedOff.buttonOn }
    else g.off
  | .mode m =>
    if v.mode = m then g else if v.ModeOff m then g.off else { g with owed := none }
  | .autoOff => if v.Due then g.off else g
  | .drive =>
    { g with
      older := if v.Arms then false else g.older
      owed := if v.target then g.owed.map OwedOff.begin else g.owed }
  | .clock ms =>
    { g with sinceNet := g.sinceNet.map (· + ms.toNat), owed := g.owed.map (·.wait ms) }
  | .map | .none => g

/-- No OFF of the timer would hit the ON of the button, or a network ON of the last 500 ms. -/
def Spares (g : AutoLog) : Prop := g.onBy ≠ some .button ∧ ∀ ms ∈ g.sinceNet, 500 ≤ ms

instance (g : AutoLog) : Decidable g.Spares := inferInstanceAs (Decidable (_ ∧ _))

/-- A network ON has been driven for more than 500 ms. -/
def Owes (g : AutoLog) : Prop := ∃ o ∈ g.owed, ∃ ms ∈ o.driven, 500 < ms

instance (g : AutoLog) : Decidable g.Owes :=
  decidable_of_iff (∃ ms ∈ g.owed.bind OwedOff.driven, 500 < ms) <| by
    simp only [Owes, Option.mem_def, Option.bind_eq_some_iff]
    tauto

end AutoLog

/-- The device, and the log of relay `c`. -/
structure AutoWatch (b : Board) (ε : Type) where
  dev : Device b ε
  log : AutoLog

namespace AutoWatch

variable {b : Board} {ε : Type} (c : b.Chn)

/-- One part. -/
def step (w : AutoWatch b ε) (p : RelayPart b ε) : AutoWatch b ε where
  dev := w.dev.part p
  log := w.log.observe (w.dev.autoView c) (w.dev.autoEvent c p)

/-- The device after a boot. -/
def boot (rand : Nat → Nat) (stateLog onTimeLog : LogState) (sh : Shared b) (env : ε) :
    AutoWatch b ε := ⟨.boot rand stateLog onTimeLog sh env, .empty⟩

/-- `relay_check_auto_off` commands OFF. -/
def CommandsOff (s : Device b ε) : Prop :=
  ∃ e : CmdEntry b, (s.checkAutoOffChannel c).trace = s.trace ++ [e] ∧ e.chn = c ∧
    e.cmd = .set false

/-- **The automatic OFF**: a network ON of momentary mode gets it in the first pass more than
500 ms behind the beginning of its drive, and it hits no ON of the button and no network ON of
the last 500 ms. -/
def AutoOffOk (w : AutoWatch b ε) : RelayPart b ε → Prop
  | .autoOff i => i = c →
    (w.log.Owes → CommandsOff c w.dev) ∧ (CommandsOff c w.dev → w.log.Spares)
  | _ => True

/-- No timer that was set before the last ON is over while it would hit that ON; no network ON
that a button ON has come to before its drive is still owed its OFF; and no pass finds the
clock on its way through 0 again. -/
def TimerOk (w : AutoWatch b ε) : RelayPart b ε → Prop
  | .autoOff i => i = c →
    (w.dev.AutoOffDue c → w.log.older = true → w.log.Spares) ∧
      ∀ o ∈ w.log.owed, ∀ ms ∈ o.driven, 500 < ms → o.first = true ∧ 500 < ms % 2 ^ 32
  | _ => True

end AutoWatch

namespace Device

variable {b : Board} {ε : Type}

/-! ### Commands -/

variable {s s' : Device b ε} {c : b.Chn}

/-- The view in a relay state and what is shared. -/
def viewOf (c : b.Chn) (r : RelayState b) (sh : Shared b) : AutoView :=
  ⟨isOn r.rlsSet c, isOn r.rlsTarget c, sh.switchMode c, r.srcControl c, r.onRelayFlag c,
    r.onRelayStartTime c, sh.timeMs⟩

/-- A command changes the set flag and the source at most. -/
theorem autoView_of_beside (h : s'.besideCommand.1 = s.besideCommand.1) :
    s'.autoView c =
      { s.autoView c with set := isOn s'.relay.rlsSet c, src := s'.relay.srcControl c } :=
  congrArg (fun p : RelayState b × Shared b =>
    { viewOf c p.1 p.2 with set := isOn s'.relay.rlsSet c, src := s'.relay.srcControl c }) h

theorem autoView_record (s : Device b ε) (idx : Nat) (cmd : RelayCmd) (c : b.Chn) :
    (s.record idx cmd).autoView c = s.autoView c := by
  rw [record]
  split <;> rfl

theorem srcControl_writeSet (s : Device b ε) (i : b.Chn) (st : UInt8) (src : SrcControl)
    (store : Bool) :
    (s.writeSet i st src store).relay.srcControl = Function.update s.relay.srcControl i src := by
  have hparams : ∀ (s : Device b ε) (idx : Nat) (adr adr' op : UInt16),
      (s.updateControlMessageParams idx adr adr' op).relay = s.relay := by
    intro s idx adr adr' op
    rw [updateControlMessageParams]
    split <;> rfl
  rw [writeSet, dif_pos i.isLt]
  dsimp only
  split <;> split
  all_goals
    try rw [hparams]
    rfl

theorem autoView_writeSet (s : Device b ε) (i : b.Chn) (st : UInt8) (src : SrcControl)
    (store : Bool) (c : b.Chn) :
    (s.writeSet i st src store).autoView c =
      if i = c then { s.autoView c with set := decide (st = gOn), src := src }
      else s.autoView c := by
  have hset : isOn (s.writeSet i st src store).relay.rlsSet c =
      Function.update (flags s.relay.rlsSet) i (decide (st = gOn)) c :=
    congrFun (congrArg RelayCore.set (s.core_writeSet i st src store)) c
  rw [autoView_of_beside (congrArg Prod.fst (s.besideCommand_writeSet i st src store)), hset,
    srcControl_writeSet]
  by_cases hi : i = c
  · subst hi
    rw [if_pos rfl, Function.update_self, Function.update_self]
  · rw [if_neg hi, Function.update_of_ne (Ne.symm hi), Function.update_of_ne (Ne.symm hi)]
    rfl

theorem decide_gOn (st : Bool) : decide ((if st = true then gOn else gOff) = gOn) = st := by
  cases st <;> rfl

theorem autoView_net (s : Device b ε) (i : b.Chn) (st : Bool) (c : b.Chn) :
    (s.netState i st).autoView c =
      (s.autoView c).step (if i = c then .net st else .none) := by
  have hstep : (s.autoView c).step (.net st) =
      if isOn s.relay.rlsTarget c = st then s.autoView c
      else { s.autoView c with set := st, src := .app } := rfl
  unfold netState
  dsimp only
  by_cases hi : i = c
  · subst hi
    rw [if_pos rfl, hstep]
    by_cases htarget : isOn s.relay.rlsTarget i = st
    · rw [if_pos htarget, if_pos htarget, autoView_record]
    · rw [if_neg htarget, if_neg htarget, autoView_writeSet, if_pos rfl, autoView_record,
        decide_gOn]
  · rw [if_neg hi]
    split
    · exact s.autoView_record ..
    · rw [autoView_writeSet, if_neg hi]
      exact s.autoView_record ..

theorem autoView_setTargetState (s : Device b ε) (i : b.Chn) (st store : Bool) (c : b.Chn) :
    (s.setTargetState i (if st then gOn else gOff) .device store).autoView c =
      (s.autoView c).step (if i = c then .device st else .none) := by
  rw [setTargetState, autoView_writeSet, autoView_record, decide_gOn]
  split <;> rfl

theorem autoView_toggle (s : Device b ε) (i : b.Chn) (c : b.Chn) :
    (s.toggleState i .device).autoView c =
      (s.autoView c).step (if i = c then .device (!isOn s.relay.rlsTarget c) else .none) := by
  have hst : decide ((if bit s.relay.rlsTarget i = gOn then gOff else gOn) = gOn) =
      !isOn s.relay.rlsTarget i := by
    rw [bit]
    cases isOn s.relay.rlsTarget i <;> rfl
  rw [toggleState, autoView_writeSet, autoView_record, hst]
  by_cases hi : i = c
  · subst hi
    rw [if_pos rfl, if_pos rfl]
    rfl
  · rw [if_neg hi, if_neg hi]
    rfl

/-! ### Mode changes -/

theorem autoView_writeSwitchMode (s : Device b ε) (i : b.Chn) (m : SwitchMode) (c : b.Chn) :
    (s.writeSwitchMode i m).autoView c =
      if i = c then { s.autoView c with mode := m } else s.autoView c := by
  by_cases hi : i = c
  · subst hi
    rw [if_pos rfl]
    exact AutoView.ext rfl rfl (Function.update_self ..) rfl rfl rfl rfl
  · rw [if_neg hi]
    exact AutoView.ext rfl rfl (Function.update_of_ne (Ne.symm hi) ..) rfl rfl rfl rfl

theorem autoView_controlSameState (s : Device b ε) (i c : b.Chn) :
    (s.controlSameState i).autoView c = s.autoView c := rfl

/-- A relay that is told of its mode is commanded OFF if it is ON, in momentary mode. -/
theorem autoView_handleSwitchChangeMode (s : Device b ε) (i c : b.Chn) :
    (s.handleSwitchChangeMode i).autoView c =
      if i = c ∧ (s.autoView c).ModeOff (s.sh.switchMode c) then
        { s.autoView c with set := false, src := .device }
      else s.autoView c := by
  have hother : s.sh.switchMode i ≠ .momentary →
      ¬ (i = c ∧ (s.autoView c).ModeOff (s.sh.switchMode c)) := by
    rintro hmode ⟨rfl, hmomentary, -⟩
    exact hmode hmomentary
  rw [handleSwitchChangeMode]
  cases hmode : s.sh.switchMode i with
  | toggle =>
    rw [if_neg (hother (by rw [hmode]; decide))]
    exact s.autoView_controlSameState i c
  | lighting =>
    rw [if_neg (hother (by rw [hmode]; decide))]
    exact s.autoView_controlSameState i c
  | momentary =>
    dsimp only
    cases hon : isOn s.relay.rlsTarget i with
    | false =>
      rw [if_pos rfl, if_neg]
      · exact s.autoView_controlSameState i c
      · rintro ⟨rfl, -, htarget⟩
        exact Bool.false_ne_true (hon.symm.trans htarget)
    | true =>
      rw [if_neg (by decide)]
      refine (s.autoView_setTargetState i false true c).trans ?_
      by_cases hi : i = c
      · subst hi
        rw [if_pos rfl, if_pos ⟨rfl, hmode, hon⟩]
        rfl
      · rw [if_neg hi, if_neg fun h => hi h.1]
        rfl

theorem autoView_changeMode (s : Device b ε) (i : b.Chn) (m : SwitchMode) (c : b.Chn) :
    (s.changeMode i m).autoView c = (s.autoView c).step (if i = c then .mode m else .none) := by
  have hmode : (s.writeSwitchMode i m).sh.switchMode i = m := Function.update_self ..
  rw [changeMode]
  by_cases hi : i = c
  · subst hi
    have hview : (s.writeSwitchMode i m).autoView i = { s.autoView i with mode := m } :=
      (s.autoView_writeSwitchMode i m i).trans (if_pos rfl)
    have hstep : (s.autoView i).step (.mode m) =
        if s.sh.switchMode i = m then s.autoView i
        else if (s.autoView i).ModeOff m then
          { s.autoView i with mode := m, set := false, src := .device }
        else { s.autoView i with mode := m } := rfl
    rw [if_pos rfl, hstep]
    by_cases hsame : s.sh.switchMode i = m
    · rw [if_pos hsame, if_neg (not_not.mpr hsame), hview, ← hsame]
      rfl
    · rw [if_neg hsame, if_pos hsame, autoView_handleSwitchChangeMode, hmode, hview]
      exact if_congr (and_iff_right rfl) rfl rfl
  · have hview : (s.writeSwitchMode i m).autoView c = s.autoView c :=
      (s.autoView_writeSwitchMode i m c).trans (if_neg hi)
    rw [if_neg hi]
    split
    · rw [autoView_handleSwitchChangeMode, if_neg fun h => hi h.1]
      exact hview
    · exact hview

/-! ### The parts of a pass -/

theorem autoView_onTime (s : Device b ε) (rand : Nat → Nat) (c : b.Chn) :
    (s.onTimeProc rand).autoView c = s.autoView c := by
  have hview : ∀ d : Device b ε,
      d.autoView c = viewOf c d.besideOnTime.1 d.besideOnTime.2.1 := fun _ => rfl
  rw [hview, hview, s.besideOnTime_onTimeProc rand]

theorem autoView_map (s : Device b ε) (i c : b.Chn) :
    (s.mapChannel (silentCallback b ε) i).autoView c =
      (s.autoView c).step (if i = c then .map else .none) := by
  have hmapped : ∀ st : Bool, isOn s.relay.rlsSet c = st → i = c →
      isOn (Flags.put s.relay.rlsTarget i st) c = isOn s.relay.rlsSet c := by
    rintro st rfl rfl
    rw [isOn_put _ (chn_lt i), if_pos rfl]
  rw [mapChannel]
  dsimp only
  rw [run_silentCallback]
  by_cases hi : i = c
  · subst hi
    rw [if_pos rfl]
    split
    · refine AutoView.ext rfl ?_ rfl rfl rfl rfl rfl
      exact hmapped _ rfl rfl
    · next heq => exact AutoView.ext rfl (not_not.mp heq).symm rfl rfl rfl rfl rfl
  · rw [if_neg hi]
    split
    · refine AutoView.ext rfl ?_ rfl rfl rfl rfl rfl
      show isOn (Flags.put s.relay.rlsTarget i _) c = isOn s.relay.rlsTarget c
      rw [isOn_put _ (chn_lt i), if_neg fun h => hi (Fin.ext h.symm)]
    · rfl

theorem autoView_mask (s : Device b ε) (c : b.Chn) : s.maskRls.autoView c = s.autoView c := by
  have hbit : ∀ w : BitVec 16, isOn (w &&& backupMaskRl) c = isOn w c := fun w =>
    congrFun (flags_mask w) c
  exact AutoView.ext (hbit _) (hbit _) rfl rfl rfl rfl rfl

theorem autoView_storeDelay (s : Device b ε) (c : b.Chn) :
    s.handleStoreDelay.autoView c = s.autoView c := by
  rw [handleStoreDelay]
  dsimp only
  split <;> rfl

theorem checkAutoOffChannel_of_due {s : Device b ε} {c : b.Chn} (h : s.AutoOffDue c) :
    s.checkAutoOffChannel c =
      (s.updRelay fun r => { r with
        onRelayFlag := Function.update r.onRelayFlag c false }).setTargetState c gOff .device
          true := if_pos h

theorem checkAutoOffChannel_of_not_due {s : Device b ε} {c : b.Chn} (h : ¬ s.AutoOffDue c) :
    s.checkAutoOffChannel c = s := if_neg h

theorem autoView_checkAutoOffChannel (s : Device b ε) (i c : b.Chn) :
    (s.checkAutoOffChannel i).autoView c =
      (s.autoView c).step (if i = c then .autoOff else .none) := by
  have hflag : ∀ v : Bool, (s.updRelay fun r => { r with
      onRelayFlag := Function.update r.onRelayFlag i v }).autoView c =
      { s.autoView c with flag := Function.update s.relay.onRelayFlag i v c } := fun _ => rfl
  by_cases hi : i = c
  · subst hi
    have hstep : (s.autoView i).step .autoOff =
        if s.AutoOffDue i then { s.autoView i with flag := false, set := false, src := .device }
        else s.autoView i := rfl
    rw [if_pos rfl, hstep]
    by_cases hdue : s.AutoOffDue i
    · rw [if_pos hdue, checkAutoOffChannel_of_due hdue]
      refine (autoView_setTargetState _ i false true i).trans ?_
      rw [if_pos rfl, hflag, Function.update_self]
      rfl
    · rw [if_neg hdue, checkAutoOffChannel_of_not_due hdue]
  · rw [if_neg hi]
    by_cases hdue : s.AutoOffDue i
    · rw [checkAutoOffChannel_of_due hdue]
      refine (autoView_setTargetState _ i false true c).trans ?_
      rw [if_neg hi, hflag, Function.update_of_ne (Ne.symm hi)]
      rfl
    · rw [checkAutoOffChannel_of_not_due hdue]
      rfl

theorem autoView_consumeDone (s : Device b ε) (c : b.Chn) :
    s.consumeDone.autoView c = s.autoView c := by
  have hdone : ∀ s : Device b ε, (s.updRelay fun r =>
      { r with doneOnOffControlFlag := false }).autoView c = s.autoView c := fun _ => rfl
  rw [consumeDone, hdone]
  split
  · rfl
  · rw [consumeOnTime]
    split <;> (try split) <;> rfl

theorem autoView_zeroSync (s : Device b ε) (c : b.Chn) :
    s.handleZeroSync.autoView c = s.autoView c := by
  have hgrid : ∀ s : Device b ε, s.gridFreqZeroSync.autoView c = s.autoView c := by
    intro s
    rw [gridFreqZeroSync]
    dsimp only
    split
    · split <;> split <;> rfl
    · rfl
  unfold handleZeroSync
  dsimp only
  rw [hgrid]
  split <;> rfl

theorem autoView_timerMatch (s : Device b ε) (c : b.Chn) :
    s.handleControlWhenTimerMatch.autoView c = s.autoView c := by
  rw [handleControlWhenTimerMatch, drivePin]
  dsimp only
  split
  · split <;> rfl
  · rfl

/-- A drive of a relay. -/
theorem autoView_startDrive (s : Device b ε) (i c : b.Chn) :
    (s.startDrive i).autoView c = (s.autoView c).step (if i = c then .drive else .none) := by
  have hend : ∀ s : Device b ε, ((s.updRelay fun r => { r with
      relayModuleSt := .busy, waitZeroPointStTime := s.sh.timeMs }).setUpTimeToChangeState.updRelay
        fun r => { r with controlWhenTimeout := false }).autoView c = s.autoView c := fun _ => rfl
  unfold startDrive
  dsimp only
  rw [hend]
  by_cases hi : i = c
  · subst hi
    have hstep : (s.autoView i).step .drive =
        if (s.autoView i).Arms then
          { s.autoView i with flag := true, start := s.sh.timeMs, src := .device }
        else s.autoView i := rfl
    rw [if_pos rfl, hstep]
    split
    · next h =>
      have harms : (s.autoView i).Arms := h
      rw [if_pos harms]
      refine AutoView.ext rfl rfl rfl ?_ ?_ ?_ rfl
      · exact Function.update_self ..
      · exact Function.update_self ..
      · exact Function.update_self ..
    · next h =>
      have harms : ¬ (s.autoView i).Arms := h
      rw [if_neg harms]
      rfl
  · rw [if_neg hi]
    split
    · refine AutoView.ext rfl rfl rfl ?_ ?_ ?_ rfl
      · exact Function.update_of_ne (Ne.symm hi) ..
      · exact Function.update_of_ne (Ne.symm hi) ..
      · exact Function.update_of_ne (Ne.symm hi) ..
    · rfl

theorem autoView_drive (s : Device b ε) (c : b.Chn) :
    (s.part .drive).autoView c =
      (s.autoView c).step (if s.drivenNext = some c then .drive else .none) := by
  cases hst : s.relay.relayModuleSt with
  | busy =>
    have hnext : s.drivenNext = none := if_neg (by rw [hst]; decide)
    have hpart : s.part .drive = s.procBusy := by rw [part, hst]
    rw [hnext, hpart, procBusy]
    split <;> rfl
  | idle =>
    have hpart : s.part .drive = s.procIdle := by rw [part, hst]
    rw [hpart, procIdle, drivenNext, if_pos hst]
    dsimp only
    generalize hs1 : (if s.relay.doneOnOffControlFlag = true then s.consumeDone else s) = s1
    have hview : s1.autoView c = s.autoView c := by
      rw [← hs1]
      split
      · exact s.autoView_consumeDone c
      · rfl
    rw [← hview]
    split
    -- the channel is looked for behind the drive that is done
    · cases s1.nextChannel with
      | none => rfl
      | some i => simp only [autoView_startDrive, Option.some.injEq]
    · rfl

theorem autoView_watch (s : Device b ε) (c : b.Chn) :
    s.checkBusyTimeout.autoView c = s.autoView c := by
  unfold checkBusyTimeout
  dsimp only
  split <;> split <;> rfl

/-- **The view**: a part does to a relay what its event says. -/
theorem autoView_part (s : Device b ε) (p : RelayPart b ε) (c : b.Chn) :
    (s.part p).autoView c = (s.autoView c).step (s.autoEvent c p) := by
  cases p with
  | net i st => exact s.autoView_net i st c
  | button i st store => exact s.autoView_setTargetState i st store c
  | toggle i => exact s.autoView_toggle i c
  | changeMode i m => exact s.autoView_changeMode i m c
  | onTime rand => exact s.autoView_onTime rand c
  | map i => exact s.autoView_map i c
  | mask => exact s.autoView_mask c
  | storeDelay => exact s.autoView_storeDelay c
  | autoOff i => exact s.autoView_checkAutoOffChannel i c
  | drive => exact s.autoView_drive c
  | watch => exact s.autoView_watch c
  | zeroSync => exact s.autoView_zeroSync c
  | timerMatch => exact s.autoView_timerMatch c
  | clock ms sec => rfl
  | other env factActive lightness nwk => rfl

end Device

/-! ## A pass -/

namespace RelayPart

variable {b : Board} {ε : Type}

/-- What `relay_map_set_and_target_status` is made of, with its callback. -/
def OfMapping : RelayPart b ε → Prop
  | .map _ | .mask | .net .. | .other .. => True
  | _ => False

end RelayPart

namespace Device

variable {b : Board}

/-- From `s` to `s'` by parts of the mapping. -/
def Mapping (s s' : NetDevice b) : Prop :=
  ∃ ps : List (RelayPart b (NetState b)), (∀ p ∈ ps, p.OfMapping) ∧ s' = runFrom part s ps

namespace Mapping

variable {s s' s'' : NetDevice b}

theorem refl (s : NetDevice b) : Mapping s s := ⟨[], nofun, rfl⟩

theorem one {p : RelayPart b (NetState b)} (hp : p.OfMapping) : Mapping s (s.part p) :=
  ⟨[p], fun _ h => List.mem_singleton.mp h ▸ hp, rfl⟩

theorem trans (h : Mapping s s') (h' : Mapping s' s'') : Mapping s s'' := by
  obtain ⟨ps, hps, rfl⟩ := h
  obtain ⟨qs, hqs, rfl⟩ := h'
  refine ⟨ps ++ qs, fun p hp => ?_, (runFrom_append _ _ ps qs).symm⟩
  exact (List.mem_append.mp hp).elim (hps p) (hqs p)

theorem of_netStep (h : NetStep s s') : Mapping s s' := by
  cases h with
  | onEnv f hf =>
    exact one (p := .other (f s.env) s.sh.factActive s.sh.lightness s.sh.nwkControlMsgPara) trivial
  | params idx src dst op =>
    rw [updateControlMessageParams]
    split
    · exact one (p := .other s.env s.sh.factActive s.sh.lightness _) trivial
    · exact refl s
  | netState c st => exact one (p := .net c st) trivial

theorem of_netSteps (h : NetSteps s s') : Mapping s s' := by
  induction h with
  | refl => exact refl s
  | tail _ hstep ih => exact ih.trans (of_netStep hstep)

end Mapping

theorem mapping_mapChannel (s : NetDevice b) (c : b.Chn) :
    Mapping s (s.mapChannel (netCallback b) c) := by
  have hmap : Mapping s (s.mapChannel (silentCallback b (NetState b)) c) :=
    .one (p := .map c) trivial
  have hcall : ∀ (fact : Bool) (s' : NetDevice b) (st : UInt8),
      Mapping s (if fact then s' else (silentCallback b (NetState b)).run s' c st) →
        Mapping s (if fact then s' else (netCallback b).run s' c st) := by
    intro fact s' st h
    cases fact with
    | true => exact h
    | false => exact h.trans (.of_netSteps (s'.steps_netMessageHandleStateChange c st))
  rw [mapChannel] at hmap ⊢
  dsimp only at hmap ⊢
  split
  · next hne =>
    rw [if_pos hne] at hmap
    exact hcall _ _ _ hmap
  · exact .refl s

theorem mapping_mapSetAndTargetStatus (s : NetDevice b) :
    Mapping s (s.mapSetAndTargetStatus (netCallback b)) := by
  rw [mapSetAndTargetStatus]
  split
  · have hloop : Mapping s (runFrom (mapChannel (netCallback b)) s b.chns) :=
      invariant_runFrom (fun s' c h => h.trans (s'.mapping_mapChannel c)) (.refl s) b.chns
    exact hloop.trans (.one (p := .mask) trivial)
  · exact .refl s

/-- **A pass is a run of its parts.** -/
theorem proc_parts (s : NetDevice b) (rand : Nat → Nat) :
    ∃ ps : List (RelayPart b (NetState b)), (∀ p ∈ ps, p.OfMapping) ∧
      s.proc (netCallback b) rand = runFrom part s
        ([.onTime rand] ++ ps ++ [.storeDelay] ++ b.chns.map .autoOff ++ [.drive, .watch]) := by
  have hauto : ∀ (cs : List b.Chn) (s : NetDevice b),
      runFrom part s (cs.map .autoOff) = runFrom checkAutoOffChannel s cs := by
    intro cs
    induction cs with
    | nil => exact fun _ => rfl
    | cons c cs ih => exact fun s => ih (s.checkAutoOffChannel c)
  obtain ⟨ps, hps, hmap⟩ := (s.onTimeProc rand).mapping_mapSetAndTargetStatus
  refine ⟨ps, hps, ?_⟩
  have honTime : runFrom part s [.onTime rand] = s.onTimeProc rand := rfl
  rw [proc, hmap, runFrom_append, runFrom_append, runFrom_append, runFrom_append, hauto, honTime]
  rfl

end Device

/-! ## The invariant -/

/-- What is known of a network ON that is owed an OFF. -/
structure OwedOff.Held (v : AutoView) (g : AutoLog) (o : OwedOff) : Prop where
  mode : v.mode = .momentary
  set : v.set = true
  src : v.src = if o.first = true ∧ o.driven = none then .app else .device
  passed : o.first = false → g.onBy = some .button
  driven : ∀ ms ∈ o.driven, v.target = true ∧
    (o.first = true → v.flag = true ∧ (v.now - v.start).toNat = ms % 2 ^ 32)

/-- A button ON in force has the source; a timer that is not older than the last ON was set
behind the last network ON. -/
structure AutoInv (v : AutoView) (g : AutoLog) : Prop where
  button : g.onBy = some .button → v.src = .device ∧ (v.flag = true → g.older = true)
  timer : v.flag = true → g.older = false → ∀ ms ∈ g.sinceNet, (v.now - v.start).toNat ≤ ms
  owed : ∀ o ∈ g.owed, o.Held v g

namespace AutoInv

variable {v v' : AutoView} {g : AutoLog}

theorem empty (h : v.flag = false) : AutoInv v .empty where
  button := nofun
  timer hflag := absurd (h.symm.trans hflag) Bool.false_ne_true
  owed := nofun

/-- OFF is commanded. -/
theorem off (h : AutoInv v g) (hflag : v'.flag = true → v.flag = true)
    (hstart : v'.start = v.start) (hnow : v'.now = v.now) : AutoInv v' g.off where
  button := nofun
  timer hflag' := by
    rw [hstart, hnow]
    exact h.timer (hflag hflag')
  owed := nofun

theorem net (h : AutoInv v g) (st : Bool) : AutoInv (v.step (.net st)) (g.observe v (.net st)) := by
  rw [AutoView.step, AutoLog.observe]
  by_cases htarget : v.target = st
  · rw [if_pos htarget, if_pos htarget]
    exact h
  · rw [if_neg htarget, if_neg htarget]
    cases st with
    | false => exact h.off id rfl rfl
    | true =>
      refine ⟨nofun, fun hflag holder => ?_, fun o ho => ?_⟩
      · exact absurd (hflag.symm.trans holder) (by decide)
      · change o ∈ (if v.mode = .momentary then some (OwedOff.mk true none) else none) at ho
        by_cases hmode : v.mode = .momentary
        · rw [if_pos hmode] at ho
          obtain rfl := Option.mem_some_iff.mp ho
          exact ⟨hmode, rfl, rfl, nofun, nofun⟩
        · rw [if_neg hmode] at ho
          exact nomatch ho

/-- A button ON takes the source from a network ON that is not driven yet. -/
theorem buttonOn (h : AutoInv v g) :
    AutoInv (v.step (.device true)) (g.observe v (.device true)) := by
  refine ⟨fun _ => ⟨rfl, id⟩, fun hflag holder => ?_, fun o ho => ?_⟩
  · exact absurd (hflag.symm.trans holder) (by decide)
  · obtain ⟨o, ho', rfl⟩ := Option.map_eq_some_iff.mp ho
    obtain ⟨hmode, -, -, -, hdriven⟩ := h.owed o ho'
    rw [OwedOff.buttonOn]
    -- a drive that has begun has its timer; one that has not finds the source of the button
    cases hd : o.driven with
    | none => exact ⟨hmode, rfl, rfl, fun _ => rfl, nofun⟩
    | some ms =>
      rw [if_neg (Option.some_ne_none ms)]
      refine ⟨hmode, rfl, ?_, fun _ => rfl, hdriven⟩
      rw [hd, if_neg fun hx => nomatch hx.2]
      rfl

theorem device (h : AutoInv v g) (st : Bool) :
    AutoInv (v.step (.device st)) (g.observe v (.device st)) := by
  cases st with
  | true => exact h.buttonOn
  | false => exact h.off id rfl rfl

theorem changeMode (h : AutoInv v g) (m : SwitchMode) :
    AutoInv (v.step (.mode m)) (g.observe v (.mode m)) := by
  rw [AutoView.step, AutoLog.observe]
  split
  · exact h
  · split
    · exact h.off id rfl rfl
    · exact ⟨h.button, h.timer, nofun⟩

theorem map (h : AutoInv v g) : AutoInv (v.step .map) (g.observe v .map) where
  button := h.button
  timer := h.timer
  owed o ho := by
    obtain ⟨hmode, hset, hsrc, hpassed, hdriven⟩ := h.owed o ho
    exact ⟨hmode, hset, hsrc, hpassed, fun ms hms => ⟨hset, (hdriven ms hms).2⟩⟩

theorem autoOff (h : AutoInv v g) : AutoInv (v.step .autoOff) (g.observe v .autoOff) := by
  rw [AutoView.step, AutoLog.observe]
  split
  · exact h.off nofun rfl rfl
  · exact h

/-- A drive sets the timer for a network ON that no button ON has come to. -/
theorem held_begin {o : OwedOff} (h : o.Held v g) (htarget : v.target = true) :
    o.begin.Held (v.step .drive) (g.observe v .drive) := by
  obtain ⟨hmode, hset, hsrc, hpassed, hdriven⟩ := h
  rw [AutoView.step, OwedOff.begin]
  by_cases hd : o.driven = none
  · rw [if_pos hd]
    -- the source is that of the network as long as no button ON has come
    cases hf : o.first with
    | true =>
      have happ : v.src = .app := by rw [hsrc, if_pos ⟨hf, hd⟩]
      rw [if_pos ⟨htarget, hmode, happ⟩]
      refine ⟨hmode, hset, (if_neg fun hx => nomatch hx.2).symm, nofun, ?_⟩
      intro ms hms
      obtain rfl := Option.mem_some_iff.mp hms
      exact ⟨htarget, fun _ => ⟨rfl, congrArg UInt32.toNat (UInt32.sub_self v.now)⟩⟩
    | false =>
      have hdevice : v.src = .device := by
        rw [hsrc, if_neg fun hx => Bool.false_ne_true (hf.symm.trans hx.1)]
      rw [if_neg fun hx : v.Arms => nomatch hdevice.symm.trans hx.2.2]
      refine ⟨hmode, hset, ?_, fun _ => hpassed hf, fun ms _ => ⟨htarget, nofun⟩⟩
      exact hdevice.trans (if_neg fun hx => nomatch hx.1).symm
  · -- the source is not that of the network any more
    have hdevice : v.src = .device := by rw [hsrc, if_neg fun hx => hd hx.2]
    rw [if_neg hd, if_neg fun hx : v.Arms => nomatch hdevice.symm.trans hx.2.2]
    exact ⟨hmode, hset, hsrc, hpassed, hdriven⟩

theorem drive (h : AutoInv v g) : AutoInv (v.step .drive) (g.observe v .drive) := by
  have howed : ∀ o ∈ (g.observe v .drive).owed, o.Held (v.step .drive) (g.observe v .drive) := by
    intro o ho
    change o ∈ (if v.target = true then g.owed.map OwedOff.begin else g.owed) at ho
    by_cases htarget : v.target = true
    · rw [if_pos htarget] at ho
      obtain ⟨o', ho', rfl⟩ := Option.map_eq_some_iff.mp ho
      exact held_begin (h.owed o' ho') htarget
    · rw [if_neg htarget] at ho
      obtain ⟨hmode, hset, hsrc, hpassed, hdriven⟩ := h.owed o ho
      rw [AutoView.step, if_neg fun hx : v.Arms => htarget hx.1]
      exact ⟨hmode, hset, hsrc, hpassed, hdriven⟩
  refine ⟨fun hby => ?_, fun hflag holder ms hms => ?_, howed⟩
  -- the ON of a button starts no timer, so the timer keeps its age
  · obtain ⟨hdevice, holder⟩ := h.button hby
    rw [AutoView.step, AutoLog.observe]
    rw [if_neg fun hx : v.Arms => nomatch hdevice.symm.trans hx.2.2]
    refine ⟨hdevice, fun hflag => ?_⟩
    rw [if_neg fun hx : v.Arms => nomatch hdevice.symm.trans hx.2.2]
    exact holder hflag
  · rw [AutoView.step] at hflag ⊢
    change (if v.Arms then false else g.older) = false at holder
    by_cases harms : v.Arms
    · rw [if_pos harms, UInt32.sub_self]
      exact Nat.zero_le ms
    · rw [if_neg harms] at hflag holder ⊢
      exact h.timer hflag holder ms hms

theorem clock (h : AutoInv v g) (ms : UInt32) :
    AutoInv (v.step (.clock ms)) (g.observe v (.clock ms)) := by
  have hwait : (v.now + ms - v.start).toNat = ((v.now - v.start).toNat + ms.toNat) % 2 ^ 32 := by
    have hcomm : v.now + ms - v.start = v.now - v.start + ms := by grind
    rw [hcomm, UInt32.toNat_add]
  -- the log counts on where the clock comes round: a bound for the timer that is not older,
  -- and the value modulo 2 ^ 32 for one that is owed
  refine ⟨h.button, fun hflag holder t ht => ?_, fun o ho => ?_⟩
  · obtain ⟨t', ht', rfl⟩ := Option.map_eq_some_iff.mp ht
    have hle : (v.now - v.start).toNat ≤ t' := h.timer hflag holder t' ht'
    show (v.now + ms - v.start).toNat ≤ t' + ms.toNat
    rw [hwait]
    exact (Nat.mod_le _ _).trans (Nat.add_le_add_right hle _)
  · obtain ⟨o, ho', rfl⟩ := Option.map_eq_some_iff.mp ho
    obtain ⟨hmode, hset, hsrc, hpassed, hdriven⟩ := h.owed o ho'
    refine ⟨hmode, hset, hsrc.trans ?_, hpassed, fun t ht => ?_⟩
    · simp only [OwedOff.wait, Option.map_eq_none_iff]
    · obtain ⟨t', ht', rfl⟩ := Option.map_eq_some_iff.mp ht
      obtain ⟨htarget, hfirst⟩ := hdriven t' ht'
      refine ⟨htarget, fun hf => ⟨(hfirst hf).1, ?_⟩⟩
      show (v.now + ms - v.start).toNat = _
      rw [hwait, (hfirst hf).2, Nat.mod_add_mod]

/-- **Step lemma.** -/
theorem step (h : AutoInv v g) (e : AutoEvent) : AutoInv (v.step e) (g.observe v e) := by
  cases e with
  | net st => exact h.net st
  | device st => exact h.device st
  | mode m => exact h.changeMode m
  | map => exact h.map
  | autoOff => exact h.autoOff
  | drive => exact h.drive
  | clock ms => exact h.clock ms
  | none => exact h

end AutoInv

/-! ## Every run -/

namespace AutoWatch

variable {b : Board} {ε : Type} {c : b.Chn}

/-- The check commands OFF where the timer is over. -/
theorem commandsOff_iff {s : Device b ε} : CommandsOff c s ↔ s.AutoOffDue c := by
  constructor
  · rintro ⟨e, htrace, -⟩
    by_contra hdue
    rw [Device.checkAutoOffChannel_of_not_due hdue] at htrace
    exact List.cons_ne_nil e [] (List.self_eq_append_right.mp htrace)
  · intro hdue
    refine ⟨⟨c, .set false, isOn s.relay.rlsTarget c, isOn s.relay.rlsSet c⟩, ?_, rfl, rfl⟩
    rw [Device.checkAutoOffChannel_of_due hdue]
    exact congrArg RelayCore.trace (Device.core_setTargetState _ c gOff .device true)

instance (s : Device b ε) : Decidable (CommandsOff c s) := decidable_of_iff _ commandsOff_iff.symm

theorem inv_step {w : AutoWatch b ε} (h : AutoInv (w.dev.autoView c) w.log)
    (p : RelayPart b ε) : AutoInv ((w.step c p).dev.autoView c) (w.step c p).log := by
  have hview : (w.step c p).dev.autoView c = _ := w.dev.autoView_part p c
  rw [hview]
  exact h.step _

theorem elapsed_of_due {s : Device b ε} (h : s.AutoOffDue c) :
    500 < (s.sh.timeMs - s.relay.onRelayStartTime c).toNat := by
  have hexceed := h.2.2
  rw [clockTimeExceed, decide_eq_true_iff, gt_iff_lt, UInt32.lt_iff_toNat_lt] at hexceed
  exact hexceed

/-- An OFF of the timer behind the last ON hits no ON of the button and no new network ON. -/
theorem spares_of_due {w : AutoWatch b ε} (h : AutoInv (w.dev.autoView c) w.log)
    (hdue : w.dev.AutoOffDue c) (hnew : w.log.older = false) : w.log.Spares := by
  refine ⟨fun hby => ?_, fun ms hms => ?_⟩
  · have holder : w.log.older = true := (h.button hby).2 hdue.2.1
    exact Bool.false_ne_true (hnew.symm.trans holder)
  · have hle := h.timer hdue.2.1 hnew ms hms
    exact (elapsed_of_due hdue).le.trans hle

theorem due_of_owed {w : AutoWatch b ε} (h : AutoInv (w.dev.autoView c) w.log) {o : OwedOff}
    {ms : Nat} (ho : o ∈ w.log.owed) (hms : ms ∈ o.driven) (hfirst : o.first = true)
    (hlate : 500 < ms % 2 ^ 32) : w.dev.AutoOffDue c := by
  have held := h.owed o ho
  obtain ⟨hflag, helapsed⟩ := (held.driven ms hms).2 hfirst
  refine ⟨held.mode, hflag, ?_⟩
  rw [clockTimeExceed, decide_eq_true_iff, gt_iff_lt, UInt32.lt_iff_toNat_lt]
  exact helapsed ▸ hlate

/-- One check of the timer. -/
theorem autoOff_iff {w : AutoWatch b ε} (h : AutoInv (w.dev.autoView c) w.log) :
    (w.log.Owes → CommandsOff c w.dev) ∧ (CommandsOff c w.dev → w.log.Spares) ↔
      (w.dev.AutoOffDue c → w.log.older = true → w.log.Spares) ∧
        ∀ o ∈ w.log.owed, ∀ ms ∈ o.driven, 500 < ms → o.first = true ∧ 500 < ms % 2 ^ 32 := by
  rw [commandsOff_iff]
  constructor
  · rintro ⟨howes, hspares⟩
    refine ⟨fun hdue _ => hspares hdue, fun o ho ms hms hlate => ?_⟩
    have hdue : w.dev.AutoOffDue c := howes ⟨o, ho, ms, hms, hlate⟩
    have hfirst : o.first = true := by
      -- otherwise the OFF would hit the ON of the button
      by_contra hfirst
      exact (hspares hdue).1 ((h.owed o ho).passed (Bool.eq_false_of_not_eq_true hfirst))
    have helapsed := (((h.owed o ho).driven ms hms).2 hfirst).2
    exact ⟨hfirst, helapsed ▸ elapsed_of_due hdue⟩
  · rintro ⟨holder, howed⟩
    refine ⟨?_, fun hdue => ?_⟩
    · rintro ⟨o, ho, ms, hms, hlate⟩
      obtain ⟨hfirst, hwrap⟩ := howed o ho ms hms hlate
      exact due_of_owed h ho hms hfirst hwrap
    · cases hold : w.log.older with
      | true => exact holder hdue hold
      | false => exact spares_of_due h hdue hold

/-- **The automatic OFF is right** in exactly the runs in which no timer of an earlier ON runs
out under a later one, no button ON takes the source from a network ON, and the clock does not
come round. -/
theorem autoOffOk_iff (c : b.Chn) (rand : Nat → Nat) (stateLog onTimeLog : LogState)
    (sh : Shared b) (env : ε) (ps : List (RelayPart b ε)) :
    AllSteps (step c) (AutoOffOk c) (.boot rand stateLog onTimeLog sh env) ps ↔
      AllSteps (step c) (TimerOk c) (.boot rand stateLog onTimeLog sh env) ps := by
  refine AllSteps.iff_of_kept (I := fun w => AutoInv (w.dev.autoView c) w.log)
    (fun w p h => ?_) (fun w p h _ => inv_step h p) (AutoInv.empty rfl) ps
  cases p with
  | autoOff i => exact imp_congr_right fun _ => autoOff_iff h
  | _ => exact Iff.rfl

/-! ### A held button -/

instance (w : AutoWatch b ε) (p : RelayPart b ε) : Decidable (AutoOffOk c w p) :=
  match p with
  | .autoOff _ => inferInstanceAs (Decidable (_ → _ ∧ _))
  | .net .. | .button .. | .toggle _ | .changeMode .. | .onTime _ | .map _ | .mask | .storeDelay
  | .drive | .watch | .zeroSync | .timerMatch | .clock .. | .other .. => .isTrue trivial

/-- A pass, and the drive it begins. -/
def heldPass : List (RelayPart board1 Unit) :=
  [.onTime fun _ => 0, .map board1.chn0, .mask, .storeDelay, .autoOff board1.chn0, .drive, .watch,
    .zeroSync, .timerMatch]

/-- The network switches a momentary relay ON, and OFF after 100 ms; 200 ms later its button is
pressed, and held. -/
def heldEvents : List (RelayPart board1 Unit) :=
  [.changeMode board1.chn0 .momentary, .net board1.chn0 true] ++ heldPass ++
    [.clock 100 0, .net board1.chn0 false] ++ heldPass ++
    [.clock 200 0, .button board1.chn0 true true] ++ heldPass ++ [.clock 300 0] ++ heldPass

/-- The timer of the network ON outlives it and ends the ON of the button. -/
theorem not_autoOffOk_held :
    ¬ ∀ (b : Board) (ε : Type) (c : b.Chn) (rand : Nat → Nat) (stateLog onTimeLog : LogState)
      (sh : Shared b) (env : ε) (ps : List (RelayPart b ε)),
      AllSteps (step c) (AutoOffOk c) (.boot rand stateLog onTimeLog sh env) ps := by
  intro h
  have hheld := h board1 Unit board1.chn0 (fun _ => 0) emptyLog emptyLog demoShared () heldEvents
  revert hheld
  decide +kernel

end AutoWatch

end LumesSwitch
