import LumesSwitch.Relay.Core

/-!
# Runs of the relay driver

The driver is run by commands, switch-mode changes, the two interrupts, the
passes of the main loop and the clock, in any order. `Device.step` takes one
event; `core_boot` and `core_step` say what the boot and an event are on the
core.
-/

namespace LumesSwitch

open Flags Words Runs

/-- What happens to the relay driver. -/
inductive RelayEvent (b : Board) (ε : Type) where
  | setTargetState (idx : Nat) (st : UInt8) (src : SrcControl) (store : Bool)
  | toggleState (idx : Nat) (src : SrcControl)
  | netState (idx : Nat) (st : Bool)
  | changeMode (c : b.Chn) (m : SwitchMode)
  | zeroSync
  | timerMatch
  | proc (rand : Nat → Nat)
  /-- time passes -/
  | clock (ms s : UInt32)
  /-- the other modules go on -/
  | other (env : ε) (factActive : Bool) (lightness : b.Btn → StTransition)
      (nwk : b.Btn → NwkMessagePara)

namespace Device

variable {b : Board} {ε : Type} (cb : StateChangeCallback b ε)

def step (s : Device b ε) : RelayEvent b ε → Device b ε
  | .setTargetState idx st src store => s.setTargetState idx st src store
  | .toggleState idx src => s.toggleState idx src
  | .netState idx st => s.netState idx st
  | .changeMode c m => s.changeMode c m
  | .zeroSync => s.handleZeroSync
  | .timerMatch => s.handleControlWhenTimerMatch
  | .proc rand => s.proc cb rand
  | .clock ms sec =>
    { s with sh := { s.sh with timeMs := s.sh.timeMs + ms, timeS := s.sh.timeS + sec } }
  | .other env factActive lightness nwk =>
    { s with
      env := env
      sh := { s.sh with
        factActive := factActive, lightness := lightness, nwkControlMsgPara := nwk } }

end Device

/-- What an event can do to the core. -/
inductive CoreStep {b : Board} {ε : Type} :
    RelayEvent b ε → RelayCore b → RelayCore b → Prop where
  | commands {ev : RelayEvent b ε} {k k' : RelayCore b} (h : k.Commands k') : CoreStep ev k k'
  | changeMode (c : b.Chn) (m : SwitchMode) (k : RelayCore b) :
      CoreStep (.changeMode c m) k (k.changeMode c m)
  | timerMatch (k : RelayCore b) : CoreStep .timerMatch k k.timerMatch
  | proc {rand : Nat → Nat} {k k1 k2 : RelayCore b} (h1 : RelayCore.MapLoop b.chns k.onTime k1)
      (h2 : k1.Commands k2) : CoreStep (.proc rand) k (if k2.busy then k2 else k2.pass)
  | clock (ms s : UInt32) (k : RelayCore b) :
      CoreStep (.clock ms s) k { k with timeMs := k.timeMs + ms }

/-- **Flag rule**: what commands and the mapping preserve, and whatever leaves the
set and target flags and the trace alone, every event preserves. -/
theorem CoreStep.invariant {b : Board} {ε : Type} {I : RelayCore b → Prop}
    (hcmd : ∀ k c cmd, I k → I (k.command c cmd)) (hmap : ∀ k c, I k → I (k.map c))
    (hsame : ∀ k k', k'.set = k.set → k'.target = k.target → k'.trace = k.trace → I k → I k')
    {ev : RelayEvent b ε} {k k' : RelayCore b} (h : CoreStep ev k k') (hk : I k) : I k' := by
  cases h with
  | commands hc => exact hc.invariant hcmd hk
  | changeMode c m =>
    have hw : I (k.writeMode c m) := hsame k _ rfl rfl rfl hk
    rw [RelayCore.changeMode]
    split
    · exact hw
    · split
      · exact hcmd _ c _ hw
      · exact hsame (k.writeMode c m) _ rfl rfl rfl hw
  | timerMatch =>
    rw [RelayCore.timerMatch]
    split
    · exact hsame k _ rfl rfl rfl hk
    · exact hk
  | @proc _ _ k1 k2 h1 h2 =>
    have hon : I k.onTime := by
      obtain ⟨total, checkStart, heq⟩ := k.onTime_eq
      rw [heq]
      exact hsame k _ rfl rfl rfl hk
    have hk2 : I k2 := h2.invariant hcmd (h1.invariant hcmd hmap hon)
    split
    · exact hk2
    · obtain ⟨hset, htarget, htrace⟩ := k2.pass_flags
      exact hsame k2 _ hset htarget htrace hk2
  | clock ms sec => exact hsame k _ rfl rfl rfl hk

namespace Device

variable {b : Board} {ε : Type}

theorem core_step (cb : StateChangeCallback b ε) (s : Device b ε) (ev : RelayEvent b ε) :
    CoreStep ev s.core (s.step cb ev).core := by
  cases ev with
  | setTargetState idx st src store => exact .commands (CallbackStep.setTargetState s ..).commands
  | toggleState idx src => exact .commands (CallbackStep.toggleState s ..).commands
  | netState idx st => exact .commands (CallbackStep.netState s ..).commands
  | changeMode c m =>
    show CoreStep _ s.core (s.changeMode c m).core
    rw [core_changeMode]
    exact .changeMode c m s.core
  | zeroSync =>
    refine .commands ?_
    show s.core.Commands s.handleZeroSync.core
    rw [core_handleZeroSync]
    exact .refl _
  | timerMatch =>
    show CoreStep _ s.core s.handleControlWhenTimerMatch.core
    rw [core_handleControlWhenTimerMatch]
    exact .timerMatch s.core
  | proc rand =>
    obtain ⟨k1, k2, h1, h2, heq⟩ := s.core_proc cb rand
    show CoreStep _ s.core (s.proc cb rand).core
    rw [heq]
    exact .proc h1 h2
  | clock ms sec => exact .clock ms sec s.core
  | other env factActive lightness nwk => exact .commands (.refl _)

/-- After a boot nothing is driven, and every channel is due for a first drive. -/
theorem core_boot (rand : Nat → Nat) (stateLog onTimeLog : LogState) (sh : Shared b) (env : ε) :
    ∃ (t : b.Chn → Bool) (total : b.Chn → UInt32),
      (boot rand stateLog onTimeLog sh env).core =
        { target := t, present := fun c => !t c, set := t, pin := fun _ => false
          mode := sh.switchMode, busy := false, done := false, drive := none, total := total
          checkStart := fun _ => 0, powerOn := fun _ => true, timeMs := sh.timeMs
          trace := [] } := by
  refine ⟨_, _, RelayCore.ext rfl ?_ rfl rfl rfl rfl rfl rfl rfl rfl rfl rfl rfl⟩
  show flags (~~~(boot rand stateLog onTimeLog sh env).relay.rlsTarget &&& backupMaskRl) = _
  rw [flags_mask]
  funext c
  exact isOn_not _ (chn_lt c)

end Device

/-! ## A new device -/

/-- No callback. -/
def noCallback (b : Board) : StateChangeCallback b Unit where
  run s _ _ := s
  steps _ _ _ := .refl

/-- A sector nothing was stored in. -/
def emptyLog : LogState := ⟨0, fun _ => Nor.erasedByte⟩

/-- What a new one-relay device shares. -/
def demoShared : Shared board1 where
  switchMode _ := .toggle
  powerOnState _ := .restore
  timeMs := 0
  timeS := 0
  factActive := false
  eleAdrPrimary := 2
  lightness _ := ⟨levelOff, levelOff⟩
  nwkControlMsgPara _ := ⟨0, 0, 0⟩

end LumesSwitch
