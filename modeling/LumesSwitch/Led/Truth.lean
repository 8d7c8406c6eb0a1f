import LumesSwitch.Button.Gesture
import LumesSwitch.Led.Queue
import LumesSwitch.Relay.Momentary

/-!
# The LEDs at rest (`led.c`, `relay.c`, `button.c`)

The relays push the colors of their LEDs, other modules ask for blinks and refreshes, and the
gestures of the reset write the pins at once, until their time-out asks for a refresh.

- `Device.led_part` — what a part of the relays pushes;
- `GestureLights` — the gestures, with what they do to the LEDs;
- `LedSwitch` — the relays, their LEDs and the gestures;
- `LedSwitch.truth_at_rest` — the runs in which the LEDs at rest show the states.
-/

namespace LumesSwitch

open Flags Rings Runs

/-! ## The relays push the colors -/

theorem sets_ledOnCommand {b : Board} (c : b.Chn) (on : Bool) (i : Nat) :
    (ledOnCommand c on).Sets i ↔ i = c := by
  have hthree := b.le_three
  have hc : c.val < 16 := Nat.lt_of_lt_of_le c.isLt (by omega)
  have hbit : isOn (1#16 <<< c.val) i = true ↔ i = c := by
    rw [isOn, getLsbD_one_shiftLeft, Bool.and_eq_true, decide_eq_true_iff, decide_eq_true_iff]
    omega
  exact (and_iff_right rfl).trans hbit

namespace Device

variable {b : Board} {ε : Type}

/-- The LED commands that have been pushed by the relays, in order. -/
def ledCommands (s : Device b ε) : List LedCommand := s.relay.out.filterMap RelayOut.ledCommand

/-- The relays keep their states, and push nothing. -/
def LedKept (s s' : Device b ε) : Prop :=
  s'.ledCommands = s.ledCommands ∧
    ∀ i < b.numberRl, isOn s'.relay.rlsTarget i = isOn s.relay.rlsTarget i

theorem ledKept_of_outView {s s' : Device b ε}
    (h : s'.outView RelayOut.ledCommand = s.outView RelayOut.ledCommand) : LedKept s s' := by
  have htarget : s'.relay.rlsTarget = s.relay.rlsTarget := congrArg (fun v => v.2.1) h
  exact ⟨congrArg (fun v => v.2.2) h, fun _ _ => by rw [htarget]⟩

theorem ledKept_of_beside {s s' : Device b ε} (h : s'.besideCommand.1 = s.besideCommand.1) :
    LedKept s s' := ledKept_of_outView (outView_of_beside h)

/-- A pass drives and consumes without a LED command. -/
theorem ledKept_drive (s : Device b ε) : LedKept s (s.part .drive) := by
  refine ledKept_of_outView ?_
  cases hst : s.relay.relayModuleSt with
  | busy =>
    have hpart : s.part .drive = s.procBusy := by rw [part, hst]
    rw [hpart, procBusy]
    split
    · rfl
    · rfl
  | idle =>
    have hpart : s.part .drive = s.procIdle := by rw [part, hst]
    rw [hpart, procIdle]
    generalize hs1 : (if s.relay.doneOnOffControlFlag = true then s.consumeDone else s) = s1
    have hview : s1.outView RelayOut.ledCommand = s.outView RelayOut.ledCommand := by
      rw [← hs1]
      split
      · exact s.outView_consumeDone rfl
      · rfl
    rw [← hview]
    split
    · cases s1.nextChannel with
      | none => rfl
      | some c =>
        show (s1.startDrive c).outView RelayOut.ledCommand = _
        rw [outView_startDrive]
        exact congrArg (fun x => (_, _, x)) (List.append_nil _)
    · rfl

theorem ledKept_zeroSync (s : Device b ε) : LedKept s s.handleZeroSync := by
  have hgrid : ∀ s : Device b ε, LedKept s s.gridFreqZeroSync := by
    intro s
    rw [gridFreqZeroSync]
    dsimp only
    split
    · split <;> split <;> exact ⟨rfl, fun _ _ => rfl⟩
    · exact ⟨rfl, fun _ _ => rfl⟩
  rw [handleZeroSync]
  split
  · obtain ⟨hcommands, htarget⟩ := hgrid (s.updRelay fun r =>
      { r with controlWhenTimeout := true, timer1 := true })
    exact ⟨hcommands, htarget⟩
  · exact hgrid s

/-- The mapping of a channel pushes the color of its new state. -/
theorem led_map (s : Device b ε) (c : b.Chn) :
    LedKept s (s.mapChannel (silentCallback b ε) c) ∨
      (s.mapChannel (silentCallback b ε) c).ledCommands =
          s.ledCommands ++ [ledOnCommand c (isOn s.relay.rlsSet c)] ∧
        ∀ i < b.numberRl, isOn (s.mapChannel (silentCallback b ε) c).relay.rlsTarget i =
          if i = c then isOn s.relay.rlsSet c else isOn s.relay.rlsTarget i := by
  rw [mapChannel]
  dsimp only
  rw [run_silentCallback]
  split
  · refine .inr ⟨?_, fun i _ => isOn_put _ (chn_lt c) _ i⟩
    show (s.relay.out ++ [_]).filterMap RelayOut.ledCommand = _
    rw [List.filterMap_append]
    refine congrArg (s.ledCommands ++ ·) ?_
    show [ledOnCommand c (isOn (Flags.put s.relay.rlsTarget c _) c)] = _
    rw [isOn_put _ (chn_lt c), if_pos rfl]
  · exact .inl ⟨rfl, fun _ _ => rfl⟩

/-- **A part** that changes a state pushes its color, and nothing else is pushed. -/
theorem led_part (s : Device b ε) (p : RelayPart b ε) :
    LedKept s (s.part p) ∨ ∃ (c : b.Chn) (on : Bool),
      (s.part p).ledCommands = s.ledCommands ++ [ledOnCommand c on] ∧
        ∀ i < b.numberRl, isOn (s.part p).relay.rlsTarget i =
          if i = c then on else isOn s.relay.rlsTarget i := by
  cases p with
  | net i st => exact .inl (ledKept_of_beside (congrArg Prod.fst (s.besideCommand_netState i st)))
  | button i st store =>
    exact .inl (ledKept_of_beside (congrArg Prod.fst (s.besideCommand_setTargetState ..)))
  | toggle i => exact .inl (ledKept_of_beside (congrArg Prod.fst (s.besideCommand_toggleState ..)))
  | changeMode i m => exact .inl (ledKept_of_outView (s.outView_changeMode i m))
  | onTime rand => exact .inl (ledKept_of_outView (s.outView_onTimeProc (fun _ _ => rfl) rand))
  | map c => exact (s.led_map c).imp_right fun h => ⟨c, isOn s.relay.rlsSet c, h⟩
  | mask =>
    refine .inl ⟨rfl, fun i hi => ?_⟩
    show isOn (s.relay.rlsTarget &&& backupMaskRl) i = _
    rw [isOn_and, isOn_backupMaskRl (b := b) ⟨i, hi⟩, Bool.and_true]
  | storeDelay =>
    refine .inl (ledKept_of_outView ?_)
    show s.handleStoreDelay.outView _ = _
    rw [handleStoreDelay]
    dsimp only
    split <;> rfl
  | autoOff i => exact .inl (ledKept_of_outView (s.outView_checkAutoOffChannel i))
  | drive => exact .inl s.ledKept_drive
  | watch => exact .inl (ledKept_of_outView (s.outView_checkBusyTimeout rfl))
  | zeroSync => exact .inl s.ledKept_zeroSync
  | timerMatch => exact .inl (ledKept_of_outView s.outView_handleControlWhenTimerMatch)
  | clock ms sec => exact .inl ⟨rfl, fun _ _ => rfl⟩
  | other env factActive lightness nwk => exact .inl ⟨rfl, fun _ _ => rfl⟩

end Device

/-! ## The gestures and the LEDs (`button.c`) -/

/-- What a gesture does to the LEDs once both buttons are held, once both are released, and when
it is confirmed: until it is over they may show anything. -/
structure GestureLights (b : Board) where
  held : Leds b → Leds b
  armed : Leds b → Leds b
  confirmed : Leds b → Leds b
  held_pins : ∀ l, Leds.PinsOnly l (held l)
  armed_pins : ∀ l, Leds.PinsOnly l (armed l)
  confirmed_sound : ∀ {t : BitVec 16} {on : Prop} {l : Leds b}, on → Leds.Sound t on l →
    Leds.Sound t on (confirmed l)

/-- The gesture of the config buttons. -/
def configLights (b : Board) : GestureLights b where
  held l := l.ledOffAll.ledSetColor 0 .pink
  armed l := l.ledOffAll
  confirmed l := l.setupFactoryResetWithDelay true
  held_pins l := (l.ledOffAll.pinsOnly_ledSetColor 0 .pink).trans l.pinsOnly_ledOffAll
  armed_pins l := l.pinsOnly_ledOffAll
  confirmed_sound _ h := h.kickOut

/-- The gesture of the default buttons. -/
def defaultLights (b : Board) : GestureLights b where
  held l := l.ledOffAll
  armed l := l
  confirmed l := l.setupFactoryResetWithDelay false
  held_pins l := l.pinsOnly_ledOffAll
  armed_pins _ := rfl
  confirmed_sound hon h := h.write (Leds.pinsOnly_ledOffAll _) hon

namespace GestureLights

variable {b : Board} (lights : GestureLights b) (pv : Leds.RefreshCallback b) (now : UInt32)

/-- `ev_handle_reset_timeout_handle`, `ev_handle_default_timeout_handle` -/
def timeout (x : ParaBtnReset × Leds b) : ParaBtnReset × Leds b :=
  (x.1.timeout, pv backupMaskRl x.2)

/-- `button_check_clean_reset_param`, `button_check_clean_default_param` -/
def checkClean (x : ParaBtnReset × Leds b) : ParaBtnReset × Leds b :=
  let x := if x.1.isActive ∧ now - x.1.isActiveStTime > confirmResetTimeoutMs then timeout pv x
    else x
  if x.1.step = .hold5S ∧ clockTimeExceed now x.1.changeStepLastT 2000 = true then timeout pv x
  else x

/-- HOLD_5S in `button_handle_special_event`, the other button last seen at `other`. -/
def hold (other : ButtonState) (x : ParaBtnReset × Leds b) : ParaBtnReset × Leds b :=
  if other = .hold5S then (x.1.updateStep now .hold5S, lights.held x.2) else x

/-- RELEASE in `button_handle_special_event` -/
def release (other : ButtonState) (x : ParaBtnReset × Leds b) : ParaBtnReset × Leds b :=
  if x.1.step = .hold5S then
    if clockTimeExceed now x.1.changeStepLastT 2000 = false then
      if other = .release then
        ({ x.1.updateStep now .hold5SRelease with isActive := true, isActiveStTime := now },
          lights.armed x.2)
      else x
    else timeout pv x
  else x

/-- The confirming press in `button_handle_special_event` -/
def confirm (x : ParaBtnReset × Leds b) : ParaBtnReset × Leds b :=
  if x.1.isActive ∧ x.1.step = .hold5SRelease then
    if clockTimeExceed now x.1.isActiveStTime confirmResetTimeoutMs = false then
      (x.1, lights.confirmed x.2)
    else checkClean pv now x
  else x

/-- An event of button `i`, the last events being `last`. -/
def event (g : ResetGesture b) (last : b.Btn → ButtonState) (i : b.Btn) (evt : ButtonState)
    (x : ParaBtnReset × Leds b) : ParaBtnReset × Leds b :=
  if g.Mem i then
    if evt = .hold5S then lights.hold now (last (g.other i)) x
    else if evt = .release then lights.release pv now (last (g.other i)) x
    else if i = g.master ∧ evt = g.confirmEvt then lights.confirm pv now x
    else x
  else x

theorem fst_checkClean (x : ParaBtnReset × Leds b) :
    (checkClean pv now x).1 = x.1.checkClean now := by
  have htimeout : ∀ (p : Prop) [Decidable p] (x : ParaBtnReset × Leds b),
      (if p then timeout pv x else x).1 = if p then x.1.timeout else x.1 := by
    intro p _ x
    split
    · rfl
    · rfl
  rw [checkClean, ParaBtnReset.checkClean]
  rw [htimeout, htimeout]

/-- The record of a gesture is that of `ParaBtnReset.next`. -/
theorem fst_event (g : ResetGesture b) (last : b.Btn → ButtonState) (i : b.Btn)
    (evt : ButtonState) (x : ParaBtnReset × Leds b) :
    (lights.event pv now g last i evt x).1 = x.1.next g now last i evt := by
  have hhold : ∀ other, (lights.hold now other x).1 = x.1.hold now other := by
    intro other
    rw [hold, ParaBtnReset.hold]
    split
    · rfl
    · rfl
  have hrelease : ∀ other, (lights.release pv now other x).1 = x.1.release now other := by
    intro other
    rw [release, ParaBtnReset.release]
    split
    · split
      · split
        · rfl
        · rfl
      · rfl
    · rfl
  have hconfirm : (lights.confirm pv now x).1 = (x.1.confirm now).1 := by
    rw [confirm, ParaBtnReset.confirm]
    split
    · split
      · rfl
      · exact fst_checkClean pv now x
    · rfl
  rw [event, ParaBtnReset.next]
  split
  · split
    · exact hhold _
    · split
      · exact hrelease _
      · split
        · exact hconfirm
        · rfl
  · rfl

/-! ### What they keep -/

/-- The invariant, while a gesture is on that the record is not of, if `other`. -/
def SoundWith (t : BitVec 16) (other : Prop) (x : ParaBtnReset × Leds b) : Prop :=
  Leds.Sound t (x.1.step ≠ .idle ∨ other) x.2

namespace SoundWith

variable {lights : GestureLights b} {pv : Leds.RefreshCallback b} {t : BitVec 16} {other : Prop}
  {x : ParaBtnReset × Leds b}

theorem timeout (h : SoundWith t other x) (hpv : Refreshes t pv) :
    SoundWith t other (GestureLights.timeout pv x) := Leds.Sound.refreshAll h hpv _

theorem checkClean (h : SoundWith t other x) (hpv : Refreshes t pv) (now : UInt32) :
    SoundWith t other (GestureLights.checkClean pv now x) := by
  have htimeout : ∀ (p : Prop) [Decidable p] {x : ParaBtnReset × Leds b},
      SoundWith t other x → SoundWith t other (if p then GestureLights.timeout pv x else x) := by
    intro p _ x hx
    split
    · exact hx.timeout hpv
    · exact hx
  exact htimeout _ (htimeout _ h)

theorem hold (h : SoundWith t other x) (now : UInt32) (seen : ButtonState) :
    SoundWith t other (lights.hold now seen x) := by
  rw [GestureLights.hold]
  split
  · exact Leds.Sound.write h (lights.held_pins x.2) (.inl nofun)
  · exact h

theorem release (h : SoundWith t other x) (hpv : Refreshes t pv) (now : UInt32)
    (seen : ButtonState) : SoundWith t other (lights.release pv now seen x) := by
  rw [GestureLights.release]
  split
  · split
    · split
      · exact Leds.Sound.write h (lights.armed_pins x.2) (.inl nofun)
      · exact h
    · exact h.timeout hpv
  · exact h

theorem confirm (h : SoundWith t other x) (hpv : Refreshes t pv) (now : UInt32) :
    SoundWith t other (lights.confirm pv now x) := by
  rw [GestureLights.confirm]
  split
  · next hactive =>
    split
    -- the gesture stays on until its time-out
    · refine lights.confirmed_sound (.inl ?_) h
      rw [hactive.2]
      decide
    · exact h.checkClean hpv now
  · exact h

/-- **An event** of a button. -/
theorem event (h : SoundWith t other x) (hpv : Refreshes t pv) (now : UInt32)
    (g : ResetGesture b) (last : b.Btn → ButtonState) (i : b.Btn) (evt : ButtonState) :
    SoundWith t other (lights.event pv now g last i evt x) := by
  rw [GestureLights.event]
  split
  · split
    · exact h.hold now _
    · split
      · exact h.release hpv now _
      · split
        · exact h.confirm hpv now
        · exact h
  · exact h

end SoundWith

end GestureLights

/-! ## The switch and its LEDs -/

/-- The relays, the LEDs and the records of the gestures. -/
structure LedSwitch (b : Board) (ε : Type) where
  dev : Device b ε
  leds : Leds b
  paraBtnReset : ParaBtnReset
  paraBtnDefault : ParaBtnReset
  optBtnBeforeSt : b.Btn → ButtonState

/-- What happens to them. -/
inductive LedEvent (b : Board) (ε : Type) where
  /-- a part of the relays, the interrupts and the clock among them -/
  | relay (p : RelayPart b ε)
  /-- `led_blink_color` with `LAST_STATE_REFRESH_LED` -/
  | blinkColor (ledMask : BitVec 16) (color : LedColor) (blinkTimes : UInt8)
      (blinkInterval : UInt16)
  | fastBlink (blinkTime : UInt8) (color : LedColor)
  | normalBlink (blinkTime : UInt8) (color : LedColor)
  /-- `send_led_evt_to_mcu`, which dimming calls too -/
  | ledEvt (unprov : Bool) (evt : LedEvt) (ledMask : BitVec 16)
  /-- `led_refresh` -/
  | refresh (ledMask : BitVec 16)
  /-- a command `LED_MODE_REFRESH` -/
  | pushRefresh (ledMask : BitVec 16)
  | refreshDelay (delayT : UInt16) (ledMask : BitVec 16)
  /-- an event of a button, for the gestures -/
  | btn (i : b.Btn) (evt : ButtonState)
  /-- the part of `system_timer_handle_100ms` that is about the gestures -/
  | clean
  /-- `setup_factory_reset_with_delay` with a blink -/
  | kickOut
  /-- `led_handle_event_function` -/
  | handle
  /-- the memory behind `toggleLedArr` and `ledAddr` -/
  | memory (entry : LedBlinkInit) (pins : LedPins)

namespace LedSwitch

variable {b : Board} {ε : Type}

def now (w : LedSwitch b ε) : UInt32 := w.dev.sh.timeMs

/-- `pvLed_HandleRefreshLed` -/
def pv (w : LedSwitch b ε) : Leds.RefreshCallback b := w.dev.relayHandleRefresh

/-- The command for a refresh. -/
def refreshCommand (ledMask : BitVec 16) : LedCommand :=
  { commandLedDefault with ledMode := .refresh, ledMask := ledMask }

/-- A part of the relays, and the LED commands that it pushes. -/
def relayPart (w : LedSwitch b ε) (p : RelayPart b ε) : LedSwitch b ε :=
  let dev := w.dev.part p
  { w with
    dev := dev
    leds := runFrom Leds.ledPushLedCommandToFifo w.leds
      (dev.ledCommands.drop w.dev.ledCommands.length) }

/-- Both gestures, the reset first. -/
def gestures (w : LedSwitch b ε)
    (reset default : ParaBtnReset × Leds b → ParaBtnReset × Leds b) : LedSwitch b ε :=
  let x := reset (w.paraBtnReset, w.leds)
  let y := default (w.paraBtnDefault, x.2)
  { w with leds := y.2, paraBtnReset := x.1, paraBtnDefault := y.1 }

/-- `button_handle_special_event` -/
def buttonHandleSpecialEvent (w : LedSwitch b ε) (i : b.Btn) (evt : ButtonState) :
    LedSwitch b ε :=
  w.gestures ((configLights b).event w.pv w.now (configGesture b) w.optBtnBeforeSt i evt)
    ((defaultLights b).event w.pv w.now (defaultGesture b) w.optBtnBeforeSt i evt)

/-- The records go on as those that the resets depend on, whatever the LEDs show. -/
theorem records_buttonHandleSpecialEvent (w : LedSwitch b ε) (i : b.Btn) (evt : ButtonState) :
    (w.buttonHandleSpecialEvent i evt).paraBtnReset =
        w.paraBtnReset.next (configGesture b) w.now w.optBtnBeforeSt i evt ∧
      (w.buttonHandleSpecialEvent i evt).paraBtnDefault =
        w.paraBtnDefault.next (defaultGesture b) w.now w.optBtnBeforeSt i evt :=
  ⟨GestureLights.fst_event .., GestureLights.fst_event ..⟩

/-- The gestures in `button_handle_option_btn_state` -/
def buttonHandleOptionBtnState (w : LedSwitch b ε) (i : b.Btn) (evt : ButtonState) :
    LedSwitch b ε :=
  let w := if w.dev.sh.factActive then w else w.buttonHandleSpecialEvent i evt
  { w with optBtnBeforeSt := Function.update w.optBtnBeforeSt i evt }

/-- One event. -/
def step (w : LedSwitch b ε) : LedEvent b ε → LedSwitch b ε
  | .relay p => w.relayPart p
  | .blinkColor mask color times interval =>
    { w with leds := w.leds.ledBlinkColor mask color times .refreshLed interval }
  | .fastBlink times color => { w with leds := w.leds.ledPushFastBlinkLedCmdToFifo times color }
  | .normalBlink times color =>
    { w with leds := w.leds.ledPushNormalBlinkLedCmdToFifo times color }
  | .ledEvt unprov evt mask => { w with leds := w.leds.sendLedEvtToMcu unprov evt mask }
  | .refresh mask => { w with leds := w.pv mask w.leds }
  | .pushRefresh mask =>
    { w with leds := w.leds.ledPushLedCommandToFifo (refreshCommand mask) }
  | .refreshDelay delayT mask =>
    { w with leds := w.leds.ledSetupRefreshLedDelay w.now delayT mask }
  | .btn i evt => w.buttonHandleOptionBtnState i evt
  | .clean =>
    w.gestures (GestureLights.checkClean w.pv w.now) (GestureLights.checkClean w.pv w.now)
  | .kickOut => { w with leds := w.leds.setupFactoryResetWithDelay true }
  | .handle => { w with leds := w.leds.ledHandleEventFunction w.pv w.now }
  | .memory entry pins =>
    { w with leds := (w.leds.setEntry b.numberRl entry).setPin b.numberRl pins }

/-- After a boot, with `memory` behind the array. -/
def boot (rand : Nat → Nat) (stateLog onTimeLog : LogState) (sh : Shared b) (env : ε)
    (memory : LedBlinkInit) : LedSwitch b ε where
  dev := .boot rand stateLog onTimeLog sh env
  leds := .ledInit b memory
  paraBtnReset := ⟨false, .idle, 0xFFFFFFFF, 0⟩
  paraBtnDefault := ⟨false, .idle, 0xFFFFFFFF, 0⟩
  optBtnBeforeSt _ := .noPress

/-! ## What is asked of the LEDs -/

/-- The switch is not in the factory test. -/
def OutsideFact (w : LedSwitch b ε) (_ : LedEvent b ε) : Prop := w.dev.sh.factActive = false

instance (w : LedSwitch b ε) (ev : LedEvent b ε) : Decidable (w.OutsideFact ev) :=
  inferInstanceAs (Decidable (_ = _))

/-- The queue has had room for every command. -/
def HasRoom (w : LedSwitch b ε) (ev : LedEvent b ε) : Prop :=
  (w.step ev).leds.overflowed = false

instance (w : LedSwitch b ε) (ev : LedEvent b ε) : Decidable (w.HasRoom ev) :=
  inferInstanceAs (Decidable (_ = _))

/-- A blink is asked for at least once. -/
def CountOk (_ : LedSwitch b ε) : LedEvent b ε → Prop
  | .blinkColor _ _ times _ | .fastBlink times _ | .normalBlink times _ => 1 ≤ times
  | _ => True

/-- The blinks that are asked for end with a refresh: the number of toggles is not 0 in a byte,
and pink is asked for with a LED of the board; and the memory behind the array does not read as a
LED that blinks. -/
def RequestsEnd (w : LedSwitch b ε) : LedEvent b ε → Prop
  | .blinkColor mask color times _ => LedCommand.BlinkEnds b mask color (times <<< 1)
  | .fastBlink times color => LedCommand.BlinkEnds b 0xFFFF#16 color times
  | .normalBlink times color => LedCommand.BlinkEnds b 0xFFFF#16 color (times <<< 1)
  | .ledEvt _ evt mask => evt = .otaBlockTranfer → LedCommand.Meets b mask
  | .handle => (w.leds.toggleLedArr b.numberRl).toggleLedFlag = false
  | _ => True

instance (w : LedSwitch b ε) (ev : LedEvent b ε) : Decidable (w.CountOk ev) :=
  match ev with
  | .blinkColor _ _ times _ | .fastBlink times _ | .normalBlink times _ =>
    inferInstanceAs (Decidable (1 ≤ times))
  | .relay _ | .ledEvt .. | .refresh _ | .pushRefresh _ | .refreshDelay .. | .btn .. | .clean
  | .kickOut | .handle | .memory .. => .isTrue trivial

instance (w : LedSwitch b ε) (ev : LedEvent b ε) : Decidable (w.RequestsEnd ev) :=
  match ev with
  | .blinkColor .. | .fastBlink .. | .normalBlink .. =>
    inferInstanceAs (Decidable (LedCommand.BlinkEnds ..))
  | .ledEvt .. => inferInstanceAs (Decidable (_ → _))
  | .handle => inferInstanceAs (Decidable (_ = _))
  | .relay _ | .refresh _ | .pushRefresh _ | .refreshDelay .. | .btn .. | .clean | .kickOut
  | .memory .. => .isTrue trivial

/-- Nothing waits, nothing blinks, and no gesture is on. -/
def AtRest (w : LedSwitch b ε) : Prop :=
  w.leds.fifoLedCommands.isEmpty = true ∧ w.leds.ledGetBlinkLedFlag = false ∧
    w.paraBtnReset.step = .idle ∧ w.paraBtnDefault.step = .idle

instance (w : LedSwitch b ε) : Decidable w.AtRest := inferInstanceAs (Decidable (_ ∧ _))

/-- **The LEDs tell the truth**: at rest, each LED that has been refreshed is red if its relay is
ON, and blue if it is OFF. -/
def TellsTruth (w : LedSwitch b ε) : Prop :=
  w.AtRest → ∀ c : b.Chn, isOn w.leds.refreshed c = true →
    w.leds.pin c = relayPins (isOn w.dev.relay.rlsTarget c)

instance (w : LedSwitch b ε) : Decidable w.TellsTruth := inferInstanceAs (Decidable (_ → _))

/-! ## The invariant -/

/-- A gesture is on. -/
def Held (w : LedSwitch b ε) : Prop :=
  w.paraBtnReset.step ≠ .idle ∨ w.paraBtnDefault.step ≠ .idle

/-- The invariant of the LEDs, for the target and the gestures. -/
def LedsSound (w : LedSwitch b ε) : Prop := Leds.Sound w.dev.relay.rlsTarget w.Held w.leds

variable {w : LedSwitch b ε}

theorem LedsSound.relayPart (h : w.LedsSound) (p : RelayPart b ε) :
    (w.relayPart p).LedsSound := by
  show Leds.Sound (w.dev.part p).relay.rlsTarget w.Held
    (runFrom Leds.ledPushLedCommandToFifo w.leds
      ((w.dev.part p).ledCommands.drop w.dev.ledCommands.length))
  -- the command says what the target says, from the moment it is pushed
  rcases w.dev.led_part p with ⟨hcommands, htarget⟩ | ⟨c, on, hcommands, htarget⟩
  · rw [hcommands, List.drop_length]
    exact h.congr htarget (fun _ _ => rfl) (fun _ _ => rfl) rfl
  · have hnew : (w.dev.part p).ledCommands.drop w.dev.ledCommands.length =
        [ledOnCommand c on] := by
      rw [hcommands, List.drop_left]
    rw [hnew]
    refine h.push ?_ fun i hi => ?_
    · cases on with
      | true => exact .inl rfl
      | false => exact .inr rfl
    · rw [htarget i hi]
      by_cases hic : i = c
      · rw [if_pos ((sets_ledOnCommand c on i).mpr hic), if_pos hic]
        rfl
      · rw [if_neg fun hset => hic ((sets_ledOnCommand c on i).mp hset), if_neg hic]

/-- Each gesture comes while the other may be on. -/
theorem LedsSound.gestures (h : w.LedsSound)
    {reset default : ParaBtnReset × Leds b → ParaBtnReset × Leds b}
    (hreset : ∀ {other x}, GestureLights.SoundWith w.dev.relay.rlsTarget other x →
      GestureLights.SoundWith w.dev.relay.rlsTarget other (reset x))
    (hdefault : ∀ {other x}, GestureLights.SoundWith w.dev.relay.rlsTarget other x →
      GestureLights.SoundWith w.dev.relay.rlsTarget other (default x)) :
    (w.gestures reset default).LedsSound := by
  have hfirst : GestureLights.SoundWith w.dev.relay.rlsTarget (w.paraBtnDefault.step ≠ .idle)
      (reset (w.paraBtnReset, w.leds)) := hreset h
  -- to the second gesture, the first one is the other
  have hsecond : GestureLights.SoundWith w.dev.relay.rlsTarget
      ((reset (w.paraBtnReset, w.leds)).1.step ≠ .idle)
      (default (w.paraBtnDefault, (reset (w.paraBtnReset, w.leds)).2)) :=
    hdefault (Leds.Sound.mono hfirst Or.symm)
  exact Leds.Sound.mono hsecond Or.symm

/-- A blink that ends is a request. -/
theorem LedsSound.request (h : w.LedsSound) {c : LedCommand} (hmode : c.ledMode = .blink)
    (hlast : c.lastState = .refreshLed)
    (hends : LedCommand.BlinkEnds b c.ledMask c.ledColor c.blinkTime) :
    Leds.Sound w.dev.relay.rlsTarget w.Held (w.leds.ledPushLedCommandToFifo c) := by
  refine Leds.Sound.request h ?_ ?_
  · rw [hmode]
    decide
  · unfold LedCommand.Known
    rw [hmode]
    exact ⟨hlast, hends⟩

end LedSwitch

/-- The events of `led_ev.c` ask for blinks that end, but for pink ones of a mask of others. -/
theorem LedEvt.blinkEnds {b : Board} {unprov : Bool} {evt : LedEvt} {mask mask' : BitVec 16}
    {color : LedColor} {times : UInt8} {interval : UInt16}
    (hblink : evt.blink unprov mask = some (mask', color, times, interval))
    (hmask : evt = .otaBlockTranfer → LedCommand.Meets b mask) :
    LedCommand.BlinkEnds b mask' color (times <<< 1) := by
  have hconfig : LedCommand.Meets b ledConfigMask := ⟨0, b.one_le, by decide⟩
  cases evt with
  | powerOn =>
    cases unprov with
    | true =>
      cases hblink
      exact LedCommand.blinkEnds_of_color (by decide) (by decide)
    | false =>
      cases hblink
      exact LedCommand.blinkEnds_of_meets hconfig (by decide)
  | sucAddAppkey =>
    cases hblink
    exact LedCommand.blinkEnds_of_meets hconfig (by decide)
  | otaBlockTranfer =>
    cases hblink
    exact LedCommand.blinkEnds_of_meets (hmask rfl) (by decide)
  | configLockScheduleEnable | configLockScheduleFail | configLockScheduleDisable
  | configUnlock => cases hblink
  | _ =>
    cases hblink
    exact LedCommand.blinkEnds_of_color (by decide) (by decide)

namespace LedSwitch

variable {b : Board} {ε : Type} {w : LedSwitch b ε}

/-- **Step lemma.** -/
theorem LedsSound.step (h : w.LedsSound) (hroom : w.leds.overflowed = false) {ev : LedEvent b ε}
    (hfact : w.OutsideFact ev) (hends : w.RequestsEnd ev) : (w.step ev).LedsSound := by
  have hpv : Refreshes w.dev.relay.rlsTarget w.pv := Device.refreshes hfact
  cases ev with
  | relay p => exact h.relayPart p
  | blinkColor mask color times interval => exact h.request rfl rfl hends
  | fastBlink times color => exact h.request rfl rfl hends
  | normalBlink times color => exact h.request rfl rfl hends
  | ledEvt unprov evt mask =>
    show Leds.Sound _ w.Held (w.leds.sendLedEvtToMcu unprov evt mask)
    rw [Leds.sendLedEvtToMcu]
    cases hblink : evt.blink unprov mask with
    | none => exact h
    | some request => exact h.request rfl rfl (LedEvt.blinkEnds hblink hends)
  | refresh mask => exact Leds.Sound.refresh h hpv mask
  | pushRefresh mask => exact Leds.Sound.request h (c := refreshCommand mask) nofun trivial
  | refreshDelay delayT mask =>
    exact Leds.Sound.congr h (fun _ _ => rfl) (fun _ _ => rfl) (fun _ _ => rfl) rfl
  | btn i evt =>
    have hspecial : (w.buttonHandleSpecialEvent i evt).LedsSound :=
      h.gestures (fun hx => hx.event hpv w.now _ _ i evt) fun hx => hx.event hpv w.now _ _ i evt
    show LedsSound { (if w.dev.sh.factActive = true then w else w.buttonHandleSpecialEvent i evt)
      with optBtnBeforeSt := _ }
    rw [if_neg (by rw [hfact]; decide)]
    exact hspecial
  | clean => exact h.gestures (fun hx => hx.checkClean hpv w.now) fun hx => hx.checkClean hpv w.now
  | kickOut => exact Leds.Sound.kickOut h
  | handle => exact Leds.Sound.handle h hpv hends w.now hroom
  | memory entry pins =>
    exact Leds.Sound.congr h (fun _ _ => rfl)
      (fun i hi => Function.update_of_ne (Nat.ne_of_lt hi) ..)
      (fun i hi => Function.update_of_ne (Nat.ne_of_lt hi) ..) rfl

/-- The invariant, at rest. -/
theorem LedsSound.tellsTruth (h : w.LedsSound) (hroom : w.leds.overflowed = false) :
    w.TellsTruth := by
  rintro ⟨hempty, hblink, hreset, hdefault⟩ c hrefreshed
  obtain ⟨q, hq, htrue⟩ := h hroom
  rw [hq.isEmpty_eq, List.isEmpty_iff] at hempty
  subst hempty
  rcases htrue.shown c c.isLt hrefreshed with hheld | ⟨i, hi, hflag⟩ | ⟨d, hd, -⟩ | hset | hpin
  · exact (hheld.elim (· hreset) (· hdefault)).elim
  · have hidle := List.any_eq_false.mp hblink i (List.mem_range.mpr hi)
    exact absurd hflag hidle
  · exact absurd hd List.not_mem_nil
  · exact absurd hset Bool.false_ne_true
  · exact hpin

/-- **Every run** from a boot, outside the factory test and without a full queue: if the blinks that
are asked for end, the LEDs at rest show the states of the relays. -/
theorem truth_at_rest (rand : Nat → Nat) (stateLog onTimeLog : LogState) (sh : Shared b) (env : ε)
    (memory : LedBlinkInit) (evs : List (LedEvent b ε))
    (hfact : AllSteps step OutsideFact (boot rand stateLog onTimeLog sh env memory) evs)
    (hroom : AllSteps step HasRoom (boot rand stateLog onTimeLog sh env memory) evs)
    (hends : AllSteps step RequestsEnd (boot rand stateLog onTimeLog sh env memory) evs) :
    AllStates step TellsTruth (boot rand stateLog onTimeLog sh env memory) evs := by
  have hboot : (boot rand stateLog onTimeLog sh env memory).LedsSound := Leds.sound_ledInit memory
  refine AllStates.of_invariant (I := fun w => w.leds.overflowed = false ∧ w.LedsSound)
    (fun w h => h.2.tellsTruth h.1) (fun w ev h hok => ?_) ⟨rfl, hboot⟩
    ((hfact.and hroom).and hends)
  exact ⟨hok.1.2, h.2.step h.1 hok.1.1 hok.2⟩

/-- A new one-relay device; behind the array there is nothing that blinks. -/
def new1 : LedSwitch board1 Unit :=
  boot (fun _ => 0) emptyLog emptyLog demoShared () ⟨.red, 0, false, 0, .refreshLed, 0⟩

/-- Time passes, and the queue is looked at, `n` times. -/
def passes (n : Nat) : List (LedEvent board1 Unit) :=
  (List.replicate n [.relay (.clock 301 0), .handle]).flatten

/-- The LED blinks at power on while the relay is switched ON, and for dimming; then the buttons of
the reset are held for 5 s, and not released in time. -/
def restEvents : List (LedEvent board1 Unit) :=
  [.ledEvt true .powerOn 0xFFFF, .refresh 0xFFFF, .handle, .relay (.button board1.chn0 true true),
    .relay (.map board1.chn0), .ledEvt true .dimmingUp 1] ++ passes 13 ++
    [.btn Board.buttonScene0Idx .hold5S, .btn Board.buttonSwitch0Idx .hold5S,
      .relay (.clock 2100 2), .clean]

theorem truth_at_rest_lateRelease :
    (runFrom step new1 restEvents).AtRest ∧
      (runFrom step new1 restEvents).leds.pin board1.chn0 = ⟨true, false⟩ ∧
      AllStates step TellsTruth new1 restEvents :=
  ⟨by decide +kernel, by decide +kernel, truth_at_rest _ _ _ _ _ _ restEvents (by decide +kernel)
    (by decide +kernel) (by decide +kernel)⟩

/-- A blink of no toggles leaves its LED off. -/
def zeroToggles : List (LedEvent board1 Unit) :=
  [.refresh 0xFFFF, .blinkColor 1 .blue 128 200, .relay (.clock 11 0), .handle]

/-- 128 blinks are 0 toggles in a byte. -/
theorem blink_wraps :
    ¬ ∀ (b : Board) (ε : Type) (rand : Nat → Nat) (stateLog onTimeLog : LogState) (sh : Shared b)
      (env : ε) (memory : LedBlinkInit) (evs : List (LedEvent b ε)),
      AllSteps step OutsideFact (boot rand stateLog onTimeLog sh env memory) evs →
      AllSteps step HasRoom (boot rand stateLog onTimeLog sh env memory) evs →
      AllSteps step CountOk (boot rand stateLog onTimeLog sh env memory) evs →
      AllStates step TellsTruth (boot rand stateLog onTimeLog sh env memory) evs := by
  intro h
  have hzero := h board1 Unit (fun _ => 0) emptyLog emptyLog demoShared ()
    ⟨.red, 0, false, 0, .refreshLed, 0⟩ zeroToggles (by decide +kernel) (by decide +kernel)
    (by decide +kernel)
  revert hzero
  decide +kernel

/-- A pink blink for a LED that the board has not. -/
example : ¬ (runFrom step new1
    [.refresh 0xFFFF, .blinkColor 8 .pink 1 200, .relay (.clock 11 0), .handle]).TellsTruth := by
  decide +kernel

end LedSwitch

end LumesSwitch
