import LumesSwitch.Lib.Ring
import LumesSwitch.Relay.Model

/-!
# The LEDs of the relays (`led.c`, `led_ev.c`)

Each relay has a LED with a red and a blue pin. Commands for the LEDs wait in a FIFO while any
LED blinks; a blink that is over asks for a refresh, in which each LED takes the color of the
state of its relay. Other code writes the pins at once.

- `Leds` — the variables and the pins;
- `Leds.ledHandleEventFunction` — one pass: a command, and the blinks;
- `Leds.ledBlinkColor`, `Leds.sendLedEvtToMcu` — the requests of other modules;
- `Device.relayHandleRefresh` — the refresh.
-/

namespace LumesSwitch

open Flags Rings Runs

/-! ## Types (`led.h`) -/

/-- `LedColor_enum` -/
inductive LedColor where
  | red
  | green
  | blue
  | pink
  | white
  | none
  deriving DecidableEq

/-- `LedLastState_enum` -/
inductive LedLastState where
  | refreshLed
  | onRed
  | onBlue
  | onPink
  | colorNone
  | refreshLedDelay
  deriving DecidableEq

/-- `LedMode_enum` -/
inductive LedMode where
  | off
  | on
  | blink
  | blinkForever
  | refresh
  | none
  deriving DecidableEq

/-- `LedCommand_str`, less the delay of a refresh, which nothing reads. -/
structure LedCommand where
  ledMode : LedMode
  ledMask : BitVec 16
  ledColor : LedColor
  blinkTime : UInt8
  lastState : LedLastState
  blinkInterval : UInt16

/-- `COMMAND_LED_DEFAULT` -/
def commandLedDefault : LedCommand := ⟨.blink, 0xFFFF#16, .red, 4, .refreshLed, 300⟩

/-- `LedBlinkInit_str` -/
structure LedBlinkInit where
  toggleLedState : LedColor
  toggleledLastTime : UInt32
  toggleLedFlag : Bool
  toggleLedTimes : UInt8
  toggleLedLastState : LedLastState
  toggleLedInterval : UInt32

/-- The levels of the two pins of a LED. -/
structure LedPins where
  red : Bool
  blue : Bool
  deriving DecidableEq

/-- `refresh_led_delay_t` -/
structure RefreshLedDelay where
  delayT : UInt32
  delayStartT : UInt32
  ledMask : BitVec 16

/-- `BUF_LED_CMD_SIZE` -/
def bufLedCmdSize : Nat := 10

/-- The variables of `led.c`. Entry `NUMBER_LED_RL` of `toggleLedArr` is the memory behind the
array, and the pins of that number are those behind `ledAddr`. `overflowed` and `refreshed` are
no variables of the source: whether a command was pushed into a full FIFO, and the LEDs that
have been refreshed since boot. -/
structure Leds (b : Board) where
  pin : Nat → LedPins
  toggleLedArr : Nat → LedBlinkInit
  fifoLedCommands : Ring bufLedCmdSize LedCommand
  refreshLedDelaySt : RefreshLedDelay
  ledHandleScanTimer : UInt32
  overflowed : Bool
  refreshed : BitVec 16

/-! ## Colors -/

/-- `led_set_color_red`, `led_set_color_blue`, `led_set_color_pink`, `led_off`; there are no
pins for the other colors. -/
def LedColor.pins : LedColor → Option LedPins
  | .red => some ⟨true, false⟩
  | .blue => some ⟨false, true⟩
  | .pink => some ⟨true, true⟩
  | .none => some ⟨false, false⟩
  | .green | .white => Option.none

/-- The color of a last state. -/
def LedLastState.color : LedLastState → LedColor
  | .onRed => .red
  | .onBlue => .blue
  | .onPink => .pink
  | .colorNone => .none
  | .refreshLed | .refreshLedDelay => .white

/-- `led_blink_led_red`, `led_blink_led_blue`, `led_blink_led_pink` -/
def LedPins.toggle (p : LedPins) : LedColor → LedPins
  | .red => ⟨!p.red, false⟩
  | .blue => ⟨false, !p.blue⟩
  | .pink => if p.red = p.blue then ⟨!p.red, !p.blue⟩ else ⟨!p.red, p.blue⟩
  | .green | .white | .none => p

namespace Leds

variable {b : Board}

/-! ## Pins -/

def setPin (l : Leds b) (i : Nat) (p : LedPins) : Leds b :=
  { l with pin := Function.update l.pin i p }

def setEntry (l : Leds b) (i : Nat) (e : LedBlinkInit) : Leds b :=
  { l with toggleLedArr := Function.update l.toggleLedArr i e }

/-- `led_off` -/
def ledOff (l : Leds b) (i : Nat) : Leds b := l.setPin i ⟨false, false⟩

/-- `led_off_all` -/
def ledOffAll (l : Leds b) : Leds b := runFrom ledOff l (List.range b.numberRl)

/-- `led_set_color` -/
def ledSetColor (l : Leds b) (i : Nat) (color : LedColor) : Leds b :=
  if i < b.numberRl then
    match color.pins with
    | some p => l.setPin i p
    | none => l
  else l

/-- `led_set_color_last_state` -/
def ledSetColorLastState (l : Leds b) (i : Nat) (st : LedLastState) : Leds b :=
  l.ledSetColor i st.color

/-- `led_toggle`: its bound is one LED too many. -/
def ledToggle (l : Leds b) (i : Nat) : Leds b :=
  if i ≤ b.numberRl then l.setPin i ((l.pin i).toggle (l.toggleLedArr i).toggleLedState) else l

/-! ## Requests -/

/-- `led_push_led_command_to_fifo` -/
def ledPushLedCommandToFifo (l : Leds b) (ledCmd : LedCommand) : Leds b :=
  { l with
    fifoLedCommands := l.fifoLedCommands.push ledCmd
    overflowed := l.overflowed || l.fifoLedCommands.isFull }

/-- `led_push_fast_blink_led_cmd_to_fifo` -/
def ledPushFastBlinkLedCmdToFifo (l : Leds b) (blinkTime : UInt8) (color : LedColor) : Leds b :=
  l.ledPushLedCommandToFifo { commandLedDefault with
    ledColor := color, blinkTime := blinkTime, blinkInterval := 180 }

/-- `led_push_normal_blink_led_cmd_to_fifo` -/
def ledPushNormalBlinkLedCmdToFifo (l : Leds b) (blinkTime : UInt8) (color : LedColor) : Leds b :=
  l.ledPushLedCommandToFifo { commandLedDefault with
    ledColor := color, blinkTime := blinkTime <<< 1 }

/-- `led_blink_color`: a blink is two toggles, counted in a byte. -/
def ledBlinkColor (l : Leds b) (ledMask : BitVec 16) (color : LedColor) (blinkTimes : UInt8)
    (lastState : LedLastState) (blinkInterval : UInt16) : Leds b :=
  l.ledPushLedCommandToFifo { commandLedDefault with
    ledMask := ledMask
    ledColor := color
    blinkTime := blinkTimes <<< 1
    lastState := lastState
    blinkInterval := blinkInterval }

/-- `LED_setupRefreshLedDelay` -/
def ledSetupRefreshLedDelay (l : Leds b) (now : UInt32) (delayT : UInt16) (ledMask : BitVec 16) :
    Leds b :=
  { l with refreshLedDelaySt := ⟨delayT.toUInt32, now, ledMask⟩ }

/-! ## Blinking -/

/-- The body of the loop of `led_blink`. A pink blink switches the other LEDs off. -/
def ledBlinkOne (now : UInt32) (ledMask : BitVec 16) (blinkTimes : UInt8)
    (lastState : LedLastState) (ledColor : LedColor) (blinkInterval : UInt16) (l : Leds b)
    (i : Nat) : Leds b :=
  if isOn ledMask i then
    (l.ledOff i).setEntry i
      ⟨ledColor, now, true, blinkTimes, lastState, blinkInterval.toUInt32⟩
  else if ledColor = .pink ∧ lastState = .refreshLed then l.ledOff i
  else l

/-- `led_blink` -/
def ledBlink (l : Leds b) (now : UInt32) (ledMask : BitVec 16) (blinkTimes : UInt8)
    (lastState : LedLastState) (ledColor : LedColor) (blinkInterval : UInt16) : Leds b :=
  runFrom (ledBlinkOne now ledMask blinkTimes lastState ledColor blinkInterval) l
    (List.range b.numberRl)

/-- `led_get_blink_led_flag` -/
def ledGetBlinkLedFlag (l : Leds b) : Bool :=
  (List.range b.numberRl).any fun i => (l.toggleLedArr i).toggleLedFlag

/-- The body of the loop of `led_toggle_handle`, with `enableRefreshLed`. -/
def ledToggleOne (now : UInt32) (x : Leds b × Bool) (i : Nat) : Leds b × Bool :=
  let l := x.1
  let e := l.toggleLedArr i
  if e.toggleLedFlag then
    if e.toggleLedTimes > 0 then
      if clockTimeExceed now e.toggleledLastTime e.toggleLedInterval then
        let e' : LedBlinkInit := { e with
          toggleledLastTime := now, toggleLedTimes := e.toggleLedTimes - 1 }
        if e'.toggleLedTimes = 0 then
          let l := l.setEntry i { e' with toggleLedFlag := false }
          match e.toggleLedLastState with
          | .onRed | .onBlue | .colorNone => (l.ledSetColorLastState i e.toggleLedLastState, x.2)
          | .refreshLed | .onPink | .refreshLedDelay => (l, true)
        else ((l.setEntry i e').ledToggle i, x.2)
      else x
    -- a blink of no toggles: there is no refresh
    else (l.setEntry i { e with toggleLedFlag := false }, x.2)
  else x

/-! ## A pass -/

/-- `led_refresh` with the function that `led_refresh_callback_init` has set. -/
abbrev RefreshCallback (b : Board) : Type := BitVec 16 → Leds b → Leds b

variable (pv : RefreshCallback b)

/-- `led_toggle_handle`: the loop comes to one entry too many. -/
def ledToggleHandle (l : Leds b) (now : UInt32) : Leds b :=
  let x := runFrom (ledToggleOne now) (l, false) (List.range (b.numberRl + 1))
  if x.2 then pv 0xFFFF#16 x.1 else x.1

/-- `led_handle_refresh_delay` -/
def ledHandleRefreshDelay (l : Leds b) (now : UInt32) : Leds b :=
  let d := l.refreshLedDelaySt
  if d.delayT ≠ 0 ∧ now - d.delayStartT > d.delayT then
    let l := pv d.ledMask l
    { l with refreshLedDelaySt := { l.refreshLedDelaySt with delayT := 0 } }
  else l

/-- A command of `led_handle_event_function`. -/
def ledRunCommand (l : Leds b) (now : UInt32) (cmd : LedCommand) : Leds b :=
  match cmd.ledMode with
  | .refresh => pv cmd.ledMask l
  | .blink =>
    l.ledBlink now cmd.ledMask cmd.blinkTime cmd.lastState cmd.ledColor cmd.blinkInterval
  | .on =>
    match cmd.ledColor with
    | .red | .blue | .pink =>
      runFrom (fun l i => if isOn cmd.ledMask i then l.ledSetColor i cmd.ledColor else l) l
        (List.range b.numberRl)
    | .green | .white | .none => l
  | .off =>
    runFrom (fun l i => if isOn cmd.ledMask i then l.ledOff i else l) l (List.range b.numberRl)
  | .blinkForever | .none => l

/-- The part of `led_handle_event_function` that is about the FIFO: while no LED blinks, a
command is taken. -/
def ledTakeCommand (l : Leds b) (now : UInt32) : Leds b :=
  if l.ledGetBlinkLedFlag then l
  else
    let l := l.ledHandleRefreshDelay pv now
    if l.fifoLedCommands.isEmpty then l
    else
      let cmd := l.fifoLedCommands.slot l.fifoLedCommands.head
      { l with fifoLedCommands := l.fifoLedCommands.drop }.ledRunCommand pv now cmd

/-- `led_handle_event_function` -/
def ledHandleEventFunction (l : Leds b) (now : UInt32) : Leds b :=
  if clockTimeExceed now l.ledHandleScanTimer 10 then
    let l := (l.ledTakeCommand pv now).ledToggleHandle pv now
    { l with ledHandleScanTimer := now }
  else l

/-- The variables after `led_init`, with `memory` behind the array. -/
def ledInit (b : Board) (memory : LedBlinkInit) : Leds b where
  pin _ := ⟨false, false⟩
  toggleLedArr i := if i < b.numberRl then ⟨.red, 0, false, 0, .refreshLed, 300⟩ else memory
  fifoLedCommands := ⟨fun _ => commandLedDefault, 0, 0, by decide, by decide⟩
  refreshLedDelaySt := ⟨0, 0, 0xFFFF#16⟩
  ledHandleScanTimer := 0
  overflowed := false
  refreshed := 0

end Leds

/-! ## Events (`led_ev.c`) -/

/-- `led_evt_t` -/
inductive LedEvt where
  | powerOn
  | otaFail
  | otaSucess
  | provisionFail
  | provisionSuccess
  | sucAddAppkey
  | failAddAppkey
  | cmdSetSubscription
  | cmdDelSubscription
  | cmdSetScene
  | cmdDelScene
  | cmdBindingEnable
  | cmdBindingDisable
  | cmdBindingFail
  | otaBlockTranfer
  | dimmingUp
  | dimmingDownLimit
  | configLockScheduleEnable
  | configLockScheduleFail
  | configLockScheduleDisable
  | configUnlock
  deriving DecidableEq

/-- `LED_CONFIG_MASK` -/
def ledConfigMask : BitVec 16 := 1

namespace LedEvt

/-- The LEDs, the color, the number and the interval of the blinks of an event; `unprov` is
whether the device is in no network. -/
def blink (unprov : Bool) (ledMask : BitVec 16) :
    LedEvt → Option (BitVec 16 × LedColor × UInt8 × UInt16)
  | .powerOn =>
    if unprov then some (0xFFFF#16, .red, 3, 300) else some (ledConfigMask, .pink, 3, 300)
  | .otaFail => some (0xFFFF#16, .red, 6, 250)
  | .otaSucess => some (0xFFFF#16, .blue, 6, 250)
  | .failAddAppkey | .provisionFail => some (0xFFFF#16, .red, 3, 300)
  | .sucAddAppkey => some (ledConfigMask, .pink, 3, 300)
  | .provisionSuccess => some (0xFFFF#16, .blue, 3, 300)
  | .cmdSetSubscription => some (ledMask, .blue, 2, 300)
  | .cmdDelSubscription => some (ledMask, .red, 2, 300)
  | .cmdSetScene => some (ledMask, .blue, 2, 200)
  | .cmdDelScene => some (ledMask, .red, 2, 200)
  | .cmdBindingEnable => some (ledMask, .blue, 2, 300)
  | .cmdBindingDisable => some (ledMask, .red, 2, 300)
  | .cmdBindingFail => some (ledMask, .red, 1, 300)
  | .otaBlockTranfer => some (ledMask, .pink, 1, 500)
  | .dimmingUp => some (ledMask, .blue, 2, 100)
  | .dimmingDownLimit => some (ledMask, .red, 2, 100)
  | .configLockScheduleEnable | .configLockScheduleFail | .configLockScheduleDisable
  | .configUnlock => none

end LedEvt

namespace Leds

variable {b : Board}

/-- `send_led_evt_to_mcu` -/
def sendLedEvtToMcu (l : Leds b) (unprov : Bool) (evt : LedEvt) (ledMask : BitVec 16) : Leds b :=
  match evt.blink unprov ledMask with
  | some (mask, color, times, interval) => l.ledBlinkColor mask color times .refreshLed interval
  | none => l

/-- The LEDs in `setup_factory_reset_with_delay`, when it is enabled. -/
def setupFactoryResetWithDelay (l : Leds b) (ledBlink : Bool) : Leds b :=
  let l := l.ledOffAll
  if ledBlink then l.ledBlinkColor ledConfigMask .pink 2 .refreshLed 180 else l

end Leds

/-! ## The relays -/

/-- The color for the state of a relay. -/
def relayColor (on : Bool) : LedColor := if on then .red else .blue

/-- `relay_handle_refresh` -/
def Device.relayHandleRefresh {b : Board} {ε : Type} (s : Device b ε) (mask : BitVec 16)
    (l : Leds b) : Leds b :=
  if s.sh.factActive = false then
    let l := runFrom (fun (l : Leds b) i =>
      if isOn mask i then l.ledSetColor i (relayColor (isOn s.relay.rlsTarget i)) else l) l
        (List.range b.numberRl)
    { l with refreshed := l.refreshed ||| mask }
  else l

/-- The command for LED `idx` to show a state. -/
def ledOnCommand (idx : Nat) (on : Bool) : LedCommand :=
  { commandLedDefault with ledColor := relayColor on, ledMode := .on, ledMask := 1#16 <<< idx }

/-- What `relay_map_set_and_target_status` pushes. -/
def RelayOut.ledCommand : RelayOut → Option LedCommand
  | .ledOn idx red => some (ledOnCommand idx red)
  | _ => none

end LumesSwitch
