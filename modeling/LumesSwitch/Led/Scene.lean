import LumesSwitch.Led.Model

/-!
# The LEDs of the scene buttons (`led_scene.c`)

Each scene button has a white LED, dark unless it blinks. The blinks that the modules ask for wait
in a FIFO while a LED blinks. A blink is counted in toggles and starts with the LED on, so that the
last toggle but one leaves it dark. When a LED has come to its last one and nothing waits, all are
switched off, those that still blink with them; the LEDs of a command go in step, so none does.

- `SceneLeds` — the variables and the pins;
- `SceneLeds.ledSceneHandleEventFunction` — one pass: a command, and the blinks;
- `SceneLedWatch.shown_of_rest` — every flash that is asked for is shown once.
-/

namespace LumesSwitch

open Flags Rings Runs

/-- `NUMBER_LED_SCENE` -/
def numberLedScene : Nat := Board.numberScene

/-- The variables of `led_scene.c`, and the levels of the pins. Entry `NUMBER_LED_SCENE` of
`toggleLedArr` is the memory behind the array. -/
structure SceneLeds where
  pin : Nat → Bool
  toggleLedArr : Nat → LedBlinkInit
  fifoLedCommands : Ring bufLedCmdSize LedCommand
  ledBlinkScanTimer : UInt32

namespace SceneLeds

/-! ## Pins -/

def setPin (l : SceneLeds) (i : Nat) (on : Bool) : SceneLeds :=
  { l with pin := Function.update l.pin i on }

def setEntry (l : SceneLeds) (i : Nat) (e : LedBlinkInit) : SceneLeds :=
  { l with toggleLedArr := Function.update l.toggleLedArr i e }

/-- `led_scene_off` -/
def ledSceneOff (l : SceneLeds) (i : Nat) : SceneLeds := l.setPin i false

/-- `led_scene_off_all` -/
def ledSceneOffAll (l : SceneLeds) : SceneLeds := runFrom ledSceneOff l (List.range numberLedScene)

/-- `led_scene_on` -/
def ledSceneOn (l : SceneLeds) (i : Nat) : SceneLeds := l.setPin i true

/-- `led_scene_refresh`, for any mask. -/
def ledSceneRefresh (l : SceneLeds) : SceneLeds := l.ledSceneOffAll

/-- `led_scene_toggle` -/
def ledSceneToggle (l : SceneLeds) (i : Nat) : SceneLeds :=
  if i < numberLedScene then l.setPin i (!l.pin i) else l

/-! ## Requests -/

/-- `led_scene_push_led_command_to_fifo` -/
def ledScenePushLedCommandToFifo (l : SceneLeds) (ledCmd : LedCommand) : SceneLeds :=
  { l with fifoLedCommands := l.fifoLedCommands.push ledCmd }

/-- `led_scene_push_blink_led_cmd_with_interval_to_fifo` -/
def ledScenePushBlinkLedCmdWithIntervalToFifo (l : SceneLeds) (mask : BitVec 16)
    (blinkTime : UInt8) (interval : UInt16) : SceneLeds :=
  l.ledScenePushLedCommandToFifo { commandLedDefault with
    ledMask := mask, blinkTime := blinkTime <<< 1, blinkInterval := interval }

/-- `led_scene_push_fast_blink_led_cmd_to_fifo` -/
def ledScenePushFastBlinkLedCmdToFifo (l : SceneLeds) (mask : BitVec 16) (blinkTime : UInt8) :
    SceneLeds :=
  l.ledScenePushLedCommandToFifo { commandLedDefault with
    ledMask := mask, blinkTime := blinkTime <<< 1, blinkInterval := 200 }

/-- `led_scene_push_normal_blink_led_cmd_to_fifo` -/
def ledScenePushNormalBlinkLedCmdToFifo (l : SceneLeds) (mask : BitVec 16) (blinkTime : UInt8) :
    SceneLeds :=
  l.ledScenePushLedCommandToFifo { commandLedDefault with
    ledMask := mask, blinkTime := blinkTime <<< 1 }

/-! ## A pass -/

theorem zero_lt_bufLedCmdSize : 0 < bufLedCmdSize := by decide

/-- The variables after `led_scene_init`, with `memory` behind the array. -/
def ledSceneInit (memory : LedBlinkInit) : SceneLeds where
  pin _ := false
  toggleLedArr i := if i < numberLedScene then ⟨.red, 0, false, 0, .refreshLed, 300⟩ else memory
  fifoLedCommands :=
    ⟨fun _ => commandLedDefault, 0, 0, zero_lt_bufLedCmdSize, zero_lt_bufLedCmdSize⟩
  ledBlinkScanTimer := 0

/-- The body of the loop of `led_scene_toggle_handle`. -/
def ledSceneToggleOne (now : UInt32) (l : SceneLeds) (i : Nat) : SceneLeds :=
  let e := l.toggleLedArr i
  if e.toggleLedFlag then
    if e.toggleLedTimes > 0 then
      if clockTimeExceed now e.toggleledLastTime e.toggleLedInterval then
        let e' : LedBlinkInit := { e with
          toggleledLastTime := now, toggleLedTimes := e.toggleLedTimes - 1 }
        if e'.toggleLedTimes = 0 then
          let l := l.setEntry i { e' with toggleLedFlag := false }
          -- nothing waits
          if l.fifoLedCommands.isEmpty then l.ledSceneRefresh else l
        else (l.setEntry i e').ledSceneToggle i
      else l
    else l.setEntry i { e with toggleLedFlag := false }
  else l

/-- `led_scene_toggle_handle`: the loop comes to one entry too many. -/
def ledSceneToggleHandle (l : SceneLeds) (now : UInt32) : SceneLeds :=
  if clockTimeExceed now l.ledBlinkScanTimer 10 then
    { runFrom (ledSceneToggleOne now) l (List.range (numberLedScene + 1)) with
      ledBlinkScanTimer := now }
  else l

/-- The body of the loop of `led_scene_blink`. -/
def ledSceneBlinkOne (now : UInt32) (ledMask : BitVec 16) (blinkTimes : UInt8)
    (blinkInterval : UInt16) (l : SceneLeds) (i : Nat) : SceneLeds :=
  if isOn ledMask i then
    (l.ledSceneOn i).setEntry i { l.toggleLedArr i with
      toggleledLastTime := now
      toggleLedFlag := true
      toggleLedTimes := blinkTimes
      toggleLedInterval := blinkInterval.toUInt32 }
  else l

/-- `led_scene_blink` -/
def ledSceneBlink (l : SceneLeds) (now : UInt32) (ledMask : BitVec 16) (blinkTimes : UInt8)
    (blinkInterval : UInt16) : SceneLeds :=
  runFrom (ledSceneBlinkOne now ledMask blinkTimes blinkInterval) l (List.range numberLedScene)

/-- A command of `led_scene_handle_event_function`. -/
def ledSceneRunCommand (l : SceneLeds) (now : UInt32) (cmd : LedCommand) : SceneLeds :=
  match cmd.ledMode with
  | .refresh => l.ledSceneRefresh
  | .blink => l.ledSceneBlink now cmd.ledMask cmd.blinkTime cmd.blinkInterval
  | .on =>
    runFrom (fun l i => if isOn cmd.ledMask i then l.ledSceneOn i else l) l
      (List.range numberLedScene)
  -- `led_off`: it is the LEDs of the relays that are switched off
  | .off => l
  | .blinkForever | .none => l

/-- The part of `led_scene_handle_event_function` that is about the FIFO. -/
def ledSceneTakeCommand (l : SceneLeds) (now : UInt32) : SceneLeds :=
  if (List.range numberLedScene).any fun i => (l.toggleLedArr i).toggleLedFlag then l
  else if l.fifoLedCommands.isEmpty then l
  else
    let cmd := l.fifoLedCommands.slot l.fifoLedCommands.head
    { l with fifoLedCommands := l.fifoLedCommands.drop }.ledSceneRunCommand now cmd

/-- `led_scene_handle_event_function` -/
def ledSceneHandleEventFunction (l : SceneLeds) (now : UInt32) : SceneLeds :=
  (l.ledSceneTakeCommand now).ledSceneToggleHandle now

end SceneLeds

/-! ## What happens -/

/-- What happens: requests, passes, and writes of other code to the pins and to the memory behind
the array. -/
inductive SceneLedEvent where
  | push (mask : BitVec 16) (blinkTime : UInt8) (interval : UInt16)
  | pushFast (mask : BitVec 16) (blinkTime : UInt8)
  | pushNormal (mask : BitVec 16) (blinkTime : UInt8)
  | pass (now : UInt32)
  | write (i : Nat) (on : Bool)
  | memory (e : LedBlinkInit)

/-- The mask and the count of a request. -/
def SceneLedEvent.request : SceneLedEvent → Option (BitVec 16 × UInt8)
  | .push mask blinkTime _ | .pushFast mask blinkTime | .pushNormal mask blinkTime =>
    some (mask, blinkTime)
  | .pass _ | .write .. | .memory _ => none

/-- The flashes of LED `i` that an event asks for: their count is doubled in a byte. -/
def SceneLedEvent.flashes (ev : SceneLedEvent) (i : Nat) : Nat :=
  match ev.request with
  | some (mask, blinkTime) => if isOn mask i then blinkTime.toNat % 128 else 0
  | none => 0

namespace SceneLeds

def step (l : SceneLeds) : SceneLedEvent → SceneLeds
  | .push mask blinkTime interval =>
    l.ledScenePushBlinkLedCmdWithIntervalToFifo mask blinkTime interval
  | .pushFast mask blinkTime => l.ledScenePushFastBlinkLedCmdToFifo mask blinkTime
  | .pushNormal mask blinkTime => l.ledScenePushNormalBlinkLedCmdToFifo mask blinkTime
  | .pass now => l.ledSceneHandleEventFunction now
  | .write i on => l.setPin i on
  | .memory e => l.setEntry numberLedScene e

/-- A request finds room in the FIFO, and has flashes for the LEDs of its mask. Other code writes
no other level to a pin than it has, and no blink behind the array. -/
def EventOk (l : SceneLeds) (ev : SceneLedEvent) : Prop :=
  match ev with
  | .push mask blinkTime _ | .pushFast mask blinkTime | .pushNormal mask blinkTime =>
    l.fifoLedCommands.isFull = false ∧
      ∀ i < numberLedScene, isOn mask i = true → blinkTime.toNat % 128 ≠ 0
  | .pass _ => True
  | .write i on => on = l.pin i
  | .memory e => e.toggleLedFlag = false

/-- Nothing waits and no LED blinks. -/
def AtRest (l : SceneLeds) : Prop :=
  l.fifoLedCommands.isEmpty = true ∧
    ∀ i < numberLedScene, (l.toggleLedArr i).toggleLedFlag = false

end SceneLeds

/-- A flash is a pin that goes on. -/
def flash (before after : Bool) : Nat := (!before && after).toNat

/-- The LEDs, with the flashes of each that were asked for and that were shown. -/
structure SceneLedWatch where
  leds : SceneLeds
  asked : Nat → Nat
  shown : Nat → Nat

namespace SceneLedWatch

def init (memory : LedBlinkInit) : SceneLedWatch := ⟨.ledSceneInit memory, fun _ => 0, fun _ => 0⟩

def step (w : SceneLedWatch) (ev : SceneLedEvent) : SceneLedWatch where
  leds := w.leds.step ev
  asked i := w.asked i + ev.flashes i
  shown i := w.shown i + flash (w.leds.pin i) ((w.leds.step ev).pin i)

def EventOk (w : SceneLedWatch) (ev : SceneLedEvent) : Prop := w.leds.EventOk ev

end SceneLedWatch

/-! ## One LED -/

theorem flash_self (on : Bool) : flash on on = 0 := by
  cases on <;> rfl

namespace LedBlinkInit

/-- The flashes of a blink that are still to come. -/
def flashes (e : LedBlinkInit) : Nat :=
  if e.toggleLedFlag then (e.toggleLedTimes.toNat - 1) / 2 else 0

/-- A LED that blinks is on before an even number of toggles; one that does not is dark. -/
def Shows (e : LedBlinkInit) (on : Bool) : Prop :=
  if e.toggleLedFlag then
    e.toggleLedTimes ≠ 0 ∧ on = decide (e.toggleLedTimes.toNat % 2 = 0)
  else on = false

/-- If both blink, they do at the same time. -/
def InStep (e e' : LedBlinkInit) : Prop :=
  e.toggleLedFlag = true → e'.toggleLedFlag = true →
    e.toggleLedTimes = e'.toggleLedTimes ∧ e.toggleledLastTime = e'.toggleledLastTime ∧
      e.toggleLedInterval = e'.toggleLedInterval

/-- What a pass does to a LED on its own. -/
def tick (now : UInt32) (e : LedBlinkInit) (on : Bool) : LedBlinkInit × Bool :=
  if e.toggleLedFlag ∧ clockTimeExceed now e.toggleledLastTime e.toggleLedInterval then
    if e.toggleLedTimes = 1 then
      ({ e with toggleledLastTime := now, toggleLedTimes := 0, toggleLedFlag := false }, on)
    else ({ e with toggleledLastTime := now, toggleLedTimes := e.toggleLedTimes - 1 }, !on)
  else (e, on)

variable {now : UInt32} {e e' : LedBlinkInit} {on on' : Bool}

theorem Shows.times_ne (h : e.Shows on) (hflag : e.toggleLedFlag = true) :
    e.toggleLedTimes ≠ 0 := by
  rw [Shows, if_pos hflag] at h
  exact h.1

theorem Shows.dark (h : e.Shows on) (hflag : e.toggleLedFlag = false) : on = false := by
  rwa [Shows, if_neg (Bool.eq_false_iff.mp hflag)] at h

/-- One toggle less. -/
theorem toNat_sub_one {t : UInt8} (h : t ≠ 0) : (t - 1).toNat + 1 = t.toNat := by
  have hle : (1 : UInt8) ≤ t := by
    rw [UInt8.le_iff_toNat_le]
    refine Nat.one_le_iff_ne_zero.mpr fun hzero => h ?_
    exact UInt8.toNat_inj.mp hzero
  have hpos : 1 ≤ t.toNat := UInt8.le_iff_toNat_le.mp hle
  rw [UInt8.toNat_sub_of_le _ _ hle]
  exact Nat.sub_add_cancel hpos

theorem tick_of_idle (hflag : e.toggleLedFlag = false) : e.tick now on = (e, on) :=
  if_neg fun h => Bool.eq_false_iff.mp hflag h.1

/-- A blink that has just been started waits. -/
theorem tick_of_fresh (hlast : e.toggleledLastTime = now) : e.tick now on = (e, on) := by
  refine if_neg fun h => ?_
  have hexceed := h.2
  rw [clockTimeExceed, hlast, UInt32.sub_self] at hexceed
  exact absurd (of_decide_eq_true hexceed) (Nat.not_lt_zero _)

theorem Shows.tick (h : e.Shows on) : (e.tick now on).1.Shows (e.tick now on).2 := by
  rw [LedBlinkInit.tick]
  split
  · next hdue =>
    have hne := h.times_ne hdue.1
    have hless := toNat_sub_one hne
    rw [Shows, if_pos hdue.1] at h
    split
    · next hone =>
      show on = false
      rw [h.2, hone]
      rfl
    · next hmore =>
      have hrest : e.toggleLedTimes - 1 ≠ 0 := by
        intro hzero
        rw [hzero] at hless
        exact hmore (UInt8.toNat_inj.mp hless.symm)
      rw [Shows, if_pos hdue.1]
      refine ⟨hrest, ?_⟩
      rw [h.2, ← decide_not]
      refine decide_eq_decide.mpr ?_
      dsimp only
      omega
  · exact h

/-- **A pass shows** a flash that was still to come, or none. -/
theorem Shows.flashes_tick (h : e.Shows on) :
    flash on (e.tick now on).2 + (e.tick now on).1.flashes = e.flashes := by
  rw [LedBlinkInit.tick]
  split
  · next hdue =>
    have hne := h.times_ne hdue.1
    have hless := toNat_sub_one hne
    rw [Shows, if_pos hdue.1] at h
    rw [flashes, flashes, if_pos hdue.1]
    split
    · next hone =>
      rw [flash_self, hone]
      rfl
    · next hmore =>
      dsimp only
      rw [if_pos hdue.1]
      -- a toggle before an odd number of toggles is a flash
      rcases Nat.mod_two_eq_zero_or_one e.toggleLedTimes.toNat with heven | hodd
      · have hon : on = true := h.2.trans (decide_eq_true heven)
        rw [hon]
        show 0 + _ = _
        omega
      · have hoff : on = false := h.2.trans (decide_eq_false (by omega))
        have hmany : e.toggleLedTimes.toNat ≠ 1 := fun hone => hmore (UInt8.toNat_inj.mp hone)
        rw [hoff]
        show 1 + _ = _
        omega
  · rw [flash_self, Nat.zero_add]

theorem flag_of_tick (h : (e.tick now on).1.toggleLedFlag = true) : e.toggleLedFlag = true := by
  cases hflag : e.toggleLedFlag with
  | true => rfl
  | false =>
    rw [tick_of_idle hflag, hflag] at h
    exact h

/-- A toggle that is due leaves one less, one that is not none. -/
theorem Shows.times_tick (h : e.Shows on) (now : UInt32) (hflag : e.toggleLedFlag = true) :
    (e.tick now on).1.toggleLedTimes.toNat +
      (if clockTimeExceed now e.toggleledLastTime e.toggleLedInterval then 1 else 0) =
        e.toggleLedTimes.toNat := by
  have hless := toNat_sub_one (h.times_ne hflag)
  rw [LedBlinkInit.tick, hflag]
  by_cases hexceed : clockTimeExceed now e.toggleledLastTime e.toggleLedInterval = true
  · have hdue : true = true ∧ clockTimeExceed now e.toggleledLastTime e.toggleLedInterval = true :=
      ⟨rfl, hexceed⟩
    rw [if_pos hdue, if_pos hexceed]
    split
    · next hone =>
      rw [hone]
      rfl
    · exact hless
  · rw [if_neg fun h => hexceed h.2, if_neg hexceed]
    rfl

theorem InStep.tick (h : InStep e e') : InStep (e.tick now on).1 (e'.tick now on').1 := by
  intro hflag hflag'
  have hon := flag_of_tick hflag
  have hon' := flag_of_tick hflag'
  obtain ⟨htimes, hlast, hinterval⟩ := h hon hon'
  rw [LedBlinkInit.tick, LedBlinkInit.tick, hon, hon', hlast, hinterval, htimes]
  split
  · split
    · exact ⟨rfl, rfl, rfl⟩
    · exact ⟨rfl, rfl, rfl⟩
  · exact ⟨htimes, hlast, hinterval⟩

/-- While one LED is at its last toggle, every other one is dark, and stays so. -/
theorem InStep.dark (h : InStep e e') (now : UInt32) (hflag : e.toggleLedFlag = true)
    (hone : e.toggleLedTimes = 1) (hshows : e'.Shows on) :
    on = false ∧ (e'.tick now on).2 = false := by
  cases hflag' : e'.toggleLedFlag with
  | false =>
    have hdark := hshows.dark hflag'
    rw [tick_of_idle hflag']
    exact ⟨hdark, hdark⟩
  | true =>
    have hone' : e'.toggleLedTimes = 1 := (h hflag hflag').1.symm.trans hone
    have hdark : on = false := by
      rw [Shows, if_pos hflag', hone'] at hshows
      exact hshows.2
    rw [LedBlinkInit.tick, if_pos hone']
    split
    · exact ⟨hdark, hdark⟩
    · exact ⟨hdark, hdark⟩

end LedBlinkInit

/-! ## The queue -/

namespace LedCommand

/-- The flashes of a command for LED `i`. -/
def flashes (c : LedCommand) (i : Nat) : Nat :=
  if isOn c.ledMask i then c.blinkTime.toNat / 2 else 0

/-- A blink of whole flashes, at least one for the LEDs of its mask. -/
structure Whole (c : LedCommand) : Prop where
  blink : c.ledMode = .blink
  even : c.blinkTime.toNat % 2 = 0
  some : ∀ i < numberLedScene, isOn c.ledMask i = true → c.blinkTime ≠ 0

/-- The flashes of all commands of a queue. -/
def flashesOf (i : Nat) : List LedCommand → Nat
  | [] => 0
  | c :: q => c.flashes i + flashesOf i q

theorem flashesOf_concat (i : Nat) (q : List LedCommand) (c : LedCommand) :
    flashesOf i (q ++ [c]) = flashesOf i q + c.flashes i := by
  induction q with
  | nil => exact Nat.add_comm ..
  | cons d q ih => rw [List.cons_append, flashesOf, ih, flashesOf, Nat.add_assoc]

end LedCommand

namespace SceneLeds

variable {l : SceneLeds} {q : List LedCommand}

/-- The LEDs and the queue, between passes. -/
structure Sound (l : SceneLeds) (q : List LedCommand) : Prop where
  holds : l.fifoLedCommands.Holds q
  whole : ∀ c ∈ q, c.Whole
  shows : ∀ i < numberLedScene, (l.toggleLedArr i).Shows (l.pin i)
  inStep : ∀ i < numberLedScene, ∀ j < numberLedScene,
    (l.toggleLedArr i).InStep (l.toggleLedArr j)
  behind : (l.toggleLedArr numberLedScene).toggleLedFlag = false

/-! ## Blinking -/

/-- Switching dark LEDs off changes nothing. -/
theorem ledSceneOffAll_of_dark (hdark : ∀ i < numberLedScene, l.pin i = false) :
    l.ledSceneOffAll = l := by
  refine runFrom_of_fixed fun i hi => ?_
  have hpin : l.pin i = false := hdark i (List.mem_range.mp hi)
  rw [ledSceneOff, setPin, ← hpin, Function.update_eq_self]

/-- A LED that is at its last toggle leaves the others alone if they are dark. -/
theorem ledSceneToggleOne_eq {now : UInt32} {i : Nat} (hi : i < numberLedScene)
    (hshows : (l.toggleLedArr i).Shows (l.pin i))
    (hdark : (l.toggleLedArr i).toggleLedFlag = true → (l.toggleLedArr i).toggleLedTimes = 1 →
      ∀ j < numberLedScene, l.pin j = false) :
    ledSceneToggleOne now l i =
      (l.setEntry i ((l.toggleLedArr i).tick now (l.pin i)).1).setPin i
        ((l.toggleLedArr i).tick now (l.pin i)).2 := by
  have hsame : (l.setEntry i (l.toggleLedArr i)).setPin i (l.pin i) = l := by
    rw [setEntry, setPin, Function.update_eq_self, Function.update_eq_self]
  rw [ledSceneToggleOne, LedBlinkInit.tick]
  dsimp only
  cases hflag : (l.toggleLedArr i).toggleLedFlag with
  | false =>
    rw [if_neg Bool.false_ne_true, if_neg fun h => Bool.false_ne_true h.1, hsame]
  | true =>
    have hne := hshows.times_ne hflag
    have hpos : (l.toggleLedArr i).toggleLedTimes > 0 := by
      rw [gt_iff_lt, UInt8.lt_iff_toNat_lt]
      exact Nat.pos_of_ne_zero fun hzero => hne (UInt8.toNat_inj.mp hzero)
    rw [if_pos rfl, if_pos hpos]
    by_cases hexceed : clockTimeExceed now (l.toggleLedArr i).toggleledLastTime
        (l.toggleLedArr i).toggleLedInterval = true
    · have hdue : true = true ∧ clockTimeExceed now (l.toggleLedArr i).toggleledLastTime
          (l.toggleLedArr i).toggleLedInterval = true := ⟨rfl, hexceed⟩
      rw [if_pos hexceed, if_pos hdue]
      by_cases hone : (l.toggleLedArr i).toggleLedTimes = 1
      · have hzero : (l.toggleLedArr i).toggleLedTimes - 1 = 0 := by
          rw [hone]
          rfl
        rw [if_pos hzero, if_pos hone, setPin]
        dsimp only
        rw [hzero]
        generalize hl' : l.setEntry i _ = l'
        have hpin : l'.pin = l.pin := by
          rw [← hl']
          rfl
        rw [← hpin, Function.update_eq_self]
        split
        · refine ledSceneOffAll_of_dark fun j hj => ?_
          rw [hpin]
          exact hdark hflag hone j hj
        · rfl
      · have hmore : (l.toggleLedArr i).toggleLedTimes - 1 ≠ 0 := by
          intro hzero
          have hless := LedBlinkInit.toNat_sub_one hne
          rw [hzero] at hless
          exact hone (UInt8.toNat_inj.mp hless.symm)
        rw [if_neg hmore, if_neg hone, ledSceneToggle, if_pos hi]
        rfl
    · rw [if_neg hexceed, if_neg fun h => hexceed h.2, hsame]

/-- A loop has come to LED `k`, from `l`: those before it are as `g` has them, and it is the others'
turn. -/
def LoopAt (g : Nat → LedBlinkInit × Bool) (l : SceneLeds) (k : Nat) (l' : SceneLeds) : Prop :=
  l'.fifoLedCommands = l.fifoLedCommands ∧ ∀ i, (l'.toggleLedArr i, l'.pin i) =
    if i < k then g i else (l.toggleLedArr i, l.pin i)

theorem LoopAt.entry {g : Nat → LedBlinkInit × Bool} {k : Nat} {l' : SceneLeds}
    (h : LoopAt g l k l') : l'.toggleLedArr k = l.toggleLedArr k ∧ l'.pin k = l.pin k :=
  Prod.mk.inj ((h.2 k).trans (if_neg (Nat.lt_irrefl k)))

/-- **Loop rule**: a body that writes the entry and the pin of its LED. -/
theorem loopAt_runFrom {g : Nat → LedBlinkInit × Bool} {f : SceneLeds → Nat → SceneLeds}
    (hbody : ∀ k < numberLedScene, ∀ l', LoopAt g l k l' →
      f l' k = (l'.setEntry k (g k).1).setPin k (g k).2) {k : Nat} (hk : k ≤ numberLedScene) :
    LoopAt g l k (runFrom f l (List.range k)) := by
  induction k with
  | zero => exact ⟨rfl, fun i => (if_neg (Nat.not_lt_zero i)).symm⟩
  | succ k ih =>
    have hfront := ih (Nat.le_of_succ_le hk)
    rw [List.range_succ, runFrom_append, runFrom_cons, runFrom_nil, hbody k hk _ hfront]
    obtain ⟨hfifo, hleds⟩ := hfront
    refine ⟨hfifo, fun i => ?_⟩
    by_cases hik : i = k
    · subst hik
      rw [if_pos (Nat.lt_succ_self i)]
      exact Prod.ext (Function.update_self ..) (Function.update_self ..)
    · refine Eq.trans ?_ ((hleds i).trans (if_congr (by omega) rfl rfl))
      exact Prod.ext (Function.update_of_ne hik ..) (Function.update_of_ne hik ..)

/-- What the loop of `led_scene_toggle_handle` does. -/
theorem Sound.toggleLoop (h : l.Sound q) (now : UInt32) :
    LoopAt (fun i => (l.toggleLedArr i).tick now (l.pin i)) l numberLedScene
      (runFrom (ledSceneToggleOne now) l (List.range numberLedScene)) := by
  refine loopAt_runFrom (fun k hk l' hl' => ?_) (Nat.le_refl _)
  obtain ⟨hentry, hpin⟩ := hl'.entry
  rw [← hentry, ← hpin]
  refine ledSceneToggleOne_eq hk ?_ fun hflag hone j hj => ?_
  · rw [hentry, hpin]
    exact h.shows k hk
  · rw [hentry] at hflag hone
    obtain ⟨hbefore, hafter⟩ := (h.inStep k hk j hj).dark now hflag hone (h.shows j hj)
    have hpinJ := congrArg Prod.snd (hl'.2 j)
    dsimp only at hpinJ
    rw [hpinJ]
    split
    · exact hafter
    · exact hbefore

/-- What `led_scene_toggle_handle` does: all LEDs go on, or none. -/
theorem toggleHandle_cases (h : l.Sound q) (now : UInt32) :
    let l' := l.ledSceneToggleHandle now
    l'.fifoLedCommands = l.fifoLedCommands ∧
      (l'.toggleLedArr numberLedScene).toggleLedFlag = false ∧
      ((∀ i < numberLedScene, (l'.toggleLedArr i, l'.pin i) = (l.toggleLedArr i, l.pin i)) ∧
        clockTimeExceed now l.ledBlinkScanTimer 10 = false ∨
      ∀ i < numberLedScene,
        (l'.toggleLedArr i, l'.pin i) = (l.toggleLedArr i).tick now (l.pin i)) := by
  dsimp only
  rw [ledSceneToggleHandle]
  split
  · obtain ⟨hfifo, hleds⟩ := h.toggleLoop now
    have hlast : ((runFrom (ledSceneToggleOne now) l (List.range numberLedScene)).toggleLedArr
        numberLedScene).toggleLedFlag = false := by
      have hbehind := congrArg Prod.fst (hleds numberLedScene)
      rw [if_neg (Nat.lt_irrefl _)] at hbehind
      dsimp only at hbehind
      rw [hbehind]
      exact h.behind
    -- the entry too many is none that blinks
    have hloop : runFrom (ledSceneToggleOne now) l (List.range (numberLedScene + 1)) =
        runFrom (ledSceneToggleOne now) l (List.range numberLedScene) := by
      rw [List.range_succ, runFrom_append]
      exact if_neg (Bool.eq_false_iff.mp hlast)
    rw [hloop]
    exact ⟨hfifo, hlast, .inr fun i hi => (hleds i).trans (if_pos hi)⟩
  · next hscan => exact ⟨rfl, h.behind, .inl ⟨fun i _ => rfl, Bool.eq_false_iff.mpr hscan⟩⟩

/-- **The blinks of a pass** keep the LEDs sound, and show what they take from the flashes to
come. -/
theorem Sound.toggleHandle (h : l.Sound q) (now : UInt32) :
    (l.ledSceneToggleHandle now).Sound q ∧ ∀ i < numberLedScene,
      flash (l.pin i) ((l.ledSceneToggleHandle now).pin i) +
        ((l.ledSceneToggleHandle now).toggleLedArr i).flashes = (l.toggleLedArr i).flashes := by
  obtain ⟨hfifo, hbehind, ⟨hleds, -⟩ | hleds⟩ := toggleHandle_cases h now
  · have hentry := fun i hi => (Prod.mk.inj (hleds i hi)).1
    have hpin := fun i hi => (Prod.mk.inj (hleds i hi)).2
    refine ⟨⟨hfifo ▸ h.holds, h.whole, fun i hi => ?_, fun i hi j hj => ?_, hbehind⟩,
      fun i hi => ?_⟩
    · rw [hentry i hi, hpin i hi]
      exact h.shows i hi
    · rw [hentry i hi, hentry j hj]
      exact h.inStep i hi j hj
    · rw [hentry i hi, hpin i hi, flash_self, Nat.zero_add]
  · have hentry := fun i hi => congrArg Prod.fst (hleds i hi)
    have hpin := fun i hi => congrArg Prod.snd (hleds i hi)
    dsimp only at hentry hpin
    refine ⟨⟨hfifo ▸ h.holds, h.whole, fun i hi => ?_, fun i hi j hj => ?_, hbehind⟩,
      fun i hi => ?_⟩
    · rw [hentry i hi, hpin i hi]
      exact (h.shows i hi).tick
    · rw [hentry i hi, hentry j hj]
      exact (h.inStep i hi j hj).tick
    · rw [hentry i hi, hpin i hi]
      exact (h.shows i hi).flashes_tick

/-! ## Commands -/

/-- The entry and the pin of a LED that a blink is started for. -/
def started (l : SceneLeds) (now : UInt32) (c : LedCommand) (i : Nat) : LedBlinkInit × Bool :=
  if isOn c.ledMask i then
    ({ l.toggleLedArr i with
        toggleledLastTime := now
        toggleLedFlag := true
        toggleLedTimes := c.blinkTime
        toggleLedInterval := c.blinkInterval.toUInt32 }, true)
  else (l.toggleLedArr i, l.pin i)

/-- What the loop of `led_scene_blink` does. -/
theorem blinkLoop (l : SceneLeds) (now : UInt32) (c : LedCommand) :
    LoopAt (l.started now c) l numberLedScene
      (l.ledSceneBlink now c.ledMask c.blinkTime c.blinkInterval) := by
  refine loopAt_runFrom (fun k hk l' hl' => ?_) (Nat.le_refl _)
  obtain ⟨hentry, hpin⟩ := hl'.entry
  rw [ledSceneBlinkOne, started, hentry]
  split
  · rfl
  · rw [← hentry, ← hpin, setEntry, setPin, Function.update_eq_self, Function.update_eq_self]

/-- **A command that is taken**: while a LED blinks or nothing waits, there is none. -/
theorem takeCommand_cases (h : l.Sound q) (now : UInt32) :
    (l.ledSceneTakeCommand now = l ∧
      ((∃ i < numberLedScene, (l.toggleLedArr i).toggleLedFlag = true) ∨ q = [])) ∨
    ∃ c q', q = c :: q' ∧ (∀ i < numberLedScene, (l.toggleLedArr i).toggleLedFlag = false) ∧
      l.ledSceneTakeCommand now =
        { l with fifoLedCommands := l.fifoLedCommands.drop }.ledSceneBlink now c.ledMask
          c.blinkTime c.blinkInterval := by
  rw [ledSceneTakeCommand]
  by_cases hany : ((List.range numberLedScene).any fun i => (l.toggleLedArr i).toggleLedFlag) = true
  · rw [if_pos hany]
    obtain ⟨i, hi, hflag⟩ := List.any_eq_true.mp hany
    exact .inl ⟨rfl, .inl ⟨i, List.mem_range.mp hi, hflag⟩⟩
  · rw [if_neg hany, h.holds.isEmpty_eq]
    cases q with
    | nil => exact .inl ⟨rfl, .inr rfl⟩
    | cons c q' =>
      have hidle : ∀ i < numberLedScene, (l.toggleLedArr i).toggleLedFlag = false := by
        intro i hi
        refine Bool.eq_false_iff.mpr fun hflag => hany ?_
        exact List.any_eq_true.mpr ⟨i, List.mem_range.mpr hi, hflag⟩
      refine .inr ⟨c, q', rfl, hidle, ?_⟩
      rw [List.isEmpty_cons, if_neg Bool.false_ne_true]
      dsimp only
      rw [h.holds.drop.2, ledSceneRunCommand, (h.whole c List.mem_cons_self).blink]

/-- A command that is started. -/
theorem Sound.start {c : LedCommand} (h : l.Sound (c :: q))
    (hidle : ∀ i < numberLedScene, (l.toggleLedArr i).toggleLedFlag = false) (now : UInt32) :
    let l' := { l with fifoLedCommands := l.fifoLedCommands.drop }.ledSceneBlink now c.ledMask
      c.blinkTime c.blinkInterval
    l'.Sound q ∧ ∀ i < numberLedScene,
      ((l'.toggleLedArr i).toggleLedFlag = true → (l'.toggleLedArr i).toggleledLastTime = now ∧
        (l'.toggleLedArr i).toggleLedTimes = c.blinkTime) ∧
      flash (l.pin i) (l'.pin i) + (l'.toggleLedArr i).flashes = c.flashes i := by
  obtain ⟨hfifo, hleds⟩ := blinkLoop { l with fifoLedCommands := l.fifoLedCommands.drop } now c
  have hwhole := h.whole c List.mem_cons_self
  dsimp only at hfifo hleds ⊢
  generalize { l with fifoLedCommands := l.fifoLedCommands.drop }.ledSceneBlink now c.ledMask
    c.blinkTime c.blinkInterval = l' at hfifo hleds ⊢
  have hdark : ∀ i < numberLedScene, l.pin i = false := fun i hi => (h.shows i hi).dark (hidle i hi)
  have hon : ∀ i < numberLedScene, isOn c.ledMask i = true →
      l'.toggleLedArr i = { l.toggleLedArr i with
        toggleledLastTime := now
        toggleLedFlag := true
        toggleLedTimes := c.blinkTime
        toggleLedInterval := c.blinkInterval.toUInt32 } ∧ l'.pin i = true := by
    intro i hi hmask
    exact Prod.mk.inj ((hleds i).trans ((if_pos hi).trans (if_pos hmask)))
  have hoff : ∀ i < numberLedScene, isOn c.ledMask i ≠ true →
      (l'.toggleLedArr i).toggleLedFlag = false ∧ l'.pin i = false := by
    intro i hi hmask
    obtain ⟨hentry, hpin⟩ := Prod.mk.inj ((hleds i).trans ((if_pos hi).trans (if_neg hmask)))
    exact ⟨(congrArg _ hentry).trans (hidle i hi), hpin.trans (hdark i hi)⟩
  have hflag : ∀ i < numberLedScene, (l'.toggleLedArr i).toggleLedFlag = true →
      isOn c.ledMask i = true := by
    intro i hi hflag
    by_contra hmask
    rw [(hoff i hi hmask).1] at hflag
    exact Bool.false_ne_true hflag
  have hbehind := congrArg Prod.fst ((hleds numberLedScene).trans (if_neg (Nat.lt_irrefl _)))
  dsimp only at hbehind
  refine ⟨⟨hfifo ▸ h.holds.drop.1, fun d hd => h.whole d (List.mem_cons_of_mem c hd),
    fun i hi => ?_, fun i hi j hj => ?_, hbehind ▸ h.behind⟩, fun i hi => ⟨fun hfl => ?_, ?_⟩⟩
  · by_cases hmask : isOn c.ledMask i = true
    · obtain ⟨hentry, hpin⟩ := hon i hi hmask
      rw [hentry, hpin]
      exact ⟨hwhole.some i hi hmask, (decide_eq_true hwhole.even).symm⟩
    · obtain ⟨hfl, hpin⟩ := hoff i hi hmask
      rw [LedBlinkInit.Shows, if_neg (Bool.eq_false_iff.mp hfl)]
      exact hpin
  · intro hfi hfj
    rw [(hon i hi (hflag i hi hfi)).1, (hon j hj (hflag j hj hfj)).1]
    exact ⟨rfl, rfl, rfl⟩
  · rw [(hon i hi (hflag i hi hfl)).1]
    exact ⟨rfl, rfl⟩
  · rw [hdark i hi, LedCommand.flashes]
    by_cases hmask : isOn c.ledMask i = true
    · obtain ⟨hentry, hpin⟩ := hon i hi hmask
      have hsome : c.blinkTime.toNat ≠ 0 :=
        fun hzero => hwhole.some i hi hmask (UInt8.toNat_inj.mp hzero)
      have heven := hwhole.even
      rw [hentry, hpin, if_pos hmask]
      show 1 + (c.blinkTime.toNat - 1) / 2 = _
      omega
    · obtain ⟨hfl, hpin⟩ := hoff i hi hmask
      rw [hpin, if_neg hmask, LedBlinkInit.flashes, if_neg (Bool.eq_false_iff.mp hfl)]
      rfl

/-- No toggle is due of a blink that has just been started. -/
theorem toggleHandle_of_fresh (h : l.Sound q) {now : UInt32} (hfresh : ∀ i < numberLedScene,
    (l.toggleLedArr i).toggleLedFlag = true → (l.toggleLedArr i).toggleledLastTime = now) :
    ∀ i < numberLedScene, (l.ledSceneToggleHandle now).toggleLedArr i = l.toggleLedArr i ∧
      (l.ledSceneToggleHandle now).pin i = l.pin i := by
  intro i hi
  obtain ⟨-, -, ⟨hleds, -⟩ | hleds⟩ := toggleHandle_cases h now
  · exact Prod.mk.inj (hleds i hi)
  · have htick : (l.toggleLedArr i).tick now (l.pin i) = (l.toggleLedArr i, l.pin i) := by
      cases hflag : (l.toggleLedArr i).toggleLedFlag with
      | false => exact LedBlinkInit.tick_of_idle hflag
      | true => exact LedBlinkInit.tick_of_fresh (hfresh i hi hflag)
    exact Prod.mk.inj ((hleds i hi).trans htick)

/-- **A pass** shows the flashes that it takes from those to come. -/
theorem Sound.pass (h : l.Sound q) (now : UInt32) :
    ∃ q', (l.ledSceneHandleEventFunction now).Sound q' ∧ ∀ i < numberLedScene,
      flash (l.pin i) ((l.ledSceneHandleEventFunction now).pin i) +
        ((l.ledSceneHandleEventFunction now).toggleLedArr i).flashes +
          LedCommand.flashesOf i q' = (l.toggleLedArr i).flashes + LedCommand.flashesOf i q := by
  rw [ledSceneHandleEventFunction]
  rcases takeCommand_cases h now with ⟨hsame, -⟩ | ⟨c, q', rfl, hidle, htake⟩
  · obtain ⟨hsound, hflashes⟩ := h.toggleHandle now
    rw [hsame]
    exact ⟨q, hsound, fun i hi => congrArg (· + _) (hflashes i hi)⟩
  · obtain ⟨hsound, hstart⟩ := h.start hidle now
    rw [htake]
    refine ⟨q', (hsound.toggleHandle now).1, fun i hi => ?_⟩
    obtain ⟨hentry, hpin⟩ := toggleHandle_of_fresh hsound
      (fun i hi hflag => ((hstart i hi).1 hflag).1) i hi
    have hnone : (l.toggleLedArr i).flashes = 0 := if_neg (Bool.eq_false_iff.mp (hidle i hi))
    rw [hentry, hpin, (hstart i hi).2, hnone, LedCommand.flashesOf, Nat.zero_add]

/-- A request for whole flashes waits. -/
theorem Sound.push (h : l.Sound q) (hroom : l.fifoLedCommands.isFull = false) {c : LedCommand}
    (hc : c.Whole) : (l.ledScenePushLedCommandToFifo c).Sound (q ++ [c]) where
  holds := by
    rw [h.holds.isFull_eq, decide_eq_false_iff_not] at hroom
    exact h.holds.push (Nat.lt_of_not_le hroom) c
  whole d hd := by
    rcases List.mem_append.mp hd with hold | hnew
    · exact h.whole d hold
    · rw [List.mem_singleton.mp hnew]
      exact hc
  shows := h.shows
  inStep := h.inStep
  behind := h.behind

/-! ## Coming to rest -/

/-- More than the interval of the blinks has passed since their last toggle. -/
def Due (l : SceneLeds) (now : UInt32) : Prop :=
  clockTimeExceed now l.ledBlinkScanTimer 10 = true ∧ ∀ i < numberLedScene,
    (l.toggleLedArr i).toggleLedFlag = true → clockTimeExceed now
      (l.toggleLedArr i).toggleledLastTime (l.toggleLedArr i).toggleLedInterval = true

instance (l : SceneLeds) (now : UInt32) : Decidable (l.Due now) :=
  inferInstanceAs (Decidable (_ ∧ ∀ i < numberLedScene, _ → _))

/-- A pass counts if the blinks are due. -/
def due (l : SceneLeds) (now : UInt32) : Nat := if l.Due now then 1 else 0

/-- The passes that the commands of a queue take: one to start, and the toggles. -/
def work : List LedCommand → Nat
  | [] => 0
  | c :: q => c.blinkTime.toNat + 1 + work q

/-- At most `n` passes that count are left. -/
structure Within (l : SceneLeds) (q : List LedCommand) (n : Nat) : Prop where
  sound : l.Sound q
  bound : ∃ t, (∀ i < numberLedScene, (l.toggleLedArr i).toggleLedFlag = true →
    (l.toggleLedArr i).toggleLedTimes.toNat ≤ t) ∧ t + work q ≤ n

theorem work_le (q : List LedCommand) : work q ≤ 256 * q.length := by
  induction q with
  | nil => exact Nat.zero_le _
  | cons c q ih =>
    have hbyte := c.blinkTime.toNat_lt
    rw [work, List.length_cons]
    omega

theorem Sound.within (h : l.Sound q) : l.Within q (255 + 9 * 256) := by
  refine ⟨h, 255, fun i hi _ => ?_, ?_⟩
  · have hbyte := (l.toggleLedArr i).toggleLedTimes.toNat_lt
    omega
  · have hlen : q.length < 10 := h.holds.length_lt
    have hwork := work_le q
    omega

theorem Within.atRest (h : l.Within q 0) : l.AtRest := by
  obtain ⟨t, ht, hn⟩ := h.bound
  constructor
  · rw [h.sound.holds.isEmpty_eq]
    cases q with
    | nil => rfl
    | cons c q =>
      rw [work] at hn
      omega
  · intro i hi
    refine Bool.eq_false_iff.mpr fun hflag => (h.sound.shows i hi).times_ne hflag ?_
    refine UInt8.toNat_inj.mp (Nat.eq_zero_of_le_zero ?_)
    exact (ht i hi hflag).trans (by omega)

theorem due_le_one (l : SceneLeds) (now : UInt32) : l.due now ≤ 1 := by
  rw [due]
  split
  · exact Nat.le_refl 1
  · exact Nat.zero_le 1

/-- **A pass that counts** brings the LEDs nearer to rest, and no pass takes them away from it. -/
theorem Within.pass {n : Nat} (h : l.Within q n) (now : UInt32) :
    ∃ q', (l.ledSceneHandleEventFunction now).Within q' (n - l.due now) := by
  obtain ⟨t, ht, hn⟩ := h.bound
  rw [ledSceneHandleEventFunction]
  rcases takeCommand_cases h.sound now with ⟨hsame, hwhy⟩ | ⟨c, q', rfl, hidle, htake⟩
  · have hsound := (h.sound.toggleHandle now).1
    rw [hsame]
    obtain ⟨-, -, ⟨hleds, hscan⟩ | hleds⟩ := toggleHandle_cases h.sound now
    · have hnot : ¬ l.Due now := by
        intro hdue
        have hexceed := hdue.1
        rw [hscan] at hexceed
        exact Bool.false_ne_true hexceed
      rw [due, if_neg hnot]
      refine ⟨q, hsound, t, fun i hi => ?_, hn⟩
      rw [(Prod.mk.inj (hleds i hi)).1]
      exact ht i hi
    · have hentry : ∀ i < numberLedScene, (l.ledSceneToggleHandle now).toggleLedArr i =
          ((l.toggleLedArr i).tick now (l.pin i)).1 := fun i hi => congrArg Prod.fst (hleds i hi)
      refine ⟨q, hsound, t - l.due now, fun i hi hflag => ?_, ?_⟩
      · rw [hentry i hi] at hflag ⊢
        have hon := LedBlinkInit.flag_of_tick hflag
        have htimes := (h.sound.shows i hi).times_tick now hon
        have hle := ht i hi hon
        rw [due]
        split
        · next hdue =>
          rw [if_pos (hdue.2 i hi hon)] at htimes
          omega
        · omega
      · have hone := due_le_one l now
        rcases hwhy with ⟨i, hi, hflag⟩ | rfl
        · have hmany := LedBlinkInit.toNat_sub_one ((h.sound.shows i hi).times_ne hflag)
          have hle := ht i hi hflag
          omega
        · rw [work] at hn ⊢
          omega
  · obtain ⟨hsound, hstart⟩ := h.sound.start hidle now
    have hfresh := toggleHandle_of_fresh hsound fun i hi hflag => ((hstart i hi).1 hflag).1
    rw [htake]
    refine ⟨q', (hsound.toggleHandle now).1, c.blinkTime.toNat, fun i hi hflag => ?_, ?_⟩
    · rw [(hfresh i hi).1] at hflag ⊢
      exact Nat.le_of_eq (congrArg _ ((hstart i hi).1 hflag).2)
    · have hone := due_le_one l now
      rw [work] at hn
      omega

/-- **Run lemma**: the passes that count come off the bound. -/
theorem Within.passes {n : Nat} (h : l.Within q n) (nows : List UInt32) :
    ∃ q', (runFrom ledSceneHandleEventFunction l nows).Within q'
      (n - totalCost due ledSceneHandleEventFunction l nows) := by
  induction nows generalizing l q n with
  | nil => exact ⟨q, h⟩
  | cons now nows ih =>
    obtain ⟨q', hpass⟩ := h.pass now
    rw [runFrom_cons, totalCost, ← Nat.sub_sub]
    exact ih hpass

end SceneLeds

/-! ## All that is asked for -/

namespace SceneLedWatch

variable {w : SceneLedWatch}

/-- What was asked for was shown, or is still to come. -/
def Inv (w : SceneLedWatch) : Prop :=
  ∃ q, w.leds.Sound q ∧ ∀ i < numberLedScene,
    w.asked i = w.shown i + (w.leds.toggleLedArr i).flashes + LedCommand.flashesOf i q

theorem toNat_double (n : UInt8) : (n <<< 1).toNat = 2 * (n.toNat % 128) := by
  rw [UInt8.toNat_shiftLeft]
  show n.toNat <<< 1 % 256 = _
  rw [Nat.shiftLeft_eq]
  omega

theorem inv_init {memory : LedBlinkInit} (hmemory : memory.toggleLedFlag = false) :
    (init memory).Inv := by
  refine ⟨[], ⟨⟨by decide, rfl, fun _ hi => absurd hi (Nat.not_lt_zero _)⟩,
    fun _ hc => absurd hc List.not_mem_nil, fun i hi => ?_, fun i hi j hj hflag => ?_, hmemory⟩,
    fun i hi => ?_⟩
  all_goals
    have hentry : (init memory).leds.toggleLedArr i = ⟨.red, 0, false, 0, .refreshLed, 300⟩ :=
      if_pos hi
  · rw [hentry]
    rfl
  · rw [hentry] at hflag
    exact absurd hflag Bool.false_ne_true
  · rw [hentry]
    rfl

/-- A request: `c` is the command of it. -/
theorem Inv.push (h : w.Inv) {ev : SceneLedEvent} {c : LedCommand} {blinkTime : UInt8}
    (hstep : w.leds.step ev = w.leds.ledScenePushLedCommandToFifo c)
    (hmode : c.ledMode = .blink) (htimes : c.blinkTime = blinkTime <<< 1)
    (hrequest : ev.request = some (c.ledMask, blinkTime))
    (hroom : w.leds.fifoLedCommands.isFull = false)
    (hsome : ∀ i < numberLedScene, isOn c.ledMask i = true → blinkTime.toNat % 128 ≠ 0) :
    (w.step ev).Inv := by
  obtain ⟨q, hsound, hasked⟩ := h
  have hdouble := toNat_double blinkTime
  rw [← htimes] at hdouble
  have hwhole : c.Whole := by
    refine ⟨hmode, by omega, fun i hi hmask hzero => hsome i hi hmask ?_⟩
    rw [hzero] at hdouble
    exact (Nat.mul_eq_zero.mp hdouble.symm).resolve_left (by decide)
  refine ⟨q ++ [c], ?_, fun i hi => ?_⟩
  · rw [step, hstep]
    exact hsound.push hroom hwhole
  · have hflashes : ev.flashes i = if isOn c.ledMask i then blinkTime.toNat % 128 else 0 := by
      rw [SceneLedEvent.flashes, hrequest]
    show w.asked i + ev.flashes i = w.shown i + flash (w.leds.pin i) ((w.leds.step ev).pin i) +
      ((w.leds.step ev).toggleLedArr i).flashes + _
    rw [hstep, hflashes, hasked i hi, LedCommand.flashesOf_concat, LedCommand.flashes]
    show _ = w.shown i + flash (w.leds.pin i) (w.leds.pin i) + (w.leds.toggleLedArr i).flashes + _
    rw [flash_self]
    split
    · omega
    · omega

/-- **Step lemma.** -/
theorem Inv.step (h : w.Inv) {ev : SceneLedEvent} (hok : w.EventOk ev) : (w.step ev).Inv := by
  cases ev with
  | push mask blinkTime interval => exact h.push rfl rfl rfl rfl hok.1 hok.2
  | pushFast mask blinkTime => exact h.push rfl rfl rfl rfl hok.1 hok.2
  | pushNormal mask blinkTime => exact h.push rfl rfl rfl rfl hok.1 hok.2
  | pass now =>
    obtain ⟨q, hsound, hasked⟩ := h
    obtain ⟨q', hpass, hflashes⟩ := hsound.pass now
    refine ⟨q', hpass, fun i hi => ?_⟩
    have hshown := hflashes i hi
    show w.asked i + 0 = w.shown i + flash (w.leds.pin i)
      ((w.leds.ledSceneHandleEventFunction now).pin i) +
        ((w.leds.ledSceneHandleEventFunction now).toggleLedArr i).flashes +
          LedCommand.flashesOf i q'
    rw [hasked i hi]
    omega
  | write j on =>
    obtain ⟨q, hsound, hasked⟩ := h
    have hsame : w.leds.step (.write j on) = w.leds := by
      show { w.leds with pin := Function.update w.leds.pin j on } = w.leds
      rw [show on = w.leds.pin j from hok, Function.update_eq_self]
    refine ⟨q, ?_, fun i hi => ?_⟩
    · rw [SceneLedWatch.step, hsame]
      exact hsound
    · show w.asked i + 0 = w.shown i + flash (w.leds.pin i) ((w.leds.step (.write j on)).pin i) +
        ((w.leds.step (.write j on)).toggleLedArr i).flashes + _
      rw [hsame, flash_self]
      exact hasked i hi
  | memory e =>
    obtain ⟨q, hsound, hasked⟩ := h
    have hentry : ∀ i < numberLedScene,
        (w.leds.setEntry numberLedScene e).toggleLedArr i = w.leds.toggleLedArr i :=
      fun i hi => Function.update_of_ne (Nat.ne_of_lt hi) ..
    refine ⟨q, ⟨hsound.holds, hsound.whole, fun i hi => ?_, fun i hi j hj => ?_, ?_⟩,
      fun i hi => ?_⟩
    · show ((w.leds.setEntry numberLedScene e).toggleLedArr i).Shows (w.leds.pin i)
      rw [hentry i hi]
      exact hsound.shows i hi
    · show ((w.leds.setEntry numberLedScene e).toggleLedArr i).InStep
        ((w.leds.setEntry numberLedScene e).toggleLedArr j)
      rw [hentry i hi, hentry j hj]
      exact hsound.inStep i hi j hj
    · have hself : (w.leds.setEntry numberLedScene e).toggleLedArr numberLedScene = e := by
        show Function.update w.leds.toggleLedArr numberLedScene e numberLedScene = e
        rw [Function.update_self]
      show ((w.leds.setEntry numberLedScene e).toggleLedArr numberLedScene).toggleLedFlag = false
      rw [hself]
      exact hok
    · show w.asked i + 0 = w.shown i + flash (w.leds.pin i) (w.leds.pin i) +
        ((w.leds.setEntry numberLedScene e).toggleLedArr i).flashes + _
      rw [hentry i hi, flash_self]
      exact hasked i hi

/-- At rest nothing is still to come. -/
theorem Inv.eq_of_atRest (h : w.Inv) (hrest : w.leds.AtRest) {i : Nat} (hi : i < numberLedScene) :
    w.shown i = w.asked i ∧ w.leds.pin i = false := by
  obtain ⟨q, hsound, hasked⟩ := h
  have hidle := hrest.2 i hi
  have hempty := hrest.1
  rw [hsound.holds.isEmpty_eq, List.isEmpty_iff] at hempty
  have hnone : (w.leds.toggleLedArr i).flashes = 0 := if_neg (Bool.eq_false_iff.mp hidle)
  refine ⟨?_, (hsound.shows i hi).dark hidle⟩
  rw [hasked i hi, hnone, hempty]
  rfl

theorem Inv.passes (h : w.Inv) (nows : List UInt32) :
    (runFrom SceneLedWatch.step w (nows.map .pass)).Inv := by
  induction nows generalizing w with
  | nil => exact h
  | cons now nows ih => exact ih (h.step (show w.EventOk (.pass now) from trivial))

/-- What passes do to the watch. -/
theorem runFrom_passes (w : SceneLedWatch) (nows : List UInt32) (i : Nat) :
    (runFrom step w (nows.map .pass)).leds =
        runFrom SceneLeds.ledSceneHandleEventFunction w.leds nows ∧
      (runFrom step w (nows.map .pass)).asked i = w.asked i := by
  induction nows generalizing w with
  | nil => exact ⟨rfl, rfl⟩
  | cons now nows ih => exact ih (w.step (.pass now))

/-- **Every flash that is asked for is shown once**, and no other: no LED ever shows more than was
asked of it, and when the blinks have been due for long enough it has shown them all and is dark.
A blink takes 255 passes at most, and each of the nine commands that can wait one more to start. -/
theorem shown_of_passes {memory : LedBlinkInit} (hmemory : memory.toggleLedFlag = false)
    {evs : List SceneLedEvent} (hok : AllSteps step EventOk (init memory) evs) {i : Nat}
    (hi : i < numberLedScene) :
    let w := runFrom step (init memory) evs
    w.shown i ≤ w.asked i ∧ ∀ nows : List UInt32,
      255 + 9 * 256 ≤ totalCost SceneLeds.due SceneLeds.ledSceneHandleEventFunction w.leds nows →
        let w' := runFrom step w (nows.map .pass)
        w'.shown i = w.asked i ∧ w'.leds.pin i = false := by
  have hinv := hok.invariant (I := Inv) (fun _ _ h hev => h.step hev) (inv_init hmemory)
  dsimp only
  generalize runFrom step (init memory) evs = w at hinv
  refine ⟨?_, fun nows hmany => ?_⟩
  · obtain ⟨q, -, hasked⟩ := hinv
    rw [hasked i hi, Nat.add_assoc]
    exact Nat.le_add_right ..
  · obtain ⟨hleds, hasked⟩ := runFrom_passes w nows i
    have hinv' := hinv.passes nows
    obtain ⟨q, hsound, -⟩ := hinv
    obtain ⟨q', hrest⟩ := hsound.within.passes nows
    rw [Nat.sub_eq_zero_of_le hmany, ← hleds] at hrest
    rw [← hasked]
    exact hinv'.eq_of_atRest hrest.atRest hi

/-- LED 0 is to blink twice and once more with LED 1. -/
def twoBlinks : List SceneLedEvent :=
  [.pushNormal 1 2, .pass 1000, .pushFast 3 1, .pass 1301, .pass 1602, .pass 1903]

/-- The first is shown, the second waits for its end. -/
theorem shown_of_passes_twoBlinks :
    let memory : LedBlinkInit := ⟨.red, 0, false, 0, .refreshLed, 300⟩
    let w := runFrom step (init memory) twoBlinks
    (w.shown 0 ≤ w.asked 0 ∧ ∀ nows : List UInt32,
      255 + 9 * 256 ≤ totalCost SceneLeds.due SceneLeds.ledSceneHandleEventFunction w.leds nows →
        let w' := runFrom step w (nows.map .pass)
        w'.shown 0 = w.asked 0 ∧ w'.leds.pin 0 = false) ∧ w.shown 0 = 2 ∧ w.asked 0 = 3 := by
  refine ⟨shown_of_passes rfl ?_ (by decide), by decide, by decide⟩
  exact ⟨⟨by decide, by decide⟩, trivial, ⟨by decide, by decide⟩, trivial, trivial, trivial,
    trivial⟩

end SceneLedWatch

end LumesSwitch
