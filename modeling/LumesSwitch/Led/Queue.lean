import LumesSwitch.Led.Model
import LumesSwitch.Relay.Core

/-!
# The queue of the LED commands (`led.c`)

A LED is to show the state of its relay. Its color comes from a command that may wait behind a
blink, and a blink is to end with a refresh of all LEDs; but one that was asked for with no
toggles, or in pink for LEDs that there are not, leaves LEDs off without one.

- `LedCommand.Known` — the commands that end well;
- `Leds.Truthful` — what will come out of the queue and the blinks;
- `Truthful.handle` — a pass over the queue keeps it;
- `Leds.Sound` — the same with the queue itself, and what the modules do to it.
-/

namespace LumesSwitch

open Flags Rings Runs

/-! ## Commands -/

/-- The pins that show a state. -/
def relayPins (on : Bool) : LedPins := if on then ⟨true, false⟩ else ⟨false, true⟩

theorem pins_relayColor (on : Bool) : (relayColor on).pins = some (relayPins on) := by
  cases on <;> rfl

namespace LedCommand

/-- The command switches LED `i` on. -/
def Sets (i : Nat) (c : LedCommand) : Prop := c.ledMode = .on ∧ isOn c.ledMask i = true

instance (i : Nat) (c : LedCommand) : Decidable (c.Sets i) := inferInstanceAs (Decidable (_ ∧ _))

/-- The mask names a LED of the board. -/
def Meets (b : Board) (ledMask : BitVec 16) : Prop := ∃ i < b.numberRl, isOn ledMask i = true

instance (b : Board) (ledMask : BitVec 16) : Decidable (Meets b ledMask) :=
  inferInstanceAs (Decidable (∃ i < _, _))

/-- The command makes a LED blink. -/
def Blinks (b : Board) (c : LedCommand) : Prop := c.ledMode = .blink ∧ Meets b c.ledMask

/-- A blink that ends with a refresh, or changes nothing: it has toggles for its LEDs, and is not
pink without LEDs. -/
def BlinkEnds (b : Board) (ledMask : BitVec 16) (color : LedColor) (blinkTime : UInt8) : Prop :=
  if Meets b ledMask then blinkTime ≠ 0 else color ≠ .pink

instance (b : Board) (ledMask : BitVec 16) (color : LedColor) (blinkTime : UInt8) :
    Decidable (BlinkEnds b ledMask color blinkTime) := inferInstanceAs (Decidable (ite _ _ _))

theorem blinkEnds_of_meets {b : Board} {ledMask : BitVec 16} {color : LedColor}
    {blinkTime : UInt8} (hmeets : Meets b ledMask) (htimes : blinkTime ≠ 0) :
    BlinkEnds b ledMask color blinkTime := by
  unfold BlinkEnds
  rw [if_pos hmeets]
  exact htimes

theorem blinkEnds_of_color {b : Board} {ledMask : BitVec 16} {color : LedColor}
    {blinkTime : UInt8} (hcolor : color ≠ .pink) (htimes : blinkTime ≠ 0) :
    BlinkEnds b ledMask color blinkTime := by
  unfold BlinkEnds
  split
  · exact htimes
  · exact hcolor

/-- The commands of the relays and of the other modules. -/
def Known (b : Board) (c : LedCommand) : Prop :=
  match c.ledMode with
  | .on => c.ledColor = .red ∨ c.ledColor = .blue
  | .blink => c.lastState = .refreshLed ∧ BlinkEnds b c.ledMask c.ledColor c.blinkTime
  | .refresh => True
  | .off | .blinkForever | .none => False

/-- The last color that the commands of a queue set LED `i` to. -/
def lastSet (i : Nat) : List LedCommand → Option LedColor
  | [] => none
  | c :: q => (lastSet i q).or (if c.Sets i then some c.ledColor else none)

theorem lastSet_concat (i : Nat) (q : List LedCommand) (c : LedCommand) :
    lastSet i (q ++ [c]) = if c.Sets i then some c.ledColor else lastSet i q := by
  induction q with
  | nil => exact (Option.none_or ..).trans (by simp only [lastSet])
  | cons d q ih =>
    rw [List.cons_append, lastSet, ih, lastSet]
    split
    · rfl
    · rfl

end LedCommand

namespace Leds

variable {b : Board}

/-! ## Loops over the LEDs -/

/-- All but the pins. -/
def besidePins (l : Leds b) : Leds b := { l with pin := fun _ => ⟨false, false⟩ }

/-- From `l` to `l'` only pins have been written. -/
def PinsOnly (l l' : Leds b) : Prop := l'.besidePins = l.besidePins

theorem PinsOnly.eq {l l' : Leds b} (h : PinsOnly l l') : l' = { l with pin := l'.pin } := by
  have hpin := congrArg (fun x : Leds b => ({ x with pin := l'.pin } : Leds b)) h
  exact hpin

theorem pinsOnly_ledOffAll (l : Leds b) : PinsOnly l l.ledOffAll := by
  have hbody : ∀ (l : Leds b) i, (l.ledOff i).besidePins = l.besidePins := fun _ _ => rfl
  exact keep_runFrom besidePins hbody l _

theorem pinsOnly_ledSetColor (l : Leds b) (i : Nat) (color : LedColor) :
    PinsOnly l (l.ledSetColor i color) := by
  rw [ledSetColor]
  split
  · split <;> rfl
  · rfl

/-- A loop that sets a color for each LED of a mask. -/
theorem runFrom_setColor (mask : BitVec 16) {color : Nat → LedColor} {p : Nat → LedPins}
    (hp : ∀ i, (color i).pins = some (p i)) (l : Leds b) :
    runFrom (fun (l : Leds b) i => if isOn mask i then l.ledSetColor i (color i) else l) l
        (List.range b.numberRl) =
      { l with pin := fun i => if i < b.numberRl ∧ isOn mask i = true then p i else l.pin i } := by
  generalize hf : (fun (l : Leds b) i => if isOn mask i then l.ledSetColor i (color i) else l) = f
  have hbody : ∀ (l : Leds b) i, f l i = if i < b.numberRl ∧ isOn mask i = true
      then l.setPin i (p i) else l := by
    intro l i
    rw [← hf]
    dsimp only
    rw [ledSetColor, hp]
    dsimp only
    by_cases hmask : isOn mask i = true
    · rw [if_pos hmask]
      exact if_congr (and_iff_left hmask).symm rfl rfl
    · rw [if_neg hmask, if_neg fun h => hmask h.2]
  have hrest : PinsOnly l (runFrom f l (List.range b.numberRl)) := by
    refine keep_runFrom besidePins (fun l' i => ?_) l _
    rw [hbody]
    split <;> rfl
  have hpin : (runFrom f l (List.range b.numberRl)).pin =
      fun i => if i < b.numberRl ∧ isOn mask i = true then p i else l.pin i := by
    funext i
    have hother : ∀ (l' : Leds b) j, j ≠ i → (f l' j).pin i = l'.pin i := by
      intro l' j hj
      rw [hbody]
      split
      · exact Function.update_of_ne (Ne.symm hj) ..
      · rfl
    by_cases hi : i < b.numberRl
    · refine (runFrom_view (fun l' : Leds b => l'.pin i)
        (g := fun x => if i < b.numberRl ∧ isOn mask i = true then p i else x) hother
        (fun l' => ?_) List.nodup_range (List.mem_range.mpr hi) l)
      rw [hbody]
      split
      · exact Function.update_self ..
      · rfl
    · rw [if_neg fun h => hi h.1]
      exact runFrom_of_notMem (P := fun l' : Leds b => l'.pin i = l.pin i)
        (fun l' j hj h => (hother l' j hj).trans h) (List.mem_range.not.mpr hi) rfl
  rw [hrest.eq, hpin]

end Leds

/-! ## The refresh -/

/-- The callback refreshes the LEDs of the mask with the states `t`. -/
def Refreshes {b : Board} (t : BitVec 16) (pv : Leds.RefreshCallback b) : Prop :=
  ∀ mask l, pv mask l = { l with
    pin := fun i => if i < b.numberRl ∧ isOn mask i = true then relayPins (isOn t i) else l.pin i
    refreshed := l.refreshed ||| mask }

theorem Device.refreshes {b : Board} {ε : Type} {s : Device b ε} (h : s.sh.factActive = false) :
    Refreshes s.relay.rlsTarget s.relayHandleRefresh := by
  intro mask l
  rw [relayHandleRefresh, if_pos h,
    Leds.runFrom_setColor mask (fun i => pins_relayColor (isOn s.relay.rlsTarget i)) l]

/-! ## What will come out -/

namespace Leds

variable {b : Board}

/-- A LED blinks. -/
def Blinking (l : Leds b) : Prop := ∃ i < b.numberRl, (l.toggleLedArr i).toggleLedFlag = true

/-- **The invariant**, for the states `t`, the commands `q` that wait, and a gesture that is on if
`held`: what the queue sets a LED to at last is its state, a LED that blinks has toggles left and
ends with a refresh, and a LED that has been refreshed shows its state, unless a gesture, a blink
or the queue is still to see to it. -/
structure Truthful (t : BitVec 16) (held : Prop) (l : Leds b) (q : List LedCommand) : Prop where
  known : ∀ c ∈ q, c.Known b
  last : ∀ i < b.numberRl, ∀ color, LedCommand.lastSet i q = some color →
    color = relayColor (isOn t i)
  blinking : ∀ i < b.numberRl, (l.toggleLedArr i).toggleLedFlag = true →
    (l.toggleLedArr i).toggleLedTimes ≠ 0 ∧
      (l.toggleLedArr i).toggleLedLastState = .refreshLed
  shown : ∀ i < b.numberRl, isOn l.refreshed i = true →
    held ∨ l.Blinking ∨ (∃ c ∈ q, c.Blinks b) ∨ (LedCommand.lastSet i q).isSome = true ∨
      l.pin i = relayPins (isOn t i)

namespace Truthful

variable {t : BitVec 16} {held : Prop} {l l' : Leds b} {q : List LedCommand}
  {pv : RefreshCallback b}

theorem refresh (h : Truthful t held l q) (hpv : Refreshes t pv) (mask : BitVec 16) :
    Truthful t held (pv mask l) q := by
  rw [hpv]
  refine ⟨h.known, h.last, h.blinking, fun i hi hrefreshed => ?_⟩
  by_cases hmask : isOn mask i = true
  · exact .inr (.inr (.inr (.inr (if_pos ⟨hi, hmask⟩))))
  -- a LED that is not in the mask was refreshed before
  · have hbefore : isOn l.refreshed i = true := by
      have hor : isOn (l.refreshed ||| mask) i = (isOn l.refreshed i || isOn mask i) :=
        BitVec.getLsbD_or
      rw [hor, Bool.of_not_eq_true hmask, Bool.or_false] at hrefreshed
      exact hrefreshed
    refine (h.shown i hi hbefore).imp_right (Or.imp_right (Or.imp_right (Or.imp_right ?_)))
    exact (if_neg fun hin => hmask hin.2).trans

/-- A refresh of all LEDs makes good what a gesture has written. -/
theorem refreshAll (h : Truthful t held l q) (hpv : Refreshes t pv) {mask : BitVec 16}
    (hall : ∀ i < b.numberRl, isOn mask i = true) (held' : Prop) :
    Truthful t held' (pv mask l) q := by
  rw [hpv]
  exact ⟨h.known, h.last, h.blinking,
    fun i hi _ => .inr (.inr (.inr (.inr (if_pos ⟨hi, hall i hi⟩))))⟩

/-- A gesture that is on may write the pins. -/
theorem write (h : Truthful t held l q) (hpins : PinsOnly l l') {held' : Prop} (hheld : held') :
    Truthful t held' l' q := by
  rw [hpins.eq]
  exact ⟨h.known, h.last, h.blinking, fun _ _ _ => .inl hheld⟩

theorem mono (h : Truthful t held l q) {held' : Prop} (himp : held → held') :
    Truthful t held' l q :=
  ⟨h.known, h.last, h.blinking, fun i hi hrefreshed => (h.shown i hi hrefreshed).imp_left himp⟩

/-- What it is about: the LEDs of the board, and the states of their relays. -/
theorem congr (h : Truthful t held l q) {t' : BitVec 16}
    (hstate : ∀ i < b.numberRl, isOn t' i = isOn t i)
    (hpin : ∀ i < b.numberRl, l'.pin i = l.pin i)
    (hentry : ∀ i < b.numberRl, l'.toggleLedArr i = l.toggleLedArr i)
    (hrefreshed : l'.refreshed = l.refreshed) : Truthful t' held l' q := by
  refine ⟨h.known, fun i hi color hcolor => ?_, fun i hi => ?_, fun i hi hi' => ?_⟩
  · rw [hstate i hi]
    exact h.last i hi color hcolor
  · rw [hentry i hi]
    exact h.blinking i hi
  · rw [hrefreshed] at hi'
    rw [hpin i hi, hstate i hi]
    refine (h.shown i hi hi').imp_right (Or.imp_left ?_)
    rintro ⟨j, hj, hflag⟩
    refine ⟨j, hj, ?_⟩
    rw [hentry j hj]
    exact hflag

/-- A blink that waits will see to what has been written. -/
theorem awaitBlink (h : Truthful t True l q) (hblinks : ∃ c ∈ q, c.Blinks b) :
    Truthful t held l q :=
  ⟨h.known, h.last, h.blinking, fun _ _ _ => .inr (.inr (.inl hblinks))⟩

/-- A command is pushed, with the states `t'` that it sets its LEDs to. -/
theorem push (h : Truthful t held l q) {c : LedCommand} (hknown : c.Known b) {t' : BitVec 16}
    (hset : ∀ i < b.numberRl, if c.Sets i then c.ledColor = relayColor (isOn t' i)
      else isOn t' i = isOn t i) :
    Truthful t' held (l.ledPushLedCommandToFifo c) (q ++ [c]) := by
  refine ⟨fun d hd => ?_, fun i hi color => ?_, h.blinking, fun i hi hrefreshed => ?_⟩
  · rcases List.mem_append.mp hd with hd | hd
    · exact h.known d hd
    · exact List.mem_singleton.mp hd ▸ hknown
  · rw [LedCommand.lastSet_concat]
    have hcolor := hset i hi
    split
    · next hc =>
      rw [if_pos hc] at hcolor
      rintro ⟨⟩
      exact hcolor
    · next hc =>
      rw [if_neg hc] at hcolor
      rw [hcolor]
      exact h.last i hi color
  · rw [LedCommand.lastSet_concat]
    have hcolor := hset i hi
    by_cases hc : c.Sets i
    · rw [if_pos hc]
      -- the queue will see to the LED
      exact .inr (.inr (.inr (.inl rfl)))
    · rw [if_neg hc] at hcolor ⊢
      rw [hcolor]
      refine (h.shown i hi hrefreshed).imp_right (Or.imp_right (Or.imp_left ?_))
      rintro ⟨d, hd, hblinks⟩
      exact ⟨d, List.mem_append_left _ hd, hblinks⟩

end Truthful

/-! ## A command of the queue -/

/-- What a pass leaves alone: the queue, the LEDs that have been refreshed, and the memory behind
the array. -/
def besidePass (l : Leds b) : Ring bufLedCmdSize LedCommand × Bool × LedBlinkInit :=
  (l.fifoLedCommands, l.overflowed, l.toggleLedArr b.numberRl)

theorem holds_of_besidePass {l l' : Leds b} (h : l'.besidePass = l.besidePass)
    {q : List LedCommand} (hq : l.fifoLedCommands.Holds q) : l'.fifoLedCommands.Holds q := by
  have hfifo : l'.fifoLedCommands = l.fifoLedCommands := congrArg Prod.fst h
  rw [hfifo]
  exact hq

theorem besidePass_refresh {t : BitVec 16} {pv : RefreshCallback b} (hpv : Refreshes t pv)
    (mask : BitVec 16) (l : Leds b) : (pv mask l).besidePass = l.besidePass := by
  rw [hpv]
  rfl

/-- The entries behind `led_blink`. -/
theorem toggleLedArr_ledBlink (l : Leds b) (now : UInt32) (mask : BitVec 16) (times : UInt8)
    (st : LedLastState) (color : LedColor) (interval : UInt16) (i : Nat) :
    (l.ledBlink now mask times st color interval).toggleLedArr i =
      if i < b.numberRl ∧ isOn mask i = true
        then ⟨color, now, true, times, st, interval.toUInt32⟩ else l.toggleLedArr i := by
  have hself : ∀ l : Leds b, (ledBlinkOne now mask times st color interval l i).toggleLedArr i =
      if isOn mask i = true then ⟨color, now, true, times, st, interval.toUInt32⟩
        else l.toggleLedArr i := by
    intro l
    rw [ledBlinkOne]
    split
    · exact Function.update_self ..
    · split
      · rfl
      · rfl
  have hother : ∀ (l : Leds b) j, j ≠ i →
      (ledBlinkOne now mask times st color interval l j).toggleLedArr i = l.toggleLedArr i := by
    intro l j hj
    rw [ledBlinkOne]
    split
    · exact Function.update_of_ne (Ne.symm hj) ..
    · split
      · rfl
      · rfl
  by_cases hi : i < b.numberRl
  · refine (runFrom_view (fun l : Leds b => l.toggleLedArr i)
      (g := fun e => if isOn mask i = true then ⟨color, now, true, times, st, interval.toUInt32⟩
        else e) hother hself List.nodup_range (List.mem_range.mpr hi) l).trans ?_
    exact if_congr (and_iff_right hi).symm rfl rfl
  · rw [if_neg fun h => hi h.1]
    exact runFrom_of_notMem (P := fun l' : Leds b => l'.toggleLedArr i = l.toggleLedArr i)
      (fun l' j hj h => (hother l' j hj).trans h) (List.mem_range.not.mpr hi) rfl

theorem beside_ledBlink (l : Leds b) (now : UInt32) (mask : BitVec 16) (times : UInt8)
    (st : LedLastState) (color : LedColor) (interval : UInt16) :
    (l.ledBlink now mask times st color interval).besidePass = l.besidePass ∧
      (l.ledBlink now mask times st color interval).refreshed = l.refreshed := by
  have hkept : ∀ (l : Leds b) i,
      ((ledBlinkOne now mask times st color interval l i).fifoLedCommands,
        (ledBlinkOne now mask times st color interval l i).overflowed,
        (ledBlinkOne now mask times st color interval l i).refreshed) =
      (l.fifoLedCommands, l.overflowed, l.refreshed) := by
    intro l i
    rw [ledBlinkOne]
    split
    · rfl
    · split
      · rfl
      · rfl
  have hloop := keep_runFrom (fun l : Leds b => (l.fifoLedCommands, l.overflowed, l.refreshed))
    hkept l (List.range b.numberRl)
  have hentry := l.toggleLedArr_ledBlink now mask times st color interval b.numberRl
  rw [if_neg fun h => Nat.lt_irrefl _ h.1] at hentry
  refine ⟨?_, congrArg (fun v => v.2.2) hloop⟩
  rw [besidePass, hentry]
  exact congrArg (fun v => (v.1, v.2.1, l.toggleLedArr b.numberRl)) hloop

/-- A blink that is not pink, for LEDs that there are not. -/
theorem ledBlink_of_not_meets (l : Leds b) (now : UInt32) {mask : BitVec 16} (times : UInt8)
    (st : LedLastState) {color : LedColor} (interval : UInt16) (hmask : ¬ LedCommand.Meets b mask)
    (hcolor : color ≠ .pink) : l.ledBlink now mask times st color interval = l := by
  refine runFrom_of_fixed fun i hi => ?_
  rw [ledBlinkOne, if_neg fun h => hmask ⟨i, List.mem_range.mp hi, h⟩, if_neg fun h => hcolor h.1]

namespace Truthful

variable {t : BitVec 16} {held : Prop} {l : Leds b} {c : LedCommand} {q : List LedCommand}
  {pv : RefreshCallback b}

/-- The rest of the queue, if its first command neither sets a LED nor makes one blink. -/
theorem drop (h : Truthful t held l (c :: q)) (hon : c.ledMode ≠ .on) (hblinks : ¬ c.Blinks b) :
    Truthful t held l q := by
  have hlast : ∀ i, LedCommand.lastSet i (c :: q) = LedCommand.lastSet i q := by
    intro i
    rw [LedCommand.lastSet, if_neg fun hc : c.Sets i => hon hc.1, Option.or_none]
  refine ⟨fun d hd => h.known d (List.mem_cons_of_mem c hd), fun i hi => ?_, h.blinking,
    fun i hi hrefreshed => ?_⟩
  · rw [← hlast]
    exact h.last i hi
  · rw [← hlast]
    refine (h.shown i hi hrefreshed).imp_right (Or.imp_right (Or.imp_left ?_))
    rintro ⟨d, hd, hd'⟩
    rcases List.mem_cons.mp hd with rfl | hd
    · exact absurd hd' hblinks
    · exact ⟨d, hd, hd'⟩

/-- An ON command gives its LEDs the color that the rest of the queue may change. -/
theorem runOn (h : Truthful t held l (c :: q)) (hon : c.ledMode = .on) {p : LedPins}
    (hp : c.ledColor.pins = some p) :
    Truthful t held ({ l with pin := fun i =>
      if i < b.numberRl ∧ isOn c.ledMask i = true then p else l.pin i } : Leds b) q := by
  refine ⟨fun d hd => h.known d (List.mem_cons_of_mem c hd), fun i hi color hcolor => ?_,
    h.blinking, fun i hi hrefreshed => ?_⟩
  · refine h.last i hi color ?_
    rw [LedCommand.lastSet, hcolor, Option.some_or]
  · have hlast := h.last i hi
    have hshown := h.shown i hi hrefreshed
    rw [LedCommand.lastSet] at hlast hshown
    by_cases hc : c.Sets i
    · rw [if_pos hc] at hlast
      cases hset : LedCommand.lastSet i q with
      | some color => exact .inr (.inr (.inr (.inl rfl)))
      | none =>
        -- it was the last one for this LED
        rw [hset, Option.none_or] at hlast
        have hcolor := hlast c.ledColor rfl
        refine .inr (.inr (.inr (.inr ((if_pos ⟨hi, hc.2⟩).trans ?_))))
        rw [hcolor, pins_relayColor] at hp
        exact (Option.some.inj hp).symm
    · rw [if_neg hc, Option.or_none] at hshown
      refine hshown.imp_right (Or.imp_right (Or.imp ?_ (Or.imp_right ?_)))
      · rintro ⟨d, hd, hd'⟩
        rcases List.mem_cons.mp hd with rfl | hd
        · exact absurd (hon.symm.trans hd'.1) (by decide)
        · exact ⟨d, hd, hd'⟩
      · exact (if_neg fun hin => hc ⟨hon, hin.2⟩).trans

/-- A blink that is begun has LEDs, or does nothing. -/
theorem runBlink (h : Truthful t held l (c :: q)) (hblink : c.ledMode = .blink) (now : UInt32) :
    Truthful t held (l.ledBlink now c.ledMask c.blinkTime c.lastState c.ledColor
      c.blinkInterval) q := by
  have hknown := h.known c List.mem_cons_self
  rw [LedCommand.Known, hblink] at hknown
  obtain ⟨hlast, hends⟩ := hknown
  unfold LedCommand.BlinkEnds at hends
  by_cases hmeets : LedCommand.Meets b c.ledMask
  · rw [if_pos hmeets] at hends
    have hentry := l.toggleLedArr_ledBlink now c.ledMask c.blinkTime c.lastState c.ledColor
      c.blinkInterval
    refine ⟨fun d hd => h.known d (List.mem_cons_of_mem c hd), fun i hi color hcolor => ?_,
      fun i hi hflag => ?_, fun i hi _ => .inr (.inl ?_)⟩
    · refine h.last i hi color ?_
      rw [LedCommand.lastSet, hcolor, Option.some_or]
    · rw [hentry] at hflag ⊢
      split at hflag
      · next hin =>
        rw [if_pos hin]
        exact ⟨hends, hlast⟩
      · next hout =>
        rw [if_neg hout]
        exact h.blinking i hi hflag
    -- while one LED blinks, a refresh of all of them is to come
    · obtain ⟨j, hj, hmask⟩ := hmeets
      refine ⟨j, hj, ?_⟩
      rw [hentry, if_pos ⟨hj, hmask⟩]
  · rw [if_neg hmeets] at hends
    rw [l.ledBlink_of_not_meets now _ _ _ hmeets hends]
    exact h.drop (by rw [hblink]; decide) fun hb => hmeets hb.2

/-- **A command** of the queue. -/
theorem runCommand (h : Truthful t held l (c :: q)) (hpv : Refreshes t pv) (now : UInt32) :
    Truthful t held (l.ledRunCommand pv now c) q ∧
      (l.ledRunCommand pv now c).besidePass = l.besidePass := by
  have hknown := h.known c List.mem_cons_self
  unfold LedCommand.Known at hknown
  rw [ledRunCommand]
  cases hmode : c.ledMode with
  | refresh =>
    have hrest : Truthful t held l q :=
      h.drop (by rw [hmode]; decide) fun hb => absurd (hmode.symm.trans hb.1) (by decide)
    exact ⟨hrest.refresh hpv c.ledMask, besidePass_refresh hpv ..⟩
  | blink => exact ⟨h.runBlink hmode now, (l.beside_ledBlink ..).1⟩
  | on =>
    rw [hmode] at hknown
    have hset : ∀ {p : LedPins}, c.ledColor.pins = some p →
        Truthful t held (runFrom (fun (l : Leds b) i =>
          if isOn c.ledMask i then l.ledSetColor i c.ledColor else l) l
            (List.range b.numberRl)) q ∧
          (runFrom (fun (l : Leds b) i =>
            if isOn c.ledMask i then l.ledSetColor i c.ledColor else l) l
              (List.range b.numberRl)).besidePass = l.besidePass := by
      intro p hp
      rw [runFrom_setColor c.ledMask (fun _ => hp) l]
      exact ⟨h.runOn hmode hp, rfl⟩
    rcases hknown with hcolor | hcolor
    · have hrun := hset (p := ⟨true, false⟩) (by rw [hcolor]; rfl)
      rw [hcolor] at hrun ⊢
      exact hrun
    · have hrun := hset (p := ⟨false, true⟩) (by rw [hcolor]; rfl)
      rw [hcolor] at hrun ⊢
      exact hrun
  | off | blinkForever | none =>
    rw [hmode] at hknown
    exact hknown.elim

end Truthful

/-! ## The blinks -/

/-- The body of the loop at another entry. -/
theorem ledToggleOne_other (now : UInt32) (x : Leds b × Bool) {i j : Nat} (hj : j ≠ i) :
    (ledToggleOne now x j).1.pin i = x.1.pin i ∧
      (ledToggleOne now x j).1.toggleLedArr i = x.1.toggleLedArr i := by
  have hpin : ∀ (l : Leds b) p, (l.setPin j p).pin i = l.pin i :=
    fun _ _ => Function.update_of_ne (Ne.symm hj) ..
  have hentry : ∀ (l : Leds b) e, (l.setEntry j e).toggleLedArr i = l.toggleLedArr i :=
    fun _ _ => Function.update_of_ne (Ne.symm hj) ..
  have hcolor : ∀ (l : Leds b) st, (l.ledSetColorLastState j st).pin i = l.pin i ∧
      (l.ledSetColorLastState j st).toggleLedArr i = l.toggleLedArr i := by
    intro l st
    rw [ledSetColorLastState, ledSetColor]
    split
    · split
      · exact ⟨hpin .., rfl⟩
      · exact ⟨rfl, rfl⟩
    · exact ⟨rfl, rfl⟩
  have htoggle : ∀ l : Leds b, (l.ledToggle j).pin i = l.pin i ∧
      (l.ledToggle j).toggleLedArr i = l.toggleLedArr i := by
    intro l
    rw [ledToggle]
    split
    · exact ⟨hpin .., rfl⟩
    · exact ⟨rfl, rfl⟩
  unfold ledToggleOne
  dsimp only
  split
  · split
    · split
      · split
        · split
          · exact ⟨(hcolor ..).1, (hcolor ..).2.trans (hentry ..)⟩
          · exact ⟨(hcolor ..).1, (hcolor ..).2.trans (hentry ..)⟩
          · exact ⟨(hcolor ..).1, (hcolor ..).2.trans (hentry ..)⟩
          · exact ⟨rfl, hentry ..⟩
          · exact ⟨rfl, hentry ..⟩
          · exact ⟨rfl, hentry ..⟩
        · exact ⟨(htoggle _).1, (htoggle _).2.trans (hentry ..)⟩
      · exact ⟨rfl, rfl⟩
    · exact ⟨rfl, hentry ..⟩
  · exact ⟨rfl, rfl⟩

/-- What the body leaves alone; a refresh that is asked for stays so. -/
theorem ledToggleOne_kept (now : UInt32) (x : Leds b × Bool) (i : Nat) :
    ((ledToggleOne now x i).1.fifoLedCommands, (ledToggleOne now x i).1.overflowed,
        (ledToggleOne now x i).1.refreshed) =
      (x.1.fifoLedCommands, x.1.overflowed, x.1.refreshed) ∧
    (x.2 = true → (ledToggleOne now x i).2 = true) := by
  have hcolor : ∀ (l : Leds b) st,
      ((l.ledSetColorLastState i st).fifoLedCommands, (l.ledSetColorLastState i st).overflowed,
        (l.ledSetColorLastState i st).refreshed) =
          (l.fifoLedCommands, l.overflowed, l.refreshed) := by
    intro l st
    rw [ledSetColorLastState, (l.pinsOnly_ledSetColor i st.color).eq]
  have htoggle : ∀ l : Leds b, ((l.ledToggle i).fifoLedCommands, (l.ledToggle i).overflowed,
      (l.ledToggle i).refreshed) = (l.fifoLedCommands, l.overflowed, l.refreshed) := by
    intro l
    rw [ledToggle]
    split
    · rfl
    · rfl
  unfold ledToggleOne
  dsimp only
  split
  · split
    · split
      · split
        · split
          · exact ⟨hcolor .., id⟩
          · exact ⟨hcolor .., id⟩
          · exact ⟨hcolor .., id⟩
          · exact ⟨rfl, fun _ => rfl⟩
          · exact ⟨rfl, fun _ => rfl⟩
          · exact ⟨rfl, fun _ => rfl⟩
        · exact ⟨htoggle _, id⟩
      · exact ⟨rfl, id⟩
    · exact ⟨rfl, id⟩
  · exact ⟨rfl, id⟩

/-- A LED that does not blink. -/
theorem ledToggleOne_idle (now : UInt32) {x : Leds b × Bool} {i : Nat}
    (h : (x.1.toggleLedArr i).toggleLedFlag = false) : ledToggleOne now x i = x := by
  rw [ledToggleOne]
  exact if_neg (by rw [h]; decide)

/-- A LED that blinks for a refresh: the blink goes on, or the refresh is asked for. -/
theorem ledToggleOne_blinking (now : UInt32) {x : Leds b × Bool} {i : Nat}
    (hflag : (x.1.toggleLedArr i).toggleLedFlag = true)
    (htimes : (x.1.toggleLedArr i).toggleLedTimes ≠ 0)
    (hlast : (x.1.toggleLedArr i).toggleLedLastState = .refreshLed) :
    (((ledToggleOne now x i).1.toggleLedArr i).toggleLedFlag = true ∧
      ((ledToggleOne now x i).1.toggleLedArr i).toggleLedTimes ≠ 0 ∧
      ((ledToggleOne now x i).1.toggleLedArr i).toggleLedLastState = .refreshLed) ∨
    ((ledToggleOne now x i).1.toggleLedArr i).toggleLedFlag = false ∧
      (ledToggleOne now x i).2 = true := by
  have hentry : ∀ (l : Leds b) e, (l.setEntry i e).toggleLedArr i = e :=
    fun _ _ => Function.update_self ..
  have htoggle : ∀ l : Leds b, (l.ledToggle i).toggleLedArr i = l.toggleLedArr i := by
    intro l
    rw [ledToggle]
    split
    · rfl
    · rfl
  have hpos : (x.1.toggleLedArr i).toggleLedTimes > 0 := UInt8.pos_iff_ne_zero.mpr htimes
  unfold ledToggleOne
  dsimp only
  rw [if_pos hflag, if_pos hpos, hlast]
  split
  · split
    · refine .inr ⟨?_, rfl⟩
      rw [hentry]
    · next hmore =>
      rw [htoggle, hentry]
      exact .inl ⟨hflag, hmore, rfl⟩
  · exact .inl ⟨hflag, htimes, hlast⟩

/-- The loop of `led_toggle_handle` over the LEDs of the board. -/
def ledToggleLeds (l : Leds b) (now : UInt32) : Leds b × Bool :=
  runFrom (ledToggleOne now) (l, false) (List.range b.numberRl)

theorem kept_ledToggleLeds (l : Leds b) (now : UInt32) :
    (l.ledToggleLeds now).1.besidePass = l.besidePass ∧
      (l.ledToggleLeds now).1.refreshed = l.refreshed := by
  have hmem : (l.ledToggleLeds now).1.toggleLedArr b.numberRl = l.toggleLedArr b.numberRl :=
    runFrom_of_notMem
      (P := fun x : Leds b × Bool => x.1.toggleLedArr b.numberRl = l.toggleLedArr b.numberRl)
      (fun x j hj h => (ledToggleOne_other now x hj).2.trans h)
      (List.mem_range.not.mpr (Nat.lt_irrefl _)) rfl
  have hkept := keep_runFrom
    (fun x : Leds b × Bool => (x.1.fifoLedCommands, x.1.overflowed, x.1.refreshed))
    (fun x i => (ledToggleOne_kept now x i).1) (l, false) (List.range b.numberRl)
  refine ⟨?_, congrArg (fun v => v.2.2) hkept⟩
  rw [besidePass, hmem]
  exact congrArg (fun v => (v.1, v.2.1, l.toggleLedArr b.numberRl)) hkept

/-- The entry behind the array, which the loop comes to last, does nothing. -/
theorem ledToggleHandle_eq (pv : RefreshCallback b) {l : Leds b}
    (hmemory : (l.toggleLedArr b.numberRl).toggleLedFlag = false) (now : UInt32) :
    l.ledToggleHandle pv now = if (l.ledToggleLeds now).2 then pv 0xFFFF#16 (l.ledToggleLeds now).1
      else (l.ledToggleLeds now).1 := by
  have hmem : (l.ledToggleLeds now).1.toggleLedArr b.numberRl = l.toggleLedArr b.numberRl :=
    congrArg (fun v => v.2.2) (l.kept_ledToggleLeds now).1
  have hidle : ((l.ledToggleLeds now).1.toggleLedArr b.numberRl).toggleLedFlag = false := by
    rw [hmem]
    exact hmemory
  have hloop : runFrom (ledToggleOne now) (l, false) (List.range (b.numberRl + 1)) =
      l.ledToggleLeds now := by
    rw [List.range_succ, runFrom_append]
    exact ledToggleOne_idle now hidle
  rw [ledToggleHandle, hloop]

/-- Each LED, which the loop comes to once: a blink goes on, or asks for a refresh. -/
theorem ledToggleLeds_led {l : Leds b} {i : Nat} (hi : i < b.numberRl)
    (hok : (l.toggleLedArr i).toggleLedFlag = true → (l.toggleLedArr i).toggleLedTimes ≠ 0 ∧
      (l.toggleLedArr i).toggleLedLastState = .refreshLed) (now : UInt32) :
    (((l.ledToggleLeds now).1.toggleLedArr i).toggleLedFlag = true →
      ((l.ledToggleLeds now).1.toggleLedArr i).toggleLedTimes ≠ 0 ∧
        ((l.ledToggleLeds now).1.toggleLedArr i).toggleLedLastState = .refreshLed) ∧
    ((l.ledToggleLeds now).2 = true ∨
      ((l.ledToggleLeds now).1.toggleLedArr i).toggleLedFlag =
          (l.toggleLedArr i).toggleLedFlag ∧
        ((l.toggleLedArr i).toggleLedFlag = false →
          (l.ledToggleLeds now).1.pin i = l.pin i)) := by
  refine runFrom_once
    (P := fun x : Leds b × Bool =>
      x.1.pin i = l.pin i ∧ x.1.toggleLedArr i = l.toggleLedArr i)
    (Q := fun x : Leds b × Bool =>
      ((x.1.toggleLedArr i).toggleLedFlag = true → (x.1.toggleLedArr i).toggleLedTimes ≠ 0 ∧
        (x.1.toggleLedArr i).toggleLedLastState = .refreshLed) ∧
      (x.2 = true ∨ (x.1.toggleLedArr i).toggleLedFlag = (l.toggleLedArr i).toggleLedFlag ∧
        ((l.toggleLedArr i).toggleLedFlag = false → x.1.pin i = l.pin i)))
    ?_ ?_ ?_ List.nodup_range (List.mem_range.mpr hi) ⟨rfl, rfl⟩
  · rintro x j hj ⟨hpin, hentry⟩
    obtain ⟨hpin', hentry'⟩ := ledToggleOne_other now x hj
    exact ⟨hpin'.trans hpin, hentry'.trans hentry⟩
  · rintro x ⟨hpin, hentry⟩
    cases hflag : (l.toggleLedArr i).toggleLedFlag with
    | false =>
      rw [ledToggleOne_idle now (by rw [hentry]; exact hflag), hentry, hflag]
      exact ⟨nofun, .inr ⟨rfl, fun _ => hpin⟩⟩
    | true =>
      obtain ⟨htimes, hlast⟩ := hok hflag
      rw [← hentry] at hflag htimes hlast
      rcases ledToggleOne_blinking now hflag htimes hlast with ⟨hflag', hrest⟩ | ⟨hflag', hask⟩
      · exact ⟨fun _ => hrest, .inr ⟨hflag', nofun⟩⟩
      · exact ⟨fun hon => absurd (hflag'.symm.trans hon) (by decide), .inl hask⟩
  · rintro x j hj ⟨hkeep, hrest⟩
    obtain ⟨hpin, hentry⟩ := ledToggleOne_other now x hj
    rw [hentry, hpin]
    exact ⟨hkeep, hrest.imp_left (ledToggleOne_kept now x j).2⟩

namespace Truthful

variable {t : BitVec 16} {held : Prop} {l : Leds b} {q : List LedCommand} {pv : RefreshCallback b}

/-- **The blinks** go on, or all LEDs are refreshed. -/
theorem toggleHandle (h : Truthful t held l q) (hpv : Refreshes t pv)
    (hmemory : (l.toggleLedArr b.numberRl).toggleLedFlag = false) (now : UInt32) :
    Truthful t held (l.ledToggleHandle pv now) q ∧
      (l.ledToggleHandle pv now).besidePass = l.besidePass := by
  have hled : ∀ i (hi : i < b.numberRl), _ := fun i hi => ledToggleLeds_led hi (h.blinking i hi) now
  obtain ⟨hbeside, hrefreshed⟩ := l.kept_ledToggleLeds now
  rw [ledToggleHandle_eq pv hmemory]
  generalize l.ledToggleLeds now = x at *
  cases hask : x.2 with
  | true =>
    have hall : ∀ i < b.numberRl, isOn 0xFFFF#16 i = true := by
      intro i hi
      have hthree := b.le_three
      have hcases : i = 0 ∨ i = 1 ∨ i = 2 := by omega
      rcases hcases with rfl | rfl | rfl <;> decide
    have hheld : Truthful t True x.1 q :=
      ⟨h.known, h.last, fun i hi => (hled i hi).1, fun _ _ _ => .inl trivial⟩
    rw [if_pos rfl]
    exact ⟨hheld.refreshAll hpv hall held, (besidePass_refresh hpv ..).trans hbeside⟩
  | false =>
    rw [if_neg Bool.false_ne_true]
    have hsame : ∀ i < b.numberRl,
        (x.1.toggleLedArr i).toggleLedFlag = (l.toggleLedArr i).toggleLedFlag ∧
          ((l.toggleLedArr i).toggleLedFlag = false → x.1.pin i = l.pin i) := by
      intro i hi
      rcases (hled i hi).2 with hon | hrest
      · exact absurd (hask.symm.trans hon) (by decide)
      · exact hrest
    refine ⟨⟨h.known, h.last, fun i hi => (hled i hi).1, fun i hi hi' => ?_⟩, hbeside⟩
    rw [hrefreshed] at hi'
    have hblinking : l.Blinking → x.1.Blinking := by
      rintro ⟨j, hj, hflag⟩
      exact ⟨j, hj, (hsame j hj).1.trans hflag⟩
    -- without a refresh, the LEDs that do not blink are as they were
    by_cases hblinks : l.Blinking
    · exact .inr (.inl (hblinking hblinks))
    · have hflag : (l.toggleLedArr i).toggleLedFlag = false :=
        Bool.of_not_eq_true fun hon => hblinks ⟨i, hi, hon⟩
      refine (h.shown i hi hi').imp_right (Or.imp hblinking (Or.imp_right (Or.imp_right ?_)))
      exact ((hsame i hi).2 hflag).trans

end Truthful

/-! ## A pass -/

namespace Truthful

variable {t : BitVec 16} {held : Prop} {l : Leds b} {q : List LedCommand} {pv : RefreshCallback b}

theorem refreshDelay (h : Truthful t held l q) (hpv : Refreshes t pv) (now : UInt32) :
    Truthful t held (l.ledHandleRefreshDelay pv now) q ∧
      (l.ledHandleRefreshDelay pv now).besidePass = l.besidePass := by
  rw [ledHandleRefreshDelay]
  dsimp only
  split
  · obtain ⟨hknown, hlast, hblinking, hshown⟩ := h.refresh hpv l.refreshLedDelaySt.ledMask
    exact ⟨⟨hknown, hlast, hblinking, hshown⟩, besidePass_refresh hpv _ l⟩
  · exact ⟨h, rfl⟩

/-- The command that is taken, if any. -/
theorem takeCommand (h : Truthful t held l q) (hq : l.fifoLedCommands.Holds q)
    (hpv : Refreshes t pv) (now : UInt32) :
    (l.ledTakeCommand pv now).besidePass.2 = l.besidePass.2 ∧
      ∃ q', (l.ledTakeCommand pv now).fifoLedCommands.Holds q' ∧
        Truthful t held (l.ledTakeCommand pv now) q' := by
  rw [ledTakeCommand]
  split
  · exact ⟨rfl, q, hq, h⟩
  · dsimp only
    obtain ⟨hdelay, hbeside⟩ := h.refreshDelay hpv now
    replace hq := holds_of_besidePass hbeside hq
    generalize l.ledHandleRefreshDelay pv now = l1 at *
    split
    · exact ⟨congrArg Prod.snd hbeside, q, hq, hdelay⟩
    · next hempty =>
      cases q with
      | nil => exact absurd hq.isEmpty_eq hempty
      | cons c q =>
        obtain ⟨hdrop, hitem⟩ := hq.drop
        rw [hitem]
        have hl1 : Truthful t held
            ({ l1 with fifoLedCommands := l1.fifoLedCommands.drop } : Leds b) (c :: q) :=
          ⟨hdelay.known, hdelay.last, hdelay.blinking, hdelay.shown⟩
        obtain ⟨hrun, hkept⟩ := hl1.runCommand hpv now
        have hrest : l1.besidePass.2 = l.besidePass.2 := congrArg Prod.snd hbeside
        exact ⟨(congrArg Prod.snd hkept).trans hrest, q, holds_of_besidePass hkept hdrop, hrun⟩

/-- **A pass** over the queue and the blinks. -/
theorem handle (h : Truthful t held l q) (hq : l.fifoLedCommands.Holds q) (hpv : Refreshes t pv)
    (hmemory : (l.toggleLedArr b.numberRl).toggleLedFlag = false) (now : UInt32) :
    (l.ledHandleEventFunction pv now).overflowed = l.overflowed ∧
      ∃ q', (l.ledHandleEventFunction pv now).fifoLedCommands.Holds q' ∧
        Truthful t held (l.ledHandleEventFunction pv now) q' := by
  rw [ledHandleEventFunction]
  split
  · dsimp only
    obtain ⟨hsame, q', hholds, htrue⟩ := h.takeCommand hq hpv now
    generalize l.ledTakeCommand pv now = l1 at *
    have hmem : (l1.toggleLedArr b.numberRl).toggleLedFlag = false := by
      have hentry : l1.toggleLedArr b.numberRl = l.toggleLedArr b.numberRl :=
        congrArg Prod.snd hsame
      rw [hentry]
      exact hmemory
    obtain ⟨⟨hknown, hlast, hblinking, hshown⟩, hkept⟩ := htrue.toggleHandle hpv hmem now
    exact ⟨(congrArg (fun v => v.2.1) hkept).trans (congrArg Prod.fst hsame), q',
      holds_of_besidePass hkept hholds, hknown, hlast, hblinking, hshown⟩
  · exact ⟨rfl, q, hq, h⟩

end Truthful

/-! ## What the modules do to the queue -/

/-- The invariant, as long as no command was pushed into a full FIFO. -/
def Sound (t : BitVec 16) (held : Prop) (l : Leds b) : Prop :=
  l.overflowed = false → ∃ q, l.fifoLedCommands.Holds q ∧ Truthful t held l q

namespace Sound

variable {t t' : BitVec 16} {held held' : Prop} {l l' : Leds b} {pv : RefreshCallback b}

theorem mono (h : Sound t held l) (himp : held → held') : Sound t held' l := fun hroom =>
  (h hroom).imp fun _ ⟨hq, htrue⟩ => ⟨hq, htrue.mono himp⟩

theorem congr (h : Sound t held l) (hstate : ∀ i < b.numberRl, isOn t' i = isOn t i)
    (hpin : ∀ i < b.numberRl, l'.pin i = l.pin i)
    (hentry : ∀ i < b.numberRl, l'.toggleLedArr i = l.toggleLedArr i)
    (hrest : (l'.fifoLedCommands, l'.overflowed, l'.refreshed) =
      (l.fifoLedCommands, l.overflowed, l.refreshed)) : Sound t' held l' := by
  obtain ⟨hfifo, hflags⟩ := Prod.mk.inj hrest
  obtain ⟨hover, hrefreshed⟩ := Prod.mk.inj hflags
  intro hroom
  rw [hover] at hroom
  obtain ⟨q, hq, htrue⟩ := h hroom
  refine ⟨q, ?_, htrue.congr hstate hpin hentry hrefreshed⟩
  rw [hfifo]
  exact hq

theorem refresh (h : Sound t held l) (hpv : Refreshes t pv) (mask : BitVec 16) :
    Sound t held (pv mask l) := by
  have hbeside := besidePass_refresh hpv mask l
  intro hroom
  obtain ⟨q, hq, htrue⟩ := h ((congrArg (fun v => v.2.1) hbeside).symm.trans hroom)
  exact ⟨q, holds_of_besidePass hbeside hq, htrue.refresh hpv mask⟩

/-- A refresh of all LEDs ends a gesture. -/
theorem refreshAll (h : Sound t held l) (hpv : Refreshes t pv) (held' : Prop) :
    Sound t held' (pv backupMaskRl l) := by
  have hbeside := besidePass_refresh hpv backupMaskRl l
  intro hroom
  obtain ⟨q, hq, htrue⟩ := h ((congrArg (fun v => v.2.1) hbeside).symm.trans hroom)
  exact ⟨q, holds_of_besidePass hbeside hq,
    htrue.refreshAll hpv (fun i hi => isOn_backupMaskRl (b := b) ⟨i, hi⟩) held'⟩

theorem write (h : Sound t held l) (hpins : PinsOnly l l') (hheld : held') :
    Sound t held' l' := by
  intro hroom
  rw [hpins.eq] at hroom
  obtain ⟨q, hq, htrue⟩ := h hroom
  refine ⟨q, ?_, htrue.write hpins hheld⟩
  rw [hpins.eq]
  exact hq

theorem push (h : Sound t held l) {c : LedCommand} (hknown : c.Known b)
    (hset : ∀ i < b.numberRl, if c.Sets i then c.ledColor = relayColor (isOn t' i)
      else isOn t' i = isOn t i) : Sound t' held (l.ledPushLedCommandToFifo c) := by
  intro hroom
  obtain ⟨hbefore, hfull⟩ := Bool.or_eq_false_iff.mp hroom
  -- no command was lost by this push, nor before
  obtain ⟨q, hq, htrue⟩ := h hbefore
  rw [hq.isFull_eq, decide_eq_false_iff_not, Nat.not_le] at hfull
  exact ⟨q ++ [c], hq.push hfull c, htrue.push hknown hset⟩

/-- A request of another module. -/
theorem request (h : Sound t held l) {c : LedCommand} (hmode : c.ledMode ≠ .on)
    (hknown : c.Known b) : Sound t held (l.ledPushLedCommandToFifo c) := by
  refine h.push hknown fun i _ => ?_
  rw [if_neg fun hc => hmode hc.1]

/-- The LEDs are switched off, and a blink is asked for. -/
theorem offAndBlink (h : Sound t held l) {c : LedCommand} (hblinks : c.Blinks b)
    (hknown : c.Known b) : Sound t held (l.ledOffAll.ledPushLedCommandToFifo c) := by
  have hoff : Sound t True l.ledOffAll := h.write l.pinsOnly_ledOffAll trivial
  have hmode : c.ledMode ≠ .on := by
    rw [hblinks.1]
    decide
  intro hroom
  obtain ⟨hbefore, hfull⟩ := Bool.or_eq_false_iff.mp hroom
  obtain ⟨q, hq, htrue⟩ := hoff hbefore
  rw [hq.isFull_eq, decide_eq_false_iff_not, Nat.not_le] at hfull
  have hpush : Truthful t True (l.ledOffAll.ledPushLedCommandToFifo c) (q ++ [c]) :=
    htrue.push hknown fun i _ => by rw [if_neg fun hc => hmode hc.1]
  exact ⟨q ++ [c], hq.push hfull c,
    hpush.awaitBlink ⟨c, List.mem_append_right q List.mem_cons_self, hblinks⟩⟩

/-- `setup_factory_reset_with_delay` with a blink -/
theorem kickOut (h : Sound t held l) : Sound t held (l.setupFactoryResetWithDelay true) := by
  have hmeets : LedCommand.Meets b ledConfigMask := ⟨0, b.one_le, by decide⟩
  exact h.offAndBlink ⟨rfl, hmeets⟩ ⟨rfl, LedCommand.blinkEnds_of_meets hmeets (by decide)⟩

/-- A pass. -/
theorem handle (h : Sound t held l) (hpv : Refreshes t pv)
    (hmemory : (l.toggleLedArr b.numberRl).toggleLedFlag = false) (now : UInt32)
    (hroom : l.overflowed = false) : Sound t held (l.ledHandleEventFunction pv now) := by
  intro _
  obtain ⟨q, hq, htrue⟩ := h hroom
  exact (htrue.handle hq hpv hmemory now).2

end Sound

/-- After `led_init` no LED has been refreshed. -/
theorem sound_ledInit {t : BitVec 16} {held : Prop} (memory : LedBlinkInit) :
    Sound t held (ledInit b memory) := by
  refine fun _ => ⟨[], ?_, nofun, nofun, fun i hi hflag => ?_, fun i _ hrefreshed => ?_⟩
  · exact ⟨by decide, rfl, fun _ hi => absurd hi (Nat.not_lt_zero _)⟩
  · have hidle : ((ledInit b memory).toggleLedArr i).toggleLedFlag = false :=
      congrArg LedBlinkInit.toggleLedFlag (if_pos hi)
    exact absurd (hidle.symm.trans hflag) Bool.false_ne_true
  · have hnone : isOn 0#16 i = false := BitVec.getLsbD_zero
    exact absurd (hnone.symm.trans hrefreshed) Bool.false_ne_true

end Leds

end LumesSwitch
