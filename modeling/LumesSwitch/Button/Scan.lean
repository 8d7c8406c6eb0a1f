import LumesSwitch.Lib.Run
import LumesSwitch.Board

/-!
# The button scanner (`periph_button.c`)

A scan of a button compares the level remembered from the last scan with the
pin. The pin is read again for every condition, again by the debounce loop, and
once more at the end for the level to remember; every read may find another
level.

- `OptButton.scan` — the scan of one button, with its reads in `PinSamples`;
- `Scanner.optionButtonScan` — the scan of all buttons;
- `Scanner.optionButtonScan_view` — for each button it is the scan of that button.
-/

namespace LumesSwitch

open Runs

/-! ## One button -/

/-- `OPTION_BUTTON_PRESS`, `OPTION_BUTTON_RELEASE` -/
inductive PinLevel where
  | press
  | release
  deriving DecidableEq, Repr

/-- `opt_button_params_t` -/
structure OptButtonParams where
  pressLastT : UInt32
  pressCnt : UInt8
  pressManyTimeF : Bool
  startHoldT : UInt32
  prevState : PinLevel
  holdStep : UInt8
  pollCnt : UInt8
  deriving DecidableEq

/-- The parameters of a button, and its entry of `opt_button_scan_timer`. -/
structure OptButton where
  params : OptButtonParams
  scanTimer : UInt32
  deriving DecidableEq

/-- What the reads of a button's pin find in one scan: the first and the second read
of the conditions, the first read of `check_option_button_press` and those of its
loop, and the read of the level to remember. -/
structure PinSamples where
  first : PinLevel
  second : PinLevel
  check : PinLevel
  bounce : Fin 4 → PinLevel
  last : PinLevel

/-- `check_option_button_press` -/
def PinSamples.checkOptionButtonPress (x : PinSamples) : Bool :=
  x.check = .press ∧ ∀ i, x.bounce i = .press

namespace OptButtonParams

/-- `option_button_press` -/
def optionButtonPress (p : OptButtonParams) (now : UInt32) : OptButtonParams :=
  { p with
    pressCnt := if now - p.pressLastT < 700 then p.pressCnt + 1 else 1
    pressLastT := now
    pressManyTimeF := true }

/-- The event for a number of presses. -/
def pressEvent (cnt : UInt8) : Option ButtonState :=
  if cnt = 1 then some .pressOneTime
  else if cnt = 2 then some .pressTwoTime
  else if cnt = 3 then some .pressThreeTime
  else if cnt = 4 then some .pressFourTime
  else if cnt = 5 then some .pressFiveTime
  else if cnt = 6 then some .pressSixTime
  else if cnt = 8 then some .pressEightTime
  else if cnt = 10 then some .pressTenTime
  else if cnt = 12 then some .pressTwelveTime
  else none

/-- `option_button_press_times` -/
def optionButtonPressTimes (p : OptButtonParams) (now : UInt32) :
    OptButtonParams × List ButtonState :=
  if p.pressManyTimeF ∧ now - p.pressLastT > 700 then
    ({ p with pressManyTimeF := false },
      if now - p.pressLastT > 900 then [] else (pressEvent p.pressCnt).toList)
  else (p, [])

/-- The time limit and the event of a hold step. -/
def holdEvent (step : UInt8) : Option (UInt32 × ButtonState) :=
  if step = 1 then some (50, .hold50MS)
  else if step = 2 then some (500, .hold500MS)
  else if step = 3 then some (800, .hold2S)
  else if step = 4 then some (5000, .hold5S)
  else if step = 5 then some (10000, .hold10S)
  else if step = 6 then some (15000, .hold15S)
  else none

/-- A hold scan up to its `switch`: the start of a hold, and the error step of one
that lasts too long. -/
def holdStart (p : OptButtonParams) (now : UInt32) : OptButtonParams :=
  let p := { p with pollCnt := p.pollCnt + 1 }
  let p := if p.holdStep = 0xFF then { p with startHoldT := now, holdStep := 0 } else p
  if now - p.startHoldT > 20000 then { p with holdStep := 0xFE } else p

/-- The branch of `option_button_scan` for a button held. -/
def hold (p : OptButtonParams) (now : UInt32) : OptButtonParams × List ButtonState :=
  let p := p.holdStart now
  if p.holdStep = 0 then (if p.pollCnt ≥ 10 then { p with holdStep := 1 } else p, [])
  else
    match holdEvent p.holdStep with
    | none => (p, [])
    | some (limit, evt) =>
      if now - p.startHoldT > limit then ({ p with holdStep := p.holdStep + 1 }, [evt])
      else (p, [])

/-- The branch for a button at rest. -/
def rest (p : OptButtonParams) (now : UInt32) : OptButtonParams × List ButtonState :=
  let (q, evts) := p.optionButtonPressTimes now
  ({ q with holdStep := 0xFF },
    evts ++ [if q.holdStep < 0xFF then .release else .noPress])

/-- The conditions of `option_button_scan`, and their branches. -/
def branch (p : OptButtonParams) (x : PinSamples) (now : UInt32) :
    OptButtonParams × List ButtonState :=
  match p.prevState, x.first, x.second with
  | .release, .press, _ =>
    if x.checkOptionButtonPress then
      ({ p.optionButtonPress now with pollCnt := 0 }, [.startPress])
    else (p, [])
  | .press, .press, _ => p.hold now
  | .press, .release, .release => ({ p with holdStep := 0xFF }, [.release])
  | .release, .release, .release => p.rest now
  | .press, .release, .press | .release, .release, .press => (p, [])

end OptButtonParams

namespace OptButton

/-- The scan interval of the button has passed. -/
def due (s : OptButton) (now : UInt32) : Bool :=
  now - s.scanTimer ≥ if s.params.prevState = .press then 10 else 50

/-- The body of the loop of `option_button_scan`. -/
def scan (s : OptButton) (x : PinSamples) (now : UInt32) : OptButton × List ButtonState :=
  if s.due now then
    let (p, evts) := s.params.branch x now
    (⟨{ p with prevState := x.last }, now⟩, evts)
  else (s, [])

/-- `option_button_init`, for one button. -/
def init : OptButton := ⟨⟨0, 0, false, 0, .release, 0, 0⟩, 0⟩

end OptButton

/-! ## All buttons -/

/-- The buttons, and the calls of the state callback in order. -/
structure Scanner (b : Board) where
  btn : b.Btn → OptButton
  out : List (b.Btn × ButtonState)

/-- A scan: its time, and what its reads find. -/
structure ScanInput (b : Board) where
  now : UInt32
  pins : b.Btn → PinSamples

namespace Scanner

variable {b : Board}

/-- `option_button_init` -/
def optionButtonInit (b : Board) : Scanner b := ⟨fun _ => .init, []⟩

/-- The scan of button `i`. -/
def scanButton (x : ScanInput b) (s : Scanner b) (i : b.Btn) : Scanner b :=
  let r := (s.btn i).scan (x.pins i) x.now
  ⟨Function.update s.btn i r.1, s.out ++ r.2.map fun e => (i, e)⟩

/-- `option_button_scan` -/
def optionButtonScan (s : Scanner b) (x : ScanInput b) : Scanner b :=
  runFrom (scanButton x) s (List.finRange b.numberButton)

/-- The events of button `i`. -/
def eventsOf (s : Scanner b) (i : b.Btn) : List ButtonState :=
  s.out.filterMap fun e => if e.1 = i then some e.2 else none

theorem eventsOf_append (btn : b.Btn → OptButton) (out : List (b.Btn × ButtonState))
    (i j : b.Btn) (evts : List ButtonState) :
    eventsOf ⟨btn, out ++ evts.map fun e => (j, e)⟩ i =
      eventsOf ⟨btn, out⟩ i ++ if j = i then evts else [] := by
  unfold eventsOf
  rw [List.filterMap_append, List.filterMap_map]
  by_cases h : j = i
  · simp [h]
  · simp [h]

/-- A scan of all buttons is, for each of them, its own scan. -/
theorem optionButtonScan_view (s : Scanner b) (x : ScanInput b) (i : b.Btn) :
    ((s.optionButtonScan x).btn i, (s.optionButtonScan x).eventsOf i) =
      (((s.btn i).scan (x.pins i) x.now).1,
        s.eventsOf i ++ ((s.btn i).scan (x.pins i) x.now).2) := by
  refine runFrom_view (fun s : Scanner b => (s.btn i, s.eventsOf i))
    (g := fun v => ((v.1.scan (x.pins i) x.now).1, v.2 ++ (v.1.scan (x.pins i) x.now).2))
    (fun s j hj => ?_) (fun s => ?_) (List.nodup_finRange _) (List.mem_finRange i) s
  · rw [scanButton]
    dsimp only
    rw [eventsOf_append, if_neg hj, List.append_nil, Function.update_of_ne (Ne.symm hj)]
    rfl
  · rw [scanButton]
    dsimp only
    rw [eventsOf_append, if_pos rfl, Function.update_self]
    rfl

end Scanner

end LumesSwitch
