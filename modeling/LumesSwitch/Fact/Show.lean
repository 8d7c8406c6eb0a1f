import Mathlib.Data.List.Count
import LumesSwitch.Fact.RfTest
import LumesSwitch.Led.Model

/-!
# The factory mode shows its result (`fact.c`, `switch.c`)

The activation switches the relays off, and two seconds later `switch.c` lights the LEDs pink.
Seventy-five seconds after the activation the relays are switched on and off, four times if the
radio test and the meter have passed and once if they have not, and then the LEDs blink until the
device leaves the mode. The radio test of `fact_handle.c` reports at its own time, behind
`fact_handle` in the main loop.

- `FactShow.factHandle`, `FactShow.factShowLedResult`, `FactDisplay` — the functions;
- `FactLoop` — the main loop with both, and what it has commanded;
- `FactLoop.Inv` — how far the relays have come;
- `FactLoop.shows_verdict` — what is shown in every run, and that it is what was tested.
-/

namespace LumesSwitch

open Runs

variable {b : Board}

/-- `FACT_ACT_TIMEOUT_MS_DEFAULT`, `FACT_SHOW_RESULT_ST_TIME`, `FACT_TOGGLE_INTERVAL` -/
def factActTimeoutMsDefault : UInt32 := timer5Min
def factShowResultStTime : UInt32 := 90000 - 15000
def factToggleInterval : UInt32 := 500

/-- `fact_mode_par_t`, less the timeout, which is not read. -/
structure FactModePar where
  activeFlag : Bool
  activeShowResultFlag : Bool
  rfIsPass : Bool
  energyIsPass : Bool
  activeStTm : UInt32

/-- `result_par_t`, less the result, which is not used, and the static counter of
`fact_show_led_result`. -/
structure ResultPar where
  totalCnt : UInt8
  state : Bool
  toggleStTime : UInt32
  ledSt : Bool
  cntShow : UInt8

/-- What leaves the modules: `relay_set_target_state` for a relay, which is
`pvFact_handleControlRelay` too, `pvFact_handleTestStatus`, `pvFact_handleExitfactMode`,
`led_refresh`, `led_push_led_command_to_fifo` of `fact.c` and of `switch.c`, `led_scene_on`. -/
inductive ShowOut (b : Board) where
  | controlRelay (c : b.Chn) (on : Bool)
  | testStatus (pass : Bool)
  | exitFactMode
  | ledRefresh (mask : BitVec 16)
  | led (cmd : LedCommand)
  | ledDisplay (cmd : LedCommand)
  | ledSceneOn (idx : Nat)

/-- `i2c_is_pass`, `calib_is_pass`, which are set at boot. -/
structure CalibFlags where
  i2cIsPass : Bool
  calibIsPass : Bool

/-- `fact_mode_par`, `result_par` -/
structure FactShow where
  mode : FactModePar
  result : ResultPar

/-- `display_in_fact_mode_flag`, `dp_start_time_ms` (`switch.c`) -/
structure FactDisplay where
  flag : Bool
  startTimeMs : UInt32

/-- The same command for each relay. -/
def controlRelays (b : Board) (on : Bool) : List (ShowOut b) :=
  b.chns.map fun c => .controlRelay c on

namespace FactDisplay

/-- `Switch_handleFactConfirmOrActivate` for `FACT_ACTIVATE` -/
def handleFactActivate (b : Board) (clock : UInt32) : FactDisplay × List (ShowOut b) :=
  (⟨true, clock⟩, controlRelays b false)

/-- What `Switch_displayLedInFactMode` pushes. -/
def ledInFactMode : LedCommand :=
  { commandLedDefault with ledMask := backupMaskRl, ledMode := .on, ledColor := .pink }

/-- `Switch_displayLedInFactMode`, in `sw_loop_100ms_interval` -/
def displayLedInFactMode (b : Board) (d : FactDisplay) (clock : UInt32) :
    FactDisplay × List (ShowOut b) :=
  if d.flag then
    if clockTimeExceed clock d.startTimeMs 2000 then
      ({ d with flag := false }, [.ledDisplay ledInFactMode])
    else (d, [])
  else (d, [])

end FactDisplay

namespace FactShow

/-- `fact_init`, whatever the other variables hold. -/
def factInit (r : ResultPar) : FactShow :=
  ⟨⟨false, false, false, false, 0⟩, { r with ledSt := false }⟩

/-- `fact_handle_confirm_sucess`: `pvFact_handleFactEvent` is
`Switch_handleFactConfirmOrActivate`, which reads the clock at `clock'`. -/
def factHandleConfirmSucess (b : Board) (s : FactShow) (clock clock' : UInt32) :
    FactShow × FactDisplay × List (ShowOut b) :=
  ({ s with mode := { s.mode with activeFlag := true, activeStTm := clock } },
    FactDisplay.handleFactActivate b clock')

/-- `fact_handle_result`; `FACT_SUCCESS` is the value of `FACT_PASS`. -/
def factHandleResult (s : FactShow) (pass : Bool) : FactShow :=
  { s with mode := { s.mode with rfIsPass := pass } }

/-- `fact_set_energy_status`, which `energy.c` calls in the mode for a voltage in range. -/
def factSetEnergyStatus (s : FactShow) : FactShow :=
  if s.mode.activeFlag then { s with mode := { s.mode with energyIsPass := true } } else s

/-- `fact_calculator_result` -/
def factCalculatorResult (b : Board) (s : FactShow) (clock : UInt32) :
    FactShow × List (ShowOut b) :=
  let toggleCnt : UInt8 := if s.mode.rfIsPass && s.mode.energyIsPass then 4 else 1
  ({ s with
      result := { s.result with totalCnt := toggleCnt, toggleStTime := clock, state := true } },
    controlRelays b true)

/-- The LED command for a result. -/
def ledOfResult (rfIsPass energyIsPass : Bool) : LedCommand :=
  let cmd := { commandLedDefault with ledMask := backupMaskRl }
  match rfIsPass, energyIsPass with
  | true, true => { cmd with ledMode := .on, ledColor := .pink }
  | true, false => { cmd with ledMode := .on, ledColor := .red }
  | false, true => { cmd with ledMode := .on, ledColor := .blue }
  | false, false =>
    { cmd with
      ledColor := .red, ledMode := .blink, blinkInterval := 150, lastState := .colorNone }

/-- `fact_show_led_result`; the scene LEDs are not switched off again. -/
def factShowLedResult (b : Board) (flags : CalibFlags) (s : FactShow) :
    FactShow × List (ShowOut b) :=
  if s.result.cntShow ≥ 3 then
    let ledSt := !s.result.ledSt
    let ledCmd :=
      if ledSt then ledOfResult s.mode.rfIsPass s.mode.energyIsPass
      else { commandLedDefault with ledMask := backupMaskRl, ledMode := .off }
    ({ s with result := { s.result with ledSt, cntShow := 0 } },
      (if flags.i2cIsPass then [] else [.ledSceneOn 0]) ++
        (if flags.calibIsPass then [] else [.ledSceneOn 1]) ++ [.led ledCmd])
  else ({ s with result := { s.result with cntShow := s.result.cntShow + 1 } }, [])

/-- One step of the show. -/
def toggle (b : Board) (flags : CalibFlags) (s : FactShow) : FactShow × List (ShowOut b) :=
  if s.result.totalCnt ≠ 0 then
    let result :=
      if s.result.state then
        { s.result with state := false, totalCnt := s.result.totalCnt - 1 }
      else { s.result with state := true }
    ({ s with result }, controlRelays b result.state)
  else s.factShowLedResult b flags

/-- `fact_handle`, behind the counting of the resets, which is over in the mode. -/
def factHandle (b : Board) (flags : CalibFlags) (s : FactShow) (clock : UInt32) :
    FactShow × List (ShowOut b) :=
  if clockTimeExceed clock 0 1 ∧ s.mode.activeFlag then
    if !s.mode.activeShowResultFlag then
      if clockTimeExceed clock s.mode.activeStTm factShowResultStTime then
        let s := { s with mode := { s.mode with activeShowResultFlag := true } }
        let (s, outs) := s.factCalculatorResult b clock
        (s, outs ++ [.testStatus s.mode.rfIsPass])
      else (s, [])
    else if clockTimeExceed clock s.mode.activeStTm factActTimeoutMsDefault then
      ({ s with mode := { s.mode with activeFlag := false } },
        [.exitFactMode, .ledRefresh 0xFFFF#16])
    else if clockTimeExceed clock s.result.toggleStTime factToggleInterval then
      let (s, outs) := s.toggle b flags
      ({ s with result := { s.result with toggleStTime := clock } }, outs)
    else (s, [])
  else (s, [])

end FactShow

/-! ## The main loop -/

/-- The two sides at the time when the show begins, the results of the radio test, and whether a
voltage has been in range. -/
structure Verdict where
  rfIsPass : Bool
  energyIsPass : Bool
  results : List RfResult
  voltageOk : Bool

/-- The modules, and since the activation: what has been commanded, in order, whether a voltage
has been in range, and the verdict. -/
structure FactLoop (b : Board) where
  factShow : FactShow
  display : FactDisplay
  rf : RfWatch
  log : List (ShowOut b)
  voltageOk : Bool
  verdict : Option Verdict

/-- What happens: an answer, a voltage in range, a pass of the main loop, or
`sw_loop_100ms_interval`. -/
inductive FactEvent where
  | answer (dst : UInt16) (par : Nat → UInt8)
  | voltage
  | loop100Ms (clock : UInt32)
  | main (clock clock' : UInt32) (rand : Nat)

/-- A pass of 100 ms, more than 2 s behind the activation at `start`. -/
def FactEvent.late (start : UInt32) : FactEvent → Bool
  | .loop100Ms clock => clockTimeExceed clock start 2000
  | _ => false

/-- How often the relays are switched on. -/
def Verdict.count (v : Verdict) : Nat := if v.rfIsPass && v.energyIsPass then 4 else 1

namespace FactLoop

open FactShow RfWatch

/-- `fact_handle` in the main loop. -/
def handle (flags : CalibFlags) (w : FactLoop b) (clock : UInt32) : FactLoop b :=
  let (factShow, outs) := w.factShow.factHandle b flags clock
  { w with
    factShow
    log := w.log ++ outs
    verdict :=
      if factShow.mode.activeShowResultFlag && !w.factShow.mode.activeShowResultFlag then
        some ⟨w.factShow.mode.rfIsPass, w.factShow.mode.energyIsPass, w.rf.results, w.voltageOk⟩
      else w.verdict }

/-- `fact_main_function` in the main loop, and its result. -/
def mainFunction (env : RfEnv) (w : FactLoop b) (clock : UInt32) (rand : Nat) : FactLoop b :=
  { w with
    rf := w.rf.step env (.main clock rand)
    factShow :=
      match resultIn (w.rf.test.factMainFunction clock rand).2 with
      | some pass => w.factShow.factHandleResult pass
      | none => w.factShow }

/-- `Switch_displayLedInFactMode` in the pass of 100 ms. -/
def loop100Ms (w : FactLoop b) (clock : UInt32) : FactLoop b :=
  let (display, outs) := w.display.displayLedInFactMode b clock
  { w with display, log := w.log ++ outs }

def step (env : RfEnv) (flags : CalibFlags) (w : FactLoop b) : FactEvent → FactLoop b
  | .answer dst par => { w with rf := w.rf.step env (.answer dst par) }
  | .voltage => { w with factShow := w.factShow.factSetEnergyStatus, voltageOk := true }
  | .loop100Ms clock => w.loop100Ms clock
  | .main clock clock' rand => (w.handle flags clock).mainFunction env clock' rand

/-- The activation, after a boot and some events. The clock is read by `fact_set`, by
`fact_handle_confirm_sucess` and by its callback. -/
def activate (b : Board) (env : RfEnv) (r : ResultPar) (pre : List RfEvent)
    (clock clock' clock'' : UInt32) : FactLoop b :=
  let (factShow, display, outs) := (factInit r).factHandleConfirmSucess b clock' clock''
  ⟨factShow, display, RfWatch.activate (runFrom (idleStep env) RfTest.boot pre) clock, outs, false,
    none⟩

/-! ## What has been shown -/

/-- The command for a relay in an output. -/
def commandOf (c : b.Chn) : ShowOut b → Option Bool
  | .controlRelay d on => if d = c then some on else none
  | _ => none

def statusOf : ShowOut b → Option Bool
  | .testStatus pass => some pass
  | _ => none

/-- A command of the show for the LEDs. -/
def ledOf : ShowOut b → Option LedCommand
  | .led cmd => some cmd
  | _ => none

def displayOf : ShowOut b → Option LedCommand
  | .ledDisplay cmd => some cmd
  | _ => none

/-- The commands for a relay, in order. -/
def commands (c : b.Chn) (log : List (ShowOut b)) : List Bool := log.filterMap (commandOf c)

def statuses (log : List (ShowOut b)) : List Bool := log.filterMap statusOf

def ledCommands (log : List (ShowOut b)) : List LedCommand := log.filterMap ledOf

def displays (log : List (ShowOut b)) : List LedCommand := log.filterMap displayOf

/-- There is nothing but commands of `switch.c` for the LEDs. -/
def DisplaysOnly (outs : List (ShowOut b)) : Prop := ∀ o ∈ outs, ∃ cmd, o = .ledDisplay cmd

/-- On and off, `n` times. -/
def pulses : Nat → List Bool
  | 0 => []
  | n + 1 => true :: false :: pulses n

/-- The commands that the relays are still to get. -/
def ahead (r : ResultPar) : List Bool :=
  if r.state then false :: pulses (r.totalCnt.toNat - 1) else pulses r.totalCnt.toNat

theorem commands_append (c : b.Chn) (log outs : List (ShowOut b)) :
    commands c (log ++ outs) = commands c log ++ commands c outs := List.filterMap_append

theorem statuses_append (log outs : List (ShowOut b)) :
    statuses (log ++ outs) = statuses log ++ statuses outs := List.filterMap_append

theorem ledCommands_append (log outs : List (ShowOut b)) :
    ledCommands (log ++ outs) = ledCommands log ++ ledCommands outs := List.filterMap_append

theorem displays_append (log outs : List (ShowOut b)) :
    displays (log ++ outs) = displays log ++ displays outs := List.filterMap_append

/-- Each relay gets a command for all of them once. -/
theorem commands_controlRelays (c : b.Chn) (on : Bool) :
    commands c (controlRelays b on) = [on] := by
  have hall : ∀ chns : List b.Chn,
      commands c (chns.map fun d => .controlRelay d on) = List.replicate (chns.count c) on := by
    intro chns
    induction chns with
    | nil => rfl
    | cons d chns ih =>
      rw [List.map_cons, commands, List.count_cons]
      by_cases hd : d = c
      · have hsome : commandOf c (.controlRelay d on) = some on := if_pos hd
        rw [List.filterMap_cons_some hsome, if_pos (beq_iff_eq.mpr hd), List.replicate_succ]
        exact congrArg (on :: ·) ih
      · have hnone : commandOf c (.controlRelay d on) = none := if_neg hd
        rw [List.filterMap_cons_none hnone, if_neg (fun heq => hd (beq_iff_eq.mp heq))]
        exact ih
  rw [controlRelays, hall, List.count_eq_one_of_mem b.nodup_chns (b.mem_chns c)]
  rfl

theorem statuses_controlRelays (on : Bool) : statuses (controlRelays b on) = [] :=
  List.filterMap_eq_nil_iff.mpr fun o ho => by
    obtain ⟨c, -, rfl⟩ := List.mem_map.mp ho
    rfl

theorem ledCommands_controlRelays (on : Bool) : ledCommands (controlRelays b on) = [] :=
  List.filterMap_eq_nil_iff.mpr fun o ho => by
    obtain ⟨c, -, rfl⟩ := List.mem_map.mp ho
    rfl

theorem displays_controlRelays (on : Bool) : displays (controlRelays b on) = [] :=
  List.filterMap_eq_nil_iff.mpr fun o ho => by
    obtain ⟨c, -, rfl⟩ := List.mem_map.mp ho
    rfl

theorem exitFactMode_not_mem_controlRelays (on : Bool) :
    .exitFactMode ∉ controlRelays b on := by
  intro hmem
  obtain ⟨c, -, hc⟩ := List.mem_map.mp hmem
  exact nomatch hc

theorem DisplaysOnly.filterMap {α : Type} {f : ShowOut b → Option α} {outs : List (ShowOut b)}
    (h : DisplaysOnly outs) (hf : ∀ cmd, f (.ledDisplay cmd) = none) : outs.filterMap f = [] := by
  refine List.filterMap_eq_nil_iff.mpr fun o ho => ?_
  obtain ⟨cmd, rfl⟩ := h o ho
  exact hf cmd

/-- What `switch.c` displays switches no relay, and reports nothing. -/
theorem DisplaysOnly.outs {outs : List (ShowOut b)} (h : DisplaysOnly outs) :
    (∀ c, commands c outs = []) ∧ statuses outs = [] ∧ ledCommands outs = [] ∧
      .exitFactMode ∉ outs := by
  refine ⟨fun c => h.filterMap fun _ => rfl, h.filterMap fun _ => rfl, h.filterMap fun _ => rfl,
    fun hmem => ?_⟩
  obtain ⟨cmd, heq⟩ := h _ hmem
  exact nomatch heq

theorem DisplaysOnly.append {outs outs' : List (ShowOut b)} (h : DisplaysOnly outs)
    (h' : DisplaysOnly outs') : DisplaysOnly (outs ++ outs') :=
  fun o ho => (List.mem_append.mp ho).elim (h o) (h' o)

theorem displaysOnly_displayLedInFactMode (d : FactDisplay) (clock : UInt32) :
    DisplaysOnly (d.displayLedInFactMode b clock).2 := by
  rw [FactDisplay.displayLedInFactMode]
  split
  · split
    · intro o ho
      exact ⟨_, List.mem_singleton.mp ho⟩
    · exact fun o ho => nomatch ho
  · exact fun o ho => nomatch ho

/-- How far the show has come. -/
structure Shown (s : FactShow) (log : List (ShowOut b)) (v : Verdict) : Prop where
  relays : ∀ c : b.Chn, commands c log ++ ahead s.result = false :: pulses v.count
  on : s.result.state = true → s.result.totalCnt ≠ 0
  status : statuses log = [v.rfIsPass]
  leds : ledCommands log ≠ [] → s.result.totalCnt = 0
  active : s.mode.activeFlag = true → .exitFactMode ∉ log
  left : s.mode.activeFlag = false →
    ∃ before after, log = before ++ [.exitFactMode, .ledRefresh 0xFFFF#16] ++ after ∧
      .exitFactMode ∉ before ∧ DisplaysOnly after

/-- Before the show, the relays are off, and `switch.c` may have lit the LEDs. -/
def Quiet (log : List (ShowOut b)) : Prop :=
  ∃ outs, log = controlRelays b false ++ outs ∧ DisplaysOnly outs

/-- The show has not begun, or it has come so far; and the radio side of the mode is that of the
results. -/
structure Inv (w : FactLoop b) : Prop where
  rfInv : RfWatch.Inv w.rf
  resultsOk : ResultsOk w.rf
  phase : ∃ start m, AtMode start w.rf m
  rf : w.factShow.mode.rfIsPass = w.rf.results.any (·.pass)
  testing : w.verdict = none →
    w.factShow.mode.activeFlag = true ∧ w.factShow.mode.activeShowResultFlag = false ∧
      Quiet w.log ∧ w.factShow.mode.energyIsPass = w.voltageOk
  showing : ∀ v ∈ w.verdict, w.factShow.mode.activeShowResultFlag = true ∧
    Shown w.factShow w.log v ∧ v.results <:+ w.rf.results ∧
      v.rfIsPass = v.results.any (·.pass) ∧ v.energyIsPass = v.voltageOk

/-! ## The steps of the show -/

variable {s : FactShow} {log : List (ShowOut b)} {v : Verdict}

theorem Quiet.append (h : Quiet log) {outs : List (ShowOut b)} (houts : DisplaysOnly outs) :
    Quiet (log ++ outs) := by
  obtain ⟨before, rfl, hbefore⟩ := h
  exact ⟨before ++ outs, List.append_assoc .., hbefore.append houts⟩

theorem Quiet.outs (h : Quiet log) : (∀ c, commands c log = [false]) ∧ statuses log = [] ∧
    ledCommands log = [] ∧ .exitFactMode ∉ log := by
  obtain ⟨outs, rfl, houts⟩ := h
  obtain ⟨hcommands, hstatuses, hleds, hexit⟩ := houts.outs
  refine ⟨fun c => ?_, ?_, ?_, fun hmem => ?_⟩
  · rw [commands_append, commands_controlRelays, hcommands c]
    rfl
  · rw [statuses_append, statuses_controlRelays, hstatuses]
    rfl
  · rw [ledCommands_append, ledCommands_controlRelays, hleds]
    rfl
  · rcases List.mem_append.mp hmem with hmem | hmem
    · exact exitFactMode_not_mem_controlRelays false hmem
    · exact hexit hmem

/-- **The show begins**: the relays are switched on. -/
theorem Shown.begin (hquiet : Quiet log) (s : FactShow) (hactive : s.mode.activeFlag = true)
    (clock : UInt32)
    (hv : v.rfIsPass = s.mode.rfIsPass ∧ v.energyIsPass = s.mode.energyIsPass) :
    Shown (s.factCalculatorResult b clock).1
      (log ++ ((s.factCalculatorResult b clock).2 ++ [.testStatus s.mode.rfIsPass])) v := by
  obtain ⟨hcommands, hstatuses, hleds, hexit⟩ := hquiet.outs
  constructor
  case relays =>
    intro c
    rw [commands_append, hcommands c, commands_append, factCalculatorResult,
      commands_controlRelays, Verdict.count, hv.1, hv.2]
    dsimp only [ahead]
    by_cases hpass : (s.mode.rfIsPass && s.mode.energyIsPass) = true
    · rw [if_pos hpass, if_pos hpass]
      rfl
    · rw [if_neg hpass, if_neg hpass]
      rfl
  case on =>
    intro _
    rw [factCalculatorResult]
    dsimp only
    split <;> decide
  case status =>
    rw [statuses_append, hstatuses, statuses_append, factCalculatorResult,
      statuses_controlRelays, hv.1]
    rfl
  case leds =>
    intro hne
    rw [ledCommands_append, hleds, ledCommands_append, factCalculatorResult,
      ledCommands_controlRelays] at hne
    exact absurd rfl hne
  case active =>
    intro _ hmem
    rcases List.mem_append.mp hmem with hmem | hmem
    · exact hexit hmem
    · rcases List.mem_append.mp hmem with hmem | hmem
      · exact exitFactMode_not_mem_controlRelays true hmem
      · exact nomatch List.mem_singleton.mp hmem
  case left => exact fun hfalse => nomatch hactive.symm.trans hfalse

/-- What is commanded in the mode comes off what is ahead, and leaves the rest alone. -/
theorem Shown.append (h : Shown s log v) (hactive : s.mode.activeFlag = true) {r : ResultPar}
    {outs : List (ShowOut b)} (hrelays : ∀ c : b.Chn, commands c outs ++ ahead r = ahead s.result)
    (hon : r.state = true → r.totalCnt ≠ 0) (hstatus : statuses outs = [])
    (hleds : ledCommands outs ≠ [] ∨ s.result.totalCnt = 0 → r.totalCnt = 0)
    (hexit : .exitFactMode ∉ outs) : Shown { s with result := r } (log ++ outs) v where
  relays c := by
    rw [commands_append, List.append_assoc, hrelays c]
    exact h.relays c
  on := hon
  status := by
    rw [statuses_append, hstatus, List.append_nil]
    exact h.status
  leds hne := by
    by_cases hnew : ledCommands outs = []
    · rw [ledCommands_append, hnew, List.append_nil] at hne
      exact hleds (.inr (h.leds hne))
    · exact hleds (.inl hnew)
  active _ hmem := by
    rcases List.mem_append.mp hmem with hmem | hmem
    · exact h.active hactive hmem
    · exact hexit hmem
  left hfalse := nomatch hactive.symm.trans hfalse

/-- The LEDs get no relay switched, and nothing reported. -/
theorem factShowLedResult_outs (flags : CalibFlags) (s : FactShow) :
    ∀ o ∈ (s.factShowLedResult b flags).2, (∃ idx, o = .ledSceneOn idx) ∨ ∃ cmd, o = .led cmd := by
  rw [factShowLedResult]
  split
  · intro o ho
    rcases List.mem_append.mp ho with ho | ho
    · rcases List.mem_append.mp ho with ho | ho
      · split at ho
        · exact nomatch ho
        · exact .inl ⟨0, List.mem_singleton.mp ho⟩
      · split at ho
        · exact nomatch ho
        · exact .inl ⟨1, List.mem_singleton.mp ho⟩
    · exact .inr ⟨_, List.mem_singleton.mp ho⟩
  · exact fun o ho => nomatch ho

theorem factShowLedResult_frame (flags : CalibFlags) (s : FactShow) :
    ∃ ledSt cntShow, (s.factShowLedResult b flags).1 =
      { s with result := { s.result with ledSt, cntShow } } := by
  rw [factShowLedResult]
  split
  · exact ⟨_, _, rfl⟩
  · exact ⟨_, _, rfl⟩

/-- **One step of the show.** -/
theorem Shown.toggle (h : Shown s log v) (hactive : s.mode.activeFlag = true)
    (flags : CalibFlags) (clock : UInt32) :
    Shown
      { (s.toggle b flags).1 with
        result := { (s.toggle b flags).1.result with toggleStTime := clock } }
      (log ++ (s.toggle b flags).2) v := by
  rw [FactShow.toggle]
  by_cases hcnt : s.result.totalCnt ≠ 0
  · rw [if_pos hcnt]
    have hpos : (1 : UInt8).toNat ≤ s.result.totalCnt.toNat :=
      Nat.one_le_iff_ne_zero.mpr fun heq => hcnt (UInt8.toNat_inj.mp heq)
    have hahead : ∀ (r : ResultPar) (on : Bool), [on] ++ ahead r = ahead s.result →
        (r.state = true → r.totalCnt ≠ 0) →
        Shown { s with result := r } (log ++ controlRelays b on) v := by
      intro r on hrelays hon
      refine h.append hactive (fun c => ?_) hon (statuses_controlRelays on) (fun hor => ?_)
        (exitFactMode_not_mem_controlRelays on)
      · rw [commands_controlRelays]
        exact hrelays
      · rcases hor with hne | hzero
        · exact absurd (ledCommands_controlRelays on) hne
        · exact absurd hzero hcnt
    cases hstate : s.result.state with
    | true =>
      refine hahead _ false ?_ (fun hon => nomatch hon)
      rw [ahead, ahead, hstate, if_pos rfl]
      dsimp only
      rw [if_neg Bool.false_ne_true, UInt8.toNat_sub_of_le _ _ (UInt8.le_iff_toNat_le.mpr hpos)]
      rfl
    | false =>
      refine hahead _ true ?_ (fun _ => hcnt)
      rw [ahead, ahead, hstate, if_neg Bool.false_ne_true]
      obtain ⟨n, hn⟩ := Nat.exists_eq_add_of_le' hpos
      dsimp only
      rw [if_pos rfl, hn]
      rfl
  · rw [if_neg hcnt]
    have hzero : s.result.totalCnt = 0 := not_not.mp hcnt
    have houts := factShowLedResult_outs (b := b) flags s
    obtain ⟨ledSt, cntShow, hframe⟩ := factShowLedResult_frame (b := b) flags s
    rw [hframe]
    refine h.append hactive (fun c => ?_) h.on ?_ (fun _ => hzero) (fun hmem => ?_)
    · have hnil : commands c (s.factShowLedResult b flags).2 = [] :=
        List.filterMap_eq_nil_iff.mpr fun o ho => by
          rcases houts o ho with ⟨idx, rfl⟩ | ⟨cmd, rfl⟩ <;> rfl
      rw [hnil]
      rfl
    · exact List.filterMap_eq_nil_iff.mpr fun o ho => by
        rcases houts o ho with ⟨idx, rfl⟩ | ⟨cmd, rfl⟩ <;> rfl
    · rcases houts _ hmem with ⟨idx, heq⟩ | ⟨cmd, heq⟩ <;> exact nomatch heq

/-- **The mode is left.** -/
theorem Shown.leave (h : Shown s log v) (hactive : s.mode.activeFlag = true) :
    Shown { s with mode := { s.mode with activeFlag := false } }
      (log ++ [.exitFactMode, .ledRefresh 0xFFFF#16]) v where
  relays c := by
    rw [commands_append]
    exact (congrArg (· ++ _) (List.append_nil _)).trans (h.relays c)
  on := h.on
  status := by
    rw [statuses_append]
    exact (List.append_nil _).trans h.status
  leds hne := by
    rw [ledCommands_append] at hne
    exact h.leds fun hnil => hne (congrArg (· ++ []) hnil)
  active hfalse := nomatch hfalse
  left _ := ⟨log, [], (List.append_nil _).symm, h.active hactive, fun o ho => nomatch ho⟩

/-- **`switch.c` lights the LEDs**, at whatever time. -/
theorem Shown.display (h : Shown s log v) {outs : List (ShowOut b)} (houts : DisplaysOnly outs) :
    Shown s (log ++ outs) v := by
  obtain ⟨hcommands, hstatuses, hleds, hexit⟩ := houts.outs
  constructor
  case relays =>
    intro c
    rw [commands_append, hcommands c, List.append_nil]
    exact h.relays c
  case on => exact h.on
  case status =>
    rw [statuses_append, hstatuses, List.append_nil]
    exact h.status
  case leds =>
    intro hne
    rw [ledCommands_append, hleds, List.append_nil] at hne
    exact h.leds hne
  case active =>
    intro hactive hmem
    exact (List.mem_append.mp hmem).elim (h.active hactive) hexit
  case left =>
    intro hfalse
    obtain ⟨before, after, rfl, hbefore, hafter⟩ := h.left hfalse
    exact ⟨before, after ++ outs, List.append_assoc .., hbefore, hafter.append houts⟩

/-! ## The main loop keeps it -/

variable {w : FactLoop b} {env : RfEnv} {flags : CalibFlags}

/-- A pass that does not begin the show. -/
theorem handle_of_kept {s' : FactShow} {outs : List (ShowOut b)} {clock : UInt32}
    (h : w.factShow.factHandle b flags clock = (s', outs))
    (hflag : s'.mode.activeShowResultFlag = w.factShow.mode.activeShowResultFlag) :
    w.handle flags clock = { w with factShow := s', log := w.log ++ outs } := by
  rw [FactLoop.handle, h]
  dsimp only
  rw [hflag, Bool.and_not_self, if_neg Bool.false_ne_true]

/-- A pass in which nothing is commanded. -/
theorem handle_of_idle {clock : UInt32}
    (h : w.factShow.factHandle b flags clock = (w.factShow, [])) : w.handle flags clock = w := by
  rw [handle_of_kept h rfl, List.append_nil]

/-- A pass of the show that is going on. -/
theorem Inv.goesOn {s s' : FactShow} {d : FactDisplay} {rf : RfWatch}
    {log log' : List (ShowOut b)} {voltageOk : Bool} {v : Verdict}
    (h : Inv ⟨s, d, rf, log, voltageOk, some v⟩) (hshown : Shown s' log' v)
    (hshow : s'.mode.activeShowResultFlag = true) (hrf : s'.mode.rfIsPass = s.mode.rfIsPass) :
    Inv ⟨s', d, rf, log', voltageOk, some v⟩ where
  rfInv := h.rfInv
  resultsOk := h.resultsOk
  phase := h.phase
  rf := hrf.trans h.rf
  testing hfalse := nomatch hfalse
  showing u hu := by
    obtain rfl := Option.mem_some.mp hu
    exact ⟨hshow, hshown, (h.showing v rfl).2.2⟩

theorem toggle_mode (flags : CalibFlags) (s : FactShow) : (s.toggle b flags).1.mode = s.mode := by
  rw [FactShow.toggle]
  split
  · rfl
  · obtain ⟨ledSt, cntShow, hframe⟩ := factShowLedResult_frame (b := b) flags s
    rw [hframe]

/-- **`fact_handle`** begins the show with what has been tested, and goes on with it. -/
theorem Inv.handle (h : Inv w) (clock : UInt32) : Inv (w.handle flags clock) := by
  obtain ⟨s, d, rf, log, voltageOk, verdict⟩ := w
  by_cases hon : clockTimeExceed clock 0 1 ∧ s.mode.activeFlag
  · have hactive : s.mode.activeFlag = true := hon.2
    cases verdict with
    | none =>
      obtain ⟨-, hshow, hquiet, henergy⟩ := h.testing rfl
      have hshow' : s.mode.activeShowResultFlag = false := hshow
      by_cases htime : clockTimeExceed clock s.mode.activeStTm factShowResultStTime = true
      · rw [FactLoop.handle, factHandle, if_pos hon, hshow', if_pos (by decide), if_pos htime]
        exact {
          rfInv := h.rfInv
          resultsOk := h.resultsOk
          phase := h.phase
          rf := h.rf
          testing := fun hfalse => nomatch hfalse
          showing := fun v hv => by
            obtain rfl := Option.mem_some.mp hv
            have hbegin := Shown.begin hquiet
              { s with mode := { s.mode with activeShowResultFlag := true } } hactive clock
              (v := ⟨s.mode.rfIsPass, s.mode.energyIsPass, rf.results, voltageOk⟩) ⟨rfl, rfl⟩
            exact ⟨rfl, hbegin, List.suffix_rfl, h.rf, henergy⟩ }
      · rw [handle_of_idle]
        · exact h
        · rw [factHandle, if_pos hon, hshow', if_pos (by decide), if_neg htime]
    | some v =>
      obtain ⟨hshow, hshown, -⟩ := h.showing v rfl
      have hshow' : s.mode.activeShowResultFlag = true := hshow
      by_cases htime : clockTimeExceed clock s.mode.activeStTm factActTimeoutMsDefault = true
      · have hleave : s.factHandle b flags clock =
            ({ s with mode := { s.mode with activeFlag := false } },
              [.exitFactMode, .ledRefresh 0xFFFF#16]) := by
          rw [factHandle, if_pos hon, hshow', if_neg (by decide), if_pos htime]
        rw [handle_of_kept (w := ⟨s, d, rf, log, voltageOk, some v⟩) hleave rfl]
        exact h.goesOn (hshown.leave hactive) hshow' rfl
      · by_cases hstep : clockTimeExceed clock s.result.toggleStTime factToggleInterval = true
        · have hmode := toggle_mode (b := b) flags s
          have hflag := congrArg FactModePar.activeShowResultFlag hmode
          have htoggle : s.factHandle b flags clock =
              ({ (s.toggle b flags).1 with
                result := { (s.toggle b flags).1.result with toggleStTime := clock } },
                (s.toggle b flags).2) := by
            rw [factHandle, if_pos hon, hshow', if_neg (by decide), if_neg htime, if_pos hstep]
          rw [handle_of_kept (w := ⟨s, d, rf, log, voltageOk, some v⟩) htoggle hflag]
          exact h.goesOn (hshown.toggle hactive flags clock) (hflag.trans hshow')
            (congrArg FactModePar.rfIsPass hmode)
        · rw [handle_of_idle]
          · exact h
          · rw [factHandle, if_pos hon, hshow', if_neg (by decide), if_neg htime, if_neg hstep]
  · rw [handle_of_idle]
    · exact h
    · rw [factHandle, if_neg hon]

/-- The radio side goes on, and the mode with what it reports. -/
theorem Inv.withRf {rf : RfWatch} (h : Inv w) (pass : Bool) (hinv : RfWatch.Inv rf)
    (hresults : ResultsOk rf) (hphase : ∃ start m, AtMode start rf m)
    (hpass : pass = rf.results.any (·.pass)) (hsuffix : w.rf.results <:+ rf.results) :
    Inv { w with rf, factShow := w.factShow.factHandleResult pass } where
  rfInv := hinv
  resultsOk := hresults
  phase := hphase
  rf := hpass
  testing hnone := h.testing hnone
  showing v hv := by
    obtain ⟨hshow, hshown, hold, hverdict⟩ := h.showing v hv
    exact ⟨hshow,
      ⟨hshown.relays, hshown.on, hshown.status, hshown.leds, hshown.active, hshown.left⟩,
      hold.trans hsuffix, hverdict⟩

/-- **`fact_main_function`** reports at most once. -/
theorem Inv.mainFunction (h : Inv w) (clock : UInt32) (rand : Nat) :
    Inv (w.mainFunction env clock rand) := by
  obtain ⟨start, m, hphase⟩ := h.phase
  have hphase' : AtMode start (w.rf.step env (.main clock rand)) _ := hphase.main clock rand
  have hinv : RfWatch.Inv (w.rf.step env (.main clock rand)) := h.rfInv.main clock rand
  have hresults : ResultsOk (w.rf.step env (.main clock rand)) :=
    h.resultsOk.main h.rfInv clock rand
  have hlog : (w.rf.step env (.main clock rand)).results =
      ((resultIn (w.rf.test.factMainFunction clock rand).2).map fun pass =>
        (⟨pass, w.rf.answered.length⟩ : RfResult)).toList ++ w.rf.results := rfl
  rw [FactLoop.mainFunction]
  cases hresult : resultIn (w.rf.test.factMainFunction clock rand).2 with
  | some pass =>
    rw [hresult] at hlog
    have hnil : w.rf.results = [] := by
      have hlen := hphase'.results
      rw [hlog] at hlen
      cases hold : w.rf.results with
      | nil => rfl
      | cons q qs =>
        rw [hold] at hlen
        split at hlen
        · exact nomatch hlen
        · exact nomatch hlen
    refine h.withRf pass hinv hresults ⟨_, _, hphase'⟩ ?_ (hlog ▸ List.suffix_append ..)
    rw [hlog, hnil]
    exact (Bool.or_false pass).symm
  | none =>
    rw [hresult] at hlog
    exact h.withRf w.factShow.mode.rfIsPass hinv hresults ⟨_, _, hphase'⟩
      (hlog ▸ h.rf) (hlog ▸ List.suffix_rfl)

/-- **`Switch_displayLedInFactMode`** leaves `fact.c` alone. -/
theorem Inv.loop100Ms (h : Inv w) (clock : UInt32) : Inv (w.loop100Ms clock) := by
  have houts := displaysOnly_displayLedInFactMode (b := b) w.display clock
  exact {
    rfInv := h.rfInv
    resultsOk := h.resultsOk
    phase := h.phase
    rf := h.rf
    testing := fun hnone => by
      obtain ⟨hactive, hshow, hquiet, henergy⟩ := h.testing hnone
      exact ⟨hactive, hshow, hquiet.append houts, henergy⟩
    showing := fun v hv => by
      obtain ⟨hshow, hshown, hrest⟩ := h.showing v hv
      exact ⟨hshow, hshown.display houts, hrest⟩ }

theorem Inv.step (h : Inv w) (ev : FactEvent) : Inv (w.step env flags ev) := by
  cases ev with
  | answer dst par =>
    obtain ⟨start, m, hphase⟩ := h.phase
    exact h.withRf w.factShow.mode.rfIsPass (h.rfInv.answer dst par)
      (h.resultsOk.answer dst par) ⟨start, m, hphase.answer dst par⟩ h.rf List.suffix_rfl
  | voltage =>
    rw [FactLoop.step, factSetEnergyStatus]
    exact {
      rfInv := h.rfInv
      resultsOk := h.resultsOk
      phase := h.phase
      rf := by
        dsimp only
        split
        · exact h.rf
        · exact h.rf
      testing := fun hnone => by
        obtain ⟨hactive, hshow, hlog, -⟩ := h.testing hnone
        rw [if_pos hactive]
        exact ⟨hactive, hshow, hlog, rfl⟩
      showing := fun v hv => by
        obtain ⟨hshow, hshown, hrest⟩ := h.showing v hv
        dsimp only
        split
        · exact ⟨hshow,
            ⟨hshown.relays, hshown.on, hshown.status, hshown.leds, hshown.active, hshown.left⟩,
            hrest⟩
        · exact ⟨hshow, hshown, hrest⟩ }
  | loop100Ms clock => exact h.loop100Ms clock
  | main clock clock' rand => exact (h.handle clock).mainFunction clock' rand

/-! ## What `switch.c` displays -/

/-- `fact.c` displays nothing so. -/
theorem displays_factHandle (flags : CalibFlags) (s : FactShow) (clock : UInt32) :
    displays (s.factHandle b flags clock).2 = [] := by
  have htoggle : displays (s.toggle b flags).2 = [] := by
    rw [FactShow.toggle]
    split
    · exact displays_controlRelays _
    · refine List.filterMap_eq_nil_iff.mpr fun o ho => ?_
      rcases factShowLedResult_outs flags s o ho with ⟨idx, rfl⟩ | ⟨cmd, rfl⟩
      · rfl
      · rfl
  unfold factHandle
  dsimp only
  split
  · split
    · split
      · rw [displays_append, factCalculatorResult, displays_controlRelays]
        rfl
      · rfl
    · split
      · rfl
      · split
        · exact htoggle
        · rfl
  · rfl

/-- What one pass of 100 ms does to the LEDs of the activation. -/
theorem displays_displayLedInFactMode (d : FactDisplay) (clock : UInt32) :
    displays (d.displayLedInFactMode b clock).2 =
        (if d.flag && clockTimeExceed clock d.startTimeMs 2000 then [FactDisplay.ledInFactMode]
          else []) ∧
      (d.displayLedInFactMode b clock).1 =
        { d with flag := d.flag && !clockTimeExceed clock d.startTimeMs 2000 } := by
  obtain ⟨flag, startTimeMs⟩ := d
  rw [FactDisplay.displayLedInFactMode]
  dsimp only
  cases flag with
  | false => exact ⟨rfl, rfl⟩
  | true =>
    cases clockTimeExceed clock startTimeMs 2000 with
    | false => exact ⟨rfl, rfl⟩
    | true => exact ⟨rfl, rfl⟩

theorem displays_step (env : RfEnv) (flags : CalibFlags) (w : FactLoop b) (ev : FactEvent) :
    displays (w.step env flags ev).log = displays w.log ++
        (if w.display.flag && ev.late w.display.startTimeMs then [FactDisplay.ledInFactMode]
          else []) ∧
      (w.step env flags ev).display =
        { w.display with flag := w.display.flag && !ev.late w.display.startTimeMs } := by
  -- an event of `fact.c` leaves the display alone
  have hother : ∀ {log : List (ShowOut b)} {d : FactDisplay}, ev.late w.display.startTimeMs = false →
      displays log = displays w.log → d = w.display →
      displays log = displays w.log ++
          (if w.display.flag && ev.late w.display.startTimeMs then [FactDisplay.ledInFactMode]
            else []) ∧
        d = { w.display with flag := w.display.flag && !ev.late w.display.startTimeMs } := by
    intro log d hlate hlog hd
    rw [hlate, Bool.and_false, if_neg Bool.false_ne_true, List.append_nil, Bool.not_false,
      Bool.and_true]
    exact ⟨hlog, hd⟩
  cases ev with
  | answer dst par => exact hother rfl rfl rfl
  | voltage => exact hother rfl rfl rfl
  | main clock clock' rand =>
    refine hother rfl ?_ rfl
    show displays (w.log ++ (w.factShow.factHandle b flags clock).2) = displays w.log
    rw [displays_append, displays_factHandle, List.append_nil]
  | loop100Ms clock =>
    obtain ⟨hlit, hdisplay⟩ := displays_displayLedInFactMode (b := b) w.display clock
    refine ⟨?_, hdisplay⟩
    show displays (w.log ++ (w.display.displayLedInFactMode b clock).2) = _
    rw [displays_append, hlit]
    rfl

/-- **The LEDs are lit once**, if a pass of 100 ms comes late enough. -/
theorem displays_run (env : RfEnv) (flags : CalibFlags) (w : FactLoop b)
    (evs : List FactEvent) :
    displays (runFrom (step env flags) w evs).log = displays w.log ++
      if w.display.flag && evs.any (·.late w.display.startTimeMs) then
        [FactDisplay.ledInFactMode] else [] := by
  induction evs generalizing w with
  | nil => rw [List.any_nil, Bool.and_false, if_neg Bool.false_ne_true, List.append_nil, runFrom_nil]
  | cons ev evs ih =>
    obtain ⟨hlog, hdisplay⟩ := w.displays_step env flags ev
    rw [runFrom_cons, ih, hlog, hdisplay, List.any_cons, List.append_assoc]
    dsimp only
    congr 1
    cases w.display.flag with
    | false => rfl
    | true =>
      cases ev.late w.display.startTimeMs with
      | true => rfl
      | false => rfl

/-- A life of the device: a boot, some events, the activation, and a run of the main loop. -/
def life (b : Board) (env : RfEnv) (flags : CalibFlags) (r : ResultPar) (pre : List RfEvent)
    (clock clock' clock'' : UInt32) (post : List FactEvent) : FactLoop b :=
  runFrom (step env flags) (activate b env r pre clock clock' clock'') post

theorem inv_life (env : RfEnv) (flags : CalibFlags) (r : ResultPar) (pre : List RfEvent)
    (clock clock' clock'' : UInt32) (post : List FactEvent) :
    Inv (life b env flags r pre clock clock' clock'' post) := by
  have hbefore : Before (runFrom (idleStep env) RfTest.boot pre) :=
    invariant_runFrom (fun _ ev h => h.step ev) before_boot pre
  refine invariant_runFrom (fun w ev h => h.step ev) ?_ post
  exact {
    rfInv := hbefore.inv clock
    resultsOk := fun q hq => nomatch hq
    phase := ⟨clock, .running, rfl, rfl, rfl, rfl, rfl, rfl⟩
    rf := rfl
    testing := fun _ =>
      ⟨rfl, rfl, ⟨[], (List.append_nil _).symm, fun o ho => nomatch ho⟩, rfl⟩
    showing := fun v hv => nomatch hv }

/-- **What is shown**, for answers, voltages and clocks of any kind in any order. The activation
switches the relays off, and `switch.c` lights the LEDs once, with the first pass of 100 ms that
comes late enough. Until the verdict that is all, and the verdict is reported once. Each relay is
then switched on and off four times if two numbers have been answered before the result of the
radio test, that result was there before the verdict, and a voltage has been in range; if not,
once. The LEDs of the show begin when the relays are through, and the mode is left once, with no
command of `fact.c` behind it. -/
theorem shows_verdict (env : RfEnv) (flags : CalibFlags) (r : ResultPar) (pre : List RfEvent)
    (clock clock' clock'' : UInt32) (post : List FactEvent) (c : b.Chn) :
    let w := life b env flags r pre clock clock' clock'' post
    displays w.log =
      (if post.any (·.late clock'') then [FactDisplay.ledInFactMode] else []) ∧
    (w.verdict = none → ∃ outs, w.log = controlRelays b false ++ outs ∧ DisplaysOnly outs) ∧
    ∀ v ∈ w.verdict,
      statuses w.log = [v.rfIsPass] ∧
      (v.rfIsPass = true ↔ ∃ q ∈ v.results, 2 ≤ q.answers) ∧ v.energyIsPass = v.voltageOk ∧
      commands c w.log <+: false :: pulses v.count ∧
      (ledCommands w.log ≠ [] → commands c w.log = false :: pulses v.count) ∧
      (.exitFactMode ∈ w.log → ∃ before after,
        w.log = before ++ [.exitFactMode, .ledRefresh 0xFFFF#16] ++ after ∧
          .exitFactMode ∉ before ∧ DisplaysOnly after) := by
  have h := inv_life (b := b) env flags r pre clock clock' clock'' post
  refine ⟨?_, fun hnone => (h.testing hnone).2.2.1, fun v hv => ?_⟩
  · have hrun := (activate b env r pre clock clock' clock'').displays_run env flags post
    have hstart : displays (activate b env r pre clock clock' clock'').log = [] :=
      displays_controlRelays false
    rw [hstart, List.nil_append] at hrun
    exact hrun
  · obtain ⟨-, hshown, hsuffix, hrf, henergy⟩ := h.showing v hv
    refine ⟨hshown.status, ?_, henergy, ⟨_, hshown.relays c⟩, fun hled => ?_, fun hexit => ?_⟩
    · rw [hrf, List.any_eq_true]
      have hiff : ∀ q ∈ v.results, q.pass = true ↔ 2 ≤ q.answers := by
        intro q hq
        rw [(h.resultsOk q (hsuffix.subset hq)).1, decide_eq_true_iff]
      exact exists_congr fun q => and_congr_right fun hq => hiff q hq
    · have hzero := hshown.leds hled
      have hrelays := hshown.relays c
      rw [ahead, hzero, if_neg (fun hon => hshown.on hon hzero)] at hrelays
      exact (List.append_nil _).symm.trans hrelays
    · refine hshown.left (Bool.eq_false_iff.mpr fun hactive => ?_)
      exact hshown.active hactive hexit

/-- A radio test without an answer: the relay is switched off, and then on and off once. -/
example :
    let env : RfEnv := ⟨2, fun _ => 0⟩
    let w := life board1 env ⟨true, true⟩ ⟨0, false, 0, false, 0⟩ [] 1000 1000 1000
      [.voltage, .loop100Ms 3001, .main 76001 76001 0, .main 76502 76502 0, .main 77003 77003 0]
    w.verdict.map Verdict.count = some 1 ∧ commands board1.chn0 w.log = [false, true, false] := by
  decide

end FactLoop

end LumesSwitch
