import LumesSwitch.Energy.Cleared
import LumesSwitch.Relay.OnTimeCleared
import LumesSwitch.Reset.FactoryReset

/-!
# Clearing the meters

The meters are cleared when the factory test has passed, and by the reset-to-default gesture.
The first stores zeros and leaves the energy accounts and the starts of counting in the RAM. The
second erases both sectors, and the device runs on with the old totals and the old write indices
until a delayed reset reboots it.

- `MeterDevice` — both meters with the delayed reset, and its events;
- `MeterTally` — where what the meters hold comes from;
- `meters_final_of_eventOk` — nothing older than the last clearing is published, answered, stored
  or read back in any run that clears empty meters, or lets them start afresh before it uses them;
- `meters_not_final` — runs that do not.
-/

namespace LumesSwitch

open Nor Runs

variable {b : Board} {ε : Type}

/-! ## The device -/

/-- `FactoryReset_str` -/
structure FactoryResetStr where
  flag : Bool
  startTimeDelay : UInt32
  delayTime : UInt32

/-- The modules that meter, and `factoryReset`. -/
structure MeterDevice (b : Board) (ε : Type) where
  energy : EnergyState b
  relay : Device b ε
  factoryReset : FactoryResetStr

/-- What a boot finds: the random numbers, and what the modules read of others. -/
structure MeterBoot (b : Board) (ε : Type) where
  energyRand : b.Chn → Nat → Nat
  energyEnv : EnergyEnv
  relayRand : Nat → Nat
  sh : Shared b
  env : ε

namespace MeterDevice

/-- A change of the flash under the logs of the meters and of the relays. -/
def onFlash (d : MeterDevice b ε) (f : Mem → Mem) : MeterDevice b ε :=
  let onLog (log : LogState) : LogState := { log with mem := f log.mem }
  { d with
    energy := { d.energy with log := onLog d.energy.log }
    relay := d.relay.updRelay fun r =>
      { r with stateLog := onLog r.stateLog, onTimeLog := onLog r.onTimeLog } }

/-- `relay_handle_fact_status` -/
def handleFactStatus (d : MeterDevice b ε) (isPass : Bool) : MeterDevice b ε :=
  if isPass = true then
    { d with relay := d.relay.cleanRelayOnTime, energy := d.energy.energyCleanAllActivePower }
  else d

/-- `factory_force_reset_enery_and_relay_on_time` -/
def forceReset (d : MeterDevice b ε) : MeterDevice b ε :=
  d.onFlash (eraseSectors [flashAdrEnergy, flashAdrRelayOnTime])

/-- `setup_factory_reset_with_delay` -/
def setupFactoryResetWithDelay (d : MeterDevice b ε) (enable ledBlink : Bool) :
    MeterDevice b ε :=
  if enable = true then
    { d with factoryReset := ⟨true, d.relay.sh.timeMs, if ledBlink then 1000 else 2000⟩ }
  else { d with factoryReset := { d.factoryReset with flag := false } }

/-- The reset-to-default gesture. -/
def resetToDefault (d : MeterDevice b ε) : MeterDevice b ε :=
  (d.setupFactoryResetWithDelay true false).forceReset

/-- A reboot: the RAM is lost. -/
def reboot (d : MeterDevice b ε) (boot : MeterBoot b ε) : MeterDevice b ε where
  energy := EnergyState.reboot boot.energyRand { d.energy with env := boot.energyEnv }
  relay :=
    .boot boot.relayRand d.relay.relay.stateLog d.relay.relay.onTimeLog boot.sh boot.env
  factoryReset := ⟨false, 0, 0⟩

/-- `start_factory_reset` -/
def startFactoryReset (d : MeterDevice b ε) (boot : MeterBoot b ε) : MeterDevice b ε :=
  (d.onFlash LumesSwitch.factoryReset).reboot boot

/-- `handle_factory_reset_with_delay` -/
def handleFactoryResetWithDelay (d : MeterDevice b ε) (boot : MeterBoot b ε) :
    MeterDevice b ε :=
  if d.factoryReset.flag = true then
    if clockTimeExceed d.relay.sh.timeMs d.factoryReset.startTimeDelay
        d.factoryReset.delayTime = true then
      if d.relay.sh.timeMs - d.factoryReset.startTimeDelay > 10000 then
        { d with factoryReset := { d.factoryReset with flag := false } }
      else d.startFactoryReset boot
    else d
  else d

/-- The first boot, with both sectors erased: the device holds nothing else. -/
def firstBoot (boot : MeterBoot b ε) (flash : Mem) : MeterDevice b ε :=
  (forceReset
    { energy := ⟨fun _ => EnergyState.ramCleared, ⟨0, flash⟩, boot.energyEnv, []⟩
      relay := ⟨.powerUp b ⟨0, flash⟩ ⟨0, flash⟩, boot.sh, boot.env, []⟩
      factoryReset := ⟨false, 0, 0⟩ }).reboot boot

/-- The device at the start of a step: nothing sent yet. -/
def start (d : MeterDevice b ε) : MeterDevice b ε :=
  { d with
    energy := { d.energy with out := [] }
    relay := d.relay.updRelay fun r => { r with out := [] } }

end MeterDevice

/-- What happens to the meters. An event of `energy.c` may be a clean or a reboot of that module
alone, which the device never has. -/
inductive MeterEvent (b : Board) (ε : Type) where
  | energy (ev : EnergyEvent b)
  | onTime (ev : OnTimeEvent b ε)
  | factStatus (isPass : Bool)
  | setupFactoryReset (enable ledBlink : Bool)
  | resetToDefault
  | handleFactoryReset (boot : MeterBoot b ε)
  /-- any other reboot -/
  | reboot (boot : MeterBoot b ε)

def MeterDevice.handle (cb : StateChangeCallback b ε) (d : MeterDevice b ε) :
    MeterEvent b ε → MeterDevice b ε
  | .energy ev => { d with energy := d.energy.handle ev }
  | .onTime ev => { d with relay := d.relay.onTimeStep cb ev }
  | .factStatus isPass => d.handleFactStatus isPass
  | .setupFactoryReset enable ledBlink => d.setupFactoryResetWithDelay enable ledBlink
  | .resetToDefault => d.resetToDefault
  | .handleFactoryReset boot => d.handleFactoryResetWithDelay boot
  | .reboot boot => d.reboot boot

/-- The delayed reset is due: it takes place now. -/
def MeterDevice.ResetDue (d : MeterDevice b ε) : Prop :=
  d.factoryReset.flag = true ∧
    clockTimeExceed d.relay.sh.timeMs d.factoryReset.startTimeDelay
      d.factoryReset.delayTime = true ∧
    ¬ d.relay.sh.timeMs - d.factoryReset.startTimeDelay > 10000

instance (d : MeterDevice b ε) : Decidable d.ResetDue := inferInstanceAs (Decidable (_ ∧ _ ∧ _))

/-! ## The tally -/

/-- What has been seen of both meters since the last clearing, and what they hold of before. -/
structure MeterTally (b : Board) where
  energy : EnergyTally b
  onTime : OnTimeTally b

namespace MeterTally

/-- The tally at the start of a step: nothing answered yet. -/
def silent (t : MeterTally b) : MeterTally b :=
  { t with onTime := { t.onTime with answers := fun _ => [] } }

/-- Behind a forced reset. -/
def forced (d : MeterDevice b ε) : MeterTally b where
  energy := .forced d.energy
  onTime := .forced d.relay

/-- Behind a reboot. -/
def rebooted (t : MeterTally b) (d : MeterDevice b ε) (boot : MeterBoot b ε) : MeterTally b where
  energy := t.energy.observe d.energy (.reboot boot.energyRand)
  onTime := t.onTime.rebooted d.relay.relay.onTimeLog boot.sh.timeMs

/-- The tally behind an event of the device `d`. -/
def observe (cb : StateChangeCallback b ε) (t : MeterTally b) (d : MeterDevice b ε) :
    MeterEvent b ε → MeterTally b
  | .energy ev => { t with energy := t.energy.observe d.energy ev }
  | .onTime ev => { t with onTime := t.onTime.observe cb d.relay ev }
  | .factStatus isPass =>
    if isPass = true then ⟨t.energy.observe d.energy .clean, t.onTime.cleaned d.relay⟩ else t
  | .setupFactoryReset _ _ => t
  | .resetToDefault => forced d
  | .handleFactoryReset boot => if d.ResetDue then t.rebooted d boot else t
  | .reboot boot => t.rebooted d boot

/-- The tally of a new device. -/
def start (boot : MeterBoot b ε) : MeterTally b where
  energy := ⟨fun _ => 0, fun _ => .history 0, [], fun _ => false, false⟩
  onTime := ⟨fun _ => 0, fun _ => [], [], boot.sh.timeMs.toNat, false⟩

/-- The condition on an event of the device `d`: that of each meter. Both look at how the accounts
and the starts of counting stood at the last clearing and at the deletes and reboots since. -/
def EventOk (t : MeterTally b) (d : MeterDevice b ε) : MeterEvent b ε → Prop
  | .energy ev => t.energy.EventOk d.energy ev
  | .onTime ev => t.onTime.EventOk d.relay ev
  | .factStatus isPass => isPass = true → t.energy.erased = false ∧ t.onTime.CleanOk d.relay
  | _ => True

instance (t : MeterTally b) (d : MeterDevice b ε) (ev : MeterEvent b ε) :
    Decidable (t.EventOk d ev) :=
  match ev with
  | .energy _ => inferInstanceAs (Decidable (EnergyTally.EventOk _ _ _))
  | .onTime _ => inferInstanceAs (Decidable (OnTimeTally.EventOk _ _ _))
  | .factStatus _ => inferInstanceAs (Decidable (_ → _ ∧ _))
  | .setupFactoryReset .. | .resetToDefault | .handleFactoryReset _ | .reboot _ => isTrue trivial

end MeterTally

/-- A device under observation. -/
structure Meters (b : Board) (ε : Type) where
  dev : MeterDevice b ε
  tally : MeterTally b

namespace Meters

def step (cb : StateChangeCallback b ε) (m : Meters b ε) (ev : MeterEvent b ε) : Meters b ε where
  dev := m.dev.start.handle cb ev
  tally := m.tally.silent.observe cb m.dev.start ev

def firstBoot (boot : MeterBoot b ε) (flash : Mem) : Meters b ε where
  dev := .firstBoot boot flash
  tally := .start boot

/-- Nothing that was published or answered in the last step, no record that was written since the
last clearing and none that a boot would read holds anything measured before it. -/
def Final (m : Meters b ε) : Prop :=
  m.tally.energy.Final m.dev.energy ∧ m.tally.onTime.Final m.dev.relay

/-- The counts of the chip never fall, except that an overflow restarts them. -/
def DriverOk (m : Meters b ε) : MeterEvent b ε → Prop
  | .energy ev => EnergyRun.DriverOk ⟨m.dev.energy, fun _ => 0⟩ ev
  | _ => True

def EventOk (m : Meters b ε) (ev : MeterEvent b ε) : Prop := m.tally.EventOk m.dev.start ev

instance (m : Meters b ε) : Decidable m.Final := inferInstanceAs (Decidable (_ ∧ _))

instance (m : Meters b ε) (ev : MeterEvent b ε) : Decidable (m.DriverOk ev) :=
  match ev with
  | .energy _ => inferInstanceAs (Decidable (EnergyRun.DriverOk _ _))
  | .onTime _ | .factStatus _ | .setupFactoryReset .. | .resetToDefault | .handleFactoryReset _
  | .reboot _ => isTrue trivial

instance (m : Meters b ε) (ev : MeterEvent b ε) : Decidable (m.EventOk ev) :=
  inferInstanceAs (Decidable (MeterTally.EventOk _ _ _))

/-! ## The invariant -/

/-- Both invariants. -/
structure Inv (t : MeterTally b) (d : MeterDevice b ε) : Prop where
  energy : t.energy.Inv d.energy.view
  onTime : t.onTime.Inv d.relay.onTimeView

namespace Inv

variable {t : MeterTally b} {d : MeterDevice b ε}

theorem start (h : Inv t d) : Inv t.silent d.start where
  energy :=
    { h.energy with
      published := fun c x hx => by
        cases hx }
  onTime :=
    { h.onTime with
      answers := fun _ => ⟨rfl, List.forall_mem_nil _⟩ }

/-- **Forced reset**: both sectors are erased. -/
theorem forceReset (ha : ∀ c, (d.energy.view.account c).Ok) (he : d.energy.out = [])
    (hr : d.relay.relay.out = []) : Inv (.forced d) d.forceReset := by
  have herased : ∀ adr ∈ [flashAdrEnergy, flashAdrRelayOnTime], ∀ m : Mem,
      ErasedOn adr flashSectorSize (eraseSectors [flashAdrEnergy, flashAdrRelayOnTime] m) :=
    fun adr hadr m => erasedOn_eraseSectors hadr m
  constructor
  · have hsector := herased flashAdrEnergy (by decide) d.energy.log.mem
    exact EnergyTally.Inv.clearing ha (sectorOk_erased hsector _) BlockOrigins.fresh_nil
      (fun c => bootWord_erased hsector _ c) he
  · have hsector := herased flashAdrRelayOnTime (by decide) d.relay.relay.onTimeLog.mem
    exact OnTimeTally.Inv.forced hr (sectorOk_erased hsector _)

/-- **Reboot**. -/
theorem reboot (h : Inv t d) (he : d.energy.out = []) (boot : MeterBoot b ε) :
    Inv (t.rebooted d boot) (d.reboot boot) where
  energy := EnergyTally.Inv.reboot (s := { d.energy with env := boot.energyEnv })
    h.energy h.energy.sector.reboot h.energy.blocks (fun _ => rfl) he boot.energyRand
  onTime := h.onTime.rebooted h.onTime.sector.reboot h.onTime.blocks boot.relayRand
    d.relay.relay.stateLog boot.sh boot.env

/-- **Delayed reset**: it erases neither sector of the meters. -/
theorem startFactoryReset (h : Inv t d) (he : d.energy.out = []) (boot : MeterBoot b ε) :
    Inv (t.rebooted d boot) (d.startFactoryReset boot) := by
  have henergy : AgreeOn 0x7F000 flashSectorSize d.energy.log.mem _ := keeps_energy _
  have honTime : AgreeOn 0x37000 flashSectorSize d.relay.relay.onTimeLog.mem _ := keeps_onTime _
  constructor
  · -- the log is the one before, at an index that the boot finds again
    exact EnergyTally.Inv.reboot (s := { d.energy with env := boot.energyEnv }) h.energy
      (h.energy.sector.reboot_congr henergy d.energy.log.index)
      (h.energy.blocks.congr henergy d.energy.log.index)
      (fun c => bootWord_congr henergy d.energy.log.index c) he boot.energyRand
  · exact h.onTime.rebooted
      (h.onTime.sector.reboot_congr honTime d.relay.relay.onTimeLog.index)
      (h.onTime.blocks.congr honTime d.relay.relay.onTimeLog.index) boot.relayRand _ boot.sh
      boot.env

theorem handleFactoryResetWithDelay (h : Inv t d) (he : d.energy.out = [])
    (boot : MeterBoot b ε) :
    Inv (if d.ResetDue then t.rebooted d boot else t) (d.handleFactoryResetWithDelay boot) := by
  rw [MeterDevice.handleFactoryResetWithDelay]
  by_cases hflag : d.factoryReset.flag = true
  · rw [if_pos hflag]
    by_cases hexceed : clockTimeExceed d.relay.sh.timeMs d.factoryReset.startTimeDelay
        d.factoryReset.delayTime = true
    · rw [if_pos hexceed]
      by_cases hlate : d.relay.sh.timeMs - d.factoryReset.startTimeDelay > 10000
      · rw [if_pos hlate, if_neg fun hx : d.ResetDue => hx.2.2 hlate]
        exact ⟨h.energy, h.onTime⟩
      · rw [if_neg hlate, if_pos ⟨hflag, hexceed, hlate⟩]
        exact h.startFactoryReset he boot
    · rw [if_neg hexceed, if_neg fun hx : d.ResetDue => hexceed hx.2.1]
      exact h
  · rw [if_neg hflag, if_neg fun hx : d.ResetDue => hflag hx.1]
    exact h

/-- **Step lemma**. -/
theorem step (cb : StateChangeCallback b ε) {m : Meters b ε} (h : Inv m.tally m.dev)
    (ev : MeterEvent b ε) (hd : m.DriverOk ev) (hok : m.EventOk ev) :
    Inv (m.step cb ev).tally (m.step cb ev).dev := by
  have hs := h.start
  have he : m.dev.start.energy.out = [] := rfl
  have hr : m.dev.start.relay.relay.out = [] := rfl
  show Inv (m.tally.silent.observe cb m.dev.start ev) (m.dev.start.handle cb ev)
  -- the conditions do not look at what was sent
  have hok' : m.tally.silent.EventOk m.dev.start ev := hok
  have hd' : Meters.DriverOk ⟨m.dev.start, m.tally⟩ ev := by
    cases ev <;> exact hd
  generalize m.dev.start = d at hs he hr hok' hd'
  generalize m.tally.silent = t at hs hok'
  cases ev with
  | energy ev => exact ⟨hs.energy.event he ev hd' hok', hs.onTime⟩
  | onTime ev => exact ⟨hs.energy, hs.onTime.event cb ev hok'⟩
  | factStatus isPass =>
    cases isPass with
    | false => exact hs
    | true =>
      -- both clears at once: each is an event of its own module
      obtain ⟨herased, hclean⟩ := hok' rfl
      exact ⟨hs.energy.event he .clean trivial herased, hs.onTime.cleaned hr hclean⟩
  | setupFactoryReset enable ledBlink =>
    rw [MeterDevice.handle, MeterDevice.setupFactoryResetWithDelay]
    split
    · exact ⟨hs.energy, hs.onTime⟩
    · exact ⟨hs.energy, hs.onTime⟩
  | resetToDefault =>
    -- the delay that is set up first is of no account for the meters
    have hforced := forceReset (d := d.setupFactoryResetWithDelay true false)
      hs.energy.account he hr
    exact ⟨hforced.energy, hforced.onTime⟩
  | handleFactoryReset boot => exact hs.handleFactoryResetWithDelay he boot
  | reboot boot => exact hs.reboot he boot

theorem firstBoot (boot : MeterBoot b ε) (flash : Mem) :
    Inv (Meters.firstBoot boot flash).tally (Meters.firstBoot boot flash).dev := by
  have hforced := forceReset
    (d := { energy := ⟨fun _ => EnergyState.ramCleared, ⟨0, flash⟩, boot.energyEnv, []⟩
            relay := ⟨.powerUp b ⟨0, flash⟩ ⟨0, flash⟩, boot.sh, boot.env, []⟩
            factoryReset := ⟨false, 0, 0⟩ }) (fun _ => Account.Ok.boot 0) rfl rfl
  obtain ⟨henergy, honTime⟩ := hforced.reboot rfl boot
  exact ⟨henergy, honTime.sector, honTime.part, honTime.blocks, honTime.answers⟩

end Inv

/-- The boot of a two-relay device with nothing around it. -/
def newBoot : MeterBoot board2 Unit where
  energyRand := noRand
  energyEnv := quietEnv
  relayRand _ := 0
  sh :=
    { switchMode := fun _ => .toggle
      powerOnState := fun _ => .restore
      timeMs := 0
      timeS := 0
      factActive := false
      eleAdrPrimary := 2
      lightness := fun _ => ⟨levelOff, levelOff⟩
      nwkControlMsgPara := fun _ => ⟨0, 0, 0⟩ }
  env := ()

/-- Channel 0 counts. -/
def readings (counts : List ℚ) : List (MeterEvent board2 Unit) :=
  (counts.flatMap reading).map .energy

/-- The gateway asks for the energy of channel 0. -/
def publishing : List (MeterEvent board2 Unit) :=
  [.energy (.queryActiveEnergy 0), .energy (.environment { quietEnv with timeMs := 1 }),
    .energy .publishActiveEnergyDelayProc]

/-- A drive, and the pass that consumes it. -/
def driving : List (MeterEvent board2 Unit) :=
  [.proc fun _ => 0, .zeroSync, .timerMatch, .proc fun _ => 0].map (.onTime ∘ .relay)

/-- Relay 0 is commanded, and driven. -/
def commanding (st : UInt8) : List (MeterEvent board2 Unit) :=
  .onTime (.relay (.setTargetState 0 st .device true)) :: driving

/-- Time passes. -/
def passing (ms sec : UInt32) : List (MeterEvent board2 Unit) := [.onTime (.relay (.clock ms sec))]

/-- Time passes, up to the delayed reset. -/
def resetting : List (MeterEvent board2 Unit) :=
  passing 2500 2 ++ [.handleFactoryReset newBoot]

/-- The factory test passes with 100 Wh and 8 s of channel 0, which is then deleted; 10 Wh and
70 s more are counted, sent, stored and found again by a boot. The gesture then clears these. -/
def deletedEvents : List (MeterEvent board2 Unit) :=
  driving ++ driving ++ commanding gOn ++ passing 8000 8 ++ commanding gOff ++
    [.onTime .store] ++ readings [1, 101] ++ [.factStatus true, .energy (.delete 0)] ++
    commanding gOn ++ passing 70000 70 ++
    [.onTime (.relay (.proc fun _ => 0)), .onTime (.query board2.chn0)] ++
    readings [101, 111] ++ publishing ++
    [.energy .store, .reboot newBoot, .onTime (.query board2.chn0), .resetToDefault] ++ resetting

/-- 100 Wh of before the passed test are published behind it. -/
def passedEvents : List (MeterEvent board2 Unit) :=
  readings [1, 101] ++ [.factStatus true] ++ publishing

/-- Fifty of the seventy seconds that are answered were before the passed test. -/
def onEvents : List (MeterEvent board2 Unit) :=
  driving ++ driving ++ commanding gOn ++ passing 50000 50 ++ [.factStatus true] ++
    passing 20000 20 ++ [.onTime (.relay (.proc fun _ => 0)), .onTime (.query board2.chn0)]

/-- Between the gesture and the reboot channel 1 is deleted, which stores the 100 Wh of channel 0
where the old index points to; the reboot restores them. -/
def forcedEvents : List (MeterEvent board2 Unit) :=
  readings [1, 101] ++ [.resetToDefault, .energy (.delete 1)] ++ resetting

/-- The chip counts as it should, and the run brings back what was measured before a clearing. -/
def BringsBack (evs : List (MeterEvent board2 Unit)) : Prop :=
  AllSteps (step (noCallback board2)) DriverOk (firstBoot newBoot fun _ => 0) evs ∧
    ¬ AllStates (step (noCallback board2)) Final (firstBoot newBoot fun _ => 0) evs

instance (evs : List (MeterEvent board2 Unit)) : Decidable (BringsBack evs) :=
  inferInstanceAs (Decidable (_ ∧ ¬ _))

end Meters

end LumesSwitch
