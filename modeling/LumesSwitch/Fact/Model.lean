import LumesSwitch.Board
import LumesSwitch.Flash.FlashLog

/-!
# The counter of short power cycles (`fact.c`)

The factory test is entered by switching the device on and off. A counter in flash is
advanced one second after a boot, cleared fifteen seconds after it, and fires the test when
it has reached the end of the series.

- `Fact.factInit`, `Fact.factHandle` — a boot, and the check in the main loop;
- `PowerCycle`, `Fact.cycle` — a time with power, from the boot to the loss.
-/

namespace LumesSwitch

open Nor Runs

/-! ## Types -/

/-- `fact_reset_serials_t` -/
structure FactResetSerials where
  tmStart : UInt16
  tmStop : UInt16
  deriving DecidableEq

/-- `fact_rst_serials` -/
def factRstSerials : List FactResetSerials :=
  [⟨1, 15⟩, ⟨1, 15⟩, ⟨1, 15⟩, ⟨1, 15⟩, ⟨1, 15⟩, ⟨1, 15⟩]

/-- `RESET_CNT_INVALID`, `RESET_TRIGGER_VAL` -/
def resetCntInvalid : UInt8 := 0
def resetTriggerVal : UInt8 := UInt8.ofNat (factRstSerials.length - 1)

/-- The log of `FLASH_ADR_RESET_CNT`: the counter. -/
def resetCntLog : FlashLog where
  flashAdr := 0x3E000
  flashSize := 4000
  blockSize := 1
  block_pos := Nat.one_pos
  block_le := by decide
  block_le_size := by decide
  size_le := by decide

/-- The counter, its log, and the static `clear_st` of `fact_reset_cnt_check`. -/
structure Fact where
  resetCnt : UInt8
  clearSt : UInt8
  log : LogState

/-! ## The counter -/

namespace Fact

/-- `fact_reset_cnt_store` -/
def factResetCntStore (s : Fact) : Fact := { s with log := resetCntLog.put s.log [s.resetCnt] }

/-- `fact_reset_cnt_restore` -/
def factResetCntRestore (s : Fact) : Fact :=
  let log := resetCntLog.reindex s.log
  { s with log := log, resetCnt := (resetCntLog.restore log).getD 0 0 }

/-- `fact_clear_reset_cnt` -/
def factClearResetCnt (s : Fact) : Fact := factResetCntStore { s with resetCnt := resetCntInvalid }

/-- `fact_increase_reset_cnt` -/
def factIncreaseResetCnt (s : Fact) : Fact :=
  let s := { s with resetCnt := s.resetCnt + 1 }
  factResetCntStore
    (if s.resetCnt > resetTriggerVal then { s with resetCnt := resetCntInvalid } else s)

/-- `fact_check_match_trigger_val`, and whether it fires. -/
def factCheckMatchTriggerVal (s : Fact) : Fact × Bool :=
  if s.resetCnt = resetTriggerVal then (s.factClearResetCnt, true) else (s, false)

/-- The first part of `fact_reset_cnt_check`. There is no result where `fact_rst_serials` is
read behind its end. -/
def checkStart (s : Fact) (clock : UInt32) : Option (Fact × Bool) :=
  if s.clearSt = 2 then do
    let r ← factRstSerials[s.resetCnt.toNat]?
    if clockTimeExceed clock 0 (r.tmStart.toUInt32 * 1000) then
      let s := { s with clearSt := s.clearSt - 1 }
      let (s, fired) := s.factCheckMatchTriggerVal
      if fired then some (factClearResetCnt { s with clearSt := 0 }, true)
      else some (s.factIncreaseResetCnt, false)
    else some (s, false)
  else some (s, false)

/-- The second part of `fact_reset_cnt_check`. -/
def checkStop (s : Fact) (clock : UInt32) : Option Fact :=
  if s.clearSt = 1 then do
    let r ← factRstSerials[s.resetCnt.toNat]?
    if clockTimeExceed clock 0 (r.tmStop.toUInt32 * 1000) then
      some (factClearResetCnt { s with clearSt := 0 })
    else some s
  else some s

/-- `fact_reset_cnt_check`, and whether `fact_check_match_trigger_val` has fired. -/
def factResetCntCheck (s : Fact) (clock : UInt32) : Option (Fact × Bool) :=
  if s.clearSt = 0 then some (s, false)
  else do
    let (s, fired) ← s.checkStart clock
    let s ← s.checkStop clock
    some (s, fired)

/-- `fact_handle`, as far as it concerns the counter. -/
def factHandle (s : Fact) (clock : UInt32) : Option (Fact × Bool) := do
  let r ← factRstSerials[0]?
  if !clockTimeExceed clock 0 r.tmStart.toUInt32 then some (s, false)
  else s.factResetCntCheck clock

/-- A boot: the static variables are set, and `fact_init` restores the counter. -/
def factInit (s : Fact) : Fact :=
  let s := { s with resetCnt := 0, clearSt := 2 }.factResetCntRestore
  if s.resetCnt > resetTriggerVal then
    factResetCntStore { s with resetCnt := resetCntInvalid }
  else s

/-- The flash of a new device. -/
def firstBoot (m : Mem) (index : Nat) : Fact where
  resetCnt := 0
  clearSt := 2
  log := ⟨index, erase resetCntLog.flashAdr flashSectorSize m⟩

end Fact

/-! ## Power cycles -/

/-- A time with power, in milliseconds: how long it lasts, and when `fact_handle` is called.
A call comes after each of the two thresholds that the cycle lasts beyond, before the
32 bits of the clock are used up. -/
structure PowerCycle where
  duration : Nat
  calls : List Nat
  within : ∀ t ∈ calls, t ≤ duration
  started : 1000 < duration → ∃ t ∈ calls, 1000 < t ∧ t < 2 ^ 32
  ended : 15000 < duration → ∃ t ∈ calls, 15000 < t ∧ t < 2 ^ 32

namespace Fact

/-- The calls of a cycle, and whether one of them fires. -/
def handleAll : Fact → List Nat → Option (Fact × Bool)
  | s, [] => some (s, false)
  | s, t :: ts => do
    let (s, fired) ← s.factHandle (UInt32.ofNat t)
    let (s, rest) ← handleAll s ts
    some (s, fired || rest)

/-- A power cycle. -/
def cycle (s : Fact) (c : PowerCycle) : Option (Fact × Bool) := s.factInit.handleAll c.calls

end Fact

end LumesSwitch
