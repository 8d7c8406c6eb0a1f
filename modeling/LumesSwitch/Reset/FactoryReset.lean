import LumesSwitch.Binding.Store
import LumesSwitch.Config.Survival
import LumesSwitch.Energy.Model
import LumesSwitch.Flash.Sectors
import LumesSwitch.Scene.Table
import LumesSwitch.Schedule.PowerCycle

/-!
# A factory reset (`factory_reset.c`, `bl0906.c`)

A factory reset erases two areas of the flash, less the sector of the relay on-times, and six
sectors of settings. The meter keeps a copy of its calibration factors in the first area, for a
boot at which its EEPROM cannot be read.

- `factoryReset`, `CalibVal.restore` — the functions;
- `FactoryResetOk` — what the reset is to keep, and what it is to erase;
- `factoryResetOk_iff` — it does so if and only if there was no copy of the factors.
-/

namespace LumesSwitch

open Bufs Nor Words

/-! ## The flash map -/

/-- `FLASH_ADR_AREA_1_START`, `FLASH_ADR_AREA_1_END`, `FLASH_ADR_AREA_2_START`,
`FLASH_ADR_AREA_2_END` -/
def flashAdrArea1Start : Nat := 0x30000
def flashAdrArea1End : Nat := 0x40000
def flashAdrArea2Start : Nat := 0x70000
def flashAdrArea2End : Nat := 0x76000

/-- `FLASH_ADR_RELAY_ON_TIME`, `FLASH_ADR_CALIB_POWER_VALUE`, `FLASH_ADR_ENERGY` -/
def flashAdrRelayOnTime : Nat := 0x37000
def flashAdrCalibPowerValue : Nat := 0x39000
def flashAdrEnergy : Nat := 0x7F000

/-- `FLASH_ADR_BLE_SWITCH_CONFIG`, `FLASH_ADR_DIMMING_CONFIG`, `FLASH_ADR_LOCK_SCHEDULE`,
`FLASH_ADR_EXECUTION_SCENE`, `FLASH_ADR_LOCK_STATUS`, `FLASH_ADR_BINDING_PARAMS` -/
def vendorSectors : List Nat := [0x78000, 0x79000, 0x7A000, 0x7B000, 0x7C000, 0x7D000]

/-- The addresses of the loops of `factory_reset` over an area. -/
def areaSectors (start stop : Nat) : List Nat :=
  (List.range ((stop - start) / 4096)).map fun i => start + i * 0x1000

/-- What `factory_reset` erases, in order. The second exception of its first loop is the first
one over again, and is not compiled. -/
def factoryResetSectors : List Nat :=
  (areaSectors flashAdrArea1Start flashAdrArea1End).filter (· ≠ flashAdrRelayOnTime) ++
    areaSectors flashAdrArea2Start flashAdrArea2End ++ vendorSectors

/-- `factory_reset` -/
def factoryReset (m : Mem) : Mem := eraseSectors factoryResetSectors m

/-! ## The calibration factors -/

/-- `calib_val_t` -/
@[ext] structure CalibVal where
  kU : UInt16
  kI : Fin 3 → UInt16
  kP : Fin 3 → UInt16

namespace CalibVal

/-- `K_INTERNAL_MIN`, `K_INTERNAL_MAX`, `K_INTERNAL_DEFAULT` -/
def kInternalMin : UInt16 := 850
def kInternalMax : UInt16 := 1150
def kInternalDefault : UInt16 := 1000

def toBytes (v : CalibVal) : List UInt8 :=
  u16Bytes v.kU ++ (u16Array v.kI ++ u16Array v.kP)

def ofBytes (bs : List UInt8) : CalibVal where
  kU := ofU16Bytes (bs.getD 0 0) (bs.getD 1 0)
  kI := ofU16Array (bs.drop 2)
  kP := ofU16Array (bs.drop 8)

/-- A factor that `bl0906_check_valid_and_modify_calib_value` replaces. -/
def OutOfRange (k : UInt16) : Prop := k < kInternalMin ∨ k > kInternalMax

instance (k : UInt16) : Decidable (OutOfRange k) := inferInstanceAs (Decidable (_ ∨ _))

/-- `bl0906_check_valid_and_modify_calib_value`: the factors, and whether all were in range. -/
def checkValidAndModify (b : Board) (v : CalibVal) : CalibVal × Bool :=
  let fix (ks : Fin 3 → UInt16) : Fin 3 → UInt16 := fun i =>
    if i.val < b.numberRl ∧ OutOfRange (ks i) then kInternalDefault else ks i
  ({ kU := if OutOfRange v.kU then kInternalDefault else v.kU, kI := fix v.kI, kP := fix v.kP },
    ¬ OutOfRange v.kU ∧
      ∀ i : Fin 3, i.val < b.numberRl → ¬ OutOfRange (v.kI i) ∧ ¬ OutOfRange (v.kP i))

/-- `bl0906_restore_calib_from_flash` -/
def restoreFromFlash (m : Mem) : CalibVal := ofBytes (read flashAdrCalibPowerValue 14 m)

/-- `bl0906_store_calib_value_to_flash` -/
def storeToFlash (v : CalibVal) (m : Mem) : Mem :=
  applyPrims [.eraseSector flashAdrCalibPowerValue, .writePage flashAdrCalibPowerValue v.toBytes] m

/-- `bl0906_restore_calib_val_from_eeprom_and_flash`: the factors and the flash, for what the
EEPROM gave; `none` if it could not be read. -/
def restore (b : Board) (eeprom : Option CalibVal) (m : Mem) : CalibVal × Mem :=
  match eeprom with
  | some v =>
    let (v, valid) := checkValidAndModify b v
    if valid ∧ read flashAdrCalibPowerValue 14 m ≠ v.toBytes then (v, v.storeToFlash m) else (v, m)
  | none => ((checkValidAndModify b (restoreFromFlash m)).1, m)

end CalibVal

/-! ## The law -/

/-- What a factory reset of the flash `m` is to keep and to erase. A boot may come to a flash
that the boots before it have written to, in other sectors. -/
structure FactoryResetOk (b : Board) (m : Mem) : Prop where
  energySector : AgreeOn flashAdrEnergy flashSectorSize m (factoryReset m)
  onTimeSector : AgreeOn flashAdrRelayOnTime flashSectorSize m (factoryReset m)
  calibSector : AgreeOn flashAdrCalibPowerValue flashSectorSize m (factoryReset m)
  energy : ∀ m', AgreeOn flashAdrEnergy flashSectorSize (factoryReset m) m' →
    ∀ (rand : b.Chn → Nat → Nat) (s : EnergyState b),
      (EnergyState.reboot rand { s with log := ⟨s.log.index, m'⟩ }).ch =
        (EnergyState.reboot rand { s with log := ⟨s.log.index, m⟩ }).ch
  onTime : ∀ m', AgreeOn flashAdrRelayOnTime flashSectorSize (factoryReset m) m' →
    ∀ {ε : Type} (rand : Nat → Nat) (stateLog : LogState) (sh : Shared b) (env : ε),
      (Device.boot rand stateLog ⟨0, m'⟩ sh env).relay.onTime =
        (Device.boot rand stateLog ⟨0, m⟩ sh env).relay.onTime
  calib : ∀ m', AgreeOn flashAdrCalibPowerValue flashSectorSize (factoryReset m) m' →
    (CalibVal.restore b none m').1 = (CalibVal.restore b none m).1
  swConfig : ∀ m', AgreeOn 0x78000 flashSectorSize (factoryReset m) m' →
    ∀ s : SwCfg b, ({ s with log := ⟨0, m'⟩ } : SwCfg b).swConfigInit.st = .default b
  lockSchedule : ∀ m', AgreeOn 0x7A000 flashSectorSize (factoryReset m) m' →
    AgreeOn 0x7C000 flashSectorSize (factoryReset m) m' →
      (Locks.powerOn b ⟨0, m'⟩ ⟨0, m'⟩).lockScheduleInit.lockScheduleSt = (fun _ => .byDefault) ∧
        (Locks.powerOn b ⟨0, m'⟩ ⟨0, m'⟩).lockScheduleInit.presentLock = (fun _ => .unlock) ∧
        (Locks.powerOn b ⟨0, m'⟩ ⟨0, m'⟩).lockScheduleInit.StoredStatus fun _ => .unlock
  scenes : ∀ m', AgreeOn 0x7B000 flashSectorSize (factoryReset m) m' →
    ∀ s : Scenes b, (Scenes.restore { s with flash := m' }).table = fun _ _ => .cleared
  bindings : ∀ m', AgreeOn 0x7D000 flashSectorSize (factoryReset m) m' →
    ∀ s : Bindings b, (Bindings.bindingInit { s with log := ⟨0, m'⟩ }).paraSt = fun _ => .default

/-! ## What is kept and what is erased -/

theorem keeps_sector {a : Nat}
    (h : ∀ adr ∈ factoryResetSectors, adr + flashSectorSize ≤ a ∨ a + flashSectorSize ≤ adr)
    (m : Mem) : AgreeOn a flashSectorSize m (factoryReset m) := agreeOn_eraseSectors h m

theorem erases_sector {a : Nat} (h : a ∈ factoryResetSectors) (m : Mem) :
    ErasedOn a flashSectorSize (factoryReset m) := erasedOn_eraseSectors h m

theorem keeps_energy (m : Mem) : AgreeOn flashAdrEnergy flashSectorSize m (factoryReset m) :=
  keeps_sector (by decide) m

theorem keeps_onTime (m : Mem) : AgreeOn flashAdrRelayOnTime flashSectorSize m (factoryReset m) :=
  keeps_sector (by decide) m

theorem erases_calib (m : Mem) :
    ErasedOn flashAdrCalibPowerValue flashSectorSize (factoryReset m) :=
  erases_sector (by decide) m

/-! ## The boot of each module -/

variable {b : Board} {m m' : Mem}

/-- A channel of `energy.c` after a boot that has read the word `x` for it. -/
def EnergyChannel.booted (rand : Nat → Nat) (x : UInt32) : EnergyChannel :=
  let wh := if x = 0xFFFFFFFF then 0 else ofU32 x
  { EnergyState.ramCleared with
    reported := ⟨0, 0, 0, wh⟩
    activeEnergyPowerOn := wh
    reportPowerOn := true
    iupTLenS := periodicTLen (115 * 60) (rand 0)
    powerTLenS := periodicTLen (50 * 60) (rand 1) }

theorem EnergyState.reboot_ch (rand : b.Chn → Nat → Nat) (s : EnergyState b) :
    (reboot rand s).ch = fun c => .booted (rand c)
      (decodeWords ((energyLog b).restore ((energyLog b).reindex s.log)) c) := rfl

/-- The energy that a boot restores is that of the sector. -/
theorem EnergyState.reboot_congr (h : AgreeOn flashAdrEnergy flashSectorSize m m')
    (rand : b.Chn → Nat → Nat) (s : EnergyState b) :
    (reboot rand { s with log := ⟨s.log.index, m'⟩ }).ch =
      (reboot rand { s with log := ⟨s.log.index, m⟩ }).ch := by
  rw [reboot_ch, reboot_ch, (energyLog b).restore_congr h]

/-- The on-time of a channel after a boot that has read the word `x` for it. -/
def RelayOnTime.booted (rand : Nat) (x : UInt32) : RelayOnTime :=
  let total := if x = 0xFFFFFFFF then 0 else x
  ⟨total, total, 0, 0, UInt32.ofNat (5 * 60 + rand % (5 * 60))⟩

theorem Device.boot_onTime {ε : Type} (rand : Nat → Nat) (stateLog onTimeLog : LogState)
    (sh : Shared b) (env : ε) :
    (boot rand stateLog onTimeLog sh env).relay.onTime = fun c => .booted (rand c)
      (decodeWords ((relayOnTimeLog b).restore ((relayOnTimeLog b).reindex onTimeLog)) c) := rfl

/-- The on-times that a boot restores are those of the sector. -/
theorem Device.boot_onTime_congr {ε : Type} (h : AgreeOn flashAdrRelayOnTime flashSectorSize m m')
    (rand : Nat → Nat) (stateLog : LogState) (sh : Shared b) (env : ε) :
    (boot rand stateLog ⟨0, m'⟩ sh env).relay.onTime =
      (boot rand stateLog ⟨0, m⟩ sh env).relay.onTime := by
  rw [boot_onTime, boot_onTime, (relayOnTimeLog b).restore_congr h]

theorem CalibVal.restore_congr (h : AgreeOn flashAdrCalibPowerValue flashSectorSize m m') :
    (restore b none m').1 = (restore b none m).1 := by
  have hread : read flashAdrCalibPowerValue 14 m = read flashAdrCalibPowerValue 14 m' :=
    h.read_eq (Nat.le_refl _) (by decide)
  rw [restore, restore]
  dsimp only
  rw [restoreFromFlash, restoreFromFlash, hread]

/-- A table of erased bytes has only slots that are cleared. -/
theorem Scenes.restore_erased
    (h : ErasedOn flashAdrExecutionScene flashSectorSize m) (s : Scenes b) :
    (restore { s with flash := m }).table = fun _ _ => .cleared := by
  have hle := tableBytes_le_sector (b := b) fun _ _ => .cleared
  have hlen := tableBytes_length (b := b) fun _ _ => .cleared
  have hrow : encodeRecords ParExecutionScene.toBytes (fun _ : Fin 8 => .cleared) =
      List.replicate 712 erasedByte :=
    encodeRecords_replicate (w := 89) fun _ => rfl
  have hbytes : tableBytes (fun (_ : b.Btn) _ => ParExecutionScene.cleared) =
      List.replicate (712 * b.numberButton) erasedByte :=
    encodeRecords_replicate fun _ => hrow
  have hread : read flashAdrExecutionScene (712 * b.numberButton) m =
      tableBytes fun (_ : b.Btn) _ => ParExecutionScene.cleared := by
    rw [hbytes]
    exact (h.mono (Nat.le_refl _) (by omega)).read_eq
  rw [restore, hread, tableOfBytes_tableBytes]

/-- The locks that a boot on erased sectors comes to. -/
theorem Locks.init_powerOn_erased (hsch : ErasedOn (lockScheduleLog b).flashAdr flashSectorSize m)
    (hst : ErasedOn (lockStatusLog b).flashAdr flashSectorSize m) :
    (powerOn b ⟨0, m⟩ ⟨0, m⟩).lockScheduleInit.lockScheduleSt = (fun _ => .byDefault) ∧
      (powerOn b ⟨0, m⟩ ⟨0, m⟩).lockScheduleInit.presentLock = (fun _ => .unlock) ∧
      (powerOn b ⟨0, m⟩ ⟨0, m⟩).lockScheduleInit.StoredStatus fun _ => .unlock := by
  obtain ⟨hdef, -, hstatus⟩ := init_erased (t := powerOn b ⟨0, m⟩ ⟨0, m⟩) (LogRel.erased hsch 0)
    (LogRel.erased hst 0)
  refine ⟨hdef, ?_, hstatus⟩
  funext i
  have hlock := congrArg LockSchedule.lock (congrFun hdef i)
  rw [lockScheduleInit] at hlock ⊢
  exact if_neg fun hone => absurd (hlock.symm.trans hone) (by decide)

/-! ## The law holds without a copy of the factors -/

/-- **The reset keeps the meter and erases the settings if and only if the calibration backup
was empty**: everything else holds whatever the flash held before. -/
theorem factoryResetOk_iff (b : Board) (m : Mem) :
    FactoryResetOk b m ↔ ErasedOn flashAdrCalibPowerValue flashSectorSize m := by
  constructor
  · exact fun h => (erases_calib m).congr h.calibSector.symm
  · intro hcalib
    have hkeeps : AgreeOn flashAdrCalibPowerValue flashSectorSize m (factoryReset m) :=
      fun x hx hx' => (hcalib x hx hx').trans (erases_calib m x hx hx').symm
    exact
      { energySector := keeps_energy m
        onTimeSector := keeps_onTime m
        calibSector := hkeeps
        energy := fun m' h => EnergyState.reboot_congr ((keeps_energy m).trans h)
        onTime := fun m' h => Device.boot_onTime_congr ((keeps_onTime m).trans h)
        calib := fun m' h => CalibVal.restore_congr (hkeeps.trans h)
        swConfig := fun m' h s => SwCfg.swConfigInit_erased
          (LogRel.erased ((erases_sector (a := 0x78000) (by decide) m).congr h) 0)
        lockSchedule := fun m' hsch hst => Locks.init_powerOn_erased
          ((erases_sector (a := 0x7A000) (by decide) m).congr hsch)
          ((erases_sector (a := 0x7C000) (by decide) m).congr hst)
        scenes := fun m' h =>
          Scenes.restore_erased ((erases_sector (a := 0x7B000) (by decide) m).congr h)
        bindings := fun m' h s => (Bindings.bindingInit_erased
          (LogRel.erased ((erases_sector (a := 0x7D000) (by decide) m).congr h) 0)).1 }

/-! ## What the backup is for -/

namespace CalibVal

theorem toBytes_length (v : CalibVal) : v.toBytes.length = 14 := by
  rw [toBytes, List.length_append, List.length_append, u16Array_length, u16Array_length]
  rfl

theorem ofBytes_toBytes (v : CalibVal) : ofBytes v.toBytes = v := by
  have hU : (u16Bytes v.kU).length = 2 := rfl
  refine CalibVal.ext (ofU16Bytes_u16Bytes v.kU) (ofU16Array_field v.kI hU _) ?_
  have hpre : (u16Bytes v.kU ++ u16Array v.kI).length = 8 := by
    rw [List.length_append, u16Array_length]
    rfl
  have hfield := ofU16Array_field v.kP hpre []
  rwa [List.append_nil, List.append_assoc] at hfield

/-- Factors in range are left alone. -/
theorem checkValidAndModify_of_valid {v : CalibVal} (h : (checkValidAndModify b v).2 = true) :
    (checkValidAndModify b v).1 = v := by
  obtain ⟨hU, hks⟩ := of_decide_eq_true h
  refine CalibVal.ext (if_neg hU) ?_ ?_
  · exact funext fun i => if_neg fun hi => (hks i hi.1).1 hi.2
  · exact funext fun i => if_neg fun hi => (hks i hi.1).2 hi.2

theorem read_storeToFlash (v : CalibVal) (m : Mem) :
    read flashAdrCalibPowerValue 14 (v.storeToFlash m) = v.toBytes := by
  have herased : ErasedOn flashAdrCalibPowerValue v.toBytes.length
      (erase flashAdrCalibPowerValue flashSectorSize m) := by
    rw [toBytes_length]
    exact (erasedOn_erase _ _ m).mono (Nat.le_refl _) (by decide)
  have hread := read_program herased
  rwa [toBytes_length] at hread

/-- Factors that a boot has read from the EEPROM are those of a later boot that cannot. -/
theorem restore_backup {v : CalibVal} (h : (checkValidAndModify b v).2 = true) (m : Mem) :
    (restore b none (restore b (some v) m).2).1 = v := by
  have hv := checkValidAndModify_of_valid h
  have hread : read flashAdrCalibPowerValue 14 (restore b (some v) m).2 = v.toBytes := by
    rw [restore]
    dsimp only
    rw [h, hv]
    split
    · exact v.read_storeToFlash m
    · next hsame => exact not_not.mp fun hne => hsame ⟨rfl, hne⟩
  have hflash : restoreFromFlash (restore b (some v) m).2 = v := by
    rw [restoreFromFlash, hread, ofBytes_toBytes]
  generalize (restore b (some v) m).2 = m' at hflash
  rw [restore]
  dsimp only
  rw [hflash, hv]

end CalibVal

/-- The factors of a meter, backed up at a boot that reads them from the EEPROM. -/
def backedUp : Mem := (CalibVal.restore board1 (some ⟨900, fun _ => 1000, fun _ => 1000⟩)
  fun _ => erasedByte).2

/-- The backup is lost in a reset, and the next boot without the EEPROM takes the defaults. -/
theorem not_factoryResetOk_backedUp :
    ¬ FactoryResetOk board1 backedUp ∧ (CalibVal.restore board1 none backedUp).1.kU = 900 ∧
      (CalibVal.restore board1 none (factoryReset backedUp)).1.kU = 1000 := by
  refine ⟨fun h => ?_, by decide, by decide⟩
  have hfirst := h.calibSector flashAdrCalibPowerValue (by decide) (by decide)
  exact absurd (hfirst.trans (erases_calib backedUp _ (by decide) (by decide))) (by decide)

end LumesSwitch
