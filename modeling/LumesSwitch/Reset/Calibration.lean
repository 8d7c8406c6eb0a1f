import LumesSwitch.Reset.FactoryReset

/-!
# The calibration factors over the boots (`bl0906.c`)

A boot tries a few times to read the factors from the EEPROM. One buffer takes what the attempts
leave, the check that replaces factors works in it, and without the EEPROM the backup is read
into it. The check looks at the factors of the relays that there are.

- `CalibBoot.boot` — the boot, attempt by attempt;
- `CalibBoot.boot_eq_restore` — it depends on the first successful attempt only;
- `CalibBoot.bootsOk` — the factors in use are in range, and the backup is faithful.
-/

namespace LumesSwitch

open Bufs Nor Runs Words

/-- `READ_EEPROM_RETRY_TIME` -/
def readEepromRetryTime : Nat := 5

/-- An attempt to read the EEPROM: it fills the buffer, or fails and leaves anything there. -/
inductive ReadAttempt where
  | success (v : CalibVal)
  | failure (left : CalibVal)

/-- The value that an attempt has read. -/
def ReadAttempt.value : ReadAttempt → Option CalibVal
  | .success v => some v
  | .failure _ => none

namespace CalibVal

/-- The factors that the device uses are in range: the one of the voltage, and those of the
relays that there are. -/
def InRange (b : Board) (v : CalibVal) : Prop :=
  ¬ OutOfRange v.kU ∧
    ∀ i : Fin 3, i.val < b.numberRl → ¬ OutOfRange (v.kI i) ∧ ¬ OutOfRange (v.kP i)

instance (b : Board) (v : CalibVal) : Decidable (InRange b v) :=
  inferInstanceAs (Decidable (_ ∧ _))

/-- So are all that `calib_val_t` has room for. -/
def EveryInRange (v : CalibVal) : Prop :=
  ¬ OutOfRange v.kU ∧ ∀ i : Fin 3, ¬ OutOfRange (v.kI i) ∧ ¬ OutOfRange (v.kP i)

instance (v : CalibVal) : Decidable (EveryInRange v) := inferInstanceAs (Decidable (_ ∧ _))

variable {b : Board}

theorem valid_iff (v : CalibVal) : (checkValidAndModify b v).2 = true ↔ InRange b v :=
  decide_eq_true_iff

/-- The check leaves factors that are in range. -/
theorem inRange_checkValidAndModify (v : CalibVal) : InRange b (checkValidAndModify b v).1 := by
  have hdefault : ¬ OutOfRange kInternalDefault := by decide
  have hfix : ∀ (ks : Fin 3 → UInt16) (i : Fin 3), i.val < b.numberRl →
      ¬ OutOfRange (if i.val < b.numberRl ∧ OutOfRange (ks i) then kInternalDefault else ks i) := by
    intro ks i hi
    split
    · exact hdefault
    · next h => exact fun hout => h ⟨hi, hout⟩
  refine ⟨?_, fun i hi => ⟨hfix v.kI i hi, hfix v.kP i hi⟩⟩
  show ¬ OutOfRange (if OutOfRange v.kU then kInternalDefault else v.kU)
  split
  · exact hdefault
  · assumption

end CalibVal

/-- `calib_val`, the flash, and the flags that a boot sets. -/
structure CalibBoot where
  calibVal : CalibVal
  flash : Mem
  readStatus : Bool
  isValid : Bool
  i2cIsPass : Bool
  calibIsPass : Bool

namespace CalibBoot

open CalibVal

/-- The loop over the attempts, from what the buffer holds; the second component is
`eeprom_err`. -/
def readLoop : CalibVal → List ReadAttempt → CalibVal × Bool
  | v, [] => (v, true)
  | _, .failure left :: as => readLoop left as
  | _, .success v :: _ => (v, false)

/-- `bl0906_restore_calib_val_from_eeprom_and_flash`, on the flash `m`. -/
def boot (b : Board) (m : Mem) (attempts : Fin readEepromRetryTime → ReadAttempt) : CalibBoot :=
  let (calibVal, eepromErr) := readLoop ⟨0xFFFF, fun _ => 0xFFFF, fun _ => 0xFFFF⟩
    (List.ofFn attempts)
  if eepromErr = false then
    let (calibVal, valid) := checkValidAndModify b calibVal
    { calibVal
      flash := if valid ∧ read flashAdrCalibPowerValue 14 m ≠ calibVal.toBytes then
        calibVal.storeToFlash m else m
      readStatus := true, isValid := valid, i2cIsPass := true, calibIsPass := valid }
  else
    let (calibVal, valid) := checkValidAndModify b (restoreFromFlash m)
    { calibVal, flash := m
      readStatus := false, isValid := valid, i2cIsPass := false, calibIsPass := false }

/-- The value that a boot reads from the EEPROM, if one of its attempts succeeds. -/
def eepromValue (attempts : Fin readEepromRetryTime → ReadAttempt) : Option CalibVal :=
  (List.ofFn attempts).findSome? ReadAttempt.value

/-- What the failed attempts leave in the buffer is gone behind a success. -/
theorem readLoop_eq (as : List ReadAttempt) :
    ∀ v, readLoop v as = match as.findSome? ReadAttempt.value with
      | some w => (w, false)
      | none => ((readLoop v as).1, true) := by
  induction as with
  | nil => exact fun _ => rfl
  | cons a as ih =>
    intro v
    cases a with
    | success w => rfl
    | failure left => exact ih left

/-- **The boot**: the factors and the flash depend on the first success only. -/
theorem boot_eq_restore (b : Board) (m : Mem) (attempts : Fin readEepromRetryTime → ReadAttempt) :
    ((boot b m attempts).calibVal, (boot b m attempts).flash) =
      CalibVal.restore b (eepromValue attempts) m := by
  rw [boot, readLoop_eq, ← eepromValue]
  cases eepromValue attempts with
  | none => rfl
  | some v =>
    rw [restore]
    dsimp only
    rw [if_pos rfl]
    split <;> rfl

/-! ## Over the boots -/

/-- The flash, and the boots so far, the last one first: what each has read from the EEPROM,
and the factors behind it. -/
structure History where
  flash : Mem
  past : List (Option CalibVal × CalibVal)

namespace History

/-- One more boot. -/
def step (b : Board) (h : History) (attempts : Fin readEepromRetryTime → ReadAttempt) : History :=
  let s := boot b h.flash attempts
  ⟨s.flash, (eepromValue attempts, s.calibVal) :: h.past⟩

/-- The factors of the last boot that has read a value in range from the EEPROM. -/
def lastGood (R : CalibVal → Prop) [DecidablePred R] (past : List (Option CalibVal × CalibVal)) :
    Option CalibVal :=
  past.findSome? fun p => if ∃ v ∈ p.1, R v then some p.2 else none

/-- What is expected of a boot, where `R` says that the factors are in range. -/
structure BootOk (b : Board) (R : CalibVal → Prop) [DecidablePred R] (h : History)
    (attempts : Fin readEepromRetryTime → ReadAttempt) : Prop where
  inRange : R (boot b h.flash attempts).calibVal
  backup : (boot b h.flash attempts).flash = h.flash ∨
    ∃ v, eepromValue attempts = some v ∧ R v ∧
      (boot b h.flash attempts).flash = v.storeToFlash h.flash
  fallback : eepromValue attempts = none → ∀ v, lastGood R h.past = some v →
    (boot b h.flash attempts).calibVal = v

variable {b : Board} {h : History} {attempts : Fin readEepromRetryTime → ReadAttempt}

/-- A boot without the EEPROM takes the factors from the flash. -/
theorem boot_none (m : Mem) (hnone : eepromValue attempts = none) :
    (boot b m attempts).calibVal = (checkValidAndModify b (restoreFromFlash m)).1 ∧
      (boot b m attempts).flash = m := by
  have heq := boot_eq_restore b m attempts
  rw [hnone] at heq
  exact Prod.mk.inj heq

/-- A boot that reads factors in range takes them, and the flash holds them behind it. -/
theorem boot_good (m : Mem) {v : CalibVal} (hv : eepromValue attempts = some v)
    (hin : InRange b v) :
    (boot b m attempts).calibVal = v ∧
      ((boot b m attempts).flash = m ∨ (boot b m attempts).flash = v.storeToFlash m) ∧
      read flashAdrCalibPowerValue 14 (boot b m attempts).flash = v.toBytes := by
  have heq := boot_eq_restore b m attempts
  have hvalid := (valid_iff v).mpr hin
  rw [hv, restore] at heq
  dsimp only at heq
  rw [hvalid, checkValidAndModify_of_valid hvalid] at heq
  -- the backup is written only where it differs
  split at heq
  · obtain ⟨hcalib, hflash⟩ := Prod.mk.inj heq
    refine ⟨hcalib, .inr hflash, ?_⟩
    rw [hflash]
    exact v.read_storeToFlash m
  · next hsame =>
    obtain ⟨hcalib, hflash⟩ := Prod.mk.inj heq
    refine ⟨hcalib, .inl hflash, ?_⟩
    rw [hflash]
    exact not_not.mp fun hne => hsame ⟨rfl, hne⟩

/-- A boot that reads other factors replaces some, and leaves the flash alone. -/
theorem boot_bad (m : Mem) {v : CalibVal} (hv : eepromValue attempts = some v)
    (hout : ¬ InRange b v) :
    (boot b m attempts).calibVal = (checkValidAndModify b v).1 ∧ (boot b m attempts).flash = m := by
  have heq := boot_eq_restore b m attempts
  rw [hv, restore] at heq
  dsimp only at heq
  rw [if_neg fun hvalid => hout ((valid_iff v).mp hvalid.1)] at heq
  exact Prod.mk.inj heq

theorem inRange_boot (m : Mem) (attempts : Fin readEepromRetryTime → ReadAttempt) :
    InRange b (boot b m attempts).calibVal := by
  cases hv : eepromValue attempts with
  | none =>
    rw [(boot_none m hv).1]
    exact inRange_checkValidAndModify _
  | some v =>
    by_cases hin : InRange b v
    · rw [(boot_good m hv hin).1]
      exact hin
    · rw [(boot_bad m hv hin).1]
      exact inRange_checkValidAndModify v

/-- The flash holds the factors of the last boot that has read a value in range. -/
def Faithful (b : Board) (h : History) : Prop :=
  ∀ v, lastGood (InRange b) h.past = some v →
    read flashAdrCalibPowerValue 14 h.flash = v.toBytes ∧ InRange b v

/-- A boot that has read no value in range is none of those. -/
theorem lastGood_skip {R : CalibVal → Prop} [DecidablePred R] {p : Option CalibVal × CalibVal}
    {past : List (Option CalibVal × CalibVal)} (hp : ¬ ∃ v ∈ p.1, R v) :
    lastGood R (p :: past) = lastGood R past := by
  rw [lastGood, List.findSome?_cons, if_neg hp]
  rfl

theorem lastGood_good {R : CalibVal → Prop} [DecidablePred R] {p : Option CalibVal × CalibVal}
    {past : List (Option CalibVal × CalibVal)} (hp : ∃ v ∈ p.1, R v) :
    lastGood R (p :: past) = some p.2 := by
  rw [lastGood, List.findSome?_cons, if_pos hp]

/-- **Step lemma.** -/
theorem Faithful.step (hf : Faithful b h) (attempts : Fin readEepromRetryTime → ReadAttempt) :
    Faithful b (h.step b attempts) := by
  intro w hw
  rw [History.step] at hw ⊢
  dsimp only at hw ⊢
  cases hv : eepromValue attempts with
  | none =>
    have hskip : ¬ ∃ v ∈ (none : Option CalibVal), InRange b v := by
      rintro ⟨v, hmem, -⟩
      cases hmem
    rw [hv, lastGood_skip hskip] at hw
    rw [(boot_none h.flash hv).2]
    exact hf w hw
  | some v =>
    by_cases hin : InRange b v
    · obtain ⟨hcalib, -, hread⟩ := boot_good h.flash hv hin
      -- this boot is the last one now
      rw [hv, lastGood_good ⟨v, rfl, hin⟩, Option.some.injEq] at hw
      obtain rfl : w = v := hw.symm.trans hcalib
      exact ⟨hread, hin⟩
    · have hskip : ¬ ∃ v' ∈ some v, InRange b v' := by
        rintro ⟨v', hmem, hin'⟩
        exact hin (Option.some.inj hmem ▸ hin')
      rw [hv, lastGood_skip hskip] at hw
      rw [(boot_bad h.flash hv hin).2]
      exact hf w hw

/-- One boot. -/
theorem Faithful.bootOk (hf : Faithful b h) (attempts : Fin readEepromRetryTime → ReadAttempt) :
    h.BootOk b (InRange b) attempts := by
  refine ⟨inRange_boot h.flash attempts, ?_, fun hnone v hlast => ?_⟩
  · cases hv : eepromValue attempts with
    | none => exact .inl (boot_none h.flash hv).2
    | some v =>
      by_cases hin : InRange b v
      · exact (boot_good h.flash hv hin).2.1.imp_right fun hstore => ⟨v, rfl, hin, hstore⟩
      · exact .inl (boot_bad h.flash hv hin).2
  -- what the flash holds is in range, and is taken as it is
  · obtain ⟨hread, hin⟩ := hf v hlast
    have hflash : restoreFromFlash h.flash = v := by
      rw [restoreFromFlash, hread, ofBytes_toBytes]
    rw [(boot_none h.flash hnone).1, hflash]
    exact checkValidAndModify_of_valid ((valid_iff v).mpr hin)

/-- **Every sequence of boots**, on any flash: the factors in use are in range behind each, the
backup is rewritten with values in range from the EEPROM only, and a boot without the EEPROM
finds the factors of the last one that has read such a value. -/
theorem bootsOk (b : Board) (m : Mem)
    (boots : List (Fin readEepromRetryTime → ReadAttempt)) :
    AllSteps (step b) (BootOk b (InRange b)) ⟨m, []⟩ boots := by
  have htriv : AllSteps (step b) (fun _ _ => True) ⟨m, []⟩ boots :=
    AllSteps.of_forall (fun _ _ => trivial) _ _
  have hfirst : Faithful b ⟨m, []⟩ := fun _ hw => nomatch hw
  exact htriv.transport (I := Faithful b) (fun _ attempts hf _ => hf.step attempts)
    (fun _ attempts hf _ => hf.bootOk attempts) hfirst

/-- A one-relay device takes the factors of relays that it does not have as the EEPROM has
them. -/
theorem not_everyInRange_absent :
    ¬ AllSteps (step board1) (BootOk board1 EveryInRange) ⟨fun _ => erasedByte, []⟩
      [fun _ => .success ⟨1000, fun i => if i = 2 then 0xFFFF else 1000, fun _ => 1000⟩] := by
  intro h
  exact absurd (h.1.inRange.2 2).1 (by decide)

end History

end CalibBoot

end LumesSwitch
