import Mathlib.Data.List.Pairwise
import Mathlib.Tactic.Linarith
import LumesSwitch.Energy.Model

/-!
# What the energy accumulators mean

Energy of one channel is an account of four numbers: the history at power-on,
the running total, the chip's count at which the running total starts, and the
chip's last count. The running total is 0 until the channel has delivered a
first count and a second one after it; from then on it is history plus count.

- `Account` and its operations — the accumulators of one channel by themselves;
- `Account.Ok` — what every operation keeps;
- `Account.level` — the larger of history and running total: it never falls
  while the account is `Resumed` whenever its total is turned into history;
- `EnergyState.view` — the accounts, the flash log and the published values of
  a state; `view_…` lemmas say what each function of `energy.c` does to it.
-/

namespace LumesSwitch

open Runs Words Nor

/-- The energy accumulators of one channel. -/
@[ext] structure Account where
  base : ℚ
  total : ℚ
  offset : ℚ
  cf : ℚ

namespace Account

/-- The running total has caught up with the history it continues. -/
def Resumed (a : Account) : Prop := ⌊a.base⌋ ≤ ⌊a.total⌋

instance (a : Account) : Decidable a.Resumed := inferInstanceAs (Decidable (_ ≤ _))

/-- The running total is a word that can be told from erased flash. -/
def Fits (a : Account) : Prop := ⌊a.total⌋ < 2 ^ 32 - 1

instance (a : Account) : Decidable a.Fits := inferInstanceAs (Decidable (_ < _))

/-- The chip's count after `energy_calculator_kwh`. -/
def calculate (a : Account) : Account :=
  if a.offset ≠ 0 then { a with total := a.base + (a.cf - a.offset) }
  else if a.cf > 0 then { a with offset := a.cf }
  else a

/-- A count delivered by the chip. -/
def measure (a : Account) (v : ℚ) : Account := { a with cf := v }

/-- `energy_handle_cf_cnt_scale_overflow` -/
def overflow (a : Account) : Account := { a with base := a.total, total := 0, offset := 0 }

/-- `energy_handle_delete_power_information` -/
def clear (a : Account) : Account := { a with base := 0, total := 0, offset := 0 }

/-- The account after a boot that restored `r`. -/
def boot (r : Nat) : Account := ⟨r, 0, 0, 0⟩

structure Ok (a : Account) : Prop where
  base_nonneg : 0 ≤ a.base
  offset_nonneg : 0 ≤ a.offset
  offset_le : a.offset ≤ a.cf
  total_eq : a.total = 0 ∨
    (a.offset ≠ 0 ∧ a.base ≤ a.total ∧ a.total ≤ a.base + (a.cf - a.offset))

/-- The energy the account stands for, in whole Wh. -/
def level (a : Account) : ℤ := max ⌊a.base⌋ ⌊a.total⌋

theorem Resumed.level_eq {a : Account} (h : a.Resumed) : a.level = ⌊a.total⌋ :=
  max_eq_right h

namespace Ok

variable {a : Account}

theorem total_nonneg (h : a.Ok) : 0 ≤ a.total := by
  rcases h.total_eq with h0 | ⟨-, hle, -⟩
  · rw [h0]
  · exact le_trans h.base_nonneg hle

theorem calculate (h : a.Ok) : a.calculate.Ok := by
  rw [Account.calculate]
  have h1 := h.offset_le
  by_cases ho : a.offset ≠ 0
  · -- the running total is history plus count, and the count is not behind its offset
    rw [if_pos ho]
    refine ⟨h.base_nonneg, h.offset_nonneg, h1, Or.inr ⟨ho, ?_, ?_⟩⟩
    · show a.base ≤ a.base + (a.cf - a.offset)
      linarith
    · exact le_refl _
  · rw [if_neg ho]
    by_cases hc : a.cf > 0
    · rw [if_pos hc]
      refine ⟨h.base_nonneg, le_of_lt hc, le_refl _, ?_⟩
      -- without an offset the running total has not started
      rcases h.total_eq with h0 | ⟨hne, -⟩
      · exact Or.inl h0
      · exact absurd hne ho
    · rw [if_neg hc]
      exact h

theorem level_calculate (h : a.Ok) : a.level ≤ a.calculate.level := by
  rw [Account.calculate]
  have h1 := h.offset_le
  by_cases ho : a.offset ≠ 0
  · -- the new total covers the history and, the count being no smaller, the old total
    rw [if_pos ho]
    have hb : a.base ≤ a.base + (a.cf - a.offset) := by linarith
    have ht : a.total ≤ a.base + (a.cf - a.offset) := by
      rcases h.total_eq with h0 | ⟨-, -, hle⟩
      · rw [h0]
        exact le_trans h.base_nonneg hb
      · exact hle
    exact max_le (le_max_left _ _) (le_trans (Int.floor_le_floor ht) (le_max_right _ _))
  · rw [if_neg ho]
    by_cases hc : a.cf > 0
    · rw [if_pos hc]
      exact le_refl a.level
    · rw [if_neg hc]

theorem measure (h : a.Ok) {v : ℚ} (hv : a.cf ≤ v) : (a.measure v).Ok := by
  have h1 := h.offset_le
  refine ⟨h.base_nonneg, h.offset_nonneg, le_trans h1 hv, ?_⟩
  rcases h.total_eq with h0 | ⟨hne, hle, hub⟩
  · exact Or.inl h0
  · refine Or.inr ⟨hne, hle, ?_⟩
    show a.total ≤ a.base + (v - a.offset)
    linarith

theorem overflow (h : a.Ok) : a.overflow.Ok :=
  ⟨h.total_nonneg, le_refl _, le_trans h.offset_nonneg h.offset_le, Or.inl rfl⟩

/-- An overflow keeps the level if the history is in the running total. -/
theorem level_overflow (h : a.Ok) (hr : a.Resumed) : a.overflow.level = a.level := by
  rw [hr.level_eq]
  show max ⌊a.total⌋ ⌊(0 : ℚ)⌋ = ⌊a.total⌋
  rw [Int.floor_zero]
  exact max_eq_left (Int.floor_nonneg.mpr h.total_nonneg)

/-- The chip restarts its count after an overflow. -/
theorem overflow_measure (h : a.Ok) {v : ℚ} (hv : 0 ≤ v) : (a.overflow.measure v).Ok :=
  ⟨h.total_nonneg, le_refl _, hv, Or.inl rfl⟩

theorem clear (h : a.Ok) : a.clear.Ok :=
  ⟨le_refl _, le_refl _, le_trans h.offset_nonneg h.offset_le, Or.inl rfl⟩

theorem clear_fits : a.clear.Fits := by
  show ⌊(0 : ℚ)⌋ < 2 ^ 32 - 1
  rw [Int.floor_zero]
  norm_num

theorem boot (r : Nat) : (Account.boot r).Ok :=
  ⟨Nat.cast_nonneg r, le_refl _, le_refl _, Or.inl rfl⟩

end Ok

theorem level_boot (r : Nat) : (boot r).level = r := by
  show max ⌊(r : ℚ)⌋ ⌊(0 : ℚ)⌋ = r
  rw [Int.floor_natCast, Int.floor_zero]
  exact max_eq_left (Int.natCast_nonneg r)

theorem Ok.level_nonneg {a : Account} (h : a.Ok) : 0 ≤ a.level :=
  le_trans (Int.floor_nonneg.mpr h.base_nonneg) (le_max_left _ _)

end Account

/-- The word written for a total is its floor. -/
theorem toU32_toNat {x : ℚ} (h0 : 0 ≤ x) (h1 : ⌊x⌋ < 2 ^ 32) : ((toU32 x).toNat : ℤ) = ⌊x⌋ := by
  have hf0 : 0 ≤ ⌊x⌋ := Int.floor_nonneg.mpr h0
  rw [toU32, if_pos h0]
  lift ⌊x⌋ to ℕ using hf0 with k
  have hk : k < 2 ^ 32 := by exact_mod_cast h1
  have hmod : ((k : ℤ) % 2 ^ 32).toNat = k := by omega
  rw [UInt32.ofInt, hmod, UInt32.toNat_ofNat', Nat.mod_eq_of_lt hk]

/-- The word stored for an account that fits is its running total, and not the
word of erased flash. -/
theorem Account.Ok.stored_word {a : Account} (ha : a.Ok) (hf : a.Fits) :
    toU32 a.total ≠ 0xFFFFFFFF ∧ ((toU32 a.total).toNat : ℤ) = ⌊a.total⌋ := by
  have heq := toU32_toNat ha.total_nonneg (lt_trans hf (by norm_num))
  refine ⟨fun hx => ?_, heq⟩
  have hmax : ((0xFFFFFFFF : UInt32).toNat : ℤ) = 2 ^ 32 - 1 := by decide
  rw [hx, hmax] at heq
  exact absurd heq (ne_of_gt hf)

/-! ## The view of a state -/

/-- The accumulators of a channel. -/
def EnergyChannel.account (e : EnergyChannel) : Account where
  base := e.activeEnergyPowerOn
  total := e.totalActiveEnergy
  offset := e.activeEnergyOffset
  cf := e.value.activeEnergy

/-- The Wh values published for channel `c`, in order. -/
def publishedFor (c : Nat) (out : List EnergyOut) : List Nat :=
  out.filterMap fun
    | .activeEnergy idx _ wh => if idx = c then some wh.toNat else none
    | _ => none

/-- What the accounting properties look at. -/
@[ext] structure EnergyView (b : Board) where
  account : b.Chn → Account
  log : LogState
  published : b.Chn → List Nat

/-- The record of a channel in the newest flash block; an erased word reads 0. -/
def EnergyView.recorded {b : Board} (v : EnergyView b) (c : b.Chn) : Nat :=
  let w : UInt32 := decodeWords ((energyLog b).restore v.log) c
  if w = 0xFFFFFFFF then 0 else w.toNat

/-- The view after `store_active_power`. -/
def EnergyView.store {b : Board} (v : EnergyView b) : EnergyView b :=
  { v with log := (energyLog b).put v.log (encodeWords fun c => toU32 (v.account c).total) }

/-- The view after the accumulators of channel `c` are deleted. -/
def EnergyView.clear {b : Board} (v : EnergyView b) (c : b.Chn) : EnergyView b :=
  { v with account := Function.update v.account c (v.account c).clear }

/-- The view after a publication of channel `c`. -/
def EnergyView.publish {b : Board} (v : EnergyView b) (c : b.Chn) : EnergyView b :=
  { v with
    published := Function.update v.published c
      (v.published c ++ [(toU32 (v.account c).total).toNat]) }

namespace EnergyState

variable {b : Board}

def view (s : EnergyState b) : EnergyView b where
  account c := (s.ch c).account
  log := s.log
  published c := publishedFor c s.out

@[simp] theorem upd_ch_self (s : EnergyState b) (c : b.Chn)
    (f : EnergyChannel → EnergyChannel) : (s.upd c f).ch c = f (s.ch c) := by
  simp [upd]

/-- Changing the entries of one channel changes the view by its account. -/
theorem view_upd (s : EnergyState b) (c : b.Chn) (f : EnergyChannel → EnergyChannel) :
    (s.upd c f).view =
      { s.view with account := Function.update s.view.account c (f (s.ch c)).account } := by
  refine EnergyView.ext (funext fun c' => ?_) rfl rfl
  by_cases h : c' = c
  · subst h
    simp [view, upd]
  · simp [view, upd, h]

/-- An update that leaves the accumulators alone. -/
theorem view_upd_same (s : EnergyState b) (c : b.Chn) {f : EnergyChannel → EnergyChannel}
    (h : (f (s.ch c)).account = (s.ch c).account) : (s.upd c f).view = s.view := by
  rw [view_upd, h]
  exact EnergyView.ext (Function.update_eq_self c s.view.account) rfl rfl

/-- Only `VD_ACTIVE_ENERGY_INFORMATION` publishes energy. -/
theorem view_send (s : EnergyState b) {o : EnergyOut}
    (h : ∀ c : b.Chn, publishedFor c [o] = []) : (s.send o).view = s.view := by
  refine EnergyView.ext rfl rfl (funext fun c => ?_)
  show publishedFor c (s.out ++ [o]) = publishedFor c s.out
  rw [publishedFor, List.filterMap_append]
  exact (congrArg _ (h c)).trans (List.append_nil _)

theorem onIdx_view (s : EnergyState b) (idx : Nat) {f : b.Chn → EnergyState b}
    (h : ∀ c, (f c).view = s.view) : (s.onIdx idx f).view = s.view := by
  rw [onIdx]
  split
  · exact h _
  · rfl

/-! ### Functions that leave the view alone -/

@[simp] theorem view_setupPublishEnergyDelay (s : EnergyState b) (c : b.Chn) (w : UInt32) :
    (s.setupPublishEnergyDelay c w).view = s.view := by
  refine s.view_upd_same c ?_
  split <;> rfl

@[simp] theorem view_setupPublishIupPfDelay (s : EnergyState b) (c : b.Chn) (w : UInt32)
    (src : SourceReport) : (s.setupPublishIupPfDelay c w src).view = s.view := by
  refine s.view_upd_same c ?_
  split <;> rfl

@[simp] theorem view_updateInputToReport (s : EnergyState b) (c : b.Chn) :
    (s.updateInputToReport c).view = s.view := s.view_upd_same c rfl

@[simp] theorem view_iupReportDone (s : EnergyState b) (c : b.Chn) :
    (s.iupReportDone c).view = s.view := s.view_upd_same c rfl

theorem view_publishIupPf (s : EnergyState b) (c : b.Chn) :
    (s.publishIupPf c).view = s.view := by
  rw [publishIupPf]
  dsimp only
  split
  · split
    · exact s.view_iupReportDone c
    · rw [view_iupReportDone, view_send _ (fun _ => rfl), view_updateInputToReport]
  · rfl

theorem view_publishPeriodic (rand : b.Chn → Nat → Nat) (s : EnergyState b) (c : b.Chn) :
    (publishPeriodic rand s c).view = s.view := by
  rw [publishPeriodic]
  dsimp only
  generalize hs' : (if clockTimeExceed s.env.timeS (s.ch c).publishIup.updateLastTS
    (s.ch c).iupTLenS then _ else s) = s'
  have hv : s'.view = s.view := by
    rw [← hs']
    split
    · rw [view_upd_same _ _ (by rfl), view_setupPublishIupPfDelay]
    · rfl
  split
  · rw [view_upd_same _ _ (by rfl), view_setupPublishEnergyDelay, hv]
  · exact hv

theorem view_checkPublishAllParameter (rand : b.Chn → Nat → Nat) (s : EnergyState b)
    (c : b.Chn) : (s.checkPublishAllParameter rand c).view = s.view := by
  rw [checkPublishAllParameter]
  dsimp only
  generalize hs' : (if (s.ch c).forceReportIup = true then _ else s) = s'
  have hv : s'.view = s.view := by
    rw [← hs']
    split
    · rw [view_upd_same _ _ (by rfl), view_updateInputToReport, view_setupPublishIupPfDelay]
    · rfl
  split
  · exact hv
  · split
    · rw [view_setupPublishIupPfDelay, view_upd_same _ _ (by rfl), hv]
    · exact hv

theorem view_handleRelayStateChange (s : EnergyState b) (idx : Nat) (st isFast : Bool)
    (rand : Nat) : (s.handleRelayStateChange idx st isFast rand).view = s.view := by
  refine s.onIdx_view idx fun c => ?_
  dsimp only
  have h1 : (s.upd c fun e => { e with
      forceReportIup := true, fastReportIup := isFast }).view = s.view :=
    s.view_upd_same c rfl
  split
  · have h2 := view_upd_same (s.upd c fun e => { e with
        forceReportIup := true, fastReportIup := isFast }) c
      (f := fun e => { e with activePowerMax := 0 }) rfl
    split
    · rw [view_setupPublishEnergyDelay, h2, h1]
    · rw [h2, h1]
  · exact h1

/-! ### Functions that change it -/

theorem view_calculatorKwh (rand : b.Chn → Nat → Nat) (s : EnergyState b) (c : b.Chn) :
    (calculatorKwh rand s c).view =
      { s.view with account :=
          Function.update s.view.account c (s.view.account c).calculate } := by
  rw [calculatorKwh, Account.calculate]
  dsimp only
  split
  · next h =>
    rw [if_pos (show (s.view.account c).offset ≠ 0 from h)]
    split
    · rw [view_setupPublishEnergyDelay, view_upd]
      rfl
    · rw [view_upd]
      rfl
  · next h =>
    rw [if_neg (show ¬ (s.view.account c).offset ≠ 0 from h)]
    split
    · next hv =>
      rw [if_pos (show (s.view.account c).cf > 0 from hv), view_upd]
      rfl
    · next hv =>
      rw [if_neg (show ¬ (s.view.account c).cf > 0 from hv)]
      exact EnergyView.ext (Function.update_eq_self c s.view.account).symm rfl rfl

/-- An iteration of the measurement loop has all four values of its round. -/
def Calculates (s : EnergyState b) (c : b.Chn) : Prop :=
  ¬ clockTimeExceed s.env.timeMs (s.ch c).queryTStart 2000 = true ∧
    (s.ch c).updatedFlag = ⟨true, true, true, true⟩

instance (s : EnergyState b) (c : b.Chn) : Decidable (s.Calculates c) :=
  inferInstanceAs (Decidable (_ ∧ _))

theorem view_measurement_eq (rand : b.Chn → Nat → Nat) (s : EnergyState b) (c : b.Chn) :
    (measurement rand s c).view =
      if s.Calculates c then
        { s.view with account :=
            Function.update s.view.account c (s.view.account c).calculate }
      else s.view := by
  rw [measurement]
  dsimp only
  by_cases hexceed : clockTimeExceed s.env.timeMs (s.ch c).queryTStart 2000 = true
  · -- a new round has no value yet
    rw [if_pos hexceed, if_neg fun h : s.Calculates c => h.1 hexceed]
    have hflags : ((((s.upd c fun e => { e with updatedFlag := ⟨false, false, false, false⟩ }).send
        (.measurementStart c)).upd c fun e => { e with
          queryTStart := s.env.timeMs }).ch c).updatedFlag = ⟨false, false, false, false⟩ := by
      simp [upd, send]
    rw [if_neg (by
      intro h
      cases hflags.symm.trans h)]
    rw [view_upd_same _ _ (by rfl), view_send _ (fun _ => rfl), view_upd_same _ _ (by rfl)]
  · rw [if_neg hexceed]
    by_cases hflags : (s.ch c).updatedFlag = ⟨true, true, true, true⟩
    · rw [if_pos hflags, if_pos ⟨hexceed, hflags⟩, view_calculatorKwh,
        view_checkPublishAllParameter, view_upd_same _ _ (by rfl)]
    · rw [if_neg hflags, if_neg fun h : s.Calculates c => hflags h.2]

theorem view_measurement (rand : b.Chn → Nat → Nat) (s : EnergyState b) (c : b.Chn) :
    (measurement rand s c).view = s.view ∨
    (measurement rand s c).view =
      { s.view with account :=
          Function.update s.view.account c (s.view.account c).calculate } := by
  rw [view_measurement_eq]
  split
  · exact Or.inr rfl
  · exact Or.inl rfl

theorem view_storeActivePower (s : EnergyState b) : s.storeActivePower.view = s.view.store :=
  rfl

theorem view_send_activeEnergy (s : EnergyState b) (c : b.Chn) (st : Bool) (wh : UInt32) :
    (s.send (.activeEnergy c st wh)).view =
      { s.view with
        published := Function.update s.view.published c (s.view.published c ++ [wh.toNat]) } := by
  refine EnergyView.ext rfl rfl (funext fun c' => ?_)
  show publishedFor c' (s.out ++ [.activeEnergy c st wh]) = _
  rw [publishedFor, List.filterMap_append]
  by_cases h : c' = c
  · subst h
    simp [view, publishedFor]
  · have hne : c.val ≠ c'.val := fun hx => h (Fin.ext hx.symm)
    simp [view, publishedFor, h, hne]

/-- An iteration of the publication loop fires. -/
def PublishDue (s : EnergyState b) (c : b.Chn) : Prop :=
  (s.ch c).publishEnergy.enable = true ∧
    clockTimeExceed s.env.timeMs (s.ch c).publishEnergy.startTMs
      (s.ch c).publishEnergy.waitTMs = true

/-- It stores, too. -/
def NeedSave (s : EnergyState b) (c : b.Chn) : Prop :=
  (s.ch c).totalActiveEnergy - (s.ch c).reported.activeEnergy > 1

instance (s : EnergyState b) (c : b.Chn) : Decidable (s.PublishDue c) :=
  inferInstanceAs (Decidable (_ ∧ _))

instance (s : EnergyState b) (c : b.Chn) : Decidable (s.NeedSave c) :=
  inferInstanceAs (Decidable (_ > _))

/-- An iteration of the publication loop that fires. -/
theorem view_publishActiveEnergy_fires (s : EnergyState b) (c : b.Chn)
    (h1 : (s.ch c).publishEnergy.enable = true)
    (h2 : clockTimeExceed s.env.timeMs (s.ch c).publishEnergy.startTMs
      (s.ch c).publishEnergy.waitTMs = true) :
    (s.publishActiveEnergy c).view =
      (if (s.ch c).totalActiveEnergy - (s.ch c).reported.activeEnergy > 1 then s.view.store
        else s.view).publish c := by
  rw [publishActiveEnergy]
  simp only [h1, h2, Bool.and_self, if_true, decide_eq_true_eq]
  generalize hs' : (s.upd c fun e => { e with
    reported := { e.reported with activeEnergy := e.totalActiveEnergy }
    updateWhTStart := s.env.timeMs }) = s'
  have hv : s'.view = s.view := by
    rw [← hs']
    exact s.view_upd_same c rfl
  have hr : (s'.ch c).reported.activeEnergy = (s.view.account c).total := by
    rw [← hs', upd_ch_self]
    rfl
  rw [view_upd_same _ _ (by rfl), view_send_activeEnergy]
  split
  · rw [view_storeActivePower, hv, EnergyView.publish]
    show EnergyView.mk _ _
      (Function.update _ c (_ ++ [(toU32 (s'.ch c).reported.activeEnergy).toNat])) = _
    rw [hr]
    rfl
  · rw [hv, EnergyView.publish, hr]

theorem publishActiveEnergy_idle (s : EnergyState b) (c : b.Chn)
    (h : ¬ ((s.ch c).publishEnergy.enable = true ∧
      clockTimeExceed s.env.timeMs (s.ch c).publishEnergy.startTMs
        (s.ch c).publishEnergy.waitTMs = true)) : s.publishActiveEnergy c = s := by
  rw [publishActiveEnergy]
  rw [← Bool.and_eq_true] at h
  rw [if_neg h]

/-- An iteration of the publication loop leaves the other channels and the clock alone. -/
theorem publishActiveEnergy_other (s : EnergyState b) {c c' : b.Chn} (h : c' ≠ c) :
    (s.publishActiveEnergy c).ch c' = s.ch c' ∧ (s.publishActiveEnergy c).env = s.env := by
  unfold publishActiveEnergy
  dsimp only
  split
  · split
    · simp [upd, send, storeActivePower, storeRecord, h]
    · simp [upd, send, h]
  · exact ⟨rfl, rfl⟩

/-- Behind it, no publication of its channel is due. -/
theorem not_publishDue_publishActiveEnergy (s : EnergyState b) (c : b.Chn) :
    ¬ (s.publishActiveEnergy c).PublishDue c := by
  by_cases hdue : s.PublishDue c
  · intro h
    have henable := h.1
    have hfire : ((s.ch c).publishEnergy.enable && clockTimeExceed s.env.timeMs
        (s.ch c).publishEnergy.startTMs (s.ch c).publishEnergy.waitTMs) = true := by
      rw [hdue.1, hdue.2]
      rfl
    rw [publishActiveEnergy, if_pos hfire, upd_ch_self] at henable
    cases henable
  · rw [s.publishActiveEnergy_idle c hdue]
    exact hdue

/-- Only a count of energy changes an account. -/
theorem view_handleMeasurementComplete (s : EnergyState b) (idx : Nat) {mType : MType}
    (h : mType ≠ .activeEnergy) (v : ℚ) :
    (s.handleMeasurementComplete idx mType v).view = s.view := by
  refine s.onIdx_view idx fun c => ?_
  cases mType with
  | current => exact s.view_upd_same c rfl
  | activePower => exact s.view_upd_same c rfl
  | activeEnergy => exact absurd rfl h
  | voltage =>
    dsimp only
    split
    · rfl
    · split
      · rw [view_send _ (fun _ => rfl)]
        rfl
      · rfl

theorem view_measureEnergy (s : EnergyState b) (c : b.Chn) (v : ℚ) :
    (s.handleMeasurementComplete c .activeEnergy v).view =
      { s.view with
        account := Function.update s.view.account c ((s.view.account c).measure v) } := by
  simp only [handleMeasurementComplete, onIdx, c.isLt, dif_pos]
  rw [view_upd]
  rfl

theorem view_overflow (s : EnergyState b) (c : b.Chn) :
    (s.handleCfCntScaleOverflow c).view =
      { s.view with
        account := Function.update s.view.account c (s.view.account c).overflow } := by
  simp only [handleCfCntScaleOverflow, onIdx, c.isLt, dif_pos]
  rw [view_upd]
  rfl

/-- A channel the board does not have. -/
theorem onIdx_of_ge (s : EnergyState b) {idx : Nat} (h : ¬ idx < b.numberRl)
    (f : b.Chn → EnergyState b) : s.onIdx idx f = s := dif_neg h

theorem handleMeasurementComplete_of_ge (s : EnergyState b) {idx : Nat}
    (h : ¬ idx < b.numberRl) (mType : MType) (v : ℚ) :
    s.handleMeasurementComplete idx mType v = s := s.onIdx_of_ge h _

theorem handleCfCntScaleOverflow_of_ge (s : EnergyState b) {idx : Nat}
    (h : ¬ idx < b.numberRl) : s.handleCfCntScaleOverflow idx = s := s.onIdx_of_ge h _

theorem handleDeletePowerInformation_of_ge (s : EnergyState b) {idx : Nat}
    (h : ¬ idx < b.numberRl) : s.handleDeletePowerInformation idx = s := s.onIdx_of_ge h _

theorem view_delete (s : EnergyState b) (c : b.Chn) :
    (s.handleDeletePowerInformation c).view = (s.view.clear c).store := by
  simp only [handleDeletePowerInformation, onIdx, c.isLt, dif_pos]
  rw [view_setupPublishEnergyDelay, view_storeActivePower, view_upd]
  rfl

theorem view_clean (s : EnergyState b) :
    s.energyCleanAllActivePower.view =
      { s.view with log := (energyLog b).put s.view.log (encodeWords fun _ : b.Chn => 0) } :=
  rfl

/-- A reboot makes history of the records. -/
theorem view_reboot (rand : b.Chn → Nat → Nat) (s : EnergyState b) :
    (s.reboot rand).view =
      { s.view with
        log := (energyLog b).reindex s.view.log
        account := fun c => Account.boot
          (EnergyView.recorded { s.view with log := (energyLog b).reindex s.view.log } c) } := by
  refine EnergyView.ext (funext fun c => ?_) rfl rfl
  refine Account.ext ?_ rfl rfl rfl
  show (if _ = 0xFFFFFFFF then 0 else _) = ((if _ = 0xFFFFFFFF then 0 else _ : Nat) : ℚ)
  rw [Nat.cast_ite, Nat.cast_zero]
  rfl

end EnergyState

end LumesSwitch
