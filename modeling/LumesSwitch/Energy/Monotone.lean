import LumesSwitch.Energy.Account
import LumesSwitch.Flash.WordLog

/-!
# Persisted and published energy

The module is driven by the events of `EnergyEvent`, in any order. `EnergyRun`
keeps, beside the device state, the last Wh value published for each channel
since its last delete.

Neither the record nor the published values are monotone: while a running
total has not caught up with its history, `store_active_power` writes it and a
publication sends it all the same; and a publication of a total that is not
stored is lost by a reboot. `AccountingOk` says that no step does this, and

- `EnergyInv` — the invariant: records and published values are at most the
  level of their accounts;
- `EnergyInv.step` — what one event preserves under `AccountingOk`;
- `energy_monotone_of_accountingOk` — in every run whose steps meet it, records
  and published values never fall except by a delete;
- `energy_not_monotone` — without it they do.
-/

namespace LumesSwitch

open Runs Words Nor

/-! ## Events and runs -/

/-- What happens to the module. -/
inductive EnergyEvent (b : Board) where
  /-- a measurement-complete callback -/
  | measurement (idx : Nat) (mType : MType) (value : ℚ)
  /-- a CF-overflow callback; the driver then reports the restarted count -/
  | cfOverflow (idx : Nat) (report : Option ℚ)
  | relayStateChange (idx : Nat) (st isFast : Bool) (rand : Nat)
  | publishActiveEnergyDelayProc
  | publishIupPfDelayProc
  | publishPeriodicProc (rand : b.Chn → Nat → Nat)
  | measurementProc (rand : b.Chn → Nat → Nat)
  /-- a gateway query: `energy_setup_publish_energy_delay(idx, 0)` -/
  | queryActiveEnergy (idx : Nat)
  | store
  | delete (idx : Nat)
  /-- `energy_clean_all_active_power` after a passed factory test -/
  | clean
  | reboot (rand : b.Chn → Nat → Nat)
  /-- the clock and the other modules go on -/
  | environment (env : EnergyEnv)

variable {b : Board}

/-- The function of `energy.c` an event runs. -/
def EnergyState.handle (s : EnergyState b) : EnergyEvent b → EnergyState b
  | .measurement idx mType value => s.handleMeasurementComplete idx mType value
  | .cfOverflow idx none => s.handleCfCntScaleOverflow idx
  | .cfOverflow idx (some v) =>
    (s.handleCfCntScaleOverflow idx).handleMeasurementComplete idx .activeEnergy v
  | .relayStateChange idx st isFast rand => s.handleRelayStateChange idx st isFast rand
  | .publishActiveEnergyDelayProc => s.publishActiveEnergyDelayProc
  | .publishIupPfDelayProc => s.publishIupPfDelayProc
  | .publishPeriodicProc rand => s.publishPeriodicProc rand
  | .measurementProc rand => s.measurementProc rand
  | .queryActiveEnergy idx => s.onIdx idx fun c => s.setupPublishEnergyDelay c 0
  | .store => s.storeActivePower
  | .delete idx => s.handleDeletePowerInformation idx
  | .clean => s.energyCleanAllActivePower
  | .reboot rand => s.reboot rand
  | .environment env => { s with env := env }

/-- The events that clear the energy of channel `c`. -/
def EnergyEvent.Clears (c : b.Chn) : EnergyEvent b → Prop
  | .delete idx => c.val = idx
  | .clean => True
  | _ => False

instance (c : b.Chn) (ev : EnergyEvent b) : Decidable (ev.Clears c) :=
  match ev with
  | .delete idx => inferInstanceAs (Decidable (c.val = idx))
  | .clean => isTrue trivial
  | .measurement .. | .cfOverflow .. | .relayStateChange .. | .publishActiveEnergyDelayProc
  | .publishIupPfDelayProc | .publishPeriodicProc _ | .measurementProc _
  | .queryActiveEnergy _ | .store | .reboot _ | .environment _ => isFalse id

/-- A device, and the last value published for each channel since it was cleared. -/
structure EnergyRun (b : Board) where
  dev : EnergyState b
  lastPub : b.Chn → Nat

namespace EnergyRun

/-- The device at the start of a step: nothing sent yet. -/
def start (r : EnergyRun b) : EnergyState b := { r.dev with out := [] }

/-- The last published values a step starts from. -/
def pubBase (r : EnergyRun b) (ev : EnergyEvent b) (c : b.Chn) : Nat :=
  if ev.Clears c then 0 else r.lastPub c

def step (r : EnergyRun b) (ev : EnergyEvent b) : EnergyRun b where
  dev := r.start.handle ev
  lastPub c := (publishedFor c (r.start.handle ev).out).getLastD (r.pubBase ev c)

/-- The first boot on an erased sector. -/
def firstBoot (rand : b.Chn → Nat → Nat) (index : Nat) (mem : Mem) (env : EnergyEnv) :
    EnergyRun b where
  dev := EnergyState.reboot rand
    { ch := fun _ => EnergyState.ramCleared
      log := ⟨index, erase (energyLog b).flashAdr flashSectorSize mem⟩
      env := env
      out := [] }
  lastPub _ := 0

/-- The driver's counts never fall, except that an overflow restarts them. -/
def DriverOk (r : EnergyRun b) : EnergyEvent b → Prop
  | .measurement idx .activeEnergy v =>
    ∀ c : b.Chn, c.val = idx → (r.dev.ch c).value.activeEnergy ≤ v
  | .cfOverflow _ (some v) => 0 ≤ v
  | _ => True

instance (r : EnergyRun b) (ev : EnergyEvent b) : Decidable (r.DriverOk ev) :=
  match ev with
  | .measurement _ .activeEnergy _ => inferInstanceAs (Decidable (∀ _, _ → _))
  | .cfOverflow _ (some _) => inferInstanceAs (Decidable (_ ≤ _))
  | .measurement _ .current _ | .measurement _ .voltage _ | .measurement _ .activePower _
  | .cfOverflow _ none | .relayStateChange .. | .publishActiveEnergyDelayProc
  | .publishIupPfDelayProc | .publishPeriodicProc _ | .measurementProc _
  | .queryActiveEnergy _ | .store | .delete _ | .clean | .reboot _ | .environment _ =>
    isTrue trivial

/-- A step keeps the energy of the channels it does not clear: their records
do not fall, and neither do the values it publishes. -/
def StepMono (r : EnergyRun b) (ev : EnergyEvent b) : Prop :=
  ∀ c : b.Chn, ¬ ev.Clears c →
    r.dev.view.recorded c ≤ (r.step ev).dev.view.recorded c ∧
    (r.lastPub c :: publishedFor c (r.step ev).dev.out).Pairwise (· ≤ ·)

instance (r : EnergyRun b) (ev : EnergyEvent b) : Decidable (r.StepMono ev) :=
  inferInstanceAs (Decidable (∀ _, _ → _))

end EnergyRun

/-! ## The condition -/

namespace EnergyState

/-- Every running total may be written over its record. -/
def StoreOk (s : EnergyState b) : Prop :=
  ∀ c, (s.ch c).account.Resumed ∧ (s.ch c).account.Fits

/-- An iteration of the publication loop that publishes finds its running total
caught up, and one that stores finds all of them so. -/
def PublishOk (s : EnergyState b) (c : b.Chn) : Prop :=
  (s.ch c).publishEnergy.enable = true →
  clockTimeExceed s.env.timeMs (s.ch c).publishEnergy.startTMs
    (s.ch c).publishEnergy.waitTMs = true →
  (s.ch c).account.Resumed ∧ (s.ch c).account.Fits ∧
    ((s.ch c).totalActiveEnergy - (s.ch c).reported.activeEnergy > 1 → s.StoreOk)

end EnergyState

/-- No step stores, publishes or carries over a running total that has not
caught up with its history, and no reboot comes between a publication and the
store of the published value. -/
def EnergyRun.AccountingOk (r : EnergyRun b) : EnergyEvent b → Prop
  | .publishActiveEnergyDelayProc =>
    AllSteps EnergyState.publishActiveEnergy EnergyState.PublishOk r.start b.chns
  | .store => r.dev.StoreOk
  | .delete idx => ∀ c : b.Chn, c.val ≠ idx →
    (r.dev.ch c).account.Resumed ∧ (r.dev.ch c).account.Fits
  | .cfOverflow idx _ => ∀ c : b.Chn, c.val = idx → (r.dev.ch c).account.Resumed
  | .reboot _ => ∀ c, r.lastPub c ≤ r.dev.view.recorded c
  | _ => True

instance (s : EnergyState b) : Decidable s.StoreOk :=
  inferInstanceAs (Decidable (∀ _, _ ∧ _))

instance (s : EnergyState b) (c : b.Chn) : Decidable (s.PublishOk c) :=
  inferInstanceAs (Decidable (_ → _ → _))

instance (r : EnergyRun b) (ev : EnergyEvent b) : Decidable (r.AccountingOk ev) :=
  match ev with
  | .publishActiveEnergyDelayProc => inferInstanceAs (Decidable (AllSteps _ _ _ _))
  | .store => inferInstanceAs (Decidable (EnergyState.StoreOk _))
  | .delete _ => inferInstanceAs (Decidable (∀ _, _ → _))
  | .cfOverflow _ _ => inferInstanceAs (Decidable (∀ _, _ → _))
  | .reboot _ => inferInstanceAs (Decidable (∀ _, _ ≤ _))
  | .measurement .. | .relayStateChange .. | .publishIupPfDelayProc | .publishPeriodicProc _
  | .measurementProc _ | .queryActiveEnergy _ | .clean | .environment _ => isTrue trivial

/-! ## The record in flash -/

/-- The address of the energy log. -/
theorem energyLog_eq : energyLog b = wordLog b 0x7F000 := rfl

/-- The sector holds a log. -/
def LogOk (b : Board) (log : LogState) : Prop := ∃ v, LogRel (energyLog b) log v

namespace LogOk

variable {log : LogState}

/-- A stored record reads back, unless all of its words are those of erased flash. -/
theorem put (h : LogOk b log) (tmp : b.Chn → UInt32) (hne : ∃ c, tmp c ≠ 0xFFFFFFFF) :
    LogOk b ((energyLog b).put log (encodeWords tmp)) ∧
    decodeWords ((energyLog b).restore ((energyLog b).put log (encodeWords tmp))) = tmp := by
  have ⟨_, hv⟩ := h
  exact LogRel.put_words (b := b) hv hne

theorem reindex (h : LogOk b log) : LogOk b ((energyLog b).reindex log) ∧
    (energyLog b).restore ((energyLog b).reindex log) = (energyLog b).restore log := by
  obtain ⟨v, hv⟩ := h
  exact ⟨⟨v, hv.reindex⟩, hv.reindex.restore_eq.trans hv.restore_eq.symm⟩

end LogOk

/-! ## The invariant -/

/-- Records and published values are covered by the accounts. `p` holds the
values published before the ones in the view. -/
structure EnergyInv (p : b.Chn → Nat) (v : EnergyView b) : Prop where
  log : LogOk b v.log
  account : ∀ c, (v.account c).Ok
  recorded_le : ∀ c, (v.recorded c : ℤ) ≤ (v.account c).level
  sorted : ∀ c, (p c :: v.published c).Pairwise (· ≤ ·)
  published_le : ∀ c, ∀ x ∈ p c :: v.published c, (x : ℤ) ≤ (v.account c).level

namespace EnergyInv

variable {p : b.Chn → Nat} {v : EnergyView b}

/-- Accounts may change as long as they stay well formed and do not fall. -/
theorem accounts (h : EnergyInv p v) {a : b.Chn → Account}
    (ha : ∀ c, (a c).Ok ∧ (v.account c).level ≤ (a c).level) :
    EnergyInv p { v with account := a } where
  log := h.log
  account c := (ha c).1
  recorded_le c := le_trans (h.recorded_le c) (ha c).2
  sorted := h.sorted
  published_le c x hx := le_trans (h.published_le c x hx) (ha c).2

/-- One account changes. -/
theorem account_update (h : EnergyInv p v) (c : b.Chn) {a : Account} (ha : a.Ok)
    (hl : (v.account c).level ≤ a.level) :
    EnergyInv p { v with account := Function.update v.account c a } :=
  h.accounts ((Function.forall_update_iff _ fun c' (x : Account) => x.Ok ∧
    (v.account c').level ≤ x.level).mpr ⟨⟨ha, hl⟩, fun c' _ => ⟨h.account c', le_refl _⟩⟩)

/-- What a store of fitting totals leaves in the record. -/
theorem recorded_store (hlog : LogOk b v.log) (ha : ∀ c, (v.account c).Ok)
    (hf : ∀ c, (v.account c).Fits) :
    LogOk b v.store.log ∧ ∀ c, (v.store.recorded c : ℤ) = ⌊(v.account c).total⌋ := by
  have hword := fun c => (ha c).stored_word (hf c)
  obtain ⟨hput, hdec⟩ := hlog.put (fun c => toU32 (v.account c).total)
    ⟨⟨0, b.one_le⟩, (hword _).1⟩
  refine ⟨hput, fun c => ?_⟩
  simp only [EnergyView.recorded, EnergyView.store, hdec]
  rw [if_neg (hword c).1, (hword c).2]

/-- **Store**: writing running totals that are caught up keeps the invariant
and lowers no record. -/
theorem store (h : EnergyInv p v)
    (hok : ∀ c, (v.account c).Resumed ∧ (v.account c).Fits) :
    EnergyInv p v.store ∧ ∀ c, v.recorded c ≤ v.store.recorded c := by
  obtain ⟨hlog, hrec⟩ := recorded_store h.log h.account fun c => (hok c).2
  constructor
  · refine ⟨hlog, h.account, fun c => ?_, h.sorted, h.published_le⟩
    rw [hrec c]
    exact le_max_right _ _
  · -- the old record is at most the level, which is the total just written
    intro c
    have hle := h.recorded_le c
    rw [(hok c).1.level_eq, ← hrec c] at hle
    exact_mod_cast hle

/-- **Delete**: the other channels must be caught up. -/
theorem delete {q : b.Chn → Nat} (h : EnergyInv p v) (c0 : b.Chn)
    (hok : ∀ c, c ≠ c0 → (v.account c).Resumed ∧ (v.account c).Fits)
    (hp0 : q c0 = 0) (hp : ∀ c, c ≠ c0 → q c = p c) (hpub : v.published c0 = []) :
    EnergyInv q (v.clear c0).store ∧
    ∀ c, c ≠ c0 → v.recorded c ≤ (v.clear c0).store.recorded c := by
  have hself : (v.clear c0).account c0 = (v.account c0).clear := Function.update_self ..
  have hother : ∀ c, c ≠ c0 → (v.clear c0).account c = v.account c :=
    fun c hc => Function.update_of_ne hc ..
  have hacc : ∀ c, ((v.clear c0).account c).Ok ∧ ((v.clear c0).account c).Fits := by
    intro c
    by_cases hc : c = c0
    · subst hc
      rw [hself]
      exact ⟨(h.account c).clear, Account.Ok.clear_fits⟩
    · rw [hother c hc]
      exact ⟨h.account c, (hok c hc).2⟩
  obtain ⟨hlog, hrec⟩ := recorded_store (v := v.clear c0) h.log (fun c => (hacc c).1)
    (fun c => (hacc c).2)
  refine ⟨?inv, fun c hc => ?mono⟩
  case inv =>
    constructor
    case log => exact hlog
    case account => exact fun c => (hacc c).1
    case recorded_le =>
      intro c
      rw [hrec c]
      exact le_max_right _ _
    case sorted =>
      intro c
      show (q c :: v.published c).Pairwise _
      by_cases hc : c = c0
      · subst hc
        rw [hpub]
        exact List.pairwise_singleton _ _
      · rw [hp c hc]
        exact h.sorted c
    case published_le =>
      intro c x hx
      change x ∈ q c :: v.published c at hx
      show (x : ℤ) ≤ ((v.clear c0).account c).level
      by_cases hc : c = c0
      · -- nothing was published for the deleted channel since its delete
        subst hc
        rw [hpub, hp0] at hx
        rw [List.mem_singleton.mp hx]
        exact (hacc c).1.level_nonneg
      · rw [hp c hc] at hx
        rw [hother c hc]
        exact h.published_le c x hx
  case mono =>
    have hle := h.recorded_le c
    rw [(hok c hc).1.level_eq, ← hother c hc, ← hrec c] at hle
    exact_mod_cast hle

/-- **Publish**: sending a running total that is caught up. -/
theorem publish (h : EnergyInv p v) {c : b.Chn} (hr : (v.account c).Resumed)
    (hf : (v.account c).Fits) : EnergyInv p (v.publish c) := by
  have hx : ((toU32 (v.account c).total).toNat : ℤ) = (v.account c).level := by
    rw [hr.level_eq]
    exact ((h.account c).stored_word hf).2
  constructor
  case log => exact h.log
  case account => exact h.account
  case recorded_le => exact h.recorded_le
  case sorted =>
    intro c'
    by_cases hc : c' = c
    · -- what was published before is at most the level, which is the value sent now
      subst hc
      simp only [EnergyView.publish, Function.update_self]
      rw [← List.cons_append, List.pairwise_append]
      refine ⟨h.sorted c', List.pairwise_singleton _ _, fun y hy z hz => ?_⟩
      rw [List.mem_singleton.mp hz]
      have hy' := h.published_le c' y hy
      rw [← hx] at hy'
      exact_mod_cast hy'
    · simp only [EnergyView.publish, Function.update_of_ne hc]
      exact h.sorted c'
  case published_le =>
    intro c' x
    by_cases hc : c' = c
    · subst hc
      simp only [EnergyView.publish, Function.update_self]
      rw [← List.cons_append, List.mem_append, List.mem_singleton]
      rintro (hm | rfl)
      · exact h.published_le c' x hm
      · exact le_of_eq hx
    · simp only [EnergyView.publish, Function.update_of_ne hc]
      exact h.published_le c' x

/-- **Publication loop, one iteration**. -/
theorem publishActiveEnergy {s : EnergyState b} (h : EnergyInv p s.view) (c : b.Chn)
    (hok : s.PublishOk c) :
    EnergyInv p (s.publishActiveEnergy c).view ∧
    ∀ c', s.view.recorded c' ≤ (s.publishActiveEnergy c).view.recorded c' := by
  by_cases hfire : (s.ch c).publishEnergy.enable = true ∧
      clockTimeExceed s.env.timeMs (s.ch c).publishEnergy.startTMs
        (s.ch c).publishEnergy.waitTMs = true
  · obtain ⟨hr, hf, hstore⟩ := hok hfire.1 hfire.2
    rw [s.view_publishActiveEnergy_fires c hfire.1 hfire.2]
    split
    · next hsave =>
      obtain ⟨hi, hmono⟩ := h.store fun c' => hstore hsave c'
      exact ⟨hi.publish hr hf, hmono⟩
    · exact ⟨h.publish hr hf, fun _ => le_refl _⟩
  · rw [s.publishActiveEnergy_idle c hfire]
    exact ⟨h, fun _ => le_refl _⟩

/-- **Publication loop**. -/
theorem publishActiveEnergyDelayProc {s : EnergyState b} (h : EnergyInv p s.view)
    {cs : List b.Chn}
    (hok : AllSteps EnergyState.publishActiveEnergy EnergyState.PublishOk s cs) :
    EnergyInv p (runFrom EnergyState.publishActiveEnergy s cs).view ∧
    ∀ c, s.view.recorded c ≤
      (runFrom EnergyState.publishActiveEnergy s cs).view.recorded c := by
  refine AllSteps.invariant (I := fun s' : EnergyState b => EnergyInv p s'.view ∧
    ∀ c, s.view.recorded c ≤ s'.view.recorded c) ?_ ⟨h, fun _ => le_refl _⟩ hok
  rintro s' c ⟨hi, hmono⟩ hc
  obtain ⟨hi', hmono'⟩ := hi.publishActiveEnergy c hc
  exact ⟨hi', fun c' => le_trans (hmono c') (hmono' c')⟩

/-- **Measurement loop**: it only computes accounts. -/
theorem measurementProc {s : EnergyState b} (h : EnergyInv p s.view)
    (rand : b.Chn → Nat → Nat) (cs : List b.Chn) :
    EnergyInv p (runFrom (EnergyState.measurement rand) s cs).view ∧
    (runFrom (EnergyState.measurement rand) s cs).view.log = s.view.log := by
  refine invariant_runFrom
    (I := fun s' : EnergyState b => EnergyInv p s'.view ∧ s'.view.log = s.view.log)
    ?_ ⟨h, rfl⟩ cs
  rintro s' c ⟨hi, hlog⟩
  rcases EnergyState.view_measurement rand s' c with hv | hv
  · rw [hv]
    exact ⟨hi, hlog⟩
  · rw [hv]
    exact ⟨hi.account_update c (hi.account c).calculate (hi.account c).level_calculate, hlog⟩

end EnergyInv

/-! ## One event -/

namespace EnergyRun

/-- The invariant between events. -/
def Inv (r : EnergyRun b) : Prop := EnergyInv r.lastPub r.start.view

/-- What an event must do: keep the invariant for the values published since a
clear, and lower no record it does not clear. -/
def Good (r : EnergyRun b) (ev : EnergyEvent b) : Prop :=
  EnergyInv (r.pubBase ev) (r.start.handle ev).view ∧
  ∀ c, ¬ ev.Clears c → r.dev.view.recorded c ≤ (r.start.handle ev).view.recorded c

variable {r : EnergyRun b}

theorem pubBase_eq {ev : EnergyEvent b} (h : ∀ c, ¬ ev.Clears c) :
    r.pubBase ev = r.lastPub := funext fun c => if_neg (h c)

/-- An event that clears nothing. -/
theorem good_of (ev : EnergyEvent b) (hc : ∀ c, ¬ ev.Clears c)
    (hi : EnergyInv r.lastPub (r.start.handle ev).view)
    (hm : ∀ c, r.start.view.recorded c ≤ (r.start.handle ev).view.recorded c) :
    r.Good ev := by
  refine ⟨?_, fun c _ => hm c⟩
  rw [pubBase_eq hc]
  exact hi

/-- An event that leaves the view alone. -/
theorem good_of_view (h : r.Inv) (ev : EnergyEvent b) (hc : ∀ c, ¬ ev.Clears c)
    (hv : (r.start.handle ev).view = r.start.view) : r.Good ev := by
  refine good_of ev hc ?_ fun c => ?_
  · rw [hv]
    exact h
  · rw [hv]

/-- An event that changes one account. -/
theorem good_of_account (h : r.Inv) (ev : EnergyEvent b) (hc : ∀ c, ¬ ev.Clears c)
    (c : b.Chn) {a : Account} (ha : a.Ok) (hl : (r.start.view.account c).level ≤ a.level)
    (hv : (r.start.handle ev).view =
      { r.start.view with account := Function.update r.start.view.account c a }) :
    r.Good ev := by
  refine good_of ev hc ?_ fun c' => ?_
  · rw [hv]
    exact EnergyInv.account_update h c ha hl
  · rw [hv]
    exact le_refl _

theorem good_measurement (h : r.Inv) (idx : Nat) (mType : MType) (v : ℚ)
    (hd : r.DriverOk (.measurement idx mType v)) : r.Good (.measurement idx mType v) := by
  by_cases hm : mType = .activeEnergy
  · subst hm
    by_cases hidx : idx < b.numberRl
    · have ha := EnergyInv.account h ⟨idx, hidx⟩
      exact good_of_account h _ (fun _ => id) ⟨idx, hidx⟩ (ha.measure (hd _ rfl)) (le_refl _)
        (r.start.view_measureEnergy ⟨idx, hidx⟩ v)
    · exact good_of_view h _ (fun _ => id)
        (congrArg EnergyState.view
          (r.start.handleMeasurementComplete_of_ge hidx .activeEnergy v))
  · exact good_of_view h _ (fun _ => id) (r.start.view_handleMeasurementComplete idx hm v)

theorem good_cfOverflow (h : r.Inv) (idx : Nat) (report : Option ℚ)
    (hd : r.DriverOk (.cfOverflow idx report)) (hok : r.AccountingOk (.cfOverflow idx report)) :
    r.Good (.cfOverflow idx report) := by
  by_cases hidx : idx < b.numberRl
  · have ha := EnergyInv.account h ⟨idx, hidx⟩
    have hr := hok ⟨idx, hidx⟩ rfl
    have hl := ha.level_overflow hr
    have hv := r.start.view_overflow ⟨idx, hidx⟩
    cases report with
    | none => exact good_of_account h _ (fun _ => id) ⟨idx, hidx⟩ ha.overflow (le_of_eq hl.symm) hv
    | some v =>
      refine good_of_account h _ (fun _ => id) ⟨idx, hidx⟩ (ha.overflow_measure hd)
        (le_of_eq hl.symm) ?_
      have hv' := (r.start.handleCfCntScaleOverflow idx).view_measureEnergy ⟨idx, hidx⟩ v
      rw [hv] at hv'
      simp only [Function.update_self, Function.update_idem] at hv'
      exact hv'
  · have hv := r.start.handleCfCntScaleOverflow_of_ge hidx
    cases report with
    | none => exact good_of_view h _ (fun _ => id) (congrArg EnergyState.view hv)
    | some v =>
      refine good_of_view h _ (fun _ => id) ?_
      show ((r.start.handleCfCntScaleOverflow idx).handleMeasurementComplete idx
        .activeEnergy v).view = _
      rw [hv, r.start.handleMeasurementComplete_of_ge hidx]

/-- Deleting a channel writes 0 for it and the running totals of the others. -/
theorem good_delete (h : r.Inv) (idx : Nat) (hok : r.AccountingOk (.delete idx)) :
    r.Good (.delete idx) := by
  by_cases hidx : idx < b.numberRl
  · obtain ⟨c0, hc0⟩ : ∃ c0 : b.Chn, c0.val = idx := ⟨⟨idx, hidx⟩, rfl⟩
    subst hc0
    have hne : ∀ c : b.Chn, c ≠ c0 → c.val ≠ c0.val := fun c hc hx => hc (Fin.ext hx)
    have hview : (r.start.handle (.delete c0.val)).view = (r.start.view.clear c0).store :=
      r.start.view_delete c0
    obtain ⟨hi, hm⟩ := EnergyInv.delete (q := r.pubBase (.delete c0.val)) h c0
      (fun c hc => hok c (hne c hc)) (if_pos rfl) (fun c hc => if_neg (hne c hc)) rfl
    refine ⟨?_, fun c hclear => ?_⟩
    · rw [hview]
      exact hi
    · rw [hview]
      exact hm c fun hx => hclear (congrArg Fin.val hx)
  · have hsame : r.start.handle (.delete idx) = r.start :=
      r.start.handleDeletePowerInformation_of_ge hidx
    have hp : r.pubBase (.delete idx) = r.lastPub := by
      refine pubBase_eq fun c hc => hidx ?_
      rw [← show c.val = idx from hc]
      exact c.isLt
    refine ⟨?_, fun c _ => ?_⟩
    · rw [hp, hsame]
      exact h
    · rw [hsame]
      exact le_refl _

/-- A factory clean writes 0 for every channel. -/
theorem good_clean (h : r.Inv) : r.Good .clean := by
  obtain ⟨hlog, hdec⟩ := h.log.put (fun _ : b.Chn => 0) ⟨⟨0, b.one_le⟩, by decide⟩
  refine ⟨?_, fun c hc => absurd trivial hc⟩
  constructor
  case log => exact hlog
  case account => exact h.account
  case recorded_le =>
    intro c
    have h0 : (r.start.handle .clean).view.recorded c = 0 := by
      show EnergyView.recorded r.start.energyCleanAllActivePower.view c = 0
      simp only [EnergyState.view_clean, EnergyView.recorded, hdec]
      rfl
    rw [h0]
    exact (EnergyInv.account h c).level_nonneg
  case sorted => exact fun c => List.pairwise_singleton _ _
  case published_le =>
    intro c x hx
    have hx' : x = 0 := List.mem_singleton.mp hx
    rw [hx']
    exact (EnergyInv.account h c).level_nonneg

/-- A reboot reads the records back. -/
theorem good_reboot (h : r.Inv) (rand : b.Chn → Nat → Nat) (hok : r.AccountingOk (.reboot rand)) :
    r.Good (.reboot rand) := by
  obtain ⟨hlog, hres⟩ := h.log.reindex
  have hrec : ∀ c, EnergyView.recorded { r.start.view with
      log := (energyLog b).reindex r.start.view.log } c = r.start.view.recorded c := by
    intro c
    simp only [EnergyView.recorded, hres]
  refine good_of _ (fun _ => id) ?_ fun c => ?_
  · show EnergyInv r.lastPub (r.start.reboot rand).view
    rw [EnergyState.view_reboot]
    constructor
    case log => exact hlog
    case account => exact fun c => Account.Ok.boot _
    case recorded_le =>
      intro c
      rw [Account.level_boot]
      exact le_refl _
    case sorted => exact h.sorted
    case published_le =>
      -- the level falls back to the record: the last published value must be in it
      intro c x hx
      have hx' : x = r.lastPub c := List.mem_singleton.mp hx
      rw [Account.level_boot, hrec c, hx']
      exact_mod_cast hok c
  · show _ ≤ (r.start.reboot rand).view.recorded c
    rw [EnergyState.view_reboot]
    exact le_of_eq (hrec c).symm

/-- **Step lemma**. -/
theorem good (h : r.Inv) (ev : EnergyEvent b) (hd : r.DriverOk ev) (hok : r.AccountingOk ev) :
    r.Good ev := by
  cases ev with
  | measurement idx mType value => exact good_measurement h idx mType value hd
  | cfOverflow idx report => exact good_cfOverflow h idx report hd hok
  | relayStateChange idx st isFast rand =>
    exact good_of_view h _ (fun _ => id)
      (r.start.view_handleRelayStateChange idx st isFast rand)
  | publishActiveEnergyDelayProc =>
    obtain ⟨hi, hm⟩ := EnergyInv.publishActiveEnergyDelayProc h hok
    exact good_of _ (fun _ => id) hi hm
  | publishIupPfDelayProc =>
    exact good_of_view h _ (fun _ => id)
      (keep_runFrom EnergyState.view EnergyState.view_publishIupPf r.start b.chns)
  | publishPeriodicProc rand =>
    exact good_of_view h _ (fun _ => id)
      (keep_runFrom EnergyState.view (EnergyState.view_publishPeriodic rand) r.start b.chns)
  | measurementProc rand =>
    obtain ⟨hi, hlog⟩ := EnergyInv.measurementProc h rand b.chns
    refine good_of _ (fun _ => id) hi fun c => le_of_eq ?_
    show EnergyView.recorded r.start.view c
      = EnergyView.recorded (r.start.measurementProc rand).view c
    simp only [EnergyView.recorded, EnergyState.measurementProc, hlog]
  | queryActiveEnergy idx =>
    refine good_of_view h _ (fun _ => id) (r.start.onIdx_view idx fun c => ?_)
    exact r.start.view_setupPublishEnergyDelay c 0
  | store =>
    obtain ⟨hi, hm⟩ := EnergyInv.store h hok
    exact good_of _ (fun _ => id) hi hm
  | delete idx => exact good_delete h idx hok
  | clean => exact good_clean h
  | reboot rand => exact good_reboot h rand hok
  | environment env => exact good_of_view h _ (fun _ => id) rfl

/-- A good step keeps the invariant between events. -/
theorem Good.inv {ev : EnergyEvent b} (h : r.Good ev) : (r.step ev).Inv := by
  obtain ⟨hi, -⟩ := h
  refine ⟨hi.log, hi.account, hi.recorded_le, fun c => List.pairwise_singleton _ _,
    fun c x hx => ?_⟩
  have hx' : x = (r.step ev).lastPub c := List.mem_singleton.mp hx
  refine hi.published_le c x ?_
  rw [hx']
  exact List.getLastD_mem_cons

theorem Good.stepMono {ev : EnergyEvent b} (h : r.Good ev) : r.StepMono ev := by
  obtain ⟨hi, hm⟩ := h
  refine fun c hc => ⟨hm c hc, ?_⟩
  have hs := hi.sorted c
  rw [pubBase, if_neg hc] at hs
  exact hs

theorem inv_firstBoot (rand : b.Chn → Nat → Nat) (index : Nat) (mem : Mem) (env : EnergyEnv) :
    (firstBoot (b := b) rand index mem env).Inv := by
  have hrel := LogRel.firstBoot (energyLog b) mem index
  have hview := EnergyState.view_reboot rand
    { ch := fun _ => EnergyState.ramCleared
      log := ⟨index, erase (energyLog b).flashAdr flashSectorSize mem⟩, env := env, out := [] }
  show EnergyInv (fun _ => 0) (EnergyState.reboot rand _).view
  rw [hview]
  constructor
  case log => exact ⟨_, hrel⟩
  case account => exact fun c => Account.Ok.boot _
  case recorded_le =>
    intro c
    rw [Account.level_boot]
    exact le_refl _
  case sorted => exact fun c => List.pairwise_singleton _ _
  case published_le =>
    intro c x hx
    have hx' : x = 0 := List.mem_singleton.mp hx
    rw [hx', Account.level_boot]
    exact_mod_cast Nat.zero_le _

end EnergyRun

/-- **Energy never runs backwards** while no step stores, publishes or carries
over a total that has not caught up, and no reboot loses a published value: in
every such run from erased flash, no step lowers a record or a published value
of a channel it does not clear. -/
theorem energy_monotone_of_accountingOk (rand : b.Chn → Nat → Nat) (index : Nat) (mem : Mem)
    (env : EnergyEnv) (evs : List (EnergyEvent b))
    (hd : AllSteps EnergyRun.step EnergyRun.DriverOk (.firstBoot rand index mem env) evs)
    (hok : AllSteps EnergyRun.step EnergyRun.AccountingOk (.firstBoot rand index mem env) evs) :
    AllSteps EnergyRun.step EnergyRun.StepMono (.firstBoot rand index mem env) evs := by
  refine AllSteps.transport (I := EnergyRun.Inv) (fun r ev hi h => ?_) (fun r ev hi h => ?_)
    (EnergyRun.inv_firstBoot rand index mem env) (hd.and hok)
  · exact (EnergyRun.good hi ev h.1 h.2).inv
  · exact (EnergyRun.good hi ev h.1 h.2).stepMono

/-! ## Two channels, one of them idle -/

def noRand (_ : b.Chn) (_ : Nat) : Nat := 0

def quietEnv : EnergyEnv where
  timeMs := 0
  timeS := 0
  actualRelayOn := none
  lightnessOff _ := true
  factActive := false

/-- A measurement of channel 0, processed. -/
def reading (v : ℚ) : List (EnergyEvent board2) :=
  [.measurement 0 .current 0, .measurement 0 .voltage 230000, .measurement 0 .activePower 0,
    .measurement 0 .activeEnergy v, .measurementProc noRand]

/-- Channel 0 counts 100 Wh and stores them; then the device reboots. -/
def historyEvents : List (EnergyEvent board2) :=
  reading 1 ++ reading 101 ++ [.store, .reboot noRand]

/-- Channel 0 resumes, counts on, publishes, and the device reboots again. -/
def resumedEvents : List (EnergyEvent board2) :=
  historyEvents ++ reading 1 ++ reading 6 ++ [.queryActiveEnergy 0,
    .environment { quietEnv with timeMs := 1 }, .publishActiveEnergyDelayProc, .reboot noRand]

theorem energy_monotone_resumed :
    AllSteps EnergyRun.step EnergyRun.StepMono
      (.firstBoot noRand 0 (fun _ => erasedByte) quietEnv) resumedEvents :=
  energy_monotone_of_accountingOk noRand 0 (fun _ => erasedByte) quietEnv resumedEvents
    (by decide +kernel) (by decide +kernel)

/-- Deleting channel 1 right after the reboot writes 0 over the record of
channel 0, whose running total has not started. -/
theorem energy_not_monotone :
    ¬ ∀ (b : Board) (rand : b.Chn → Nat → Nat) (index : Nat) (mem : Mem) (env : EnergyEnv)
      (evs : List (EnergyEvent b)),
      AllSteps EnergyRun.step EnergyRun.DriverOk (.firstBoot rand index mem env) evs →
      AllSteps EnergyRun.step EnergyRun.StepMono (.firstBoot rand index mem env) evs := by
  intro h
  have hrun := h board2 noRand 0 (fun _ => erasedByte) quietEnv (historyEvents ++ [.delete 1])
    (by decide +kernel)
  revert hrun
  decide +kernel

end LumesSwitch
