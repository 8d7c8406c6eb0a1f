import LumesSwitch.Energy.Monotone
import LumesSwitch.Flash.Origin

/-!
# Energy after a clearing

The energy is cleared in flash only: the accounts in the RAM run on, and bring the old energy
back with the next publication or store. `EnergyTally` observes the module. It adds up what the
readings have shown since the last clearing. And it follows the energy of before: of each number
of an account it keeps the part that was measured before the clearing, which the functions of
`energy.c` add and subtract as they do the numbers themselves, and it keeps where each record of
the log comes from.

- `Account.calculatePart`, `Account.measurePart` — the parts of before, where they are not just
  those of the same operation;
- `EnergyTally.observe` — the tally behind an event;
- `EnergyTally.Final` — no published value, no record written since the clearing and no record a
  boot would read holds energy of before, and none exceeds what has been shown since;
- `EnergyTally.EventOk` — the condition on an event and the state before it: what is published or
  stored are accounts that were empty at the clearing or started afresh since, and nothing is
  stored before the reboot that a forced reset waits for;
- `EnergyTally.Inv.event` — what one event preserves.
-/

namespace LumesSwitch

open Runs Words Nor

namespace Account

variable {a : Account}

/-- The running total once the last count is calculated. -/
def pending (a : Account) : ℚ := if a.offset ≠ 0 then a.base + (a.cf - a.offset) else a.base

/-- What a count shows to have been used since the last one. The first count since a boot shows
nothing. -/
def increase (a : Account) (v : ℚ) : ℚ := if a.cf = 0 then 0 else v - a.cf

theorem increase_nonneg {v : ℚ} (hv : a.cf ≤ v) : 0 ≤ a.increase v := by
  rw [increase]
  split
  · exact le_refl _
  · exact sub_nonneg.mpr hv

theorem Ok.total_le_pending (h : a.Ok) : a.total ≤ a.pending := by
  have hbase := h.base_nonneg
  have hcf := h.offset_le
  rw [pending]
  rcases h.total_eq with h0 | ⟨hne, -, hle⟩
  · rw [h0]
    split
    · linarith
    · exact hbase
  · rw [if_pos hne]
    exact hle

theorem pending_calculate (a : Account) : a.calculate.pending = a.pending := by
  rw [calculate]
  by_cases ho : a.offset ≠ 0
  · rw [if_pos ho]
    rfl
  · rw [if_neg ho, pending, pending, if_neg ho]
    by_cases hc : a.cf > 0
    · rw [if_pos hc]
      simp
    · rw [if_neg hc, if_neg ho]

theorem Ok.pending_measure (h : a.Ok) {v : ℚ} (hv : a.cf ≤ v) :
    (a.measure v).pending ≤ a.pending + a.increase v := by
  have hinc := increase_nonneg hv
  have hnonneg := h.offset_nonneg
  have hcf := h.offset_le
  by_cases ho : a.offset ≠ 0
  · -- the channel has counted, so the last count is not 0
    have hne : a.cf ≠ 0 := fun h0 => ho (le_antisymm (h0 ▸ hcf) hnonneg)
    have hmeasure : (a.measure v).pending = a.base + (v - a.offset) := if_pos ho
    rw [hmeasure, pending, if_pos ho, increase, if_neg hne]
    linarith
  · have hmeasure : (a.measure v).pending = a.base := if_neg ho
    rw [hmeasure, pending, if_neg ho]
    linarith

theorem pending_clear (a : Account) : a.clear.pending = 0 := if_neg fun h => h rfl

theorem pending_boot (r : Nat) : (boot r).pending = r := if_neg fun h => h rfl

/-! ### The part of before -/

/-- Nothing is in the account: neither history nor running total, nor a count behind the one at
which the running total starts. -/
def Empty (a : Account) : Prop := a.base = 0 ∧ a.total = 0 ∧ (a.offset ≠ 0 → a.cf = a.offset)

instance (a : Account) : Decidable a.Empty := inferInstanceAs (Decidable (_ ∧ _ ∧ _))

/-- `energy_calculator_kwh` on the part of before `o` of the account. -/
def calculatePart (a o : Account) : Account :=
  if a.offset ≠ 0 then { o with total := o.base + (o.cf - o.offset) }
  else if a.cf > 0 then { o with offset := o.cf }
  else o

/-- A count of `v`: what it shows beyond the last one was measured since. The first count since a
boot shows nothing of that. -/
def measurePart (a o : Account) (v : ℚ) : Account := if a.cf = 0 then o.measure v else o

/-- The part of before of an account that a boot has restored. -/
def history (x : ℚ) : Account := ⟨x, 0, 0, 0⟩

/-- Of what the account publishes and carries on, nothing is of before: `o` is its part that is. -/
structure FreshOf (a o : Account) : Prop where
  base : o.base = 0
  total : o.total = 0
  offset : a.offset ≠ 0 → o.cf = o.offset

theorem Empty.freshOf (h : a.Empty) : a.FreshOf a := ⟨h.1, h.2.1, h.2.2⟩

theorem Empty.pending_eq (h : a.Empty) : a.pending = 0 := by
  rw [pending, h.1]
  split
  · next ho => rw [h.2.2 ho, sub_self, add_zero]
  · rfl

namespace FreshOf

variable {o : Account}

theorem calculate (h : a.FreshOf o) : a.calculate.FreshOf (a.calculatePart o) := by
  rw [Account.calculate, calculatePart]
  by_cases ho : a.offset ≠ 0
  · rw [if_pos ho, if_pos ho]
    refine ⟨h.base, ?_, h.offset⟩
    -- the counts of before lie below the offset
    show o.base + (o.cf - o.offset) = 0
    rw [h.base, h.offset ho, sub_self, add_zero]
  · rw [if_neg ho, if_neg ho]
    split
    · exact ⟨h.base, h.total, fun _ => rfl⟩
    · exact h

theorem measure (h : a.FreshOf o) (ha : a.Ok) (v : ℚ) :
    (a.measure v).FreshOf (a.measurePart o v) := by
  rw [measurePart]
  split
  · next hcf =>
    refine ⟨h.base, h.total, fun ho => ?_⟩
    -- without a count there is no offset
    have hle := ha.offset_le
    rw [hcf] at hle
    exact absurd (le_antisymm hle ha.offset_nonneg) ho
  · exact ⟨h.base, h.total, h.offset⟩

theorem overflow (h : a.FreshOf o) : a.overflow.FreshOf o.overflow :=
  ⟨h.total, rfl, fun ho => absurd rfl ho⟩

theorem restart (h : a.FreshOf o) (v : ℚ) :
    (a.overflow.measure v).FreshOf (o.overflow.measure 0) :=
  ⟨h.total, rfl, fun ho => absurd rfl ho⟩

theorem clear (a o : Account) : a.clear.FreshOf o.clear := ⟨rfl, rfl, fun ho => absurd rfl ho⟩

theorem boot (r : Nat) : (Account.boot r).FreshOf (history 0) :=
  ⟨rfl, rfl, fun ho => absurd rfl ho⟩

end FreshOf

end Account

theorem toU32_toNat_le {x : ℚ} (h : 0 ≤ x) : ((toU32 x).toNat : ℚ) ≤ x := by
  have hf : 0 ≤ ⌊x⌋ := Int.floor_nonneg.mpr h
  have hword : (toU32 x).toNat = (⌊x⌋ % 2 ^ 32).toNat % 2 ^ 32 := by
    rw [toU32, if_pos h, UInt32.ofInt, UInt32.toNat_ofNat']
  have hle : ((toU32 x).toNat : ℤ) ≤ ⌊x⌋ := by
    rw [hword]
    omega
  exact le_trans (by exact_mod_cast hle) (Int.floor_le x)

variable {b : Board}

/-! ## The tally -/

/-- What has been seen of the energy since the last clearing: what the readings have shown for
each channel, the part of each account that is of before, and the records of the log; which
accounts were not empty then and have not started afresh since; and whether the sector was erased
under the write index and the device not yet rebooted. -/
structure EnergyTally (b : Board) where
  since : b.Chn → ℚ
  part : b.Chn → Account
  blocks : BlockOrigins b ℚ
  carried : b.Chn → Bool
  erased : Bool

namespace EnergyTally

/-- `store_active_power` -/
def stored (t : EnergyTally b) (log : LogState) : EnergyTally b :=
  { t with blocks := t.blocks.put 0x7F000 log fun c => (t.part c).total }

/-- An iteration of the publication loop. -/
def publish (p : EnergyState b × EnergyTally b) (c : b.Chn) : EnergyState b × EnergyTally b :=
  (p.1.publishActiveEnergy c,
    if p.1.PublishDue c ∧ p.1.NeedSave c then p.2.stored p.1.log else p.2)

/-- An iteration of the measurement loop. -/
def calculate (rand : b.Chn → Nat → Nat) (p : EnergyState b × EnergyTally b) (c : b.Chn) :
    EnergyState b × EnergyTally b :=
  (EnergyState.measurement rand p.1 c,
    if p.1.Calculates c then
      { p.2 with part :=
          Function.update p.2.part c ((p.1.ch c).account.calculatePart (p.2.part c)) }
    else p.2)

/-- `energy_handle_delete_power_information`, for a channel of the board. -/
def delete (t : EnergyTally b) (log : LogState) (c : b.Chn) : EnergyTally b :=
  stored
    { t with
      part := Function.update t.part c (t.part c).clear
      carried := Function.update t.carried c false } log

/-- All that the accounts hold was measured before the clearing. -/
def clearing (s : EnergyState b) (blocks : BlockOrigins b ℚ) : EnergyTally b where
  since _ := 0
  part c := (s.ch c).account
  blocks := blocks
  carried c := decide (¬ (s.ch c).account.Empty)
  erased := false

/-- A forced reset: the sector is erased under the write index. -/
def forced (s : EnergyState b) : EnergyTally b := { clearing s [] with erased := true }

/-- The tally behind an event of the module in state `s`. -/
def observe (t : EnergyTally b) (s : EnergyState b) : EnergyEvent b → EnergyTally b
  | .measurement idx .activeEnergy v =>
    { t with
      since := fun c =>
        if c.val = idx then t.since c + (s.ch c).account.increase v else t.since c
      part := fun c =>
        if c.val = idx then (s.ch c).account.measurePart (t.part c) v else t.part c }
  | .cfOverflow idx none =>
    { t with part := fun c => if c.val = idx then (t.part c).overflow else t.part c }
  -- the chip counts from 0 again
  | .cfOverflow idx (some _) =>
    { t with part := fun c => if c.val = idx then (t.part c).overflow.measure 0 else t.part c }
  | .publishActiveEnergyDelayProc => (runFrom publish (s, t) b.chns).2
  | .measurementProc rand => (runFrom (calculate rand) (s, t) b.chns).2
  | .store => t.stored s.log
  | .delete idx => if h : idx < b.numberRl then t.delete s.log ⟨idx, h⟩ else t
  | .clean =>
    { clearing s (t.blocks.age.put 0x7F000 s.log fun _ => 0) with erased := t.erased }
  | .reboot _ =>
    { t with
      part := fun c =>
        .history (t.blocks.bootPart 0x7F000 s.log (fun c => (bootWord 0x7F000 s.log c : ℚ)) c)
      carried := fun _ => false
      erased := false }
  | _ => t

/-- Nothing that the last step published, no record that was written since the clearing and none
that a boot would read holds energy of before it, or more than the readings have shown since. -/
structure Final (t : EnergyTally b) (s : EnergyState b) : Prop where
  /-- a published value is the running total, which holds nothing of before -/
  published : ∀ c : b.Chn, ∀ x ∈ publishedFor c s.out,
    x = (toU32 (s.ch c).totalActiveEnergy).toNat ∧ (t.part c).total = 0 ∧ (x : ℚ) ≤ t.since c
  blocks : t.blocks.Fresh 0x7F000 s.log
  restored : ∀ c : b.Chn, (bootWord 0x7F000 s.log c : ℚ) ≤ t.since c

/-! ## The condition -/

/-- The account of channel `c` was empty at the last clearing, or was deleted or lost in a reboot
since. -/
def Free (t : EnergyTally b) (c : b.Chn) : Prop := t.carried c = false

/-- No forced reset waits for its reboot, every account is free, and the record can be told from
erased flash. -/
def StoreOk (t : EnergyTally b) (s : EnergyState b) : Prop :=
  t.erased = false ∧ (∀ c, t.Free c) ∧ ∃ c, toU32 (s.ch c).totalActiveEnergy ≠ 0xFFFFFFFF

/-- A publication is of a free account, and what it stores are free accounts. -/
def PublishOk (t : EnergyTally b) (s : EnergyState b) (c : b.Chn) : Prop :=
  t.Free c ∧ (s.NeedSave c → t.StoreOk s)

/-- A delete stores the totals of the other channels, and a clean stores zeros. -/
def EventOk (t : EnergyTally b) (s : EnergyState b) : EnergyEvent b → Prop
  | .publishActiveEnergyDelayProc => ∀ c, s.PublishDue c → t.PublishOk s c
  | .store => t.StoreOk s
  | .delete idx => idx < b.numberRl → t.erased = false ∧ ∀ c, c.val ≠ idx → t.Free c
  | .clean => t.erased = false
  | _ => True

instance (t : EnergyTally b) (s : EnergyState b) : Decidable (t.Final s) :=
  decidable_of_iff
    ((∀ c : b.Chn, ∀ x ∈ publishedFor c s.out, x = (toU32 (s.ch c).totalActiveEnergy).toNat ∧
        (t.part c).total = 0 ∧ (x : ℚ) ≤ t.since c) ∧
      t.blocks.Fresh 0x7F000 s.log ∧ ∀ c : b.Chn, (bootWord 0x7F000 s.log c : ℚ) ≤ t.since c)
    ⟨fun h => ⟨h.1, h.2.1, h.2.2⟩, fun h => ⟨h.published, h.blocks, h.restored⟩⟩

instance (t : EnergyTally b) (c : b.Chn) : Decidable (t.Free c) :=
  inferInstanceAs (Decidable (_ = _))

instance (t : EnergyTally b) (s : EnergyState b) : Decidable (t.StoreOk s) :=
  inferInstanceAs (Decidable (_ ∧ _ ∧ _))

instance (t : EnergyTally b) (s : EnergyState b) (c : b.Chn) : Decidable (t.PublishOk s c) :=
  inferInstanceAs (Decidable (_ ∧ _))

instance (t : EnergyTally b) (s : EnergyState b) (ev : EnergyEvent b) :
    Decidable (t.EventOk s ev) :=
  match ev with
  | .publishActiveEnergyDelayProc => inferInstanceAs (Decidable (∀ _, _ → _))
  | .store => inferInstanceAs (Decidable (StoreOk _ _))
  | .delete _ => inferInstanceAs (Decidable (_ → _ ∧ _))
  | .clean => inferInstanceAs (Decidable (_ = _))
  | .measurement .. | .cfOverflow .. | .relayStateChange .. | .publishIupPfDelayProc
  | .publishPeriodicProc _ | .measurementProc _ | .queryActiveEnergy _ | .reboot _
  | .environment _ => isTrue trivial

/-! ## The invariant -/

/-- A free account stands for no more than the tally, and holds nothing of before. -/
structure Inv (t : EnergyTally b) (v : EnergyView b) : Prop where
  sector : SectorOk b 0x7F000 v.log t.erased
  account : ∀ c, (v.account c).Ok
  since_nonneg : ∀ c, 0 ≤ t.since c
  pending_le : ∀ c, t.Free c → (v.account c).pending ≤ t.since c
  fresh : ∀ c, t.Free c → (v.account c).FreshOf (t.part c)
  blocks : t.blocks.Fresh 0x7F000 v.log
  recorded_le : ∀ c, (bootWord 0x7F000 v.log c : ℚ) ≤ t.since c
  published : ∀ c, ∀ x ∈ v.published c, x = (toU32 (v.account c).total).toNat ∧ t.Free c

namespace Inv

variable {t t' : EnergyTally b} {v : EnergyView b} {s : EnergyState b}

/-- The total of a free account does not exceed the tally. -/
theorem total_le (h : t.Inv v) {c : b.Chn} (hfree : t.Free c) :
    (v.account c).total ≤ t.since c :=
  le_trans (h.account c).total_le_pending (h.pending_le c hfree)

theorem final (h : t.Inv s.view) : t.Final s where
  published c x hx := by
    obtain ⟨hword, hfree⟩ := h.published c x hx
    refine ⟨hword, (h.fresh c hfree).total, ?_⟩
    rw [hword]
    exact le_trans (toU32_toNat_le (h.account c).total_nonneg) (h.total_le hfree)
  blocks := h.blocks
  restored := h.recorded_le

/-- The account of one channel changes while nothing is sent, and the tally of that channel with
it. -/
theorem account_update (h : t.Inv v) (hpub : ∀ c, v.published c = []) (c : b.Chn) {a : Account}
    (ha : a.Ok) (hsince : t.since c ≤ t'.since c)
    (hself : t'.Free c → a.pending ≤ t'.since c ∧ a.FreshOf (t'.part c))
    (hother : ∀ c', c' ≠ c →
      t'.since c' = t.since c' ∧ t'.part c' = t.part c' ∧ t'.carried c' = t.carried c')
    (herased : t'.erased = t.erased) (hblocks : t'.blocks = t.blocks) :
    t'.Inv { v with account := Function.update v.account c a } := by
  have hle : ∀ c', t.since c' ≤ t'.since c' := by
    intro c'
    by_cases hc : c' = c
    · subst hc
      exact hsince
    · exact le_of_eq (hother c' hc).1.symm
  -- another channel is free as before
  have hfree : ∀ c', c' ≠ c → t'.Free c' → t.Free c' := by
    intro c' hc hx
    rwa [Free, (hother c' hc).2.2] at hx
  constructor
  case sector => exact herased ▸ h.sector
  case account =>
    intro c'
    dsimp only
    by_cases hc : c' = c
    · subst hc
      rw [Function.update_self]
      exact ha
    · rw [Function.update_of_ne hc]
      exact h.account c'
  case since_nonneg => exact fun c' => le_trans (h.since_nonneg c') (hle c')
  case pending_le =>
    intro c' hx
    dsimp only
    by_cases hc : c' = c
    · subst hc
      rw [Function.update_self]
      exact (hself hx).1
    · rw [Function.update_of_ne hc, (hother c' hc).1]
      exact h.pending_le c' (hfree c' hc hx)
  case fresh =>
    intro c' hx
    dsimp only
    by_cases hc : c' = c
    · subst hc
      rw [Function.update_self]
      exact (hself hx).2
    · rw [Function.update_of_ne hc, (hother c' hc).2.1]
      exact h.fresh c' (hfree c' hc hx)
  case blocks => exact hblocks ▸ h.blocks
  case recorded_le => exact fun c' => le_trans (h.recorded_le c') (hle c')
  case published =>
    intro c' x hx
    rw [hpub c'] at hx
    cases hx

/-- A record of values within the tally that hold nothing of before. -/
theorem put (h : t.Inv v) (herased : t.erased = false) {tmp : b.Chn → UInt32}
    (hne : ∃ c, tmp c ≠ 0xFFFFFFFF) (htmp : ∀ c, ((tmp c).toNat : ℚ) ≤ t.since c)
    {part : b.Chn → ℚ} (hpart : ∀ c, part c = 0) :
    EnergyTally.Inv { t with blocks := t.blocks.put 0x7F000 v.log part }
      { v with log := (energyLog b).put v.log (encodeWords tmp) } := by
  have hsector := h.sector
  rw [herased] at hsector
  obtain ⟨hput, hword⟩ := hsector.put _ hne
  constructor
  case sector => exact herased ▸ hput
  case account => exact h.account
  case since_nonneg => exact h.since_nonneg
  case pending_le => exact h.pending_le
  case fresh => exact h.fresh
  case blocks => exact BlockOrigins.fresh_put h.blocks.clean hsector hne hpart
  case recorded_le =>
    intro c
    refine le_trans ?_ (htmp c)
    rw [energyLog_eq, hword c]
    exact_mod_cast wordValue_le (tmp c)
  case published => exact h.published

/-- **Store**. -/
theorem store (h : t.Inv s.view) (hok : t.StoreOk s) : (t.stored s.log).Inv s.view.store := by
  obtain ⟨herased, hfree, hne⟩ := hok
  refine h.put herased hne (fun c => ?_) fun c => (h.fresh c (hfree c)).total
  exact le_trans (toU32_toNat_le (h.account c).total_nonneg) (h.total_le (hfree c))

theorem publish (h : t.Inv v) {c : b.Chn} (hfree : t.Free c) : t.Inv (v.publish c) := by
  refine ⟨h.sector, h.account, h.since_nonneg, h.pending_le, h.fresh, h.blocks, h.recorded_le,
    fun c' x hx => ?_⟩
  rw [EnergyView.publish] at hx
  dsimp only at hx
  by_cases hc : c' = c
  · subst hc
    rw [Function.update_self] at hx
    rcases List.mem_append.mp hx with hx | hx
    · exact h.published c' x hx
    · exact ⟨List.mem_singleton.mp hx, hfree⟩
  · rw [Function.update_of_ne hc] at hx
    exact h.published c' x hx

/-- **Publication loop**: one iteration. -/
theorem publish_step {p : EnergyState b × EnergyTally b} (h : p.2.Inv p.1.view) (c : b.Chn)
    (hok : p.1.PublishDue c → p.2.PublishOk p.1 c) :
    (EnergyTally.publish p c).2.Inv (EnergyTally.publish p c).1.view := by
  rw [EnergyTally.publish]
  dsimp only
  by_cases hdue : p.1.PublishDue c
  · obtain ⟨hfree, hstore⟩ := hok hdue
    have hview : (p.1.publishActiveEnergy c).view =
        (if p.1.NeedSave c then p.1.view.store else p.1.view).publish c :=
      p.1.view_publishActiveEnergy_fires c hdue.1 hdue.2
    rw [hview]
    by_cases hsave : p.1.NeedSave c
    · rw [if_pos ⟨hdue, hsave⟩, if_pos hsave]
      exact (h.store (hstore hsave)).publish hfree
    · rw [if_neg fun hx => hsave hx.2, if_neg hsave]
      exact h.publish hfree
  · rw [if_neg fun hx => hdue hx.1, p.1.publishActiveEnergy_idle c hdue]
    exact h

/-- **Measurement loop**: one iteration. -/
theorem calculate_step (rand : b.Chn → Nat → Nat) {p : EnergyState b × EnergyTally b}
    (h : p.2.Inv p.1.view) (hpub : ∀ c, p.1.view.published c = []) (c : b.Chn) :
    (EnergyTally.calculate rand p c).2.Inv (EnergyTally.calculate rand p c).1.view ∧
      ∀ c', (EnergyTally.calculate rand p c).1.view.published c' = [] := by
  rw [EnergyTally.calculate]
  dsimp only
  rw [EnergyState.view_measurement_eq]
  by_cases hcalc : p.1.Calculates c
  · rw [if_pos hcalc, if_pos hcalc]
    refine ⟨?_, hpub⟩
    refine h.account_update hpub c (h.account c).calculate (le_refl _) (fun hfree => ⟨?_, ?_⟩)
      (fun c' hc => ⟨rfl, Function.update_of_ne hc .., rfl⟩) rfl rfl
    · rw [Account.pending_calculate]
      exact h.pending_le c hfree
    · have hpart := (h.fresh c hfree).calculate
      dsimp only
      rw [Function.update_self]
      exact hpart
  · rw [if_neg hcalc, if_neg hcalc]
    exact ⟨h, hpub⟩

/-- What is due in the loop is allowed, seen from before each iteration. -/
theorem publishOk_step {p : EnergyState b × EnergyTally b}
    (hok : ∀ c, p.1.PublishDue c → p.2.PublishOk p.1 c) (c c' : b.Chn)
    (hdue : (EnergyTally.publish p c).1.PublishDue c') :
    (EnergyTally.publish p c).2.PublishOk (EnergyTally.publish p c).1 c' := by
  rw [EnergyTally.publish] at hdue ⊢
  dsimp only at hdue ⊢
  by_cases hc : c' = c
  · subst hc
    exact absurd hdue (p.1.not_publishDue_publishActiveEnergy c')
  · obtain ⟨hch, henv⟩ := p.1.publishActiveEnergy_other hc
    have hdue' : p.1.PublishDue c' := by
      rwa [EnergyState.PublishDue, hch, henv] at hdue
    obtain ⟨hfree, hstore⟩ := hok c' hdue'
    -- the totals stay, and so does what is free
    have htotal : ∀ c₂, ((p.1.publishActiveEnergy c).ch c₂).totalActiveEnergy =
        (p.1.ch c₂).totalActiveEnergy := by
      intro c₂
      have haccount : (p.1.publishActiveEnergy c).view.account = p.1.view.account := by
        by_cases hfire : p.1.PublishDue c
        · rw [p.1.view_publishActiveEnergy_fires c hfire.1 hfire.2]
          split <;> rfl
        · rw [p.1.publishActiveEnergy_idle c hfire]
      exact congrArg Account.total (congrFun haccount c₂)
    have hsame : ∀ t' : EnergyTally b,
        t' = (if p.1.PublishDue c ∧ p.1.NeedSave c then p.2.stored p.1.log else p.2) →
        t'.carried = p.2.carried ∧ t'.erased = p.2.erased := by
      rintro t' rfl
      split
      · exact ⟨rfl, rfl⟩
      · exact ⟨rfl, rfl⟩
    obtain ⟨hcarried, herased⟩ := hsame _ rfl
    refine ⟨(congrFun hcarried c').trans hfree, fun hsave => ?_⟩
    rw [EnergyState.NeedSave, hch] at hsave
    obtain ⟨hlive, hall, c₁, hne⟩ := hstore hsave
    refine ⟨herased.trans hlive, fun c₂ => (congrFun hcarried c₂).trans (hall c₂), c₁, ?_⟩
    rwa [htotal]

/-- **Publication loop**. -/
theorem publishActiveEnergyDelayProc (h : t.Inv s.view)
    (hok : ∀ c, s.PublishDue c → t.PublishOk s c) :
    (t.observe s .publishActiveEnergyDelayProc).Inv s.publishActiveEnergyDelayProc.view := by
  have hloop := invariant_runFrom
    (I := fun p : EnergyState b × EnergyTally b => p.2.Inv p.1.view ∧
      ∀ c, p.1.PublishDue c → p.2.PublishOk p.1 c)
    (fun p c hp => ⟨hp.1.publish_step c (hp.2 c), publishOk_step hp.2 c⟩)
    (s := (s, t)) ⟨h, hok⟩ b.chns
  have hfst : (runFrom EnergyTally.publish (s, t) b.chns).1 = s.publishActiveEnergyDelayProc :=
    runFrom_map Prod.fst (fun _ _ => rfl) (s, t) b.chns
  rw [← hfst]
  exact hloop.1

/-- **Measurement loop**. -/
theorem measurementProc (h : t.Inv s.view) (hpub : ∀ c, s.view.published c = [])
    (rand : b.Chn → Nat → Nat) :
    (t.observe s (.measurementProc rand)).Inv (s.measurementProc rand).view := by
  have hloop := invariant_runFrom
    (I := fun p : EnergyState b × EnergyTally b => p.2.Inv p.1.view ∧
      ∀ c, p.1.view.published c = [])
    (fun p c hp => hp.1.calculate_step rand hp.2 c) (s := (s, t)) ⟨h, hpub⟩ b.chns
  have hfst : (runFrom (EnergyTally.calculate rand) (s, t) b.chns).1 = s.measurementProc rand :=
    runFrom_map Prod.fst (fun _ _ => rfl) (s, t) b.chns
  rw [← hfst]
  exact hloop.1

/-- No channel has a number behind the last one. -/
theorem ite_val_of_ge {α : Type*} {idx : Nat} (hidx : ¬ idx < b.numberRl) (f g : b.Chn → α) :
    (fun c : b.Chn => if c.val = idx then f c else g c) = g :=
  funext fun c => if_neg fun hx : c.val = idx => hidx (hx ▸ c.isLt)

/-- **A count**. -/
theorem count (h : t.Inv s.view) (hpub : ∀ c, s.view.published c = []) (idx : Nat)
    (mType : MType) (v : ℚ) (hd : EnergyRun.DriverOk ⟨s, fun _ => 0⟩ (.measurement idx mType v)) :
    (t.observe s (.measurement idx mType v)).Inv
      (s.handleMeasurementComplete idx mType v).view := by
  by_cases hm : mType = .activeEnergy
  · subst hm
    by_cases hidx : idx < b.numberRl
    · obtain ⟨c, rfl⟩ : ∃ c : b.Chn, c.val = idx := ⟨⟨idx, hidx⟩, rfl⟩
      have hcf : (s.view.account c).cf ≤ v := hd c rfl
      have hsince : (t.observe s (.measurement c .activeEnergy v)).since c =
          t.since c + (s.view.account c).increase v := if_pos rfl
      have hpart : (t.observe s (.measurement c .activeEnergy v)).part c =
          (s.view.account c).measurePart (t.part c) v := if_pos rfl
      rw [s.view_measureEnergy c v]
      refine h.account_update hpub c ((h.account c).measure hcf) ?_ (fun hfree => ⟨?_, ?_⟩)
        (fun c' hc => ⟨if_neg fun hx => hc (Fin.ext hx), if_neg fun hx => hc (Fin.ext hx), rfl⟩)
        rfl rfl
      · rw [hsince]
        exact le_add_of_nonneg_right (Account.increase_nonneg hcf)
      · rw [hsince]
        exact le_trans ((h.account c).pending_measure hcf)
          (add_le_add_left (h.pending_le c hfree) _)
      · rw [hpart]
        exact (h.fresh c hfree).measure (h.account c) v
    · have hsame : t.observe s (.measurement idx .activeEnergy v) = t := by
        rw [observe, ite_val_of_ge hidx, ite_val_of_ge hidx]
      rw [hsame, s.handleMeasurementComplete_of_ge hidx]
      exact h
  · have hsame : t.observe s (.measurement idx mType v) = t := by
      cases mType with
      | activeEnergy => exact absurd rfl hm
      | current => rfl
      | voltage => rfl
      | activePower => rfl
    rw [hsame, s.view_handleMeasurementComplete idx hm v]
    exact h

/-- **Overflow**: the total becomes history. -/
theorem overflow (h : t.Inv s.view) (hpub : ∀ c, s.view.published c = []) (idx : Nat)
    (report : Option ℚ) (hd : EnergyRun.DriverOk ⟨s, fun _ => 0⟩ (.cfOverflow idx report)) :
    (t.observe s (.cfOverflow idx report)).Inv (s.handle (.cfOverflow idx report)).view := by
  by_cases hidx : idx < b.numberRl
  · obtain ⟨c, rfl⟩ : ∃ c : b.Chn, c.val = idx := ⟨⟨idx, hidx⟩, rfl⟩
    have hv := s.view_overflow c
    cases report with
    | none =>
      have hpart : (t.observe s (.cfOverflow c none)).part c = (t.part c).overflow := if_pos rfl
      have hover : (s.handle (.cfOverflow c none)).view = _ := hv
      rw [hover]
      refine h.account_update hpub c (h.account c).overflow (le_refl _)
        (fun hfree => ⟨h.total_le hfree, ?_⟩)
        (fun c' hc => ⟨rfl, if_neg fun hx => hc (Fin.ext hx), rfl⟩) rfl rfl
      rw [hpart]
      exact (h.fresh c hfree).overflow
    | some v =>
      have hpart : (t.observe s (.cfOverflow c (some v))).part c =
          (t.part c).overflow.measure 0 := if_pos rfl
      have hmeasure := (s.handleCfCntScaleOverflow c).view_measureEnergy c v
      rw [hv] at hmeasure
      simp only [Function.update_self, Function.update_idem] at hmeasure
      have hover : (s.handle (.cfOverflow c (some v))).view = _ := hmeasure
      rw [hover]
      refine h.account_update hpub c ((h.account c).overflow_measure hd) (le_refl _)
        (fun hfree => ⟨h.total_le hfree, ?_⟩)
        (fun c' hc => ⟨rfl, if_neg fun hx => hc (Fin.ext hx), rfl⟩) rfl rfl
      rw [hpart]
      exact (h.fresh c hfree).restart v
  · have hsame : t.observe s (.cfOverflow idx report) = t := by
      cases report with
      | none => exact congrArg (fun part => { t with part := part }) (ite_val_of_ge hidx _ _)
      | some v => exact congrArg (fun part => { t with part := part }) (ite_val_of_ge hidx _ _)
    have hv := s.handleCfCntScaleOverflow_of_ge hidx
    rw [hsame]
    cases report with
    | none =>
      show t.Inv (s.handleCfCntScaleOverflow idx).view
      rw [hv]
      exact h
    | some v =>
      show t.Inv ((s.handleCfCntScaleOverflow idx).handleMeasurementComplete idx
        .activeEnergy v).view
      rw [hv, s.handleMeasurementComplete_of_ge hidx]
      exact h

/-- **Delete**: the deleted account starts afresh, and the totals of the others are stored. -/
theorem delete (h : t.Inv s.view) (hpub : ∀ c, s.view.published c = []) (c : b.Chn)
    (herased : t.erased = false) (hothers : ∀ c', c' ≠ c → t.Free c') :
    (t.delete s.log c).Inv (s.handleDeletePowerInformation c).view := by
  have hclear : EnergyTally.Inv
      { t with
        part := Function.update t.part c (t.part c).clear
        carried := Function.update t.carried c false } (s.view.clear c) := by
    refine h.account_update hpub c (h.account c).clear (le_refl _) (fun _ => ⟨?_, ?_⟩)
      (fun c' hc => ⟨rfl, Function.update_of_ne hc .., Function.update_of_ne hc ..⟩) rfl rfl
    · rw [Account.pending_clear]
      exact h.since_nonneg c
    · dsimp only
      rw [Function.update_self]
      exact .clear _ _
  -- with the deleted one, all accounts are free
  have hfree : ∀ c', EnergyTally.Free
      { t with
        part := Function.update t.part c (t.part c).clear
        carried := Function.update t.carried c false } c' := by
    intro c'
    by_cases hc : c' = c
    · subst hc
      exact Function.update_self ..
    · exact (Function.update_of_ne hc ..).trans (hothers c' hc)
  rw [s.view_delete c]
  refine hclear.put herased ⟨c, ?_⟩ (fun c' => ?_) fun c' => (hclear.fresh c' (hfree c')).total
  · -- the total of the deleted channel is 0, which tells the record from erased flash
    rw [EnergyView.clear]
    dsimp only
    rw [Function.update_self]
    show toU32 0 ≠ 0xFFFFFFFF
    decide +kernel
  · exact le_trans (toU32_toNat_le (hclear.account c').total_nonneg) (hclear.total_le (hfree c'))

/-- Nothing has been sent in this step. -/
theorem published_nil (hout : s.out = []) (c : b.Chn) : s.view.published c = [] := by
  rw [EnergyState.view, hout]
  rfl

/-- **A clearing**, whatever it does to the flash. -/
theorem clearing {log : LogState} {erased : Bool} {blocks : BlockOrigins b ℚ}
    (ha : ∀ c, (s.view.account c).Ok) (hsector : SectorOk b 0x7F000 log erased)
    (hblocks : blocks.Fresh 0x7F000 log) (hword : ∀ c : b.Chn, bootWord 0x7F000 log c = 0)
    (hout : s.out = []) :
    EnergyTally.Inv { EnergyTally.clearing s blocks with erased := erased }
      { s.view with log := log } where
  sector := hsector
  account := ha
  since_nonneg _ := le_refl _
  pending_le c hfree := by
    have hempty : (s.view.account c).Empty := not_not.mp (of_decide_eq_false hfree)
    exact le_of_eq hempty.pending_eq
  fresh c hfree := Account.Empty.freshOf (not_not.mp (of_decide_eq_false hfree))
  blocks := hblocks
  recorded_le c := by
    rw [hword c]
    exact le_of_eq Nat.cast_zero
  published c x hx := by
    change x ∈ s.view.published c at hx
    rw [published_nil hout c] at hx
    cases hx

/-- **Reboot** on a flash with the same sector: history is what the record holds. -/
theorem reboot {log : LogState} (h : t.Inv s.view)
    (hsector : SectorOk b 0x7F000 ((energyLog b).reindex log) false)
    (hblocks : t.blocks.Fresh 0x7F000 log)
    (hword : ∀ c : b.Chn, bootWord 0x7F000 log c = bootWord 0x7F000 s.log c) (hout : s.out = [])
    (rand : b.Chn → Nat → Nat) :
    (t.observe s (.reboot rand)).Inv (EnergyState.reboot rand { s with log := log }).view := by
  have hle : ∀ c : b.Chn, (bootWord 0x7F000 log c : ℚ) ≤ t.since c := by
    intro c
    rw [hword c]
    exact h.recorded_le c
  have hpart : ∀ c, (t.observe s (.reboot rand)).part c = Account.history 0 :=
    fun c => congrArg Account.history (h.blocks.bootPart_eq _ c)
  rw [EnergyState.view_reboot]
  constructor
  case sector => exact hsector
  case account => exact fun c => Account.Ok.boot _
  case since_nonneg => exact h.since_nonneg
  case pending_le =>
    intro c _
    rw [Account.pending_boot]
    exact hle c
  case fresh =>
    intro c _
    rw [hpart c]
    exact .boot _
  case blocks => exact hblocks.reindex
  case recorded_le => exact hle
  case published =>
    intro c x hx
    change x ∈ s.view.published c at hx
    rw [published_nil hout c] at hx
    cases hx

/-- **Step lemma**. -/
theorem event (h : t.Inv s.view) (hout : s.out = []) (ev : EnergyEvent b)
    (hd : EnergyRun.DriverOk ⟨s, fun _ => 0⟩ ev) (hok : t.EventOk s ev) :
    (t.observe s ev).Inv (s.handle ev).view := by
  have hpub := published_nil hout
  have hsame : ∀ {s' : EnergyState b}, s'.view = s.view → t.Inv s'.view := by
    intro s' hv
    rw [hv]
    exact h
  cases ev with
  | measurement idx mType v => exact h.count hpub idx mType v hd
  | cfOverflow idx report => exact h.overflow hpub idx report hd
  | relayStateChange idx st isFast rand =>
    exact hsame (s.view_handleRelayStateChange idx st isFast rand)
  | publishActiveEnergyDelayProc => exact h.publishActiveEnergyDelayProc hok
  | publishIupPfDelayProc =>
    exact hsame (keep_runFrom EnergyState.view EnergyState.view_publishIupPf s b.chns)
  | publishPeriodicProc rand =>
    exact hsame (keep_runFrom EnergyState.view (EnergyState.view_publishPeriodic rand) s b.chns)
  | measurementProc rand => exact h.measurementProc hpub rand
  | queryActiveEnergy idx =>
    exact hsame (s.onIdx_view idx fun c => s.view_setupPublishEnergyDelay c 0)
  | store => exact h.store hok
  | delete idx =>
    rw [observe]
    by_cases hidx : idx < b.numberRl
    · obtain ⟨herased, hothers⟩ := hok hidx
      rw [dif_pos hidx]
      exact h.delete hpub ⟨idx, hidx⟩ herased fun c' hc => hothers c' fun hx => hc (Fin.ext hx)
    · rw [dif_neg hidx]
      exact hsame (congrArg EnergyState.view (s.handleDeletePowerInformation_of_ge hidx))
  | clean =>
    have hsector := h.sector
    have herased : t.erased = false := hok
    rw [herased] at hsector
    have hne : ∃ _ : b.Chn, (0 : UInt32) ≠ 0xFFFFFFFF := ⟨b.chn0, by decide⟩
    -- the zeros are stored, and the accounts run on: those that are not empty are marked
    obtain ⟨hput, hword⟩ := hsector.put (fun _ => 0) hne
    exact clearing h.account (herased ▸ hput)
      (BlockOrigins.fresh_put BlockOrigins.clean_age hsector hne fun _ => rfl)
      (fun c => hword c) hout
  | reboot rand => exact reboot h h.sector.reboot h.blocks (fun _ => rfl) hout rand
  | environment env => exact hsame rfl

end Inv

end EnergyTally

end LumesSwitch
