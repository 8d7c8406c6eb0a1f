import LumesSwitch.Flash.FlashLog

/-!
# The wear of a log (`flash_user.c`)

A log erases its sector when there is no slot left in it. A loss of power between the erase and
the write costs an erase more.

- `FlashLog.slots` — the slots of a sector;
- `FlashLog.erases_eq` — the erases of a run, exactly.
-/

namespace LumesSwitch

open Nor Runs

def FlashPrim.isErase : FlashPrim → Bool
  | .eraseSector _ => true
  | .writePage _ _ => false

/-- An operation on a log, or a store that loses power after `k` of its device operations and is
followed by a boot. -/
inductive WearOp (g : FlashLog) where
  | op (o : LogOp g)
  | cut (d : g.Block) (k : Nat)

namespace FlashLog

variable (g : FlashLog)

/-- The slots that begin in front of `flash_size`. -/
def slots : Nat := (g.flashSize + (g.blockSize - 1)) / g.blockSize

/-- The device operations of a step. -/
def issued (s : LogState) : WearOp g → List FlashPrim
  | .op o => g.prims s o
  | .cut d k => (g.prims s (.store d)).take k

def wearStep (s : LogState) : WearOp g → LogState
  | .op o => g.step s o
  | .cut d k => g.cutStore s d k

def erases (s : LogState) (o : WearOp g) : Nat := (g.issued s o).countP FlashPrim.isErase

def writes (s : LogState) (o : WearOp g) : Nat := (g.issued s o).countP fun p => !p.isErase

/-- An erase whose write is cut off. -/
def interrupted (s : LogState) (o : WearOp g) : Nat :=
  if g.writes s o = 0 then g.erases s o else 0

/-- The slots that can still be written without an erase. -/
def free (s : LogState) : Nat := if g.Wraps s then 0 else g.slots - (s.index / g.blockSize + 1)

end FlashLog

theorem FlashLog.slots_le_iff {g : FlashLog} {n : Nat} :
    g.slots ≤ n ↔ g.flashSize ≤ n * g.blockSize := by
  have hpos := g.block_pos
  rw [FlashLog.slots, Nat.div_le_iff_le_mul_add_pred (by omega), Nat.mul_comm]
  omega

theorem FlashLog.slots_pos (g : FlashLog) : 0 < g.slots := by
  have hpos := g.block_pos
  have hle := g.block_le_size
  by_contra hzero
  have hslots := FlashLog.slots_le_iff.mp (Nat.le_of_not_lt hzero)
  omega

namespace LogInv

variable {g : FlashLog} {s : LogState} {bs : List (List UInt8)}

/-- The free slots of a sector that has been begun are those behind its blocks. -/
theorem free_eq (h : LogInv g s bs) :
    g.free s = if bs = [] then 0 else g.slots - bs.length := by
  rw [FlashLog.free]
  by_cases hb : bs = []
  · rw [if_pos (h.wraps_iff.mpr (.inl hb)), if_pos hb]
  · rw [if_neg hb]
    by_cases hw : g.Wraps s
    · have hfull := (h.wraps_iff.mp hw).resolve_left hb
      rw [if_pos hw, Nat.sub_eq_zero_of_le (FlashLog.slots_le_iff.mpr hfull)]
    · have hpos : 0 < bs.length := List.length_pos_of_ne_nil hb
      rw [if_neg hw, h.index, if_neg hb, Nat.mul_div_cancel _ g.block_pos,
        Nat.sub_add_cancel hpos]

theorem free_reboot (h : LogInv g s bs) : g.free (g.step s .reboot) = g.free s := by
  rw [h.reboot.free_eq, h.free_eq]

/-- **Step lemma** for a store: it takes a free slot, or it erases the sector. -/
theorem balance_store (h : LogInv g s bs) (d : g.Block) :
    g.slots * (g.prims s (.store d)).countP FlashPrim.isErase + g.free s =
      1 + g.free (g.step s (.store d)) := by
  have hslots := g.slots_pos
  rw [h.prims_store, (h.store d).free_eq]
  by_cases hw : g.Wraps s
  · rw [if_pos hw, if_pos hw, if_neg (List.cons_ne_nil _ _), List.length_singleton, FlashLog.free,
      if_pos hw]
    show g.slots * 1 + 0 = 1 + (g.slots - 1)
    omega
  · rw [h.free_eq]
    have hb : bs ≠ [] := fun hb => hw (h.wraps_iff.mpr (.inl hb))
    rw [if_neg hw, if_neg hw, if_neg hb, if_neg (by simp), List.length_append,
      List.length_singleton]
    have hroom : ¬ g.slots ≤ bs.length :=
      fun hle => hw (h.wraps_iff.mpr (.inr (FlashLog.slots_le_iff.mp hle)))
    show g.slots * 0 + (g.slots - bs.length) = 1 + (g.slots - (bs.length + 1))
    omega

end LogInv

/-! ## Runs -/

/-- The log is as it was left by stores, whole or cut off. -/
def FlashLog.Sound (g : FlashLog) (s : LogState) : Prop := ∃ bs, LogInv g s bs

namespace FlashLog

variable {g : FlashLog} {s : LogState}

/-- A store writes once. -/
theorem writes_store (h : g.Sound s) (d : g.Block) :
    (g.prims s (.store d)).countP (fun p => !p.isErase) = 1 := by
  obtain ⟨bs, h⟩ := h
  rw [h.prims_store]
  split
  · rfl
  · rfl

theorem Sound.reboot (h : g.Sound s) :
    g.Sound (g.step s .reboot) ∧ g.free (g.step s .reboot) = g.free s := by
  obtain ⟨bs, h⟩ := h
  exact ⟨⟨bs, h.reboot⟩, h.free_reboot⟩

theorem Sound.store (h : g.Sound s) (d : g.Block) :
    g.Sound (g.step s (.store d)) ∧
      g.slots * (g.prims s (.store d)).countP FlashPrim.isErase + g.free s =
        1 + g.free (g.step s (.store d)) := by
  obtain ⟨bs, h⟩ := h
  exact ⟨⟨_, h.store d⟩, h.balance_store d⟩

/-- What a cut leaves of a store: nothing, an erase without its write, or all of it. -/
theorem cut_cases (h : g.Sound s) (d : g.Block) (k : Nat) :
    k = 0 ∨ (g.Wraps s ∧ (g.prims s (.store d)).take k = [.eraseSector g.flashAdr]) ∨
      (g.prims s (.store d)).take k = g.prims s (.store d) := by
  obtain ⟨bs, h⟩ := h
  rw [h.prims_store]
  match k with
  | 0 => exact .inl rfl
  | 1 =>
    by_cases hw : g.Wraps s
    · rw [if_pos hw]
      exact .inr (.inl ⟨hw, rfl⟩)
    · rw [if_neg hw]
      exact .inr (.inr rfl)
  | k + 2 =>
    refine .inr (.inr (List.take_of_length_le ?_))
    split
    · exact Nat.le_add_left _ _
    · exact Nat.le_add_left _ _

/-- **Step lemma**: the device operations against the free slots. -/
theorem Sound.step (h : g.Sound s) (o : WearOp g) :
    g.Sound (g.wearStep s o) ∧ g.slots * g.erases s o + g.free s =
      (g.writes s o + g.slots * g.interrupted s o) + g.free (g.wearStep s o) := by
  rw [interrupted, erases, writes]
  cases o with
  | op o =>
    cases o with
    | store d =>
      have hwrites : (g.issued s (.op (.store d))).countP (fun p => !p.isErase) = 1 :=
        writes_store h d
      rw [hwrites, if_neg Nat.one_ne_zero]
      exact h.store d
    | reboot =>
      obtain ⟨hsound, hfree⟩ := h.reboot
      refine ⟨hsound, ?_⟩
      show g.slots * 0 + g.free s = 0 + g.slots * 0 + g.free (g.step s .reboot)
      rw [hfree, Nat.zero_add]
  | cut d k =>
    rw [issued, wearStep, cutStore]
    obtain rfl | ⟨hw, hcut⟩ | hcut := cut_cases h d k
    · -- nothing has been done
      obtain ⟨hsound, hfree⟩ := h.reboot
      refine ⟨hsound, ?_⟩
      show g.slots * 0 + g.free s = 0 + g.slots * 0 + g.free (g.step s .reboot)
      rw [hfree, Nat.zero_add]
    · -- the boot finds an erased sector, which the next store erases again
      rw [hcut]
      have herased : LogInv g (g.step ⟨s.index, erase g.flashAdr flashSectorSize s.mem⟩ .reboot)
          [] := LogInv.of_holds (Holds.empty (erasedOn_erase _ _ _)) fun hne => absurd rfl hne
      refine ⟨⟨[], herased⟩, ?_⟩
      show g.slots * 1 + g.free s = 0 + g.slots * 1 + g.free (g.step _ .reboot)
      rw [free, if_pos hw, Nat.zero_add]
      exact (congrArg _ (herased.free_eq.trans (if_pos rfl))).symm
    · rw [hcut]
      have hwrites : (g.prims s (.store d)).countP (fun p => !p.isErase) = 1 := writes_store h d
      rw [hwrites, if_neg Nat.one_ne_zero]
      obtain ⟨hsound, hbalance⟩ := h.store d
      obtain ⟨hsound', hfree⟩ := hsound.reboot
      exact ⟨hsound', hbalance.trans (congrArg _ hfree.symm)⟩

theorem free_lt (h : g.Sound s) : g.free s < g.slots := by
  obtain ⟨bs, h⟩ := h
  have hpos := g.slots_pos
  rw [h.free_eq]
  split
  · exact hpos
  · next hb =>
    have hlen := List.length_pos_of_ne_nil hb
    omega

/-- What is left over is less than a sector. -/
theorem eq_div_add_of_balance {n e w c f : Nat} (h : n * e = w + n * c + f) (hf : f < n) :
    e = (w + (n - 1)) / n + c := by
  have hle : c ≤ e := Nat.le_of_mul_le_mul_left (by omega) (Nat.zero_lt_of_lt hf)
  obtain ⟨q, rfl⟩ := Nat.exists_eq_add_of_le' hle
  rw [Nat.mul_add] at h
  have hq : (w + (n - 1)) / n = q := by
    refine Nat.div_eq_of_lt_le ?_ ?_
    · rw [Nat.mul_comm]
      omega
    · rw [Nat.mul_comm, Nat.mul_add, Nat.mul_one]
      omega
  rw [hq]

/-- **The wear of a log**: behind a first boot on an erased sector, in any run of stores, boots and
stores that lose power on the way, there is one erase for every `slots` writes, in front of the
first of them, and one more for each erase whose write has been cut off. -/
theorem erases_eq (g : FlashLog) (m : Mem) (idx : Nat) (ops : List (WearOp g)) :
    let s := g.step ⟨idx, erase g.flashAdr flashSectorSize m⟩ .reboot
    totalCost g.erases g.wearStep s ops =
      (totalCost g.writes g.wearStep s ops + (g.slots - 1)) / g.slots +
        totalCost g.interrupted g.wearStep s ops := by
  intro s
  have hempty : LogInv g s [] :=
    LogInv.of_holds (Holds.empty (erasedOn_erase _ _ _)) fun hne => absurd rfl hne
  have hbalance := totalCost_balance (I := g.Sound) (p := g.free)
    (a := fun s o => g.slots * g.erases s o)
    (c := fun s o => g.writes s o + g.slots * g.interrupted s o)
    (fun s o h => h.step o) ⟨[], hempty⟩ ops
  have hsound : g.Sound (runFrom g.wearStep s ops) :=
    invariant_runFrom (I := g.Sound) (fun _ o h => (h.step o).1) ⟨[], hempty⟩ ops
  have hend := free_lt hsound
  rw [totalCost_add, totalCost_mul, totalCost_mul, hempty.free_eq, if_pos rfl,
    Nat.add_zero] at hbalance
  exact eq_div_add_of_balance hbalance hend

end FlashLog

end LumesSwitch
