import LumesSwitch.Lib.Run
import LumesSwitch.Flash.FlashUser

/-!
# The flash log is a register that survives reboots

What the log is for: whatever the history of stores and reboots, reading at
the current index gives the last block stored. The relation between the two
levels is `LogInv`: the sector holds a list of blocks (`Nor.Holds`) and the RAM
index points at the last of them — or at `flash_size - block_size`, the
first-boot index, when there is none. Each operation is one lemma:

- `LogInv.store` — the list grows by the block, or is restarted by it when the
  next slot would start at or behind `flash_size`;
- `LogInv.reboot` — the scan finds the slot behind the last block, so the
  index is recomputed to the same value;
- `LogInv.restore_eq` — the block read back is the last one.

`flashLog_roundTrip` puts them together for every run. A power cut inside a
store is `FlashLog.cutStore`: `flashLog_powerCut` says which values the next
boot can read.
-/

namespace LumesSwitch

open Nor Runs

/-- The RAM index and the flash of one log. -/
structure LogState where
  index : Nat
  mem : Mem

/-- The operations on a log. A reboot forgets the index and recomputes it. -/
inductive LogOp (g : FlashLog) where
  | store (d : g.Block)
  | reboot

namespace FlashLog

variable (g : FlashLog)

/-- `flash_user_store` on the log's state. -/
def put (s : LogState) (data : List UInt8) : LogState :=
  let (index, prims) := flashUserStore s.index g.flashAdr g.flashSize g.blockSize data
  { index := index, mem := applyPrims prims s.mem }

/-- `flash_user_get_flash_index` on the log's state. -/
def reindex (s : LogState) : LogState := { s with index := g.getFlashIndex s.mem }

/-- The device operations a log operation issues. -/
def prims (s : LogState) : LogOp g → List FlashPrim
  | .store d => (flashUserStore s.index g.flashAdr g.flashSize g.blockSize d.val).2
  | .reboot => []

/-- One log operation. -/
def step (s : LogState) : LogOp g → LogState
  | .store d => g.put s d.val
  | .reboot => g.reindex s

/-- `flash_user_restore` at the current index. -/
def restore (s : LogState) : List UInt8 :=
  flashUserRestore s.index g.flashAdr g.blockSize s.mem

/-- The content a restore gives on an erased sector. -/
def erasedBlock : List UInt8 := List.replicate g.blockSize erasedByte

/-- The next store starts the sector again. -/
def Wraps (s : LogState) : Prop := g.flashSize ≤ s.index + g.blockSize

instance (s : LogState) : Decidable (g.Wraps s) :=
  inferInstanceAs (Decidable (_ ≤ _))

/-- A store that wraps erases the sector and writes at its start. -/
theorem flashUserStore_wraps {s : LogState} (hw : g.Wraps s) (d : g.Block) :
    flashUserStore s.index g.flashAdr g.flashSize g.blockSize d.val
      = (0, [.eraseSector g.flashAdr, .writePage g.flashAdr d.val]) := by
  have hd : d.val.take g.blockSize = d.val := List.take_of_length_le (by rw [d.2.1])
  have hw' : s.index + g.blockSize ≥ g.flashSize := hw
  simp only [flashUserStore, if_pos hw', hd]

/-- A store that does not wrap writes behind the index. -/
theorem flashUserStore_next {s : LogState} (hw : ¬ g.Wraps s) (d : g.Block) :
    flashUserStore s.index g.flashAdr g.flashSize g.blockSize d.val
      = (s.index + g.blockSize,
          [.writePage (g.flashAdr + (s.index + g.blockSize)) d.val]) := by
  have hd : d.val.take g.blockSize = d.val := List.take_of_length_le (by rw [d.2.1])
  have hw' : ¬ s.index + g.blockSize ≥ g.flashSize := hw
  simp only [flashUserStore, if_neg hw', hd]

/-- A write stays inside the sector and hits only erased bytes. -/
def WriteOk (m : Mem) : FlashPrim → Prop
  | .eraseSector _ => True
  | .writePage adr data =>
    g.flashAdr ≤ adr ∧ adr + data.length ≤ g.flashAdr + flashSectorSize ∧
      ErasedOn adr data.length m

/-- Every write of a list of device operations is `WriteOk` when it is made. -/
def WritesOk : Mem → List FlashPrim → Prop
  | _, [] => True
  | m, p :: ps => g.WriteOk m p ∧ WritesOk (p.apply m) ps

/-- What the log is for: a register that keeps the last block stored. -/
def register (v : Option g.Block) : LogOp g → Option g.Block
  | .store d => some d
  | .reboot => v

/-- The last block stored by a list of operations, if any. -/
def lastStored (ops : List (LogOp g)) : Option g.Block := runFrom g.register none ops

/-- The bytes a restore of the register must give. -/
def value : Option g.Block → List UInt8
  | none => g.erasedBlock
  | some d => d.val

end FlashLog

/-- The sector holds `bs`, and the RAM index points at its last block. -/
structure LogInv (g : FlashLog) (s : LogState) (bs : List (List UInt8)) : Prop where
  holds : Holds s.mem g.flashAdr g.blockSize flashSectorSize bs
  last_lt : bs ≠ [] → (bs.length - 1) * g.blockSize < g.flashSize
  index : s.index =
    if bs = [] then g.flashSize - g.blockSize else (bs.length - 1) * g.blockSize

namespace LogInv

variable {g : FlashLog} {s : LogState} {bs : List (List UInt8)}

/-- The slot behind the last block starts where a store looks for it. -/
theorem next_index (h : LogInv g s bs) :
    s.index + g.blockSize = if bs = [] then g.flashSize else bs.length * g.blockSize := by
  rw [h.index]
  by_cases hb : bs = []
  · rw [if_pos hb, if_pos hb]
    exact Nat.sub_add_cancel g.block_le_size
  · rw [if_neg hb, if_neg hb]
    have hpos : 0 < bs.length := List.length_pos_of_ne_nil hb
    obtain ⟨k, hk⟩ : ∃ k, bs.length = k + 1 := ⟨bs.length - 1, by omega⟩
    rw [hk, Nat.add_sub_cancel, Nat.add_mul, Nat.one_mul]

theorem wraps_iff (h : LogInv g s bs) :
    g.Wraps s ↔ bs = [] ∨ g.flashSize ≤ bs.length * g.blockSize := by
  rw [FlashLog.Wraps, h.next_index]
  by_cases hb : bs = []
  · simp [hb]
  · simp [hb]

/-- The slot a store that does not wrap writes. -/
theorem next_slot (h : LogInv g s bs) (hw : ¬ g.Wraps s) :
    s.index + g.blockSize = bs.length * g.blockSize := by
  have hbs : bs ≠ [] := fun hb => hw (h.wraps_iff.mpr (Or.inl hb))
  rw [h.next_index, if_neg hbs]

theorem next_lt (h : LogInv g s bs) (hw : ¬ g.Wraps s) :
    bs.length * g.blockSize < g.flashSize := by
  have hn : ¬ (bs = [] ∨ g.flashSize ≤ bs.length * g.blockSize) :=
    fun hx => hw (h.wraps_iff.mpr hx)
  omega

theorem room (h : LogInv g s bs) (hw : ¬ g.Wraps s) :
    bs.length * g.blockSize + g.blockSize ≤ flashSectorSize := by
  have hlt := h.next_lt hw
  have hsz := g.size_le
  omega

/-- The scan passes the written slots and stops behind the last one. -/
theorem scanLoop_eq (h : LogInv g s bs) :
    ∀ (fuel k : Nat), k ≤ bs.length → bs.length < fuel + k →
      scanLoop g.flashAdr g.flashSize g.blockSize s.mem fuel (k * g.blockSize)
        = some (bs.length * g.blockSize)
  | 0, _, hk, hf => by omega
  | fuel + 1, k, hk, hf => by
    rw [scanLoop]
    rcases Nat.lt_or_ge k bs.length with hlt | hge
    · -- a written slot: it starts inside `flash_size` and does not read blank
      have hne : bs ≠ [] := List.ne_nil_of_length_pos (by omega)
      have hin : k * g.blockSize < g.flashSize :=
        Nat.lt_of_le_of_lt (Nat.mul_le_mul_right _ (by omega)) (h.last_lt hne)
      have hnb := h.holds.not_blank_slot hlt
      rw [if_pos hin, if_neg (fun hm => hnb
        ((isMatchVal_iff (read_length _ _ _) g.block_le).mp hm)), g.cursor_no_wrap hin]
      have hstep : k * g.blockSize + g.blockSize = (k + 1) * g.blockSize := by
        rw [Nat.add_mul, Nat.one_mul]
      rw [hstep]
      exact scanLoop_eq h fuel (k + 1) hlt (by omega)
    · obtain rfl : k = bs.length := by omega
      by_cases hin : bs.length * g.blockSize < g.flashSize
      · -- the next slot is free: it reads erased
        have hroom : bs.length * g.blockSize + g.blockSize ≤ flashSectorSize := by
          have hsz := g.size_le
          omega
        have her := h.holds.next_erased hroom
        rw [if_pos hin, if_pos ((isMatchVal_iff (read_length _ _ _) g.block_le).mpr
          her.blank_read)]
      · rw [if_neg hin]

theorem getFlashIndex_eq (h : LogInv g s bs) :
    g.getFlashIndex s.mem =
      if bs = [] then g.flashSize - g.blockSize else (bs.length - 1) * g.blockSize := by
  have hb := g.block_pos
  have hlen : bs.length ≤ flashSectorSize :=
    Nat.le_trans (Nat.le_mul_of_pos_right _ hb) h.holds.fits
  have hscan := h.scanLoop_eq (2 ^ 16 + 1) 0 (Nat.zero_le _)
    (by rw [flashSectorSize] at hlen; omega)
  rw [Nat.zero_mul] at hscan
  have hget : flashUserGetFlashIndex g.flashAdr g.flashSize g.blockSize s.mem
      = some (if bs.length * g.blockSize = 0 then g.flashSize - g.blockSize
          else bs.length * g.blockSize - g.blockSize) := by
    rw [flashUserGetFlashIndex, hscan, Option.map_some]
  rw [FlashLog.getFlashIndex, Option.get_of_eq_some _ hget]
  by_cases hbs : bs = []
  · simp [hbs]
  · have hpos : 0 < bs.length := List.length_pos_of_ne_nil hbs
    rw [if_neg hbs, if_neg (Nat.ne_of_gt (Nat.mul_pos hpos hb)), Nat.sub_mul, Nat.one_mul]

/-- A reboot finds the index it had. -/
theorem reboot (h : LogInv g s bs) : LogInv g (g.step s .reboot) bs where
  holds := h.holds
  last_lt := h.last_lt
  index := h.getFlashIndex_eq

theorem reboot_index (h : LogInv g s bs) : (g.step s .reboot).index = s.index := by
  rw [h.reboot.index, h.index]

/-- After any RAM loss, a reboot re-establishes the relation. -/
theorem of_holds (h : Holds s.mem g.flashAdr g.blockSize flashSectorSize bs)
    (hlt : bs ≠ [] → (bs.length - 1) * g.blockSize < g.flashSize) :
    LogInv g (g.step s .reboot) bs := by
  -- the scan does not look at the RAM index, so any index may be assumed
  have hx : LogInv g
      { index := if bs = [] then g.flashSize - g.blockSize
          else (bs.length - 1) * g.blockSize, mem := s.mem } bs := ⟨h, hlt, rfl⟩
  exact ⟨h, hlt, hx.getFlashIndex_eq⟩

/-- The device operations of a store, by whether it wraps. -/
theorem prims_store (h : LogInv g s bs) (d : g.Block) :
    g.prims s (.store d) =
      if g.Wraps s then [.eraseSector g.flashAdr, .writePage g.flashAdr d.val]
      else [.writePage (g.flashAdr + bs.length * g.blockSize) d.val] := by
  by_cases hw : g.Wraps s
  · rw [FlashLog.prims, g.flashUserStore_wraps hw, if_pos hw]
  · rw [FlashLog.prims, g.flashUserStore_next hw, if_neg hw, h.next_slot hw]

/-- A store appends its block, or restarts the sector with it. -/
theorem store (h : LogInv g s bs) (d : g.Block) :
    LogInv g (g.step s (.store d)) (if g.Wraps s then [d.val] else bs ++ [d.val]) := by
  have hd := d.2.1
  have hc := d.2.2
  have hsz := g.size_le
  by_cases hw : g.Wraps s
  · have hfit : g.blockSize ≤ flashSectorSize := by omega
    have hidx : (g.step s (.store d)).index = 0 := by
      rw [FlashLog.step, FlashLog.put, g.flashUserStore_wraps hw]
    have hmem : (g.step s (.store d)).mem
        = program g.flashAdr d.val (erase g.flashAdr flashSectorSize s.mem) := by
      rw [FlashLog.step, FlashLog.put, g.flashUserStore_wraps hw]
      rfl
    rw [if_pos hw]
    constructor
    case holds =>
      rw [hmem]
      exact Holds.restart hd hc hfit s.mem
    case last_lt =>
      intro _
      have hp := g.block_pos
      have hle := g.block_le_size
      simp only [List.length_singleton, Nat.sub_self, Nat.zero_mul]
      omega
    case index => simpa using hidx
  · have hlt := h.next_lt hw
    have hidx : (g.step s (.store d)).index = bs.length * g.blockSize := by
      rw [FlashLog.step, FlashLog.put, g.flashUserStore_next hw, h.next_slot hw]
    have hmem : (g.step s (.store d)).mem
        = program (g.flashAdr + bs.length * g.blockSize) d.val s.mem := by
      rw [FlashLog.step, FlashLog.put, g.flashUserStore_next hw, h.next_slot hw]
      rfl
    rw [if_neg hw]
    constructor
    case holds =>
      rw [hmem]
      exact h.holds.append hd hc (h.room hw)
    case last_lt =>
      intro _
      rw [List.length_append, List.length_singleton, Nat.add_sub_cancel]
      exact hlt
    case index => simpa using hidx

/-- Every write of a store is inside the sector and on erased bytes. -/
theorem writesOk_store (h : LogInv g s bs) (d : g.Block) :
    g.WritesOk s.mem (g.prims s (.store d)) := by
  have hd := d.2.1
  have hsz := g.size_le
  rw [h.prims_store]
  by_cases hw : g.Wraps s
  · rw [if_pos hw]
    refine ⟨trivial, ⟨Nat.le_refl _, by omega, ?_⟩, trivial⟩
    exact (erasedOn_erase g.flashAdr flashSectorSize s.mem).mono (Nat.le_refl _) (by omega)
  · have hroom := h.room hw
    rw [if_neg hw]
    refine ⟨⟨Nat.le_add_right _ _, by omega, ?_⟩, trivial⟩
    rw [hd]
    exact h.holds.next_erased hroom

/-- The block read back is the last one written. -/
theorem restore_eq (h : LogInv g s bs) :
    g.restore s = bs.getLast?.getD g.erasedBlock := by
  rw [FlashLog.restore, flashUserRestore, h.index]
  by_cases hb : bs = []
  · subst hb
    rw [if_pos rfl]
    have hr := h.holds.rest
    have h1 := g.size_le
    have h2 := g.block_le_size
    simp only [List.length_nil, Nat.zero_mul, Nat.add_zero, Nat.sub_zero] at hr
    exact (hr.mono (Nat.le_add_right _ _) (by omega)).read_eq
  · rw [if_neg hb, h.holds.read_last hb, List.getLast?_eq_some_getLast hb, Option.getD_some]

end LogInv

/-! ## The log refines the register -/

/-- The log stands for the register `v`: the sector holds some blocks, and the
last of them is `v`. -/
def LogRel (g : FlashLog) (s : LogState) (v : Option g.Block) : Prop :=
  ∃ bs, LogInv g s bs ∧ bs.getLast? = v.map (·.val)

namespace LogRel

variable {g : FlashLog} {s : LogState} {v : Option g.Block}

theorem restore_eq (h : LogRel g s v) : g.restore s = g.value v := by
  obtain ⟨bs, hi, hl⟩ := h
  rw [hi.restore_eq, hl]
  cases v <;> rfl

theorem reboot_index (h : LogRel g s v) : (g.step s .reboot).index = s.index := by
  obtain ⟨bs, hi, -⟩ := h
  exact hi.reboot_index

/-- **Step lemma**: every operation does to the log what it does to the register. -/
theorem step (h : LogRel g s v) (op : LogOp g) :
    LogRel g (g.step s op) (g.register v op) := by
  obtain ⟨bs, hi, hl⟩ := h
  cases op with
  | reboot => exact ⟨bs, hi.reboot, hl⟩
  | store d =>
    refine ⟨_, hi.store d, ?_⟩
    by_cases hw : g.Wraps s
    · rw [if_pos hw]
      rfl
    · rw [if_neg hw, List.getLast?_concat]
      rfl

theorem put (h : LogRel g s v) (d : g.Block) : LogRel g (g.put s d.val) (some d) :=
  h.step (.store d)

theorem reindex (h : LogRel g s v) : LogRel g (g.reindex s) v := h.step .reboot

/-- **Run lemma**. -/
theorem run (h : LogRel g s v) (ops : List (LogOp g)) :
    LogRel g (runFrom g.step s ops) (runFrom g.register v ops) := by
  induction ops generalizing s v with
  | nil => exact h
  | cons op ops ih => exact ih (h.step op)

theorem writesOk (h : LogRel g s v) (op : LogOp g) : g.WritesOk s.mem (g.prims s op) := by
  obtain ⟨bs, hi, -⟩ := h
  cases op with
  | reboot => trivial
  | store d => exact hi.writesOk_store d

theorem writesOk_run (h : LogRel g s v) (ops : List (LogOp g)) :
    AllSteps g.step (fun s op => g.WritesOk s.mem (g.prims s op)) s ops := by
  induction ops generalizing s v with
  | nil => trivial
  | cons op ops ih => exact ⟨h.writesOk op, ih (h.step op)⟩

/-- A boot on an erased sector finds the empty log. -/
theorem erased {g : FlashLog} {m : Mem} (h : ErasedOn g.flashAdr flashSectorSize m) (i : Nat) :
    LogRel g (g.reindex ⟨i, m⟩) none :=
  ⟨[], LogInv.of_holds (Holds.empty h) (fun hne => absurd rfl hne), rfl⟩

/-- The first boot on an erased sector stands for the empty register. -/
theorem firstBoot (g : FlashLog) (m : Mem) (idx : Nat) :
    LogRel g (g.step ⟨idx, erase g.flashAdr flashSectorSize m⟩ .reboot) none :=
  erased (erasedOn_erase g.flashAdr flashSectorSize m) idx

end LogRel

/-- The state after a first boot on an erased sector and `ops`. -/
def FlashLog.bootRun (g : FlashLog) (m : Mem) (idx : Nat) (ops : List (LogOp g)) :
    LogState :=
  runFrom g.step ⟨idx, erase g.flashAdr flashSectorSize m⟩ (.reboot :: ops)

theorem LogRel.bootRun (g : FlashLog) (m : Mem) (idx : Nat) (ops : List (LogOp g)) :
    LogRel g (g.bootRun m idx ops) (g.lastStored ops) :=
  (LogRel.firstBoot g m idx).run ops

/-- **Round trip.** After a first boot on an erased sector and any stores and
reboots, the block read back is the last one stored (all `0xFF` if there was
none), a reboot recomputes the index the RAM holds, and every write issued on
the way was inside the sector and on erased bytes. -/
theorem flashLog_roundTrip (g : FlashLog) (m : Mem) (idx : Nat) (ops : List (LogOp g)) :
    g.restore (g.bootRun m idx ops) = g.value (g.lastStored ops) ∧
    (g.step (g.bootRun m idx ops) .reboot).index = (g.bootRun m idx ops).index ∧
    AllSteps g.step (fun s op => g.WritesOk s.mem (g.prims s op))
      ⟨idx, erase g.flashAdr flashSectorSize m⟩ (.reboot :: ops) := by
  have h := LogRel.bootRun g m idx ops
  refine ⟨h.restore_eq, h.reboot_index, trivial, ?_⟩
  exact (LogRel.firstBoot g m idx).writesOk_run ops

/-! ## Power cuts -/

/-- Power is lost in a store after `k` of its device operations; the next boot
recomputes the index. -/
def FlashLog.cutStore (g : FlashLog) (s : LogState) (d : g.Block) (k : Nat) : LogState :=
  g.step { s with mem := applyPrims ((g.prims s (.store d)).take k) s.mem } .reboot

/-- What the boot after a power cut can read: the block before the store, the
new block, or, between the erase and the write of a store that wraps, nothing. -/
theorem LogRel.restore_cutStore {g : FlashLog} {s : LogState} {v : Option g.Block}
    (h : LogRel g s v) (d : g.Block) (k : Nat) :
    g.restore (g.cutStore s d k) =
      if k = 0 then g.value v
      else if g.Wraps s ∧ k = 1 then g.erasedBlock
      else d.val := by
  by_cases hk0 : k = 0
  · -- nothing was issued: a plain reboot
    subst hk0
    rw [if_pos rfl]
    exact (h.step .reboot).restore_eq
  rw [if_neg hk0]
  have hfull : g.prims s (.store d) = (g.prims s (.store d)).take k →
      g.restore (g.cutStore s d k) = d.val := by
    intro htake
    have hr := ((h.step (.store d)).step .reboot).restore_eq
    rw [FlashLog.cutStore, ← htake]
    exact hr
  obtain ⟨bs, hi, hl⟩ := h
  by_cases hw : g.Wraps s
  · by_cases hk1 : k = 1
    · -- the sector is erased and nothing is written yet
      subst hk1
      have hcut : g.cutStore s d 1
          = g.step ⟨s.index, erase g.flashAdr flashSectorSize s.mem⟩ .reboot := by
        rw [FlashLog.cutStore, hi.prims_store, if_pos hw]
        rfl
      rw [if_pos ⟨hw, rfl⟩, hcut]
      exact (LogRel.firstBoot g s.mem s.index).restore_eq
    · rw [if_neg (fun hx => hk1 hx.2)]
      refine hfull (List.take_of_length_le ?_).symm
      rw [hi.prims_store, if_pos hw]
      show 2 ≤ k
      omega
  · rw [if_neg (fun hx => hw hx.1)]
    refine hfull (List.take_of_length_le ?_).symm
    rw [hi.prims_store, if_neg hw]
    show 1 ≤ k
    omega

/-- **Power cut.** In every reachable state of the log, the boot after a cut
store reads the last block or the new one, except at the one cut point between
the erase and the write of a store that wraps: there it reads erased flash. -/
theorem flashLog_powerCut (g : FlashLog) (m : Mem) (idx : Nat) (ops : List (LogOp g))
    (d : g.Block) (k : Nat) :
    g.restore (g.cutStore (g.bootRun m idx ops) d k) =
      if k = 0 then g.value (g.lastStored ops)
      else if g.Wraps (g.bootRun m idx ops) ∧ k = 1 then g.erasedBlock
      else d.val :=
  (LogRel.bootRun g m idx ops).restore_cutStore d k

/-- No cut of a store loses the register. -/
def FlashLog.PowerCutAtomic (g : FlashLog) : Prop :=
  ∀ (m : Mem) (idx : Nat) (ops : List (LogOp g)) (last d : g.Block) (k : Nat),
    g.lastStored ops = some last →
    g.restore (g.cutStore (g.bootRun m idx ops) d k) = last.val ∨
    g.restore (g.cutStore (g.bootRun m idx ops) d k) = d.val

theorem twoSlots_block_le : 1 ≤ 255 := by decide

theorem twoSlots_block_le_size : 1 ≤ 2 := by decide

theorem twoSlots_size_le : 2 + 1 ≤ flashSectorSize := by decide

/-- A sector with room for two one-byte blocks. -/
def twoSlotLog : FlashLog where
  flashAdr := 0
  flashSize := 2
  blockSize := 1
  block_pos := Nat.one_pos
  block_le := twoSlots_block_le
  block_le_size := twoSlots_block_le_size
  size_le := twoSlots_size_le

/-- A block for it. -/
def twoSlotBlock : twoSlotLog.Block := ⟨[0x01], by decide⟩

/-- The third store of a two-slot log, cut behind its erase, loses the register. -/
theorem flashLog_powerCut_not_atomic : ¬ twoSlotLog.PowerCutAtomic := by
  intro h
  have hcut := h (fun _ => erasedByte) 0 [.store twoSlotBlock, .store twoSlotBlock]
    twoSlotBlock twoSlotBlock 1 rfl
  revert hcut
  decide

end LumesSwitch
