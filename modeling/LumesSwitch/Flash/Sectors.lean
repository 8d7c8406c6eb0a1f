import LumesSwitch.Flash.FlashLog

/-!
# Sectors

A log looks at its own sector only, so what a boot reads of it depends on nothing else, and a
sector that has been erased gives the empty log whatever it held before.

- `agreeOn_eraseSectors`, `erasedOn_eraseSectors` — several sectors erased;
- `FlashLog.restore_congr`, `LogRel.reindex_congr` — a boot.
-/

namespace LumesSwitch

open Nor

/-! ## Erasing several sectors -/

/-- `flash_erase_sector` for each of the addresses. -/
def eraseSectors (adrs : List Nat) (m : Mem) : Mem :=
  applyPrims (adrs.map FlashPrim.eraseSector) m

/-- A range next to the sectors is kept. -/
theorem agreeOn_eraseSectors {a n : Nat} {adrs : List Nat}
    (h : ∀ adr ∈ adrs, adr + flashSectorSize ≤ a ∨ a + n ≤ adr) (m : Mem) :
    AgreeOn a n m (eraseSectors adrs m) := by
  induction adrs generalizing m with
  | nil => exact fun _ _ _ => rfl
  | cons adr adrs ih =>
    have hfirst := agreeOn_erase (h adr List.mem_cons_self) m
    exact hfirst.trans (ih (fun x hx => h x (List.mem_cons_of_mem adr hx)) _)

theorem ErasedOn.eraseSectors {a n : Nat} {m : Mem} (h : ErasedOn a n m) (adrs : List Nat) :
    ErasedOn a n (eraseSectors adrs m) := by
  induction adrs generalizing m with
  | nil => exact h
  | cons adr adrs ih => exact ih (h.erase adr flashSectorSize)

/-- Each of the sectors is erased. -/
theorem erasedOn_eraseSectors {adr : Nat} {adrs : List Nat} (h : adr ∈ adrs) (m : Mem) :
    ErasedOn adr flashSectorSize (eraseSectors adrs m) := by
  induction adrs generalizing m with
  | nil => cases h
  | cons x xs ih =>
    rcases List.mem_cons.mp h with rfl | h
    · exact ErasedOn.eraseSectors (erasedOn_erase adr flashSectorSize m) xs
    · exact ih h _

/-! ## A boot -/

namespace FlashLog

variable (g : FlashLog) {m m' : Mem}

/-- The scan reads inside the sector. -/
theorem scanLoop_congr (h : AgreeOn g.flashAdr flashSectorSize m m') (fuel i : Nat) :
    scanLoop g.flashAdr g.flashSize g.blockSize m' fuel i =
      scanLoop g.flashAdr g.flashSize g.blockSize m fuel i := by
  induction fuel generalizing i with
  | zero => rfl
  | succ fuel ih =>
    have hsize := g.size_le
    rw [scanLoop, scanLoop]
    by_cases hi : i < g.flashSize
    · have hread : read (g.flashAdr + i) g.blockSize m = read (g.flashAdr + i) g.blockSize m' :=
        h.read_eq (by omega) (by omega)
      rw [if_pos hi, if_pos hi, hread, ih]
    · rw [if_neg hi, if_neg hi]

theorem getFlashIndex_congr (h : AgreeOn g.flashAdr flashSectorSize m m') :
    g.getFlashIndex m' = g.getFlashIndex m := by
  have hscan : flashUserGetFlashIndex g.flashAdr g.flashSize g.blockSize m' =
      flashUserGetFlashIndex g.flashAdr g.flashSize g.blockSize m :=
    congrArg (Option.map fun i => if i = 0 then g.flashSize - g.blockSize else i - g.blockSize)
      (g.scanLoop_congr h (2 ^ 16 + 1) 0)
  refine Option.some_injective _ ?_
  rw [getFlashIndex, getFlashIndex, Option.some_get, Option.some_get, hscan]

/-- The scan stops less than a block behind the area. -/
theorem scanLoop_lt {fuel i j : Nat} (hi : i < g.flashSize + g.blockSize)
    (h : scanLoop g.flashAdr g.flashSize g.blockSize m fuel i = some j) :
    j < g.flashSize + g.blockSize := by
  induction fuel generalizing i with
  | zero => cases h
  | succ fuel ih =>
    rw [scanLoop] at h
    by_cases hlt : i < g.flashSize
    · rw [if_pos hlt] at h
      split at h
      · exact Option.some.inj h ▸ hi
      · rw [g.cursor_no_wrap hlt] at h
        exact ih (by omega) h
    · rw [if_neg hlt] at h
      exact Option.some.inj h ▸ hi

/-- The block that a boot restores is inside the sector. -/
theorem getFlashIndex_le (m : Mem) : g.getFlashIndex m ≤ g.flashSize := by
  have hsome : flashUserGetFlashIndex g.flashAdr g.flashSize g.blockSize m =
      some (g.getFlashIndex m) := (Option.some_get (g.flashUserGetFlashIndex_isSome m)).symm
  have hpos := g.block_pos
  have hsize := g.block_le_size
  obtain ⟨j, hj, heq⟩ := Option.map_eq_some_iff.mp hsome
  have hlt := g.scanLoop_lt (by omega) hj
  have hidx : g.getFlashIndex m = if j = 0 then g.flashSize - g.blockSize else j - g.blockSize :=
    heq.symm
  rw [hidx]
  split <;> omega

/-- A boot reads the same block where the sector is the same. -/
theorem restore_congr (h : AgreeOn g.flashAdr flashSectorSize m m') (i i' : Nat) :
    g.restore (g.reindex ⟨i', m'⟩) = g.restore (g.reindex ⟨i, m⟩) := by
  have hsize := g.size_le
  have hle := g.getFlashIndex_le m
  have hidx := g.getFlashIndex_congr h
  rw [restore, restore, flashUserRestore, flashUserRestore, reindex, reindex]
  dsimp only
  rw [hidx]
  exact (h.read_eq (by omega) (by omega)).symm

end FlashLog

/-- A boot finds the same log where the sector is the same. -/
theorem LogRel.reindex_congr {g : FlashLog} {m m' : Mem} {v : Option g.Block} {i : Nat}
    (h : LogRel g (g.reindex ⟨i, m⟩) v) (hm : AgreeOn g.flashAdr flashSectorSize m m') (i' : Nat) :
    LogRel g (g.reindex ⟨i', m'⟩) v := by
  obtain ⟨bs, hi, hl⟩ := h
  have hholds : Holds m' g.flashAdr g.blockSize flashSectorSize bs := hi.holds.congr hm
  exact ⟨bs, LogInv.of_holds (s := ⟨i', m'⟩) hholds hi.last_lt, hl⟩

end LumesSwitch
