import LumesSwitch.Board
import LumesSwitch.Flash.Sectors
import LumesSwitch.Lib.Words

/-!
# Logs of a word for each channel

The meters keep their totals in logs of one word for each channel. Of such a log the next boot
sees `bootWord`. A log whose sector is erased under the index in the RAM is not one any more
until that boot: a store would write where the index points to.

- `SectorOk` — the sector holds a log for the next boot and, unless it was erased so, for the
  index in the RAM;
- `SectorOk.put`, `sectorOk_erased`, `SectorOk.reboot` — a store, an erase and a boot.
-/

namespace LumesSwitch

open Nor Words

variable {b : Board} {adr : Nat} {log : LogState}

/-- The log of the sector at `adr`. -/
def wordLog (b : Board) (adr : Nat) : FlashLog :=
  .sector adr (4 * b.numberRl) b.chnWords_pos b.chnWords_le

/-- The value a module takes from a word of flash: an erased word is 0. -/
def wordValue (w : UInt32) : Nat := if w = 0xFFFFFFFF then 0 else w.toNat

theorem wordValue_le (w : UInt32) : wordValue w ≤ w.toNat := by
  rw [wordValue]
  split
  · exact Nat.zero_le _
  · exact Nat.le_refl _

/-- The value a boot takes from the log for channel `c`. -/
def bootWord (adr : Nat) (log : LogState) (c : b.Chn) : Nat :=
  wordValue (decodeWords ((wordLog b adr).restore ((wordLog b adr).reindex log)) c)

/-- A record with a word that is not erased reads back. -/
theorem LogRel.put_words {v : Option (wordLog b adr).Block} (h : LogRel (wordLog b adr) log v)
    {tmp : b.Chn → UInt32} (hne : ∃ c, tmp c ≠ 0xFFFFFFFF) :
    (∃ v', LogRel (wordLog b adr) ((wordLog b adr).put log (encodeWords tmp)) v') ∧
      decodeWords ((wordLog b adr).restore ((wordLog b adr).put log (encodeWords tmp))) = tmp := by
  obtain ⟨c, hc⟩ := hne
  have hblank : ¬ Blank (encodeWords tmp) := fun hb => hc ((encodeWords_all tmp).mp hb c)
  have hrel := h.put ⟨encodeWords tmp, encodeWords_length tmp, hblank⟩
  refine ⟨⟨_, hrel⟩, ?_⟩
  rw [hrel.restore_eq]
  exact decodeWords_encodeWords tmp

/-- The sector holds a log for the next boot, and one for the index in the RAM unless it was
erased under it. -/
structure SectorOk (b : Board) (adr : Nat) (log : LogState) (erased : Bool) : Prop where
  live : erased = false → ∃ v, LogRel (wordLog b adr) log v
  boot : ∃ v, LogRel (wordLog b adr) ((wordLog b adr).reindex log) v

namespace SectorOk

variable {erased : Bool}

theorem of_logRel {v : Option (wordLog b adr).Block} (h : LogRel (wordLog b adr) log v) :
    SectorOk b adr log false := ⟨fun _ => ⟨v, h⟩, v, h.reindex⟩

theorem put (h : SectorOk b adr log false) (tmp : b.Chn → UInt32)
    (hne : ∃ c, tmp c ≠ 0xFFFFFFFF) :
    SectorOk b adr ((wordLog b adr).put log (encodeWords tmp)) false ∧
      ∀ c, bootWord adr ((wordLog b adr).put log (encodeWords tmp)) c = wordValue (tmp c) := by
  obtain ⟨v, hv⟩ := h.live rfl
  obtain ⟨⟨v', hv'⟩, hdec⟩ := hv.put_words hne
  refine ⟨of_logRel hv', fun c => ?_⟩
  rw [bootWord, hv'.reindex.restore_eq, ← hv'.restore_eq, hdec]

/-- A boot takes up the index again. -/
theorem reboot (h : SectorOk b adr log erased) :
    SectorOk b adr ((wordLog b adr).reindex log) false :=
  have ⟨_, hv⟩ := h.boot
  of_logRel hv

/-- A boot on a flash that has the same sector. -/
theorem reboot_congr (h : SectorOk b adr log erased) {m : Mem}
    (hm : AgreeOn adr flashSectorSize log.mem m) (i : Nat) :
    SectorOk b adr ((wordLog b adr).reindex ⟨i, m⟩) false :=
  have ⟨_, hv⟩ := h.boot
  of_logRel (hv.reindex_congr hm i)

end SectorOk

theorem bootWord_congr {m : Mem} (hm : AgreeOn adr flashSectorSize log.mem m) (i : Nat)
    (c : b.Chn) : bootWord adr ⟨i, m⟩ c = bootWord adr log c := by
  rw [bootWord, (wordLog b adr).restore_congr hm log.index i]
  rfl

/-- The sector is erased under the index `i`. -/
theorem sectorOk_erased {m : Mem} (h : ErasedOn adr flashSectorSize m) (i : Nat) :
    SectorOk b adr ⟨i, m⟩ true :=
  ⟨fun hx => absurd hx (by decide), none, LogRel.erased h i⟩

theorem bootWord_erased {m : Mem} (h : ErasedOn adr flashSectorSize m) (i : Nat) (c : b.Chn) :
    bootWord adr ⟨i, m⟩ c = 0 := by
  have hrel : LogRel (wordLog b adr) ((wordLog b adr).reindex ⟨i, m⟩) none := LogRel.erased h i
  have hword : decodeWords (List.replicate (4 * b.numberRl) erasedByte) c = 0xFFFFFFFF := by
    have hall : encodeWords (fun _ : b.Chn => 0xFFFFFFFF) =
        List.replicate (4 * b.numberRl) erasedByte :=
      List.eq_replicate_of_mem ((encodeWords_all _).mpr fun _ => rfl) |>.trans
        (by rw [encodeWords_length])
    rw [← hall, decodeWords_encodeWords]
  rw [bootWord, hrel.restore_eq]
  exact congrArg wordValue hword

end LumesSwitch
