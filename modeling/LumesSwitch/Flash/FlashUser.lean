import LumesSwitch.Lib.Nor

/-!
# The flash log primitives (`flash_user.c`)

Every persistent setting is kept in a sector of its own as a log of blocks of
one size. `flash_user_store` appends a block behind the index held in RAM and
erases the sector when the next slot would start at or behind `flash_size`;
`flash_user_get_flash_index` recomputes the index after a reboot by scanning
for the first slot that reads all `0xFF`; `flash_user_restore` reads the block
at the index.

The flash device is `Nor.Mem`: an erase sets the sector to `0xFF`, a write ANDs
the bytes in, a read returns them. A store is kept as the list of device
primitives it issues, so that a power cut between two of them can be modelled.
-/

namespace LumesSwitch

open Nor

/-- `FLASH_SECTOR_SIZE` -/
def flashSectorSize : Nat := 4096

/-- `IsMatchVal` (utilities.c): the first `size` bytes all equal `val`. The
size parameter is a `uint8_t`. -/
def isMatchVal (buff : List UInt8) (size : Nat) (val : UInt8) : Bool :=
  (buff.take (size % 256)).all (· == val)

/-- The device operations that change the flash. -/
inductive FlashPrim where
  | eraseSector (adr : Nat)
  | writePage (adr : Nat) (data : List UInt8)
  deriving DecidableEq, Repr

/-- The effect of one device operation. -/
def FlashPrim.apply : FlashPrim → Mem → Mem
  | .eraseSector adr, m => erase adr flashSectorSize m
  | .writePage adr data, m => program adr data m

/-- The effect of device operations issued in order. -/
def applyPrims : List FlashPrim → Mem → Mem
  | [], m => m
  | p :: ps, m => applyPrims ps (p.apply m)

/-- `flash_user_store`: the new index and the device operations issued. -/
def flashUserStore (flashIndex flashAdr flashSize blockSize : Nat)
    (data : List UInt8) : Nat × List FlashPrim :=
  let flashIndex := flashIndex + blockSize
  if flashIndex ≥ flashSize then
    (0, [.eraseSector flashAdr, .writePage flashAdr (data.take blockSize)])
  else
    (flashIndex, [.writePage (flashAdr + flashIndex) (data.take blockSize)])

/-- `flash_user_restore` -/
def flashUserRestore (flashIndex flashAdr blockSize : Nat) (m : Mem) : List UInt8 :=
  read (flashAdr + flashIndex) blockSize m

/-- The `while` loop of `flash_user_get_flash_index`, with its `uint16_t`
cursor. `none` is a loop that has not ended within the given iterations. -/
def scanLoop (flashAdr flashSize blockSize : Nat) (m : Mem) : Nat → Nat → Option Nat
  | 0, _ => none
  | fuel + 1, i =>
    if i < flashSize then
      if isMatchVal (read (flashAdr + i) blockSize m) blockSize 0xFF then some i
      else scanLoop flashAdr flashSize blockSize m fuel ((i + blockSize) % 2 ^ 16)
    else some i

/-- `flash_user_get_flash_index`. A loop that is still running after every
value of its 16-bit cursor has been taken never ends. -/
def flashUserGetFlashIndex (flashAdr flashSize blockSize : Nat) (m : Mem) :
    Option Nat :=
  (scanLoop flashAdr flashSize blockSize m (2 ^ 16 + 1) 0).map fun i =>
    if i = 0 then flashSize - blockSize else i - blockSize

/-- The parameters of one log, as its module's constants fix them. -/
structure FlashLog where
  flashAdr : Nat
  flashSize : Nat
  blockSize : Nat
  block_pos : 1 ≤ blockSize
  block_le : blockSize ≤ 255
  block_le_size : blockSize ≤ flashSize
  size_le : flashSize + blockSize ≤ flashSectorSize

/-- A log that has a sector to itself: its `FLASH_SIZE` is the sector's less a
block. -/
def FlashLog.sector (flashAdr blockSize : Nat) (hpos : 1 ≤ blockSize)
    (hle : blockSize ≤ 255) : FlashLog where
  flashAdr := flashAdr
  flashSize := flashSectorSize - blockSize
  blockSize := blockSize
  block_pos := hpos
  block_le := hle
  block_le_size := by
    rw [flashSectorSize]
    omega
  size_le := by
    rw [flashSectorSize]
    omega

/-- A block that can be told from erased flash. -/
abbrev FlashLog.Block (g : FlashLog) : Type :=
  { d : List UInt8 // d.length = g.blockSize ∧ ¬ Blank d }

theorem isMatchVal_iff {bs : List UInt8} {n : Nat} (hl : bs.length = n)
    (hn : n ≤ 255) : isMatchVal bs n 0xFF = true ↔ Blank bs := by
  have hmod : n % 256 = n := Nat.mod_eq_of_lt (by omega)
  rw [isMatchVal, hmod, List.take_of_length_le (by omega)]
  simp [Blank]

/-! ## The scan ends -/

namespace FlashLog

variable (g : FlashLog)

/-- The 16-bit cursor does not wrap inside a sector. -/
theorem cursor_no_wrap {i : Nat} (hi : i < g.flashSize) :
    (i + g.blockSize) % 2 ^ 16 = i + g.blockSize := by
  have h1 := g.size_le
  have h2 := g.block_le
  refine Nat.mod_eq_of_lt ?_
  rw [flashSectorSize] at h1
  omega

theorem scanLoop_isSome (m : Mem) :
    ∀ (fuel i : Nat), g.flashSize < fuel + i →
      (scanLoop g.flashAdr g.flashSize g.blockSize m fuel i).isSome ∨ fuel = 0
  | 0, _, _ => Or.inr rfl
  | fuel + 1, i, h => by
    left
    rw [scanLoop]
    by_cases hi : i < g.flashSize
    · rw [if_pos hi]
      split
      · rfl
      · rw [g.cursor_no_wrap hi]
        have hb := g.block_pos
        rcases scanLoop_isSome m fuel (i + g.blockSize) (by omega) with hs | hz
        · exact hs
        · omega
    · rw [if_neg hi]
      rfl

theorem flashUserGetFlashIndex_isSome (m : Mem) :
    (flashUserGetFlashIndex g.flashAdr g.flashSize g.blockSize m).isSome := by
  have hsz := g.size_le
  rw [flashSectorSize] at hsz
  rw [flashUserGetFlashIndex, Option.isSome_map]
  rcases g.scanLoop_isSome m (2 ^ 16 + 1) 0 (by omega) with h | h
  · exact h
  · omega

/-- The index a reboot computes: the scan always ends. -/
def getFlashIndex (m : Mem) : Nat :=
  (flashUserGetFlashIndex g.flashAdr g.flashSize g.blockSize m).get
    (g.flashUserGetFlashIndex_isSome m)

end FlashLog

end LumesSwitch
