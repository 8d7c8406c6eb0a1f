import Mathlib.Algebra.Group.Nat.Defs
import LumesSwitch.Lib.Buf

/-!
# Arrays of little-endian 32-bit words

How an array of `n` unsigned 32-bit words lies in memory, and how it is read
back:

- `le32`, `ofLe32` — one word as four bytes, least significant first;
- `encodeWords`, `decodeWords` — an array of `n` words;
- `decodeWords_encodeWords` — reading back what was laid out;
- `encodeWords_all` — when every byte of an array is `0xFF`;
- `u16Bytes`, `ofU16Bytes` — a 16-bit word as two bytes.
-/

namespace Words

open Bufs

/-- The four bytes of a word. -/
def le32 (x : UInt32) : List UInt8 :=
  [UInt8.ofNat x.toNat, UInt8.ofNat (x.toNat / 2 ^ 8), UInt8.ofNat (x.toNat / 2 ^ 16),
    UInt8.ofNat (x.toNat / 2 ^ 24)]

/-- The word laid out in the first four bytes. -/
def ofLe32 (bs : List UInt8) : UInt32 :=
  UInt32.ofNat ((bs.getD 0 0).toNat + 2 ^ 8 * (bs.getD 1 0).toNat
    + 2 ^ 16 * (bs.getD 2 0).toNat + 2 ^ 24 * (bs.getD 3 0).toNat)

@[simp] theorem le32_length (x : UInt32) : (le32 x).length = 4 := rfl

@[simp] theorem ofLe32_le32 (x : UInt32) : ofLe32 (le32 x) = x := by
  have hx : x.toNat < 2 ^ 32 := x.toNat_lt
  apply UInt32.toNat_inj.mp
  simp only [ofLe32, le32, List.getD_cons_zero, List.getD_cons_succ, UInt8.toNat_ofNat',
    UInt32.toNat_ofNat']
  omega

/-- A word of `0xFF` bytes is the all-ones word. -/
theorem le32_all (x : UInt32) : (∀ b ∈ le32 x, b = 0xFF) ↔ x = 0xFFFFFFFF := by
  constructor
  · intro h
    have heq : le32 x = List.replicate 4 0xFF := List.eq_replicate_of_mem h
    rw [← ofLe32_le32 x, heq]
    decide
  · rintro rfl b hb
    have heq : le32 0xFFFFFFFF = List.replicate 4 0xFF := by decide
    rw [heq] at hb
    exact List.eq_of_mem_replicate hb

variable {n : Nat}

/-- An array laid out word after word. -/
def encodeWords (f : Fin n → UInt32) : List UInt8 := encodeRecords le32 f

/-- The array laid out in the bytes. -/
def decodeWords (bs : List UInt8) : Fin n → UInt32 := decodeRecords 4 ofLe32 bs

@[simp] theorem encodeWords_length (f : Fin n → UInt32) :
    (encodeWords f).length = 4 * n := encodeRecords_length le32_length f

@[simp] theorem decodeWords_encodeWords (f : Fin n → UInt32) :
    decodeWords (encodeWords f) = f :=
  decodeRecords_encodeRecords le32_length ofLe32_le32 f

/-- An array is all `0xFF` exactly when each of its words is. -/
theorem encodeWords_all (f : Fin n → UInt32) :
    (∀ b ∈ encodeWords f, b = 0xFF) ↔ ∀ i, f i = 0xFFFFFFFF := by
  simp only [encodeWords, encodeRecords, List.mem_flatMap, List.mem_finRange, true_and,
    forall_exists_index]
  rw [forall_comm]
  exact forall_congr' fun i => le32_all (f i)

/-! ## 16-bit words -/

/-- The two bytes of a 16-bit word. -/
def u16Bytes (v : UInt16) : List UInt8 := [UInt8.ofNat v.toNat, UInt8.ofNat (v.toNat / 2 ^ 8)]

/-- The 16-bit word of two bytes. -/
def ofU16Bytes (lo hi : UInt8) : UInt16 := UInt16.ofNat (lo.toNat + 2 ^ 8 * hi.toNat)

theorem ofU16Bytes_u16Bytes (v : UInt16) :
    ofU16Bytes (UInt8.ofNat v.toNat) (UInt8.ofNat (v.toNat / 2 ^ 8)) = v := by
  have hv : v.toNat < 2 ^ 16 := v.toNat_lt
  apply UInt16.toNat_inj.mp
  simp only [ofU16Bytes, UInt8.toNat_ofNat', UInt16.toNat_ofNat']
  omega

theorem u16Bytes_ofU16Bytes (lo hi : UInt8) : u16Bytes (ofU16Bytes lo hi) = [lo, hi] := by
  have hlo := lo.toNat_lt
  have hhi := hi.toNat_lt
  have hval : (ofU16Bytes lo hi).toNat = lo.toNat + 2 ^ 8 * hi.toNat := by
    rw [ofU16Bytes, UInt16.toNat_ofNat']
    omega
  have hfst : UInt8.ofNat (lo.toNat + 2 ^ 8 * hi.toNat) = lo := by
    apply UInt8.toNat_inj.mp
    rw [UInt8.toNat_ofNat']
    omega
  have hsnd : UInt8.ofNat ((lo.toNat + 2 ^ 8 * hi.toNat) / 2 ^ 8) = hi := by
    apply UInt8.toNat_inj.mp
    rw [UInt8.toNat_ofNat']
    omega
  rw [u16Bytes, hval, hfst, hsnd]

end Words
