import Mathlib.Data.List.FinRange
import Mathlib.Data.List.Flatten
import Mathlib.Data.List.GetD

/-!
# Byte buffers

A buffer of `n` bytes that is written and read piecewise, and arrays of records of
one size.

- `Buf`, `Buf.read`, `Buf.write` — the buffer, and its bytes from an offset on;
- `Buf.read_write`, `Buf.read_write_outside` — what a write leaves there;
- `encodeRecords`, `encodeRecords_record` — records laid out one after the other;
- `decodeRecords_field` — an array of records inside a larger block.
-/

namespace Bufs

/-- A buffer of `n` bytes. -/
abbrev Buf (n : Nat) : Type := Fin n → UInt8

namespace Buf

variable {n : Nat}

/-- The byte at offset `k`; there is none behind the end. -/
def get (a : Buf n) (k : Nat) : UInt8 := if h : k < n then a ⟨k, h⟩ else 0

/-- `len` bytes from offset `off` on. -/
def read (a : Buf n) (off len : Nat) : List UInt8 :=
  (List.range len).map fun j => a.get (off + j)

/-- Put `bs` at offset `off`. -/
def write (a : Buf n) (off : Nat) (bs : List UInt8) : Buf n := fun k =>
  if off ≤ k.val ∧ k.val < off + bs.length then bs.getD (k.val - off) 0 else a k

/-- The buffer in the first `n` bytes of a list. -/
def ofBytes (bs : List UInt8) : Buf n := fun k => bs.getD k 0

@[simp] theorem read_length (a : Buf n) (off len : Nat) : (a.read off len).length = len := by
  simp [read]

theorem get_write_inside (a : Buf n) {off k : Nat} {bs : List UInt8} (h : off ≤ k)
    (h' : k < off + bs.length) (hk : k < n) :
    (a.write off bs).get k = bs.getD (k - off) 0 := by
  rw [get, dif_pos hk, write]
  exact if_pos ⟨h, h'⟩

theorem get_write_outside (a : Buf n) {off k : Nat} {bs : List UInt8}
    (h : k < off ∨ off + bs.length ≤ k) : (a.write off bs).get k = a.get k := by
  unfold get
  split
  · rw [write]
    refine if_neg ?_
    dsimp only
    omega
  · rfl

/-- **Read back**: a write that fits is what is read at its place. -/
theorem read_write (a : Buf n) {off : Nat} {bs : List UInt8} (h : off + bs.length ≤ n) :
    (a.write off bs).read off bs.length = bs := by
  refine List.ext_getElem (by simp) fun j hj hj' => ?_
  have hval : (a.write off bs).get (off + j) = bs.getD (off + j - off) 0 :=
    a.get_write_inside (by omega) (by omega) (by omega)
  simp only [read, List.getElem_map, List.getElem_range]
  rw [hval, Nat.add_sub_cancel_left, List.getD_eq_getElem _ _ hj']

/-- **Frame**: a write leaves the bytes outside its place alone. -/
theorem read_write_outside (a : Buf n) {off off' len : Nat} {bs : List UInt8}
    (h : off' + len ≤ off ∨ off + bs.length ≤ off') :
    (a.write off bs).read off' len = a.read off' len := by
  refine List.map_congr_left fun j hj => ?_
  have hj' := List.mem_range.mp hj
  exact a.get_write_outside (by omega)

theorem read_add (a : Buf n) (off len len' : Nat) :
    a.read off (len + len') = a.read off len ++ a.read (off + len) len' := by
  rw [read, List.range_add, List.map_append, List.map_map]
  simp [read, Function.comp_def, Nat.add_assoc]

theorem read_drop (a : Buf n) (off k len : Nat) :
    (a.read off (k + len)).drop k = a.read (off + k) len := by
  rw [read_add, List.drop_left' (read_length a off k)]

theorem read_take (a : Buf n) (off : Nat) {k len : Nat} (h : k ≤ len) :
    (a.read off len).take k = a.read off k := by
  obtain ⟨m, rfl⟩ := Nat.exists_eq_add_of_le h
  rw [read_add, List.take_left' (read_length a off k)]

theorem getD_read (a : Buf n) (off : Nat) {k m : Nat} (h : k < m) :
    (a.read off m).getD k 0 = a.get (off + k) := by
  have hlen : k < (a.read off m).length := by rwa [read_length]
  rw [List.getD_eq_getElem _ _ hlen]
  simp only [read, List.getElem_map, List.getElem_range]

/-- Bytes that are read again from the buffer in them. -/
theorem read_ofBytes {bs : List UInt8} (h : n ≤ bs.length) :
    (ofBytes bs : Buf n).read 0 n = bs.take n := by
  refine List.ext_getElem (by simp [h]) fun i hi hi' => ?_
  rw [read_length] at hi
  have hin : i < bs.length := by omega
  simp [read, get, ofBytes, hi, hin]

/-- The bytes of a buffer give the buffer back. -/
theorem ofBytes_read (a : Buf n) (rest : List UInt8) : ofBytes (a.read 0 n ++ rest) = a := by
  funext k
  have hk : k.val < (a.read 0 n).length := by simp
  rw [ofBytes, List.getD_append _ _ _ _ hk, List.getD_eq_getElem _ _ hk]
  simp [read, get]

end Buf

/-! ## Arrays of records -/

variable {α : Type*} {n w : Nat} {enc : α → List UInt8}

/-- An array laid out record after record. -/
def encodeRecords (enc : α → List UInt8) (f : Fin n → α) : List UInt8 :=
  (List.finRange n).flatMap fun i => enc (f i)

/-- The array of records of size `w` laid out in the bytes. -/
def decodeRecords (w : Nat) (dec : List UInt8 → α) (bs : List UInt8) : Fin n → α :=
  fun i => dec ((bs.drop (w * i.val)).take w)

theorem encodeRecords_length (hw : ∀ a, (enc a).length = w) (f : Fin n → α) :
    (encodeRecords enc f).length = w * n := by
  simp [encodeRecords, List.length_flatMap, hw, Nat.mul_comm]

theorem encodeRecords_succ (enc : α → List UInt8) (f : Fin (n + 1) → α) :
    encodeRecords enc f = enc (f 0) ++ encodeRecords enc fun i => f i.succ := by
  rw [encodeRecords, List.finRange_succ, List.flatMap_cons, List.flatMap_map]
  rfl

/-- The bytes of the `i`-th record. -/
theorem encodeRecords_record (hw : ∀ a, (enc a).length = w) (f : Fin n → α) (i : Fin n) :
    ((encodeRecords enc f).drop (w * i.val)).take w = enc (f i) := by
  induction n with
  | zero => exact i.elim0
  | succ n ih =>
    rw [encodeRecords_succ]
    refine Fin.cases ?_ (fun j => ?_) i
    · rw [show w * (0 : Fin (n + 1)).val = 0 from Nat.mul_zero w, List.drop_zero, ← hw (f 0)]
      exact List.take_left
    · have hidx : w * j.succ.val = (enc (f 0)).length + w * j.val := by
        rw [hw, Fin.val_succ, Nat.mul_succ, Nat.add_comm]
      rw [hidx, ← List.drop_drop, List.drop_left]
      exact ih (fun i => f i.succ) j

/-- Records of one byte, over and over, make an array of that byte. -/
theorem encodeRecords_replicate {x : UInt8} {f : Fin n → α}
    (h : ∀ i, enc (f i) = List.replicate w x) : encodeRecords enc f = List.replicate (w * n) x := by
  induction n with
  | zero => rfl
  | succ n ih =>
    rw [encodeRecords_succ, h 0, ih fun i => h i.succ, List.replicate_append_replicate,
      Nat.mul_succ, Nat.add_comm]

/-- Reading an array with another decoder. -/
theorem decodeRecords_map {β : Type*} {dec : List UInt8 → β} {g : α → β}
    (hw : ∀ a, (enc a).length = w) (hdec : ∀ a, dec (enc a) = g a) (f : Fin n → α) :
    decodeRecords w dec (encodeRecords enc f) = fun i => g (f i) := by
  funext i
  rw [decodeRecords, encodeRecords_record hw, hdec]

theorem decodeRecords_encodeRecords {dec : List UInt8 → α} (hw : ∀ a, (enc a).length = w)
    (hdec : ∀ a, dec (enc a) = a) (f : Fin n → α) :
    decodeRecords w dec (encodeRecords enc f) = f :=
  decodeRecords_map hw hdec f

/-- Bytes that are laid out again from the array read from them. -/
theorem encodeRecords_decodeRecords {dec : List UInt8 → α}
    (henc : ∀ r : List UInt8, r.length = w → enc (dec r) = r) {bs : List UInt8}
    (hlen : bs.length = w * n) : encodeRecords enc (decodeRecords (n := n) w dec bs) = bs := by
  induction n generalizing bs with
  | zero =>
    rw [Nat.mul_zero] at hlen
    rw [List.length_eq_zero_iff.mp hlen]
    rfl
  | succ n ih =>
    rw [Nat.mul_succ] at hlen
    have hfirst : enc (decodeRecords (n := n + 1) w dec bs 0) = bs.take w := by
      rw [decodeRecords, Fin.val_zero, Nat.mul_zero, List.drop_zero]
      refine henc _ ?_
      rw [List.length_take, hlen]
      omega
    have hrest : (fun i : Fin n => decodeRecords (n := n + 1) w dec bs i.succ) =
        decodeRecords w dec (bs.drop w) := by
      funext i
      rw [decodeRecords, decodeRecords, List.drop_drop, Fin.val_succ, Nat.mul_succ, Nat.add_comm]
    rw [encodeRecords_succ, hfirst, hrest, ih (by rw [List.length_drop]; omega),
      List.take_append_drop]

/-- **Field rule**: an array of records between other fields is read back at its offset. -/
theorem decodeRecords_field {dec : List UInt8 → α} (hw : ∀ a, (enc a).length = w)
    (hdec : ∀ a, dec (enc a) = a) (f : Fin n → α) {pre : List UInt8} {off : Nat}
    (hpre : pre.length = off) (post : List UInt8) :
    decodeRecords w dec ((pre ++ (encodeRecords enc f ++ post)).drop off) = f := by
  rw [List.drop_left' hpre]
  funext i
  have hlen : w * i.val + w ≤ (encodeRecords enc f).length := by
    rw [encodeRecords_length hw, ← Nat.mul_succ]
    exact Nat.mul_le_mul_left w i.isLt
  have hrest : w ≤ ((encodeRecords enc f).drop (w * i.val)).length := by
    rw [List.length_drop]
    omega
  rw [decodeRecords, List.drop_append_of_le_length (by omega), List.take_append_of_le_length hrest,
    encodeRecords_record hw, hdec]

end Bufs
