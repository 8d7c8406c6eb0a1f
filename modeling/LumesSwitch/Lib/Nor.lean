import Mathlib.Data.List.Basic
import Mathlib.Tactic.Ring

/-!
# Erase-before-write memory and slot logs

A byte memory in which an *erase* sets a range to `0xFF` and a *program* can
only clear bits (it ANDs the new bytes in). On top of it, the log discipline
such memories invite: records of one size are appended into erased slots, and
the region is erased when the slots run out.

- `Mem`, `erase`, `program`, `read` — the memory and its three operations;
- `Blank` — a byte string that cannot be told from erased memory;
- `Holds m a b size bs` — slots `0 .. bs.length - 1` of width `b` from
  address `a` hold the non-blank records `bs`, and the rest of the region of
  `size` bytes is erased;
- `Holds.append`, `Holds.restart` — what appending into the next slot, and
  erasing followed by a first record, do to it.
-/

namespace Nor

/-- A byte-addressed memory. -/
abbrev Mem := Nat → UInt8

/-- The content of an erased byte. -/
abbrev erasedByte : UInt8 := 0xFF

/-- Erase `size` bytes from `a`. -/
def erase (a size : Nat) (m : Mem) : Mem :=
  fun x => if a ≤ x ∧ x < a + size then erasedByte else m x

/-- Program the bytes `bs` from `a`: bits can only be cleared. -/
def program (a : Nat) (bs : List UInt8) (m : Mem) : Mem :=
  fun x => if a ≤ x ∧ x < a + bs.length then m x &&& bs.getD (x - a) erasedByte else m x

/-- Read `n` bytes from `a`. -/
def read (a n : Nat) (m : Mem) : List UInt8 :=
  (List.range n).map fun i => m (a + i)

/-- All bytes of the range are erased. -/
def ErasedOn (a n : Nat) (m : Mem) : Prop :=
  ∀ x, a ≤ x → x < a + n → m x = erasedByte

/-- A byte string that reads like erased memory. -/
def Blank (bs : List UInt8) : Prop := ∀ x ∈ bs, x = erasedByte

instance (bs : List UInt8) : Decidable (Blank bs) :=
  inferInstanceAs (Decidable (∀ x ∈ bs, x = erasedByte))

@[simp] theorem read_length (a n : Nat) (m : Mem) : (read a n m).length = n := by
  simp [read]

theorem read_congr {a n : Nat} {m m' : Mem}
    (h : ∀ x, a ≤ x → x < a + n → m x = m' x) : read a n m = read a n m' := by
  refine List.map_congr_left fun i hi => ?_
  have hin : i < n := List.mem_range.mp hi
  exact h (a + i) (by omega) (by omega)

/-- Two memories are the same on a range. -/
def AgreeOn (a n : Nat) (m m' : Mem) : Prop := ∀ x, a ≤ x → x < a + n → m x = m' x

theorem AgreeOn.symm {a n : Nat} {m m' : Mem} (h : AgreeOn a n m m') : AgreeOn a n m' m :=
  fun x hx hx' => (h x hx hx').symm

theorem AgreeOn.trans {a n : Nat} {m m' m'' : Mem} (h : AgreeOn a n m m')
    (h' : AgreeOn a n m' m'') : AgreeOn a n m m'' :=
  fun x hx hx' => (h x hx hx').trans (h' x hx hx')

/-- A read inside a range on which two memories are the same. -/
theorem AgreeOn.read_eq {a n a' n' : Nat} {m m' : Mem} (h : AgreeOn a n m m')
    (h1 : a ≤ a') (h2 : a' + n' ≤ a + n) : read a' n' m = read a' n' m' :=
  read_congr fun x hx hx' => h x (by omega) (by omega)

/-- An erase next to a range leaves it alone. -/
theorem agreeOn_erase {a n a' n' : Nat} (h : a' + n' ≤ a ∨ a + n ≤ a') (m : Mem) :
    AgreeOn a n m (erase a' n' m) := by
  intro x hx hx'
  have hout : ¬ (a' ≤ x ∧ x < a' + n') := by omega
  rw [erase, if_neg hout]

theorem erasedOn_erase (a n : Nat) (m : Mem) : ErasedOn a n (erase a n m) := by
  intro x h1 h2
  simp [erase, h1, h2]

theorem ErasedOn.mono {a n a' n' : Nat} {m : Mem} (h : ErasedOn a n m)
    (h1 : a ≤ a') (h2 : a' + n' ≤ a + n) : ErasedOn a' n' m :=
  fun x hx hx' => h x (by omega) (by omega)

theorem ErasedOn.congr {a n : Nat} {m m' : Mem} (h : ErasedOn a n m) (hm : AgreeOn a n m m') :
    ErasedOn a n m' :=
  fun x hx hx' => (hm x hx hx').symm.trans (h x hx hx')

/-- What is erased stays so under another erase. -/
theorem ErasedOn.erase {a n : Nat} {m : Mem} (h : ErasedOn a n m) (a' n' : Nat) :
    ErasedOn a n (erase a' n' m) := by
  intro x hx hx'
  rw [Nor.erase]
  split
  · rfl
  · exact h x hx hx'

/-- Reading an erased range gives erased bytes. -/
theorem ErasedOn.read_eq {a n : Nat} {m : Mem} (h : ErasedOn a n m) :
    read a n m = List.replicate n erasedByte := by
  refine List.eq_replicate_of_mem (a := erasedByte) ?_ |>.trans (by rw [read_length])
  intro x hx
  obtain ⟨i, hi, rfl⟩ := List.mem_map.mp hx
  have hin : i < n := List.mem_range.mp hi
  exact h (a + i) (by omega) (by omega)

theorem blank_replicate (n : Nat) : Blank (List.replicate n erasedByte) :=
  fun _ hx => List.eq_of_mem_replicate hx

theorem ErasedOn.blank_read {a n : Nat} {m : Mem} (h : ErasedOn a n m) :
    Blank (read a n m) := by
  rw [h.read_eq]
  exact blank_replicate n

/-- Programming leaves the bytes outside its range alone. -/
theorem program_other {a x : Nat} {bs : List UInt8} {m : Mem}
    (h : x < a ∨ a + bs.length ≤ x) : program a bs m x = m x := by
  have hn : ¬ (a ≤ x ∧ x < a + bs.length) := by omega
  simp [program, hn]

theorem erased_and (x : UInt8) : erasedByte &&& x = x := by
  apply UInt8.toBitVec_inj.mp
  show BitVec.allOnes 8 &&& x.toBitVec = x.toBitVec
  exact BitVec.allOnes_and

/-- Bytes programmed into an erased range read back unchanged. -/
theorem read_program {a : Nat} {bs : List UInt8} {m : Mem}
    (h : ErasedOn a bs.length m) : read a bs.length (program a bs m) = bs := by
  refine List.ext_getElem (by simp) fun i h1 h2 => ?_
  have hm := h (a + i) (by omega) (by omega)
  simp only [read, List.getElem_map, List.getElem_range, program]
  rw [if_pos ⟨by omega, by omega⟩, hm, erased_and, Nat.add_sub_cancel_left,
    List.getD_eq_getElem?_getD, List.getElem?_eq_getElem h2, Option.getD_some]

/-- A read that a program does not touch is unchanged. -/
theorem read_program_other {a a' n : Nat} {bs : List UInt8} {m : Mem}
    (h : a' + n ≤ a ∨ a + bs.length ≤ a') :
    read a' n (program a bs m) = read a' n m :=
  read_congr fun _ h1 h2 => program_other (by omega)

/-! ## Slot logs -/

/-- The region of `size` bytes at `a` holds the records `bs` in its first
slots of width `b`, and nothing else. -/
structure Holds (m : Mem) (a b size : Nat) (bs : List (List UInt8)) : Prop where
  width : ∀ d ∈ bs, d.length = b
  content : ∀ d ∈ bs, ¬ Blank d
  fits : bs.length * b ≤ size
  slot : ∀ i (h : i < bs.length), read (a + i * b) b m = bs[i]
  rest : ErasedOn (a + bs.length * b) (size - bs.length * b) m

namespace Holds

variable {m : Mem} {a b size : Nat} {bs : List (List UInt8)}

/-- An erased region holds no record. -/
theorem empty (h : ErasedOn a size m) : Holds m a b size [] where
  width := fun _ hd => nomatch hd
  content := fun _ hd => nomatch hd
  fits := by simp
  slot := fun i hi => nomatch hi
  rest := by simpa using h

/-- The slot behind the last record, if there is room for one. -/
theorem next_erased (h : Holds m a b size bs)
    (hroom : bs.length * b + b ≤ size) : ErasedOn (a + bs.length * b) b m :=
  h.rest.mono (Nat.le_refl _) (by omega)

/-- The region is all that counts. -/
theorem congr {m' : Mem} (h : Holds m a b size bs) (hm : AgreeOn a size m m') :
    Holds m' a b size bs where
  width := h.width
  content := h.content
  fits := h.fits
  slot := by
    intro i hi
    have hfits := h.fits
    have hle : (i + 1) * b ≤ bs.length * b := Nat.mul_le_mul_right b hi
    rw [Nat.add_mul, Nat.one_mul] at hle
    rw [← hm.read_eq (by omega) (by omega)]
    exact h.slot i hi
  rest := by
    have hfits := h.fits
    exact h.rest.congr fun x hx hx' => hm x (by omega) (by omega)

/-- Appending a record into the next slot. -/
theorem append (h : Holds m a b size bs) {d : List UInt8} (hd : d.length = b)
    (hc : ¬ Blank d) (hroom : bs.length * b + b ≤ size) :
    Holds (program (a + bs.length * b) d m) a b size (bs ++ [d]) where
  width := by
    intro x hx
    rcases List.mem_append.mp hx with hx | hx
    · exact h.width x hx
    · rw [List.mem_singleton.mp hx]
      exact hd
  content := by
    intro x hx
    rcases List.mem_append.mp hx with hx | hx
    · exact h.content x hx
    · rw [List.mem_singleton.mp hx]
      exact hc
  fits := by
    rw [List.length_append, List.length_singleton, Nat.add_mul, Nat.one_mul]
    exact hroom
  slot := by
    intro i hi
    rw [List.length_append, List.length_singleton] at hi
    rcases Nat.lt_or_ge i bs.length with hlt | hge
    · -- an old slot ends before the new one starts
      have hle : (i + 1) * b ≤ bs.length * b := Nat.mul_le_mul_right b hlt
      rw [Nat.add_mul, Nat.one_mul] at hle
      rw [read_program_other (by omega), h.slot i hlt, List.getElem_append_left hlt]
    · obtain rfl : i = bs.length := by omega
      have her := h.next_erased hroom
      rw [List.getElem_concat_length rfl]
      subst hd
      exact read_program her
  rest := by
    intro x h1 h2
    rw [List.length_append, List.length_singleton, Nat.add_mul, Nat.one_mul] at h1 h2
    rw [program_other (by omega)]
    exact h.rest x (by omega) (by omega)

/-- Erasing the region and writing a first record. -/
theorem restart {d : List UInt8} (hd : d.length = b) (hc : ¬ Blank d)
    (hroom : b ≤ size) (m : Mem) :
    Holds (program a d (erase a size m)) a b size [d] := by
  have h0 : Holds (erase a size m) a b size [] := empty (erasedOn_erase a size m)
  simpa using h0.append hd hc (by simpa using hroom)

/-- The last record is what its slot reads. -/
theorem read_last (h : Holds m a b size bs) (hne : bs ≠ []) :
    read (a + (bs.length - 1) * b) b m = bs.getLast hne := by
  have hpos : 0 < bs.length := List.length_pos_of_ne_nil hne
  rw [h.slot (bs.length - 1) (by omega), List.getLast_eq_getElem]

/-- A written slot does not read blank. -/
theorem not_blank_slot (h : Holds m a b size bs) {i : Nat} (hi : i < bs.length) :
    ¬ Blank (read (a + i * b) b m) := by
  rw [h.slot i hi]
  exact h.content _ (List.getElem_mem hi)

end Holds

end Nor
