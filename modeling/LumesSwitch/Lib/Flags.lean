import Mathlib.Logic.Basic

/-!
# Words of flags

A machine word used as an array of flags: reading, setting and clearing the
flag at an index.

- `isOn`, `setOn`, `setOff`, `put` — the operations;
- `isOn_setOn`, `isOn_setOff`, `isOn_put`, `isOn_and` — what reading sees after
  each of them.
-/

namespace Flags

variable {n : Nat}

/-- The flag at index `i`: `(w >> i) & 1`. -/
def isOn (w : BitVec n) (i : Nat) : Bool := w.getLsbD i

/-- `w | (1 << i)` -/
def setOn (w : BitVec n) (i : Nat) : BitVec n := w ||| 1#n <<< i

/-- `w & ~(1 << i)` -/
def setOff (w : BitVec n) (i : Nat) : BitVec n := w &&& ~~~(1#n <<< i)

/-- Set or clear the flag at index `i`. -/
def put (w : BitVec n) (i : Nat) (v : Bool) : BitVec n := if v then setOn w i else setOff w i

theorem getLsbD_one_shiftLeft (i j : Nat) :
    (1#n <<< i).getLsbD j = (decide (j < n) && decide (j = i)) := by
  rw [BitVec.getLsbD_shiftLeft, BitVec.getLsbD_one]
  by_cases h : j = i
  · subst h
    by_cases hj : j < n
    · have hn : 0 < n := by omega
      simp [hj, hn]
    · simp [hj]
  · have hne : i < j → j - i ≠ 0 := by omega
    by_cases hlt : j < i
    · simp [h, hlt]
    · have : ¬ (j - i = 0) := by omega
      simp [h, this]

@[simp] theorem isOn_setOn (w : BitVec n) {i : Nat} (hi : i < n) (j : Nat) :
    isOn (setOn w i) j = (decide (j = i) || isOn w j) := by
  rw [isOn, isOn, setOn, BitVec.getLsbD_or, getLsbD_one_shiftLeft]
  by_cases h : j = i
  · subst h
    simp [hi]
  · simp [h]

@[simp] theorem isOn_setOff (w : BitVec n) (i j : Nat) :
    isOn (setOff w i) j = (!decide (j = i) && isOn w j) := by
  rw [isOn, isOn, setOff, BitVec.getLsbD_and, BitVec.getLsbD_not, getLsbD_one_shiftLeft]
  by_cases hj : j < n
  · simp [hj, Bool.and_comm]
  · have hw : w.getLsbD j = false := BitVec.getLsbD_of_ge w j (by omega)
    simp [hw]

@[simp] theorem isOn_put (w : BitVec n) {i : Nat} (hi : i < n) (v : Bool) (j : Nat) :
    isOn (put w i v) j = if j = i then v else isOn w j := by
  cases v with
  | true =>
    rw [put, if_pos rfl, isOn_setOn w hi]
    by_cases h : j = i <;> simp [h]
  | false =>
    rw [put, if_neg Bool.false_ne_true, isOn_setOff]
    by_cases h : j = i <;> simp [h]

@[simp] theorem isOn_and (w m : BitVec n) (j : Nat) :
    isOn (w &&& m) j = (isOn w j && isOn m j) := BitVec.getLsbD_and

@[simp] theorem isOn_not (w : BitVec n) {j : Nat} (hj : j < n) :
    isOn (~~~w) j = !isOn w j := by
  rw [isOn, isOn, BitVec.getLsbD_not]
  simp [hj]

end Flags
