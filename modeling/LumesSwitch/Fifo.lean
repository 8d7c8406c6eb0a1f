import Mathlib.Data.Fintype.Basic
import LumesSwitch.Lib.Buf
import LumesSwitch.Lib.Ring

/-!
# The FIFO (`fifo.c`)

A ring of items of one size in a byte array, used for LED commands and for the reads of
the meter chip. A push does not ask whether the ring is full.

- `Fifo.fifoPush`, `Fifo.fifoPop` — the operations, down to the copied bytes;
- `Fifo.Views` — the FIFO as a ring of items;
- `fifo_answers_eq_iff` — it is a queue of one item less than its length as long as nothing
  is pushed when it is full.
-/

namespace LumesSwitch

open Bufs Rings Runs

/-- `Fifo_t`, with the memory from `buffer` on. -/
structure Fifo where
  head : UInt16
  tail : UInt16
  length : UInt16
  buffer : Nat → UInt8
  itemSize : UInt8

/-- `copyVoidPointerItem`: byte after byte, from `s` on in `src` to `d` on in `dst`. -/
def copyVoidPointerItem (src : Nat → UInt8) : (dst : Nat → UInt8) → (d s size : Nat) → Nat → UInt8
  | dst, _, _, 0 => dst
  | dst, d, s, size + 1 =>
    copyVoidPointerItem src (Function.update dst d (src s)) (d + 1) (s + 1) size

namespace Fifo

/-- `FifoNext` -/
def fifoNext (f : Fifo) (index : UInt16) : UInt16 :=
  UInt16.ofNat ((index.toNat + 1) % f.length.toNat)

/-- `FifoInit` -/
def fifoInit (buffer : Nat → UInt8) (itemSize : UInt8) (length : UInt16) : Fifo where
  head := 0
  tail := 0
  buffer := buffer
  length := length
  itemSize := itemSize

/-- `FifoIsEmpty` -/
def fifoIsEmpty (f : Fifo) : Bool := f.head = f.tail

/-- `FifoIsFull` -/
def fifoIsFull (f : Fifo) : Bool := f.fifoNext f.tail = f.head

/-- `FifoPush` of the item that `data` points to; no pointer is `NULL`, here and below. -/
def fifoPush (f : Fifo) (data : Nat → UInt8) : Fifo × Bool :=
  let ptr := f.tail.toNat * f.itemSize.toNat
  ({ f with
      buffer := copyVoidPointerItem data f.buffer ptr 0 f.itemSize.toNat
      tail := f.fifoNext f.tail }, true)

/-- `FifoPop`, with the memory that `data` points to afterwards. -/
def fifoPop (f : Fifo) (data : Nat → UInt8) : Fifo × (Nat → UInt8) × Bool :=
  if f.fifoIsEmpty then (f, data, false)
  else
    let ptr := f.head.toNat * f.itemSize.toNat
    ({ f with head := f.fifoNext f.head },
      copyVoidPointerItem f.buffer data 0 ptr f.itemSize.toNat, true)

/-- `FifoFlush` -/
def fifoFlush (f : Fifo) : Fifo := { f with head := 0, tail := 0 }

/-- The operations as those of a queue of items of `size` bytes. -/
def step {size : Nat} (f : Fifo) : QueueOp (Buf size) → Fifo × QueueAns (Buf size)
  | .push x =>
    let (f, ok) := f.fifoPush x.get
    (f, .pushed ok)
  | .pop =>
    let (f, data, ok) := f.fifoPop fun _ => 0
    (f, .popped (if ok then some fun i => data i else none))
  | .flush => (f.fifoFlush, .flushed)
  | .isEmpty => (f, .empty f.fifoIsEmpty)
  | .isFull => (f, .full f.fifoIsFull)

end Fifo

/-! ## Copying -/

theorem copyVoidPointerItem_apply (src dst : Nat → UInt8) (d s size k : Nat) :
    copyVoidPointerItem src dst d s size k =
      if d ≤ k ∧ k < d + size then src (s + (k - d)) else dst k := by
  induction size generalizing dst d s with
  | zero => simp [copyVoidPointerItem]
  | succ size ih =>
    rw [copyVoidPointerItem, ih]
    by_cases hk : k = d
    · subst hk
      simp
    · rw [Function.update_of_ne hk]
      by_cases hin : d + 1 ≤ k ∧ k < d + 1 + size
      · have hoff : s + 1 + (k - (d + 1)) = s + (k - d) := by omega
        rw [if_pos hin, if_pos (by omega), hoff]
      · rw [if_neg hin, if_neg (by omega)]

/-- Items of different slots do not overlap. -/
theorem slots_disjoint (size : Nat) {i j : Nat} (h : i ≠ j) :
    i * size + size ≤ j * size ∨ j * size + size ≤ i * size := by
  rcases Nat.lt_or_gt_of_ne h with hlt | hlt
  · left
    rw [← Nat.succ_mul]
    exact Nat.mul_le_mul_right size hlt
  · right
    rw [← Nat.succ_mul]
    exact Nat.mul_le_mul_right size hlt

/-! ## The FIFO as a ring -/

namespace Fifo

variable {n : Nat} {size : Nat}

/-- The FIFO is the ring `r` of items. -/
structure Views (f : Fifo) (r : Ring n (Buf size)) : Prop where
  length : f.length.toNat = n
  itemSize : f.itemSize.toNat = size
  head : f.head.toNat = r.head
  tail : f.tail.toNat = r.tail
  slot : ∀ i (j : Fin size), f.buffer (i * size + j) = r.slot i j

namespace Views

variable {f : Fifo} {r : Ring n (Buf size)}

theorem next (h : f.Views r) {x : UInt16} {i : Nat} (hx : x.toNat = i) (hi : i < n) :
    (f.fifoNext x).toNat = Ring.next n i := by
  have hlt := Ring.next_lt hi
  have hn : n < 2 ^ 16 := h.length ▸ f.length.toNat_lt
  rw [fifoNext, h.length, hx, UInt16.toNat_ofNat']
  exact Nat.mod_eq_of_lt (Nat.lt_trans hlt hn)

theorem isEmpty (h : f.Views r) : f.fifoIsEmpty = r.isEmpty := by
  rw [fifoIsEmpty, Ring.isEmpty, ← h.head, ← h.tail, decide_eq_decide]
  exact UInt16.toNat_inj.symm

theorem isFull (h : f.Views r) : f.fifoIsFull = r.isFull := by
  rw [fifoIsFull, Ring.isFull, ← h.head, ← h.next h.tail r.tail_lt, decide_eq_decide]
  exact UInt16.toNat_inj.symm

/-- A push writes the slot of the tail and no other. -/
theorem push (h : f.Views r) (x : Buf size) : (f.fifoPush x.get).1.Views (r.push x) where
  length := h.length
  itemSize := h.itemSize
  head := h.head
  tail := h.next h.tail r.tail_lt
  slot := by
    intro i j
    have hj := j.isLt
    show copyVoidPointerItem _ _ _ _ _ _ = Function.update r.slot r.tail x i j
    rw [copyVoidPointerItem_apply, h.itemSize, h.tail]
    by_cases hi : i = r.tail
    · subst hi
      rw [if_pos (by omega), Function.update_self, Nat.zero_add, Nat.add_sub_cancel_left]
      exact dif_pos hj
    · have hdis := slots_disjoint size hi
      rw [if_neg (by omega), Function.update_of_ne hi]
      exact h.slot i j

theorem drop (h : f.Views r) : { f with head := f.fifoNext f.head }.Views r.drop where
  length := h.length
  itemSize := h.itemSize
  head := h.next h.head r.head_lt
  tail := h.tail
  slot := h.slot

/-- What a pop copies is the item at the head. -/
theorem item (h : f.Views r) (data : Nat → UInt8) (j : Fin size) :
    copyVoidPointerItem f.buffer data 0 (f.head.toNat * f.itemSize.toNat) f.itemSize.toNat j =
      r.slot r.head j := by
  have hj := j.isLt
  rw [copyVoidPointerItem_apply, h.itemSize, h.head, if_pos (by omega), Nat.sub_zero]
  exact h.slot r.head j

theorem flush (h : f.Views r) : f.fifoFlush.Views r.flush where
  length := h.length
  itemSize := h.itemSize
  head := rfl
  tail := rfl
  slot := h.slot

/-- **Step lemma**: the FIFO goes along with the ring. -/
theorem step (h : f.Views r) (op : QueueOp (Buf size)) :
    (f.step op).1.Views (r.step op).1 ∧ (f.step op).2 = (r.step op).2 := by
  cases op with
  | push x => exact ⟨h.push x, rfl⟩
  | pop =>
    rw [Fifo.step, Ring.step, fifoPop, h.isEmpty]
    cases hempty : r.isEmpty with
    | true => exact ⟨h, rfl⟩
    | false =>
      refine ⟨h.drop, ?_⟩
      have hitem : (fun j : Fin size => copyVoidPointerItem f.buffer (fun _ => 0) 0
          (f.head.toNat * f.itemSize.toNat) f.itemSize.toNat j) = r.slot r.head :=
        funext fun j => h.item _ j
      exact congrArg (fun x => QueueAns.popped (some x)) hitem
  | flush => exact ⟨h.flush, rfl⟩
  | isEmpty => exact ⟨h, congrArg _ h.isEmpty⟩
  | isFull => exact ⟨h, congrArg _ h.isFull⟩

end Views

/-- The ring of a new FIFO. -/
def initRing (buffer : Nat → UInt8) (size : Nat) (hn : 0 < n) : Ring n (Buf size) where
  slot := fun i j => buffer (i * size + j)
  head := 0
  tail := 0
  head_lt := hn
  tail_lt := hn

theorem views_fifoInit (buffer : Nat → UInt8) (itemSize : UInt8) {length : UInt16}
    (hn : 0 < length.toNat) :
    (fifoInit buffer itemSize length).Views (initRing buffer itemSize.toNat hn) :=
  ⟨rfl, rfl, rfl, rfl, fun _ _ => rfl⟩

theorem holds_initRing (buffer : Nat → UInt8) (hn : 0 < n) :
    (initRing buffer size hn).Holds [] where
  length_lt := hn
  tail_eq := (if_pos hn).symm
  item := fun _ hi => absurd hi (Nat.not_lt_zero _)

/-- An operation that does not push into a full FIFO. -/
def PushOk (f : Fifo) : QueueOp (Buf size) → Prop
  | .push _ => f.fifoIsFull = false
  | _ => True

instance (f : Fifo) : ∀ op : QueueOp (Buf size), Decidable (f.PushOk op)
  | .push _ => inferInstanceAs (Decidable (_ = false))
  | .pop => inferInstanceAs (Decidable True)
  | .flush => inferInstanceAs (Decidable True)
  | .isEmpty => inferInstanceAs (Decidable True)
  | .isFull => inferInstanceAs (Decidable True)

theorem Views.pushOk_iff {f : Fifo} {r : Ring n (Buf size)} (h : f.Views r)
    (op : QueueOp (Buf size)) : f.PushOk op ↔ r.PushOk op := by
  cases op with
  | push x => rw [PushOk, Ring.PushOk, h.isFull]
  | pop => rfl
  | flush => rfl
  | isEmpty => rfl
  | isFull => rfl

end Fifo

/-- **The FIFO is a bounded queue.** A run from `FifoInit` answers as a queue of `length - 1`
items does if and only if it never pushes into a full FIFO. -/
theorem fifo_answers_eq_iff (buffer : Nat → UInt8) (itemSize : UInt8) {length : UInt16}
    (hn : 2 ≤ length.toNat) (ops : List (QueueOp (Buf itemSize.toNat))) :
    answers Fifo.step (Fifo.fifoInit buffer itemSize length) ops =
        answers (queueStep (length.toNat - 1)) [] ops ↔
      AllSteps (fun f op => (Fifo.step f op).1) Fifo.PushOk
        (Fifo.fifoInit buffer itemSize length) ops := by
  have hpos : 0 < length.toNat := Nat.lt_of_lt_of_le Nat.two_pos hn
  have hviews := Fifo.views_fifoInit buffer itemSize hpos
  rw [answers_simulation (fun _ _ op h => h.step op) hviews ops,
    AllSteps.simulation (fun _ _ op h => (h.step op).1) (fun _ _ op h => h.pushOk_iff op)
      hviews ops]
  exact (Fifo.holds_initRing buffer hpos).answers_eq_iff ops

/-- Three one-byte items through a FIFO of length two, each popped before the next. -/
def oneAtATime : List (QueueOp (Buf 1)) :=
  [.push fun _ => 1, .pop, .push fun _ => 2, .pop, .push fun _ => 3, .isFull]

theorem fifo_answers_eq_oneAtATime :
    answers Fifo.step (Fifo.fifoInit (fun _ => 0) 1 2) oneAtATime =
      answers (queueStep 1) [] oneAtATime :=
  (@fifo_answers_eq_iff (fun _ => 0) 1 2 (by decide) oneAtATime).mpr (by decide)

/-- Two one-byte items into a FIFO of length two, and a pop. -/
def twoAtATime : List (QueueOp (Buf 1)) := [.push fun _ => 1, .push fun _ => 2, .pop]

/-- The second push is answered with success, and both items are lost. -/
theorem fifo_answers_ne_twoAtATime :
    answers Fifo.step (Fifo.fifoInit (fun _ => 0) 1 2) twoAtATime =
        [.pushed true, .pushed true, .popped none] ∧
      answers Fifo.step (Fifo.fifoInit (fun _ => 0) 1 2) twoAtATime ≠
        answers (queueStep 1) [] twoAtATime := by
  decide

end LumesSwitch
