import Mathlib.Data.List.GetD
import Mathlib.Logic.Function.Basic
import LumesSwitch.Lib.Run

/-!
# Ring buffers and bounded queues

A ring of `n` slots with a head and a tail is empty when the two meet, so it can hold at
most `n - 1` items. A ring that is written without a look at its head stands for a queue of
that capacity as long as nothing is pushed when it is full, and no longer.

- `QueueOp`, `QueueAns`, `queueStep` — the bounded queue, with what its operations answer;
- `Ring`, `Ring.step` — the ring, whose push never looks at the head;
- `Ring.Holds` — the items of the ring, from the head on;
- `Ring.Holds.answers_eq_iff` — a run of the ring answers as the queue does exactly when it never
  pushes into a full ring.
-/

namespace Rings

open Runs

/-- The operations on a queue. -/
inductive QueueOp (α : Type*) where
  | push (x : α)
  | pop
  | flush
  | isEmpty
  | isFull

/-- What they answer. -/
inductive QueueAns (α : Type*) where
  | pushed (ok : Bool)
  | popped (x : Option α)
  | flushed
  | empty (yes : Bool)
  | full (yes : Bool)
  deriving DecidableEq

variable {α : Type*}

/-- A queue of at most `cap` items, the oldest first. -/
def queueStep (cap : Nat) (q : List α) : QueueOp α → List α × QueueAns α
  | .push x => if q.length < cap then (q ++ [x], .pushed true) else (q, .pushed false)
  | .pop => (q.tail, .popped q.head?)
  | .flush => ([], .flushed)
  | .isEmpty => (q, .empty q.isEmpty)
  | .isFull => (q, .full (decide (cap ≤ q.length)))

/-! ## Rings -/

/-- A ring of `n` slots. -/
structure Ring (n : Nat) (α : Type*) where
  slot : Nat → α
  head : Nat
  tail : Nat
  head_lt : head < n
  tail_lt : tail < n

namespace Ring

variable {n : Nat}

/-- The slot behind slot `i`. -/
def next (n i : Nat) : Nat := (i + 1) % n

theorem next_lt {i : Nat} (h : i < n) : next n i < n := Nat.mod_lt _ (Nat.zero_lt_of_lt h)

/-- `next` without the remainder. -/
theorem next_eq {i : Nat} (h : i < n) : next n i = if i + 1 = n then 0 else i + 1 := by
  rw [next]
  split
  · next heq => rw [heq, Nat.mod_self]
  · exact Nat.mod_eq_of_lt (by omega)

/-- Write the slot of the tail and step on, whatever the head is. -/
def push (r : Ring n α) (x : α) : Ring n α :=
  { r with
    slot := Function.update r.slot r.tail x
    tail := next n r.tail
    tail_lt := next_lt r.tail_lt }

/-- Step behind the oldest item. -/
def drop (r : Ring n α) : Ring n α :=
  { r with head := next n r.head, head_lt := next_lt r.head_lt }

def flush (r : Ring n α) : Ring n α :=
  { r with
    head := 0
    tail := 0
    head_lt := Nat.zero_lt_of_lt r.head_lt
    tail_lt := Nat.zero_lt_of_lt r.tail_lt }

def isEmpty (r : Ring n α) : Bool := r.head = r.tail

def isFull (r : Ring n α) : Bool := next n r.tail = r.head

def step (r : Ring n α) : QueueOp α → Ring n α × QueueAns α
  | .push x => (r.push x, .pushed true)
  | .pop => if r.isEmpty then (r, .popped none) else (r.drop, .popped (some (r.slot r.head)))
  | .flush => (r.flush, .flushed)
  | .isEmpty => (r, .empty r.isEmpty)
  | .isFull => (r, .full r.isFull)

/-- An operation that does not push into a full ring. -/
def PushOk (r : Ring n α) : QueueOp α → Prop
  | .push _ => r.isFull = false
  | _ => True

/-- Slot `i` from the head on. -/
def nth (r : Ring n α) (i : Nat) : Nat := if r.head + i < n then r.head + i else r.head + i - n

/-- The ring holds the items of `q`, the oldest at its head. -/
structure Holds (r : Ring n α) (q : List α) : Prop where
  length_lt : q.length < n
  tail_eq : r.tail = r.nth q.length
  item : ∀ i (h : i < q.length), r.slot (r.nth i) = q[i]

namespace Holds

variable {r : Ring n α} {q : List α}

theorem isEmpty_eq (h : r.Holds q) : r.isEmpty = q.isEmpty := by
  have hlen := h.length_lt
  have htail := h.tail_eq
  have hhead := r.head_lt
  rw [isEmpty, Bool.eq_iff_iff, decide_eq_true_iff, List.isEmpty_iff, ← List.length_eq_zero_iff,
    htail, nth]
  split <;> omega

/-- The ring is full when it holds one item less than it has slots. -/
theorem isFull_eq (h : r.Holds q) : r.isFull = decide (n - 1 ≤ q.length) := by
  have hlen := h.length_lt
  have htail := h.tail_eq
  have hhead := r.head_lt
  rw [isFull, Bool.eq_iff_iff, decide_eq_true_iff, decide_eq_true_iff, next_eq r.tail_lt, htail,
    nth]
  split <;> split <;> omega

theorem flush (h : r.Holds q) : r.flush.Holds [] where
  length_lt := Nat.zero_lt_of_lt h.length_lt
  tail_eq := by simp [Ring.flush, nth]
  item := fun _ hi => absurd hi (Nat.not_lt_zero _)

/-- A push into a ring that is not full appends. -/
theorem push (h : r.Holds q) (hroom : q.length < n - 1) (x : α) : (r.push x).Holds (q ++ [x]) where
  length_lt := by
    rw [List.length_append, List.length_singleton]
    omega
  tail_eq := by
    have htail := h.tail_eq
    have hhead := r.head_lt
    rw [List.length_append, List.length_singleton]
    show next n r.tail = r.nth (q.length + 1)
    rw [next_eq r.tail_lt, htail, nth, nth]
    split <;> split <;> split <;> omega
  item := by
    intro i hi
    rw [List.length_append, List.length_singleton] at hi
    show Function.update r.slot r.tail x (r.nth i) = (q ++ [x])[i]
    rcases Nat.lt_or_ge i q.length with hlt | hge
    · -- an item that was there lies in another slot
      have hne : r.nth i ≠ r.tail := by
        have hhead := r.head_lt
        rw [h.tail_eq, nth, nth]
        split <;> split <;> omega
      rw [Function.update_of_ne hne, h.item i hlt, List.getElem_append_left hlt]
    · obtain rfl : i = q.length := by omega
      rw [← h.tail_eq, Function.update_self, List.getElem_concat_length rfl]

/-- A pop takes the oldest item. -/
theorem drop {x : α} (h : r.Holds (x :: q)) : r.drop.Holds q ∧ r.slot r.head = x := by
  have hhead := r.head_lt
  have hlen := h.length_lt
  rw [List.length_cons] at hlen
  have hnth : ∀ i, i + 1 < n → r.drop.nth i = r.nth (i + 1) := by
    intro i hi
    have hnext : r.drop.head = if r.head + 1 = n then 0 else r.head + 1 := next_eq hhead
    rw [nth, nth, hnext]
    split <;> split <;> split <;> omega
  refine ⟨⟨by omega, ?_, fun i hi => ?_⟩, ?_⟩
  · rw [hnth _ hlen]
    exact h.tail_eq
  · rw [hnth i (by omega)]
    exact h.item (i + 1) (Nat.succ_lt_succ hi)
  · have hzero : r.nth 0 = r.head := if_pos hhead
    rw [← hzero]
    exact h.item 0 (Nat.succ_pos _)

/-- **Step lemma**: unless it pushes into a full ring, an operation answers as the queue
does and leaves what the queue holds. -/
theorem step (h : r.Holds q) {op : QueueOp α} (hok : r.PushOk op) :
    (r.step op).1.Holds (queueStep (n - 1) q op).1 ∧
      (r.step op).2 = (queueStep (n - 1) q op).2 := by
  cases op with
  | push x =>
    have hroom : q.length < n - 1 := by
      have hfull : r.isFull = false := hok
      rw [h.isFull_eq, decide_eq_false_iff_not] at hfull
      omega
    rw [queueStep, if_pos hroom]
    exact ⟨h.push hroom x, rfl⟩
  | pop =>
    rw [Ring.step, h.isEmpty_eq]
    cases q with
    | nil => exact ⟨h, rfl⟩
    | cons x q =>
      obtain ⟨hrest, hitem⟩ := h.drop
      exact ⟨hrest, congrArg (fun x => QueueAns.popped (some x)) hitem⟩
  | flush => exact ⟨h.flush, rfl⟩
  | isEmpty => exact ⟨h, congrArg _ h.isEmpty_eq⟩
  | isFull => exact ⟨h, congrArg _ h.isFull_eq⟩

/-- An operation that does is answered in another way than by the queue. -/
theorem step_ne (h : r.Holds q) {op : QueueOp α} (hok : ¬ r.PushOk op) :
    (r.step op).2 ≠ (queueStep (n - 1) q op).2 := by
  cases op with
  | push x =>
    have hfull : r.isFull = true := Bool.of_not_eq_false hok
    rw [h.isFull_eq, decide_eq_true_iff] at hfull
    rw [queueStep, if_neg (Nat.not_lt.mpr hfull)]
    intro heq
    cases heq
  | pop => exact absurd trivial hok
  | flush => exact absurd trivial hok
  | isEmpty => exact absurd trivial hok
  | isFull => exact absurd trivial hok

end Holds

/-- **Refinement**: from related states, a run of the ring answers as the queue does if and
only if it never pushes into a full ring. -/
theorem Holds.answers_eq_iff {r : Ring n α} {q : List α} (h : r.Holds q) (ops : List (QueueOp α)) :
    answers Ring.step r ops = answers (queueStep (n - 1)) q ops ↔
      AllSteps (fun r op => (Ring.step r op).1) PushOk r ops := by
  induction ops generalizing r q with
  | nil => exact iff_of_true rfl trivial
  | cons op ops ih =>
    rw [answers, answers, List.cons.injEq]
    by_cases hok : r.PushOk op
    · obtain ⟨hrest, hans⟩ := h.step hok
      exact and_congr (iff_of_true hans hok) (ih hrest)
    · exact iff_of_false (fun hans => h.step_ne hok hans.1) fun hall => hok hall.1

end Ring

end Rings
