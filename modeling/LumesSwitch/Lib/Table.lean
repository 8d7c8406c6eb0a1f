import Mathlib.Data.List.FinRange
import Mathlib.Logic.Function.Basic

/-!
# Tables of slots

A table has a fixed number of slots, each empty or filled with an entry; an entry is
found by its key, and a new one goes into the first empty slot.

- `find`, `emptySlot`, `count` — searching a table;
- `Distinct` — no two entries have the same key;
- `Has` — an entry is in the table, and what filling and emptying a slot does to it.
-/

namespace Tables

variable {n : Nat} {α κ : Type*}

/-- A table of `n` slots. -/
abbrev Table (n : Nat) (α : Type*) : Type _ := Fin n → Option α

/-- The first slot whose entry has the key. -/
def find [DecidableEq κ] (key : α → κ) (t : Table n α) (k : κ) : Option (Fin n) :=
  (List.finRange n).find? fun i => (t i).any fun a => key a = k

/-- The first empty slot. -/
def emptySlot (t : Table n α) : Option (Fin n) := (List.finRange n).find? fun i => (t i).isNone

/-- The number of entries. -/
def count (t : Table n α) : Nat := (List.finRange n).countP fun i => (t i).isSome

/-- The entry is in the table. -/
def Has (t : Table n α) (a : α) : Prop := ∃ i, t i = some a

instance [DecidableEq α] (t : Table n α) (a : α) : Decidable (Has t a) :=
  inferInstanceAs (Decidable (∃ i, t i = some a))

/-- No two entries have the same key. -/
def Distinct (key : α → κ) (t : Table n α) : Prop :=
  ∀ i j a b, t i = some a → t j = some b → key a = key b → i = j

variable {key : α → κ} {t : Table n α}

theorem distinct_empty : Distinct key (fun _ => none : Table n α) := by
  rintro i j a b ⟨⟩

theorem not_has_empty (a : α) : ¬ Has (fun _ => none : Table n α) a := by
  rintro ⟨i, ⟨⟩⟩

theorem find_eq_some [DecidableEq κ] {k : κ} {i : Fin n} (h : find key t k = some i) :
    ∃ a, t i = some a ∧ key a = k := by
  have hp := List.find?_some h
  cases ht : t i with
  | none =>
    rw [ht] at hp
    cases hp
  | some a =>
    rw [ht] at hp
    exact ⟨a, rfl, of_decide_eq_true hp⟩

theorem find_eq_none [DecidableEq κ] {k : κ} (h : find key t k = none) {i : Fin n} {a : α}
    (ha : t i = some a) :
    key a ≠ k := by
  intro hk
  have hp := List.find?_eq_none.mp h i (List.mem_finRange i)
  rw [ha] at hp
  exact hp (decide_eq_true hk)

theorem emptySlot_eq_some {i : Fin n} (h : emptySlot t = some i) : t i = none := by
  have hp := List.find?_some h
  exact Option.isNone_iff_eq_none.mp hp

theorem emptySlot_eq_none (h : emptySlot t = none) (i : Fin n) : t i ≠ none := by
  have hp := List.find?_eq_none.mp h i (List.mem_finRange i)
  exact fun hi => hp (Option.isNone_iff_eq_none.mpr hi)

/-! ## Filling and emptying a slot -/

theorem has_update {i : Fin n} {o : Option α} {a : α} (h : Has (Function.update t i o) a) :
    o = some a ∨ Has t a := by
  obtain ⟨j, hj⟩ := h
  by_cases hji : j = i
  · rw [hji, Function.update_self] at hj
    exact .inl hj
  · rw [Function.update_of_ne hji] at hj
    exact .inr ⟨j, hj⟩

/-- The keys stay distinct if no other slot has the key of the new entry. -/
theorem Distinct.set (h : Distinct key t) {i : Fin n} {a : α}
    (hother : ∀ j b, t j = some b → key b = key a → j = i) :
    Distinct key (Function.update t i (some a)) := by
  intro j j' b b' hb hb' hk
  by_cases hj : j = i
  · by_cases hj' : j' = i
    · rw [hj, hj']
    · rw [hj, Function.update_self] at hb
      rw [Function.update_of_ne hj'] at hb'
      exact absurd (hother j' b' hb' (Option.some.inj hb ▸ hk.symm)) hj'
  · rw [Function.update_of_ne hj] at hb
    by_cases hj' : j' = i
    · rw [hj', Function.update_self] at hb'
      exact absurd (hother j b hb (Option.some.inj hb' ▸ hk)) hj
    · rw [Function.update_of_ne hj'] at hb'
      exact h j j' b b' hb hb' hk

/-- A fresh key keeps the keys distinct. -/
theorem Distinct.fill (h : Distinct key t) {i : Fin n} {a : α}
    (hnew : ∀ j b, t j = some b → key b ≠ key a) : Distinct key (Function.update t i (some a)) :=
  h.set fun j b hb hk => absurd hk (hnew j b hb)

theorem Distinct.empty (h : Distinct key t) (i : Fin n) :
    Distinct key (Function.update t i none) := by
  intro j j' b b' hb hb' hk
  have hold : ∀ j b, Function.update t i none j = some b → t j = some b := by
    intro j b hb
    by_cases hj : j = i
    · rw [hj, Function.update_self] at hb
      cases hb
    · rwa [Function.update_of_ne hj] at hb
  exact h j j' b b' (hold j b hb) (hold j' b' hb') hk

/-- The entry that is found by its key is gone when its slot is emptied. -/
theorem Distinct.not_has [DecidableEq κ] (h : Distinct key t) {i : Fin n} {a : α}
    (hi : find key t (key a) = some i) : ¬ Has (Function.update t i none) a := by
  rintro ⟨j, hj⟩
  obtain ⟨b, hb, hk⟩ := find_eq_some hi
  by_cases hji : j = i
  · rw [hji, Function.update_self] at hj
    cases hj
  · rw [Function.update_of_ne hji] at hj
    exact hji (h j i a b hj hb hk.symm)

end Tables
