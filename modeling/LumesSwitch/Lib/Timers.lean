import Mathlib.Data.Fintype.Card
import LumesSwitch.Lib.Run
import LumesSwitch.Lib.Table

/-!
# A map from keys to timers

A timer has a length, and runs from when it was added or its key was last called. What has
happened to a set of timers is a list of observations; the map is read off it.

- `Obs`, `TimerMap`, `registry` — what happens, and the map behind it;
- `CallOk` — a call is for a key with a timer that is over;
- `Fits` — there never are more keys than fit;
- `edits`, `calls` — how often a key was added or removed, and how often called;
- `Refines` — a table of slots holds the map, each key once.
-/

namespace Timers

open Runs Tables

variable {κ : Type*} [DecidableEq κ]

/-- What happens to the timers; times and lengths are in the same unit. -/
inductive Obs (κ : Type*) where
  | add (k : κ) (length time : Nat)
  | remove (k : κ)
  | call (k : κ) (time : Nat)

/-- The keys, and since when and how long the timer of each runs. -/
@[ext] structure TimerMap (κ : Type*) where
  keys : Finset κ
  since : κ → Nat
  length : κ → Nat

namespace TimerMap

def empty : TimerMap κ := ⟨∅, fun _ => 0, fun _ => 0⟩

/-- The timer of the key runs from `time`. -/
def set (m : TimerMap κ) (k : κ) (length time : Nat) : TimerMap κ where
  keys := insert k m.keys
  since := Function.update m.since k time
  length := Function.update m.length k length

def erase (m : TimerMap κ) (k : κ) : TimerMap κ := { m with keys := m.keys.erase k }

def obs (m : TimerMap κ) : Obs κ → TimerMap κ
  | .add k length time => m.set k length time
  | .remove k => m.erase k
  | .call k time => { m with since := Function.update m.since k time }

/-- A call starts the timer again. -/
theorem obs_call {m : TimerMap κ} {k : κ} (h : k ∈ m.keys) (time : Nat) :
    m.obs (.call k time) = m.set k (m.length k) time :=
  TimerMap.ext (Finset.insert_eq_of_mem h).symm rfl (Function.update_eq_self k m.length).symm

/-- A call is for a key whose timer is over. -/
def CallOk (m : TimerMap κ) : Obs κ → Prop
  | .call k time => k ∈ m.keys ∧ m.since k + m.length k < time
  | _ => True

instance (m : TimerMap κ) : ∀ o : Obs κ, Decidable (m.CallOk o)
  | .call _ _ => inferInstanceAs (Decidable (_ ∧ _))
  | .add _ _ _ | .remove _ => inferInstanceAs (Decidable True)

end TimerMap

/-- The map behind what has happened. -/
def registry (τ : List (Obs κ)) : TimerMap κ := runFrom TimerMap.obs .empty τ

/-- Every call was for a key whose timer was over. -/
def CallsOk (τ : List (Obs κ)) : Prop := AllSteps TimerMap.obs TimerMap.CallOk .empty τ

instance (τ : List (Obs κ)) : Decidable (CallsOk τ) :=
  inferInstanceAs (Decidable (AllSteps ..))

/-- There never were more than `n` keys. -/
def Fits (n : Nat) (τ : List (Obs κ)) : Prop :=
  AllStates TimerMap.obs (fun m => m.keys.card ≤ n) .empty τ

instance (n : Nat) (τ : List (Obs κ)) : Decidable (Fits n τ) :=
  inferInstanceAs (Decidable (AllStates ..))

/-- How often the key was added or removed. -/
def edits (k : κ) (τ : List (Obs κ)) : Nat :=
  τ.countP fun
    | .add k' _ _ | .remove k' => k' = k
    | .call _ _ => false

/-- How often the key was called. -/
def calls (k : κ) (τ : List (Obs κ)) : Nat :=
  τ.countP fun
    | .call k' _ => k' = k
    | _ => false

variable {n : Nat} {τ : List (Obs κ)} {k : κ}

theorem registry_concat (τ : List (Obs κ)) (o : Obs κ) :
    registry (τ ++ [o]) = (registry τ).obs o := runFrom_append ..

theorem callsOk_concat {o : Obs κ} :
    CallsOk (τ ++ [o]) ↔ CallsOk τ ∧ (registry τ).CallOk o := AllSteps.concat_iff

theorem fits_concat {o : Obs κ} :
    Fits n (τ ++ [o]) ↔ Fits n τ ∧ ((registry τ).obs o).keys.card ≤ n := by
  rw [← registry_concat]
  exact AllStates.concat_iff

theorem edits_concat (k : κ) (τ : List (Obs κ)) (o : Obs κ) :
    edits k (τ ++ [o]) = edits k τ + edits k [o] := List.countP_append

theorem calls_concat (k : κ) (τ : List (Obs κ)) (o : Obs κ) :
    calls k (τ ++ [o]) = calls k τ + calls k [o] := List.countP_append

theorem edits_add_eq_zero {k' : κ} {length time : Nat} :
    edits k [.add k' length time] = 0 ↔ k' ≠ k := by
  simp [edits]

theorem edits_remove_eq_zero {k' : κ} : edits k [.remove k'] = 0 ↔ k' ≠ k := by
  simp [edits]

@[simp] theorem edits_call (k' : κ) (time : Nat) : edits k [.call k' time] = 0 := rfl

@[simp] theorem calls_add (k' : κ) (length time : Nat) : calls k [.add k' length time] = 0 := rfl

@[simp] theorem calls_remove (k' : κ) : calls k [.remove k'] = 0 := rfl

theorem calls_call (k' : κ) (time : Nat) :
    calls k [.call k' time] = if k' = k then 1 else 0 := by
  simp [calls, List.countP_cons]

/-! ## A table that holds the map -/

section Refines

variable {α : Type*} {key : α → κ}

/-- Each key of the map has one slot, whose entry stands for its timer. -/
structure Refines (key : α → κ) (stands : α → Nat → Nat → Prop) (t : Table n α)
    (m : TimerMap κ) : Prop where
  distinct : Distinct key t
  mem_iff : ∀ k, k ∈ m.keys ↔ ∃ i a, t i = some a ∧ key a = k
  entry : ∀ i a, t i = some a → stands a (m.since (key a)) (m.length (key a))

namespace Refines

variable {stands : α → Nat → Nat → Prop} {t : Table n α} {m : TimerMap κ}

omit [DecidableEq κ] in
theorem empty : Refines key stands (fun _ => none : Table n α) .empty := by
  refine ⟨distinct_empty, fun k => ?_, ?_⟩
  · refine iff_of_false (Finset.notMem_empty k) ?_
    rintro ⟨i, a, ⟨⟩, -⟩
  · rintro i a ⟨⟩

/-- An entry is put into a slot that has its key, or into an empty one if no slot has it. -/
theorem set (h : Refines key stands t m) {i : Fin n} {a : α} {length time : Nat}
    (hi : ∀ b, t i = some b → key b = key a) (hother : ∀ j b, t j = some b → key b = key a → j = i)
    (ha : stands a time length) :
    Refines key stands (Function.update t i (some a)) (m.set (key a) length time) := by
  refine ⟨h.distinct.set hother, fun k => ?_, fun j b hb => ?_⟩
  · refine Finset.mem_insert.trans ⟨?_, ?_⟩
    · rintro (rfl | hk)
      · exact ⟨i, a, Function.update_self .., rfl⟩
      · obtain ⟨j, b, hb, hkb⟩ := (h.mem_iff k).mp hk
        by_cases hj : j = i
        · subst hj
          exact ⟨j, a, Function.update_self .., (hi b hb).symm.trans hkb⟩
        · exact ⟨j, b, (Function.update_of_ne hj ..).trans hb, hkb⟩
    · rintro ⟨j, b, hb, hkb⟩
      by_cases hj : j = i
      · rw [hj, Function.update_self] at hb
        exact .inl (hkb.symm.trans (congrArg key (Option.some.inj hb)).symm)
      · rw [Function.update_of_ne hj] at hb
        exact .inr ((h.mem_iff k).mpr ⟨j, b, hb, hkb⟩)
  · by_cases hj : j = i
    · rw [hj, Function.update_self] at hb
      obtain rfl := Option.some.inj hb
      show stands a (Function.update m.since (key a) time (key a))
        (Function.update m.length (key a) length (key a))
      rw [Function.update_self, Function.update_self]
      exact ha
    · rw [Function.update_of_ne hj] at hb
      have hk : key b ≠ key a := fun hk => hj (hother j b hb hk)
      show stands b (Function.update m.since (key a) time (key b))
        (Function.update m.length (key a) length (key b))
      rw [Function.update_of_ne hk, Function.update_of_ne hk]
      exact h.entry j b hb

/-- Every slot with the key is emptied. -/
theorem erase (h : Refines key stands t m) (k : κ) :
    Refines key stands (fun i => if (t i).any fun a => key a = k then none else t i)
      (m.erase k) := by
  have hold : ∀ i a, (if (t i).any fun a => key a = k then none else t i) = some a ↔
      t i = some a ∧ key a ≠ k := by
    intro i a
    cases hi : t i with
    | none => simp
    | some b =>
      by_cases hb : key b = k
      · simp only [Option.any_some, hb, decide_true, if_true]
        refine iff_of_false (by simp) ?_
        rintro ⟨hba, hne⟩
        exact hne (Option.some.inj hba ▸ hb)
      · simp only [Option.any_some, hb, decide_false, Bool.false_eq_true, if_false]
        exact ⟨fun hba => ⟨hba, Option.some.inj hba ▸ hb⟩, And.left⟩
  refine ⟨fun i j a b ha hb hk => ?_, fun k' => ?_, fun i a ha => ?_⟩
  · exact h.distinct i j a b ((hold i a).mp ha).1 ((hold j b).mp hb).1 hk
  · refine Finset.mem_erase.trans ⟨?_, ?_⟩
    · rintro ⟨hne, hk'⟩
      obtain ⟨i, a, ha, rfl⟩ := (h.mem_iff k').mp hk'
      exact ⟨i, a, (hold i a).mpr ⟨ha, hne⟩, rfl⟩
    · rintro ⟨i, a, ha, rfl⟩
      exact ⟨((hold i a).mp ha).2, (h.mem_iff _).mpr ⟨i, a, ((hold i a).mp ha).1, rfl⟩⟩
  · exact h.entry i a ((hold i a).mp ha).1

/-- A full table has as many keys as slots. -/
theorem card_of_full (h : Refines key stands t m) (hfull : ∀ i, t i ≠ none) :
    n ≤ m.keys.card := by
  choose a ha using fun i => Option.ne_none_iff_exists'.mp (hfull i)
  have hinj : Function.Injective fun i => key (a i) :=
    fun i j hk => h.distinct i j (a i) (a j) (ha i) (ha j) hk
  calc n = (Finset.univ : Finset (Fin n)).card := (Finset.card_fin n).symm
    _ = (Finset.univ.image fun i => key (a i)).card := (Finset.card_image_of_injective _ hinj).symm
    _ ≤ m.keys.card := Finset.card_le_card fun k hk => by
        obtain ⟨i, -, rfl⟩ := Finset.mem_image.mp hk
        exact (h.mem_iff _).mpr ⟨i, a i, ha i, rfl⟩

end Refines

end Refines

end Timers
