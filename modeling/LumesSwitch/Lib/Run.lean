import Mathlib.Data.List.Basic
import Mathlib.Data.List.FinRange
import Mathlib.Data.List.Forall2

/-!
# Runs of deterministic step functions

A component is a step function `σ → ι → σ`; a run feeds it a list of inputs.
This file holds the induction rules the developments above share:

- `runFrom` — the state a run ends in;
- `AllSteps` — a condition met by every step of a run, each evaluated at the
  state *before* the step and at that step's input;
- `AllSteps.invariant` — an invariant preserved by the steps that meet the
  condition holds at the end of every run whose steps all meet it;
- `AllSteps.transport` — the same rule with a step property as its conclusion;
- `AllSteps.iff_of_kept` — conditions that agree as long as they are met;
- `AllSteps.simulation` — the same condition on the runs of two components that go along
  with each other;
- `answers`, `answers_simulation` — what the steps of a run answer;
- `outputs`, `forall_outputs_iff`, `countP_outputs_single`, `outputs_view` — what they put out, if
  each step puts out a list;
- `AllStates` — a condition met by every state of a run, and the rule that turns a
  condition on each step which is exact under an invariant into one on the whole run;
- `totalCost`, `potential_runFrom` — a run raises a potential by no more than its steps cost;
- `keep_runFrom` — what no step changes;
- `runFrom_map` — a run seen through a view that commutes with the steps;
- `runFrom_finRange` — the same for a loop over an index range, the invariant told which
  indices have been done;
- `runFrom_once`, `runFrom_finRange_once`, `runFrom_view` — a loop over distinct indices acts
  on the part of the state that belongs to one index exactly once.
-/

namespace Runs

universe u v

variable {σ : Type u} {ι : Type v}

/-- The state after feeding the inputs in order. -/
def runFrom (step : σ → ι → σ) : σ → List ι → σ
  | s, [] => s
  | s, i :: is => runFrom step (step s i) is

/-- Every step of the run meets `ok`, at its own input and pre-state. -/
def AllSteps (step : σ → ι → σ) (ok : σ → ι → Prop) : σ → List ι → Prop
  | _, [] => True
  | s, i :: is => ok s i ∧ AllSteps step ok (step s i) is

@[simp] theorem runFrom_nil (step : σ → ι → σ) (s : σ) :
    runFrom step s [] = s := rfl

@[simp] theorem runFrom_cons (step : σ → ι → σ) (s : σ) (i : ι) (is : List ι) :
    runFrom step s (i :: is) = runFrom step (step s i) is := rfl

theorem runFrom_append (step : σ → ι → σ) (s : σ) (xs ys : List ι) :
    runFrom step s (xs ++ ys) = runFrom step (runFrom step s xs) ys := by
  induction xs generalizing s with
  | nil => rfl
  | cons x xs ih => exact ih (step s x)

instance AllSteps.decidable (step : σ → ι → σ) (ok : σ → ι → Prop)
    [∀ s i, Decidable (ok s i)] :
    ∀ (s : σ) (is : List ι), Decidable (AllSteps step ok s is)
  | _, [] => inferInstanceAs (Decidable True)
  | s, i :: is =>
    have := AllSteps.decidable step ok (step s i) is
    inferInstanceAs (Decidable (ok s i ∧ AllSteps step ok (step s i) is))

namespace AllSteps

variable {step : σ → ι → σ} {ok ok' : σ → ι → Prop}

/-- **Invariant rule**: what every admissible step preserves holds at the end
of every run made of admissible steps. -/
theorem invariant {I : σ → Prop} (hstep : ∀ s i, I s → ok s i → I (step s i))
    {s : σ} {is : List ι} (hs : I s) (h : AllSteps step ok s is) :
    I (runFrom step s is) := by
  induction is generalizing s with
  | nil => exact hs
  | cons i is ih => exact ih (hstep s i hs h.1) h.2

/-- **Step-property rule**: under an invariant, a condition that implies a
property of the step itself implies it at every step of the run. -/
theorem transport {I : σ → Prop} (hstep : ∀ s i, I s → ok s i → I (step s i))
    (himp : ∀ s i, I s → ok s i → ok' s i)
    {s : σ} {is : List ι} (hs : I s) (h : AllSteps step ok s is) :
    AllSteps step ok' s is := by
  induction is generalizing s with
  | nil => trivial
  | cons i is ih => exact ⟨himp s i hs h.1, ih (hstep s i hs h.1) h.2⟩

theorem and {s : σ} {is : List ι} (h : AllSteps step ok s is)
    (h' : AllSteps step ok' s is) :
    AllSteps step (fun s i => ok s i ∧ ok' s i) s is := by
  induction is generalizing s with
  | nil => trivial
  | cons i is ih => exact ⟨⟨h.1, h'.1⟩, ih h.2 h'.2⟩

/-- A condition that every step meets. -/
theorem of_forall (h : ∀ s i, ok s i) (s : σ) (is : List ι) : AllSteps step ok s is := by
  induction is generalizing s with
  | nil => trivial
  | cons i is ih => exact ⟨h s i, ih (step s i)⟩

/-- A run with one more step. -/
theorem concat_iff {s : σ} {is : List ι} {i : ι} :
    AllSteps step ok s (is ++ [i]) ↔ AllSteps step ok s is ∧ ok (runFrom step s is) i := by
  induction is generalizing s with
  | nil => exact ⟨fun h => ⟨trivial, h.1⟩, fun h => ⟨h.2, trivial⟩⟩
  | cons j is ih => exact (and_congr Iff.rfl ih).trans and_assoc.symm

/-- Conditions that agree on related states agree on runs from related states, where the
steps keep the relation. -/
theorem simulation {τ : Type*} {step' : τ → ι → τ} {okτ : τ → ι → Prop} {R : σ → τ → Prop}
    (hstep : ∀ s t i, R s t → R (step s i) (step' t i))
    (hiff : ∀ s t i, R s t → (ok s i ↔ okτ t i)) {s : σ} {t : τ} (h : R s t) (is : List ι) :
    AllSteps step ok s is ↔ AllSteps step' okτ t is := by
  induction is generalizing s t with
  | nil => exact Iff.rfl
  | cons i is ih => exact and_congr (hiff s t i h) (ih (hstep s t i h))

/-- Conditions that agree on every step agree on every run. -/
theorem congr (hiff : ∀ s i, ok s i ↔ ok' s i) (s : σ) (is : List ι) :
    AllSteps step ok s is ↔ AllSteps step ok' s is := by
  refine simulation (R := fun s t => s = t) ?_ ?_ rfl is
  · rintro s _ i rfl
    rfl
  · rintro s _ i rfl
    exact hiff s i

/-- **Exactness rule**: conditions that agree under an invariant of the steps that meet them
agree on runs. -/
theorem iff_of_kept {I : σ → Prop} (hiff : ∀ s i, I s → (ok s i ↔ ok' s i))
    (hI : ∀ s i, I s → ok' s i → I (step s i)) {s : σ} (hs : I s) (is : List ι) :
    AllSteps step ok s is ↔ AllSteps step ok' s is := by
  induction is generalizing s with
  | nil => exact Iff.rfl
  | cons i is ih =>
    have hi := hiff s i hs
    constructor
    · rintro ⟨h, hrest⟩
      exact ⟨hi.mp h, (ih (hI s i hs (hi.mp h))).mp hrest⟩
    · rintro ⟨h, hrest⟩
      exact ⟨hi.mpr h, (ih (hI s i hs h)).mpr hrest⟩

end AllSteps

/-- The first state of the run, and every state it reaches, meets `P`. -/
def AllStates (step : σ → ι → σ) (P : σ → Prop) : σ → List ι → Prop
  | s, [] => P s
  | s, i :: is => P s ∧ AllStates step P (step s i) is

instance AllStates.decidable (step : σ → ι → σ) (P : σ → Prop) [∀ s, Decidable (P s)] :
    ∀ (s : σ) (is : List ι), Decidable (AllStates step P s is)
  | s, [] => inferInstanceAs (Decidable (P s))
  | s, i :: is =>
    have := AllStates.decidable step P (step s i) is
    inferInstanceAs (Decidable (P s ∧ AllStates step P (step s i) is))

namespace AllStates

variable {step : σ → ι → σ} {P : σ → Prop} {ok : σ → ι → Prop}

theorem head : ∀ {s : σ} {is : List ι}, AllStates step P s is → P s
  | _, [], h => h
  | _, _ :: _, h => h.1

/-- A run with one more step. -/
theorem concat_iff {s : σ} {is : List ι} {i : ι} :
    AllStates step P s (is ++ [i]) ↔
      AllStates step P s is ∧ P (runFrom step s (is ++ [i])) := by
  induction is generalizing s with
  | nil => exact Iff.rfl
  | cons j is ih => exact (and_congr Iff.rfl ih).trans and_assoc.symm

/-- **Safety rule**: an invariant of the admissible steps that implies `P`. -/
theorem of_invariant {I : σ → Prop} (hP : ∀ s, I s → P s)
    (hI : ∀ s i, I s → ok s i → I (step s i)) {s : σ} {is : List ι} (hs : I s)
    (hok : AllSteps step ok s is) : AllStates step P s is := by
  induction is generalizing s with
  | nil => exact hP s hs
  | cons i is ih => exact ⟨hP s hs, ih (hI s i hs hok.1) hok.2⟩

/-- The exactness rule below for a run whose steps are all admissible. -/
theorem iff_allSteps_of_ready {I : σ → Prop} {ready : σ → ι → Prop}
    (hI : ∀ s i, I s → ready s i → I (step s i))
    (hiff : ∀ s i, I s → ready s i → P s → (P (step s i) ↔ ok s i)) {s : σ} {is : List ι}
    (hs : I s) (hP : P s) (hready : AllSteps step ready s is) :
    AllStates step P s is ↔ AllSteps step ok s is := by
  induction is generalizing s with
  | nil => exact ⟨fun _ => trivial, fun _ => hP⟩
  | cons i is ih =>
    have hstep := hiff s i hs hready.1 hP
    have hs' : I (step s i) := hI s i hs hready.1
    constructor
    · rintro ⟨-, hrest⟩
      exact ⟨hstep.mp hrest.head, (ih hs' hrest.head hready.2).mp hrest⟩
    · rintro ⟨hok, hrest⟩
      have hP' : P (step s i) := hstep.mpr hok
      exact ⟨hP, (ih hs' hP' hready.2).mpr hrest⟩

/-- **Exactness rule**: where, under an invariant of all steps, a step from a state that
meets `P` leads to one that does if and only if it meets `ok`, a run from such a state
stays in `P` if and only if all its steps meet `ok`. -/
theorem iff_allSteps {I : σ → Prop} (hI : ∀ s i, I s → I (step s i))
    (hiff : ∀ s i, I s → P s → (P (step s i) ↔ ok s i)) {s : σ} {is : List ι}
    (hs : I s) (hP : P s) : AllStates step P s is ↔ AllSteps step ok s is :=
  iff_allSteps_of_ready (fun s i h _ => hI s i h) (fun s i h _ => hiff s i h) hs hP
    (AllSteps.of_forall (fun _ _ => trivial) s is)

/-- **Exactness rule for faults**: where admissible steps keep an invariant that implies `P`,
and every other step from it breaks `P`, a run stays in `P` if and only if its steps are all
admissible. -/
theorem iff_allSteps_of_breaks {I : σ → Prop} (hP : ∀ s, I s → P s)
    (hok : ∀ s i, I s → ok s i → I (step s i)) (hbreaks : ∀ s i, I s → P (step s i) → ok s i)
    {s : σ} {is : List ι} (hs : I s) : AllStates step P s is ↔ AllSteps step ok s is := by
  induction is generalizing s with
  | nil => exact ⟨fun _ => trivial, fun _ => hP s hs⟩
  | cons i is ih =>
    constructor
    · rintro ⟨-, hrest⟩
      have hi : ok s i := hbreaks s i hs hrest.head
      exact ⟨hi, (ih (hok s i hs hi)).mp hrest⟩
    · rintro ⟨hi, hrest⟩
      exact ⟨hP s hs, (ih (hok s i hs hi)).mpr hrest⟩

end AllStates

/-- The unconditional form of the invariant rule. -/
theorem invariant_runFrom {step : σ → ι → σ} {I : σ → Prop}
    (hstep : ∀ s i, I s → I (step s i)) {s : σ} (hs : I s) (is : List ι) :
    I (runFrom step s is) := by
  induction is generalizing s with
  | nil => exact hs
  | cons i is ih => exact ih (hstep s i hs)

/-- **Frame rule**: what every step leaves alone of the state, so does a run. -/
theorem keep_runFrom {α : Type*} {step : σ → ι → σ} (v : σ → α)
    (h : ∀ s i, v (step s i) = v s) (s : σ) (is : List ι) : v (runFrom step s is) = v s :=
  invariant_runFrom (I := fun s' => v s' = v s) (fun s' i hs' => (h s' i).trans hs') rfl is

/-- The answers of a run, in order. -/
def answers {ω : Type*} (step : σ → ι → σ × ω) : σ → List ι → List ω
  | _, [] => []
  | s, i :: is => (step s i).2 :: answers step (step s i).1 is

/-- Two components that go along with each other answer alike. -/
theorem answers_simulation {τ ω : Type*} {step : σ → ι → σ × ω} {step' : τ → ι → τ × ω}
    {R : σ → τ → Prop}
    (h : ∀ s t i, R s t → R (step s i).1 (step' t i).1 ∧ (step s i).2 = (step' t i).2)
    {s : σ} {t : τ} (hs : R s t) (is : List ι) : answers step s is = answers step' t is := by
  induction is generalizing s t with
  | nil => rfl
  | cons i is ih =>
    obtain ⟨hrest, hans⟩ := h s t i hs
    rw [answers, answers, hans, ih hrest]

/-- What the steps of a run put out, one list after the other. -/
def outputs {α : Type*} (step : σ → ι → σ × List α) (s : σ) (is : List ι) : List α :=
  (answers step s is).flatten

section outputs

variable {α : Type*} {step : σ → ι → σ × List α}

theorem outputs_cons (s : σ) (i : ι) (is : List ι) :
    outputs step s (i :: is) = (step s i).2 ++ outputs step (step s i).1 is := by
  rw [outputs, answers, List.flatten_cons, outputs]

theorem outputs_append (s : σ) (is js : List ι) :
    outputs step s (is ++ js) =
      outputs step s is ++ outputs step (runFrom (fun s i => (step s i).1) s is) js := by
  induction is generalizing s with
  | nil => rfl
  | cons i is ih => rw [List.cons_append, outputs_cons, outputs_cons, runFrom_cons, ih,
      List.append_assoc]

/-- Inputs that do nothing that is looked at. -/
theorem outputs_quiet {β : Type*} {f : α → Option β} {is : List ι}
    (h : ∀ s, ∀ i ∈ is, (step s i).1 = s ∧ (step s i).2.filterMap f = []) (s : σ) :
    runFrom (fun s i => (step s i).1) s is = s ∧ (outputs step s is).filterMap f = [] := by
  induction is with
  | nil => exact ⟨rfl, rfl⟩
  | cons i is ih =>
    obtain ⟨hstate, hout⟩ := h s i List.mem_cons_self
    obtain ⟨hrun, hrest⟩ := ih fun s j hj => h s j (List.mem_cons_of_mem i hj)
    rw [runFrom_cons, outputs_cons, List.filterMap_append, hstate, hout]
    exact ⟨hrun, hrest⟩

/-- **View rule**: a loop puts out what another one does, as far as it is looked at, if each step
does for the inputs that go together. -/
theorem outputs_view {β κ : Type*} {f : α → Option β} {step' : σ → κ → σ × List β}
    {R : ι → κ → Prop}
    (h : ∀ s i k, R i k → ((step s i).1, (step s i).2.filterMap f) = step' s k)
    {is : List ι} {ks : List κ} (hR : List.Forall₂ R is ks) (s : σ) :
    (runFrom (fun s i => (step s i).1) s is, (outputs step s is).filterMap f) =
      (runFrom (fun s k => (step' s k).1) s ks, outputs step' s ks) := by
  induction hR generalizing s with
  | nil => rfl
  | @cons i k is ks hik _ ih =>
    have hstep := h s i k hik
    obtain ⟨hstate, hout⟩ := Prod.mk.inj (hstep.trans Prod.mk.eta.symm)
    obtain ⟨hrun, hrest⟩ := Prod.mk.inj (ih (step s i).1)
    rw [runFrom_cons, runFrom_cons, outputs_cons, outputs_cons, List.filterMap_append, hrun, hrest,
      hout, hstate]

/-- A property of everything a run puts out, if that of a step depends on its input only. -/
theorem forall_outputs_iff {P : α → Prop} {ok : ι → Prop} {is : List ι}
    (h : ∀ s, ∀ i ∈ is, (∀ a ∈ (step s i).2, P a) ↔ ok i) (s : σ) :
    (∀ a ∈ outputs step s is, P a) ↔ ∀ i ∈ is, ok i := by
  induction is generalizing s with
  | nil => exact iff_of_true (List.forall_mem_nil _) (List.forall_mem_nil _)
  | cons i is ih =>
    rw [outputs_cons, List.forall_mem_append, List.forall_mem_cons, h s i List.mem_cons_self,
      ih (fun s j hj => h s j (List.mem_cons_of_mem i hj)) (step s i).1]

theorem countP_outputs_eq_zero {p : α → Bool} {is : List ι}
    (h : ∀ s, ∀ i ∈ is, (step s i).2.countP p = 0) (s : σ) :
    (outputs step s is).countP p = 0 := by
  induction is generalizing s with
  | nil => rfl
  | cons i is ih =>
    rw [outputs_cons, List.countP_append, h s i List.mem_cons_self,
      ih fun s j hj => h s j (List.mem_cons_of_mem i hj)]

/-- **Loop rule**: what only the step at `i` puts out is put out as often as by that step, in a
run over distinct inputs. -/
theorem countP_outputs_single {p : α → Bool} {i : ι} {n : Nat} {is : List ι}
    (hother : ∀ s j, j ≠ i → (step s j).2.countP p = 0)
    (hself : ∀ s, (step s i).2.countP p = n) (hn : is.Nodup) (hi : i ∈ is) (s : σ) :
    (outputs step s is).countP p = n := by
  induction is generalizing s with
  | nil => exact absurd hi List.not_mem_nil
  | cons j is ih =>
    obtain ⟨hj, hrest⟩ := List.nodup_cons.mp hn
    rw [outputs_cons, List.countP_append]
    by_cases hji : j = i
    · subst hji
      rw [hself, countP_outputs_eq_zero fun s k hk => hother s k (ne_of_mem_of_not_mem hk hj)]
      rfl
    · rw [hother s j hji, ih hrest (List.mem_of_ne_of_mem (Ne.symm hji) hi), Nat.zero_add]

end outputs

/-- What the steps of a run cost, each at its pre-state. -/
def totalCost (cost : σ → ι → Nat) (step : σ → ι → σ) : σ → List ι → Nat
  | _, [] => 0
  | s, i :: is => cost s i + totalCost cost step (step s i) is

/-- **Potential rule**: if every admissible step raises the potential by its cost at most, a
run of them raises it by their total cost at most. -/
theorem potential_runFrom {step : σ → ι → σ} {ok : σ → ι → Prop} {cost : σ → ι → Nat}
    {I : σ → Prop} {pot : σ → Nat}
    (hstep : ∀ s i, I s → ok s i → I (step s i) ∧ pot (step s i) ≤ pot s + cost s i) {s : σ}
    (hs : I s) {is : List ι} (hok : AllSteps step ok s is) :
    pot (runFrom step s is) ≤ pot s + totalCost cost step s is := by
  induction is generalizing s with
  | nil => exact Nat.le_add_right ..
  | cons i is ih =>
    obtain ⟨hinv, hpot⟩ := hstep s i hs hok.1
    have hrest := ih hinv hok.2
    rw [runFrom_cons, totalCost]
    omega

/-- **Exact potential rule**: if every admissible step takes its cost from the potential, so
does a run of them. -/
theorem totalCost_add_potential {step : σ → ι → σ} {ok : σ → ι → Prop} {cost : σ → ι → Nat}
    {I : σ → Prop} {p : σ → Nat}
    (hstep : ∀ s i, I s → ok s i → I (step s i) ∧ cost s i + p (step s i) = p s) {s : σ}
    (hs : I s) {is : List ι} (hok : AllSteps step ok s is) :
    totalCost cost step s is + p (runFrom step s is) = p s := by
  induction is generalizing s with
  | nil => exact Nat.zero_add _
  | cons i is ih =>
    obtain ⟨hinv, hcost⟩ := hstep s i hs hok.1
    have hrest := ih hinv hok.2
    rw [runFrom_cons, totalCost]
    omega

/-- **Balance rule**: if every step gives and takes the same, but for what the potential holds,
so does a run. -/
theorem totalCost_balance {step : σ → ι → σ} {a c : σ → ι → Nat} {I : σ → Prop}
    {p : σ → Nat} (hstep : ∀ s i, I s → I (step s i) ∧ a s i + p s = c s i + p (step s i))
    {s : σ} (hs : I s) (is : List ι) :
    totalCost a step s is + p s = totalCost c step s is + p (runFrom step s is) := by
  induction is generalizing s with
  | nil => rfl
  | cons i is ih =>
    obtain ⟨hinv, hbalance⟩ := hstep s i hs
    have hrest := ih hinv
    rw [runFrom_cons, totalCost, totalCost]
    omega

theorem totalCost_add {step : σ → ι → σ} (a c : σ → ι → Nat) (s : σ) (is : List ι) :
    totalCost (fun s i => a s i + c s i) step s is =
      totalCost a step s is + totalCost c step s is := by
  induction is generalizing s with
  | nil => rfl
  | cons i is ih =>
    rw [totalCost, totalCost, totalCost, ih]
    omega

theorem totalCost_mul {step : σ → ι → σ} (n : Nat) (cost : σ → ι → Nat) (s : σ) (is : List ι) :
    totalCost (fun s i => n * cost s i) step s is = n * totalCost cost step s is := by
  induction is generalizing s with
  | nil => rfl
  | cons i is ih => rw [totalCost, totalCost, ih, Nat.mul_add]

theorem totalCost_eq_zero {step : σ → ι → σ} {cost : σ → ι → Nat} (h : ∀ s i, cost s i = 0)
    (s : σ) (is : List ι) : totalCost cost step s is = 0 := by
  induction is generalizing s with
  | nil => rfl
  | cons i is ih => rw [totalCost, h, ih]

/-- **Index-loop rule**: what the body takes from index `k` to index `k + 1` holds behind
the loop over all indices. -/
theorem runFrom_finRange {n : Nat} {step : σ → Fin n → σ} {I : Nat → σ → Prop}
    (hstep : ∀ s (k : Fin n), I k s → I (k + 1) (step s k)) {s : σ} (hs : I 0 s) :
    I n (runFrom step s (List.finRange n)) := by
  have hprefix : ∀ k ≤ n, I k (runFrom step s ((List.finRange n).take k)) := by
    intro k
    induction k with
    | zero => exact fun _ => hs
    | succ k ih =>
      intro hk
      have hlen : k < (List.finRange n).length := by rw [List.length_finRange]; exact hk
      rw [List.take_succ_eq_append_getElem hlen, runFrom_append, List.getElem_finRange]
      exact hstep _ ⟨k, hk⟩ (ih (Nat.le_of_succ_le hk))
  have hall := hprefix n (Nat.le_refl n)
  rwa [List.take_of_length_le (le_of_eq List.length_finRange)] at hall

/-- **Simulation rule**: if a view turns every step into a step of another machine, it
turns every run into a run of that machine. -/
theorem runFrom_map {τ : Type*} {step : σ → ι → σ} {step' : τ → ι → τ} (view : σ → τ)
    (h : ∀ s i, view (step s i) = step' (view s) i) (s : σ) (is : List ι) :
    view (runFrom step s is) = runFrom step' (view s) is := by
  induction is generalizing s with
  | nil => rfl
  | cons i is ih => rw [runFrom_cons, runFrom_cons, ih, h]

/-- A loop whose bodies do nothing does nothing. -/
theorem runFrom_of_fixed {step : σ → ι → σ} {s : σ} {is : List ι} (h : ∀ i ∈ is, step s i = s) :
    runFrom step s is = s := by
  induction is with
  | nil => rfl
  | cons i is ih =>
    rw [runFrom_cons, h i List.mem_cons_self]
    exact ih fun j hj => h j (List.mem_cons_of_mem i hj)

/-- What the bodies at other indices keep, a loop keeps that does not come to `i`. -/
theorem runFrom_of_notMem {step : σ → ι → σ} {P : σ → Prop} {i : ι}
    (h : ∀ s j, j ≠ i → P s → P (step s j)) {is : List ι} (hi : i ∉ is) {s : σ} (hs : P s) :
    P (runFrom step s is) := by
  induction is generalizing s with
  | nil => exact hs
  | cons j is ih =>
    obtain ⟨hne, hrest⟩ := not_or.mp (List.mem_cons.not.mp hi)
    exact ih hrest (h s j (Ne.symm hne) hs)

/-- **Loop rule for triples**: in a loop over distinct indices the body at `i` finds what the
bodies before it keep, and what it brings about is kept by those behind it. -/
theorem runFrom_once {step : σ → ι → σ} {P Q : σ → Prop} {i : ι}
    (hbefore : ∀ s j, j ≠ i → P s → P (step s j)) (hself : ∀ s, P s → Q (step s i))
    (hbehind : ∀ s j, j ≠ i → Q s → Q (step s j)) {is : List ι} (hn : is.Nodup) (hi : i ∈ is)
    {s : σ} (hs : P s) : Q (runFrom step s is) := by
  induction is generalizing s with
  | nil => exact absurd hi List.not_mem_nil
  | cons j is ih =>
    obtain ⟨hj, hrest⟩ := List.nodup_cons.mp hn
    by_cases hji : j = i
    · subst hji
      exact runFrom_of_notMem hbehind hj (hself s hs)
    · exact ih hrest (List.mem_of_ne_of_mem (Ne.symm hji) hi) (hbefore s j hji hs)

/-- The same over an index range, where the body at `i` is known to be run in the state that the
bodies before it leave. -/
theorem runFrom_finRange_once {n : Nat} {step : σ → Fin n → σ} {P Q : σ → Prop} {i : Fin n} {s : σ}
    (hbefore : ∀ s j, j ≠ i → P s → P (step s j))
    (hself : P (runFrom step s ((List.finRange n).take i)) →
      Q (step (runFrom step s ((List.finRange n).take i)) i))
    (hbehind : ∀ s j, j ≠ i → Q s → Q (step s j)) (hs : P s) :
    Q (runFrom step s (List.finRange n)) := by
  have hlen : i.val < (List.finRange n).length := by
    rw [List.length_finRange]
    exact i.isLt
  have hcut : List.finRange n =
      (List.finRange n).take i ++ i :: (List.finRange n).drop (i + 1) := by
    conv_lhs => rw [← List.take_append_drop i.val (List.finRange n), List.drop_eq_getElem_cons hlen,
      List.getElem_finRange]
    rfl
  have hnodup := List.nodup_finRange n
  rw [hcut] at hnodup
  obtain ⟨hfront, hback⟩ := not_or.mp
    (List.mem_append.not.mp (List.nodup_cons.mp (List.nodup_middle.mp hnodup)).1)
  have hrun : Q (runFrom step (step (runFrom step s ((List.finRange n).take i)) i)
      ((List.finRange n).drop (i + 1))) :=
    runFrom_of_notMem hbehind hback (hself (runFrom_of_notMem hbefore hfront hs))
  rwa [← runFrom_cons, ← runFrom_append, ← hcut] at hrun

/-- **Loop rule**: if the body at another index leaves the view of the state alone,
and the body at `i` does `g` to it, so does a loop that comes to `i` once. -/
theorem runFrom_view {β : Type*} {step : σ → ι → σ} (view : σ → β) {g : β → β} {i : ι}
    (hother : ∀ s j, j ≠ i → view (step s j) = view s)
    (hself : ∀ s, view (step s i) = g (view s)) {is : List ι} (hn : is.Nodup) (hi : i ∈ is)
    (s : σ) : view (runFrom step s is) = g (view s) := by
  refine runFrom_once (P := fun s' => view s' = view s) (Q := fun s' => view s' = g (view s))
    ?_ ?_ ?_ hn hi rfl
  · exact fun s' j hj h => (hother s' j hj).trans h
  · exact fun s' h => (hself s').trans (congrArg g h)
  · exact fun s' j hj h => (hother s' j hj).trans h

end Runs
