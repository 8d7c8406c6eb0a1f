import Mathlib.Algebra.Group.Nat.Defs
import LumesSwitch.Board
import LumesSwitch.Lib.Timers

/-!
# The cyclic tasks (`cycle_funcs.c`)

A table of 16 slots holds functions that are to be called again and again. `CycleFunc_proc` goes
through the slots, and a function that it calls may add and remove functions, itself included, so
that the table changes behind and before the slot that is looked at.

- `cycleFuncAdd`, `cycleFuncRemove`, `CycleFuncs.proc` — the table;
- `CycleFuncs.Inv` — the table holds the map of what was added, removed and called;
- `CycleFuncs.Holds` — one function keeps its slot while the others change;
- `CycleFuncs.cycleFuncs_map` — what holds of every run.
-/

namespace LumesSwitch

open Runs Tables Timers

/-- `CYCLE_FUNC_LIST_MAX` -/
abbrev cycleFuncListMax : Nat := 16

/-- `cycle_funcs_info_t` of a slot that is used; the function may be `NULL`. -/
structure CycleFuncInfo (F : Type) where
  timeStart : UInt32
  timeLength : UInt32
  pfunc : Option F

variable {F : Type} [DecidableEq F]

/-- `cycle_funcs_info` -/
abbrev CycleTable (F : Type) := Table cycleFuncListMax (CycleFuncInfo F)

/-- `CycleFunc_add`, at `clock_time_ms` -/
def cycleFuncAdd (clock : UInt32) (t : CycleTable F) (pfunc : Option F) (timeLength : UInt32) :
    CycleTable F :=
  match find CycleFuncInfo.pfunc t pfunc with
  | some i => Function.update t i ((t i).map fun e =>
      { e with timeStart := clock, timeLength := timeLength })
  | none =>
    match emptySlot t with
    | some i => Function.update t i (some ⟨clock, timeLength, pfunc⟩)
    | none => t

/-- Adding updates the slot of the function, or takes an empty one, or finds the table full. -/
theorem cycleFuncAdd_cases (clock : UInt32) (t : CycleTable F) (pfunc : Option F)
    (timeLength : UInt32) :
    (∃ i e, t i = some e ∧ e.pfunc = pfunc ∧ cycleFuncAdd clock t pfunc timeLength =
      Function.update t i (some { e with timeStart := clock, timeLength := timeLength })) ∨
    (∀ i e, t i = some e → e.pfunc ≠ pfunc) ∧
      ((∃ i, t i = none ∧ cycleFuncAdd clock t pfunc timeLength =
        Function.update t i (some ⟨clock, timeLength, pfunc⟩)) ∨
      (∀ i, t i ≠ none) ∧ cycleFuncAdd clock t pfunc timeLength = t) := by
  unfold cycleFuncAdd
  cases hfind : find CycleFuncInfo.pfunc t pfunc with
  | some i =>
    obtain ⟨e, he, hk⟩ := find_eq_some hfind
    exact .inl ⟨i, e, he, hk, by dsimp only; rw [he]; rfl⟩
  | none =>
    refine .inr ⟨fun i e => find_eq_none hfind, ?_⟩
    cases hempty : emptySlot t with
    | some i => exact .inl ⟨i, emptySlot_eq_some hempty, rfl⟩
    | none => exact .inr ⟨emptySlot_eq_none hempty, rfl⟩

/-- `CycleFunc_remove` -/
def cycleFuncRemove (t : CycleTable F) (pfunc : Option F) : CycleTable F :=
  fun i => if (t i).any fun e => e.pfunc = pfunc then none else t i

/-- A slot with the function is emptied, whatever its time. -/
theorem cycleFuncRemove_update {t : CycleTable F} {i : Fin cycleFuncListMax}
    {e : CycleFuncInfo F} (hi : t i = some e) (e' : CycleFuncInfo F) (he' : e'.pfunc = e.pfunc) :
    cycleFuncRemove (Function.update t i (some e')) e.pfunc = cycleFuncRemove t e.pfunc := by
  funext j
  unfold cycleFuncRemove
  by_cases hj : j = i
  · rw [hj, Function.update_self, hi, Option.any_some, Option.any_some, he',
      if_pos (decide_eq_true rfl), if_pos (decide_eq_true rfl)]
  · rw [Function.update_of_ne hj]

/-- What a function that is called may do to the table. -/
inductive CycleAct (F : Type) where
  | add (pfunc : Option F) (timeLength : UInt32)
  | remove (pfunc : Option F)
  | wait (ms : Nat)

/-- The table, the true time in milliseconds, and what has happened. -/
structure CycleFuncs (F : Type) where
  table : CycleTable F
  initialized : Bool
  now : Nat
  trace : List (Obs (Option F))

namespace CycleFuncs

/-- `CycleFunc_init` -/
def init (F : Type) (now : Nat) : CycleFuncs F := ⟨fun _ => none, true, now, []⟩

/-- `clock_time_ms` -/
def clock (s : CycleFuncs F) : UInt32 := UInt32.ofNat s.now

def act (s : CycleFuncs F) : CycleAct F → CycleFuncs F
  | .add pfunc timeLength => { s with
      table := cycleFuncAdd s.clock s.table pfunc timeLength
      trace := s.trace ++ [.add pfunc timeLength.toNat s.now] }
  | .remove pfunc => { s with
      table := cycleFuncRemove s.table pfunc
      trace := s.trace ++ [.remove pfunc] }
  | .wait ms => { s with now := s.now + ms }

/-- The body of the loop of `CycleFunc_proc`, up to the call: whether there is one. -/
def visit (s : CycleFuncs F) (i : Fin cycleFuncListMax) : CycleFuncs F × Bool :=
  match s.table i with
  | none => (s, false)
  | some e =>
    if clockTimeExceed s.clock e.timeStart e.timeLength then
      let t := Function.update s.table i (some { e with timeStart := s.clock })
      match e.pfunc with
      | some f => ({ s with table := t, trace := s.trace ++ [.call (some f) s.now] }, true)
      | none => ({ s with table := t }.act (.remove none), false)
    else (s, false)

/-- The body of the loop of `CycleFunc_proc`: `lag i` has passed when slot `i` is looked at, and
a function that is called from it does `does i`. -/
def slot (lag : Fin cycleFuncListMax → Nat) (does : Fin cycleFuncListMax → List (CycleAct F))
    (s : CycleFuncs F) (i : Fin cycleFuncListMax) : CycleFuncs F :=
  let v := (s.act (.wait (lag i))).visit i
  if v.2 then runFrom act v.1 (does i) else v.1

/-- `CycleFunc_proc` -/
def proc (lag : Fin cycleFuncListMax → Nat) (does : Fin cycleFuncListMax → List (CycleAct F))
    (s : CycleFuncs F) : CycleFuncs F :=
  if s.initialized = false then s else runFrom (slot lag does) s (List.finRange cycleFuncListMax)

/-! ## The table holds the map -/

/-- The entry has the time and the length, in 32 bits. -/
def Stands (e : CycleFuncInfo F) (since length : Nat) : Prop :=
  e.timeStart = UInt32.ofNat since ∧ e.timeLength.toNat = length

/-- **The invariant**: the table holds the map, and every call so far was due. -/
structure Inv (s : CycleFuncs F) : Prop where
  refines : Refines CycleFuncInfo.pfunc Stands s.table (registry s.trace)
  past : ∀ k, (registry s.trace).since k ≤ s.now
  calls : CallsOk s.trace

theorem inv_init (now : Nat) : (init F now).Inv := ⟨.empty, fun _ => Nat.zero_le _, trivial⟩

namespace Inv

variable {s : CycleFuncs F}

/-- A slot with the key, or an empty one, is put to the time and the length. -/
theorem set (h : s.Inv) {i : Fin cycleFuncListMax} {e : CycleFuncInfo F} {o : Obs (Option F)}
    {length : Nat} (hi : ∀ b, s.table i = some b → b.pfunc = e.pfunc)
    (hother : ∀ j b, s.table j = some b → b.pfunc = e.pfunc → j = i)
    (he : Stands e s.now length)
    (ho : (registry s.trace).obs o = (registry s.trace).set e.pfunc length s.now)
    (hok : (registry s.trace).CallOk o) :
    Inv { s with table := Function.update s.table i (some e), trace := s.trace ++ [o] } := by
  refine ⟨?_, fun k => ?_, callsOk_concat.mpr ⟨h.calls, hok⟩⟩
  · show Refines _ _ _ (registry (s.trace ++ [o]))
    rw [registry_concat, ho]
    exact h.refines.set hi hother he
  · show (registry (s.trace ++ [o])).since k ≤ s.now
    rw [registry_concat, ho]
    show Function.update (registry s.trace).since e.pfunc s.now k ≤ s.now
    by_cases hk : k = e.pfunc
    · rw [hk, Function.update_self]
    · rw [Function.update_of_ne hk]
      exact h.past k

theorem add (h : s.Inv) (pfunc : Option F) (timeLength : UInt32)
    (hfits : Fits cycleFuncListMax (s.act (.add pfunc timeLength)).trace) :
    (s.act (.add pfunc timeLength)).Inv := by
  rw [act]
  rcases cycleFuncAdd_cases s.clock s.table pfunc timeLength with
    ⟨i, e, he, rfl, heq⟩ | ⟨hnew, ⟨i, hi, heq⟩ | ⟨hfull, -⟩⟩
  · rw [heq]
    refine h.set (e := { e with timeStart := s.clock, timeLength := timeLength }) (fun b hb => ?_)
      (fun j b hb hk => h.refines.distinct j i b e hb he hk) ⟨rfl, rfl⟩ rfl trivial
    rw [he] at hb
    show b.pfunc = e.pfunc
    rw [Option.some.inj hb]
  · rw [heq]
    refine h.set (e := ⟨s.clock, timeLength, pfunc⟩) (fun b hb => ?_)
      (fun j b hb hk => absurd hk (hnew j b hb)) ⟨rfl, rfl⟩ rfl trivial
    rw [hi] at hb
    cases hb
  · -- no slot for a new function: there are more than fit
    have hmem : pfunc ∉ (registry s.trace).keys := by
      rintro hmem
      obtain ⟨i, e, he, hk⟩ := (h.refines.mem_iff pfunc).mp hmem
      exact hnew i e he hk
    have hcard : (insert pfunc (registry s.trace).keys).card ≤ cycleFuncListMax :=
      (fits_concat.mp hfits).2
    rw [Finset.card_insert_of_notMem hmem] at hcard
    exact absurd (h.refines.card_of_full hfull) (Nat.not_le.mpr hcard)

theorem remove (h : s.Inv) (pfunc : Option F) : (s.act (.remove pfunc)).Inv := by
  refine ⟨?_, fun k => ?_, callsOk_concat.mpr ⟨h.calls, trivial⟩⟩
  · show Refines _ _ _ (registry (s.trace ++ [.remove pfunc]))
    rw [registry_concat]
    exact h.refines.erase pfunc
  · show (registry (s.trace ++ [.remove pfunc])).since k ≤ s.now
    rw [registry_concat]
    exact h.past k

theorem wait (h : s.Inv) (ms : Nat) : (s.act (.wait ms)).Inv :=
  ⟨h.refines, fun k => Nat.le_add_right_of_le (h.past k), h.calls⟩

/-- **A function is called only when its time is over**: the difference of the clocks is at most
the time that has passed. -/
theorem passed (h : s.Inv) {i : Fin cycleFuncListMax} {e : CycleFuncInfo F}
    (he : s.table i = some e) (hex : clockTimeExceed s.clock e.timeStart e.timeLength = true) :
    (registry s.trace).since e.pfunc + (registry s.trace).length e.pfunc < s.now := by
  obtain ⟨hstart, hlength⟩ := h.refines.entry i e he
  have hpast := h.past e.pfunc
  rw [clockTimeExceed, hstart, clock, ← UInt32.ofNat_sub hpast] at hex
  have hlt := UInt32.lt_iff_toNat_lt.mp (of_decide_eq_true hex)
  rw [hlength, UInt32.toNat_ofNat'] at hlt
  have hmod := Nat.mod_le (s.now - (registry s.trace).since e.pfunc) (2 ^ 32)
  omega

end Inv

/-- What looking at a slot does: nothing, or a call, or a `NULL` is taken out. -/
theorem visit_cases (s : CycleFuncs F) (i : Fin cycleFuncListMax) :
    (s.visit i = (s, false) ∧ ∀ e, s.table i = some e →
      clockTimeExceed s.clock e.timeStart e.timeLength = false) ∨
    ∃ e, s.table i = some e ∧ clockTimeExceed s.clock e.timeStart e.timeLength = true ∧
      ((∃ f, e.pfunc = some f ∧ s.visit i =
        ({ s with
            table := Function.update s.table i (some { e with timeStart := s.clock })
            trace := s.trace ++ [.call (some f) s.now] }, true)) ∨
      e.pfunc = none ∧ s.visit i = (s.act (.remove none), false)) := by
  unfold visit
  cases hi : s.table i with
  | none => exact .inl ⟨rfl, by rintro e ⟨⟩⟩
  | some e =>
    dsimp only
    cases hex : clockTimeExceed s.clock e.timeStart e.timeLength with
    | false =>
      refine .inl ⟨rfl, fun e' he' => ?_⟩
      rw [← Option.some.inj he']
      exact hex
    | true =>
      refine .inr ⟨e, rfl, hex, ?_⟩
      cases hf : e.pfunc with
      | some f => exact .inl ⟨f, rfl, rfl⟩
      | none =>
        refine .inr ⟨rfl, ?_⟩
        have htable := cycleFuncRemove_update hi { e with timeStart := s.clock } rfl
        rw [hf] at htable
        exact congrArg (fun t => (({ s with
          table := t, trace := s.trace ++ [.remove none] } : CycleFuncs F), false)) htable

/-- The invariant holds as long as there never were more functions than slots. -/
def Safe (s : CycleFuncs F) : Prop := Fits cycleFuncListMax s.trace → s.Inv

namespace Safe

variable {s : CycleFuncs F}

theorem act (h : s.Safe) (a : CycleAct F) : (s.act a).Safe := by
  intro hfits
  cases a with
  | add pfunc timeLength => exact (h (fits_concat.mp hfits).1).add pfunc timeLength hfits
  | remove pfunc => exact (h (fits_concat.mp hfits).1).remove pfunc
  | wait ms => exact (h hfits).wait ms

theorem visit (h : s.Safe) (i : Fin cycleFuncListMax) : (s.visit i).1.Safe := by
  rcases s.visit_cases i with ⟨heq, -⟩ | ⟨e, he, hex, ⟨f, hf, heq⟩ | ⟨-, heq⟩⟩
  · rw [heq]
    exact h
  · rw [heq]
    intro hfits
    have hinv := h (fits_concat.mp hfits).1
    have hmem : some f ∈ (registry s.trace).keys :=
      (hinv.refines.mem_iff _).mpr ⟨i, e, he, hf⟩
    have hover := hinv.passed he hex
    rw [hf] at hover
    have hstands : Stands { e with timeStart := s.clock } s.now
        ((registry s.trace).length (some f)) := by
      rw [← hf]
      exact ⟨rfl, (hinv.refines.entry i e he).2⟩
    refine hinv.set (fun b hb => ?_) (fun j b hb hk => hinv.refines.distinct j i b e hb he hk)
      hstands ?_ ⟨hmem, hover⟩
    · rw [he] at hb
      show b.pfunc = e.pfunc
      rw [Option.some.inj hb]
    · show _ = (registry s.trace).set e.pfunc _ _
      rw [hf]
      exact TimerMap.obs_call hmem s.now
  · rw [heq]
    exact h.act (.remove none)

theorem slot (h : s.Safe) (lag : Fin cycleFuncListMax → Nat)
    (does : Fin cycleFuncListMax → List (CycleAct F)) (i : Fin cycleFuncListMax) :
    (s.slot lag does i).Safe := by
  have hvisit := (h.act (.wait (lag i))).visit i
  unfold CycleFuncs.slot
  dsimp only
  split
  · exact invariant_runFrom (fun _ a hs => hs.act a) hvisit (does i)
  · exact hvisit

theorem proc (h : s.Safe) (lag : Fin cycleFuncListMax → Nat)
    (does : Fin cycleFuncListMax → List (CycleAct F)) : (s.proc lag does).Safe := by
  rw [CycleFuncs.proc]
  split
  · exact h
  · exact invariant_runFrom (fun _ i hs => hs.slot lag does i) h _

end Safe

/-! ## One function among the others -/

/-- There never were too many functions, and `f` was added and removed `n` times so far. -/
def Untouched (f : F) (n : Nat) (s : CycleFuncs F) : Prop :=
  Fits cycleFuncListMax s.trace ∧ edits (some f) s.trace = n

/-- As long as `f` is not added or removed, slot `i` has the entry `e`, and `f` has been called
`c` times. -/
structure Holds (f : F) (n : Nat) (i : Fin cycleFuncListMax) (e : CycleFuncInfo F) (c : Nat)
    (s : CycleFuncs F) : Prop where
  safe : s.Safe
  base : n ≤ edits (some f) s.trace
  kept : Untouched f n s → s.table i = some e ∧ calls (some f) s.trace = c

namespace Holds

variable {f : F} {n : Nat} {i : Fin cycleFuncListMax} {e : CycleFuncInfo F} {c : Nat}
  {s : CycleFuncs F}

/-- One more observation. -/
theorem concat (h : Holds f n i e c s) {t : CycleTable F} {o : Obs (Option F)}
    {e' : CycleFuncInfo F} {c' : Nat} (hsafe : Safe { s with table := t, trace := s.trace ++ [o] })
    (hkept : Untouched f n s → edits (some f) [o] = 0 → s.table i = some e →
      t i = some e' ∧ c + calls (some f) [o] = c') :
    Holds f n i e' c' { s with table := t, trace := s.trace ++ [o] } := by
  have hedits : edits (some f) (s.trace ++ [o]) = edits (some f) s.trace + edits (some f) [o] :=
    edits_concat ..
  have hbase := h.base
  refine ⟨hsafe, hedits ▸ Nat.le_add_right_of_le hbase, ?_⟩
  rintro ⟨hfits, hsum⟩
  replace hsum : edits (some f) (s.trace ++ [o]) = n := hsum
  have hs : Untouched f n s := ⟨(fits_concat.mp hfits).1, by omega⟩
  obtain ⟨he, hc⟩ := h.kept hs
  obtain ⟨ht, hc'⟩ := hkept hs (by omega) he
  refine ⟨ht, ?_⟩
  show calls (some f) (s.trace ++ [o]) = c'
  rw [calls_concat, hc, hc']

/-- What others do leaves the slot alone. -/
theorem act (h : Holds f n i e c s) (hf : e.pfunc = some f) (a : CycleAct F) :
    Holds f n i e c (s.act a) := by
  have hsafe := h.safe.act a
  cases a with
  | add pfunc timeLength =>
    refine h.concat hsafe fun _ hedit he => ⟨?_, rfl⟩
    have hne : e.pfunc ≠ pfunc := fun heq => edits_add_eq_zero.mp hedit (heq.symm.trans hf)
    rcases cycleFuncAdd_cases s.clock s.table pfunc timeLength with
      ⟨j, e', he', hk, heq⟩ | ⟨-, ⟨j, hj, heq⟩ | ⟨-, heq⟩⟩
    · have hij : i ≠ j := by
        rintro rfl
        exact hne (Option.some.inj (he.symm.trans he') ▸ hk)
      rw [heq, Function.update_of_ne hij]
      exact he
    · have hij : i ≠ j := by
        rintro rfl
        cases he.symm.trans hj
      rw [heq, Function.update_of_ne hij]
      exact he
    · rw [heq]
      exact he
  | remove pfunc =>
    refine h.concat hsafe fun _ hedit he => ⟨?_, rfl⟩
    have hne : e.pfunc ≠ pfunc := fun heq => edits_remove_eq_zero.mp hedit (heq.symm.trans hf)
    show (if (s.table i).any fun e => e.pfunc = pfunc then none else s.table i) = some e
    rw [he, Option.any_some, decide_eq_false hne]
    rfl
  | wait ms => exact ⟨hsafe, h.base, h.kept⟩

/-- The look at another slot leaves this one alone, and does not call its function. -/
theorem visit (h : Holds f n i e c s) (hf : e.pfunc = some f) {j : Fin cycleFuncListMax}
    (hj : j ≠ i) : Holds f n i e c (s.visit j).1 := by
  have hsafe := h.safe.visit j
  rcases s.visit_cases j with ⟨heq, -⟩ | ⟨e', he', -, ⟨g, hg, heq⟩ | ⟨-, heq⟩⟩
  · rw [heq]
    exact h
  · rw [heq] at hsafe ⊢
    refine h.concat hsafe fun hs _ he => ⟨?_, ?_⟩
    · rw [Function.update_of_ne (Ne.symm hj)]
      exact he
    · have hgf : some g ≠ some f := fun hgf =>
        hj ((h.safe hs.1).refines.distinct j i e' e he' he (hg.trans (hgf.trans hf.symm)))
      rw [calls_call, if_neg hgf]
      rfl
  · rw [heq]
    exact h.act hf (.remove none)

/-- The look at the slot itself, when its time is over. -/
theorem visit_self (h : Holds f n i e c s) (hf : e.pfunc = some f)
    (hex : clockTimeExceed s.clock e.timeStart e.timeLength = true) :
    Holds f n i { e with timeStart := s.clock } (c + 1) (s.visit i).1 := by
  have hsafe := h.safe.visit i
  rcases s.visit_cases i with ⟨heq, hnot⟩ | ⟨e', he', -, ⟨g, hg, heq⟩ | ⟨hg, heq⟩⟩
  · rw [heq]
    refine ⟨h.safe, h.base, fun hs => ?_⟩
    have hfalse := hnot e (h.kept hs).1
    rw [hex] at hfalse
    cases hfalse
  · rw [heq] at hsafe ⊢
    refine h.concat hsafe fun _ _ he => ?_
    obtain rfl : e' = e := Option.some.inj (he'.symm.trans he)
    refine ⟨Function.update_self .., ?_⟩
    rw [calls_call, if_pos (hg.symm.trans hf)]
  · rw [heq] at hsafe ⊢
    refine h.concat hsafe fun _ _ he => ?_
    obtain rfl : e' = e := Option.some.inj (he'.symm.trans he)
    cases hg.symm.trans hf

/-- What the function does that is called from a slot. -/
theorem rest (h : Holds f n i e c s) (hf : e.pfunc = some f) (as : List (CycleAct F)) :
    Holds f n i e c (runFrom CycleFuncs.act s as) :=
  invariant_runFrom (fun _ a hs => hs.act hf a) h as

theorem slot (h : Holds f n i e c s) (hf : e.pfunc = some f) (lag : Fin cycleFuncListMax → Nat)
    (does : Fin cycleFuncListMax → List (CycleAct F)) {j : Fin cycleFuncListMax} (hj : j ≠ i) :
    Holds f n i e c (s.slot lag does j) := by
  have hvisit := (h.act hf (.wait (lag j))).visit hf hj
  unfold CycleFuncs.slot
  dsimp only
  split
  · exact hvisit.rest hf (does j)
  · exact hvisit

theorem slot_self (h : Holds f n i e c s) (hf : e.pfunc = some f)
    (lag : Fin cycleFuncListMax → Nat) (does : Fin cycleFuncListMax → List (CycleAct F))
    (hex : clockTimeExceed (s.act (.wait (lag i))).clock e.timeStart e.timeLength = true) :
    Holds f n i { e with timeStart := (s.act (.wait (lag i))).clock } (c + 1)
      (s.slot lag does i) := by
  have hvisit := (h.act hf (.wait (lag i))).visit_self hf hex
  unfold CycleFuncs.slot
  dsimp only
  split
  · exact hvisit.rest hf (does i)
  · exact hvisit

end Holds

/-- The time at which `CycleFunc_proc` looks at slot `i`. -/
def reaches (lag : Fin cycleFuncListMax → Nat) (does : Fin cycleFuncListMax → List (CycleAct F))
    (s : CycleFuncs F) (i : Fin cycleFuncListMax) : Nat :=
  (runFrom (slot lag does) s ((List.finRange cycleFuncListMax).take i)).now + lag i

/-- The function has a timer, and its time is over. -/
def Due (s : CycleFuncs F) (f : F) : Prop :=
  some f ∈ (registry s.trace).keys ∧
    (registry s.trace).since (some f) + (registry s.trace).length (some f) < s.now

/-- Its slot is looked at less than 2^32 ms after it was added or called. -/
def InTime (lag : Fin cycleFuncListMax → Nat) (does : Fin cycleFuncListMax → List (CycleAct F))
    (s : CycleFuncs F) (f : F) : Prop :=
  ∀ i e, s.table i = some e → e.pfunc = some f →
    s.reaches lag does i < (registry s.trace).since (some f) + 2 ^ 32

/-- **A `CycleFunc_proc` calls every function once** whose time is over, if nothing that is called
adds or removes it. -/
def CallsDue (intime : CycleFuncs F → F → Prop) (lag : Fin cycleFuncListMax → Nat)
    (does : Fin cycleFuncListMax → List (CycleAct F)) (s : CycleFuncs F) : Prop :=
  Fits cycleFuncListMax (s.proc lag does).trace → ∀ f, s.Due f →
    edits (some f) (s.proc lag does).trace = edits (some f) s.trace → intime s f →
      calls (some f) (s.proc lag does).trace = calls (some f) s.trace + 1

/-- Time goes on. -/
theorem now_le_reaches (lag : Fin cycleFuncListMax → Nat)
    (does : Fin cycleFuncListMax → List (CycleAct F)) (s : CycleFuncs F)
    (i : Fin cycleFuncListMax) : s.now ≤ s.reaches lag does i := by
  have hact : ∀ (s : CycleFuncs F) (a : CycleAct F), s.now ≤ (s.act a).now := by
    intro s a
    cases a with
    | add pfunc timeLength => exact Nat.le_refl _
    | remove pfunc => exact Nat.le_refl _
    | wait ms => exact Nat.le_add_right ..
  have hvisit : ∀ (s : CycleFuncs F) (j : Fin cycleFuncListMax), (s.visit j).1.now = s.now := by
    intro s j
    rcases s.visit_cases j with ⟨heq, -⟩ | ⟨e, -, -, ⟨f, -, heq⟩ | ⟨-, heq⟩⟩
    · rw [heq]
    · rw [heq]
    · rw [heq]
      rfl
  have hslot : ∀ (s : CycleFuncs F) (j : Fin cycleFuncListMax),
      s.now ≤ (s.slot lag does j).now := by
    intro s j
    have hwait : s.now ≤ ((s.act (.wait (lag j))).visit j).1.now := by
      rw [hvisit]
      exact hact s _
    unfold slot
    dsimp only
    split
    · exact invariant_runFrom (I := fun s' : CycleFuncs F => s.now ≤ s'.now)
        (fun s' a hs' => Nat.le_trans hs' (hact s' a)) hwait (does j)
    · exact hwait
  exact Nat.le_add_right_of_le (invariant_runFrom (I := fun s' : CycleFuncs F => s.now ≤ s'.now)
    (fun s' j hs' => Nat.le_trans hs' (hslot s' j)) (Nat.le_refl _) _)

/-- **Loop lemma**: the function keeps its slot up to the look at it, and behind it. -/
theorem callsDue {s : CycleFuncs F} (hs : s.Inv) (hinit : s.initialized = true)
    (lag : Fin cycleFuncListMax → Nat) (does : Fin cycleFuncListMax → List (CycleAct F)) :
    s.CallsDue (InTime lag does) lag does := by
  intro hfits f hdue hedits hin
  obtain ⟨i, e, he, hf⟩ := (hs.refines.mem_iff (some f)).mp hdue.1
  obtain ⟨hstart, hlength⟩ := hs.refines.entry i e he
  rw [hf] at hstart hlength
  -- less than a turn of the clock has passed, so its difference is the true one
  have hex : clockTimeExceed (UInt32.ofNat (s.reaches lag does i)) e.timeStart e.timeLength =
      true := by
    have hreach := s.now_le_reaches lag does i
    have hturn := hin i e he hf
    have hover := hdue.2
    have hpast := hs.past (some f)
    rw [clockTimeExceed, hstart, ← UInt32.ofNat_sub (by omega)]
    refine decide_eq_true (UInt32.lt_iff_toNat_lt.mpr ?_)
    rw [hlength, UInt32.toNat_ofNat', Nat.mod_eq_of_lt (by omega)]
    omega
  have hbefore : Holds f (edits (some f) s.trace) i e (calls (some f) s.trace) s :=
    ⟨fun _ => hs, Nat.le_refl _, fun _ => ⟨he, rfl⟩⟩
  have hproc : s.proc lag does = runFrom (slot lag does) s (List.finRange cycleFuncListMax) :=
    if_neg (by rw [hinit]; decide)
  have hrun : Holds f (edits (some f) s.trace) i
      { e with timeStart := UInt32.ofNat (s.reaches lag does i) } (calls (some f) s.trace + 1)
      (s.proc lag does) := by
    rw [hproc]
    exact runFrom_finRange_once (fun _ j hj h => h.slot hf lag does hj)
      (fun h => h.slot_self hf lag does hex) (fun _ j hj h => h.slot hf lag does hj) hbefore
  exact (hrun.kept ⟨hfits, hedits⟩).2

/-! ## Runs -/

/-- What happens to the table. -/
inductive Event (F : Type) where
  /-- `CycleFunc_add`, `CycleFunc_remove`, and time -/
  | act (a : CycleAct F)
  /-- `CycleFunc_proc` has come to slot `i`, and is not over -/
  | visit (i : Fin cycleFuncListMax)
  | proc (lag : Fin cycleFuncListMax → Nat) (does : Fin cycleFuncListMax → List (CycleAct F))

def step (s : CycleFuncs F) : Event F → CycleFuncs F
  | .act a => s.act a
  | .visit i => (s.visit i).1
  | .proc lag does => s.proc lag does

theorem safe_step {s : CycleFuncs F} (h : s.Safe) (ev : Event F) : (s.step ev).Safe := by
  cases ev with
  | act a => exact h.act a
  | visit i => exact h.visit i
  | proc lag does => exact h.proc lag does

theorem initialized_step (s : CycleFuncs F) (ev : Event F) :
    (s.step ev).initialized = s.initialized := by
  have hact : ∀ (s : CycleFuncs F) (a : CycleAct F), (s.act a).initialized = s.initialized := by
    intro s a
    cases a <;> rfl
  have hvisit : ∀ (s : CycleFuncs F) (i : Fin cycleFuncListMax),
      (s.visit i).1.initialized = s.initialized := by
    intro s i
    rcases s.visit_cases i with ⟨heq, -⟩ | ⟨e, -, -, ⟨f, -, heq⟩ | ⟨-, heq⟩⟩
    · rw [heq]
    · rw [heq]
    · rw [heq]
      rfl
  have hslot : ∀ lag does (s : CycleFuncs F) (i : Fin cycleFuncListMax),
      (s.slot lag does i).initialized = s.initialized := by
    intro lag does s i
    unfold slot
    dsimp only
    split
    · rw [keep_runFrom initialized hact, hvisit, hact]
    · rw [hvisit, hact]
  cases ev with
  | act a => exact hact s a
  | visit i => exact hvisit s i
  | proc lag does =>
    show (s.proc lag does).initialized = _
    rw [proc]
    split
    · rfl
    · exact keep_runFrom initialized (hslot lag does) s _

/-- **Every run** after `CycleFunc_init`, with functions that are called adding and removing any
functions, as long as there never are more functions than slots: each function has at most one
slot; every call was for a function that was registered, after more than its time; and the next
`CycleFunc_proc` calls each function once whose time is over. -/
theorem cycleFuncs_map (now : Nat) (evs : List (Event F))
    (h : Fits cycleFuncListMax (runFrom step (init F now) evs).trace) :
    Distinct CycleFuncInfo.pfunc (runFrom step (init F now) evs).table ∧
      CallsOk (runFrom step (init F now) evs).trace ∧
      ∀ lag does, (runFrom step (init F now) evs).CallsDue (InTime lag does) lag does := by
  have hsafe : (runFrom step (init F now) evs).Safe :=
    invariant_runFrom (I := Safe) (fun _ ev hs => safe_step hs ev) (fun _ => inv_init now) evs
  have hinv := hsafe h
  have hinit : (runFrom step (init F now) evs).initialized = true :=
    keep_runFrom initialized initialized_step _ evs
  exact ⟨hinv.refines.distinct, hinv.calls, callsDue hinv hinit⟩

/-- Function 0 takes itself out and puts function 2 into its slot, behind function 1. -/
def swapEvents : List (Event Nat) :=
  [.act (.add (some 0) 100), .act (.add (some 1) 50), .act (.wait 200),
    .proc (fun _ => 0) fun i => if i = 0 then [.remove (some 0), .add (some 2) 10] else []]

theorem cycleFuncs_map_swap :
    Distinct CycleFuncInfo.pfunc (runFrom step (init Nat 7) swapEvents).table ∧
      CallsOk (runFrom step (init Nat 7) swapEvents).trace ∧
      ∀ lag does, (runFrom step (init Nat 7) swapEvents).CallsDue (InTime lag does) lag does :=
  cycleFuncs_map 7 swapEvents (by decide +kernel)

/-- A timer that has been over for a turn of the clock is not over. -/
theorem not_callsDue_turn :
    ¬ ∀ (F : Type) (_ : DecidableEq F) (now : Nat) (evs : List (Event F)),
      Fits cycleFuncListMax (runFrom step (init F now) evs).trace →
      ∀ lag does, (runFrom step (init F now) evs).CallsDue (fun _ _ => True) lag does := by
  intro h
  have hcalls := h Nat inferInstance 0 [.act (.add (some 0) 100), .act (.wait 4294967346)]
    (by decide +kernel) (fun _ => 0) (fun _ => []) (by decide +kernel) 0
    ⟨by decide +kernel, by decide +kernel⟩ (by decide +kernel) trivial
  revert hcalls
  decide +kernel

end CycleFuncs

end LumesSwitch
