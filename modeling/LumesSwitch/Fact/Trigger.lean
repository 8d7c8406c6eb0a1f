import LumesSwitch.Fact.Model

/-!
# What fires the factory test

The counter in flash is the number of short power cycles since the last long one and the last
firing. A cycle goes through three phases: the counter waits for the first threshold, it is
advanced and waits for the second, and it is settled.

- `Fact.At` — the counter, the phase, and the log that holds the counter;
- `Fact.cycle_spec` — one power cycle;
- `Fact.fires_iff` — when a cycle fires, after any cycles from a new device on.
-/

namespace LumesSwitch

open Nor Runs

/-- The cycles that count, since the last long cycle and the last one that fired. The past is
given newest first: how long each cycle lasted, and whether it fired. -/
def countSince : List (Nat × Bool) → Nat
  | [] => 0
  | (duration, fired) :: past =>
    if fired ∨ 15000 < duration then 0
    else if 1000 < duration then countSince past + 1
    else countSince past

namespace Fact

/-- Some cycles, with the past they leave behind. -/
def cycles (s : Fact) (cs : List PowerCycle) : Option (Fact × List (Nat × Bool)) :=
  cs.foldlM (fun (s, past) c => do
    let (s, fired) ← s.cycle c
    some (s, (c.duration, fired) :: past)) (s, [])

/-! ## The counter and its log -/

/-- A counter as a block of its log. -/
def block (cnt : UInt8) (h : cnt ≤ resetTriggerVal) : resetCntLog.Block :=
  ⟨[cnt], rfl, fun hblank => by
    have herased := hblank cnt (List.mem_singleton_self cnt)
    rw [herased] at h
    exact absurd h (by decide)⟩

/-- The counter is `cnt`, the log holds it, and `clear_st` is `clear`. -/
structure At (s : Fact) (cnt clear : UInt8) : Prop where
  resetCnt : s.resetCnt = cnt
  clearSt : s.clearSt = clear
  le : cnt ≤ resetTriggerVal
  stored : LogRel resetCntLog s.log (some (block cnt le))

section Store

variable {s : Fact} {v : Option resetCntLog.Block}

theorem at_store (hlog : LogRel resetCntLog s.log v) (hle : s.resetCnt ≤ resetTriggerVal) :
    s.factResetCntStore.At s.resetCnt s.clearSt where
  resetCnt := rfl
  clearSt := rfl
  le := hle
  stored := hlog.put (block s.resetCnt hle)

theorem at_clear (hlog : LogRel resetCntLog s.log v) : s.factClearResetCnt.At 0 s.clearSt := by
  have hle : resetCntInvalid ≤ resetTriggerVal := by decide
  exact at_store (s := { s with resetCnt := resetCntInvalid }) hlog hle

theorem at_increase (hlog : LogRel resetCntLog s.log v) (hlt : s.resetCnt < resetTriggerVal) :
    s.factIncreaseResetCnt.At (s.resetCnt + 1) s.clearSt := by
  have hle : ¬ s.resetCnt + 1 > resetTriggerVal := by
    have hfive : resetTriggerVal.toNat = 5 := by decide
    rw [UInt8.lt_iff_toNat_lt, hfive] at hlt
    rw [gt_iff_lt, UInt8.lt_iff_toNat_lt, hfive, UInt8.toNat_add, UInt8.toNat_one]
    omega
  have hst := at_store (s := { s with resetCnt := s.resetCnt + 1 }) hlog (UInt8.not_lt.mp hle)
  rw [factIncreaseResetCnt]
  dsimp only
  rwa [if_neg hle]

end Store

/-- A boot on a log that holds the counter. -/
theorem At.factInit {s : Fact} {cnt clear : UInt8} (h : s.At cnt clear) : s.factInit.At cnt 2 := by
  have hlog := h.stored.reindex
  have hval : resetCntLog.restore (resetCntLog.reindex s.log) = [cnt] := hlog.restore_eq
  have hle : ¬ cnt > resetTriggerVal := UInt8.not_lt.mpr h.le
  have hget : (resetCntLog.restore (resetCntLog.reindex s.log)).getD 0 0 = cnt := by
    rw [hval]
    rfl
  rw [Fact.factInit, factResetCntRestore]
  dsimp only
  rw [hget, if_neg hle]
  exact ⟨rfl, rfl, h.le, hlog⟩

/-- The first boot. -/
theorem at_firstBoot (m : Mem) (index : Nat) : (firstBoot m index).factInit.At 0 2 := by
  have hlog := LogRel.firstBoot resetCntLog m index
  have hval : resetCntLog.restore (resetCntLog.reindex (firstBoot m index).log) = [0xFF] :=
    hlog.restore_eq
  have hgt : (0xFF : UInt8) > resetTriggerVal := by decide
  have hget : (resetCntLog.restore (resetCntLog.reindex (firstBoot m index).log)).getD 0 0 =
      0xFF := by
    rw [hval]
    rfl
  rw [Fact.factInit, factResetCntRestore]
  dsimp only
  rw [hget, if_pos hgt]
  exact at_clear (s := ⟨0xFF, 2, _⟩) hlog

/-! ## One call -/

section Call

variable {s : Fact} {cnt clear : UInt8} {clock : UInt32}

/-- The series is read inside its bounds. -/
theorem At.serials (h : s.At cnt clear) : factRstSerials[s.resetCnt.toNat]? = some ⟨1, 15⟩ := by
  have hle := h.le
  have hfive : resetTriggerVal.toNat = 5 := by decide
  have hall : ∀ n < 6, factRstSerials[n]? = some ⟨1, 15⟩ := by decide
  rw [UInt8.le_iff_toNat_le, hfive] at hle
  rw [h.resetCnt]
  exact hall _ (by omega)

theorem exceed_iff {span : UInt32} :
    clockTimeExceed clock 0 span = true ↔ span.toNat < clock.toNat := by
  rw [clockTimeExceed, decide_eq_true_iff, gt_iff_lt, UInt32.lt_iff_toNat_lt, UInt32.sub_zero]

theorem exceed_start : clockTimeExceed clock 0 ((1 : UInt16).toUInt32 * 1000) = true ↔
    1000 < clock.toNat := exceed_iff

theorem exceed_stop : clockTimeExceed clock 0 ((15 : UInt16).toUInt32 * 1000) = true ↔
    15000 < clock.toNat := exceed_iff

/-- The second part of the check. -/
theorem At.checkStop (h : s.At cnt 1) (clock : UInt32) :
    ∃ s', s.checkStop clock = some s' ∧
      if 15000 < clock.toNat then s'.At 0 0 else s'.At cnt 1 := by
  rw [Fact.checkStop, if_pos h.clearSt, h.serials]
  dsimp only [Option.bind_eq_bind, Option.bind_some]
  by_cases hstop : 15000 < clock.toNat
  · refine ⟨_, if_pos (exceed_stop.mpr hstop), ?_⟩
    rw [if_pos hstop]
    exact at_clear (s := { s with clearSt := 0 }) h.stored
  · refine ⟨s, if_neg fun hx => hstop (exceed_stop.mp hx), ?_⟩
    rwa [if_neg hstop]

theorem factHandle_eq (s : Fact) (clock : UInt32) :
    s.factHandle clock =
      if 1 < clock.toNat then s.factResetCntCheck clock else some (s, false) := by
  have hexceed : clockTimeExceed clock 0 (1 : UInt16).toUInt32 = true ↔ 1 < clock.toNat :=
    exceed_iff
  change (if (!clockTimeExceed clock 0 (1 : UInt16).toUInt32) = true then _ else _) = _
  by_cases h : 1 < clock.toNat
  · rw [if_pos h, hexceed.mpr h]
    rfl
  · rw [if_neg h, Bool.eq_false_iff.mpr fun hx => h (hexceed.mp hx)]
    rfl

/-- Once the counter is settled, nothing happens. -/
theorem At.call_settled (h : s.At cnt 0) : s.factHandle clock = some (s, false) := by
  rw [factHandle_eq, factResetCntCheck, if_pos h.clearSt, ite_self]

/-- Nothing happens up to the first threshold. -/
theorem At.call_waiting (h : s.At cnt 2) (hle : clock.toNat ≤ 1000) :
    s.factHandle clock = some (s, false) := by
  have hne : s.clearSt ≠ 0 ∧ s.clearSt ≠ 1 := by
    rw [h.clearSt]
    decide
  have hstart : s.checkStart clock = some (s, false) := by
    rw [checkStart, if_pos h.clearSt, h.serials]
    exact if_neg fun hx => Nat.not_lt.mpr hle (exceed_start.mp hx)
  rw [factHandle_eq, factResetCntCheck, if_neg hne.1, hstart]
  dsimp only [Option.bind_eq_bind, Option.bind_some]
  rw [Fact.checkStop, if_neg hne.2]
  exact ite_self _

/-- The first part of the check, behind the first threshold: a full series fires, and a
shorter one is counted. -/
theorem At.checkStart (h : s.At cnt 2) (hlt : 1000 < clock.toNat) :
    ∃ s', s.checkStart clock = some (s', decide (cnt = resetTriggerVal)) ∧
      if cnt = resetTriggerVal then s'.At 0 0 else s'.At (cnt + 1) 1 := by
  have hone : s.clearSt - 1 = 1 := by
    rw [h.clearSt]
    decide
  rw [Fact.checkStart, if_pos h.clearSt, h.serials]
  dsimp only [Option.bind_eq_bind, Option.bind_some]
  rw [if_pos (exceed_start.mpr hlt), factCheckMatchTriggerVal, hone]
  dsimp only
  rw [h.resetCnt]
  by_cases hfull : cnt = resetTriggerVal
  · have hfirst := at_clear (s := { s with clearSt := 1 }) h.stored
    simp only [if_pos hfull, decide_eq_true hfull]
    exact ⟨_, rfl, at_clear (s := { factClearResetCnt { s with clearSt := 1 } with clearSt := 0 })
      hfirst.stored⟩
  · have hlt : s.resetCnt < resetTriggerVal := by
      rw [h.resetCnt]
      exact UInt8.lt_of_le_of_ne h.le hfull
    have hnext := at_increase (s := { s with clearSt := 1 }) h.stored hlt
    simp only [if_neg hfull, decide_eq_false hfull]
    dsimp only at hnext
    rw [h.resetCnt] at hnext
    exact ⟨_, rfl, hnext⟩

/-- A call with a check whose parts are known. -/
theorem factHandle_of_check {s₁ s₂ : Fact} {fired : Bool} (hclear : s.clearSt ≠ 0)
    (hlt : 1 < clock.toNat) (hstart : s.checkStart clock = some (s₁, fired))
    (hstop : s₁.checkStop clock = some s₂) : s.factHandle clock = some (s₂, fired) := by
  rw [factHandle_eq, if_pos hlt, factResetCntCheck, if_neg hclear, hstart]
  dsimp only [Option.bind_eq_bind, Option.bind_some]
  rw [hstop]
  rfl

/-- Behind the first threshold, a full series fires. -/
theorem At.call_fires (h : s.At resetTriggerVal 2) (hlt : 1000 < clock.toNat) :
    ∃ s', s.factHandle clock = some (s', true) ∧ s'.At 0 0 := by
  obtain ⟨s', hstart, hs'⟩ := h.checkStart hlt
  rw [if_pos rfl] at hs'
  have hclear : s.clearSt ≠ 0 := by
    rw [h.clearSt]
    decide
  have hstop : s'.checkStop clock = some s' := by
    rw [Fact.checkStop, hs'.clearSt]
    rfl
  exact ⟨s', factHandle_of_check hclear (by omega) hstart hstop, hs'⟩

/-- Behind the first threshold, a shorter series is counted, and cleared behind the second. -/
theorem At.call_counts (h : s.At cnt 2) (hne : cnt ≠ resetTriggerVal) (hlt : 1000 < clock.toNat) :
    ∃ s', s.factHandle clock = some (s', false) ∧
      if 15000 < clock.toNat then s'.At 0 0 else s'.At (cnt + 1) 1 := by
  obtain ⟨s₁, hstart, hs₁⟩ := h.checkStart hlt
  rw [if_neg hne] at hs₁
  rw [decide_eq_false hne] at hstart
  have hclear : s.clearSt ≠ 0 := by
    rw [h.clearSt]
    decide
  obtain ⟨s₂, hstop, hs₂⟩ := hs₁.checkStop clock
  exact ⟨s₂, factHandle_of_check hclear (by omega) hstart hstop, hs₂⟩

/-- A series that has been counted is cleared behind the second threshold. -/
theorem At.call_counted (h : s.At cnt 1) (clock : UInt32) :
    ∃ s', s.factHandle clock = some (s', false) ∧
      if 15000 < clock.toNat then s'.At 0 0 else s'.At cnt 1 := by
  have hclear : s.clearSt ≠ 0 ∧ s.clearSt ≠ 2 := by
    rw [h.clearSt]
    decide
  have hstart : s.checkStart clock = some (s, false) := by rw [Fact.checkStart, if_neg hclear.2]
  obtain ⟨s', hstop, hs'⟩ := h.checkStop clock
  by_cases hlt : 1 < clock.toNat
  · exact ⟨s', factHandle_of_check hclear.1 hlt hstart hstop, hs'⟩
  · refine ⟨s, ?_, ?_⟩
    · rw [factHandle_eq, if_neg hlt]
    · rwa [if_neg (by omega)]

end Call

/-! ## One cycle -/

/-- A call comes when the clock shows more than `ms`. -/
def Passed (ms : Nat) (calls : List Nat) : Prop := ∃ t ∈ calls, ms < t % 2 ^ 32

theorem passed_cons {ms t : Nat} {ts : List Nat} :
    Passed ms (t :: ts) ↔ ms < t % 2 ^ 32 ∨ Passed ms ts := by
  simp [Passed]

theorem handleAll_cons {s s₁ s₂ : Fact} {t : Nat} {ts : List Nat} {fired rest : Bool}
    (hcall : s.factHandle (UInt32.ofNat t) = some (s₁, fired))
    (hrest : s₁.handleAll ts = some (s₂, rest)) :
    s.handleAll (t :: ts) = some (s₂, fired || rest) := by
  rw [handleAll, hcall]
  dsimp only [Option.bind_eq_bind, Option.bind_some]
  rw [hrest]
  rfl

section Calls

variable {s : Fact} {cnt : UInt8} {ts : List Nat}

theorem At.calls_settled (h : s.At cnt 0) (ts : List Nat) :
    s.handleAll ts = some (s, false) := by
  induction ts with
  | nil => rfl
  | cons t ts ih => exact handleAll_cons h.call_settled ih

theorem At.calls_counted (h : s.At cnt 1) (ts : List Nat) :
    ∃ s', s.handleAll ts = some (s', false) ∧
      (Passed 15000 ts → s'.At 0 0) ∧ (¬ Passed 15000 ts → s'.At cnt 1) := by
  induction ts generalizing s with
  | nil => exact ⟨s, rfl, fun ⟨_, hmem, _⟩ => absurd hmem List.not_mem_nil, fun _ => h⟩
  | cons t ts ih =>
    obtain ⟨s₁, hcall, hs₁⟩ := h.call_counted (.ofNat t)
    rw [UInt32.toNat_ofNat'] at hs₁
    by_cases hstop : 15000 < t % 2 ^ 32
    · rw [if_pos hstop] at hs₁
      exact ⟨s₁, handleAll_cons hcall (hs₁.calls_settled ts), fun _ => hs₁,
        fun hn => absurd (passed_cons.mpr (.inl hstop)) hn⟩
    · rw [if_neg hstop] at hs₁
      obtain ⟨s', hrest, hpast, hnot⟩ := ih hs₁
      rw [passed_cons, or_iff_right hstop]
      exact ⟨s', handleAll_cons hcall hrest, hpast, hnot⟩

/-- Nothing happens in a cycle without a call behind the first threshold. -/
theorem At.calls_waiting (h : s.At cnt 2) (hno : ¬ Passed 1000 ts) :
    s.handleAll ts = some (s, false) := by
  induction ts with
  | nil => rfl
  | cons t ts ih =>
    obtain ⟨ht, hts⟩ := not_or.mp (passed_cons.not.mp hno)
    have hclock : (UInt32.ofNat t).toNat ≤ 1000 := by
      rw [UInt32.toNat_ofNat']
      omega
    exact handleAll_cons (h.call_waiting hclock) (ih hts)

theorem At.calls_fire (h : s.At resetTriggerVal 2) (hpassed : Passed 1000 ts) :
    ∃ s', s.handleAll ts = some (s', true) ∧ s'.At 0 0 := by
  induction ts with
  | nil => exact absurd hpassed (by simp [Passed])
  | cons t ts ih =>
    by_cases ht : 1000 < (UInt32.ofNat t).toNat
    · obtain ⟨s', hcall, hs'⟩ := h.call_fires ht
      exact ⟨s', handleAll_cons hcall (hs'.calls_settled ts), hs'⟩
    · have hcall := h.call_waiting (Nat.not_lt.mp ht)
      rw [UInt32.toNat_ofNat'] at ht
      obtain ⟨s', hrest, hs'⟩ := ih ((passed_cons.mp hpassed).resolve_left ht)
      exact ⟨s', handleAll_cons hcall hrest, hs'⟩

theorem At.calls_count (h : s.At cnt 2) (hne : cnt ≠ resetTriggerVal)
    (hpassed : Passed 1000 ts) :
    ∃ s', s.handleAll ts = some (s', false) ∧
      (Passed 15000 ts → s'.At 0 0) ∧ (¬ Passed 15000 ts → s'.At (cnt + 1) 1) := by
  induction ts with
  | nil => exact absurd hpassed (by simp [Passed])
  | cons t ts ih =>
    by_cases ht : 1000 < (UInt32.ofNat t).toNat
    · obtain ⟨s₁, hcall, hs₁⟩ := h.call_counts hne ht
      rw [UInt32.toNat_ofNat'] at hs₁
      rw [passed_cons]
      by_cases hstop : 15000 < t % 2 ^ 32
      · rw [if_pos hstop] at hs₁
        exact ⟨s₁, handleAll_cons hcall (hs₁.calls_settled ts), fun _ => hs₁,
          fun hn => absurd (.inl hstop) hn⟩
      · rw [if_neg hstop] at hs₁
        obtain ⟨s', hrest, hpast, hnot⟩ := hs₁.calls_counted ts
        rw [or_iff_right hstop]
        exact ⟨s', handleAll_cons hcall hrest, hpast, hnot⟩
    · have hcall := h.call_waiting (Nat.not_lt.mp ht)
      rw [UInt32.toNat_ofNat'] at ht
      obtain ⟨s', hrest, hpast, hnot⟩ := ih ((passed_cons.mp hpassed).resolve_left ht)
      rw [passed_cons, or_iff_right (by omega)]
      exact ⟨s', handleAll_cons hcall hrest, hpast, hnot⟩

end Calls

/-- The calls of a cycle pass a threshold if the cycle lasts beyond it. -/
theorem passed_calls {c : PowerCycle} {ms : Nat}
    (h : ms < c.duration → ∃ t ∈ c.calls, ms < t ∧ t < 2 ^ 32) :
    Passed ms c.calls ↔ ms < c.duration := by
  constructor
  · rintro ⟨t, hmem, hlt⟩
    have hle := c.within t hmem
    have hmod := Nat.mod_le t (2 ^ 32)
    omega
  · intro hlt
    obtain ⟨t, hmem, hgt, hsmall⟩ := h hlt
    exact ⟨t, hmem, by rwa [Nat.mod_eq_of_lt hsmall]⟩

/-- The counter that a cycle leaves. -/
def nextCnt (cnt : UInt8) (duration : Nat) : UInt8 :=
  if duration ≤ 1000 then cnt
  else if cnt = resetTriggerVal ∨ 15000 < duration then 0
  else cnt + 1

/-- **One cycle**: it fires if it outlasts the first threshold with a full series. -/
theorem At.cycle_spec {s : Fact} {cnt : UInt8} (h : s.factInit.At cnt 2) (c : PowerCycle) :
    ∃ s' clear, s.cycle c = some (s', decide (1000 < c.duration ∧ cnt = resetTriggerVal)) ∧
      s'.At (nextCnt cnt c.duration) clear := by
  have hstart := passed_calls c.started
  have hstop := passed_calls c.ended
  unfold Fact.cycle nextCnt
  by_cases hshort : c.duration ≤ 1000
  · have hno : ¬ 1000 < c.duration := Nat.not_lt.mpr hshort
    rw [h.calls_waiting (hstart.not.mpr hno), decide_eq_false fun hx => hno hx.1]
    refine ⟨_, 2, rfl, ?_⟩
    rwa [if_pos hshort]
  · have hlong : 1000 < c.duration := Nat.not_le.mp hshort
    rw [if_neg hshort]
    by_cases hfull : cnt = resetTriggerVal
    · subst hfull
      obtain ⟨s', hrun, hs'⟩ := h.calls_fire (hstart.mpr hlong)
      rw [hrun, decide_eq_true ⟨hlong, rfl⟩, if_pos (.inl rfl)]
      exact ⟨s', 0, rfl, hs'⟩
    · obtain ⟨s', hrun, hpast, hnot⟩ := h.calls_count hfull (hstart.mpr hlong)
      rw [hrun, decide_eq_false fun hx => hfull hx.2]
      by_cases hlast : 15000 < c.duration
      · rw [if_pos (.inr hlast)]
        exact ⟨s', 0, rfl, hpast (hstop.mpr hlast)⟩
      · rw [if_neg (not_or.mpr ⟨hfull, hlast⟩)]
        exact ⟨s', 1, rfl, hnot (hstop.not.mpr hlast)⟩

/-! ## All cycles -/

/-- What a boot finds after some cycles: the counter is the number of cycles that count. -/
structure Counts (s : Fact) (past : List (Nat × Bool)) (cnt : UInt8) : Prop where
  boot : s.factInit.At cnt 2
  count : cnt.toNat = countSince past

theorem Counts.cycle {s : Fact} {past : List (Nat × Bool)} {cnt : UInt8}
    (h : s.Counts past cnt) (c : PowerCycle) :
    ∃ s' fired, s.cycle c = some (s', fired) ∧
      (fired = true ↔ 1000 < c.duration ∧ 5 ≤ countSince past) ∧
      ∃ cnt', s'.Counts ((c.duration, fired) :: past) cnt' := by
  have hfive : resetTriggerVal.toNat = 5 := by decide
  have hle := UInt8.le_iff_toNat_le.mp h.boot.le
  have hfull : cnt = resetTriggerVal ↔ 5 ≤ countSince past := by
    rw [← UInt8.toNat_inj, hfive, ← h.count]
    omega
  obtain ⟨s', clear, hrun, hs'⟩ := At.cycle_spec h.boot c
  refine ⟨s', _, hrun, ?_, _, hs'.factInit, ?_⟩
  · rw [decide_eq_true_iff, hfull]
  · rw [nextCnt, countSince]
    simp only [decide_eq_true_iff]
    by_cases hshort : c.duration ≤ 1000
    · rw [if_pos hshort, if_neg (by omega), if_neg (by omega), h.count]
    · rw [if_neg hshort]
      by_cases hreset : cnt = resetTriggerVal ∨ 15000 < c.duration
      · rw [if_pos hreset, if_pos (hreset.imp_left fun hc => ⟨by omega, hc⟩)]
        rfl
      · obtain ⟨hne, hlast⟩ := not_or.mp hreset
        have hlt : cnt.toNat ≠ 5 := fun hc => hne (UInt8.toNat_inj.mp (hc.trans hfive.symm))
        rw [if_neg hreset, if_neg (not_or.mpr ⟨fun hx => hne hx.2, hlast⟩),
          if_pos (Nat.not_le.mp hshort), UInt8.toNat_add, UInt8.toNat_one, ← h.count]
        omega

theorem Counts.cycles {s : Fact} {past : List (Nat × Bool)} {cnt : UInt8}
    (h : s.Counts past cnt) (cs : List PowerCycle) :
    ∃ s' past' cnt', cs.foldlM (fun (s, past) c => do
      let (s, fired) ← s.cycle c
      some (s, (c.duration, fired) :: past)) (s, past) = some (s', past') ∧
        s'.Counts past' cnt' := by
  induction cs generalizing s past cnt with
  | nil => exact ⟨s, past, cnt, rfl, h⟩
  | cons c cs ih =>
    obtain ⟨s₁, fired, hrun, -, cnt₁, hs₁⟩ := h.cycle c
    rw [List.foldlM_cons]
    dsimp only
    rw [hrun]
    exact ih hs₁

/-- **The trigger.** After any power cycles of a new device, the next one fires if and only if
it lasts longer than a second and at least five cycles counted; on the way the series is read
inside its bounds. -/
theorem fires_iff (m : Mem) (index : Nat) (cs : List PowerCycle) (c : PowerCycle) :
    ∃ s past, (firstBoot m index).cycles cs = some (s, past) ∧
      ∃ s' fired, s.cycle c = some (s', fired) ∧
        (fired = true ↔ 1000 < c.duration ∧ 5 ≤ countSince past) := by
  have hfirst : (firstBoot m index).Counts [] 0 := ⟨at_firstBoot m index, rfl⟩
  obtain ⟨s, past, cnt, hrun, hs⟩ := hfirst.cycles cs
  obtain ⟨s', fired, hcycle, hfires, -⟩ := hs.cycle c
  exact ⟨s, past, hrun, s', fired, hcycle, hfires⟩

/-- The device is switched off a second and a half behind the boot. -/
def shortCycle : PowerCycle where
  duration := 1500
  calls := [1, 500, 1200]
  within := by decide
  started _ := ⟨1200, by decide, by decide, by decide⟩
  ended hlong := absurd hlong (by decide)

/-- Five such cycles count, and the sixth fires. -/
example :
    ((firstBoot (fun _ => 0) 0).cycles (List.replicate 5 shortCycle)).bind (fun (s, past) =>
      (s.cycle shortCycle).map fun (_, fired) => (past, fired)) =
      some (List.replicate 5 (1500, false), true) := by
  decide +kernel

end Fact

end LumesSwitch
