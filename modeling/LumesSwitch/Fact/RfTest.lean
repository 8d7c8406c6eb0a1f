import Mathlib.Data.List.Perm.Subperm
import LumesSwitch.Board
import LumesSwitch.Lib.Run

/-!
# The radio test of the factory (`fact_handle.c`)

Once activated, the device sends numbered messages at random times with little power, and the test
passes when two of the numbers have come back. A number that comes back again, or late, or with
another address, does not count.

- `RfTest.factMainFunction`, `RfTest.factHandleConfigResponse` — the functions;
- `RfWatch` — what has been published and answered since the activation;
- `RfWatch.Inv` — the numbers rise, and each that counts has been answered once;
- `RfWatch.passed_of_answers` — what a pass says, for answers of any content in any order;
- `RfWatch.mode_of_life` — when the result comes, and when the test is over.
-/

namespace LumesSwitch

open Runs

/-- `FACT_RETRY_TIME_CNT`, `FACT_TEST_MESSAGE_CNT`, `FACT_TOTAL_TIME_LENGTH`,
`FACT_PUBLISH_TIME_LEN` -/
def factRetryTimeCnt : Nat := 2
def factTestMessageCnt : UInt8 := 5
def factTotalTimeLength : UInt32 := 70000
def factPublishTimeLen : UInt32 := 14000

/-- `TIMER_5Min`, `TTL_DEFAULT` -/
def timer5Min : UInt32 := 300000
def ttlDefault : UInt8 := 6

/-- `FACT_IS_PASS` -/
def factIsPass (x : UInt8) : Bool := x ≥ factTestMessageCnt - 3

/-- `fact_par_t`, less the two fields that are not used. -/
structure FactPar where
  enable : Bool
  acStTime : UInt32
  publishCnt : UInt8
  pubCntBefore : UInt8
  responseCnt : UInt8
  activeIdx : UInt8
  done : Bool

/-- `fact_push_msg_delay_t` -/
structure FactPushMsgDelay where
  enable : Bool
  stTime : UInt32
  delayTime : UInt16

/-- `rf_set_power_level_index` is called with `FACT_POWER_INDEX` or with `my_rf_power_index`. -/
inductive RfPower where
  | fact
  | own
  deriving DecidableEq

/-- `fact_par`, `fact_push_msg_delay`, `model_sig_cfg_s.ttl_def`, and the power. -/
structure RfTest where
  par : FactPar
  delay : FactPushMsgDelay
  ttlDef : UInt8
  power : RfPower

/-- `ele_adr_primary`, and the two bytes of `tbl_mac` that are compared. -/
structure RfEnv where
  eleAdrPrimary : UInt16
  tblMac : Fin 2 → UInt8

/-- What leaves the module: a message of the test (`VD_FACT_TEST_RF`), and the result for
`fact_handle_result`. -/
inductive RfOut where
  | testRf (cnt : UInt8)
  | result (pass : Bool)
  deriving DecidableEq

namespace RfTest

/-- The static variables after a boot. -/
def boot : RfTest := ⟨⟨false, 0, 0, 0, 0, 0, false⟩, ⟨false, 0, 0⟩, ttlDefault, .own⟩

/-- `fact_set` -/
def factSet (s : RfTest) (act : Bool) (clock : UInt32) : RfTest :=
  if act then
    { s with
      par := { s.par with
        enable := true, done := false, acStTime := clock
        publishCnt := 0, responseCnt := 0, activeIdx := 0xFF }
      ttlDef := 0, power := .fact }
  else { s with par := { s.par with enable := false }, ttlDef := ttlDefault, power := .own }

/-- The number that an answer carries. -/
def answerCnt (par : Nat → UInt8) : UInt8 := par 2

/-- An answer for this device: its address, and the first bytes of its MAC. -/
def Matches (env : RfEnv) (dst : UInt16) (par : Nat → UInt8) : Prop :=
  dst = env.eleAdrPrimary ∧ ∀ i : Fin 2, par (3 + i) = env.tblMac i

instance (env : RfEnv) (dst : UInt16) (par : Nat → UInt8) : Decidable (Matches env dst par) :=
  inferInstanceAs (Decidable (_ ∧ _))

/-- `fact_handle_config_response`, with what it returns -/
def factHandleConfigResponse (env : RfEnv) (s : RfTest) (dst : UInt16) (par : Nat → UInt8) :
    RfTest × Int :=
  if dst = env.eleAdrPrimary then
    let s :=
      if ∀ i : Fin 2, par (3 + i) = env.tblMac i then
        if answerCnt par = s.par.pubCntBefore then
          if s.par.activeIdx ≠ answerCnt par then
            { s with par := { s.par with
                responseCnt := s.par.responseCnt + 1, activeIdx := answerCnt par } }
          else s
        else s
      else s
    (s, 0)
  else (s, -1)

/-- `fact_push_message_delay` -/
def factPushMessageDelay (s : RfTest) (clock : UInt32) : RfTest × List RfOut :=
  if s.delay.enable ∧ clockTimeExceed clock s.delay.stTime s.delay.delayTime.toUInt32 then
    ({ s with
        par := { s.par with pubCntBefore := s.par.publishCnt }
        delay := { s.delay with enable := false } },
      List.replicate factRetryTimeCnt (.testRf s.par.publishCnt))
  else (s, [])

/-- The next message is due. -/
def nextStep (s : RfTest) (clock : UInt32) (rand : Nat) : RfTest :=
  let nextStepTime := s.par.publishCnt.toUInt32 * factPublishTimeLen
  if clockTimeExceed clock s.par.acStTime nextStepTime then
    let s :=
      if s.par.publishCnt ≤ factTestMessageCnt then
        { s with delay := ⟨true, clock, UInt16.ofNat (rand % (14000 - 500))⟩ }
      else s
    { s with par := { s.par with publishCnt := s.par.publishCnt + 1 } }
  else s

/-- `fact_main_function`, and `fact_update_result` at its end. -/
def factMainFunction (s : RfTest) (clock : UInt32) (rand : Nat) : RfTest × List RfOut :=
  if s.par.enable then
    if s.par.done then
      (if clockTimeExceed clock s.par.acStTime timer5Min then s.factSet false clock else s, [])
    else
      let (s, outs) :=
        if !factIsPass s.par.responseCnt then s.factPushMessageDelay clock else (s, [])
      if clockTimeExceed clock s.par.acStTime factTotalTimeLength then
        ({ s with par := { s.par with done := true } },
          outs ++ [.result (factIsPass s.par.responseCnt)])
      else (s.nextStep clock rand, outs)
  else (s, [])

end RfTest

/-! ## Beside the test -/

/-- A result, and how many numbers have been answered by then. -/
structure RfResult where
  pass : Bool
  answers : Nat
  deriving DecidableEq

/-- The test, and since its activation: the numbers it has published and those that have been
answered while they were asked for, both the last one first, and the results. -/
structure RfWatch where
  test : RfTest
  published : List UInt8
  answered : List UInt8
  results : List RfResult

/-- What happens: an answer of any content to any address, or a pass of the main loop. -/
inductive RfEvent where
  | answer (dst : UInt16) (par : Nat → UInt8)
  | main (clock : UInt32) (rand : Nat)

namespace RfWatch

open RfTest

/-- The number that is asked for: the last one published, and 0 before that. -/
def asked (w : RfWatch) : UInt8 := w.published.headD 0

/-- The number published in a pass, and the result. -/
def publishedIn (outs : List RfOut) : Option UInt8 :=
  outs.findSome? fun o => match o with
    | .testRf cnt => some cnt
    | .result _ => none

def resultIn (outs : List RfOut) : Option Bool :=
  outs.findSome? fun o => match o with
    | .testRf _ => none
    | .result pass => some pass

def step (env : RfEnv) (w : RfWatch) : RfEvent → RfWatch
  | .answer dst par =>
    { w with
      test := (w.test.factHandleConfigResponse env dst par).1
      answered :=
        if Matches env dst par ∧ answerCnt par = w.asked then w.answered.insert w.asked
        else w.answered }
  | .main clock rand =>
    let (test, outs) := w.test.factMainFunction clock rand
    { w with
      test
      published := (publishedIn outs).toList ++ w.published
      results := ((resultIn outs).map fun pass => ⟨pass, w.answered.length⟩).toList ++ w.results }

/-- The activation of a test. -/
def activate (s : RfTest) (clock : UInt32) : RfWatch := ⟨s.factSet true clock, [], [], []⟩

/-- The numbers rise, and each one that counts has been answered once. -/
structure Inv (w : RfWatch) : Prop where
  asked : w.test.par.pubCntBefore = w.asked
  rising : w.published.Pairwise (· > ·)
  pos : ∀ n ∈ w.published, 0 < n
  publishCnt_le : w.test.par.publishCnt ≤ factTestMessageCnt
  asked_le : w.asked ≤ w.test.par.publishCnt
  delayed : w.test.delay.enable = true → w.asked < w.test.par.publishCnt
  counted : w.test.par.responseCnt.toNat = w.answered.length
  once : w.answered.Pairwise (· > ·)
  answered_le : ∀ n ∈ w.answered, n ≤ w.asked
  active : w.test.par.activeIdx = w.answered.headD 0xFF
  known : ∀ n ∈ w.answered, n = 0 ∨ n ∈ w.published

/-! ## The steps -/

variable {env : RfEnv} {s : RfTest} {p a : List UInt8} {r : List RfResult}

/-- A rising list of bytes up to `k` has at most `k + 1` of them. -/
theorem length_le_of_rising {k : Nat} (h : a.Pairwise (· > ·)) (hle : ∀ n ∈ a, n.toNat ≤ k) :
    a.length ≤ k + 1 := by
  have hnodup : (a.map UInt8.toNat).Nodup :=
    List.pairwise_map.mpr (h.imp fun hlt => Nat.ne_of_gt (UInt8.lt_iff_toNat_lt.mp hlt))
  have hsubset : a.map UInt8.toNat ⊆ List.range (k + 1) := by
    intro n hn
    obtain ⟨x, hx, rfl⟩ := List.mem_map.mp hn
    exact List.mem_range.mpr (Nat.lt_succ_of_le (hle x hx))
  have hlen := (List.subperm_of_subset hnodup hsubset).length_le
  rwa [List.length_map, List.length_range] at hlen

theorem Inv.asked_le_five {w : RfWatch} (h : Inv w) : w.asked ≤ 5 :=
  UInt8.le_trans h.asked_le h.publishCnt_le

theorem Inv.length_le {w : RfWatch} (h : Inv w) : w.answered.length ≤ 6 :=
  length_le_of_rising (k := 5) h.once fun n hn =>
    UInt8.le_iff_toNat_le.mp (UInt8.le_trans (h.answered_le n hn) h.asked_le_five)

/-- An answer changes the count and the number it remembers, at most. -/
theorem answer_frame (env : RfEnv) (s : RfTest) (dst : UInt16) (par : Nat → UInt8) :
    ∃ cnt idx, (s.factHandleConfigResponse env dst par).1 =
      { s with par := { s.par with responseCnt := cnt, activeIdx := idx } } := by
  rw [factHandleConfigResponse]
  split
  · dsimp only
    split
    · split
      · split
        · exact ⟨_, _, rfl⟩
        · exact ⟨_, _, rfl⟩
      · exact ⟨_, _, rfl⟩
    · exact ⟨_, _, rfl⟩
  · exact ⟨_, _, rfl⟩

/-- The number that is asked for has been published, or it is 0. -/
theorem asked_known (w : RfWatch) : w.asked = 0 ∨ w.asked ∈ w.published := by
  rw [asked]
  cases w.published with
  | nil => exact .inl rfl
  | cons n p => exact .inr (List.mem_cons_self ..)

theorem Inv.published_le {w : RfWatch} (h : Inv w) : ∀ n ∈ w.published, n ≤ w.asked := by
  have hrising := h.rising
  intro n hn
  rw [RfWatch.asked]
  cases hpub : w.published with
  | nil =>
    rw [hpub] at hn
    exact nomatch hn
  | cons m p =>
    rw [hpub] at hn hrising
    rcases List.mem_cons.mp hn with rfl | hmem
    · exact UInt8.le_refl _
    · exact UInt8.le_of_lt ((List.pairwise_cons.mp hrising).1 n hmem)

/-- The code remembers the last number that it has counted, and that is enough. -/
theorem Inv.active_eq_iff {w : RfWatch} (h : Inv w) :
    w.test.par.activeIdx = w.asked ↔ w.asked ∈ w.answered := by
  have hfive := h.asked_le_five
  have honce := h.once
  have hle := h.answered_le
  rw [h.active]
  cases hans : w.answered with
  | nil =>
    refine iff_of_false (fun heq => ?_) (fun hmem => nomatch hmem)
    rw [← show (0xFF : UInt8) = w.asked from heq] at hfive
    exact absurd hfive (by decide)
  | cons n a =>
    rw [hans] at honce hle
    constructor
    · rintro rfl
      exact List.mem_cons_self ..
    · intro hmem
      rcases List.mem_cons.mp hmem with heq | hmem
      · exact heq.symm
      · have hgt := (List.pairwise_cons.mp honce).1 _ hmem
        exact absurd (hle n (List.mem_cons_self ..)) (UInt8.not_le.mpr hgt)

/-- **An answer** of any content. -/
theorem Inv.answer {w : RfWatch} (h : Inv w) (dst : UInt16) (par : Nat → UInt8) :
    Inv (w.step env (.answer dst par)) := by
  rw [step, factHandleConfigResponse, h.asked]
  by_cases hcounts : Matches env dst par ∧ answerCnt par = w.asked
  · obtain ⟨⟨hdst, hmac⟩, hcnt⟩ := hcounts
    rw [if_pos hdst, if_pos hmac, if_pos hcnt, hcnt]
    by_cases hmem : w.asked ∈ w.answered
    · -- a number that is answered again
      rw [if_neg (not_not.mpr (h.active_eq_iff.mpr hmem)), if_pos ⟨⟨hdst, hmac⟩, rfl⟩,
        List.insert_of_mem hmem]
      exact h
    · rw [if_pos (fun heq => hmem (h.active_eq_iff.mp heq)), if_pos ⟨⟨hdst, hmac⟩, rfl⟩,
        List.insert_of_not_mem hmem]
      have hlen := h.length_le
      exact {
        asked := h.asked
        rising := h.rising
        pos := h.pos
        publishCnt_le := h.publishCnt_le
        asked_le := h.asked_le
        delayed := h.delayed
        counted := by
          show (w.test.par.responseCnt + 1).toNat = w.answered.length + 1
          rw [UInt8.toNat_add, h.counted, UInt8.toNat_one, Nat.mod_eq_of_lt (by omega)]
        once := List.pairwise_cons.mpr ⟨fun n hn =>
          UInt8.lt_of_le_of_ne (h.answered_le n hn) fun heq => hmem (heq ▸ hn), h.once⟩
        answered_le := List.forall_mem_cons.mpr ⟨UInt8.le_refl _, h.answered_le⟩
        active := rfl
        known := List.forall_mem_cons.mpr ⟨asked_known w, h.known⟩ }
  · rw [if_neg hcounts]
    split
    · next hdst =>
      split
      · next hmac =>
        rw [if_neg fun hcnt => hcounts ⟨⟨hdst, hmac⟩, hcnt⟩]
        exact h
      · exact h
    · exact h

/-- **A message** is published, with a number above the last one. -/
theorem Inv.push (h : Inv ⟨s, p, a, r⟩) (clock : UInt32) :
    Inv ⟨(s.factPushMessageDelay clock).1,
      (publishedIn (s.factPushMessageDelay clock).2).toList ++ p, a, r⟩ := by
  rw [factPushMessageDelay]
  split
  · next hdue =>
    have hlt : (⟨s, p, a, r⟩ : RfWatch).asked < s.par.publishCnt := h.delayed hdue.1
    have hle := h.published_le
    exact {
      asked := rfl
      rising := List.pairwise_cons.mpr
        ⟨fun n hn => UInt8.lt_of_le_of_lt (hle n hn) hlt, h.rising⟩
      pos := List.forall_mem_cons.mpr
        ⟨UInt8.lt_of_le_of_lt (UInt8.zero_le ..) hlt, h.pos⟩
      publishCnt_le := h.publishCnt_le
      asked_le := UInt8.le_refl _
      delayed := fun hfalse => nomatch hfalse
      counted := h.counted
      once := h.once
      answered_le := fun n hn => UInt8.le_of_lt (UInt8.lt_of_le_of_lt (h.answered_le n hn) hlt)
      active := h.active
      known := fun n hn => (h.known n hn).imp_right (List.mem_cons_of_mem _) }
  · exact h

/-- **The next message** is prepared, before the time of the test is over. -/
theorem Inv.nextStep (h : Inv ⟨s, p, a, r⟩) {clock : UInt32} (rand : Nat)
    (htime : clockTimeExceed clock s.par.acStTime factTotalTimeLength = false) :
    Inv ⟨s.nextStep clock rand, p, a, r⟩ := by
  rw [RfTest.nextStep]
  dsimp only
  split
  · next hdue =>
    -- the fifth message is due when the time is over
    have hlt : s.par.publishCnt < factTestMessageCnt := by
      have hle : s.par.publishCnt.toNat ≤ 5 := UInt8.le_iff_toNat_le.mp h.publishCnt_le
      have hstep : factPublishTimeLen.toNat = 14000 := rfl
      have htotal : factTotalTimeLength.toNat = 70000 := rfl
      rw [clockTimeExceed, decide_eq_true_iff, gt_iff_lt, UInt32.lt_iff_toNat_lt,
        UInt32.toNat_mul, UInt8.toNat_toUInt32, hstep] at hdue
      rw [clockTimeExceed, decide_eq_false_iff_not, gt_iff_lt, UInt32.lt_iff_toNat_lt,
        htotal] at htime
      rw [UInt8.lt_iff_toNat_lt]
      show s.par.publishCnt.toNat < 5
      omega
    rw [if_pos (UInt8.le_of_lt hlt)]
    have hsucc : s.par.publishCnt < s.par.publishCnt + 1 := by
      have hlt' : s.par.publishCnt.toNat < 5 := UInt8.lt_iff_toNat_lt.mp hlt
      rw [UInt8.lt_iff_toNat_lt, UInt8.toNat_add, UInt8.toNat_one]
      omega
    have hnext : s.par.publishCnt + 1 ≤ factTestMessageCnt := by
      have hlt' : s.par.publishCnt.toNat < 5 := UInt8.lt_iff_toNat_lt.mp hlt
      rw [UInt8.le_iff_toNat_le, UInt8.toNat_add, UInt8.toNat_one]
      show (s.par.publishCnt.toNat + 1) % 2 ^ 8 ≤ 5
      omega
    have hasked : (⟨s, p, a, r⟩ : RfWatch).asked ≤ s.par.publishCnt := h.asked_le
    exact { h with
      publishCnt_le := hnext
      asked_le := UInt8.le_trans hasked (UInt8.le_of_lt hsucc)
      delayed := fun _ => UInt8.lt_of_le_of_lt hasked hsucc }
  · exact h

/-- The end of a test leaves the numbers alone. -/
theorem Inv.factSet_false (h : Inv ⟨s, p, a, r⟩) (clock : UInt32) :
    Inv ⟨s.factSet false clock, p, a, r⟩ :=
  ⟨h.asked, h.rising, h.pos, h.publishCnt_le, h.asked_le, h.delayed, h.counted, h.once,
    h.answered_le, h.active, h.known⟩

theorem Inv.withResults (h : Inv ⟨s, p, a, r⟩) (done : Bool) (r' : List RfResult) :
    Inv ⟨{ s with par := { s.par with done := done } }, p, a, r'⟩ :=
  ⟨h.asked, h.rising, h.pos, h.publishCnt_le, h.asked_le, h.delayed, h.counted, h.once,
    h.answered_le, h.active, h.known⟩

/-- What a pass publishes comes from the first part of it. -/
theorem publishedIn_append_result (outs : List RfOut) (pass : Bool) :
    publishedIn (outs ++ [.result pass]) = publishedIn outs := by
  rw [publishedIn, publishedIn, List.findSome?_append]
  exact Option.or_none

/-- **A pass of the main loop.** -/
theorem Inv.main {w : RfWatch} (h : Inv w) (clock : UInt32) (rand : Nat) :
    Inv (w.step env (.main clock rand)) := by
  obtain ⟨s, p, a, r⟩ := w
  rw [step, factMainFunction]
  dsimp only
  split
  · split
    · split
      · exact (h.factSet_false clock).withResults _ _
      · exact h.withResults _ _
    · -- the first part publishes, the second one goes on
      obtain ⟨s₁, outs, hpush, h₁⟩ : ∃ s₁ outs,
          (if !factIsPass s.par.responseCnt then s.factPushMessageDelay clock else (s, [])) =
            (s₁, outs) ∧ Inv ⟨s₁, (publishedIn outs).toList ++ p, a, r⟩ := by
        split
        · exact ⟨_, _, rfl, h.push clock⟩
        · exact ⟨_, _, rfl, h⟩
      rw [hpush]
      dsimp only
      split
      · rw [publishedIn_append_result]
        exact h₁.withResults true _
      · next htime =>
        have hnext := h₁.nextStep rand (Bool.eq_false_iff.mpr htime)
        exact ⟨hnext.asked, hnext.rising, hnext.pos, hnext.publishCnt_le, hnext.asked_le,
          hnext.delayed, hnext.counted, hnext.once, hnext.answered_le, hnext.active, hnext.known⟩
  · exact h.withResults _ _

/-! ## From the boot to the activation -/

/-- Nothing is published or prepared, as after a boot. -/
structure Before (s : RfTest) : Prop where
  enable : s.par.enable = false
  pubCntBefore : s.par.pubCntBefore = 0
  delay : s.delay.enable = false

theorem before_boot : Before RfTest.boot := ⟨rfl, rfl, rfl⟩

/-- A test that has not been activated. -/
def idleStep (env : RfEnv) (s : RfTest) : RfEvent → RfTest
  | .answer dst par => (s.factHandleConfigResponse env dst par).1
  | .main clock rand => (s.factMainFunction clock rand).1

theorem Before.step (h : Before s) (ev : RfEvent) : Before (idleStep env s ev) := by
  cases ev with
  | answer dst par =>
    obtain ⟨cnt, idx, hframe⟩ := answer_frame env s dst par
    rw [idleStep, hframe]
    exact ⟨h.enable, h.pubCntBefore, h.delay⟩
  | main clock rand =>
    rw [idleStep, factMainFunction, h.enable, if_neg Bool.false_ne_true]
    exact h

theorem Before.inv (h : Before s) (clock : UInt32) : Inv (activate s clock) where
  asked := h.pubCntBefore
  rising := .nil
  pos := fun _ hn => nomatch hn
  publishCnt_le := UInt8.zero_le ..
  asked_le := UInt8.le_refl _
  delayed := fun henable => by
    rw [show (activate s clock).test.delay.enable = s.delay.enable from rfl, h.delay] at henable
    exact nomatch henable
  counted := rfl
  once := .nil
  answered_le := fun _ hn => nomatch hn
  active := rfl
  known := fun _ hn => nomatch hn

/-- A life of the device: a boot, some events, the activation, and events after that. -/
def life (env : RfEnv) (pre : List RfEvent) (clock : UInt32) (post : List RfEvent) : RfWatch :=
  runFrom (step env) (activate (runFrom (idleStep env) RfTest.boot pre) clock) post

theorem inv_life (env : RfEnv) (pre : List RfEvent) (clock : UInt32) (post : List RfEvent) :
    Inv (life env pre clock post) := by
  have hbefore : Before (runFrom (idleStep env) RfTest.boot pre) :=
    invariant_runFrom (fun _ ev h => h.step ev) before_boot pre
  refine invariant_runFrom (fun w ev h => ?_) (hbefore.inv clock) post
  cases ev with
  | answer dst par => exact h.answer dst par
  | main clock rand => exact h.main clock rand

/-! ## The phases -/

/-- The test is going on, its result is there, or it is over. -/
inductive Mode where
  | running
  | done
  | finished
  deriving DecidableEq

/-- A pass of the main loop, more than 70 seconds and more than five minutes after the activation
at `start`. -/
def Mode.next (start : UInt32) : Mode → RfEvent → Mode
  | .running, .main clock _ =>
    if clockTimeExceed clock start factTotalTimeLength then .done else .running
  | .done, .main clock _ => if clockTimeExceed clock start timer5Min then .finished else .done
  | m, _ => m

/-- The test is in the mode, with the results, the hops and the power of it. -/
structure AtMode (start : UInt32) (w : RfWatch) (m : Mode) : Prop where
  start : w.test.par.acStTime = start
  enable : w.test.par.enable = decide (m ≠ .finished)
  done : w.test.par.done = decide (m ≠ .running)
  results : w.results.length = if m = .running then 0 else 1
  ttlDef : w.test.ttlDef = if m = .finished then ttlDefault else 0
  power : w.test.power = if m = .finished then .own else .fact

/-- An answer does not change the mode. -/
theorem AtMode.answer {w : RfWatch} {start : UInt32} {m : Mode} (h : AtMode start w m)
    (dst : UInt16) (par : Nat → UInt8) : AtMode start (w.step env (.answer dst par)) m := by
  obtain ⟨cnt, idx, hframe⟩ := answer_frame env w.test dst par
  rw [step, hframe]
  exact ⟨h.start, h.enable, h.done, h.results, h.ttlDef, h.power⟩

/-- What the parts of a pass leave alone while the test is running. -/
structure Keeps (s s' : RfTest) : Prop where
  acStTime : s'.par.acStTime = s.par.acStTime
  enable : s'.par.enable = s.par.enable
  done : s'.par.done = s.par.done
  ttlDef : s'.ttlDef = s.ttlDef
  power : s'.power = s.power

theorem Keeps.refl (s : RfTest) : Keeps s s := ⟨rfl, rfl, rfl, rfl, rfl⟩

/-- The first part of a pass gives no result. -/
theorem keeps_push (s : RfTest) (clock : UInt32) :
    Keeps s (s.factPushMessageDelay clock).1 ∧
      resultIn (s.factPushMessageDelay clock).2 = none := by
  rw [factPushMessageDelay]
  split
  · exact ⟨⟨rfl, rfl, rfl, rfl, rfl⟩, rfl⟩
  · exact ⟨.refl s, rfl⟩

theorem keeps_nextStep (s : RfTest) (clock : UInt32) (rand : Nat) :
    Keeps s (s.nextStep clock rand) := by
  rw [RfTest.nextStep]
  dsimp only
  split
  · split
    · exact ⟨rfl, rfl, rfl, rfl, rfl⟩
    · exact ⟨rfl, rfl, rfl, rfl, rfl⟩
  · exact .refl s

theorem AtMode.keeps {s s' : RfTest} {p p' a a' : List UInt8} {r : List RfResult} {start : UInt32}
    {m : Mode} (h : AtMode start ⟨s, p, a, r⟩ m) (hkeeps : Keeps s s') :
    AtMode start ⟨s', p', a', r⟩ m :=
  ⟨hkeeps.acStTime.trans h.start, hkeeps.enable.trans h.enable, hkeeps.done.trans h.done,
    h.results, hkeeps.ttlDef.trans h.ttlDef, hkeeps.power.trans h.power⟩

theorem resultIn_append_result {outs : List RfOut} (h : resultIn outs = none) (pass : Bool) :
    resultIn (outs ++ [.result pass]) = some pass := by
  rw [resultIn] at h ⊢
  rw [List.findSome?_append, h]
  rfl

/-- **A pass of the main loop** goes on by its clock. -/
theorem AtMode.main {w : RfWatch} {start : UInt32} {m : Mode} (h : AtMode start w m)
    (clock : UInt32) (rand : Nat) :
    AtMode start (w.step env (.main clock rand)) (m.next start (.main clock rand)) := by
  obtain ⟨s, p, a, r⟩ := w
  obtain rfl : s.par.acStTime = start := h.start
  have henable : s.par.enable = decide (m ≠ .finished) := h.enable
  have hdone : s.par.done = decide (m ≠ .running) := h.done
  rw [step, factMainFunction, henable, hdone]
  cases m with
  | finished => exact h.keeps (.refl s)
  | done =>
    rw [Mode.next]
    dsimp only
    rw [if_pos (by decide), if_pos (by decide)]
    split
    · exact ⟨rfl, rfl, h.done, h.results, rfl, rfl⟩
    · exact h.keeps (.refl s)
  | running =>
    obtain ⟨s₁, outs, hpush, hkeeps, hresult⟩ : ∃ s₁ outs,
        (if !factIsPass s.par.responseCnt then s.factPushMessageDelay clock else (s, [])) =
            (s₁, outs) ∧ Keeps s s₁ ∧ resultIn outs = none := by
      split
      · exact ⟨_, _, rfl, keeps_push s clock⟩
      · exact ⟨_, _, rfl, .refl s, rfl⟩
    rw [hpush, Mode.next]
    dsimp only
    have hclock : clockTimeExceed clock s₁.par.acStTime factTotalTimeLength =
        clockTimeExceed clock s.par.acStTime factTotalTimeLength := by rw [hkeeps.acStTime]
    rw [if_pos (by decide), if_neg (by decide), hclock]
    have h₁ : AtMode s.par.acStTime ⟨s₁, p, a, r⟩ .running := h.keeps hkeeps
    split
    · rw [resultIn_append_result hresult]
      exact ⟨h₁.start, h₁.enable, rfl, congrArg (· + 1) h₁.results, h₁.ttlDef, h₁.power⟩
    · rw [hresult]
      exact h₁.keeps (keeps_nextStep s₁ clock rand)

/-- **The phases of a life**: the result comes with the first pass of the main loop more than 70
seconds behind the activation, once; the first one after that and more than five minutes behind the
activation ends the test, and gives the hops and the power back. -/
theorem mode_of_life (env : RfEnv) (pre : List RfEvent) (clock : UInt32) (post : List RfEvent) :
    AtMode clock (life env pre clock post) (runFrom (Mode.next clock) .running post) := by
  have hinit : ∀ s : RfTest, AtMode clock (activate s clock) .running :=
    fun s => ⟨rfl, rfl, rfl, rfl, rfl, rfl⟩
  rw [life]
  generalize runFrom (idleStep env) RfTest.boot pre = s
  have hrun : ∀ (evs : List RfEvent) (w : RfWatch) (m : Mode), AtMode clock w m →
      AtMode clock (runFrom (step env) w evs) (runFrom (Mode.next clock) m evs) := by
    intro evs
    induction evs with
    | nil => exact fun w m h => h
    | cons ev evs ih =>
      intro w m h
      refine ih _ _ ?_
      cases ev with
      | answer dst par =>
        have hanswer : AtMode clock (w.step env (.answer dst par)) m := h.answer dst par
        cases m <;> exact hanswer
      | main clock rand => exact h.main clock rand
  exact hrun post _ _ (hinit s)

/-! ## What a pass says -/

/-- A result is told by the numbers that have been answered by then. -/
def ResultsOk (w : RfWatch) : Prop :=
  ∀ q ∈ w.results, q.pass = decide (2 ≤ q.answers) ∧ q.answers ≤ w.answered.length

theorem factIsPass_iff (x : UInt8) : factIsPass x = decide (2 ≤ x.toNat) :=
  decide_eq_decide.mpr UInt8.le_iff_toNat_le

/-- An answer only adds to the numbers. -/
theorem ResultsOk.answer {w : RfWatch} (h : ResultsOk w) (dst : UInt16) (par : Nat → UInt8) :
    ResultsOk (w.step env (.answer dst par)) := by
  intro q hq
  obtain ⟨hpass, hle⟩ := h q hq
  refine ⟨hpass, Nat.le_trans hle ?_⟩
  show w.answered.length ≤ (if Matches env dst par ∧ answerCnt par = w.asked then
    w.answered.insert w.asked else w.answered).length
  split
  · exact List.length_le_length_insert
  · exact Nat.le_refl _

theorem push_responseCnt (s : RfTest) (clock : UInt32) :
    (s.factPushMessageDelay clock).1.par.responseCnt = s.par.responseCnt := by
  rw [factPushMessageDelay]
  split <;> rfl

/-- The result of a pass of the main loop is that of the count. -/
theorem resultIn_main {clock : UInt32} {rand : Nat} {pass : Bool}
    (h : resultIn (s.factMainFunction clock rand).2 = some pass) :
    pass = factIsPass s.par.responseCnt := by
  rw [factMainFunction] at h
  split at h
  · split at h
    · exact nomatch h
    · obtain ⟨s₁, outs, hpush, hcnt, hnone⟩ : ∃ s₁ outs,
          (if !factIsPass s.par.responseCnt then s.factPushMessageDelay clock else (s, [])) =
              (s₁, outs) ∧ s₁.par.responseCnt = s.par.responseCnt ∧ resultIn outs = none := by
        split
        · exact ⟨_, _, rfl, push_responseCnt s clock, (keeps_push s clock).2⟩
        · exact ⟨_, _, rfl, rfl, rfl⟩
      rw [hpush] at h
      dsimp only at h
      split at h
      · rw [resultIn_append_result hnone, Option.some.injEq] at h
        rw [← h, hcnt]
      · rw [hnone] at h
        exact nomatch h
  · exact nomatch h

theorem ResultsOk.main {w : RfWatch} (h : ResultsOk w) (hinv : Inv w) (clock : UInt32)
    (rand : Nat) : ResultsOk (w.step env (.main clock rand)) := by
  intro q hq
  have hq' : q ∈ ((resultIn (w.test.factMainFunction clock rand).2).map fun pass =>
      (⟨pass, w.answered.length⟩ : RfResult)).toList ++ w.results := hq
  rcases List.mem_append.mp hq' with hnew | hold
  · rw [Option.mem_toList, Option.map_eq_some_iff] at hnew
    obtain ⟨pass, hpass, rfl⟩ := hnew
    refine ⟨?_, Nat.le_refl _⟩
    dsimp only
    rw [resultIn_main hpass, factIsPass_iff, hinv.counted]
  · exact h q hold

/-- **What a pass says**, for answers of any content in any order, before and behind the
activation: at least two numbers have been answered while they were asked for, each of them one
that was published, but for the number 0, that is asked for before the first message. So a device
that passes has had an answer to a message of its own. -/
theorem passed_of_answers (env : RfEnv) (pre : List RfEvent) (clock : UInt32)
    (post : List RfEvent) :
    let w := life env pre clock post
    w.published.Nodup ∧ w.published.length ≤ 5 ∧ w.answered.Nodup ∧
      (∀ n ∈ w.answered, n = 0 ∨ n ∈ w.published) ∧
      ∀ q ∈ w.results, q.pass = decide (2 ≤ q.answers) ∧ q.answers ≤ w.answered.length ∧
        (q.pass = true → ∃ n ∈ w.answered, n ∈ w.published) := by
  have hinv := inv_life env pre clock post
  have hresults : ResultsOk (life env pre clock post) := by
    have hbefore : Before (runFrom (idleStep env) RfTest.boot pre) :=
      invariant_runFrom (fun _ ev h => h.step ev) before_boot pre
    refine (invariant_runFrom (I := fun w => Inv w ∧ ResultsOk w) (fun w ev h => ?_)
      ⟨hbefore.inv clock, fun q hq => nomatch hq⟩ post).2
    cases ev with
    | answer dst par => exact ⟨h.1.answer dst par, h.2.answer dst par⟩
    | main clock rand => exact ⟨h.1.main clock rand, h.2.main h.1 clock rand⟩
  have hfive : ∀ n ∈ (life env pre clock post).published, n ≤ 5 :=
    fun n hn => UInt8.le_trans (hinv.published_le n hn) hinv.asked_le_five
  have hrising : ((0 : UInt8) :: (life env pre clock post).published.reverse).reverse.Pairwise
      (· > ·) := by
    rw [List.reverse_cons, List.reverse_reverse, List.pairwise_append]
    refine ⟨hinv.rising, List.pairwise_singleton .., fun n hn m hm => ?_⟩
    rw [List.mem_singleton.mp hm]
    exact hinv.pos n hn
  refine ⟨hinv.rising.imp fun h => (UInt8.ne_of_lt h).symm, ?_,
    hinv.once.imp fun h => (UInt8.ne_of_lt h).symm, hinv.known, fun q hq => ?_⟩
  · have hlen := length_le_of_rising (k := 5) hrising fun n hn => by
      rw [List.mem_reverse, List.mem_cons, List.mem_reverse] at hn
      rcases hn with rfl | hn
      · exact Nat.zero_le _
      · exact UInt8.le_iff_toNat_le.mp (hfive n hn)
    rw [List.length_reverse, List.length_cons, List.length_reverse] at hlen
    omega
  · obtain ⟨hpass, hle⟩ := hresults q hq
    refine ⟨hpass, hle, fun htrue => ?_⟩
    rw [htrue, eq_comm, decide_eq_true_iff] at hpass
    -- of two numbers one is not 0
    have honce := hinv.once
    have hknown := hinv.known
    match hans : (life env pre clock post).answered, hle, honce, hknown with
    | [], hle, _, _ => exact absurd (Nat.le_trans hpass hle) (by decide)
    | [_], hle, _, _ => exact absurd (Nat.le_trans hpass hle) (Nat.not_succ_le_self 1)
    | n :: m :: _, _, honce, hknown =>
      refine ⟨n, List.mem_cons_self .., ?_⟩
      have hlt : m < n := (List.pairwise_cons.mp honce).1 m (List.mem_cons_self ..)
      rcases hknown n (List.mem_cons_self ..) with rfl | hmem
      · exact absurd hlt (UInt8.not_lt.mpr (UInt8.zero_le ..))
      · exact hmem

end RfWatch

end LumesSwitch
