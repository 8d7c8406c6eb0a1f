import LumesSwitch.Energy.Channels
import LumesSwitch.Energy.Monotone

/-!
# What the gateway knows of a load (`energy.c`)

The gateway is told the current, the voltage and the power of a channel when they have changed by
a percentage, when the relay has changed, and once in two hours. Each report waits for its time,
and one that has waited for a change of the values is dropped if they have come back. The code
compares what it measures with what it has reported; that the gateway has been told the same is
what the percentages rest on.

- `Reading.iup` — the message for a reading;
- `Picture.told` — what the gateway has been told since the boot;
- `EnergyState.iup` — what the reports have to do with of a channel;
- `Near` — the percentages, for what has been reported and what is measured;
- `Picture.informed_of_kept` — unless a report is pending, the gateway has been told what the code
  takes as reported, and behind each round of measurements that is near what is measured.
-/

namespace LumesSwitch

open Nor Runs

variable {b : Board}

/-! ## Readings and messages -/

/-- Current, voltage and power. -/
structure Reading where
  iRms : ℚ
  vRms : ℚ
  activePower : ℚ
  deriving DecidableEq

def EnergyValue.reading (v : EnergyValue) : Reading := ⟨v.iRms, v.vRms, v.activePower⟩

/-- `iup_pf_response_t`, less its code. -/
structure Iup where
  i : UInt16
  v : UInt16
  p : UInt32
  deriving DecidableEq

namespace Reading

/-- The message for a reading. -/
def iup (r : Reading) : Iup :=
  ⟨toU16 r.iRms, toU16 (r.vRms / 100), toU32 r.activePower % 0x1000000⟩

/-- What a meter measures. -/
def measurable (x : ℚ) : Prop := 0 ≤ x ∧ x < 2 ^ 25

instance (x : ℚ) : Decidable (measurable x) := inferInstanceAs (Decidable (_ ∧ _))

structure Measurable (r : Reading) : Prop where
  iRms : measurable r.iRms
  vRms : measurable r.vRms
  activePower : measurable r.activePower

end Reading

/-- The messages with the current, the voltage and the power of channel `c`. -/
def iupFor (c : b.Chn) (out : List EnergyOut) : List Iup :=
  out.filterMap fun
    | .iupPf idx i v p => if idx = c.val then some ⟨i, v, p⟩ else none
    | _ => none

/-- The percentage by which a current or a power has to change, by the power that is measured. -/
def percentNeeded (power : ℚ) : ℚ := if power < 10000 then (if power < 2500 then 120 else 60) else 30

/-- A value is near what has been reported: less than the percentage away from it, or, where less
than one has been reported, less than `least` away if the relay is known to be on. -/
def NearBy (on : Bool) (percent least reported value : ℚ) : Prop :=
  if reported < 1 then on = true → |reported - value| < least
  else |reported - value| < reported * percent / 100

/-- What is measured is near what has been reported. -/
structure Near (on : Bool) (reported value : Reading) : Prop where
  current : NearBy on (percentNeeded value.activePower) 20 reported.iRms value.iRms
  voltage : 1 ≤ reported.vRms → |reported.vRms - value.vRms| < reported.vRms * 10 / 100
  power : NearBy on (percentNeeded value.activePower) 5000 reported.activePower value.activePower

/-! ## A channel, for its reports -/

/-- What the reports of current, voltage and power have to do with of a channel: the values, the
source of a report that is pending, and the messages. -/
structure IupChannel where
  value : Reading
  reported : Reading
  pending : Option SourceReport
  force : Bool
  sent : List Iup

/-- A forced report: the values are taken as reported at once, and the message waits, unless one
waits already and this one would wait for longer than six seconds. -/
def IupChannel.forced (v : IupChannel) (wait : UInt32) : IupChannel :=
  let v' := if v.pending.isSome ∧ 6000 < wait then v else { v with pending := some .changeSt }
  { v' with reported := v.value, force := false }

def EnergyChannel.iup (e : EnergyChannel) (sent : List Iup) : IupChannel where
  value := e.value.reading
  reported := e.reported.reading
  pending := if e.publishIup.enable then some e.publishIupSrc else none
  force := e.forceReportIup
  sent := sent

namespace EnergyState

def iup (s : EnergyState b) (c : b.Chn) : IupChannel := (s.ch c).iup (iupFor c s.out)

/-- The relay of channel `c` is known to be on. -/
def relayKnownOn (s : EnergyState b) (c : b.Chn) : Bool :=
  match s.env.actualRelayOn with
  | some on => on c
  | none => false

/-- All four values of a round have come in, and the next round does not begin. -/
def RoundTaken (s : EnergyState b) (c : b.Chn) : Prop :=
  clockTimeExceed s.env.timeMs (s.ch c).queryTStart 2000 = false ∧
    (s.ch c).updatedFlag = ⟨true, true, true, true⟩

instance (s : EnergyState b) (c : b.Chn) : Decidable (RoundTaken s c) :=
  inferInstanceAs (Decidable (_ ∧ _))

/-- How long the report of a change of the relay waits. -/
def changeWait (rand : b.Chn → Nat → Nat) (s : EnergyState b) (c : b.Chn) : UInt32 :=
  if (s.ch c).fastReportIup then UInt32.ofNat (4000 + rand c 0 % 3000)
  else macroReportTime (rand c 0)

end EnergyState

/-- The calls that have to do with the energy only. -/
def EnergyEvent.EnergyOnly : EnergyEvent b → Prop
  | .cfOverflow .. | .publishActiveEnergyDelayProc | .queryActiveEnergy _ | .store | .delete _
  | .clean | .environment _ => True
  | _ => False

/-! ## Runs -/

/-- The module, and what the gateway has been told of each channel since the boot; of nothing it
takes nothing. -/
structure Picture (b : Board) where
  dev : EnergyState b
  told : b.Chn → Iup

namespace Picture

def nothing : Iup := ⟨0, 0, 0⟩

/-- The module at the start of a step: nothing sent yet. -/
def start (r : Picture b) : EnergyState b := { r.dev with out := [] }

/-- What the gateway knows at the start of a step. -/
def toldBase (r : Picture b) (c : b.Chn) : EnergyEvent b → Iup
  | .reboot _ => nothing
  | _ => r.told c

def step (r : Picture b) (ev : EnergyEvent b) : Picture b where
  dev := r.start.handle ev
  told c := (iupFor c (r.start.handle ev).out).getLastD (r.toldBase c ev)

/-- The module after `energy_init`. -/
def init (rand : b.Chn → Nat → Nat) (s : EnergyState b) : Picture b where
  dev := s.energyInit rand
  told _ := nothing

/-- The values are what a meter measures, and no report of a change of the relay comes to one that
waits for a change of the values, unless it is sooner than six seconds. -/
def Kept (r : Picture b) : EnergyEvent b → Prop
  | .measurement _ mType value => mType ≠ .activeEnergy → Reading.measurable value
  | .measurementProc rand => ∀ c, r.dev.RoundTaken c → (r.dev.ch c).forceReportIup = true →
    (r.dev.iup c).pending = some .delta → r.dev.changeWait rand c ≤ 6000
  | _ => True

instance (r : Picture b) (ev : EnergyEvent b) : Decidable (r.Kept ev) :=
  match ev with
  | .measurement .. => inferInstanceAs (Decidable (_ → _))
  | .measurementProc _ => inferInstanceAs (Decidable (∀ _, _ → _ → _ → _))
  | .cfOverflow .. | .relayStateChange .. | .publishActiveEnergyDelayProc | .publishIupPfDelayProc
  | .publishPeriodicProc _ | .queryActiveEnergy _ | .store | .delete _ | .clean | .reboot _
  | .environment _ => isTrue trivial

/-- **What the gateway is to know** behind an event: unless a report is pending, it has been told
what the code takes as reported, and behind a round of measurements that is near what has been
measured. -/
def Informed (r : Picture b) (ev : EnergyEvent b) : Prop :=
  ∀ c, let v := (r.step ev).dev.iup c
    v.pending = none → (r.step ev).told c = v.reported.iup ∧
      ∀ rand, ev = .measurementProc rand → r.dev.RoundTaken c →
        Near (r.dev.relayKnownOn c) v.reported v.value

end Picture

/-! ## The percentages -/

theorem absQ_eq_abs (x : ℚ) : absQ x = |x| := by
  rw [absQ]
  split
  · next h => exact (abs_of_pos h).symm
  · next h => exact (abs_of_nonpos (not_lt.mp h)).symm

theorem Reading.measurable.abs_sub_lt {x y : ℚ} (hx : measurable x) (hy : measurable y) :
    |x - y| < 2 ^ 25 :=
  abs_sub_lt_iff.mpr ⟨by linarith only [hx.2, hy.1], by linarith only [hx.1, hy.2]⟩

/-- A comparison of what is left of a value behind its conversion. -/
theorem lt_of_not_le_toU32 {x : ℚ} {n : UInt32} (h0 : 0 ≤ x) (h1 : x < 2 ^ 32)
    (h : ¬ n ≤ toU32 x) : x < n.toNat := by
  have hfloor : ⌊x⌋ < 2 ^ 32 := Int.floor_lt.mpr (by exact_mod_cast h1)
  have hword := toU32_toNat h0 hfloor
  have hlt : (toU32 x).toNat < n.toNat := by
    rw [UInt32.le_iff_toNat_le] at h
    omega
  have hbelow : ⌊x⌋ < (n.toNat : ℤ) := by
    rw [← hword]
    exact_mod_cast hlt
  exact_mod_cast Int.floor_lt.mp hbelow

/-- A value of less than one is none for the code. -/
theorem toU32_eq_zero_iff {x : ℚ} (h : Reading.measurable x) : toU32 x = 0 ↔ x < 1 := by
  have hfloor : ⌊x⌋ < 2 ^ 32 := Int.floor_lt.mpr (by have := h.2; norm_num at this ⊢; linarith)
  have hword := toU32_toNat h.1 hfloor
  have hone : x < 1 ↔ ⌊x⌋ < 1 := (Int.floor_lt.trans (by norm_num)).symm
  have hzero : toU32 x = 0 ↔ (toU32 x).toNat = 0 := by
    rw [← UInt32.toNat_inj, UInt32.toNat_zero]
  rw [hone, hzero]
  omega

namespace EnergyState

variable (s : EnergyState b) (c : b.Chn)

/-- A value whose change is not enough. -/
theorem lt_of_not_satisfy {reported value : ℚ} (hr : Reading.measurable reported)
    (hv : Reading.measurable value) {percent : UInt32} {type : MType} (hone : 1 ≤ reported)
    (h : s.isSatisfyPercentChangeCondition c (absQ (reported - value)) reported percent type =
      false) : |reported - value| < reported * percent.toNat / 100 := by
  rw [isSatisfyPercentChangeCondition, absQ_eq_abs,
    if_neg fun hzero => absurd ((toU32_eq_zero_iff hr).mp hzero) (not_lt.mpr hone)] at h
  have hdelta := hr.abs_sub_lt hv
  have hpos : 0 < reported := by linarith only [hone]
  have hle : |reported - value| / reported ≤ |reported - value| :=
    div_le_self (abs_nonneg _) hone
  have hchange := lt_of_not_le_toU32 (x := |reported - value| / reported * 100) (by positivity)
    (by norm_num at hdelta ⊢; linarith only [hle, hdelta]) (of_decide_eq_false h)
  rw [div_mul_eq_mul_div, div_lt_iff₀ hpos] at hchange
  rw [lt_div_iff₀ (by norm_num)]
  linarith only [hchange]

/-- The same for a current or a power, which are looked at from nothing on, too. -/
theorem nearBy_of_not_satisfy {reported value : ℚ} (hr : Reading.measurable reported)
    (hv : Reading.measurable value) {percent least : UInt32} {type : MType}
    (htype : type = .activePower ∧ least = 5000 ∨ type = .current ∧ least = 20)
    (h : s.isSatisfyPercentChangeCondition c (absQ (reported - value)) reported percent type =
      false) : NearBy (s.relayKnownOn c) percent.toNat least.toNat reported value := by
  rw [NearBy]
  split
  · next hone =>
    intro hon
    rw [isSatisfyPercentChangeCondition, absQ_eq_abs, if_pos ((toU32_eq_zero_iff hr).mpr hone)] at h
    rw [relayKnownOn] at hon
    cases henv : s.env.actualRelayOn with
    | none =>
      rw [henv] at hon
      exact nomatch hon
    | some on =>
      rw [henv] at h hon
      dsimp only at h hon
      rw [hon, Bool.true_and] at h
      have hdelta := hr.abs_sub_lt hv
      refine lt_of_not_le_toU32 (abs_nonneg _) (by norm_num at hdelta ⊢; linarith only [hdelta]) ?_
      rcases htype with ⟨rfl, rfl⟩ | ⟨rfl, rfl⟩
      · exact of_decide_eq_false (by simpa using h)
      · exact of_decide_eq_false (by simpa using h)
  · next hone => exact s.lt_of_not_satisfy c hr hv (not_lt.mp hone) h

theorem near_of_not_need (hr : (s.iup c).reported.Measurable) (hv : (s.iup c).value.Measurable)
    (h : s.iupIsNeedReportByDelta c = false) :
    Near (s.relayKnownOn c) (s.iup c).reported (s.iup c).value := by
  rw [iupIsNeedReportByDelta] at h
  obtain ⟨hcurrent, hpower⟩ := Bool.or_eq_false_iff.mp h
  obtain ⟨hcurrent, hvoltage⟩ := Bool.or_eq_false_iff.mp hcurrent
  have hpercent : percentNeeded (s.iup c).value.activePower = ((30 *
      (if (s.ch c).value.activePower < 10000 then
        (if (s.ch c).value.activePower < 2500 then 4 else 2) else 1) : UInt32)).toNat := by
    show percentNeeded (s.ch c).value.activePower = _
    rw [percentNeeded]
    split
    · split <;> rfl
    · rfl
  refine ⟨?_, fun hone => ?_, ?_⟩
  · rw [hpercent]
    exact s.nearBy_of_not_satisfy c hr.iRms hv.iRms (.inr ⟨rfl, rfl⟩) hcurrent
  · exact s.lt_of_not_satisfy c hr.vRms hv.vRms hone hvoltage
  · rw [hpercent]
    exact s.nearBy_of_not_satisfy c hr.activePower hv.activePower (.inl ⟨rfl, rfl⟩) hpower

end EnergyState

/-! ## What the functions do to a channel -/

namespace EnergyState

variable {s s' : EnergyState b} {c i : b.Chn}

theorem iup_congr (hch : s'.ch i = s.ch i) (hout : iupFor i s'.out = iupFor i s.out) :
    s'.iup i = s.iup i := by
  rw [iup, iup, hch, hout]

theorem iup_upd_other (f : EnergyChannel → EnergyChannel) (h : i ≠ c) :
    (s.upd c f).iup i = s.iup i :=
  iup_congr (Function.update_of_ne h ..) rfl

theorem iup_upd_self (f : EnergyChannel → EnergyChannel) :
    (s.upd c f).iup c = (f (s.ch c)).iup (iupFor c s.out) := by
  rw [iup, upd_ch_self]
  rfl

/-- An update of what the reports have nothing to do with. -/
theorem iup_upd_same {f : EnergyChannel → EnergyChannel}
    (h : ∀ e sent, (f e).iup sent = e.iup sent) : (s.upd c f).iup = s.iup := by
  funext i
  by_cases hi : i = c
  · rw [hi, iup_upd_self]
    exact h _ _
  · exact iup_upd_other f hi

/-- Only `VD_IUP_INFORMATION` tells of current, voltage and power. -/
theorem iup_send {o : EnergyOut} (h : iupFor i [o] = []) : (s.send o).iup i = s.iup i := by
  refine iup_congr rfl ?_
  show iupFor i (s.out ++ [o]) = _
  rw [iupFor, List.filterMap_append]
  exact (congrArg _ h).trans (List.append_nil _)

/-! ### Functions that leave them alone -/

theorem iup_setupPublishEnergyDelay (w : UInt32) :
    (s.setupPublishEnergyDelay c w).iup = s.iup := by
  refine iup_upd_same fun e sent => ?_
  split <;> rfl

theorem iup_storeActivePower : s.storeActivePower.iup = s.iup := rfl

theorem iup_publishActiveEnergy : (s.publishActiveEnergy c).iup = s.iup := by
  funext i
  rw [publishActiveEnergy]
  dsimp only
  split
  · rw [iup_upd_same (by exact fun _ _ => rfl), iup_send rfl]
    split
    · rw [iup_storeActivePower, iup_upd_same (by exact fun _ _ => rfl)]
    · rw [iup_upd_same (by exact fun _ _ => rfl)]
  · rfl

theorem iup_publishActiveEnergyDelayProc : s.publishActiveEnergyDelayProc.iup = s.iup :=
  keep_runFrom (v := iup) (fun _ _ => iup_publishActiveEnergy) _ _

theorem iup_calculatorKwh (rand : b.Chn → Nat → Nat) : (calculatorKwh rand s c).iup = s.iup := by
  rw [calculatorKwh]
  dsimp only
  split
  · split
    · rw [iup_setupPublishEnergyDelay, iup_upd_same (by exact fun _ _ => rfl)]
    · exact iup_upd_same fun _ _ => rfl
  · split
    · exact iup_upd_same fun _ _ => rfl
    · rfl

/-! ### Functions that change them -/

theorem iup_updateInputToReport :
    (s.updateInputToReport c).iup c = { s.iup c with reported := (s.iup c).value } :=
  iup_upd_self _

theorem iup_iupReportDone : (s.iupReportDone c).iup c = { s.iup c with pending := none } :=
  iup_upd_self _

theorem iup_setupPublishIupPfDelay (w : UInt32) (src : SourceReport) :
    (s.setupPublishIupPfDelay c w src).iup c =
      if (s.iup c).pending.isSome ∧ 6000 < w then s.iup c
      else { s.iup c with pending := some src } := by
  have hpending : (s.iup c).pending.isSome = (s.ch c).publishIup.enable := by
    rw [iup, EnergyChannel.iup]
    split
    · next h => exact h.symm
    · next h => exact (Bool.eq_false_iff.mpr h).symm
  rw [setupPublishIupPfDelay, iup_upd_self, hpending]
  by_cases hwait : (s.ch c).publishIup.enable = true ∧ 6000 < w
  · rw [if_pos hwait, if_pos (by simpa using hwait)]
    rfl
  · rw [if_neg hwait, if_neg (by simpa using hwait)]
    rfl

theorem iup_send_self (v : Iup) :
    (s.send (.iupPf c v.i v.v v.p)).iup c = { s.iup c with sent := (s.iup c).sent ++ [v] } := by
  have hsent : iupFor c (s.out ++ [.iupPf c v.i v.v v.p]) = iupFor c s.out ++ [v] := by
    rw [iupFor, List.filterMap_append]
    simp [iupFor]
  show (s.ch c).iup (iupFor c (s.out ++ [.iupPf c v.i v.v v.p])) = _
  rw [hsent]
  rfl

/-! ### The iterations of the loops -/

/-- An iteration of the report loop: nothing, or a change of the values that has gone again, or
the message. -/
theorem iup_publishIupPf (s : EnergyState b) (c : b.Chn) :
    let v := s.iup c
    (s.publishIupPf c).iup c = v ∨
      v.pending = some .delta ∧ (s.publishIupPf c).iup c = { v with pending := none } ∨
      (s.publishIupPf c).iup c =
        { v with reported := v.value, pending := none, sent := v.sent ++ [v.value.iup] } := by
  rw [publishIupPf]
  dsimp only
  split
  · next hdue =>
    have henable := (Bool.and_eq_true_iff.mp hdue).1
    split
    · next hback =>
      refine .inr (.inl ⟨?_, iup_iupReportDone⟩)
      rw [iup, EnergyChannel.iup, if_pos henable, hback.1]
    · refine .inr (.inr ?_)
      rw [iup_iupReportDone]
      refine (congrArg (fun v : IupChannel => { v with pending := none })
        (iup_send_self ((s.updateInputToReport c).iup c).reported.iup)).trans ?_
      rw [iup_updateInputToReport]
  · exact .inl rfl

/-- An iteration of the periodic loop: nothing, or a report that is asked for. -/
theorem iup_publishPeriodic (rand : b.Chn → Nat → Nat) (s : EnergyState b) (c : b.Chn) :
    (publishPeriodic rand s c).iup c = s.iup c ∨
      (publishPeriodic rand s c).iup c = { s.iup c with pending := some .periodic } := by
  rw [publishPeriodic]
  dsimp only
  generalize hs' : (if clockTimeExceed s.env.timeS (s.ch c).publishIup.updateLastTS
    (s.ch c).iupTLenS then _ else s) = s'
  have hcases : s'.iup c = s.iup c ∨ s'.iup c = { s.iup c with pending := some .periodic } := by
    rw [← hs']
    split
    · refine .inr ?_
      rw [iup_upd_same (by exact fun _ _ => rfl), iup_setupPublishIupPfDelay,
        if_neg fun h => absurd h.2 (by decide)]
    · exact .inl rfl
  split
  · rw [iup_upd_same (by exact fun _ _ => rfl), iup_setupPublishEnergyDelay]
    exact hcases
  · exact hcases

/-- The check of the values that have come in. -/
theorem iup_checkPublishAllParameter (rand : b.Chn → Nat → Nat) (s : EnergyState b) (c : b.Chn) :
    let v := if (s.iup c).force then (s.iup c).forced (s.changeWait rand c) else s.iup c
    let s' := s.checkPublishAllParameter rand c
    s'.iup c = v ∧ (v.pending = none → s'.iupIsNeedReportByDelta c = false) ∨
      v.pending = none ∧ s'.iup c = { v with pending := some .delta } := by
  dsimp only
  rw [checkPublishAllParameter]
  dsimp only
  generalize hs' : (if (s.ch c).forceReportIup = true then _ else s) = s'
  have hforced : s'.iup c =
      if (s.iup c).force then (s.iup c).forced (s.changeWait rand c) else s.iup c := by
    rw [← hs']
    show _ = if (s.ch c).forceReportIup = true then _ else _
    split
    · refine (iup_upd_self _).trans ?_
      show { ((s.setupPublishIupPfDelay c (s.changeWait rand c) .changeSt).updateInputToReport
        c).iup c with force := false } = (s.iup c).forced (s.changeWait rand c)
      rw [iup_updateInputToReport, iup_setupPublishIupPfDelay, IupChannel.forced]
      split
      · rfl
      · rfl
    · rfl
  rw [← hforced]
  have hpending : (s'.iup c).pending = none ↔ ¬ (s'.ch c).publishIup.enable = true := by
    rw [iup, EnergyChannel.iup]
    split
    · next h => exact iff_of_false (Option.some_ne_none _) (not_not_intro h)
    · next h => exact iff_of_true rfl h
  split
  · next henable => exact .inl ⟨rfl, fun h => absurd henable (hpending.mp h)⟩
  · next hnone =>
    split
    · refine .inr ⟨hpending.mpr hnone, ?_⟩
      rw [iup_setupPublishIupPfDelay, iup_upd_same (by exact fun _ _ => rfl),
        hpending.mpr hnone]
      exact if_neg fun h => Bool.false_ne_true h.1
    · next hneed => exact .inl ⟨rfl, fun _ => Bool.eq_false_iff.mpr hneed⟩

/-- An iteration of the measurement loop: the check, behind a round that is taken. -/
theorem iup_measurement (rand : b.Chn → Nat → Nat) (s : EnergyState b) (c : b.Chn) :
    let v := if (s.iup c).force then (s.iup c).forced (s.changeWait rand c) else s.iup c
    let v' := (measurement rand s c).iup c
    if s.RoundTaken c then
      v' = v ∧ (v.pending = none → v'.reported.Measurable → v'.value.Measurable →
        Near (s.relayKnownOn c) v'.reported v'.value) ∨
      v.pending = none ∧ v' = { v with pending := some .delta }
    else v' = s.iup c := by
  dsimp only
  rw [measurement]
  dsimp only
  by_cases hexceed : clockTimeExceed s.env.timeMs (s.ch c).queryTStart 2000 = true
  · -- the next round begins, and nothing of this one is left
    rw [if_pos hexceed, if_neg fun h : s.RoundTaken c =>
      Bool.false_ne_true (h.1.symm.trans hexceed)]
    rw [if_neg (by simp [send]), iup_upd_same (by exact fun _ _ => rfl), iup_send rfl,
      iup_upd_same (by exact fun _ _ => rfl)]
  · rw [if_neg hexceed]
    by_cases hflags : (s.ch c).updatedFlag = ⟨true, true, true, true⟩
    · rw [if_pos hflags, if_pos ⟨Bool.eq_false_iff.mpr hexceed, hflags⟩, iup_calculatorKwh]
      generalize hs' : (s.upd c fun e => { e with
        updatedFlag := ⟨false, false, false, false⟩ }) = s'
      have hsame : s'.iup = s.iup := by
        rw [← hs']
        exact iup_upd_same fun _ _ => rfl
      have henv : s'.env = s.env := by rw [← hs', upd_env]
      have hwait : s'.changeWait rand c = s.changeWait rand c := by
        rw [changeWait, ← hs', upd_ch_self]
        rfl
      rcases s'.iup_checkPublishAllParameter rand c with ⟨hv, hneed⟩ | h
      · rw [hsame, hwait] at hv hneed
        refine .inl ⟨hv, fun hnone hr hm => ?_⟩
        have hnear := near_of_not_need _ c hr hm (hneed hnone)
        rwa [relayKnownOn, ((Local.refl c s').checkPublishAllParameter rand).env, henv] at hnear
      · rw [hsame, hwait] at h
        exact .inr h
    · rw [if_neg hflags, if_neg fun h : s.RoundTaken c => hflags h.2]

/-! ### The loops -/

theorem iup_publishIupPf_other (h : i ≠ c) : (s.publishIupPf c).iup i = s.iup i := by
  have hout : ∀ x y z, iupFor i [.iupPf c x y z] = [] := by
    intro x y z
    simp [iupFor, Fin.val_ne_of_ne (Ne.symm h)]
  rw [publishIupPf]
  dsimp only
  split
  · split
    · exact iup_upd_other _ h
    · rw [iupReportDone, iup_upd_other _ h, iup_send (hout ..), updateInputToReport,
        iup_upd_other _ h]
  · rfl

theorem iup_publishPeriodic_other (rand : b.Chn → Nat → Nat) (h : i ≠ c) :
    (publishPeriodic rand s c).iup i = s.iup i := by
  rw [publishPeriodic]
  dsimp only
  generalize hs' : (if clockTimeExceed s.env.timeS (s.ch c).publishIup.updateLastTS
    (s.ch c).iupTLenS then _ else s) = s'
  have hsame : s'.iup i = s.iup i := by
    rw [← hs']
    split
    · rw [iup_upd_other _ h, setupPublishIupPfDelay, iup_upd_other _ h]
    · rfl
  split
  · rw [iup_upd_other _ h, iup_setupPublishEnergyDelay]
    exact hsame
  · exact hsame

theorem iup_measurement_other (rand : b.Chn → Nat → Nat) (h : i ≠ c) :
    (measurement rand s c).iup i = s.iup i := by
  have hcheck : ∀ s : EnergyState b, (s.checkPublishAllParameter rand c).iup i = s.iup i := by
    intro s
    rw [checkPublishAllParameter]
    dsimp only
    generalize hs' : (if (s.ch c).forceReportIup = true then _ else s) = s'
    have hsame : s'.iup i = s.iup i := by
      rw [← hs']
      split
      · rw [iup_upd_other _ h, updateInputToReport, iup_upd_other _ h, setupPublishIupPfDelay,
          iup_upd_other _ h]
      · rfl
    split
    · exact hsame
    · split
      · rw [setupPublishIupPfDelay, iup_upd_other _ h, iup_upd_other _ h]
        exact hsame
      · exact hsame
  rw [measurement]
  dsimp only
  generalize hs' : (if clockTimeExceed s.env.timeMs (s.ch c).queryTStart 2000 = true then _
    else s) = s'
  have hsame : s'.iup i = s.iup i := by
    rw [← hs']
    split
    · rw [iup_upd_other _ h, iup_send rfl, iup_upd_other _ h]
    · rfl
  split
  · rw [iup_calculatorKwh, hcheck, iup_upd_other _ h]
    exact hsame
  · exact hsame

/-- **Loop lemma**: a loop does to a channel what the iteration of the channel does. -/
theorem loop_iup {body : EnergyState b → b.Chn → EnergyState b}
    (hbody : ∀ s c, Local c s (body s c))
    (hother : ∀ {s : EnergyState b} {c i : b.Chn}, i ≠ c → (body s c).iup i = s.iup i)
    {Q : IupChannel → Prop} (hself : ∀ s', s'.ch c = s.ch c → s'.env = s.env →
      s'.iup c = s.iup c → Q ((body s' c).iup c)) :
    Q ((runFrom body s b.chns).iup c) := by
  refine runFrom_once (P := fun s' : EnergyState b =>
      s'.ch c = s.ch c ∧ s'.env = s.env ∧ s'.iup c = s.iup c)
    (Q := fun s' : EnergyState b => Q (s'.iup c)) ?_ ?_ ?_ b.nodup_chns (b.mem_chns c)
    ⟨rfl, rfl, rfl⟩
  · rintro s' j hj ⟨hch, henv, hiup⟩
    exact ⟨((hbody s' j).ch c (Ne.symm hj)).trans hch, (hbody s' j).env.trans henv,
      (hother (Ne.symm hj)).trans hiup⟩
  · rintro s' ⟨hch, henv, hiup⟩
    exact hself s' hch henv hiup
  · intro s' j hj h
    rw [hother (Ne.symm hj)]
    exact h

/-! ### The other calls -/

theorem iup_onIdx {f : b.Chn → EnergyState b} {Q : IupChannel → Prop} (hkeep : Q (s.iup i))
    (hf : ∀ c, Q ((f c).iup i)) (idx : Nat) : Q ((s.onIdx idx f).iup i) := by
  rw [onIdx]
  split
  · exact hf _
  · exact hkeep

/-- A value that comes in. -/
theorem iup_handleMeasurementComplete (idx : Nat) {mType : MType} {value : ℚ}
    (hvalue : mType ≠ .activeEnergy → Reading.measurable value)
    (h : (s.iup i).value.Measurable) :
    ∃ r : Reading, r.Measurable ∧
      (s.handleMeasurementComplete idx mType value).iup i = { s.iup i with value := r } := by
  have hzero : Reading.measurable 0 := ⟨le_refl 0, by norm_num⟩
  have hpart : ∀ {p : Prop} [Decidable p], Reading.measurable value →
      Reading.measurable (if p then 0 else value) := by
    intro p _ hm
    split
    · exact hzero
    · exact hm
  -- a channel takes the value in, or keeps what it has
  have hupd : ∀ (c : b.Chn) (f : EnergyChannel → EnergyChannel) (g : Reading → Reading),
      (∀ e sent, (f e).iup sent = { e.iup sent with value := g e.value.reading }) →
      (g (s.iup i).value).Measurable →
      ∃ r : Reading, r.Measurable ∧ (s.upd c f).iup i = { s.iup i with value := r } := by
    intro c f g hf hg
    by_cases hi : i = c
    · rw [hi] at hg ⊢
      refine ⟨_, hg, ?_⟩
      rw [iup_upd_self, hf]
      rfl
    · exact ⟨_, h, iup_upd_other f hi⟩
  rw [handleMeasurementComplete]
  refine iup_onIdx (Q := fun v => ∃ r : Reading, r.Measurable ∧ v = { s.iup i with value := r })
    ⟨_, h, rfl⟩ (fun c => ?_) idx
  cases mType with
  | current =>
    have hm := hvalue (by decide)
    exact hupd c _ (fun r => { r with iRms := if value ≤ 10 then 0 else value })
      (fun _ _ => rfl) ⟨hpart hm, h.vRms, h.activePower⟩
  | voltage =>
    have hm := hvalue (by decide)
    dsimp only
    split
    · exact ⟨_, h, rfl⟩
    · refine ⟨⟨(s.iup i).value.iRms, value, (s.iup i).value.activePower⟩,
        ⟨h.iRms, hm, h.activePower⟩, ?_⟩
      split
      · exact iup_send rfl
      · rfl
  | activePower =>
    have hm := hvalue (by decide)
    have hpower : Reading.measurable
        (if value ≤ 500 ∧ (s.iup i).value.iRms = 0 then 0 else value) := hpart hm
    exact hupd c _ (fun r => { r with
      activePower := if value ≤ 500 ∧ r.iRms = 0 then 0 else value })
      (fun _ _ => rfl) ⟨h.iRms, h.vRms, hpower⟩
  | activeEnergy => exact hupd c _ id (fun _ _ => rfl) h

theorem iup_handleRelayStateChange (idx : Nat) (st isFast : Bool) (rand : Nat) :
    ∃ force, (s.handleRelayStateChange idx st isFast rand).iup i =
      { s.iup i with force := force } := by
  refine iup_onIdx (Q := fun v => ∃ force, v = { s.iup i with force := force })
    ⟨_, rfl⟩ (fun c => ?_) idx
  have hforce : ∃ force, (s.upd c fun e => { e with
      forceReportIup := true, fastReportIup := isFast }).iup i =
      { s.iup i with force := force } := by
    by_cases hi : i = c
    · rw [hi]
      exact ⟨true, iup_upd_self _⟩
    · exact ⟨_, iup_upd_other _ hi⟩
  dsimp only
  split
  · split
    · rw [iup_setupPublishEnergyDelay, iup_upd_same (by exact fun _ _ => rfl)]
      exact hforce
    · rw [iup_upd_same (by exact fun _ _ => rfl)]
      exact hforce
  · exact hforce

theorem iup_handle_energy {ev : EnergyEvent b} (h : ev.EnergyOnly) :
    (s.handle ev).iup i = s.iup i := by
  have hcf : ∀ idx, (s.handleCfCntScaleOverflow idx).iup i = s.iup i := fun idx =>
    iup_onIdx (Q := fun v => v = s.iup i) rfl (fun c => by
      rw [iup_upd_same (by exact fun _ _ => rfl)]) idx
  cases ev with
  | cfOverflow idx report =>
    cases report with
    | none => exact hcf idx
    | some v =>
      refine Eq.trans ?_ (hcf idx)
      refine iup_onIdx (Q := fun w => w = (s.handleCfCntScaleOverflow idx).iup i) rfl
        (fun c => ?_) idx
      rw [iup_upd_same (by exact fun _ _ => rfl)]
  | publishActiveEnergyDelayProc => exact congrFun iup_publishActiveEnergyDelayProc i
  | queryActiveEnergy idx =>
    exact iup_onIdx (Q := fun v => v = s.iup i) rfl
      (fun c => by rw [iup_setupPublishEnergyDelay]) idx
  | delete idx =>
    refine iup_onIdx (Q := fun v => v = s.iup i) rfl (fun c => ?_) idx
    rw [iup_setupPublishEnergyDelay, iup_storeActivePower, iup_upd_same (by exact fun _ _ => rfl)]
  | store => rfl
  | clean => rfl
  | environment env => rfl
  | _ => exact h.elim

end EnergyState

/-! ## What the gateway knows -/

/-- The gateway, that knew `t`, has been told what the code takes as reported, or will be told;
and the values are a meter's. -/
structure IupChannel.Agrees (v : IupChannel) (t : Iup) : Prop where
  value : v.value.Measurable
  reported : v.reported.Measurable
  told : (∃ src, v.pending = some src ∧ src ≠ .delta) ∨ v.sent.getLastD t = v.reported.iup

namespace IupChannel.Agrees

variable {v : IupChannel} {t : Iup} (h : v.Agrees t)
include h

theorem ask {src : SourceReport} (hsrc : src ≠ .delta) : { v with pending := some src }.Agrees t :=
  ⟨h.value, h.reported, .inl ⟨src, rfl, hsrc⟩⟩

theorem askDelta (hnone : v.pending = none) : { v with pending := some .delta }.Agrees t where
  value := h.value
  reported := h.reported
  told := by
    rcases h.told with ⟨src, hsrc, -⟩ | htold
    · exact nomatch hnone.symm.trans hsrc
    · exact .inr htold

theorem drop (hdelta : v.pending = some .delta) : { v with pending := none }.Agrees t where
  value := h.value
  reported := h.reported
  told := by
    rcases h.told with ⟨src, hsrc, hne⟩ | htold
    · exact absurd (Option.some.inj (hsrc.symm.trans hdelta)) hne
    · exact .inr htold

theorem tell : { v with
    reported := v.value, pending := none, sent := v.sent ++ [v.value.iup] }.Agrees t where
  value := h.value
  reported := h.value
  told := .inr (by rw [List.getLastD_concat])

/-- A report of a change of the relay that does not come to one of a change of the values. -/
theorem forced {wait : UInt32} (hwait : v.pending = some .delta → wait ≤ 6000) :
    (v.forced wait).Agrees t where
  value := by
    rw [IupChannel.forced]
    split
    · exact h.value
    · exact h.value
  reported := h.value
  told := by
    refine .inl ?_
    rw [IupChannel.forced]
    split
    · next hlong =>
      obtain ⟨src, hsrc⟩ := Option.isSome_iff_exists.mp hlong.1
      refine ⟨src, hsrc, fun hdelta => ?_⟩
      rw [hdelta] at hsrc
      exact absurd (hwait hsrc) (UInt32.not_le.mpr hlong.2)
    · exact ⟨.changeSt, rfl, by decide⟩

end IupChannel.Agrees

namespace Picture

variable {r : Picture b}

/-- The channels, before anything is sent. -/
def Inv (r : Picture b) : Prop := ∀ c, (r.start.iup c).Agrees (r.told c)

theorem measurable_zero : (⟨0, 0, 0⟩ : Reading).Measurable :=
  have h : Reading.measurable 0 := ⟨le_refl 0, by norm_num⟩
  ⟨h, h, h⟩

/-- Behind `energy_init` nothing is pending, and nothing is reported. -/
theorem agrees_energyInit (rand : b.Chn → Nat → Nat) (s : EnergyState b) (c : b.Chn)
    (hout : s.out = []) : ((s.energyInit rand).iup c).Agrees nothing where
  value := measurable_zero
  reported := measurable_zero
  told := by
    refine .inr ?_
    have hnothing : nothing = Reading.iup ⟨0, 0, 0⟩ := by decide +kernel
    show (iupFor c s.out).getLastD nothing = Reading.iup ⟨0, 0, 0⟩
    rw [hout]
    exact hnothing

/-- A pass of the measurement loop: the channel goes on agreeing, and behind a round that is taken
the values are near, or a report is pending. -/
theorem Inv.measured (h : r.Inv) {rand : b.Chn → Nat → Nat} (hok : r.Kept (.measurementProc rand))
    (c : b.Chn) :
    let v := (r.start.measurementProc rand).iup c
    v.Agrees (r.told c) ∧ (r.dev.RoundTaken c → v.pending = none →
      Near (r.dev.relayKnownOn c) v.reported v.value) := by
  have hc := h c
  refine EnergyState.loop_iup (Q := fun v => v.Agrees (r.told c) ∧ (r.dev.RoundTaken c →
      v.pending = none → Near (r.dev.relayKnownOn c) v.reported v.value))
    (EnergyState.local_measurement rand) (EnergyState.iup_measurement_other rand)
    fun s' hch henv hiup => ?_
  have htaken : s'.RoundTaken c ↔ r.dev.RoundTaken c := by
    rw [EnergyState.RoundTaken, EnergyState.RoundTaken, hch, henv]
    rfl
  have hknown : s'.relayKnownOn c = r.dev.relayKnownOn c := by
    rw [EnergyState.relayKnownOn, EnergyState.relayKnownOn, henv]
    rfl
  have hwait : s'.changeWait rand c = r.dev.changeWait rand c := by
    rw [EnergyState.changeWait, EnergyState.changeWait, hch]
    rfl
  have hmeasured := s'.iup_measurement rand c
  dsimp only at hmeasured
  rw [hiup, hwait, hknown] at hmeasured
  by_cases hround : s'.RoundTaken c
  · rw [if_pos hround] at hmeasured
    have hforced : (if (r.start.iup c).force then
        (r.start.iup c).forced (r.dev.changeWait rand c) else r.start.iup c).Agrees
        (r.told c) := by
      split
      · next hforce => exact hc.forced (hok c (htaken.mp hround) hforce)
      · exact hc
    rcases hmeasured with ⟨hsame, hnear⟩ | ⟨hnone, hdelta⟩
    · rw [hsame] at hnear ⊢
      exact ⟨hforced, fun _ hnone => hnear hnone hforced.reported hforced.value⟩
    · rw [hdelta]
      exact ⟨hforced.askDelta hnone, fun _ hsome => nomatch hsome⟩
  · rw [if_neg hround] at hmeasured
    rw [hmeasured]
    exact ⟨hc, fun h => absurd (htaken.mpr h) hround⟩

/-- **Step lemma** for a channel. -/
theorem Inv.agrees (h : r.Inv) {ev : EnergyEvent b} (hok : r.Kept ev) (c : b.Chn) :
    ((r.step ev).dev.iup c).Agrees (r.toldBase c ev) := by
  have hc := h c
  have hsame : ∀ ev : EnergyEvent b, ev.EnergyOnly →
      ((r.start.handle ev).iup c).Agrees (r.told c) := by
    intro ev henergy
    rw [EnergyState.iup_handle_energy henergy]
    exact hc
  cases ev with
  | measurement idx mType value =>
    obtain ⟨x, hx, hiup⟩ := EnergyState.iup_handleMeasurementComplete (s := r.start) idx hok
      hc.value
    show ((r.start.handleMeasurementComplete idx mType value).iup c).Agrees _
    rw [hiup]
    exact ⟨hx, hc.reported, hc.told⟩
  | relayStateChange idx st isFast rand =>
    obtain ⟨force, hiup⟩ := EnergyState.iup_handleRelayStateChange (s := r.start) (i := c) idx st
      isFast rand
    show ((r.start.handleRelayStateChange idx st isFast rand).iup c).Agrees _
    rw [hiup]
    exact ⟨hc.value, hc.reported, hc.told⟩
  | publishIupPfDelayProc =>
    refine EnergyState.loop_iup (Q := fun v => v.Agrees (r.told c)) EnergyState.local_publishIupPf
      EnergyState.iup_publishIupPf_other fun s' _ _ hiup => ?_
    rw [← hiup] at hc
    rcases s'.iup_publishIupPf c with hsame | ⟨hdelta, hdrop⟩ | htell
    · rw [hsame]
      exact hc
    · rw [hdrop]
      exact hc.drop hdelta
    · rw [htell]
      exact hc.tell
  | publishPeriodicProc rand =>
    refine EnergyState.loop_iup (Q := fun v => v.Agrees (r.told c))
      (EnergyState.local_publishPeriodic rand) (EnergyState.iup_publishPeriodic_other rand)
      fun s' _ _ hiup => ?_
    rw [← hiup] at hc
    rcases s'.iup_publishPeriodic rand c with hsame | hask
    · rw [hsame]
      exact hc
    · rw [hask]
      exact hc.ask (by decide)
  | measurementProc rand => exact (h.measured hok c).1
  | reboot rand => exact agrees_energyInit rand _ c rfl
  | cfOverflow idx report => exact hsame (.cfOverflow idx report) trivial
  | publishActiveEnergyDelayProc => exact hsame .publishActiveEnergyDelayProc trivial
  | queryActiveEnergy idx => exact hsame (.queryActiveEnergy idx) trivial
  | store => exact hsame .store trivial
  | delete idx => exact hsame (.delete idx) trivial
  | clean => exact hsame .clean trivial
  | environment env => exact hsame (.environment env) trivial

theorem Inv.step (h : r.Inv) {ev : EnergyEvent b} (hok : r.Kept ev) : (r.step ev).Inv := by
  intro c
  have hagrees := h.agrees hok c
  exact ⟨hagrees.value, hagrees.reported, hagrees.told⟩

theorem inv_init (rand : b.Chn → Nat → Nat) (s : EnergyState b) : (init rand s).Inv := by
  intro c
  exact agrees_energyInit rand { s with out := [] } c rfl

theorem Inv.informed (h : r.Inv) {ev : EnergyEvent b} (hok : r.Kept ev) : r.Informed ev := by
  intro c v hnone
  have htold := (h.agrees hok c).told
  rcases htold with ⟨src, hsrc, -⟩ | htold
  · exact nomatch hnone.symm.trans hsrc
  · refine ⟨htold, ?_⟩
    rintro rand rfl htaken
    exact (h.measured hok c).2 htaken hnone

/-- **Every run** from `energy_init` in which no report of a change of the relay is lost: unless a
report is pending, the gateway has been told the current, the voltage and the power that the code
takes as reported; and behind a round of measurements they are near what has been measured. -/
theorem informed_of_kept (rand : b.Chn → Nat → Nat) (s : EnergyState b)
    (evs : List (EnergyEvent b)) (h : AllSteps step Kept (init rand s) evs) :
    AllSteps step Informed (init rand s) evs :=
  AllSteps.transport (I := Inv) (fun _ _ hr hok => hr.step hok)
    (fun _ _ hr hok => hr.informed hok) (inv_init rand s) h

/-- A round of measurements of relay 0 of two at `t`: the query, the four values, the check. -/
def roundAt (t : UInt32) (iRms activePower : ℚ) : List (EnergyEvent board2) :=
  let rand : board2.Chn → Nat → Nat := fun _ _ => 2000
  [.environment { quietEnv with timeMs := t, actualRelayOn := some fun _ => true },
    .measurementProc rand, .measurement 0 .current iRms, .measurement 0 .voltage 230000,
    .measurement 0 .activePower activePower, .measurement 0 .activeEnergy 0,
    .measurementProc rand]

/-- The relay is switched on, and the report is sent; then the load grows. -/
def switchedOn : List (EnergyEvent board2) :=
  [.relayStateChange 0 true true 0] ++ roundAt 3000 400 90000 ++
    [.environment { quietEnv with timeMs := 10000 }, .publishIupPfDelayProc] ++
    roundAt 20000 600 140000

/-- The module before its first boot. -/
def unbooted : EnergyState board2 :=
  ⟨fun _ => EnergyState.ramCleared, ⟨0, fun _ => erasedByte⟩, quietEnv, []⟩

theorem informed_of_kept_switchedOn : AllSteps step Informed (init noRand unbooted) switchedOn :=
  informed_of_kept noRand unbooted switchedOn (by decide +kernel)

/-- The relay is switched off while the report of the growth waits. -/
def switchedOffWhilePending : List (EnergyEvent board2) :=
  switchedOn ++ [.relayStateChange 0 false false 0] ++ roundAt 30000 0 0 ++
    [.environment { quietEnv with timeMs := 90000 }, .publishIupPfDelayProc]

/-- That it is off is not reported then: nothing is pending, and the gateway goes on with the 90
watts that it has been told. -/
theorem lost_switchedOffWhilePending :
    let r := runFrom step (init noRand unbooted) switchedOffWhilePending
    (r.dev.iup ⟨0, by decide⟩).pending = none ∧
      (r.dev.iup ⟨0, by decide⟩).value = ⟨0, 230000, 0⟩ ∧
      r.told ⟨0, by decide⟩ = ⟨400, 2300, 90000⟩ := by
  decide +kernel

end Picture

end LumesSwitch
