import LumesSwitch.Button.Scan

/-!
# Press traces

The handlers of the button events rely on presses being closed: a START_PRESS, holds
of growing length, one RELEASE.

- `PressPhase.next` — reads a trace event by event, and stops where it is ill formed;
- `OptButtonParams.Good` — the scanner's state agrees with the phase of the trace;
- `Scanner.wellFormed_of_sampleOk` — the scanner emits well-formed traces as long as
  the reads of a scan agree where it matters;
- `Scanner.firstScan_illFormed` — it does not in general: the first idle scan after
  `option_button_init` reports a release.
-/

namespace LumesSwitch

open Runs

/-- Where a well-formed trace stands: outside a press, or in one whose holds from
number `n` on are still to come. -/
inductive PressPhase where
  | idle
  | pressed (n : Nat)
  deriving DecidableEq, Repr

namespace PressPhase

/-- The number of a hold event, in the order of the holds. -/
def holdNumber : ButtonState → Option Nat
  | .hold50MS => some 0
  | .hold500MS => some 1
  | .hold2S => some 2
  | .hold5S => some 3
  | .hold10S => some 4
  | .hold15S => some 5
  | _ => none

/-- The events that count presses. -/
def isPressTimes : ButtonState → Bool
  | .pressOneTime | .pressTwoTime | .pressThreeTime | .pressFourTime | .pressFiveTime
  | .pressSixTime | .pressEightTime | .pressTenTime | .pressTwelveTime => true
  | _ => false

/-- Take one event of a well-formed trace: START_PRESS and NO_PRESS outside a press,
RELEASE and the holds, in order and once each, in one, the counts anywhere. -/
def next (phase : PressPhase) (e : ButtonState) : Option PressPhase :=
  if isPressTimes e then some phase
  else
    match phase with
    | .idle =>
      if e = .startPress then some (.pressed 0) else if e = .noPress then some .idle else none
    | .pressed n =>
      if e = .release then some .idle
      else
        match holdNumber e with
        | some k => if n ≤ k then some (.pressed (k + 1)) else none
        | none => none

/-- The phase behind a trace, if it is well formed. -/
def after (phase : PressPhase) (evts : List ButtonState) : Option PressPhase :=
  evts.foldlM next phase

theorem after_append (phase : PressPhase) (xs ys : List ButtonState) :
    phase.after (xs ++ ys) = (phase.after xs).bind fun p => p.after ys :=
  List.foldlM_append

theorem after_singleton (phase : PressPhase) (e : ButtonState) :
    phase.after [e] = phase.next e := by
  simp [after]

end PressPhase

/-- A trace of one button is well formed. -/
def WellFormed (evts : List ButtonState) : Prop := (PressPhase.idle.after evts).isSome = true

instance (evts : List ButtonState) : Decidable (WellFormed evts) :=
  inferInstanceAs (Decidable (_ = true))

/-- Whether a press is open behind an event. -/
def openStep (o : Bool) (e : ButtonState) : Bool :=
  if e = .startPress then true else if e = .release then false else o

/-- A press is open behind a trace: its last START_PRESS has no RELEASE yet. -/
def pressOpen (evts : List ButtonState) : Bool := evts.foldl openStep false

/-! ## The scanner's state and the phase -/

namespace OptButtonParams

/-- The holds before number `n` have been reported at hold step `step`. -/
def HoldReached (n : Nat) (step : UInt8) : Prop :=
  n = 0 ∨ n ≤ 6 ∧ n + 1 ≤ step.toNat ∧ step ≠ 0xFF

/-- Outside a press the remembered level is RELEASE; in a press it is PRESS, or the
hold step tells the next idle scan to report the release. -/
def Good (p : OptButtonParams) : PressPhase → Prop
  | .idle => p.prevState = .release ∧ (p.holdStep = 0xFF ∨ p.holdStep = 0)
  | .pressed n => (p.prevState = .press ∨ p.holdStep ≠ 0xFF) ∧ HoldReached n p.holdStep

/-- The reads of a scan agree where it matters. `isOpen` says whether a press is open:
a press is reported only outside a press, and the level remembered behind the scan
is the one the scan has acted on, unless the hold step makes up for it. -/
def sampleOk (p : OptButtonParams) (isOpen : Bool) (x : PinSamples) : Bool :=
  match p.prevState, x.first, x.second with
  | .release, .press, _ =>
    if x.checkOptionButtonPress then
      isOpen = false ∧ (x.last = .press ∨ p.holdStep ≠ 0xFF)
    else isOpen = false → x.last = .release
  | .release, .release, .press => isOpen = false → x.last = .release
  | .release, .release, .release =>
    (p.holdStep ≠ 0xFF → isOpen = true) ∧ x.last = .release
  | .press, .press, _ => true
  | .press, .release, .press => x.last = .press ∨ p.holdStep ≠ 0xFF
  | .press, .release, .release => x.last = .release

/-- A press count changes neither the hold step nor the phase. -/
theorem optionButtonPressTimes_spec (p : OptButtonParams) (now : UInt32) :
    (p.optionButtonPressTimes now).1.holdStep = p.holdStep ∧
      ∀ phase, PressPhase.after phase (p.optionButtonPressTimes now).2 = some phase := by
  have hevent : ∀ (cnt : UInt8) (phase : PressPhase),
      phase.after (pressEvent cnt).toList = some phase := by
    intro cnt phase
    rw [pressEvent]
    repeat' split
    all_goals rfl
  rw [optionButtonPressTimes]
  split
  · refine ⟨rfl, fun phase => ?_⟩
    dsimp only
    split
    · rfl
    · exact hevent _ phase
  · exact ⟨rfl, fun _ => rfl⟩

/-- The scan of a button at rest closes an open press, and reports nothing else. -/
theorem rest_spec (p : OptButtonParams) (now : UInt32) :
    (p.rest now).1.holdStep = 0xFF ∧
      ∀ phase, PressPhase.after phase (p.rest now).2 =
        phase.next (if p.holdStep < 0xFF then .release else .noPress) := by
  obtain ⟨hstep, hafter⟩ := p.optionButtonPressTimes_spec now
  refine ⟨rfl, fun phase => ?_⟩
  show PressPhase.after phase ((p.optionButtonPressTimes now).2 ++
    [if (p.optionButtonPressTimes now).1.holdStep < 0xFF then .release else .noPress]) = _
  rw [hstep, PressPhase.after_append, hafter phase, Option.bind_some,
    PressPhase.after_singleton]

/-- The hold that a step reports has the number of the step, less one. -/
theorem holdEvent_spec {step : UInt8} {limit : UInt32} {evt : ButtonState}
    (h : holdEvent step = some (limit, evt)) :
    step.toNat ≤ 6 ∧ PressPhase.isPressTimes evt = false ∧ evt ≠ .release ∧
      ∃ k, PressPhase.holdNumber evt = some k ∧ step.toNat = k + 1 := by
  rw [holdEvent] at h
  repeat' split at h
  all_goals
    first
    | (obtain ⟨rfl, rfl⟩ := Prod.mk.inj (Option.some.inj h)
       next hs => subst hs; exact ⟨by decide, rfl, by decide, _, rfl, rfl⟩)
    | cases h

/-- A hold scan starts from a hold step that is not the mark of no hold, and forgets
no hold reported before. -/
theorem holdStart_spec (p : OptButtonParams) (now : UInt32) {n : Nat}
    (h : HoldReached n p.holdStep) :
    (p.holdStart now).holdStep ≠ 0xFF ∧ HoldReached n (p.holdStart now).holdStep := by
  have hne : (0xFE : UInt8) ≠ 0xFF ∧ (0 : UInt8) ≠ 0xFF := by decide
  have herror : HoldReached n 0xFE := by
    rcases h with h | ⟨hn, -, -⟩
    · exact Or.inl h
    · refine Or.inr ⟨hn, ?_, hne.1⟩
      show n + 1 ≤ 254
      omega
  rw [holdStart]
  dsimp only
  by_cases hmark : p.holdStep = 0xFF
  · have hzero : n = 0 := by
      rcases h with h | ⟨-, -, h⟩
      · exact h
      · exact absurd hmark h
    rw [if_pos hmark]
    split
    · exact ⟨hne.1, herror⟩
    · exact ⟨hne.2, Or.inl hzero⟩
  · rw [if_neg hmark]
    split
    · exact ⟨hne.1, herror⟩
    · exact ⟨hmark, h⟩

/-- A hold scan in a press reports a hold that is still to come, or nothing. -/
theorem hold_spec (p : OptButtonParams) (now : UInt32) {n : Nat}
    (h : HoldReached n p.holdStep) :
    ∃ n', PressPhase.after (.pressed n) (p.hold now).2 = some (.pressed n') ∧
      (p.hold now).1.holdStep ≠ 0xFF ∧ HoldReached n' (p.hold now).1.holdStep := by
  obtain ⟨hmark, hreached⟩ := p.holdStart_spec now h
  unfold hold
  generalize p.holdStart now = q at hmark hreached
  dsimp only
  split
  · next hzero =>
    have hn : n = 0 := by
      rcases hreached with hr | ⟨-, hr, -⟩
      · exact hr
      · rw [hzero] at hr
        exact absurd hr (Nat.not_succ_le_zero n)
    refine ⟨n, rfl, ?_⟩
    split
    · exact ⟨fun hx => absurd hx (show ¬ (1 : UInt8) = 0xFF by decide), Or.inl hn⟩
    · exact ⟨hmark, Or.inl hn⟩
  · split
    · exact ⟨n, rfl, hmark, hreached⟩
    · next limit evt hevt =>
      obtain ⟨hle, htimes, hrel, k, hk, hstep⟩ := holdEvent_spec hevt
      have hnk : n ≤ k := by
        rcases hreached with hr | ⟨-, hr, -⟩
        · omega
        · omega
      have hnext : (q.holdStep + 1).toNat = q.holdStep.toNat + 1 := by
        have hone : (1 : UInt8).toNat = 1 := rfl
        rw [UInt8.toNat_add, hone]
        exact Nat.mod_eq_of_lt (by omega)
      have hmark' : q.holdStep + 1 ≠ 0xFF := by
        intro hx
        have hval := congrArg UInt8.toNat hx
        rw [hnext] at hval
        change q.holdStep.toNat + 1 = 255 at hval
        omega
      split
      · -- the hold is reported, and the step goes on to the next one
        refine ⟨k + 1, ?_, hmark', Or.inr ⟨by omega, ?_, hmark'⟩⟩
        · rw [PressPhase.after_singleton, PressPhase.next, if_neg (by simp [htimes])]
          show (if evt = .release then some PressPhase.idle else _) = _
          rw [if_neg hrel, hk]
          exact if_pos hnk
        · rw [hnext]
          omega
      · exact ⟨n, rfl, hmark, hreached⟩

/-- The phase of a good state whose remembered level is RELEASE. -/
theorem Good.release_cases {p : OptButtonParams} {phase : PressPhase} (h : p.Good phase)
    (hprev : p.prevState = .release) :
    phase = .idle ∧ (p.holdStep = 0xFF ∨ p.holdStep = 0) ∨
    ∃ n, phase = .pressed n ∧ p.holdStep ≠ 0xFF ∧ HoldReached n p.holdStep := by
  cases phase with
  | idle => exact Or.inl ⟨rfl, h.2⟩
  | pressed n =>
    obtain ⟨hopen, hreached⟩ := h
    rcases hopen with hp | hstep
    · rw [hprev] at hp
      cases hp
    · exact Or.inr ⟨n, rfl, hstep, hreached⟩

/-- A good state whose remembered level is PRESS is in a press. -/
theorem Good.press_cases {p : OptButtonParams} {phase : PressPhase} (h : p.Good phase)
    (hprev : p.prevState = .press) : ∃ n, phase = .pressed n ∧ HoldReached n p.holdStep := by
  cases phase with
  | idle =>
    rw [h.1] at hprev
    cases hprev
  | pressed n => exact ⟨n, rfl, h.2⟩

/-- A scan that acts on nothing keeps the phase. -/
theorem Good.skip {p : OptButtonParams} {phase : PressPhase} (h : p.Good phase)
    (hprev : p.prevState = .release) {l : PinLevel} (hl : phase = .idle → l = .release) :
    Good { p with prevState := l } phase := by
  rcases h.release_cases hprev with ⟨rfl, hstep⟩ | ⟨n, rfl, hstep, hreached⟩
  · exact ⟨hl rfl, hstep⟩
  · exact ⟨Or.inr hstep, hreached⟩

/-- **Step lemma**: a scan whose reads agree where it matters emits a well-formed piece
of the trace, and the state behind it agrees with the phase again. -/
theorem branch_spec (p : OptButtonParams) (x : PinSamples) (now : UInt32)
    {phase : PressPhase} (hgood : p.Good phase)
    (hok : p.sampleOk (decide (phase ≠ .idle)) x = true) :
    ∃ phase', phase.after (p.branch x now).2 = some phase' ∧
      Good { (p.branch x now).1 with prevState := x.last } phase' := by
  rw [branch]
  rw [sampleOk] at hok
  cases hprev : p.prevState with
  | release =>
    have hcases := hgood.release_cases hprev
    cases hfirst : x.first with
    | press =>
      simp only [hprev, hfirst] at hok ⊢
      by_cases hconf : x.checkOptionButtonPress = true
      · -- a new press
        rw [if_pos hconf] at hok
        rw [if_pos hconf]
        obtain ⟨hclosed, hlast⟩ := of_decide_eq_true hok
        have hidle : phase = .idle := by simpa using hclosed
        subst hidle
        rcases hcases with ⟨-, hstep⟩ | ⟨n, hn, -⟩
        · refine ⟨.pressed 0, rfl, ?_, Or.inl rfl⟩
          exact hlast
        · cases hn
      · rw [if_neg hconf] at hok
        rw [if_neg hconf]
        refine ⟨phase, rfl, hgood.skip hprev fun hidle => ?_⟩
        exact of_decide_eq_true hok (by simp [hidle])
    | release =>
      cases hsecond : x.second with
      | press =>
        simp only [hprev, hfirst, hsecond] at hok ⊢
        refine ⟨phase, rfl, hgood.skip hprev fun hidle => ?_⟩
        exact of_decide_eq_true hok (by simp [hidle])
      | release =>
        -- at rest: the release that is still due, or NO_PRESS
        simp only [hprev, hfirst, hsecond] at hok ⊢
        obtain ⟨hrel, hlast⟩ := of_decide_eq_true hok
        obtain ⟨hstep, hafter⟩ := p.rest_spec now
        refine ⟨.idle, ?_, hlast, Or.inl hstep⟩
        rw [hafter phase]
        rcases hcases with ⟨hidle, hs⟩ | ⟨n, hn, hs, -⟩
        · have hmark : p.holdStep = 0xFF := by
            by_contra hne
            have hopen := hrel hne
            simp [hidle] at hopen
          rw [hidle, hmark]
          rfl
        · have hlt : p.holdStep < 0xFF := by
            refine UInt8.lt_of_le_of_ne ?_ hs
            exact UInt8.le_iff_toNat_le.mpr (Nat.le_of_lt_succ p.holdStep.toNat_lt)
          rw [hn, if_pos hlt]
          rfl
  | press =>
    obtain ⟨n, rfl, hreached⟩ := hgood.press_cases hprev
    cases hfirst : x.first with
    | press =>
      simp only [hprev, hfirst] at hok ⊢
      obtain ⟨n', hafter, hmark, hreached'⟩ := p.hold_spec now hreached
      exact ⟨.pressed n', hafter, Or.inr hmark, hreached'⟩
    | release =>
      cases hsecond : x.second with
      | press =>
        simp only [hprev, hfirst, hsecond] at hok ⊢
        exact ⟨.pressed n, rfl, of_decide_eq_true hok, hreached⟩
      | release =>
        simp only [hprev, hfirst, hsecond] at hok ⊢
        exact ⟨.idle, rfl, of_decide_eq_true hok, Or.inl rfl⟩

end OptButtonParams

/-! ## Runs -/

namespace PressPhase

/-- An event opens and closes a press as it moves the phase. -/
theorem next_open {phase phase' : PressPhase} {e : ButtonState}
    (h : phase.next e = some phase') :
    decide (phase' ≠ .idle) = openStep (decide (phase ≠ .idle)) e := by
  unfold next at h
  rw [openStep]
  split at h
  · next htimes =>
    have hstart : e ≠ .startPress := by
      rintro rfl
      exact Bool.false_ne_true htimes
    have hrel : e ≠ .release := by
      rintro rfl
      exact Bool.false_ne_true htimes
    rw [if_neg hstart, if_neg hrel, Option.some.inj h]
  · cases phase with
    | idle =>
      dsimp only at h
      split at h
      · next hstart =>
        rw [if_pos hstart, ← Option.some.inj h]
        rfl
      · next hstart =>
        split at h
        · rw [if_neg hstart, ← Option.some.inj h]
          split <;> rfl
        · cases h
    | pressed n =>
      dsimp only at h
      split at h
      · next hrel =>
        rw [if_neg (by rw [hrel]; decide), if_pos hrel, ← Option.some.inj h]
        rfl
      · next hrel =>
        split at h
        · next k hk =>
          split at h
          · have hstart : e ≠ .startPress := by
              rintro rfl
              cases hk
            rw [if_neg hstart, if_neg hrel, ← Option.some.inj h]
            rfl
          · cases h
        · cases h

/-- A press is open behind a well-formed trace exactly when its phase is a press. -/
theorem after_open {phase phase' : PressPhase} {evts : List ButtonState}
    (h : phase.after evts = some phase') :
    evts.foldl openStep (decide (phase ≠ .idle)) = decide (phase' ≠ .idle) := by
  induction evts generalizing phase with
  | nil =>
    obtain rfl : phase = phase' := Option.some.inj h
    rfl
  | cons e evts ih =>
    obtain ⟨mid, hmid, hrest⟩ := Option.bind_eq_some_iff.mp h
    rw [List.foldl_cons, ← next_open hmid]
    exact ih hrest

end PressPhase

namespace Scanner

variable {b : Board}

/-- The reads of the scan of button `i`, when it is due, agree where it matters. -/
def SampleOk (i : b.Btn) (s : Scanner b) (x : ScanInput b) : Prop :=
  (s.btn i).due x.now = true →
    (s.btn i).params.sampleOk (pressOpen (s.eventsOf i)) (x.pins i) = true

instance (i : b.Btn) (s : Scanner b) (x : ScanInput b) : Decidable (SampleOk i s x) :=
  inferInstanceAs (Decidable (_ → _))

/-- The trace of button `i` so far is well formed, and the scanner's state agrees with
where it stands. -/
def InStep (s : Scanner b) (i : b.Btn) : Prop :=
  ∃ phase, PressPhase.idle.after (s.eventsOf i) = some phase ∧ (s.btn i).params.Good phase

/-- **Step lemma** for a scan of all buttons. -/
theorem InStep.optionButtonScan {s : Scanner b} {i : b.Btn} (h : s.InStep i) {x : ScanInput b}
    (hok : SampleOk i s x) : (s.optionButtonScan x).InStep i := by
  obtain ⟨phase, hafter, hgood⟩ := h
  obtain ⟨hbtn, hevents⟩ := Prod.mk.inj (s.optionButtonScan_view x i)
  rw [InStep, hbtn, hevents, PressPhase.after_append, hafter, Option.bind_some]
  rw [OptButton.scan]
  split
  · next hdue =>
    have hopen : pressOpen (s.eventsOf i) = decide (phase ≠ .idle) :=
      PressPhase.after_open hafter
    exact (s.btn i).params.branch_spec (x.pins i) x.now hgood (hopen ▸ hok hdue)
  · exact ⟨phase, rfl, hgood⟩

/-- **The scanner emits well-formed press traces.** In every run of scans from
`option_button_init` in which the reads of button `i` agree where it matters, its
events are presses with one START_PRESS, holds in order and one RELEASE each. -/
theorem wellFormed_of_sampleOk (i : b.Btn) (scans : List (ScanInput b))
    (hok : AllSteps Scanner.optionButtonScan (SampleOk i) (optionButtonInit b) scans) :
    WellFormed ((runFrom Scanner.optionButtonScan (optionButtonInit b) scans).eventsOf i) := by
  have hinit : (optionButtonInit b).InStep i := ⟨.idle, rfl, rfl, Or.inr rfl⟩
  obtain ⟨phase, hafter, -⟩ := AllSteps.invariant (I := fun s : Scanner b => s.InStep i)
    (fun _ _ hs h => hs.optionButtonScan h) hinit hok
  rw [WellFormed, hafter]
  rfl

/-- Reads that all find the same level. -/
def steadyPin (l : PinLevel) : PinSamples := ⟨l, l, l, fun _ => l, l⟩

/-- A press that is already on when the scanner starts, with its 50 ms hold, its
release, and a scan at rest. -/
def pressAtBoot : List (ScanInput board1) :=
  (List.range 12).map (fun j => ⟨UInt32.ofNat (100 + 10 * j), fun _ => steadyPin .press⟩) ++
    [⟨300, fun _ => steadyPin .release⟩, ⟨400, fun _ => steadyPin .release⟩]

theorem wellFormed_pressAtBoot :
    WellFormed ((runFrom Scanner.optionButtonScan (optionButtonInit board1)
      pressAtBoot).eventsOf ⟨0, by decide⟩) :=
  wellFormed_of_sampleOk ⟨0, by decide⟩ pressAtBoot (by decide +kernel)

/-- The first scan of a button at rest finds the hold step 0 of `option_button_init`, not
the mark of no hold, and reports a release without a press. -/
theorem firstScan_illFormed :
    ¬ ∀ (b : Board) (i : b.Btn) (scans : List (ScanInput b)),
      WellFormed ((runFrom Scanner.optionButtonScan (optionButtonInit b) scans).eventsOf i) := by
  intro h
  have hrun := h board1 ⟨0, by decide⟩ [⟨50, fun _ => steadyPin .release⟩]
  revert hrun
  decide +kernel

end Scanner

end LumesSwitch
