import LumesSwitch.Button.Gesture
import LumesSwitch.Button.Trace

/-!
# Whether a gesture can be completed

The gestures look at the last event of the other button of the pair only, and the
scanner goes on reporting: a longer hold while a button is down, NO_PRESS every 50 ms
when it is up. Whether the second release arms the reset depends on how many of these
came in between.

- `Pad` — the scanner and the switch that handles what it reports, scan by scan
  (`Pad.scanner_round`);
- `ResetGesture.SecondRelease` — the gesture as it is meant, told from the reports;
- `Timed.arms_of_stepOk` — it is armed where no report came in between.
-/

namespace LumesSwitch

open Runs

/-! ## The scanner and its handler -/

/-- The button scanner, and the switch. -/
structure Pad (b : Board) where
  scanner : Scanner b
  panel : Panel b

/-- What happens to them. Button events come from the scanner only. -/
inductive PadEvent (b : Board)
  /-- the scan of one button, with what its reads find -/
  | scan (i : b.Btn) (pins : PinSamples)
  | panel (ev : PanelEvent b) (hev : ∀ i evt, ev ≠ .btn i evt)

namespace Pad

variable {b : Board}

/-- The events that the scan of button `i` reports. -/
def reports (s : Pad b) (i : b.Btn) (pins : PinSamples) : List ButtonState :=
  ((s.scanner.btn i).scan pins s.panel.now).2

def step (s : Pad b) : PadEvent b → Pad b
  | .scan i pins =>
    { scanner := s.scanner.scanButton ⟨s.panel.now, fun _ => pins⟩ i
      panel := runFrom (fun p e => p.step (.btn i e)) s.panel (s.reports i pins) }
  | .panel ev _ => { s with panel := s.panel.step ev }

/-- The body of `option_button_scan`, button by button. -/
def round (pins : b.Btn → PinSamples) : List (PadEvent b) :=
  (List.finRange b.numberButton).map fun i => .scan i (pins i)

/-- The handler of a button event takes no time. -/
theorem now_btn (s : Panel b) (i : b.Btn) (evt : ButtonState) :
    (s.step (.btn i evt)).now = s.now := by
  cases hfact : s.dev.sh.factActive with
  | false => exact (s.option_step i evt hfact).now
  | true =>
    show (s.buttonHandleOptionBtnState i evt).now = s.now
    unfold Panel.buttonHandleOptionBtnState
    rw [hfact, if_pos rfl]
    rfl

/-- Scanned one by one, the buttons are scanned as `option_button_scan` does. -/
theorem scanner_round (s : Pad b) (pins : b.Btn → PinSamples) :
    (runFrom step s (round pins)).scanner = s.scanner.optionButtonScan ⟨s.panel.now, pins⟩ := by
  rw [round, Scanner.optionButtonScan]
  generalize List.finRange b.numberButton = is
  induction is generalizing s with
  | nil => rfl
  | cons i is ih =>
    have hnow : (s.step (.scan i (pins i))).panel.now = s.panel.now :=
      invariant_runFrom (I := fun p : Panel b => p.now = s.panel.now)
        (fun p e hp => (now_btn p i e).trans hp) rfl (s.reports i (pins i))
    rw [List.map_cons, runFrom_cons, ih, hnow]
    rfl

end Pad

/-! ## The gesture, as it is meant -/

/-- The press that is on has been reported as held for 5 s. -/
def heldPast {b : Board} {τ : Type} : List (BtnAct b τ) → b.Btn → Bool
  | [], _ => false
  | a :: h, i =>
    if a.btn = i then
      match a.evt with
      | .hold5S => true
      | .release | .startPress | .noPress => false
      | _ => heldPast h i
    else heldPast h i

namespace ResetGesture

variable {b : Board} (g : ResetGesture b)

/-- Since when both buttons have been held past HOLD_5S: since the later HOLD_5S, if
neither was released behind it. -/
def heldSince : List (BtnAct b Nat) → Option Nat
  | [] => none
  | a :: h =>
    if g.Mem a.btn then
      match a.evt with
      | .hold5S => if heldPast h (g.other a.btn) then some a.time else none
      | .release | .startPress => none
      | _ => heldSince h
    else heldSince h

/-- The button that was released no more than 2 s after both were held, with the other
one held still, and since when they were held. -/
def oneUp : List (BtnAct b Nat) → Option (b.Btn × Nat)
  | [] => none
  | a :: h =>
    if g.Mem a.btn then
      match a.evt with
      | .release => (g.heldSince h).bind fun t =>
        if a.time ≤ t + 2000 then some (a.btn, t) else none
      | .hold5S | .startPress => none
      | _ => oneUp h
    else oneUp h

/-- A release of button `v` at `now` is the second one of the gesture, in time. -/
def SecondRelease (v : b.Btn) (now : Nat) (h : List (BtnAct b Nat)) : Prop :=
  g.Mem v ∧ ∃ p ∈ g.oneUp h, p.1 = g.other v ∧ now ≤ p.2 + 2000

instance (v : b.Btn) (now : Nat) (h : List (BtnAct b Nat)) : Decidable (g.SecondRelease v now h) :=
  inferInstanceAs (Decidable (_ ∧ _))

/-- Since when the gesture has been going on: both buttons are held, or one of them. -/
def since (h : List (BtnAct b Nat)) : Option Nat :=
  (g.heldSince h).or ((g.oneUp h).map Prod.snd)

variable {g} {h : List (BtnAct b Nat)} {a : BtnAct b Nat}

/-- An event of another button, or one that the gesture does not wait for. -/
theorem since_cons (ha : g.Mem a.btn → a.evt ≠ .hold5S ∧ a.evt ≠ .release ∧ a.evt ≠ .startPress) :
    g.since (a :: h) = g.since h := by
  rw [since, since, heldSince, oneUp]
  by_cases hmem : g.Mem a.btn
  · obtain ⟨hhold, hrel, hstart⟩ := ha hmem
    rw [if_pos hmem, if_pos hmem]
    cases hevt : a.evt with
    | hold5S => exact absurd hevt hhold
    | release => exact absurd hevt hrel
    | startPress => exact absurd hevt hstart
    | _ => rfl
  · rw [if_neg hmem, if_neg hmem]

theorem since_startPress (hmem : g.Mem a.btn) (hevt : a.evt = .startPress) :
    g.since (a :: h) = none := by
  rw [since, heldSince, oneUp, if_pos hmem, if_pos hmem, hevt]
  rfl

/-- A HOLD_5S is the later one of a gesture if the other button is held. -/
theorem since_hold5S (hmem : g.Mem a.btn) (hevt : a.evt = .hold5S) {t : Nat}
    (hsince : g.since (a :: h) = some t) :
    heldPast h (g.other a.btn) = true ∧ a.time = t := by
  rw [since, heldSince, oneUp, if_pos hmem, if_pos hmem, hevt] at hsince
  dsimp only at hsince
  split at hsince
  · next hheld => exact ⟨hheld, Option.some.inj hsince⟩
  · cases hsince

/-- A RELEASE is the first one of a gesture if both buttons were held. -/
theorem since_release (hmem : g.Mem a.btn) (hevt : a.evt = .release) {t : Nat}
    (hsince : g.since (a :: h) = some t) : g.heldSince h = some t ∧ a.time ≤ t + 2000 := by
  rw [since, heldSince, oneUp, if_pos hmem, if_pos hmem, hevt] at hsince
  dsimp only at hsince
  cases hheld : g.heldSince h with
  | none =>
    rw [hheld] at hsince
    cases hsince
  | some t' =>
    rw [hheld, Option.bind_some] at hsince
    split at hsince
    · next htime =>
      obtain rfl : t' = t := Option.some.inj hsince
      exact ⟨rfl, htime⟩
    · cases hsince

/-- Once one button is up, not both are held. -/
theorem since_of_oneUp {p : b.Btn × Nat} (hup : g.oneUp h = some p) : g.since h = some p.2 := by
  have hnone : g.heldSince h = none := by
    induction h with
    | nil => cases hup
    | cons a h ih =>
      rw [oneUp] at hup
      rw [heldSince]
      by_cases hmem : g.Mem a.btn
      · rw [if_pos hmem] at hup ⊢
        cases hevt : a.evt with
        | hold5S =>
          rw [hevt] at hup
          cases hup
        | release | startPress => rfl
        | _ =>
          rw [hevt] at hup
          exact ih hup
      · rw [if_neg hmem] at hup ⊢
        exact ih hup
  rw [since, hnone, hup]
  rfl

theorem since_of_heldSince {t : Nat} (hheld : g.heldSince h = some t) : g.since h = some t := by
  rw [since, hheld]
  rfl

/-- The later HOLD_5S has a stamp. -/
theorem mem_of_heldSince {t : Nat} (hheld : g.heldSince h = some t) : ∃ a ∈ h, a.time = t := by
  induction h with
  | nil => cases hheld
  | cons a h ih =>
    have hrest : g.heldSince h = some t → ∃ x ∈ a :: h, x.time = t := by
      intro hheld
      obtain ⟨x, hx, htime⟩ := ih hheld
      exact ⟨x, List.mem_cons_of_mem a hx, htime⟩
    rw [heldSince] at hheld
    split at hheld
    · cases hevt : a.evt with
      | hold5S =>
        rw [hevt] at hheld
        dsimp only at hheld
        split at hheld
        · exact ⟨a, List.mem_cons_self, Option.some.inj hheld⟩
        · cases hheld
      | release | startPress =>
        rw [hevt] at hheld
        cases hheld
      | _ =>
        rw [hevt] at hheld
        exact hrest hheld
    · exact hrest hheld

theorem mem_of_since {t : Nat} (hsince : g.since h = some t) : ∃ a ∈ h, a.time = t := by
  induction h with
  | nil => cases hsince
  | cons a h ih =>
    have hrest : (∃ x ∈ h, x.time = t) → ∃ x ∈ a :: h, x.time = t :=
      fun ⟨x, hx, htime⟩ => ⟨x, List.mem_cons_of_mem a hx, htime⟩
    by_cases hmem : g.Mem a.btn
    · by_cases hhold : a.evt = .hold5S
      · exact ⟨a, List.mem_cons_self, (since_hold5S hmem hhold hsince).2⟩
      · by_cases hrel : a.evt = .release
        · exact hrest (mem_of_heldSince (since_release hmem hrel hsince).1)
        · by_cases hstart : a.evt = .startPress
          · rw [since_startPress hmem hstart] at hsince
            cases hsince
          · rw [since_cons fun _ => ⟨hhold, hrel, hstart⟩] at hsince
            exact hrest (ih hsince)
    · rw [since_cons fun hx => absurd hx hmem] at hsince
      exact hrest (ih hsince)

/-- A button that is held is not last seen released. -/
theorem lastEvt_of_heldPast {i : b.Btn} (hheld : heldPast h i = true) :
    lastEvt h i ≠ .release := by
  induction h with
  | nil => cases hheld
  | cons a h ih =>
    rw [heldPast] at hheld
    rw [lastEvt]
    by_cases hbtn : a.btn = i
    · rw [if_pos hbtn] at hheld ⊢
      intro hevt
      rw [hevt] at hheld
      cases hheld
    · rw [if_neg hbtn] at hheld ⊢
      exact ih hheld

/-- While both are held, neither is last seen released. -/
theorem lastEvt_of_heldSince {t : Nat} {i : b.Btn} (hi : g.Mem i)
    (hheld : g.heldSince h = some t) : lastEvt h i ≠ .release := by
  induction h with
  | nil => cases hheld
  | cons a h ih =>
    rw [heldSince] at hheld
    rw [lastEvt]
    by_cases hmem : g.Mem a.btn
    · rw [if_pos hmem] at hheld
      by_cases hrel : a.evt = .release
      · rw [hrel] at hheld
        cases hheld
      · by_cases hbtn : a.btn = i
        · rw [if_pos hbtn]
          exact hrel
        · rw [if_neg hbtn]
          have hother : i = g.other a.btn :=
            (g.eq_or_other hmem hi).resolve_left (Ne.symm hbtn)
          cases hevt : a.evt with
          | hold5S =>
            rw [hevt] at hheld
            dsimp only at hheld
            split at hheld
            · next hpast =>
              rw [hother]
              exact lastEvt_of_heldPast hpast
            · cases hheld
          | release => exact absurd hevt hrel
          | startPress =>
            rw [hevt] at hheld
            cases hheld
          | _ =>
            rw [hevt] at hheld
            exact ih hheld
    · rw [if_neg hmem] at hheld
      have hbtn : a.btn ≠ i := by
        rintro rfl
        exact hmem hi
      rw [if_neg hbtn]
      exact ih hheld

end ResetGesture

/-! ## The record -/

/-- The reset is armed. -/
def ParaBtnReset.Armed (p : ParaBtnReset) : Prop := p.isActive = true ∧ p.step = .hold5SRelease

instance (p : ParaBtnReset) : Decidable p.Armed := inferInstanceAs (Decidable (_ ∧ _))

/-- The record of the gesture that asks for a reset with, or without, the LED blinking. -/
def Panel.record {b : Board} (s : Panel b) : Bool → ParaBtnReset
  | true => s.paraBtnReset
  | false => s.paraBtnDefault

/-- An event of a button on either record. -/
theorem Panel.record_btn {b : Board} {s : Panel b} {i : b.Btn} {evt : ButtonState}
    (hnormal : s.dev.sh.factActive = false) (ledBlink : Bool) :
    (s.step (.btn i evt)).record ledBlink =
      (s.record ledBlink).next (gestureOf b ledBlink) s.now s.lastEvts i evt := by
  have hstep := s.option_step i evt hnormal
  cases ledBlink with
  | true => exact hstep.reset
  | false => exact hstep.default

/-! ## Runs -/

/-- The switch, the true time since boot, and the reports so far, the newest first. -/
structure Seen (b : Board) where
  panel : Panel b
  ms : Nat
  acts : List (BtnAct b Nat)

namespace Seen

variable {b : Board}

/-- A report of button `i`. -/
def btn (i : b.Btn) (w : Seen b) (evt : ButtonState) : Seen b :=
  ⟨w.panel.step (.btn i evt), w.ms, ⟨i, evt, w.ms⟩ :: w.acts⟩

/-- Anything else: time passes as the clock goes on. -/
def panelStep (w : Seen b) (ev : PanelEvent b) : Seen b :=
  { w with
    panel := w.panel.step ev
    ms := w.ms + ((w.panel.step ev).now - w.panel.now).toNat }

/-- The second release of a gesture, in time, arms it. -/
def Arms (i : b.Btn) (w : Seen b) (evt : ButtonState) : Prop :=
  evt = .release → ∀ ledBlink, (gestureOf b ledBlink).SecondRelease i w.ms w.acts →
    ((w.btn i evt).panel.record ledBlink).Armed

/-- The gesture is going on, and 2 s have not passed yet. -/
def InTime (w : Seen b) (g : ResetGesture b) (t : Nat) : Prop :=
  g.since w.acts = some t ∧ w.ms ≤ t + 2000

/-- The report comes outside the factory test, the later HOLD_5S before the other button is
reported for a longer hold, and the second RELEASE before the other button is reported
at rest. -/
structure BtnOk (i : b.Btn) (w : Seen b) (evt : ButtonState) : Prop where
  normal : w.panel.dev.sh.factActive = false
  hold : evt = .hold5S → ∀ ledBlink, (gestureOf b ledBlink).Mem i →
    heldPast w.acts ((gestureOf b ledBlink).other i) = true →
    lastEvt w.acts ((gestureOf b ledBlink).other i) = .hold5S
  release : evt = .release → ∀ ledBlink,
    (gestureOf b ledBlink).SecondRelease i w.ms w.acts →
    lastEvt w.acts ((gestureOf b ledBlink).other i) = .release

instance (i : b.Btn) (w : Seen b) (evt : ButtonState) : Decidable (Arms i w evt) :=
  inferInstanceAs (Decidable (_ → _))

instance (i : b.Btn) (w : Seen b) (evt : ButtonState) : Decidable (BtnOk i w evt) :=
  decidable_of_iff
    (w.panel.dev.sh.factActive = false ∧
      (evt = .hold5S → ∀ ledBlink, (gestureOf b ledBlink).Mem i →
        heldPast w.acts ((gestureOf b ledBlink).other i) = true →
        lastEvt w.acts ((gestureOf b ledBlink).other i) = .hold5S) ∧
      (evt = .release → ∀ ledBlink, (gestureOf b ledBlink).SecondRelease i w.ms w.acts →
        lastEvt w.acts ((gestureOf b ledBlink).other i) = .release))
    ⟨fun ⟨hnormal, hhold, hrel⟩ => ⟨hnormal, hhold, hrel⟩, fun h => ⟨h.normal, h.hold, h.release⟩⟩

/-- A poll finds no gesture going on whose record is still active from one before it. -/
def PollOk (w : Seen b) : Prop :=
  ∀ ledBlink t, w.InTime (gestureOf b ledBlink) t →
    ¬ ((w.panel.record ledBlink).isActive = true ∧
      w.panel.now - (w.panel.record ledBlink).isActiveStTime > confirmResetTimeoutMs)

instance (w : Seen b) : Decidable w.PollOk :=
  decidable_of_iff
    (∀ ledBlink, ∀ t ∈ (gestureOf b ledBlink).since w.acts, w.ms ≤ t + 2000 →
      ¬ ((w.panel.record ledBlink).isActive = true ∧
        w.panel.now - (w.panel.record ledBlink).isActiveStTime > confirmResetTimeoutMs))
    ⟨fun h l t hon => h l t hon.1 hon.2, fun h l t hsince hlate => h l t ⟨hsince, hlate⟩⟩

/-- What the records stand for: a gesture that is going on in time is at STEP_HOLD_5S. -/
structure Inv (w : Seen b) : Prop where
  clock : w.panel.now = UInt32.ofNat w.ms
  last : w.panel.lastEvts = lastEvt w.acts
  stamps : ∀ a ∈ w.acts, a.time ≤ w.ms
  record : ∀ ledBlink t, w.InTime (gestureOf b ledBlink) t →
    (w.panel.record ledBlink).step = .hold5S ∧
      (w.panel.record ledBlink).changeStepLastT = UInt32.ofNat t

/-- A report comes in time by the clock if it does in truth. -/
theorem Inv.not_exceed {w : Seen b} (h : w.Inv) {g : ResetGesture b} {t : Nat}
    (hon : w.InTime g t) : clockTimeExceed w.panel.now (UInt32.ofNat t) 2000 = false := by
  obtain ⟨a, ha, hstamp⟩ := ResetGesture.mem_of_since hon.1
  have hle : t ≤ w.ms := hstamp ▸ h.stamps a ha
  have hlate : w.ms ≤ t + 2000 := hon.2
  have hsub : UInt32.ofNat w.ms - UInt32.ofNat t = UInt32.ofNat (w.ms - t) :=
    (UInt32.ofNat_sub hle).symm
  rw [clockTimeExceed, h.clock, hsub]
  refine decide_eq_false (UInt32.not_lt.mpr (UInt32.le_iff_toNat_le.mpr ?_))
  rw [UInt32.toNat_ofNat']
  show (w.ms - t) % 4294967296 ≤ 2000
  omega

/-- A gesture that is going on is not moved by what it does not wait for. -/
theorem next_of_step {p : ParaBtnReset} (hstep : p.step = .hold5S) {g : ResetGesture b}
    {i : b.Btn} {evt : ButtonState} (hevt : g.Mem i → evt ≠ .hold5S ∧ evt ≠ .release)
    (now : UInt32) (last : b.Btn → ButtonState) : p.next g now last i evt = p := by
  rw [ParaBtnReset.next]
  split
  · next hmem =>
    rw [if_neg (hevt hmem).1, if_neg (hevt hmem).2, ParaBtnReset.confirm]
    have hnot : ¬ (p.isActive = true ∧ p.step = .hold5SRelease) := by
      rintro ⟨-, harmed⟩
      cases hstep.symm.trans harmed
    rw [if_neg hnot]
    exact ite_self _
  · rfl

/-- **Step lemma** for a report. -/
theorem Inv.btn {w : Seen b} (h : w.Inv) {i : b.Btn} {evt : ButtonState} (hok : BtnOk i w evt) :
    (w.btn i evt).Inv := by
  have hnow : (w.panel.step (.btn i evt)).now = w.panel.now :=
    (w.panel.option_step i evt hok.normal).now
  refine ⟨hnow.trans h.clock, ?_, ?_, fun l t hon => ?_⟩
  · funext j
    show (w.panel.step (.btn i evt)).lastEvts j = if i = j then evt else lastEvt w.acts j
    rw [← h.last]
    exact (w.panel.option_step i evt hok.normal).last j
  · intro a ha
    rcases List.mem_cons.mp ha with rfl | ha
    · exact Nat.le_refl _
    · exact h.stamps a ha
  · show ((w.panel.step (.btn i evt)).record l).step = .hold5S ∧
      ((w.panel.step (.btn i evt)).record l).changeStepLastT = UInt32.ofNat t
    rw [Panel.record_btn hok.normal l, h.last]
    obtain ⟨hsince, hlate⟩ := hon
    by_cases hmem : (gestureOf b l).Mem i
    · by_cases hhold : evt = .hold5S
      · -- both are held from now on
        obtain ⟨hpast, htime⟩ := ResetGesture.since_hold5S hmem hhold hsince
        have hother := hok.hold hhold l hmem hpast
        rw [ParaBtnReset.next, if_pos hmem, if_pos hhold, ParaBtnReset.hold, if_pos hother, h.clock]
        exact ⟨rfl, congrArg UInt32.ofNat htime⟩
      · by_cases hrel : evt = .release
        · -- the first release
          obtain ⟨hheld, -⟩ := ResetGesture.since_release hmem hrel hsince
          have hon : w.InTime (gestureOf b l) t := ⟨ResetGesture.since_of_heldSince hheld, hlate⟩
          obtain ⟨hstep, hT⟩ := h.record l t hon
          have hother := ResetGesture.lastEvt_of_heldSince
            (g := gestureOf b l) (i := (gestureOf b l).other i) ResetGesture.mem_other hheld
          rw [ParaBtnReset.next, if_pos hmem, if_neg hhold, if_pos hrel, ParaBtnReset.release,
            if_pos hstep, hT, if_pos (h.not_exceed hon), if_neg hother]
          exact ⟨hstep, hT⟩
        · by_cases hstart : evt = .startPress
          · have hnone := ResetGesture.since_startPress (h := w.acts)
              (a := ⟨i, evt, w.ms⟩) hmem hstart
            cases hnone.symm.trans hsince
          · have hsame := ResetGesture.since_cons (g := gestureOf b l) (h := w.acts)
              (a := ⟨i, evt, w.ms⟩) fun _ => ⟨hhold, hrel, hstart⟩
            obtain ⟨hstep, hT⟩ := h.record l t ⟨hsame.symm.trans hsince, hlate⟩
            rw [next_of_step hstep fun _ => ⟨hhold, hrel⟩]
            exact ⟨hstep, hT⟩
    · have hsame := ResetGesture.since_cons (g := gestureOf b l) (h := w.acts)
        (a := ⟨i, evt, w.ms⟩) fun hx => absurd hx hmem
      rw [ParaBtnReset.next_of_not_mem hmem]
      exact h.record l t ⟨hsame.symm.trans hsince, hlate⟩

/-- The second release arms the reset. -/
theorem Inv.arms {w : Seen b} (h : w.Inv) {i : b.Btn} {evt : ButtonState} (hok : BtnOk i w evt) :
    Arms i w evt := by
  intro hevt l hsecond
  have hother := hok.release hevt l hsecond
  obtain ⟨hmem, ⟨u, t⟩, hup, -, hlate⟩ := hsecond
  have hon : w.InTime (gestureOf b l) t := ⟨ResetGesture.since_of_oneUp hup, hlate⟩
  obtain ⟨hstep, hT⟩ := h.record l t hon
  show ((w.panel.step (.btn i evt)).record l).Armed
  rw [Panel.record_btn hok.normal l, h.last, hevt, ParaBtnReset.next, if_pos hmem,
    if_neg (by decide), if_pos rfl, ParaBtnReset.release, if_pos hstep, hT,
    if_pos (h.not_exceed hon), if_pos hother]
  exact ⟨rfl, rfl⟩

/-- What keeps the records and the last events, or ages the records by a good poll, keeps
what they stand for. -/
theorem Inv.panelStep {w : Seen b} (h : w.Inv) {ev : PanelEvent b}
    (hbtn : ∀ i evt, ev ≠ .btn i evt) (hok : ev = .clean → w.PollOk) : (w.panelStep ev).Inv := by
  have hclock : (w.panel.step ev).now =
      UInt32.ofNat (w.ms + ((w.panel.step ev).now - w.panel.now).toNat) := by
    rw [UInt32.ofNat_add, ← h.clock, UInt32.ofNat_toNat]
    grind
  have hstamps : ∀ a ∈ w.acts, a.time ≤ w.ms + ((w.panel.step ev).now - w.panel.now).toNat :=
    fun a ha => Nat.le_add_right_of_le (h.stamps a ha)
  have hback : ∀ {g : ResetGesture b} {t}, (w.panelStep ev).InTime g t → w.InTime g t :=
    fun hon => ⟨hon.1, Nat.le_trans (Nat.le_add_right ..) hon.2⟩
  cases ev with
  | btn i evt => exact absurd rfl (hbtn i evt)
  | clean =>
    refine ⟨hclock, h.last, hstamps, fun l t hon => ?_⟩
    obtain ⟨hstep, hT⟩ := h.record l t (hback hon)
    have hclean : (w.panel.step .clean).record l = (w.panel.record l).checkClean w.panel.now := by
      cases l <;> rfl
    have hlate : ¬ ((w.panel.record l).step = .hold5S ∧
        clockTimeExceed w.panel.now (w.panel.record l).changeStepLastT 2000 = true) := by
      rintro ⟨-, hexceed⟩
      rw [hT, h.not_exceed (hback hon)] at hexceed
      cases hexceed
    show ((w.panel.step .clean).record l).step = .hold5S ∧
      ((w.panel.step .clean).record l).changeStepLastT = UInt32.ofNat t
    rw [hclean, ParaBtnReset.checkClean, if_neg (hok rfl l t (hback hon)), if_neg hlate]
    exact ⟨hstep, hT⟩
  | _ =>
    refine ⟨hclock, h.last, hstamps, fun l t hon => ?_⟩
    have hrecord := h.record l t (hback hon)
    cases l <;> exact hrecord

end Seen

/-- The scanner, and what is seen of the switch. -/
structure Timed (b : Board) where
  scanner : Scanner b
  seen : Seen b

namespace Timed

variable {b : Board}

def pad (w : Timed b) : Pad b := ⟨w.scanner, w.seen.panel⟩

def step (w : Timed b) : PadEvent b → Timed b
  | .scan i pins =>
    { scanner := w.scanner.scanButton ⟨w.seen.panel.now, fun _ => pins⟩ i
      seen := runFrom (Seen.btn i) w.seen (w.pad.reports i pins) }
  | .panel ev _ => { w with seen := w.seen.panelStep ev }

/-- To be seen changes nothing. -/
theorem pad_step (w : Timed b) (ev : PadEvent b) : (w.step ev).pad = w.pad.step ev := by
  cases ev with
  | scan i pins =>
    have hpanel : (runFrom (Seen.btn i) w.seen (w.pad.reports i pins)).panel =
        runFrom (fun p e => p.step (.btn i e)) w.seen.panel (w.pad.reports i pins) :=
      runFrom_map Seen.panel (fun _ _ => rfl) w.seen (w.pad.reports i pins)
    exact congrArg (Pad.mk _) hpanel
  | panel ev hev => rfl

/-- Every second release of a gesture that the step reports arms it. -/
def Arms (w : Timed b) : PadEvent b → Prop
  | .scan i pins => AllSteps (Seen.btn i) (Seen.Arms i) w.seen (w.pad.reports i pins)
  | .panel _ _ => True

/-- What the step reports comes in time, and a poll finds nothing of an earlier gesture. -/
def StepOk (w : Timed b) : PadEvent b → Prop
  | .scan i pins => AllSteps (Seen.btn i) (Seen.BtnOk i) w.seen (w.pad.reports i pins)
  | .panel ev _ => ev = .clean → w.seen.PollOk

instance (w : Timed b) : ∀ ev, Decidable (w.Arms ev)
  | .scan _ _ => inferInstanceAs (Decidable (AllSteps _ _ _ _))
  | .panel _ _ => inferInstanceAs (Decidable True)

instance (w : Timed b) : ∀ ev, Decidable (w.StepOk ev)
  | .scan _ _ => inferInstanceAs (Decidable (AllSteps _ _ _ _))
  | .panel (.btn ..) _ | .panel (.lock ..) _ | .panel (.scene ..) _ | .panel (.sendControl ..) _
  | .panel (.onOffSet ..) _ | .panel (.changeMode ..) _ | .panel .zeroSync _
  | .panel .timerMatch _ | .panel (.proc ..) _ | .panel (.clock ..) _ | .panel (.other ..) _ =>
    .isTrue fun h => nomatch h
  | .panel .clean _ => decidable_of_iff w.seen.PollOk ⟨fun h _ => h, fun h => h rfl⟩

/-- **Step lemma**: a good step arms what it should, and the records go on to stand for what
has happened. -/
theorem step_inv {w : Timed b} (h : w.seen.Inv) {ev : PadEvent b} (hok : w.StepOk ev) :
    (w.step ev).seen.Inv ∧ w.Arms ev := by
  cases ev with
  | scan i pins =>
    constructor
    · exact AllSteps.invariant (I := Seen.Inv) (fun _ _ hs hbtn => hs.btn hbtn) h hok
    · exact AllSteps.transport (I := Seen.Inv) (fun _ _ hs hbtn => hs.btn hbtn)
        (fun _ _ hs hbtn => hs.arms hbtn) h hok
  | panel ev hev => exact ⟨h.panelStep hev hok, trivial⟩

/-- A pad that has not been touched. -/
def ofPad (s : Pad b) : Timed b := ⟨s.scanner, ⟨s.panel, s.panel.now.toNat, []⟩⟩

/-- **A gesture can be completed** if nothing is reported in between: in every run of scans,
polls and anything else, in which the later HOLD_5S of a pair comes while the other
button was last reported at HOLD_5S, the second release while the other one was last
reported at RELEASE, and no poll finds an earlier gesture, every gesture whose releases
come in time is armed. -/
theorem arms_of_stepOk {s : Pad b} (hs : s.panel.Unseen) (evs : List (PadEvent b))
    (hok : AllSteps Timed.step Timed.StepOk (ofPad s) evs) :
    AllSteps Timed.step Timed.Arms (ofPad s) evs := by
  have hinv : (ofPad s).seen.Inv := by
    refine ⟨UInt32.ofNat_toNat.symm, funext hs.last, fun a ha => absurd ha List.not_mem_nil, ?_⟩
    rintro l t ⟨hsince, -⟩
    cases hsince
  exact hok.transport (I := fun w => w.seen.Inv) (fun _ _ h hstep => (step_inv h hstep).1)
    (fun _ _ h hstep => (step_inv h hstep).2) hinv

/-- A button that is up and scanned again, 50 ms later, is reported at rest: a second release
behind that does not arm. -/
theorem lastEvt_scan_rest {w : Timed b} {i : b.Btn}
    (hup : (w.scanner.btn i).params.prevState = .release)
    (hmark : (w.scanner.btn i).params.holdStep = 0xFF)
    (hdue : w.seen.panel.now - (w.scanner.btn i).scanTimer ≥ 50) :
    lastEvt (w.step (.scan i (Scanner.steadyPin .release))).seen.acts i = .noPress := by
  have hreports : w.pad.reports i (Scanner.steadyPin .release) =
      ((w.scanner.btn i).params.optionButtonPressTimes w.seen.panel.now).2 ++ [.noPress] := by
    have hscan : (w.scanner.btn i).due w.seen.panel.now = true := by
      rw [OptButton.due, hup]
      exact decide_eq_true hdue
    have hkeep := ((w.scanner.btn i).params.optionButtonPressTimes_spec w.seen.panel.now).1
    show ((w.scanner.btn i).scan _ w.seen.panel.now).2 = _
    rw [OptButton.scan, if_pos hscan, OptButtonParams.branch, hup]
    show ((w.scanner.btn i).params.rest w.seen.panel.now).2 = _
    rw [OptButtonParams.rest]
    dsimp only
    rw [hkeep, hmark]
    rfl
  show lastEvt (runFrom (Seen.btn i) w.seen (w.pad.reports i _)).acts i = .noPress
  rw [hreports, runFrom_append]
  exact if_pos rfl

/-- The two config buttons of a one-relay switch that are pressed at the same time: time
passes, and both are scanned. -/
def scanBoth (ms : UInt32) (scene0 switch0 : PinLevel) : List (PadEvent board1) :=
  [.panel (.clock ms 0) nofun, .scan Board.buttonScene0Idx (Scanner.steadyPin scene0),
    .scan Board.buttonSwitch0Idx (Scanner.steadyPin switch0)]

/-- Both buttons are held past HOLD_5S. -/
def holdBoth : List (PadEvent board1) :=
  ([100] ++ List.replicate 10 10 ++ [51, 450, 300, 4300] : List UInt32).flatMap fun ms =>
    scanBoth ms .press .press

/-- A new switch. -/
def newPad : Pad board1 := ⟨.optionButtonInit board1, .new1⟩

/-- The second release comes 20 ms behind the first one. -/
def quickRelease : List (PadEvent board1) :=
  holdBoth ++ scanBoth 500 .release .press ++ scanBoth 20 .release .release

theorem arms_quickRelease :
    ((runFrom Pad.step newPad quickRelease).panel.record true).Armed ∧
      AllSteps Timed.step Timed.Arms (ofPad newPad) quickRelease :=
  ⟨by decide +kernel, arms_of_stepOk ⟨rfl, rfl, fun _ => rfl⟩ quickRelease (by decide +kernel)⟩

/-- The second release comes 60 ms behind the first one: the button released first has been
found at rest by then. -/
theorem not_arms_slowRelease :
    ¬ ∀ (b : Board) (s : Pad b), s.panel.Unseen → ∀ evs : List (PadEvent b),
      AllSteps Timed.step Timed.Arms (ofPad s) evs := by
  intro h
  have hrun := h board1 newPad ⟨rfl, rfl, fun _ => rfl⟩
    (holdBoth ++ scanBoth 500 .release .press ++ scanBoth 60 .release .press ++
      scanBoth 10 .release .release)
  revert hrun
  decide +kernel

end Timed

end LumesSwitch
