import LumesSwitch.Button.Trace

/-!
# The number of presses (`periph_button.c`)

Presses that follow each other fast are counted, and their number is reported when the button has
been at rest for a while. What the scanner keeps for that is a time, a number and a flag.

- `PressHistory.reports` — the reports, from the history of a button;
- `Scanner.pressTimes_eq_reports` — those are the reports of the scanner;
- `Scanner.reported_of_rest` — presses with a rest behind them are reported, once.
-/

namespace LumesSwitch

open Runs

/-- What a scan finds of a button, and when. -/
inductive ButtonMark where
  | press (t : UInt32)
  | rest (t : UInt32)
  deriving DecidableEq

/-! ## The history of a button, the newest mark first -/

namespace PressHistory

/-- The time of the newest press. -/
def lastPress : List ButtonMark → UInt32
  | [] => 0
  | .press t :: _ => t
  | .rest _ :: h => lastPress h

/-- The number of the newest presses, each less than 700 ms behind the one before. -/
def group : List ButtonMark → Nat
  | [] => 0
  | .press t :: h => if t - lastPress h < 700 then group h + 1 else 1
  | .rest _ :: h => group h

/-- Nothing has been found more than 700 ms behind the newest press. -/
def isOpen : List ButtonMark → Bool
  | [] => false
  | .press _ :: _ => true
  | .rest t :: h => isOpen h && t - lastPress h ≤ 700

/-- What a button at rest at `t` gives rise to. -/
def reportAt (h : List ButtonMark) (t : UInt32) : List ButtonState :=
  if isOpen h = true ∧ 700 < t - lastPress h ∧ t - lastPress h ≤ 900 then
    (OptButtonParams.pressEvent (UInt8.ofNat (group h))).toList
  else []

/-- The reports, in order. -/
def reports : List ButtonMark → List ButtonState
  | [] => []
  | .press _ :: h => reports h
  | .rest t :: h => reports h ++ reportAt h t

end PressHistory

/-- The reads that count find the button at rest. -/
structure PinSamples.AtRest (x : PinSamples) : Prop where
  first : x.first = .release
  second : x.second = .release
  last : x.last = .release

namespace OptButtonParams

/-- What the scan of a button that is due finds. -/
def mark (p : OptButtonParams) (x : PinSamples) (now : UInt32) : Option ButtonMark :=
  match p.prevState, x.first, x.second with
  | .release, .press, _ => if x.checkOptionButtonPress then some (.press now) else none
  | .release, .release, .release => some (.rest now)
  | _, _, _ => none

/-- What is kept of the presses. -/
def count (p : OptButtonParams) : UInt32 × UInt8 × Bool :=
  (p.pressLastT, p.pressCnt, p.pressManyTimeF)

/-- The parameters agree with a history. -/
def Counts (p : OptButtonParams) (h : List ButtonMark) : Prop :=
  p.count = (PressHistory.lastPress h, UInt8.ofNat (PressHistory.group h), PressHistory.isOpen h)

end OptButtonParams

namespace OptButton

/-- What a scan finds, if it is due. -/
def mark (s : OptButton) (x : PinSamples) (now : UInt32) : Option ButtonMark :=
  if s.due now then s.params.mark x now else none

end OptButton

theorem OptButton.mark_cases (s : OptButton) (x : PinSamples) (now : UInt32) :
    s.mark x now = none ∨ s.mark x now = some (.press now) ∨ s.mark x now = some (.rest now) := by
  rw [mark, OptButtonParams.mark]
  repeat' split
  all_goals simp

/-- The reports among the events of a button. -/
def pressTimes (evts : List ButtonState) : List ButtonState := evts.filter PressPhase.isPressTimes

/-- A button with its history and its events. -/
structure PressWatch where
  button : OptButton
  history : List ButtonMark
  events : List ButtonState

namespace PressWatch

def step (w : PressWatch) (x : UInt32 × PinSamples) : PressWatch where
  button := (w.button.scan x.2 x.1).1
  history := (w.button.mark x.2 x.1).toList ++ w.history
  events := w.events ++ (w.button.scan x.2 x.1).2

def init : PressWatch := ⟨.init, [], []⟩

end PressWatch

namespace Scanner

variable {b : Board}

/-- The history of button `i`. -/
def historyOf (i : b.Btn) (scans : List (ScanInput b)) : List ButtonMark :=
  (runFrom PressWatch.step PressWatch.init (scans.map fun x => (x.now, x.pins i))).history

/-- A scan that does not report START_PRESS for button `i`. -/
def NoPress (i : b.Btn) (s : Scanner b) (x : ScanInput b) : Prop :=
  .startPress ∉ ((s.btn i).scan (x.pins i) x.now).2

/-- Scans from `t` on, each with the milliseconds since the one before. -/
def scansFrom (t : UInt32) : List (Nat × (b.Btn → PinSamples)) → List (ScanInput b)
  | [] => []
  | (gap, pins) :: ys => ⟨t + UInt32.ofNat gap, pins⟩ :: scansFrom (t + UInt32.ofNat gap) ys

/-- The time of such scans. -/
def elapsed : List (Nat × (b.Btn → PinSamples)) → Nat
  | [] => 0
  | (gap, _) :: ys => gap + elapsed ys

/-- The reports for button `i`. -/
def pressTimesOf (i : b.Btn) (scans : List (ScanInput b)) : List ButtonState :=
  pressTimes ((runFrom optionButtonScan (optionButtonInit b) scans).eventsOf i)

end Scanner

/-! ## One scan -/

namespace OptButtonParams

theorem pressTimes_pressEvent (cnt : UInt8) :
    pressTimes (pressEvent cnt).toList = (pressEvent cnt).toList := by
  rw [pressEvent]
  repeat' split
  all_goals rfl

/-- The events of a hold are those of its steps. -/
theorem hold_events (p : OptButtonParams) (now : UInt32) :
    ∀ e ∈ (p.hold now).2, (PressPhase.holdNumber e).isSome = true := by
  rw [hold]
  generalize p.holdStart now = q
  split
  · exact List.forall_mem_nil _
  · split
    · exact List.forall_mem_nil _
    · next limit evt hevent =>
      rw [holdEvent] at hevent
      split
      · refine List.forall_mem_singleton.mpr ?_
        split_ifs at hevent
        all_goals
          obtain rfl := (Prod.mk.inj (Option.some.inj hevent)).2
          rfl
      · exact List.forall_mem_nil _

/-- A hold leaves the presses alone. -/
theorem hold_count (p : OptButtonParams) (now : UInt32) :
    (p.hold now).1.count = p.count ∧ pressTimes (p.hold now).2 = [] := by
  have hstart : (p.holdStart now).count = p.count := by
    rw [holdStart]
    repeat' split
    all_goals rfl
  refine ⟨?_, List.filter_eq_nil_iff.mpr fun e he hpress => ?_⟩
  · rw [← hstart, hold]
    generalize p.holdStart now = q
    repeat' split
    all_goals rfl
  · have hhold : (PressPhase.holdNumber e).isSome = true → ¬ PressPhase.isPressTimes e = true := by
      cases e
      all_goals decide
    exact hhold (p.hold_events now e he) hpress

theorem optionButtonPress_count (p : OptButtonParams) (now : UInt32) {h : List ButtonMark}
    (hp : p.Counts h) : (p.optionButtonPress now).Counts (.press now :: h) := by
  obtain ⟨hlast, hrest⟩ := Prod.mk.inj hp
  have hcnt := (Prod.mk.inj hrest).1
  rw [Counts, count, optionButtonPress, PressHistory.group, hlast, hcnt]
  dsimp only
  split
  · rw [UInt8.ofNat_add]
    rfl
  · rfl

/-- A button at rest: the flag falls when 700 ms have gone by, and in the 200 ms behind that
there is a report. -/
theorem rest_count (p : OptButtonParams) (now : UInt32) {h : List ButtonMark} (hp : p.Counts h) :
    (p.rest now).1.Counts (.rest now :: h) ∧
      pressTimes (p.rest now).2 = PressHistory.reportAt h now := by
  obtain ⟨hlast, hrest⟩ := Prod.mk.inj hp
  obtain ⟨hcnt, hopen⟩ := Prod.mk.inj hrest
  have hevent : ∀ q : OptButtonParams,
      pressTimes [if q.holdStep < 0xFF then ButtonState.release else .noPress] = [] := by
    intro q
    split
    · rfl
    · rfl
  rw [rest, optionButtonPressTimes, PressHistory.reportAt, hlast, hcnt, hopen]
  by_cases hlate : PressHistory.isOpen h = true ∧ now - PressHistory.lastPress h > 700
  · rw [if_pos hlate]
    dsimp only
    refine ⟨?_, ?_⟩
    · have hclosed : PressHistory.isOpen (.rest now :: h) = false := by
        rw [PressHistory.isOpen, hlate.1, Bool.true_and]
        exact decide_eq_false (UInt32.not_le.mpr hlate.2)
      rw [Counts, hclosed]
      rfl
    · rw [pressTimes, List.filter_append]
      refine (congrArg₂ _ ?_ (hevent _)).trans (List.append_nil _)
      by_cases hover : now - PressHistory.lastPress h > 900
      · rw [if_pos hover, if_neg fun hin => absurd hin.2.2 (UInt32.not_le.mpr hover)]
        rfl
      · rw [if_neg hover, if_pos ⟨hlate.1, hlate.2, UInt32.not_lt.mp hover⟩]
        exact pressTimes_pressEvent _
  · rw [if_neg hlate, if_neg fun hin => hlate ⟨hin.1, hin.2.1⟩]
    refine ⟨?_, hevent p⟩
    have hkept : PressHistory.isOpen (.rest now :: h) = PressHistory.isOpen h := by
      rw [PressHistory.isOpen]
      cases hflag : PressHistory.isOpen h with
      | false => rfl
      | true => exact decide_eq_true (UInt32.not_lt.mp fun hgt => hlate ⟨hflag, hgt⟩)
    rw [Counts, hkept]
    exact hp

/-- **What a scan does to the presses.** -/
theorem branch_count (p : OptButtonParams) (x : PinSamples) (now : UInt32) {h : List ButtonMark}
    (hp : p.Counts h) :
    (p.branch x now).1.Counts ((p.mark x now).toList ++ h) ∧
      PressHistory.reports h ++ pressTimes (p.branch x now).2 =
        PressHistory.reports ((p.mark x now).toList ++ h) := by
  have hskip : p.Counts ([] ++ h) ∧ PressHistory.reports h ++ pressTimes [] =
      PressHistory.reports ([] ++ h) := ⟨hp, List.append_nil _⟩
  rw [branch, mark]
  rcases hprev : p.prevState with _ | _ <;> rcases hfirst : x.first with _ | _
  · obtain ⟨hcount, hevents⟩ := p.hold_count now
    exact ⟨hcount.trans hp, by rw [hevents]; exact List.append_nil _⟩
  · rcases hsecond : x.second with _ | _
    · exact hskip
    · exact ⟨hp, List.append_nil _⟩
  · dsimp only
    by_cases hcheck : x.checkOptionButtonPress = true
    · rw [if_pos hcheck, if_pos hcheck]
      exact ⟨p.optionButtonPress_count now hp, List.append_nil _⟩
    · rw [if_neg hcheck, if_neg hcheck]
      exact hskip
  · rcases hsecond : x.second with _ | _
    · exact hskip
    · obtain ⟨hcount, hevents⟩ := p.rest_count now hp
      exact ⟨hcount, by rw [hevents]; rfl⟩

/-- A press is reported as START_PRESS. -/
theorem startPress_mem_branch {p : OptButtonParams} {x : PinSamples} {now : UInt32} :
    .startPress ∈ (p.branch x now).2 ↔ p.mark x now = some (.press now) := by
  have hhold : .startPress ∉ (p.hold now).2 := fun h => Bool.false_ne_true (p.hold_events now _ h)
  have hrest : .startPress ∉ (p.rest now).2 := by
    have hcount : .startPress ∉ (p.optionButtonPressTimes now).2 := by
      rw [optionButtonPressTimes]
      split
      · dsimp only
        split
        · exact List.not_mem_nil
        · intro h
          rw [← pressTimes_pressEvent] at h
          exact Bool.false_ne_true (List.mem_filter.mp h).2
      · exact List.not_mem_nil
    rw [rest]
    refine List.mem_append.not.mpr (not_or.mpr ⟨hcount, fun h => ?_⟩)
    have h := List.mem_singleton.mp h
    split at h
    · cases h
    · cases h
  have hnone : .startPress ∈ ([] : List ButtonState) ↔ none = some (ButtonMark.press now) :=
    iff_of_false List.not_mem_nil (Option.some_ne_none _).symm
  rw [branch, mark]
  rcases hprev : p.prevState with _ | _ <;> rcases hfirst : x.first with _ | _
  · exact iff_of_false hhold (Option.some_ne_none _).symm
  · rcases hsecond : x.second with _ | _
    · exact hnone
    · exact iff_of_false (by simp) (Option.some_ne_none _).symm
  · dsimp only
    by_cases hcheck : x.checkOptionButtonPress = true
    · rw [if_pos hcheck, if_pos hcheck]
      exact ⟨fun _ => rfl, fun _ => List.mem_singleton_self _⟩
    · rw [if_neg hcheck, if_neg hcheck]
      exact hnone
  · rcases hsecond : x.second with _ | _
    · exact hnone
    · exact iff_of_false hrest fun h => by injection h with h; cases h

end OptButtonParams

/-! ## Runs -/

namespace PressWatch

/-- The parameters agree with the history, and so do the events. -/
structure Inv (w : PressWatch) : Prop where
  counts : w.button.params.Counts w.history
  reported : pressTimes w.events = PressHistory.reports w.history

/-- **Step lemma.** -/
theorem Inv.step {w : PressWatch} (h : Inv w) (x : UInt32 × PinSamples) : Inv (w.step x) := by
  rw [PressWatch.step, OptButton.scan, OptButton.mark]
  by_cases hdue : w.button.due x.1 = true
  · obtain ⟨hcounts, hreported⟩ := w.button.params.branch_count x.2 x.1 h.counts
    rw [if_pos hdue, if_pos hdue]
    refine ⟨hcounts, ?_⟩
    rw [pressTimes, List.filter_append]
    exact (congrArg (· ++ _) h.reported).trans hreported
  · rw [if_neg hdue, if_neg hdue]
    exact ⟨h.counts, by rw [List.append_nil]; exact h.reported⟩

theorem inv_init : Inv init := ⟨rfl, rfl⟩

end PressWatch

namespace Scanner

variable {b : Board}

/-- The scanner does to button `i` what the watch does. -/
theorem runFrom_watch (i : b.Btn) (scans : List (ScanInput b)) {s : Scanner b} {w : PressWatch}
    (h : (s.btn i, s.eventsOf i) = (w.button, w.events)) :
    let s' := runFrom optionButtonScan s scans
    let w' := runFrom PressWatch.step w (scans.map fun x => (x.now, x.pins i))
    (s'.btn i, s'.eventsOf i) = (w'.button, w'.events) := by
  induction scans generalizing s w with
  | nil => exact h
  | cons x scans ih =>
    obtain ⟨hbtn, hevents⟩ := Prod.mk.inj h
    refine ih (w := w.step (x.now, x.pins i)) ?_
    rw [optionButtonScan_view, hbtn, hevents]
    rfl

/-- **What is reported** of the presses of a button, in every run of scans from
`option_button_init`, with any reads and at any times. -/
theorem pressTimes_eq_reports (i : b.Btn) (scans : List (ScanInput b)) :
    pressTimesOf i scans = PressHistory.reports (historyOf i scans) := by
  have hinv : PressWatch.Inv (runFrom PressWatch.step PressWatch.init
      (scans.map fun x => (x.now, x.pins i))) :=
    invariant_runFrom (fun _ _ h => h.step _) PressWatch.inv_init _
  have hview := runFrom_watch i scans (s := optionButtonInit b) (w := PressWatch.init) rfl
  rw [pressTimesOf, (Prod.mk.inj hview).2]
  exact hinv.reported

end Scanner

/-! ## Presses with a rest behind them -/

section rest

variable {t : UInt32} {h₀ : List ButtonMark} {w : PressWatch} {d : Nat}

/-- `d` ms behind a press at `t`, which is the newest, and whose group has not been reported yet:
the last scan that was due is less than 50 ms old. -/
structure PressWatch.Waiting (t : UInt32) (h₀ : List ButtonMark) (d : Nat) (w : PressWatch) :
    Prop where
  last : PressHistory.lastPress w.history = t
  group : PressHistory.group w.history = PressHistory.group h₀
  isOpen : PressHistory.isOpen w.history = true
  reports : PressHistory.reports w.history = PressHistory.reports h₀
  scanned : ∃ s ≤ 700, (w.button.scanTimer - t).toNat = s ∧ s ≤ d ∧ d < s + 50 ∧
    (500 < s → w.button.params.prevState = .release)

/-- The group has been reported. -/
structure PressWatch.Reported (h₀ : List ButtonMark) (w : PressWatch) : Prop where
  isOpen : PressHistory.isOpen w.history = false
  reports : PressHistory.reports w.history = PressHistory.reports h₀ ++
    (OptButtonParams.pressEvent (UInt8.ofNat (PressHistory.group h₀))).toList

/-- The time between two moments behind `t`. -/
theorem toNat_sub_of_since {t x y : UInt32} (h : (y - t).toNat ≤ (x - t).toNat) :
    (x - y).toNat = (x - t).toNat - (y - t).toNat := by
  have hx := x.toNat_lt
  have hy := y.toNat_lt
  have ht := t.toNat_lt
  rw [UInt32.toNat_sub, UInt32.toNat_sub] at h
  rw [UInt32.toNat_sub, UInt32.toNat_sub, UInt32.toNat_sub]
  omega

namespace PressWatch

/-- A scan that is not due changes nothing. -/
theorem step_of_not_due {x : UInt32 × PinSamples} (hdue : ¬ w.button.due x.1 = true) :
    w.step x = w := by
  rw [step, OptButton.scan, OptButton.mark, if_neg hdue, if_neg hdue]
  exact congrArg _ (List.append_nil _)

theorem history_of_none {x : UInt32 × PinSamples} (h : w.button.mark x.2 x.1 = none) :
    (w.step x).history = w.history := by
  rw [step, h]
  rfl

theorem history_of_rest {x : UInt32 × PinSamples} (h : w.button.mark x.2 x.1 = some (.rest x.1)) :
    (w.step x).history = .rest x.1 :: w.history := by
  rw [step, h]
  rfl

/-- A button that is at rest, and was so at the scan before, is marked so. -/
theorem mark_of_atRest {x : PinSamples} {now : UInt32} (hdue : w.button.due now = true)
    (hprev : w.button.params.prevState = .release) (hrest : x.AtRest) :
    w.button.mark x now = some (.rest now) := by
  rw [OptButton.mark, if_pos hdue, OptButtonParams.mark, hprev, hrest.first, hrest.second]

theorem mark_ne_press {x : PinSamples} {now : UInt32} (hrest : x.AtRest) :
    w.button.mark x now ≠ some (.press now) := by
  rw [OptButton.mark, OptButtonParams.mark, hrest.first]
  repeat' split
  all_goals simp_all

/-- A button that is scanned every 50 ms at the least. -/
theorem lt_of_not_due {now : UInt32} (hdue : ¬ w.button.due now = true) :
    (now - w.button.scanTimer).toNat < 50 := by
  rw [OptButton.due, decide_eq_true_iff, ge_iff_le, UInt32.not_le] at hdue
  refine Nat.lt_of_lt_of_le (UInt32.lt_iff_toNat_lt.mp hdue) ?_
  split
  · decide
  · decide

/-- Time goes by without a scan that is due. -/
theorem Waiting.wait (h : Waiting t h₀ d w) {now : UInt32} (hle : d ≤ (now - t).toNat)
    (hdue : ¬ w.button.due now = true) : Waiting t h₀ (now - t).toNat w := by
  obtain ⟨s, hs, htimer, hsd, -, hprev⟩ := h.scanned
  refine ⟨h.last, h.group, h.isOpen, h.reports, s, hs, htimer, hsd.trans hle, ?_, hprev⟩
  have hsince : (w.button.scanTimer - t).toNat ≤ (now - t).toNat := by
    rw [htimer]
    exact hsd.trans hle
  have hlt := lt_of_not_due hdue
  rw [toNat_sub_of_since hsince, htimer] at hlt
  omega

/-- **Step lemma**: up to 700 ms behind the press. -/
theorem Waiting.early (h : Waiting t h₀ d w) {now : UInt32} {x : PinSamples}
    (hle : d ≤ (now - t).toNat) (hearly : (now - t).toNat ≤ 700)
    (hpress : w.button.mark x now ≠ some (.press now))
    (hrest : 500 < (now - t).toNat → x.last = .release) :
    Waiting t h₀ (now - t).toNat (w.step (now, x)) := by
  by_cases hdue : w.button.due now = true
  · have hscanned : ∃ s ≤ 700, ((w.step (now, x)).button.scanTimer - t).toNat = s ∧
        s ≤ (now - t).toNat ∧ (now - t).toNat < s + 50 ∧
        (500 < s → (w.step (now, x)).button.params.prevState = .release) := by
      refine ⟨(now - t).toNat, hearly, ?_⟩
      rw [step, OptButton.scan, if_pos hdue]
      exact ⟨rfl, le_rfl, Nat.lt_add_of_pos_right (by decide), hrest⟩
    obtain hmark | hmark | hmark := w.button.mark_cases x now
    · have hsame : (w.step (now, x)).history = w.history := history_of_none hmark
      exact ⟨hsame ▸ h.last, hsame ▸ h.group, hsame ▸ h.isOpen, hsame ▸ h.reports, hscanned⟩
    · exact absurd hmark hpress
    · -- the rest comes too early for a report
      have hrested : (w.step (now, x)).history = .rest now :: w.history := history_of_rest hmark
      have hle700 : now - t ≤ 700 := UInt32.le_iff_toNat_le.mpr hearly
      refine ⟨hrested ▸ h.last, hrested ▸ h.group, ?_, ?_, hscanned⟩
      · rw [hrested, PressHistory.isOpen, h.isOpen, h.last, Bool.true_and]
        exact decide_eq_true hle700
      · rw [hrested, PressHistory.reports, h.reports, PressHistory.reportAt, h.last]
        rw [if_neg fun hin => absurd hin.2.1 (UInt32.not_lt.mpr hle700), List.append_nil]
  · rw [step_of_not_due hdue]
    exact h.wait hle hdue

/-- **Step lemma**: behind the first half second the button is at rest. -/
theorem Waiting.late (h : Waiting t h₀ d w) {now : UInt32} {x : PinSamples}
    (hle : d ≤ (now - t).toNat) (hgap : (now - t).toNat ≤ d + 150) (hrest : x.AtRest) :
    Waiting t h₀ (now - t).toNat (w.step (now, x)) ∨ Reported h₀ (w.step (now, x)) := by
  by_cases hearly : (now - t).toNat ≤ 700
  · exact .inl (h.early hle hearly (mark_ne_press hrest) fun _ => hrest.last)
  obtain ⟨s, hs, htimer, hsd, hds, hprev⟩ := h.scanned
  by_cases hdue : w.button.due now = true
  · have hmark := mark_of_atRest hdue (hprev (by omega)) hrest
    have hrested : (w.step (now, x)).history = .rest now :: w.history := history_of_rest hmark
    have hgt : 700 < now - t := UInt32.lt_iff_toNat_lt.mpr (Nat.lt_of_not_le hearly)
    have hle900 : now - t ≤ 900 := UInt32.le_iff_toNat_le.mpr (by show _ ≤ 900; omega)
    refine .inr ⟨?_, ?_⟩
    · rw [hrested, PressHistory.isOpen, h.last, decide_eq_false (UInt32.not_le.mpr hgt),
        Bool.and_false]
    · rw [hrested, PressHistory.reports, h.reports, PressHistory.reportAt, h.last, h.group,
        if_pos ⟨h.isOpen, hgt, hle900⟩]
  · rw [step_of_not_due hdue]
    exact .inl (h.wait hle hdue)

theorem Reported.step (h : Reported h₀ w) {now : UInt32} {x : PinSamples} (hrest : x.AtRest) :
    Reported h₀ (w.step (now, x)) := by
  obtain hmark | hmark | hmark := w.button.mark_cases x now
  · have hsame : (w.step (now, x)).history = w.history := history_of_none hmark
    exact ⟨hsame ▸ h.isOpen, hsame ▸ h.reports⟩
  · exact absurd hmark (mark_ne_press hrest)
  · have hrested : (w.step (now, x)).history = .rest now :: w.history := history_of_rest hmark
    refine ⟨?_, ?_⟩
    · rw [hrested, PressHistory.isOpen, h.isOpen, Bool.false_and]
    · rw [hrested, PressHistory.reports, h.reports, PressHistory.reportAt, h.isOpen,
        if_neg fun hin => Bool.false_ne_true hin.1, List.append_nil]

/-- Not much later than the last scan that was due. -/
theorem Waiting.lt (h : Waiting t h₀ d w) : d < 750 := by
  obtain ⟨s, hs, -, -, hds, -⟩ := h.scanned
  omega

theorem history_of_press {x : UInt32 × PinSamples}
    (h : w.button.mark x.2 x.1 = some (.press x.1)) :
    (w.step x).history = .press x.1 :: w.history := by
  rw [step, h]
  rfl

/-- A press begins the wait. -/
theorem waiting_of_press {x : UInt32 × PinSamples} (hdue : w.button.due x.1 = true)
    (hmark : w.button.mark x.2 x.1 = some (.press x.1)) :
    Waiting x.1 (.press x.1 :: w.history) 0 (w.step x) := by
  have hpressed := history_of_press hmark
  refine ⟨hpressed ▸ rfl, hpressed ▸ rfl, hpressed ▸ rfl, hpressed ▸ rfl, 0, Nat.zero_le _, ?_,
    le_rfl, by decide, fun h => absurd h (by decide)⟩
  rw [step, OptButton.scan, if_pos hdue]
  show (x.1 - x.1).toNat = 0
  rw [UInt32.sub_self]
  rfl

end PressWatch

namespace Scanner

variable {b : Board} {i : b.Btn}

theorem toNat_since_add {T : UInt32} {gap : Nat} (h : (T - t).toNat + gap < 4294967296) :
    (T + UInt32.ofNat gap - t).toNat = (T - t).toNat + gap := by
  have hT := T.toNat_lt
  have ht := t.toNat_lt
  rw [UInt32.toNat_sub] at h
  rw [UInt32.toNat_sub, UInt32.toNat_sub, UInt32.toNat_add, UInt32.toNat_ofNat']
  omega

theorem scansFrom_append (T : UInt32) (ys zs : List (Nat × (b.Btn → PinSamples))) :
    scansFrom T (ys ++ zs) =
      scansFrom T ys ++ scansFrom (T + UInt32.ofNat (elapsed ys)) zs := by
  induction ys generalizing T with
  | nil =>
    show scansFrom T zs = scansFrom (T + 0) zs
    rw [UInt32.add_zero]
  | cons y ys ih =>
    rw [List.cons_append, scansFrom, ih, elapsed, UInt32.ofNat_add,
      UInt32.add_assoc]
    rfl

/-- A scan without START_PRESS marks no press. -/
theorem mark_of_noPress {s : Scanner b} {x : ScanInput b} (h : NoPress i s x) :
    (s.btn i).mark (x.pins i) x.now ≠ some (.press x.now) := by
  intro hmark
  rw [NoPress, OptButton.scan] at h
  rw [OptButton.mark] at hmark
  by_cases hdue : (s.btn i).due x.now = true
  · rw [if_pos hdue] at h hmark
    exact h (OptButtonParams.startPress_mem_branch.mpr hmark)
  · rw [if_neg hdue] at hmark
    cases hmark

/-- A scan with START_PRESS marks a press. -/
theorem mark_of_press {s : Scanner b} {x : ScanInput b} (h : ¬ NoPress i s x) :
    (s.btn i).due x.now = true ∧ (s.btn i).mark (x.pins i) x.now = some (.press x.now) := by
  have h := not_not.mp h
  rw [OptButton.scan] at h
  by_cases hdue : (s.btn i).due x.now = true
  · rw [if_pos hdue] at h
    rw [OptButton.mark, if_pos hdue]
    exact ⟨hdue, OptButtonParams.startPress_mem_branch.mp h⟩
  · rw [if_neg hdue] at h
    exact absurd h List.not_mem_nil

/-- **Run lemma**: scans in the first half second, without another press. -/
theorem waiting_runFrom_early (ys : List (Nat × (b.Btn → PinSamples))) {s : Scanner b}
    {T : UInt32} (hview : s.btn i = w.button) (h : w.Waiting t h₀ (T - t).toNat)
    (hsum : (T - t).toNat + elapsed ys ≤ 500)
    (hpress : AllSteps optionButtonScan (NoPress i) s (scansFrom T ys)) :
    (runFrom PressWatch.step w ((scansFrom T ys).map fun x => (x.now, x.pins i))).Waiting t h₀
      ((T - t).toNat + elapsed ys) := by
  induction ys generalizing s w T with
  | nil => exact h
  | cons y ys ih =>
    rw [elapsed] at hsum ⊢
    have hsince : (T + UInt32.ofNat y.1 - t).toNat = (T - t).toNat + y.1 :=
      toNat_since_add (by omega)
    have hmark : w.button.mark (y.2 i) (T + UInt32.ofNat y.1) ≠
        some (.press (T + UInt32.ofNat y.1)) := by
      rw [← hview]
      exact mark_of_noPress (x := ⟨T + UInt32.ofNat y.1, y.2⟩) hpress.1
    have hnext := h.early (by omega) (by omega) hmark fun hlate => absurd hlate (by omega)
    have hview' : (s.optionButtonScan ⟨T + UInt32.ofNat y.1, y.2⟩).btn i =
        (w.step (T + UInt32.ofNat y.1, y.2 i)).button := by
      rw [(Prod.mk.inj (optionButtonScan_view _ _ i)).1, hview]
      rfl
    have hrun := ih hview' hnext (by omega) hpress.2
    rw [hsince, Nat.add_assoc] at hrun
    exact hrun

theorem reported_runFrom (zs : List (Nat × (b.Btn → PinSamples))) {T : UInt32}
    (hrest : ∀ z ∈ zs, (z.2 i).AtRest) (h : w.Reported h₀) :
    (runFrom PressWatch.step w
      ((scansFrom T zs).map fun x => (x.now, x.pins i))).Reported h₀ := by
  induction zs generalizing w T with
  | nil => exact h
  | cons z zs ih =>
    exact ih (fun z' hz => hrest z' (List.mem_cons_of_mem _ hz))
      (h.step (hrest z List.mem_cons_self))

/-- **Run lemma**: scans of a button at rest. -/
theorem waiting_runFrom_late (zs : List (Nat × (b.Btn → PinSamples))) {T : UInt32}
    (hgap : ∀ z ∈ zs, z.1 ≤ 150) (hrest : ∀ z ∈ zs, (z.2 i).AtRest)
    (h : w.Waiting t h₀ (T - t).toNat) :
    let w' := runFrom PressWatch.step w ((scansFrom T zs).map fun x => (x.now, x.pins i))
    w'.Waiting t h₀ ((T - t).toNat + elapsed zs) ∨ w'.Reported h₀ := by
  induction zs generalizing w T with
  | nil => exact .inl h
  | cons z zs ih =>
    have hgap' := hgap z List.mem_cons_self
    have hlt := h.lt
    have hsince : (T + UInt32.ofNat z.1 - t).toNat = (T - t).toNat + z.1 :=
      toNat_since_add (by omega)
    have hrest' : ∀ z' ∈ zs, (z'.2 i).AtRest := fun z' hz => hrest z' (List.mem_cons_of_mem _ hz)
    have hle : (T - t).toNat ≤ (T + UInt32.ofNat z.1 - t).toNat := by omega
    obtain hwait | hreported := h.late hle (by omega) (hrest z List.mem_cons_self)
    · have hrun := ih (fun z' hz => hgap z' (List.mem_cons_of_mem _ hz)) hrest' hwait
      rw [hsince] at hrun
      rw [elapsed, ← Nat.add_assoc]
      exact hrun
    · exact .inr (reported_runFrom zs hrest' hreported)

/-- **A press with a rest behind it is reported**, and once: with the number of presses of its
group, when there is no other press in the half second behind it, and from then on the button is
at rest and scanned every 150 ms at the least. -/
theorem reported_of_rest (xs : List (ScanInput b)) (x : ScanInput b)
    (ys zs : List (Nat × (b.Btn → PinSamples)))
    (hpress : ¬ NoPress i (runFrom optionButtonScan (optionButtonInit b) xs) x)
    (hys : AllSteps optionButtonScan (NoPress i)
      (runFrom optionButtonScan (optionButtonInit b) (xs ++ [x])) (scansFrom x.now ys))
    (hsum : elapsed ys ≤ 500)
    (hgap : ∀ z ∈ zs, z.1 ≤ 150) (hrest : ∀ z ∈ zs, (z.2 i).AtRest)
    (hlong : 750 ≤ elapsed ys + elapsed zs) :
    pressTimesOf i (xs ++ x :: scansFrom x.now (ys ++ zs)) = pressTimesOf i xs ++
      (OptButtonParams.pressEvent
        (UInt8.ofNat (PressHistory.group (historyOf i (xs ++ [x]))))).toList := by
  rw [pressTimes_eq_reports, pressTimes_eq_reports]
  have hview (scans : List (ScanInput b)) := (Prod.mk.inj (runFrom_watch i scans
    (s := optionButtonInit b) (w := PressWatch.init) rfl)).1
  obtain ⟨hdue, hmark⟩ := mark_of_press hpress
  rw [hview] at hdue hmark
  have hbegin := PressWatch.waiting_of_press (x := (x.now, x.pins i)) hdue hmark
  have hhistory : historyOf i (xs ++ [x]) = .press x.now :: historyOf i xs := by
    rw [historyOf, List.map_append, runFrom_append]
    exact PressWatch.history_of_press (x := (x.now, x.pins i)) hmark
  have hwait : (runFrom PressWatch.step PressWatch.init
      ((xs ++ [x]).map fun x => (x.now, x.pins i))).Waiting x.now (historyOf i (xs ++ [x]))
      (x.now - x.now).toNat := by
    rw [hhistory, UInt32.sub_self, List.map_append, runFrom_append]
    exact hbegin
  have hzero : (x.now - x.now).toNat = 0 := by
    rw [UInt32.sub_self]
    rfl
  have hearly := waiting_runFrom_early ys (hview (xs ++ [x])) hwait (by omega) hys
  have hsince : (x.now + UInt32.ofNat (elapsed ys) - x.now).toNat =
      (x.now - x.now).toNat + elapsed ys := toNat_since_add (by omega)
  rw [← hsince] at hearly
  have hsplit : xs ++ x :: scansFrom x.now (ys ++ zs) = xs ++ [x] ++ scansFrom x.now ys ++
      scansFrom (x.now + UInt32.ofNat (elapsed ys)) zs := by
    rw [scansFrom_append, List.append_assoc, List.append_assoc, List.singleton_append]
  have hreported : PressHistory.reports (historyOf i (xs ++ x :: scansFrom x.now (ys ++ zs))) =
      PressHistory.reports (historyOf i (xs ++ [x])) ++ (OptButtonParams.pressEvent
        (UInt8.ofNat (PressHistory.group (historyOf i (xs ++ [x]))))).toList := by
    rw [hsplit, historyOf, List.map_append, List.map_append, runFrom_append, runFrom_append]
    obtain hwaiting | hreported := waiting_runFrom_late zs hgap hrest hearly
    · exact absurd hwaiting.lt (by omega)
    · exact hreported.reports
  rw [hreported, hhistory]
  rfl

/-- A press of 60 ms. -/
def clickAt (t : UInt32) : List (ScanInput board1) :=
  [⟨t, fun _ => steadyPin .press⟩, ⟨t + 60, fun _ => steadyPin .release⟩,
    ⟨t + 200, fun _ => steadyPin .release⟩]

/-- Two presses 400 ms apart, the second one with a bounce. -/
theorem reported_of_rest_twice :
    pressTimesOf (⟨0, by decide⟩ : board1.Btn) (clickAt 100 ++ ⟨500, fun _ => steadyPin .press⟩ ::
      scansFrom 500 ([(15, fun _ => ⟨.release, .press, .press, fun _ => .press, .press⟩)] ++
        List.replicate 8 (100, fun _ => steadyPin .release))) = [.pressTwoTime] := by
  refine (reported_of_rest (i := ⟨0, by decide⟩) (clickAt 100) ⟨500, fun _ => steadyPin .press⟩
    [(15, fun _ => ⟨.release, .press, .press, fun _ => .press, .press⟩)]
    (List.replicate 8 (100, fun _ => steadyPin .release)) ?_ ?_ (by decide) ?_ ?_
    (by decide)).trans (by decide +kernel)
  · exact not_not.mpr (by decide +kernel)
  · refine ⟨?_, trivial⟩
    rw [NoPress]
    decide +kernel
  · intro z hz
    rw [List.eq_of_mem_replicate hz]
    decide
  · intro z hz
    rw [List.eq_of_mem_replicate hz]
    exact ⟨rfl, rfl, rfl⟩

end Scanner

end rest

end LumesSwitch
