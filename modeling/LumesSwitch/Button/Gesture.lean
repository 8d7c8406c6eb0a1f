import LumesSwitch.Button.Release

/-!
# The gestures of the factory reset

A reset wipes an installed device, so it is asked for with two buttons: both held for
5 s, both released, and a press of one of them to confirm. The two gestures share a
button and the array of last events, and are aged by polls that come at any time.

- `ResetGesture.Completes` — the second release of a gesture, told from the history of the
  button events alone, and `ResetGesture.Performed` — that there was one, and when;
- `ParaBtnReset.Tracks` — what the record of a gesture stands for;
- `ParaBtnReset.next` — one button event on it, and `Panel.option_step`: the handler
  does just that;
- `Watched.resets_by_gesture` — a reset is asked for behind its gesture only.
-/

namespace LumesSwitch

open Runs

/-! ## The gesture -/

/-- An event of a button, and the time it was handled at. -/
structure BtnAct (b : Board) (τ : Type) where
  btn : b.Btn
  evt : ButtonState
  time : τ

/-- The last event of a button in a history, the newest event first. -/
def lastEvt {b : Board} {τ : Type} : List (BtnAct b τ) → b.Btn → ButtonState
  | [], _ => .noPress
  | a :: h, i => if a.btn = i then a.evt else lastEvt h i

/-- What a button was last seen at, if it is not the initial NO_PRESS, was an event. -/
theorem lastEvt_append {b : Board} {τ : Type} {h h' : List (BtnAct b τ)} {i : b.Btn} :
    (∃ a ∈ h, a.btn = i ∧ a.evt = lastEvt (h ++ h') i) ∨
      lastEvt (h ++ h') i = lastEvt h' i := by
  induction h with
  | nil => exact Or.inr rfl
  | cons a h ih =>
    show (∃ x ∈ a :: h, x.btn = i ∧ x.evt = if a.btn = i then a.evt else lastEvt (h ++ h') i) ∨
      (if a.btn = i then a.evt else lastEvt (h ++ h') i) = lastEvt h' i
    split
    · next hbtn => exact Or.inl ⟨a, List.mem_cons_self, hbtn, rfl⟩
    · exact ih.imp_left fun ⟨x, hx, hxa⟩ => ⟨x, List.mem_cons_of_mem a hx, hxa⟩

/-- A gesture of a pair of buttons, and the event that confirms it. -/
structure ResetGesture (b : Board) where
  fst : b.Btn
  snd : b.Btn
  ne : fst ≠ snd
  master : b.Btn
  confirmEvt : ButtonState
  confirm_ne : confirmEvt ≠ .hold5S ∧ confirmEvt ≠ .release

/-- `TIMER_2S` -/
def timer2S : UInt32 := 2000

section Boards

variable (b : Board)

theorem scene0_ne_switch0 : (Board.buttonScene0Idx : b.Btn) ≠ Board.buttonSwitch0Idx := by
  intro h
  have hval := congrArg Fin.val h
  exact absurd hval (by decide : (0 : Nat) ≠ 0 + 2)

theorem scene1_ne_switch0 : (Board.buttonScene1Idx : b.Btn) ≠ Board.buttonSwitch0Idx := by
  intro h
  have hval := congrArg Fin.val h
  exact absurd hval (by decide : (1 : Nat) ≠ 0 + 2)

/-- `const_button_config_idx_arr`, confirmed by PRESS_ONE_TIME of `MASTER_BTN_INDEX` -/
def configGesture : ResetGesture b where
  fst := Board.buttonScene0Idx
  snd := Board.buttonSwitch0Idx
  ne := scene0_ne_switch0 b
  master := Board.buttonSwitch0Idx
  confirmEvt := .pressOneTime
  confirm_ne := by decide

/-- `const_button_default_idx_arr`, confirmed by PRESS_FIVE_TIME of the scene button -/
def defaultGesture : ResetGesture b where
  fst := Board.buttonScene1Idx
  snd := Board.buttonSwitch0Idx
  ne := scene1_ne_switch0 b
  master := Board.buttonScene1Idx
  confirmEvt := .pressFiveTime
  confirm_ne := by decide

/-- The gesture of a factory reset with, or without, the LED blinking. -/
def gestureOf : Bool → ResetGesture b
  | true => configGesture b
  | false => defaultGesture b

end Boards

namespace ResetGesture

variable {b : Board} (g : ResetGesture b)

/-- `is_config_button`, `is_default_button` -/
def Mem (i : b.Btn) : Prop := i = g.fst ∨ i = g.snd

instance (i : b.Btn) : Decidable (g.Mem i) := inferInstanceAs (Decidable (_ ∨ _))

/-- `idx_cmp` -/
def other (i : b.Btn) : b.Btn := if i = g.fst then g.snd else g.fst

/-- The last thing that happened made both buttons be in HOLD_5S, at `t`. -/
def BothHeld (t : UInt32) : List (BtnAct b UInt32) → Prop
  | [] => False
  | a :: h => g.Mem a.btn ∧ a.evt = .hold5S ∧ a.time = t ∧
    lastEvt h (g.other a.btn) = .hold5S

/-- `a` is a release behind which both buttons are up. -/
def LeavesUp (a : BtnAct b UInt32) (h : List (BtnAct b UInt32)) : Prop :=
  g.Mem a.btn ∧ a.evt = .release ∧ lastEvt h (g.other a.btn) = .release

/-- None of the events `newer`, which came behind `held`, left both buttons up. -/
def NoneUp (newer held : List (BtnAct b UInt32)) : Prop :=
  ∀ n x older, newer = n ++ x :: older → ¬ g.LeavesUp x (older ++ held)

/-- `a` is the second release: both buttons were in HOLD_5S at `since`, behind `held`; each was
released then, and never later than 2 s; and `a` is the first release to leave both up. -/
structure Completes (since : UInt32) (a : BtnAct b UInt32)
    (newer held : List (BtnAct b UInt32)) : Prop where
  both : g.BothHeld since held
  each : ∀ i, g.Mem i → ∃ x ∈ a :: newer, x.btn = i ∧ x.evt = .release
  inTime : ∀ x ∈ a :: newer, g.Mem x.btn → x.evt = .release → x.time - since ≤ timer2S
  up : g.LeavesUp a (newer ++ held)
  first : g.NoneUp newer held

/-- The last thing that happened was the second release of the gesture, at `t`. -/
def Armed (t : UInt32) (h : List (BtnAct b UInt32)) : Prop :=
  ∃ since a newer held, h = a :: (newer ++ held) ∧ g.Completes since a newer held ∧ a.time = t

/-- The gesture was performed, and its second release is no more than
`CONFIRM_RESET_TIMEOUT_MS` before `now`. -/
def Performed (now : UInt32) (h : List (BtnAct b UInt32)) : Prop :=
  ∃ newer armed t, h = newer ++ armed ∧ g.Armed t armed ∧ now - t ≤ confirmResetTimeoutMs

variable {g}

theorem mem_other {i : b.Btn} : g.Mem (g.other i) := by
  unfold other
  split
  · exact Or.inr rfl
  · exact Or.inl rfl

theorem other_snd : g.other g.snd = g.fst := if_neg g.ne.symm

theorem noneUp_nil {held : List (BtnAct b UInt32)} : g.NoneUp [] held := by
  intro n x older heq
  cases n <;> cases heq

theorem NoneUp.cons {newer held : List (BtnAct b UInt32)} {a : BtnAct b UInt32}
    (h : g.NoneUp newer held) (ha : ¬ g.LeavesUp a (newer ++ held)) :
    g.NoneUp (a :: newer) held := by
  intro n x older heq
  cases n with
  | nil =>
    cases heq
    exact ha
  | cons y n =>
    obtain ⟨-, hnewer⟩ := List.cons.inj heq
    exact h n x older hnewer

/-- A button of the pair is the one or the other. -/
theorem eq_or_other {i j : b.Btn} (hi : g.Mem i) (hj : g.Mem j) : j = i ∨ j = g.other i := by
  unfold other
  rcases hi with rfl | rfl
  · rw [if_pos rfl]
    exact hj
  · rw [if_neg g.ne.symm]
    exact hj.symm

end ResetGesture

/-! ## The record of a gesture -/

namespace ParaBtnReset

variable {b : Board} {g : ResetGesture b} {p : ParaBtnReset} {h : List (BtnAct b UInt32)}

/-- What the record of gesture `g` stands for, behind the history `h`: at STEP_HOLD_5S,
that both buttons were held, and that no release since was late or left both up; at
STEP_HOLD_5S_RELEASE, that the gesture lacks the confirming press only. -/
structure Tracks (g : ResetGesture b) (p : ParaBtnReset) (h : List (BtnAct b UInt32)) : Prop where
  held : p.step = .hold5S → ∃ newer held, h = newer ++ held ∧
    g.BothHeld p.changeStepLastT held ∧ g.NoneUp newer held ∧
    ∀ a ∈ newer, g.Mem a.btn → a.evt = .release → a.time - p.changeStepLastT ≤ timer2S
  armed : p.step = .hold5SRelease → ∃ newer armed, h = newer ++ armed ∧
    g.Armed p.isActiveStTime armed

/-- One event of button `i` on the record of gesture `g`, the last events being `last`. -/
def next (p : ParaBtnReset) (g : ResetGesture b) (now : UInt32) (last : b.Btn → ButtonState)
    (i : b.Btn) (evt : ButtonState) : ParaBtnReset :=
  if g.Mem i then
    if evt = .hold5S then p.hold now (last (g.other i))
    else if evt = .release then p.release now (last (g.other i))
    else if i = g.master ∧ evt = g.confirmEvt then (p.confirm now).1
    else p
  else p

theorem next_of_not_mem {now : UInt32} {last : b.Btn → ButtonState} {i : b.Btn}
    {evt : ButtonState} (hi : ¬ g.Mem i) : p.next g now last i evt = p := if_neg hi

/-- The reset goes ahead at the event. -/
def Confirms (p : ParaBtnReset) (g : ResetGesture b) (now : UInt32) (i : b.Btn)
    (evt : ButtonState) : Prop :=
  i = g.master ∧ evt = g.confirmEvt ∧ (p.confirm now).2 = true

theorem Tracks.of_idle (hidle : p.step = .idle) : Tracks g p h := by
  constructor
  · intro hstep
    cases hidle.symm.trans hstep
  · intro hstep
    cases hidle.symm.trans hstep

theorem Tracks.checkClean (ht : Tracks g p h) (now : UInt32) : Tracks g (p.checkClean now) h := by
  have hclean : ∀ q : ParaBtnReset, Tracks g q h →
      Tracks g (if q.step = .hold5S ∧ clockTimeExceed now q.changeStepLastT 2000 = true
        then q.timeout else q) h := by
    intro q hq
    split
    · exact .of_idle rfl
    · exact hq
  refine hclean _ ?_
  split
  · exact .of_idle rfl
  · exact ht

/-- An event that is no release of the pair adds nothing the record could miss. -/
theorem Tracks.cons (ht : Tracks g p h) {a : BtnAct b UInt32}
    (ha : g.Mem a.btn → a.evt ≠ .release) : Tracks g p (a :: h) := by
  constructor
  · intro hstep
    obtain ⟨newer, held, rfl, hheld, hnone, hlate⟩ := ht.held hstep
    have hup : ¬ g.LeavesUp a (newer ++ held) := fun hup => ha hup.1 hup.2.1
    refine ⟨a :: newer, held, rfl, hheld, hnone.cons hup, ?_⟩
    intro x hx hmem hrel
    rcases List.mem_cons.mp hx with rfl | hx
    · exact absurd hrel (ha hmem)
    · exact hlate x hx hmem hrel
  · intro hstep
    obtain ⟨newer, armed, rfl, harmed⟩ := ht.armed hstep
    exact ⟨a :: newer, armed, rfl, harmed⟩

/-- HOLD_5S of a button of the pair. -/
theorem Tracks.hold (ht : Tracks g p h) {a : BtnAct b UInt32} (hmem : g.Mem a.btn)
    (hevt : a.evt = .hold5S) :
    Tracks g (p.hold a.time (lastEvt h (g.other a.btn))) (a :: h) := by
  rw [ParaBtnReset.hold]
  split
  · next hheld =>
    constructor
    · intro _
      refine ⟨[], a :: h, rfl, ⟨hmem, hevt, rfl, hheld⟩, ResetGesture.noneUp_nil, ?_⟩
      intro x hx
      exact absurd hx List.not_mem_nil
    · rintro ⟨⟩
  · exact ht.cons fun _ hrel => nomatch hevt.symm.trans hrel

/-- Behind both holds, both buttons were last seen at HOLD_5S. -/
theorem lastEvt_of_bothHeld {t : UInt32} {i : b.Btn} (hi : g.Mem i) (hheld : g.BothHeld t h) :
    lastEvt h i = .hold5S := by
  cases h with
  | nil => exact absurd hheld id
  | cons a h =>
    obtain ⟨hmem, hevt, -, hother⟩ := hheld
    show (if a.btn = i then a.evt else lastEvt h i) = .hold5S
    split
    · exact hevt
    · next hbtn =>
      rcases g.eq_or_other hmem hi with rfl | rfl
      · exact absurd rfl hbtn
      · exact hother

/-- RELEASE of a button of the pair. -/
theorem Tracks.release (ht : Tracks g p h) {a : BtnAct b UInt32} (hmem : g.Mem a.btn)
    (hevt : a.evt = .release) :
    Tracks g (p.release a.time (lastEvt h (g.other a.btn))) (a :: h) := by
  rw [ParaBtnReset.release]
  split
  · next hstep =>
    obtain ⟨newer, held, rfl, hheld, hnone, hlate⟩ := ht.held hstep
    split
    · next htime =>
      have hnow : a.time - p.changeStepLastT ≤ timer2S := by
        exact UInt32.not_lt.mp (of_decide_eq_false htime)
      have hall : ∀ x ∈ a :: newer, g.Mem x.btn → x.evt = .release →
          x.time - p.changeStepLastT ≤ timer2S := by
        intro x hx hxmem hxrel
        rcases List.mem_cons.mp hx with rfl | hx
        · exact hnow
        · exact hlate x hx hxmem hxrel
      split
      · next hother =>
        -- the other button is up too, and was released since both were held
        constructor
        · rintro ⟨⟩
        · intro _
          refine ⟨[], a :: (newer ++ held), rfl, p.changeStepLastT, a, newer, held, rfl, ?_, rfl⟩
          refine ⟨hheld, fun i hi => ?_, hall, ⟨hmem, hevt, hother⟩, hnone⟩
          rcases g.eq_or_other hmem hi with rfl | rfl
          · exact ⟨a, List.mem_cons_self, rfl, hevt⟩
          · have happend : (∃ x ∈ newer, x.btn = g.other a.btn ∧
                x.evt = lastEvt (newer ++ held) (g.other a.btn)) ∨
                lastEvt (newer ++ held) (g.other a.btn) = lastEvt held (g.other a.btn) :=
              lastEvt_append
            rcases happend with ⟨x, hx, hbtn, hrel⟩ | hold
            · rw [hother] at hrel
              exact ⟨x, List.mem_cons_of_mem a hx, hbtn, hrel⟩
            · rw [hother, lastEvt_of_bothHeld hi hheld] at hold
              cases hold
      · next hother =>
        have hup : ¬ g.LeavesUp a (newer ++ held) := fun hup => hother hup.2.2
        constructor
        · intro _
          exact ⟨a :: newer, held, rfl, hheld, hnone.cons hup, hall⟩
        · intro harmed
          cases hstep.symm.trans harmed
    · exact .of_idle rfl
  · next hstep =>
    constructor
    · intro hheld
      exact absurd hheld hstep
    · intro harmed
      obtain ⟨newer, armed, rfl, harmed⟩ := ht.armed harmed
      exact ⟨a :: newer, armed, rfl, harmed⟩

/-- The confirming press adds nothing either. -/
theorem Tracks.confirm (ht : Tracks g p h) (now : UInt32) : Tracks g (p.confirm now).1 h := by
  rw [ParaBtnReset.confirm]
  split
  · split
    · exact ht
    · exact ht.checkClean now
  · exact ht

/-- **Step lemma** for a record: every event of a button keeps what it stands for. -/
theorem Tracks.next (ht : Tracks g p h) (a : BtnAct b UInt32) :
    Tracks g (p.next g a.time (lastEvt h) a.btn a.evt) (a :: h) := by
  rw [ParaBtnReset.next]
  split
  · next hmem =>
    split
    · next hevt => exact ht.hold hmem hevt
    · split
      · next hevt => exact ht.release hmem hevt
      · next hrel =>
        split
        · exact (ht.cons fun _ => hrel).confirm a.time
        · exact ht.cons fun _ => hrel
  · next hmem => exact ht.cons fun hx => absurd hx hmem

/-- A reset goes ahead behind its gesture only. -/
theorem Tracks.performed (ht : Tracks g p h) {now : UInt32} (hgo : (p.confirm now).2 = true) :
    g.Performed now h := by
  rw [ParaBtnReset.confirm] at hgo
  split at hgo
  · next hactive =>
    split at hgo
    · next htime =>
      obtain ⟨newer, armed, hh, harmed⟩ := ht.armed hactive.2
      exact ⟨newer, armed, _, hh, harmed, UInt32.not_lt.mp (of_decide_eq_false htime)⟩
    · cases hgo
  · cases hgo

end ParaBtnReset

/-! ## A button's own function -/

/-- How often a factory reset was asked for. -/
def NetState.resets {b : Board} (x : NetState b) (ledBlink : Bool) : Nat :=
  x.out.count (.setupFactoryReset ledBlink)

namespace Device

variable {b : Board}

/-- From `s` to `s'` neither the clock nor a reset has moved. -/
structure NoReset (s s' : NetDevice b) : Prop where
  time : s'.sh.timeMs = s.sh.timeMs
  resets : s'.env.resets = s.env.resets

namespace NoReset

variable {s s' s'' : NetDevice b}

theorem of_env (hsh : SharedKept s s') (henv : s'.env = s.env) : NoReset s s' :=
  ⟨hsh.timeMs, by rw [henv]⟩

theorem of_out (hsh : s'.sh = s.sh) (hout : s'.env.out = s.env.out) : NoReset s s' :=
  ⟨by rw [hsh], by unfold NetState.resets; rw [hout]⟩

theorem refl (s : NetDevice b) : NoReset s s := .of_out rfl rfl

theorem trans (h : NoReset s s') (h' : NoReset s' s'') : NoReset s s'' :=
  ⟨h'.time.trans h.time, h'.resets.trans h.resets⟩

theorem append (hsh : s'.sh = s.sh) {new : List NetOut}
    (hout : s'.env.out = s.env.out ++ new)
    (hnew : ∀ ledBlink, .setupFactoryReset ledBlink ∉ new) : NoReset s s' := by
  refine ⟨by rw [hsh], funext fun ledBlink => ?_⟩
  show s'.env.out.count _ = s.env.out.count _
  rw [hout, List.count_append, List.count_eq_zero.mpr (hnew ledBlink), Nat.add_zero]

theorem send (s : NetDevice b) {o : NetOut} (h : ∀ ledBlink, o ≠ .setupFactoryReset ledBlink) :
    NoReset s (s.send o) := by
  refine .append rfl rfl fun ledBlink hmem => ?_
  exact h ledBlink (List.mem_singleton.mp hmem).symm

end NoReset

theorem noReset_publishStatus (s : NetDevice b) (m : b.Btn) : NoReset s (s.publishStatus m) := by
  rw [publishStatus]
  dsimp only
  split
  · refine .append rfl rfl fun _ hmem => ?_
    cases List.mem_singleton.mp hmem
  · refine .send s fun _ hx => ?_
    cases hx

theorem noReset_sendControl (s : NetDevice b) (m : b.Btn) (st updateEn : Bool) :
    NoReset s (s.sendControlDevManualToMcu m st updateEn) := by
  rw [sendControlDevManualToMcu]
  cases Board.relayIdx m with
  | none => exact .refl s
  | some c =>
    dsimp only
    split
    · generalize hs1 : s.onEnv _ = s1
      have h1 : NoReset s s1 := hs1 ▸ .of_out rfl rfl
      generalize hs2 : (if Flags.isOn s1.relay.rlsTarget c = st then s1.publishStatus m else s1)
        = s2
      have h2 : NoReset s1 s2 := by
        rw [← hs2]
        split
        · exact s1.noReset_publishStatus m
        · exact .refl s1
      have h3 : NoReset s2 (s2.netState c st) := .of_env (s2.shared_netState c st) (env_netState ..)
      split
      · exact ((h1.trans h2).trans h3).trans (.of_out rfl rfl)
      · exact (h1.trans h2).trans h3
    · exact .refl s

theorem noReset_onOffSet (s : NetDevice b) (set : MeshCmdGOnoffSet) (extra : Option UInt8)
    (m : b.Btn) (src dst : UInt16) :
    NoReset s (s.myHandleMeshCmdSigGOnOffSet set extra m src dst) := by
  rw [myHandleMeshCmdSigGOnOffSet]
  cases Board.relayIdx m with
  | none => exact .refl s
  | some c =>
    dsimp only
    generalize (if (s.sh.lightness m).present ≠ levelOff then (1 : UInt8) else 0) = present
    split
    · exact .refl s
    · split
      · exact .refl s
      · split
        · exact .refl s
        · split
          · exact .of_out rfl rfl
          · refine .trans ?_ (noReset_sendControl _ ..)
            exact .of_env (s.shared_updateControlMessageParams ..)
              (s.env_updateControlMessageParams ..)

end Device

namespace Panel

variable {b : Board}

/-- From `s` to `s'` the gestures have rested, and nothing they look at has changed. -/
structure GesturesRest (s s' : Panel b) : Prop where
  reset : s'.paraBtnReset = s.paraBtnReset
  default : s'.paraBtnDefault = s.paraBtnDefault
  last : ∀ i, (s'.optBtnBeforeSt i).evt = (s.optBtnBeforeSt i).evt
  dev : Device.NoReset s.dev s'.dev

namespace GesturesRest

variable {s s' s'' : Panel b}

theorem refl (s : Panel b) : GesturesRest s s := ⟨rfl, rfl, fun _ => rfl, .refl _⟩

theorem trans (h : GesturesRest s s') (h' : GesturesRest s' s'') : GesturesRest s s'' :=
  ⟨h'.reset.trans h.reset, h'.default.trans h.default,
    fun i => (h'.last i).trans (h.last i), h.dev.trans h'.dev⟩

theorem onDev (s : Panel b) {f : NetDevice b → NetDevice b}
    (hf : Device.NoReset s.dev (f s.dev)) : GesturesRest s (s.onDev f) :=
  ⟨rfl, rfl, fun _ => rfl, hf⟩

theorem send (s : Panel b) {o : NetOut} (h : ∀ ledBlink, o ≠ .setupFactoryReset ledBlink) :
    GesturesRest s (s.send o) := .onDev s (.send s.dev h)

theorem updTouch (s : Panel b) (i : b.Btn) (f : BtnEvt → BtnEvt) :
    GesturesRest s (s.updTouch i f) := .onDev s (.of_out rfl rfl)

theorem setLocally (s : Panel b) (i : b.Btn) (v : Bool) :
    GesturesRest s (s.setLocally i v) := .onDev s (.of_out rfl rfl)

theorem updMany (s : Panel b) (i : b.Btn) (p : BtnManyPar) : GesturesRest s (s.updMany i p) :=
  ⟨rfl, rfl, fun _ => rfl, .refl _⟩

/-- A flag of a button's last event changes. -/
theorem updBtn (s : Panel b) (i : b.Btn) {f : BtnEvt → BtnEvt}
    (hf : ∀ e, (f e).evt = e.evt) : GesturesRest s (s.updBtn i f) := by
  refine ⟨rfl, rfl, fun j => ?_, .refl _⟩
  show (Function.update s.optBtnBeforeSt i (f (s.optBtnBeforeSt i)) j).evt = _
  by_cases hj : j = i
  · subst hj
    rw [Function.update_self]
    exact hf _
  · rw [Function.update_of_ne hj]

end GesturesRest

section Functions

variable (s : Panel b) (i : b.Btn)

theorem rest_ledScene (n : Nat) : GesturesRest s (s.ledScene i n) :=
  .send s fun _ h => nomatch h

theorem rest_ledRelay (n : Nat) : GesturesRest s (s.ledRelay i n) :=
  .send s fun _ h => nomatch h

theorem rest_dimmingActive (dir : ControlDirection) (dst : UInt16) :
    GesturesRest s (s.dimmingActive i dir dst) := .send s fun _ h => nomatch h

theorem rest_keyReportSend (keyCode : UInt8) (enExecution : Bool) :
    GesturesRest s (s.keyReportSend i keyCode enExecution) := by
  unfold keyReportSend
  dsimp only
  split
  · refine .trans ?_ (.send _ fun _ h => nomatch h)
    split
    · exact .send s fun _ h => nomatch h
    · exact .refl s
  · exact .refl s

/-- The messages of a dimming event are dimming messages and LED commands. -/
theorem rest_dimmingControl (evt : UInt8) (st : DimmingButton) :
    GesturesRest s (s.dimmingControl i evt st) := by
  let Calm (r : Scenes b × List NetOut) : Prop :=
    ∀ ledBlink, NetOut.setupFactoryReset ledBlink ∉ r.2
  have hentry : ∀ p dir r j, Calm r →
      Calm (Scenes.dimmingEntry s.dev.sh.eleAdrPrimary i p dir st r j) := by
    intro p dir r j hr
    rw [Scenes.dimmingEntry]
    split
    · rw [Scenes.executionDimmingControl]
      split
      · exact hr
      · intro ledBlink hmem
        rcases List.mem_append.mp hmem with hmem | hmem
        · rcases List.mem_append.mp hmem with hmem | hmem
          · exact hr ledBlink hmem
          · split at hmem
            · cases List.mem_singleton.mp hmem
            · exact List.not_mem_nil hmem
        · cases List.mem_singleton.mp hmem
    · exact hr
  have hnil : Calm (s.scenes, []) := fun _ => List.not_mem_nil
  have hrun : ∀ p dir, Calm (runFrom (Scenes.dimmingEntry s.dev.sh.eleAdrPrimary i p dir st)
      (s.scenes, []) (List.finRange 5)) := fun p dir =>
    invariant_runFrom (I := Calm) (hentry p dir) hnil _
  have hall :
      Calm (s.scenes.executionDimmingControlByKeyNumber s.dev.sh.eleAdrPrimary i evt st) := by
    rw [Scenes.executionDimmingControlByKeyNumber]
    cases getKeyEventIndex evt with
    | none =>
      dsimp only
      rw [ite_self, ite_self, ite_self]
      exact hnil
    | some e =>
      dsimp only
      split
      · exact hrun _ _
      · split
        · exact hrun _ _
        · split
          · exact hrun _ _
          · exact hnil
  exact ⟨rfl, rfl, fun _ => rfl, .append rfl rfl hall⟩

theorem rest_scenePress (keyCode : UInt8) : GesturesRest s (s.scenePress i keyCode) := by
  unfold scenePress
  split
  · exact .refl s
  · split
    · exact s.rest_keyReportSend i _ _
    · split
      · exact .updMany s i _
      · exact s.rest_keyReportSend i _ _

theorem rest_sceneHold500MS : GesturesRest s (s.sceneHold500MS i) := by
  unfold sceneHold500MS
  split
  · exact .refl s
  · dsimp only
    refine .trans (.trans ?_ (rest_keyReportSend _ i _ _)) (.updMany _ i _)
    refine .trans ?_ (rest_dimmingControl _ i _ _)
    exact .updBtn s i fun _ => rfl

theorem rest_sceneRelease : GesturesRest s (s.sceneRelease i) := by
  have hunlocked : ∀ s : Panel b, GesturesRest s (s.sceneReleaseUnlocked i) := by
    intro s
    unfold sceneReleaseUnlocked
    dsimp only
    split
    · split
      · exact .trans (s.rest_dimmingControl i _ _) (.updBtn _ i fun _ => rfl)
      · split
        · exact s.rest_dimmingControl i _ _
        · exact .refl s
    · split
      · exact s.rest_keyReportSend i _ _
      · exact .refl s
  have hlocked : ∀ s₁, GesturesRest s s₁ →
      GesturesRest s (if s₁.buttonIsLock i then s₁ else s₁.sceneReleaseUnlocked i) := by
    intro s₁ h₁
    split
    · exact h₁
    · exact h₁.trans (hunlocked s₁)
  unfold sceneRelease
  refine hlocked _ ?_
  split
  · exact s.rest_ledScene i 1
  · exact .refl s

theorem rest_buttonHandleSceneBtnState (evt : ButtonState) :
    GesturesRest s (s.buttonHandleSceneBtnState i evt) := by
  unfold buttonHandleSceneBtnState
  cases evt with
  | hold500MS => exact s.rest_sceneHold500MS i
  | pressOneTime => exact s.rest_scenePress i _
  | pressTwoTime => exact s.rest_scenePress i _
  | release => exact s.rest_sceneRelease i
  | noPress =>
    dsimp only
    split
    · exact .updMany s i _
    · exact .refl s
  | pressTenTime =>
    dsimp only
    split
    · refine .trans ?_ (rest_ledScene _ i 2)
      exact ⟨rfl, rfl, fun _ => rfl, .refl _⟩
    · exact .refl s
  | startPress | hold2S =>
    dsimp only
    split
    · exact s.rest_ledScene i _
    · exact .refl s
  | _ => exact .refl s

theorem rest_dimmingHold (adr : UInt16) : GesturesRest s (s.dimmingHold i adr) := by
  have hset : ∀ s : Panel b, GesturesRest s (s.onDev fun d =>
      d.myHandleMeshCmdSigGOnOffSet ⟨gOn, 0, 0, 0⟩ none i gatewayUnicastAddr (d.eleAdr i)) :=
    fun s => .onDev s (s.dev.noReset_onOffSet ..)
  have hdirec : ∀ dir, GesturesRest s
      { s with dimmingDirecArr := Function.update s.dimmingDirecArr i dir } :=
    fun _ => ⟨rfl, rfl, fun _ => rfl, .refl _⟩
  have hsend : ∀ (s : Panel b) dir n, GesturesRest s ((s.dimmingActive i dir adr).ledRelay i n) :=
    fun s dir n => .trans (s.rest_dimmingActive i dir adr) (rest_ledRelay _ i n)
  unfold dimmingHold
  dsimp only
  generalize decide ((s.dev.sh.lightness i).present = levelOff) = isOff
  generalize (if isOff = true then udUp else (s.dimmingDirecArr i ^^^ 1) &&& 1) = dir
  refine .trans ((hdirec dir).trans ?_) (.updTouch _ i _)
  split
  · exact .trans ((hset _).trans (.setLocally _ i true)) (hsend _ _ 1)
  · split
    · exact hsend _ _ 2
    · exact .refl _

theorem rest_toggleState (c : Nat) :
    GesturesRest s (s.onDev fun d => d.toggleState c .device) :=
  .onDev s (.of_env (s.dev.shared_toggleState c _) (s.dev.env_toggleState c _))

theorem rest_dimmingRelease (adr : UInt16) : GesturesRest s (s.dimmingRelease i adr) := by
  unfold dimmingRelease
  dsimp only
  split
  · refine .trans (.trans ?_ (.updTouch _ i _)) (.setLocally _ i false)
    exact s.rest_dimmingActive i _ adr
  · split
    · exact s.rest_toggleState _
    · exact .refl s

theorem rest_dimmingHandleBtnSt (evt : ButtonState) :
    GesturesRest s (s.dimmingHandleBtnSt i evt) := by
  unfold dimmingHandleBtnSt
  dsimp only
  split
  · split
    · exact s.rest_toggleState _
    · exact .refl s
  · refine .trans ?_ (.updTouch _ i _)
    cases evt with
    | hold500MS => exact s.rest_dimmingHold i _
    | release => exact s.rest_dimmingRelease i _
    | _ => exact .refl s

theorem rest_relayBtnEvent (c : b.Chn) (mode : SwitchMode) (evt : ButtonState) :
    GesturesRest s (s.relayBtnEvent i c mode evt) := by
  have hset : ∀ st store, GesturesRest s (s.onDev fun d => d.setTargetState c st .device store) :=
    fun st store => .onDev s (.of_env (s.dev.shared_setTargetState c st _ store)
      (s.dev.env_setTargetState c st _ store))
  unfold relayBtnEvent
  cases evt with
  | startPress =>
    dsimp only
    split
    · exact s.rest_toggleState _
    · split
      · exact hset _ _
      · exact .refl s
  | pressTenTime =>
    dsimp only
    split
    · refine .trans ?_ (rest_ledRelay _ i 2)
      unfold swConfigEnableAutoSend
      split <;> exact ⟨rfl, rfl, fun _ => rfl, .refl _⟩
    · exact .refl s
  | release =>
    dsimp only
    split
    · exact hset _ _
    · exact .refl s
  | _ => exact .refl s

/-- **Frame**: a button's own function is no part of a gesture. -/
theorem rest_buttonHandleFunction (evt : ButtonState) :
    GesturesRest s (s.buttonHandleFunction i evt) := by
  unfold buttonHandleFunction
  split
  · exact s.rest_buttonHandleSceneBtnState i evt
  · split
    · unfold buttonHandleRelayBtnState
      split
      · exact .refl s
      · split
        · exact .refl s
        · split
          · exact .refl s
          · dsimp only
            split
            · exact s.rest_dimmingHandleBtnSt i evt
            · exact s.rest_relayBtnEvent i _ _ evt
    · exact .refl s

end Functions

/-! ## The handler of the gestures -/

/-- The last events of the buttons. -/
def lastEvts (s : Panel b) (i : b.Btn) : ButtonState := (s.optBtnBeforeSt i).evt

/-- How often a factory reset was asked for. -/
def resets (s : Panel b) (ledBlink : Bool) : Nat := s.dev.env.resets ledBlink

theorem resets_send (s : Panel b) (o : NetOut) (ledBlink : Bool) :
    (s.send o).resets ledBlink =
      s.resets ledBlink + if o = .setupFactoryReset ledBlink then 1 else 0 := by
  show (s.dev.env.out ++ [o]).count _ = s.dev.env.out.count _ + _
  rw [List.count_append, List.count_singleton]
  simp only [beq_iff_eq]

/-- What the handler does to the gestures: one event on each record, and a reset where the
event confirms one. -/
structure SpecialStep (i : b.Btn) (evt : ButtonState) (s s' : Panel b) : Prop where
  reset : s'.paraBtnReset = s.paraBtnReset.next (configGesture b) s.now s.lastEvts i evt
  default : s'.paraBtnDefault = s.paraBtnDefault.next (defaultGesture b) s.now s.lastEvts i evt
  last : s'.optBtnBeforeSt = s.optBtnBeforeSt
  now : s'.now = s.now
  asksConfig : s'.resets true = s.resets true ∨
    s.paraBtnReset.Confirms (configGesture b) s.now i evt
  asksDefault : s'.resets false = s.resets false ∨
    s.paraBtnDefault.Confirms (defaultGesture b) s.now i evt

/-- The gesture of the config buttons. -/
theorem handleConfigBtn_spec (s : Panel b) {i : b.Btn} (hi : (configGesture b).Mem i)
    (evt : ButtonState) :
    ∃ p, p = s.paraBtnReset.next (configGesture b) s.now s.lastEvts i evt ∧
      (s.handleConfigBtn i ((configGesture b).other i) evt = { s with paraBtnReset := p } ∨
        s.paraBtnReset.Confirms (configGesture b) s.now i evt ∧
          s.handleConfigBtn i ((configGesture b).other i) evt =
            { s with paraBtnReset := p }.send (.setupFactoryReset true)) := by
  refine ⟨_, rfl, ?_⟩
  rw [ParaBtnReset.next, if_pos hi]
  unfold handleConfigBtn
  cases evt with
  | hold5S => exact Or.inl rfl
  | release => exact Or.inl rfl
  | pressOneTime =>
    by_cases hmaster : i = Board.buttonSwitch0Idx
    · by_cases hgo : (s.paraBtnReset.confirm s.now).2 = true
      · refine Or.inr ⟨⟨hmaster, rfl, hgo⟩, ?_⟩
        simp [configGesture, hmaster, hgo]
      · refine Or.inl ?_
        simp [configGesture, hmaster, hgo]
    · refine Or.inl ?_
      simp [configGesture, hmaster]
  | _ =>
    refine Or.inl ?_
    simp [configGesture]

/-- The gesture of the default buttons. -/
theorem handleDefaultBtn_spec (s : Panel b) {i : b.Btn} (hi : (defaultGesture b).Mem i)
    (evt : ButtonState) :
    ∃ p, p = s.paraBtnDefault.next (defaultGesture b) s.now s.lastEvts i evt ∧
      (s.handleDefaultBtn i ((defaultGesture b).other i) evt = { s with paraBtnDefault := p } ∨
        s.paraBtnDefault.Confirms (defaultGesture b) s.now i evt ∧
          s.handleDefaultBtn i ((defaultGesture b).other i) evt =
            ({ s with paraBtnDefault := p }.send (.setupFactoryReset false)).send
              .forceResetEnergyAndRelayOnTime) := by
  refine ⟨_, rfl, ?_⟩
  rw [ParaBtnReset.next, if_pos hi]
  unfold handleDefaultBtn
  cases evt with
  | hold5S => exact Or.inl rfl
  | release => exact Or.inl rfl
  | pressFiveTime =>
    by_cases hmaster : i = Board.buttonScene1Idx
    · by_cases hgo : (s.paraBtnDefault.confirm s.now).2 = true
      · refine Or.inr ⟨⟨hmaster, rfl, hgo⟩, ?_⟩
        simp [defaultGesture, hmaster, hgo]
      · refine Or.inl ?_
        simp [defaultGesture, hmaster, hgo]
    · refine Or.inl ?_
      simp [defaultGesture, hmaster]
  | _ =>
    refine Or.inl ?_
    simp [defaultGesture]

/-- **Step lemma** for the handler of the gestures. -/
theorem special_step (s : Panel b) (i : b.Btn) (evt : ButtonState) :
    SpecialStep i evt s (s.buttonHandleSpecialEvent i evt) := by
  unfold buttonHandleSpecialEvent
  dsimp only
  generalize hs₁ : (if i = Board.buttonScene0Idx then _ else _) = s₁
  -- the gesture of the config buttons
  have hconfig : ∃ p, p = s.paraBtnReset.next (configGesture b) s.now s.lastEvts i evt ∧
      (s₁ = { s with paraBtnReset := p } ∨
        s.paraBtnReset.Confirms (configGesture b) s.now i evt ∧
          s₁ = { s with paraBtnReset := p }.send (.setupFactoryReset true)) := by
    rw [← hs₁]
    split
    · next hi =>
      subst hi
      exact s.handleConfigBtn_spec (Or.inl rfl) evt
    · next hfst =>
      split
      · next hi =>
        subst hi
        have hspec := s.handleConfigBtn_spec (i := Board.buttonSwitch0Idx) (Or.inr rfl) evt
        have hother : (configGesture b).other Board.buttonSwitch0Idx = _ := ResetGesture.other_snd
        rw [hother] at hspec
        exact hspec
      · next hsnd =>
        have hnot : ¬ (configGesture b).Mem i := not_or.mpr ⟨hfst, hsnd⟩
        exact ⟨s.paraBtnReset, (ParaBtnReset.next_of_not_mem hnot).symm, Or.inl rfl⟩
  generalize hs₂ : (if i = Board.buttonScene1Idx then _ else _) = s₂
  -- the gesture of the default buttons
  have hdefault : ∃ p, p = s₁.paraBtnDefault.next (defaultGesture b) s₁.now s₁.lastEvts i evt ∧
      (s₂ = { s₁ with paraBtnDefault := p } ∨
        s₁.paraBtnDefault.Confirms (defaultGesture b) s₁.now i evt ∧
          s₂ = ({ s₁ with paraBtnDefault := p }.send (.setupFactoryReset false)).send
            .forceResetEnergyAndRelayOnTime) := by
    rw [← hs₂]
    split
    · next hi =>
      subst hi
      exact s₁.handleDefaultBtn_spec (Or.inl rfl) evt
    · next hfst =>
      split
      · next hi =>
        subst hi
        have hspec := s₁.handleDefaultBtn_spec (i := Board.buttonSwitch0Idx) (Or.inr rfl) evt
        have hother : (defaultGesture b).other Board.buttonSwitch0Idx = _ := ResetGesture.other_snd
        rw [hother] at hspec
        exact hspec
      · next hsnd =>
        have hnot : ¬ (defaultGesture b).Mem i := not_or.mpr ⟨hfst, hsnd⟩
        exact ⟨s₁.paraBtnDefault, (ParaBtnReset.next_of_not_mem hnot).symm, Or.inl rfl⟩
  obtain ⟨p, hp, h₁⟩ := hconfig
  obtain ⟨q, hq, h₂⟩ := hdefault
  have hkeep : s₁.paraBtnReset = p ∧ s₁.paraBtnDefault = s.paraBtnDefault ∧
      s₁.optBtnBeforeSt = s.optBtnBeforeSt ∧ s₁.now = s.now ∧
      s₁.resets false = s.resets false ∧
      (s₁.resets true = s.resets true ∨
        s.paraBtnReset.Confirms (configGesture b) s.now i evt) := by
    rcases h₁ with rfl | ⟨hgo, rfl⟩
    · exact ⟨rfl, rfl, rfl, rfl, rfl, Or.inl rfl⟩
    · exact ⟨rfl, rfl, rfl, rfl, resets_send .., Or.inr hgo⟩
  obtain ⟨hreset, hdef, hopt, hnow, hfalse, htrue⟩ := hkeep
  have hlast : s₁.lastEvts = s.lastEvts := by
    funext j
    rw [lastEvts, lastEvts, hopt]
  rw [hdef, hnow, hlast] at hq
  rw [hdef, hnow] at h₂
  rcases h₂ with rfl | ⟨hgo, rfl⟩
  · exact ⟨hreset.trans hp, hq, hopt, hnow, htrue, Or.inl hfalse⟩
  · refine ⟨hreset.trans hp, hq, hopt, hnow, ?_, Or.inr hgo⟩
    rw [resets_send, resets_send]
    exact htrue

/-- What the handler of a button event does to the gestures. -/
structure OptionStep (i : b.Btn) (evt : ButtonState) (s s' : Panel b) : Prop where
  reset : s'.paraBtnReset = s.paraBtnReset.next (configGesture b) s.now s.lastEvts i evt
  default : s'.paraBtnDefault = s.paraBtnDefault.next (defaultGesture b) s.now s.lastEvts i evt
  last : ∀ j, s'.lastEvts j = if i = j then evt else s.lastEvts j
  now : s'.now = s.now
  asksConfig : s'.resets true = s.resets true ∨
    s.paraBtnReset.Confirms (configGesture b) s.now i evt
  asksDefault : s'.resets false = s.resets false ∨
    s.paraBtnDefault.Confirms (defaultGesture b) s.now i evt

/-- **Step lemma** for the handler of a button event, outside the factory test. -/
theorem option_step (s : Panel b) (i : b.Btn) (evt : ButtonState)
    (hnormal : s.dev.sh.factActive = false) :
    OptionStep i evt s (s.buttonHandleOptionBtnState i evt) := by
  have hrest := s.rest_buttonHandleFunction i evt
  obtain ⟨hreset, hdefault, hopt, hnow, hasksConfig, hasksDefault⟩ :=
    (s.buttonHandleFunction i evt).special_step i evt
  have htime : (s.buttonHandleFunction i evt).now = s.now := hrest.dev.time
  have hlast : (s.buttonHandleFunction i evt).lastEvts = s.lastEvts := funext hrest.last
  have hresets : (s.buttonHandleFunction i evt).resets = s.resets := hrest.dev.resets
  rw [htime, hlast, hrest.reset] at hreset
  rw [htime, hlast, hrest.default] at hdefault
  rw [htime, hrest.reset, hresets] at hasksConfig
  rw [htime, hrest.default, hresets] at hasksDefault
  rw [htime] at hnow
  unfold buttonHandleOptionBtnState
  rw [hnormal, if_neg Bool.false_ne_true]
  dsimp only
  generalize (s.buttonHandleFunction i evt).buttonHandleSpecialEvent i evt = s₂ at *
  refine ⟨hreset, hdefault, fun j => ?_, hnow, hasksConfig, hasksDefault⟩
  show (Function.update s₂.optBtnBeforeSt i _ j).evt = if i = j then evt else s.lastEvts j
  by_cases hj : j = i
  · rw [hj, Function.update_self, if_pos rfl]
  · rw [Function.update_of_ne hj, if_neg (Ne.symm hj), hopt]
    exact congrFun hlast j

end Panel

/-! ## Runs -/

/-- The switch, and the history of its button events, the newest first. -/
structure Watched (b : Board) where
  panel : Panel b
  acts : List (BtnAct b UInt32)

/-- A new history: no gesture is on, and no button has been seen. -/
structure Panel.Unseen {b : Board} (s : Panel b) : Prop where
  reset : s.paraBtnReset.step = .idle
  default : s.paraBtnDefault.step = .idle
  last : ∀ i, (s.optBtnBeforeSt i).evt = .noPress

/-- The events that `button.c` handles. -/
def PanelEvent.OfButtons {b : Board} : PanelEvent b → Prop
  | .btn _ _ | .clean => True
  | _ => False

namespace Watched

variable {b : Board}

def step (w : Watched b) (ev : PanelEvent b) : Watched b where
  panel := w.panel.step ev
  acts :=
    match ev with
    | .btn i evt => ⟨i, evt, w.panel.now⟩ :: w.acts
    | _ => w.acts

/-- The switch is not in the factory test. -/
def Normal (w : Watched b) (_ : PanelEvent b) : Prop := w.panel.dev.sh.factActive = false

instance (w : Watched b) (ev : PanelEvent b) : Decidable (w.Normal ev) :=
  inferInstanceAs (Decidable (_ = false))

/-- A factory reset that the event asks for is the end of its gesture. -/
def ResetsByGesture (w : Watched b) (ev : PanelEvent b) : Prop :=
  ∀ ledBlink, ev.OfButtons →
    Panel.Sends w.panel (w.panel.step ev) (· = .setupFactoryReset ledBlink) →
    ev = .btn (gestureOf b ledBlink).master (gestureOf b ledBlink).confirmEvt ∧
      (gestureOf b ledBlink).Performed w.panel.now w.acts

/-- The records stand for what has happened. -/
structure Inv (w : Watched b) : Prop where
  reset : w.panel.paraBtnReset.Tracks (configGesture b) w.acts
  default : w.panel.paraBtnDefault.Tracks (defaultGesture b) w.acts
  last : ∀ i, (w.panel.optBtnBeforeSt i).evt = lastEvt w.acts i

/-- **Step lemma**: outside the factory test every event keeps what the records stand for. -/
theorem Inv.step {w : Watched b} (h : w.Inv) {ev : PanelEvent b} (hnormal : w.Normal ev) :
    (w.step ev).Inv := by
  cases ev with
  | btn i evt =>
    have hstep := w.panel.option_step i evt hnormal
    have hlast : w.panel.lastEvts = lastEvt w.acts := funext h.last
    obtain ⟨hreset, hdefault, hseen, -, -, -⟩ := hstep
    rw [hlast] at hreset hdefault hseen
    exact ⟨hreset ▸ h.reset.next ⟨i, evt, w.panel.now⟩,
      hdefault ▸ h.default.next ⟨i, evt, w.panel.now⟩, hseen⟩
  | clean => exact ⟨h.reset.checkClean _, h.default.checkClean _, h.last⟩
  | _ => exact ⟨h.reset, h.default, h.last⟩

/-- What was asked for was counted. -/
theorem not_sends {s s' : Panel b} {ledBlink : Bool} (h : s'.resets ledBlink = s.resets ledBlink) :
    ¬ Panel.Sends s s' (· = .setupFactoryReset ledBlink) := by
  rintro ⟨new, hout, o, hmem, rfl⟩
  have hcount : s'.resets ledBlink =
      s.resets ledBlink + new.count (.setupFactoryReset ledBlink) := by
    show s'.dev.env.out.count _ = s.dev.env.out.count _ + _
    rw [hout, List.count_append]
  have hpos := List.count_pos_iff.mpr hmem
  omega

theorem resetsByGesture_step {w : Watched b} (h : w.Inv) {ev : PanelEvent b}
    (hnormal : w.Normal ev) : w.ResetsByGesture ev := by
  intro ledBlink hbuttons hsends
  cases ev with
  | btn i evt =>
    have hstep := w.panel.option_step i evt hnormal
    cases ledBlink with
    | true =>
      rcases hstep.asksConfig with hsame | ⟨rfl, rfl, hgo⟩
      · exact absurd hsends (not_sends hsame)
      · exact ⟨rfl, h.reset.performed hgo⟩
    | false =>
      rcases hstep.asksDefault with hsame | ⟨rfl, rfl, hgo⟩
      · exact absurd hsends (not_sends hsame)
      · exact ⟨rfl, h.default.performed hgo⟩
  | clean => exact absurd hsends (not_sends rfl)
  | _ => exact absurd hbuttons id

/-- **A factory reset needs its whole gesture.** In every run outside the factory test,
with events and polls in any order and at any time, whatever asks for a reset is the
confirming press of a gesture that was performed in time. -/
theorem resets_by_gesture {s : Panel b} (hs : s.Unseen) (evs : List (PanelEvent b))
    (hnormal : AllSteps Watched.step Watched.Normal ⟨s, []⟩ evs) :
    AllSteps Watched.step Watched.ResetsByGesture ⟨s, []⟩ evs := by
  have hinv : Inv ⟨s, []⟩ := ⟨.of_idle hs.reset, .of_idle hs.default, hs.last⟩
  exact hnormal.transport (I := Watched.Inv) (fun _ _ h hok => h.step hok)
    (fun _ _ h hok => resetsByGesture_step h hok) hinv

/-- Both config buttons held for 5 s and let go, and the relay button pressed. -/
def configReset : List (PanelEvent board1) :=
  [.btn Board.buttonScene0Idx .startPress, .btn Board.buttonSwitch0Idx .startPress,
    .clock 5100 5, .btn Board.buttonScene0Idx .hold5S, .btn Board.buttonSwitch0Idx .hold5S, .clean,
    .clock 200 0, .btn Board.buttonSwitch0Idx .release, .btn Board.buttonScene0Idx .release, .clean,
    .clock 1700 2, .btn Board.buttonSwitch0Idx .startPress, .btn Board.buttonSwitch0Idx .release,
    .clock 800 1, .btn Board.buttonSwitch0Idx .pressOneTime]

theorem resets_by_gesture_config :
    NetOut.setupFactoryReset true ∈ (runFrom Panel.step Panel.new1 configReset).dev.env.out ∧
      AllSteps Watched.step Watched.ResetsByGesture ⟨Panel.new1, []⟩ configReset :=
  ⟨by decide +kernel, resets_by_gesture ⟨rfl, rfl, fun _ => rfl⟩ configReset (by decide +kernel)⟩

end Watched

end LumesSwitch
