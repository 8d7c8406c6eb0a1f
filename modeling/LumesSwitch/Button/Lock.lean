import LumesSwitch.Scene.Dimming
import LumesSwitch.Button.Panel

/-!
# Locked buttons

A locked button should do nothing. Every case of the two handlers tests the lock, but
for the HOLD_500MS of a scene button with a dimming event.

- `Panel.Quiet` — no message was sent, and no relay commanded;
- `Panel.lockedInert_iff` — an event of a locked button is quiet exactly if it is not
  such a hold;
- `panel_lockedInert_iff` — the same of every event of a run.
-/

namespace LumesSwitch

open Runs

namespace Panel

variable {b : Board}

/-- The messages sent so far. -/
def messages (s : Panel b) : List NetOut := s.dev.env.out.filter NetOut.isMessage

/-- From `s` to `s'` nothing was sent and no relay commanded. -/
structure Quiet (s s' : Panel b) : Prop where
  messages : s'.messages = s.messages
  set : s'.dev.relay.rlsSet = s.dev.relay.rlsSet
  target : s'.dev.relay.rlsTarget = s.dev.relay.rlsTarget

namespace Quiet

variable {s s' s'' : Panel b}

theorem of_dev (h : s'.dev = s.dev) : Quiet s s' :=
  ⟨by rw [Panel.messages, h]; rfl, by rw [h], by rw [h]⟩

theorem refl (s : Panel b) : Quiet s s := .of_dev rfl

theorem trans (h : Quiet s s') (h' : Quiet s' s'') : Quiet s s'' :=
  ⟨h'.messages.trans h.messages, h'.set.trans h.set, h'.target.trans h.target⟩

/-- A call that is no message is quiet. -/
theorem send (s : Panel b) {o : NetOut} (h : o.isMessage = false) : Quiet s (s.send o) := by
  refine ⟨?_, rfl, rfl⟩
  show (s.dev.env.out ++ [o]).filter NetOut.isMessage = s.dev.env.out.filter NetOut.isMessage
  rw [List.filter_append, List.filter_singleton, h]
  exact List.append_nil _

end Quiet

theorem quiet_iff_of_quiet {s s' s'' : Panel b} (h : Quiet s' s'') : Quiet s s'' ↔ Quiet s s' := by
  constructor
  · intro hs
    exact ⟨h.messages.symm.trans hs.messages, h.set.symm.trans hs.set,
      h.target.symm.trans hs.target⟩
  · intro hs
    exact hs.trans h

/-! ## The gestures -/

/-- From `s` to `s'` a gesture has moved on. It may have called something, but not at a
release. -/
structure GestureStep (evt : ButtonState) (s s' : Panel b) : Prop where
  quiet : Quiet s s'
  opt : s'.optBtnBeforeSt = s.optBtnBeforeSt
  touch : s'.dev.env.touchBtnBeforeSt = s.dev.env.touchBtnBeforeSt
  release : evt = .release → s'.dev = s.dev

namespace GestureStep

variable {evt : ButtonState} {s s' s'' : Panel b}

theorem of_dev (hdev : s'.dev = s.dev) (hopt : s'.optBtnBeforeSt = s.optBtnBeforeSt) :
    GestureStep evt s s' :=
  ⟨.of_dev hdev, hopt, by rw [hdev], fun _ => hdev⟩

theorem refl (evt : ButtonState) (s : Panel b) : GestureStep evt s s := .of_dev rfl rfl

theorem trans (h : GestureStep evt s s') (h' : GestureStep evt s' s'') : GestureStep evt s s'' :=
  ⟨h.quiet.trans h'.quiet, h'.opt.trans h.opt, h'.touch.trans h.touch,
    fun hevt => (h'.release hevt).trans (h.release hevt)⟩

theorem send (s : Panel b) {o : NetOut} (h : o.isMessage = false) (hevt : evt ≠ .release) :
    GestureStep evt s (s.send o) :=
  ⟨.send s h, rfl, rfl, fun hrel => absurd hrel hevt⟩

end GestureStep

theorem gesture_handleConfigBtn (s : Panel b) (i other : b.Btn) (evt : ButtonState) :
    GestureStep evt s (s.handleConfigBtn i other evt) := by
  unfold handleConfigBtn
  cases evt with
  | pressOneTime =>
    dsimp only
    split
    · split
      · refine .trans ?_ (.send _ rfl (by decide))
        exact .of_dev rfl rfl
      · exact .of_dev rfl rfl
    · exact .refl _ s
  | _ => exact .of_dev rfl rfl

theorem gesture_handleDefaultBtn (s : Panel b) (i other : b.Btn) (evt : ButtonState) :
    GestureStep evt s (s.handleDefaultBtn i other evt) := by
  unfold handleDefaultBtn
  cases evt with
  | pressFiveTime =>
    dsimp only
    split
    · split
      · refine .trans (.trans ?_ (.send _ rfl (by decide))) (.send _ rfl (by decide))
        exact .of_dev rfl rfl
      · exact .of_dev rfl rfl
    · exact .refl _ s
  | _ => exact .of_dev rfl rfl

/-- A button of both pairs moves both gestures on. -/
theorem gesture_buttonHandleSpecialEvent (s : Panel b) (i : b.Btn) (evt : ButtonState) :
    GestureStep evt s (s.buttonHandleSpecialEvent i evt) := by
  unfold buttonHandleSpecialEvent
  dsimp only
  generalize hs₁ : (if i = Board.buttonScene0Idx then _ else _) = s₁
  have h₁ : GestureStep evt s s₁ := by
    rw [← hs₁]
    split
    · exact s.gesture_handleConfigBtn i _ evt
    · split
      · exact s.gesture_handleConfigBtn i _ evt
      · exact .refl evt s
  refine h₁.trans ?_
  split
  · exact s₁.gesture_handleDefaultBtn i _ evt
  · split
    · exact s₁.gesture_handleDefaultBtn i _ evt
    · exact .refl evt s₁

/-- Outside the factory test an event is quiet exactly if the button's own function is. -/
theorem quiet_option_iff {s : Panel b} (hfact : s.dev.sh.factActive = false) (i : b.Btn)
    (evt : ButtonState) :
    Quiet s (s.buttonHandleOptionBtnState i evt) ↔ Quiet s (s.buttonHandleFunction i evt) := by
  have hbtn : ∀ (s' : Panel b) f, Quiet s' (s'.updBtn i f) := fun _ _ => .of_dev rfl
  unfold buttonHandleOptionBtnState
  dsimp only
  rw [hfact, if_neg Bool.false_ne_true, quiet_iff_of_quiet (hbtn _ _),
    quiet_iff_of_quiet (gesture_buttonHandleSpecialEvent _ i evt).quiet]

/-! ## A locked button -/

theorem quiet_relay_of_locked {s : Panel b} {i : b.Btn} (hlock : s.buttonIsLock i = true)
    (evt : ButtonState) : Quiet s (s.buttonHandleRelayBtnState i evt) := by
  unfold buttonHandleRelayBtnState
  split
  · exact .refl s
  · split
    · exact .refl s
    · exact .refl s

/-- Every event of a locked scene button but HOLD_500MS is quiet. -/
theorem quiet_scene_of_locked {s : Panel b} {i : b.Btn} (hlock : s.buttonIsLock i = true)
    {evt : ButtonState} (hne : evt ≠ .hold500MS) :
    Quiet s (s.buttonHandleSceneBtnState i evt) := by
  have hnot : ¬ (s.buttonIsLock i = false ∧
      (s.scenes.executionDimmingIsExist i).isNone = true) := by
    rintro ⟨hfree, -⟩
    rw [hlock] at hfree
    cases hfree
  have hpress : ∀ keyCode, Quiet s (s.scenePress i keyCode) := by
    intro keyCode
    rw [scenePress, if_pos hlock]
    exact .refl s
  unfold buttonHandleSceneBtnState
  cases evt with
  | noPress =>
    dsimp only
    split
    · exact .of_dev rfl
    · exact .refl s
  | startPress =>
    dsimp only
    rw [if_neg hnot]
    exact .refl s
  | hold500MS => exact absurd rfl hne
  | pressOneTime => exact hpress _
  | pressTwoTime => exact hpress _
  | pressTenTime =>
    dsimp only
    split
    · refine .trans ?_ (.send _ rfl)
      exact .of_dev rfl
    · exact .refl s
  | hold2S =>
    dsimp only
    rw [if_neg hnot]
    exact .refl s
  | release =>
    have hlocked : ∀ s₁ : Panel b, Quiet s s₁ → s₁.buttonIsLock i = true →
        Quiet s (if s₁.buttonIsLock i then s₁ else s₁.sceneReleaseUnlocked i) := by
      intro s₁ hquiet hlock₁
      rw [if_pos hlock₁]
      exact hquiet
    -- the LED blinks, locked or not
    refine hlocked _ ?_ ?_
    · split
      · exact .send s rfl
      · exact .refl s
    · split <;> exact hlock
  | _ => exact .refl s

/-! ## The hold -/

/-- A hold of scene button `i` has nothing to send: there is no dimming event, or the
element has no address and no entry of the event's slot dims. -/
def HoldSendsNothing (s : Panel b) (i : b.Btn) : Prop :=
  ∀ p, s.scenes.dimmingSlot i = some p →
    s.dev.eleAdr i = adrUnassigned ∧ ∀ j, ¬ p.Dims j

theorem messages_dimmingControl (s : Panel b) (i : b.Btn) (evt : UInt8) (st : DimmingButton) :
    (s.dimmingControl i evt st).messages = s.messages ++
      (s.scenes.executionDimmingControlByKeyNumber s.dev.sh.eleAdrPrimary i evt st).2.filter
        NetOut.isMessage :=
  List.filter_append ..

theorem messages_keyReportSend (s : Panel b) (i : b.Btn) (keyCode : UInt8) :
    (s.keyReportSend i keyCode false).messages = s.messages ++
      if s.dev.eleAdr i ≠ adrUnassigned then
        [.cmd vdRcKeyReport [keyCode] (s.dev.eleAdr i) gatewayUnicastAddr]
      else [] := by
  rw [keyReportSend]
  split
  · exact List.filter_append ..
  · exact (List.append_nil _).symm

/-- The key report commands no relay. -/
theorem relay_keyReportSend (s : Panel b) (i : b.Btn) (keyCode : UInt8) :
    (s.keyReportSend i keyCode false).dev.relay = s.dev.relay := by
  rw [keyReportSend]
  split <;> rfl

/-- HOLD_500MS does not test the lock: it is quiet only if there is nothing to send. -/
theorem quiet_sceneHold500MS_iff (s : Panel b) (i : b.Btn) :
    Quiet s (s.sceneHold500MS i) ↔ s.HoldSendsNothing i := by
  unfold sceneHold500MS HoldSendsNothing
  cases hevt : s.scenes.executionDimmingIsExist i with
  | none =>
    have hslot : s.scenes.dimmingSlot i = none := by rw [Scenes.dimmingSlot, hevt]; rfl
    rw [hslot]
    exact iff_of_true (.refl s) fun p hp => absurd hp.symm (Option.some_ne_none p)
  | some newEvt =>
    obtain ⟨q, scenes', new, hslot, hsend, -, hall, hnone⟩ :=
      Scenes.executionDimmingControlByKeyNumber_spec s.dev.sh.eleAdrPrimary hevt .hold500MS
        (by decide)
    -- the messages of the slot, and the key report
    have hmsg : (((s.updBtn i fun e => { e with hold500msFlag := true }).dimmingControl i newEvt
        .hold500MS).keyReportSend i newEvt false).messages =
        s.messages ++ new.filter NetOut.isMessage ++
          if s.dev.eleAdr i ≠ adrUnassigned then
            [.cmd vdRcKeyReport [newEvt] (s.dev.eleAdr i) gatewayUnicastAddr]
          else [] := by
      rw [messages_keyReportSend, messages_dimmingControl]
      have hout := congrArg (fun r => r.2.filter NetOut.isMessage) hsend
      exact congrArg (fun m => s.messages ++ m ++ _) hout
    have hrelay := (relay_keyReportSend ((s.updBtn i fun e => { e with hold500msFlag := true })
      |>.dimmingControl i newEvt .hold500MS) i newEvt)
    rw [hslot]
    dsimp only
    constructor
    · intro hquiet p hp
      obtain rfl := Option.some.inj hp
      have hnil := hmsg.symm.trans hquiet.messages
      rw [List.append_assoc, List.append_right_eq_self, List.append_eq_nil_iff] at hnil
      refine ⟨?_, fun j hj => ?_⟩
      · by_contra hadr
        rw [if_pos hadr] at hnil
        exact List.cons_ne_nil _ _ hnil.2
      · obtain ⟨d, -, o, ho, model, rest, adr, rfl, -⟩ := hall j hj
        have hmem := (List.mem_filter (p := NetOut.isMessage)).mpr ⟨ho, rfl⟩
        rw [hnil.1] at hmem
        exact List.not_mem_nil hmem
    · intro hnothing
      obtain ⟨hadr, hdims⟩ := hnothing q rfl
      rw [hnone hdims, if_neg (not_not.mpr hadr)] at hmsg
      refine ⟨hmsg.trans ?_, congrArg (·.rlsSet) hrelay, congrArg (·.rlsTarget) hrelay⟩
      rw [List.filter_nil, List.append_nil, List.append_nil]

/-! ## Runs -/

/-- An event of a locked button, outside the factory test, is quiet. -/
def LockedInert (s : Panel b) (ev : PanelEvent b) : Prop :=
  ∀ i evt, ev = .btn i evt → s.buttonIsLock i = true → s.dev.sh.factActive = false →
    Quiet s (s.step ev)

/-- The event is not the hold of a locked scene button with something to send. -/
def NoLockedHold (s : Panel b) (ev : PanelEvent b) : Prop :=
  ∀ i, ev = .btn i .hold500MS → i.val < Board.numberScene → s.buttonIsLock i = true →
    s.dev.sh.factActive = false → s.HoldSendsNothing i

theorem lockedInert_iff (s : Panel b) (ev : PanelEvent b) :
    s.LockedInert ev ↔ s.NoLockedHold ev := by
  constructor
  · rintro hinert i rfl hscene hlock hfact
    have hquiet := (quiet_option_iff hfact i _).mp (hinert i _ rfl hlock hfact)
    rw [buttonHandleFunction, if_pos hscene] at hquiet
    exact (s.quiet_sceneHold500MS_iff i).mp hquiet
  · rintro hhold i evt rfl hlock hfact
    refine (quiet_option_iff hfact i evt).mpr ?_
    rw [buttonHandleFunction]
    split
    · next hscene =>
      by_cases hevt : evt = .hold500MS
      · subst hevt
        exact (s.quiet_sceneHold500MS_iff i).mpr (hhold i rfl hscene hlock hfact)
      · exact quiet_scene_of_locked hlock hevt
    · split
      · exact quiet_relay_of_locked hlock evt
      · exact .refl s

end Panel

variable {b : Board}

/-- **Locked buttons**: in every run, every event of a locked button is quiet exactly if
none of them is a HOLD_500MS of a scene button that has something to send. -/
theorem panel_lockedInert_iff (s : Panel b) (evs : List (PanelEvent b)) :
    AllSteps Panel.step Panel.LockedInert s evs ↔ AllSteps Panel.step Panel.NoLockedHold s evs :=
  AllSteps.congr Panel.lockedInert_iff s evs

/-- A hold of a locked scene button that dims. -/
theorem panel_locked_hold_sends :
    ¬ ∀ evs : List (PanelEvent board1),
      AllSteps Panel.step Panel.LockedInert Panel.new1 evs := by
  intro h
  have hsteps := h [Panel.addHoldUp, .lock Board.buttonScene0Idx tsLock,
    .btn Board.buttonScene0Idx .startPress, .btn Board.buttonScene0Idx .hold500MS]
  have hhold := hsteps.2.2.2.1 Board.buttonScene0Idx .hold500MS rfl (by decide +kernel)
    (by decide +kernel)
  have hmsg := hhold.messages
  revert hmsg
  decide +kernel

end LumesSwitch
