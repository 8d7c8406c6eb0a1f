import LumesSwitch.Button.Lock

/-!
# A hold and its release

A hold starts to dim, or a press of a momentary button switches its relay on, and the
release should undo it. What the release does is decided anew from the lock, the table,
the mode, the binding and the gesture at that time.

- `Panel.HoldFlag` — the hold is remembered; only the release of the button forgets it
  (`Panel.holdFlag_run`);
- `Panel.CanStop`, `Panel.CanReleaseMomentary` — what has to hold at the release;
- `panel_release_undoes` — then the release stops what the hold has started, and
  switches the relay off.
-/

namespace LumesSwitch

open Flags Runs

/-- The directions in which a device goes on dimming until it is stopped. -/
def ControlDirection.isSmooth : ControlDirection → Bool
  | .upSmooth | .downSmooth | .upDownSmooth | .upSmoothLimit | .downSmoothLimit => true
  | .up | .down | .stop => false

/-- The HOLD events. -/
def ButtonState.isHold : ButtonState → Bool
  | .hold50MS | .hold500MS | .hold2S | .hold3S | .hold4S | .hold5S | .hold7S | .hold9S | .hold10S
  | .hold12S | .hold15S => true
  | _ => false

namespace Board

variable {b : Board}

theorem relayIdx_eq_none_iff (i : b.Btn) : relayIdx i = none ↔ i.val < numberScene := by
  unfold relayIdx
  split
  · next h => exact iff_of_false (fun hnone => nomatch hnone) (Nat.not_lt.mpr h)
  · next h => exact iff_of_true rfl (Nat.lt_of_not_le h)

end Board

namespace Panel

variable {b : Board}

/-- Between `s` and `s'` something that meets `P` was sent. -/
def Sends (s s' : Panel b) (P : NetOut → Prop) : Prop :=
  ∃ new, s'.dev.env.out = s.dev.env.out ++ new ∧ ∃ o ∈ new, P o

/-- A device was told to dim until it is stopped. -/
def StartsDimming (s s' : Panel b) (dst : UInt16) : Prop :=
  Sends s s' fun o => ∃ d, d.isSmooth = true ∧ o.IsDimming d dst

/-- A device was told to stop. -/
def StopsDimming (s s' : Panel b) (dst : UInt16) : Prop :=
  Sends s s' (NetOut.IsDimming .stop dst)

/-- The hold of button `i` that started to dim is remembered. -/
def HoldFlag (s : Panel b) (i : b.Btn) : Prop :=
  match Board.relayIdx i with
  | none => (s.optBtnBeforeSt i).hold500msFlag = true
  | some _ => (s.dev.env.touchBtnBeforeSt i).hold500msFlag = true

/-- What would be stopped is still `dst`: the dimming event of a scene button lists it; or
no reset is armed, and the relay button is in lighting mode and bound to it. -/
def StillDims (s : Panel b) (i : b.Btn) (dst : UInt16) : Option b.Chn → Prop
  | none => ∃ p ∈ s.scenes.dimmingSlot i, ∃ j : Fin 5, p.Dims j ∧ p.destAddr j = dst
  | some c =>
    s.paraBtnReset.isActive = false ∧ s.dev.sh.switchMode c = .lighting ∧
      s.dev.env.getGroupBindingAdr i = dst ∧ dst ≠ adrUnassigned

instance (s : Panel b) (i : b.Btn) (dst : UInt16) :
    (c : Option b.Chn) → Decidable (s.StillDims i dst c)
  | none => inferInstanceAs (Decidable (∃ p ∈ _, _))
  | some _ => inferInstanceAs (Decidable (_ ∧ _))

/-- At its release, button `i` can still stop `dst`: it is not locked. -/
def CanStop (s : Panel b) (i : b.Btn) (dst : UInt16) : Prop :=
  s.dev.sh.factActive = false ∧ s.buttonIsLock i = false ∧
    s.StillDims i dst (Board.relayIdx i)

instance (s : Panel b) (i : b.Btn) (dst : UInt16) : Decidable (s.CanStop i dst) :=
  inferInstanceAs (Decidable (_ ∧ _))

/-- At its release, the button of channel `c` is still a momentary one. -/
def CanReleaseMomentary (s : Panel b) (c : b.Chn) : Prop :=
  s.dev.sh.factActive = false ∧ s.buttonIsLock (Board.relayEle c) = false ∧
    s.paraBtnReset.isActive = false ∧ s.dev.sh.switchMode c = .momentary

/-! ## Only the release forgets a hold -/

/-- From `s` to `s'` no hold of button `i` was forgotten. -/
structure KeepsHold (i : b.Btn) (s s' : Panel b) : Prop where
  opt : (s.optBtnBeforeSt i).hold500msFlag = true → (s'.optBtnBeforeSt i).hold500msFlag = true
  touch : (s.dev.env.touchBtnBeforeSt i).hold500msFlag = true →
    (s'.dev.env.touchBtnBeforeSt i).hold500msFlag = true

namespace KeepsHold

variable {i : b.Btn} {s s' s'' : Panel b}

theorem of_eq (hopt : s'.optBtnBeforeSt = s.optBtnBeforeSt)
    (htouch : s'.dev.env.touchBtnBeforeSt = s.dev.env.touchBtnBeforeSt) : KeepsHold i s s' :=
  ⟨fun h => by rw [hopt]; exact h, fun h => by rw [htouch]; exact h⟩

theorem refl (i : b.Btn) (s : Panel b) : KeepsHold i s s := .of_eq rfl rfl

theorem trans (h : KeepsHold i s s') (h' : KeepsHold i s' s'') : KeepsHold i s s'' :=
  ⟨fun hs => h'.opt (h.opt hs), fun hs => h'.touch (h.touch hs)⟩

theorem onDev (s : Panel b) {f : NetDevice b → NetDevice b}
    (hf : (f s.dev).env.touchBtnBeforeSt = s.dev.env.touchBtnBeforeSt) :
    KeepsHold i s (s.onDev f) := .of_eq rfl hf

/-- A hold flag that is set stays so in a table with another entry, if the entry keeps it. -/
theorem hold_update {evts : b.Btn → BtnEvt} {j : b.Btn} {evt : BtnEvt}
    (hkeep : j = i → evt.hold500msFlag = true) (h : (evts i).hold500msFlag = true) :
    (Function.update evts j evt i).hold500msFlag = true := by
  by_cases hj : j = i
  · subst hj
    rw [Function.update_self]
    exact hkeep rfl
  · rwa [Function.update_of_ne (Ne.symm hj)]

theorem updBtn (s : Panel b) (j : b.Btn) {f : BtnEvt → BtnEvt}
    (hf : j = i → ∀ e, e.hold500msFlag = true → (f e).hold500msFlag = true) :
    KeepsHold i s (s.updBtn j f) :=
  ⟨fun h => hold_update (fun hj => hf hj _ (hj ▸ h)) h, fun h => h⟩

theorem updTouch (s : Panel b) (j : b.Btn) {f : BtnEvt → BtnEvt}
    (hf : j = i → ∀ e, e.hold500msFlag = true → (f e).hold500msFlag = true) :
    KeepsHold i s (s.updTouch j f) :=
  ⟨fun h => h, fun h => hold_update (fun hj => hf hj _ (hj ▸ h)) h⟩

end KeepsHold

section Handlers

variable (s : Panel b) (i j : b.Btn)

theorem keeps_updMany (p : BtnManyPar) : KeepsHold i s (s.updMany j p) := .of_eq rfl rfl

theorem keeps_dimmingControl (evt : UInt8) (st : DimmingButton) :
    KeepsHold i s (s.dimmingControl j evt st) := .of_eq rfl rfl

theorem keeps_setLocally (v : Bool) : KeepsHold i s (s.setLocally j v) := .of_eq rfl rfl

theorem keeps_dimmingActive (dir : ControlDirection) (dst : UInt16) :
    KeepsHold i s (s.dimmingActive j dir dst) := .of_eq rfl rfl

theorem keeps_ledScene (n : Nat) : KeepsHold i s (s.ledScene j n) := .of_eq rfl rfl

theorem keeps_ledRelay (n : Nat) : KeepsHold i s (s.ledRelay j n) := .of_eq rfl rfl

theorem keeps_keyReportSend (keyCode : UInt8) (enExecution : Bool) :
    KeepsHold i s (s.keyReportSend j keyCode enExecution) := by
  unfold keyReportSend
  dsimp only
  split
  · split <;> exact .of_eq rfl rfl
  · exact .refl i s

theorem keeps_scenePress (keyCode : UInt8) : KeepsHold i s (s.scenePress j keyCode) := by
  unfold scenePress
  split
  · exact .refl i s
  · split
    · exact s.keeps_keyReportSend i j _ _
    · split
      · exact .of_eq rfl rfl
      · exact s.keeps_keyReportSend i j _ _

theorem keeps_sceneHold500MS : KeepsHold i s (s.sceneHold500MS j) := by
  unfold sceneHold500MS
  split
  · exact .refl i s
  · dsimp only
    refine .trans (.trans ?_ (keeps_keyReportSend _ i j _ _)) (keeps_updMany _ i j _)
    exact .trans (.updBtn s j fun _ _ _ => rfl) (keeps_dimmingControl _ i j _ _)

/-- The release of another button. -/
theorem keeps_sceneRelease (hne : j ≠ i) : KeepsHold i s (s.sceneRelease j) := by
  have hunlocked : ∀ s : Panel b, KeepsHold i s (s.sceneReleaseUnlocked j) := by
    intro s
    unfold sceneReleaseUnlocked
    dsimp only
    split
    · split
      · exact .trans (s.keeps_dimmingControl i j _ _) (.updBtn _ j fun h => absurd h hne)
      · split
        · exact s.keeps_dimmingControl i j _ _
        · exact .refl i s
    · split
      · exact s.keeps_keyReportSend i j _ _
      · exact .refl i s
  have hlocked : ∀ s₁, KeepsHold i s s₁ →
      KeepsHold i s (if s₁.buttonIsLock j then s₁ else s₁.sceneReleaseUnlocked j) := by
    intro s₁ h₁
    split
    · exact h₁
    · exact h₁.trans (hunlocked s₁)
  unfold sceneRelease
  refine hlocked _ ?_
  split
  · exact s.keeps_ledScene i j 1
  · exact .refl i s

theorem keeps_buttonHandleSceneBtnState {evt : ButtonState} (h : j = i → evt ≠ .release) :
    KeepsHold i s (s.buttonHandleSceneBtnState j evt) := by
  unfold buttonHandleSceneBtnState
  cases evt with
  | hold500MS => exact s.keeps_sceneHold500MS i j
  | pressOneTime => exact s.keeps_scenePress i j _
  | pressTwoTime => exact s.keeps_scenePress i j _
  | release => exact s.keeps_sceneRelease i j fun hj => h hj rfl
  | noPress | startPress | pressTenTime | hold2S => dsimp only; split <;> exact .of_eq rfl rfl
  | _ => exact .refl i s

theorem keeps_dimmingHold (adr : UInt16) : KeepsHold i s (s.dimmingHold j adr) := by
  have hset : ∀ s : Panel b, KeepsHold i s (s.onDev fun d =>
      d.myHandleMeshCmdSigGOnOffSet ⟨gOn, 0, 0, 0⟩ none j gatewayUnicastAddr (d.eleAdr j)) :=
    fun s => .onDev s (Device.steps_myHandleMeshCmdSigGOnOffSet ..).touch
  have hdirec : ∀ dir, KeepsHold i s
      { s with dimmingDirecArr := Function.update s.dimmingDirecArr j dir } :=
    fun _ => .of_eq rfl rfl
  unfold dimmingHold
  dsimp only
  generalize decide ((s.dev.sh.lightness j).present = levelOff) = isOff
  generalize (if isOff = true then udUp else (s.dimmingDirecArr j ^^^ 1) &&& 1) = dir
  refine .trans ((hdirec dir).trans ?_) (.updTouch _ j fun _ _ _ => rfl)
  split
  · refine .trans (.trans ?_ (keeps_dimmingActive _ i j _ _)) (keeps_ledRelay _ i j 1)
    exact (hset _).trans (keeps_setLocally _ i j true)
  · split
    · exact .trans (keeps_dimmingActive _ i j _ _) (keeps_ledRelay _ i j 2)
    · exact .refl i _

/-- The release of another button in lighting mode. -/
theorem keeps_dimmingRelease (adr : UInt16) (hne : j ≠ i) :
    KeepsHold i s (s.dimmingRelease j adr) := by
  unfold dimmingRelease
  dsimp only
  split
  · refine .trans (.trans ?_ (.updTouch _ j fun h => absurd h hne)) (keeps_setLocally _ i j false)
    exact s.keeps_dimmingActive i j _ _
  · split
    · exact .onDev s (by rw [Device.env_toggleState])
    · exact .refl i s

theorem keeps_dimmingHandleBtnSt {evt : ButtonState} (h : j = i → evt ≠ .release) :
    KeepsHold i s (s.dimmingHandleBtnSt j evt) := by
  unfold dimmingHandleBtnSt
  dsimp only
  split
  · split
    · exact .onDev s (by rw [Device.env_toggleState])
    · exact .refl i s
  · refine .trans ?_ (.updTouch _ j fun _ _ hflag => hflag)
    cases evt with
    | hold500MS => exact s.keeps_dimmingHold i j _
    | release => exact s.keeps_dimmingRelease i j _ fun hj => h hj rfl
    | _ => exact .refl i s

theorem keeps_relayBtnEvent (c : b.Chn) (mode : SwitchMode) (evt : ButtonState) :
    KeepsHold i s (s.relayBtnEvent j c mode evt) := by
  unfold relayBtnEvent
  cases evt with
  | startPress =>
    dsimp only
    split
    · exact .onDev s (by rw [Device.env_toggleState])
    · split
      · exact .onDev s (by rw [Device.env_setTargetState])
      · exact .refl i s
  | pressTenTime =>
    dsimp only
    split
    · unfold swConfigEnableAutoSend
      split <;> exact .of_eq rfl rfl
    · exact .refl i s
  | release =>
    dsimp only
    split
    · exact .onDev s (by rw [Device.env_setTargetState])
    · exact .refl i s
  | _ => exact .refl i s

theorem keeps_buttonHandleRelayBtnState {evt : ButtonState} (h : j = i → evt ≠ .release) :
    KeepsHold i s (s.buttonHandleRelayBtnState j evt) := by
  unfold buttonHandleRelayBtnState
  split
  · exact .refl i s
  · split
    · exact .refl i s
    · split
      · exact .refl i s
      · dsimp only
        split
        · exact s.keeps_dimmingHandleBtnSt i j h
        · exact s.keeps_relayBtnEvent i j _ _ evt

theorem keeps_buttonHandleSpecialEvent (evt : ButtonState) :
    KeepsHold i s (s.buttonHandleSpecialEvent j evt) :=
  have hgesture := s.gesture_buttonHandleSpecialEvent j evt
  .of_eq hgesture.opt hgesture.touch

theorem keeps_buttonHandleOptionBtnState {evt : ButtonState} (h : j = i → evt ≠ .release) :
    KeepsHold i s (s.buttonHandleOptionBtnState j evt) := by
  have hfunction : KeepsHold i s (s.buttonHandleFunction j evt) := by
    unfold buttonHandleFunction
    split
    · exact s.keeps_buttonHandleSceneBtnState i j h
    · split
      · exact s.keeps_buttonHandleRelayBtnState i j h
      · exact .refl i s
  unfold buttonHandleOptionBtnState
  refine .trans ?_ (.updBtn _ j fun _ _ hflag => hflag)
  split
  · exact .refl i s
  · exact hfunction.trans (keeps_buttonHandleSpecialEvent _ i j evt)

end Handlers

/-- **Step lemma**: whatever happens, only the release of a button forgets its hold. -/
theorem keeps_step (s : Panel b) (i : b.Btn) {ev : PanelEvent b} (h : ev ≠ .btn i .release) :
    KeepsHold i s (s.step ev) := by
  cases ev with
  | btn j evt =>
    refine s.keeps_buttonHandleOptionBtnState i j fun hj hevt => h ?_
    rw [hj, hevt]
  | lock j st => exact .of_eq rfl rfl
  | scene par => exact .of_eq rfl rfl
  | clean => exact .of_eq rfl rfl
  | sendControl m st updateEn =>
    rw [step]
    refine .onDev s ?_
    exact (s.dev.steps_sendControl m st updateEn).touch
  | onOffSet set extra m src dst =>
    rw [step]
    refine .onDev s ?_
    exact (s.dev.steps_myHandleMeshCmdSigGOnOffSet set extra m src dst).touch
  | changeMode c m =>
    rw [step]
    refine .onDev s ?_
    exact congrArg NetState.touchBtnBeforeSt (s.dev.env_changeMode c m)
  | zeroSync =>
    rw [step]
    refine .onDev s ?_
    exact congrArg NetState.touchBtnBeforeSt s.dev.env_handleZeroSync
  | timerMatch =>
    rw [step]
    refine .onDev s ?_
    exact congrArg NetState.touchBtnBeforeSt s.dev.env_handleControlWhenTimerMatch
  | proc rand =>
    rw [step]
    refine .onDev s ?_
    exact s.dev.env_proc (v := NetState.touchBtnBeforeSt)
      (fun d c st => (d.steps_netMessageHandleStateChange c st).touch) rand
  | clock ms sec => exact .of_eq rfl rfl
  | other env factActive lightness nwk => exact .of_eq rfl rfl

theorem HoldFlag.keep {s s' : Panel b} {i : b.Btn} (h : s.HoldFlag i) (hk : KeepsHold i s s') :
    s'.HoldFlag i := by
  unfold HoldFlag at h ⊢
  split
  · next hidx =>
    rw [hidx] at h
    exact hk.opt h
  · next c hidx =>
    rw [hidx] at h
    exact hk.touch h

/-- **Run lemma**: a hold is remembered until the release of its button. -/
theorem holdFlag_run {s : Panel b} {i : b.Btn} (h : s.HoldFlag i) {evs : List (PanelEvent b)}
    (hno : ∀ ev ∈ evs, ev ≠ .btn i .release) : (runFrom step s evs).HoldFlag i := by
  induction evs generalizing s with
  | nil => exact h
  | cons ev evs ih =>
    have hstep := h.keep (s.keeps_step i (hno ev List.mem_cons_self))
    exact ih hstep fun ev' hev' => hno ev' (List.mem_cons_of_mem _ hev')

/-! ## A hold that starts to dim is remembered -/

/-- What started to dim was a message. -/
theorem not_quiet_of_startsDimming {s s' : Panel b} {dst : UInt16}
    (h : StartsDimming s s' dst) : ¬ Quiet s s' := by
  obtain ⟨new, hout, o, ho, d, -, model, rest, adr, rfl, -⟩ := h
  intro hquiet
  have hmsg := hquiet.messages
  rw [messages, messages, hout, List.filter_append, List.append_right_eq_self] at hmsg
  have hmem := (List.mem_filter (p := NetOut.isMessage)).mpr ⟨ho, rfl⟩
  rw [hmsg] at hmem
  exact List.not_mem_nil hmem

theorem quiet_updTouch (s : Panel b) (i : b.Btn) (f : BtnEvt → BtnEvt) :
    Quiet s (s.updTouch i f) := ⟨rfl, rfl, rfl⟩

/-- HOLD_500MS is the only hold that sends anything. -/
theorem quiet_hold (s : Panel b) (i : b.Btn) {evt : ButtonState} (hhold : evt.isHold = true)
    (hne : evt ≠ .hold500MS) : Quiet s (s.buttonHandleFunction i evt) := by
  have hscene : Quiet s (s.buttonHandleSceneBtnState i evt) := by
    unfold buttonHandleSceneBtnState
    cases evt with
    | hold500MS => exact absurd rfl hne
    | hold2S =>
      dsimp only
      split
      · exact .send s rfl
      · exact .refl s
    | noPress | startPress | pressOneTime | pressTwoTime | pressTenTime | release =>
      cases hhold
    | _ => exact .refl s
  have hdim : Quiet s (s.dimmingHandleBtnSt i evt) := by
    unfold dimmingHandleBtnSt
    dsimp only
    split
    · split
      · next h => rw [h] at hhold; cases hhold
      · exact .refl s
    · refine .trans ?_ (quiet_updTouch _ i _)
      cases evt with
      | hold500MS => exact absurd rfl hne
      | release => cases hhold
      | _ => exact .refl s
  have hbtn : ∀ c mode, Quiet s (s.relayBtnEvent i c mode evt) := by
    intro c mode
    unfold relayBtnEvent
    cases evt with
    | startPress | pressTenTime | release => cases hhold
    | _ => exact .refl s
  rw [buttonHandleFunction]
  split
  · exact hscene
  · split
    · rw [buttonHandleRelayBtnState]
      split
      · exact .refl s
      · split
        · exact .refl s
        · split
          · exact .refl s
          · dsimp only
            split
            · exact hdim
            · exact hbtn _ _
    · exact .refl s

/-- A scene button with a dimming event remembers its HOLD_500MS. -/
theorem opt_sceneHold500MS {s : Panel b} {i : b.Btn} {newEvt : UInt8}
    (h : s.scenes.executionDimmingIsExist i = some newEvt) :
    ((s.sceneHold500MS i).optBtnBeforeSt i).hold500msFlag = true := by
  let s₁ := s.updBtn i fun e => { e with hold500msFlag := true }
  have hset : (s₁.optBtnBeforeSt i).hold500msFlag = true := by
    show (Function.update s.optBtnBeforeSt i _ i).hold500msFlag = true
    rw [Function.update_self]
  unfold sceneHold500MS
  rw [h]
  exact (((s₁.keeps_dimmingControl i i newEvt .hold500MS).trans
    (keeps_keyReportSend _ i i newEvt false)).trans (keeps_updMany _ i i _)).opt hset

/-- So does a bound button in lighting mode. -/
theorem touch_dimmingHandleBtnSt {s : Panel b} {i : b.Btn}
    (h : s.dev.env.getGroupBindingAdr i ≠ adrUnassigned) :
    ((s.dimmingHandleBtnSt i .hold500MS).dev.env.touchBtnBeforeSt i).hold500msFlag = true := by
  have hset : ∀ (s : Panel b) (f : BtnEvt → BtnEvt), (∀ e, (f e).hold500msFlag = true) →
      ((s.updTouch i f).dev.env.touchBtnBeforeSt i).hold500msFlag = true := by
    intro s f hf
    show (Function.update s.dev.env.touchBtnBeforeSt i _ i).hold500msFlag = true
    rw [Function.update_self]
    exact hf _
  rw [dimmingHandleBtnSt]
  dsimp only
  rw [if_neg h]
  refine (KeepsHold.updTouch _ i ?_).touch ?_
  · exact fun _ _ hflag => hflag
  · rw [dimmingHold]
    exact hset _ _ fun _ => rfl

/-- A relay button's HOLD_500MS that does anything is one of a bound button in lighting
mode. -/
theorem holdFlag_relay {s : Panel b} {i : b.Btn}
    (hloud : ¬ Quiet s (s.buttonHandleRelayBtnState i .hold500MS)) :
    (s.buttonHandleRelayBtnState i .hold500MS).HoldFlag i := by
  unfold buttonHandleRelayBtnState HoldFlag at *
  cases hidx : Board.relayIdx i with
  | none =>
    rw [hidx] at hloud
    exact absurd (.refl s) hloud
  | some c =>
    rw [hidx] at hloud
    dsimp only at hloud ⊢
    rw [if_neg (by decide)] at hloud ⊢
    split at hloud
    · exact absurd (.refl s) hloud
    · next hlock =>
      rw [if_neg hlock]
      split at hloud
      · next hmode =>
        rw [if_pos hmode]
        refine touch_dimmingHandleBtnSt fun hadr => hloud ?_
        rw [dimmingHandleBtnSt]
        dsimp only
        rw [if_pos hadr]
        exact .refl s
      · exact absurd (.refl s) hloud

/-- A hold that starts to dim is remembered. -/
theorem holdFlag_of_startsDimming {s : Panel b} {i : b.Btn} {evt : ButtonState} {dst : UInt16}
    (hhold : evt.isHold = true) (h : StartsDimming s (s.step (.btn i evt)) dst) :
    (s.step (.btn i evt)).HoldFlag i := by
  have hloud := not_quiet_of_startsDimming h
  change ¬ Quiet s (s.buttonHandleOptionBtnState i evt) at hloud
  show (s.buttonHandleOptionBtnState i evt).HoldFlag i
  -- outside the factory test, and at HOLD_500MS
  cases hfact : s.dev.sh.factActive with
  | true =>
    refine absurd ?_ hloud
    rw [buttonHandleOptionBtnState, hfact, if_pos rfl]
    exact .of_dev rfl
  | false =>
    rw [quiet_option_iff hfact] at hloud
    obtain rfl : evt = .hold500MS := by
      by_contra hne
      exact hloud (s.quiet_hold i hhold hne)
    have hfunction : (s.buttonHandleFunction i .hold500MS).HoldFlag i := by
      unfold buttonHandleFunction at hloud ⊢
      by_cases hscene : i.val < Board.numberScene
      · rw [if_pos hscene] at hloud ⊢
        rw [HoldFlag, (Board.relayIdx_eq_none_iff i).mpr hscene]
        cases hevt : s.scenes.executionDimmingIsExist i with
        | some newEvt => exact opt_sceneHold500MS hevt
        | none =>
          refine absurd ?_ hloud
          show Quiet s (s.sceneHold500MS i)
          unfold sceneHold500MS
          rw [hevt]
          exact .refl s
      · rw [if_neg hscene] at hloud ⊢
        split at hloud
        · next hactive =>
          rw [if_pos hactive]
          exact s.holdFlag_relay hloud
        · exact absurd (.refl s) hloud
    rw [buttonHandleOptionBtnState, hfact, if_neg Bool.false_ne_true]
    exact hfunction.keep (.trans (keeps_buttonHandleSpecialEvent _ i i _)
      (.updBtn _ i fun _ _ hflag => hflag))

/-! ## What a release does -/

/-- Outside the factory test the device after a release is what the button's own function
makes of it. -/
theorem dev_step_release {s : Panel b} (i : b.Btn) (hfact : s.dev.sh.factActive = false) :
    (s.step (.btn i .release)).dev = (s.buttonHandleFunction i .release).dev := by
  show (s.buttonHandleOptionBtnState i .release).dev = _
  rw [buttonHandleOptionBtnState, hfact, if_neg Bool.false_ne_true]
  exact (gesture_buttonHandleSpecialEvent _ i .release).release rfl

theorem Sends.congr {s s' s'' : Panel b} {P : NetOut → Prop} (h : Sends s s' P)
    (hdev : s''.dev = s'.dev) : Sends s s'' P := by
  obtain ⟨new, hout, hsent⟩ := h
  exact ⟨new, by rw [hdev]; exact hout, hsent⟩

/-- What was sent before does not matter. -/
theorem Sends.of_append {s s' : Panel b} (s₁ : Panel b) {P : NetOut → Prop} {led : List NetOut}
    (hout : s₁.dev.env.out = s.dev.env.out ++ led) (h : Sends s₁ s' P) : Sends s s' P := by
  obtain ⟨new, hnew, o, ho, hP⟩ := h
  exact ⟨led ++ new, by rw [hnew, hout, List.append_assoc], o, List.mem_append_right _ ho, hP⟩

/-- A scene button that remembers its hold stops the destinations of its slot. -/
theorem stops_sceneReleaseUnlocked {s : Panel b} {i : b.Btn} {p : ParExecutionScene} {j : Fin 5}
    (hflag : (s.optBtnBeforeSt i).hold500msFlag = true) (hslot : s.scenes.dimmingSlot i = some p)
    (hdims : p.Dims j) : StopsDimming s (s.sceneReleaseUnlocked i) (p.destAddr j) := by
  obtain ⟨evt, hevt, -⟩ := Option.bind_eq_some_iff.mp hslot
  obtain ⟨q, scenes', new, hslot', hsend, -, hall, -⟩ :=
    Scenes.executionDimmingControlByKeyNumber_spec s.dev.sh.eleAdrPrimary hevt .release (by decide)
  obtain rfl := Option.some.inj (hslot.symm.trans hslot')
  obtain ⟨d, hd, o, ho, hdim⟩ := hall j hdims
  refine ⟨new, ?_, o, ho, hd rfl ▸ hdim⟩
  unfold sceneReleaseUnlocked
  dsimp only
  rw [hevt]
  dsimp only
  rw [if_pos hflag]
  exact congrArg (fun r => s.dev.env.out ++ r.2) hsend

theorem stops_sceneRelease {s : Panel b} {i : b.Btn} {p : ParExecutionScene} {j : Fin 5}
    (hflag : (s.optBtnBeforeSt i).hold500msFlag = true) (hlock : s.buttonIsLock i = false)
    (hslot : s.scenes.dimmingSlot i = some p) (hdims : p.Dims j) :
    StopsDimming s (s.sceneRelease i) (p.destAddr j) := by
  have hunlocked : ∀ s₁ : Panel b, s₁.buttonIsLock i = false →
      StopsDimming s (s₁.sceneReleaseUnlocked i) (p.destAddr j) →
      StopsDimming s (if s₁.buttonIsLock i then s₁ else s₁.sceneReleaseUnlocked i)
        (p.destAddr j) := by
    intro s₁ hlock₁ h
    rw [hlock₁, if_neg Bool.false_ne_true]
    exact h
  rw [sceneRelease]
  refine hunlocked _ ?_ ?_
  · split <;> exact hlock
  · split
    · -- the LED blinks first
      exact Sends.of_append (s.ledScene i 1) rfl
        (stops_sceneReleaseUnlocked (s := s.ledScene i 1) hflag hslot hdims)
    · exact stops_sceneReleaseUnlocked hflag hslot hdims

/-- A bound button that remembers its hold stops its group. -/
theorem stops_dimmingHandleBtnSt {s : Panel b} {i : b.Btn} {dst : UInt16}
    (hflag : (s.dev.env.touchBtnBeforeSt i).hold500msFlag = true)
    (hbound : s.dev.env.getGroupBindingAdr i = dst) (hdst : dst ≠ adrUnassigned) :
    StopsDimming s (s.dimmingHandleBtnSt i .release) dst := by
  rw [dimmingHandleBtnSt]
  dsimp only
  rw [hbound, if_neg hdst]
  unfold dimmingRelease
  dsimp only
  rw [if_pos hflag]
  exact ⟨[_], rfl, _, List.mem_singleton_self _, [0x00, 0x13], _, _, rfl, rfl⟩

/-- **Release**: a button that remembers its hold and can still stop `dst` does. -/
theorem stops_step_release {s : Panel b} {i : b.Btn} {dst : UInt16} (hflag : s.HoldFlag i)
    (hcan : s.CanStop i dst) : StopsDimming s (s.step (.btn i .release)) dst := by
  obtain ⟨hfact, hlock, hcan⟩ := hcan
  refine Sends.congr ?_ (dev_step_release i hfact)
  rw [HoldFlag] at hflag
  rw [buttonHandleFunction]
  cases hidx : Board.relayIdx i with
  | none =>
    rw [hidx] at hflag hcan
    obtain ⟨p, hslot, j, hdims, rfl⟩ := hcan
    rw [if_pos ((Board.relayIdx_eq_none_iff i).mp hidx)]
    exact stops_sceneRelease hflag hlock hslot hdims
  | some c =>
    rw [hidx] at hflag hcan
    obtain ⟨hactive, hmode, hbound, hdst⟩ := hcan
    have hrelay : ¬ i.val < Board.numberScene := by
      rw [← Board.relayIdx_eq_none_iff, hidx]
      exact Option.some_ne_none c
    rw [if_neg hrelay, if_pos hactive]
    rw [buttonHandleRelayBtnState, if_neg (by decide), hidx]
    dsimp only
    rw [hlock, if_neg Bool.false_ne_true, if_pos hmode]
    exact stops_dimmingHandleBtnSt hflag hbound hdst

/-- **Release** of a momentary button: its relay is set off. -/
theorem set_step_release {s : Panel b} {c : b.Chn} (hcan : s.CanReleaseMomentary c) :
    isOn (s.step (.btn (Board.relayEle c) .release)).dev.relay.rlsSet c = false := by
  obtain ⟨hfact, hlock, hactive, hmode⟩ := hcan
  have hrelay : ¬ (Board.relayEle c).val < Board.numberScene := by
    rw [← Board.relayIdx_eq_none_iff, Board.relayIdx_relayEle]
    exact Option.some_ne_none c
  have hlighting : ¬ s.dev.sh.switchMode c = .lighting := by
    rw [hmode]
    decide
  have hset := (s.dev.core.command_set_same c (.set false) trivial)
  rw [dev_step_release _ hfact, buttonHandleFunction, if_neg hrelay, if_pos hactive,
    buttonHandleRelayBtnState, if_neg (by decide), Board.relayIdx_relayEle]
  dsimp only
  rw [hlock, if_neg Bool.false_ne_true, if_neg hlighting, hmode]
  show (s.dev.setTargetState c gOff .device true).core.set c = false
  rw [Device.core_setTargetState]
  exact hset

end Panel

variable {b : Board}

/-- **Hold and release.** In every run, from any state: when a hold of button `i` starts to
dim `dst`, then the next release of `i` stops `dst` if it still can; and after a press of a
relay's button the next release sets the relay off, if the button is still a momentary
one. -/
theorem panel_release_undoes (s : Panel b) (i : b.Btn) (evs : List (PanelEvent b))
    (hno : ∀ ev ∈ evs, ev ≠ .btn i .release) :
    (∀ evt dst, evt.isHold = true → s.StartsDimming (s.step (.btn i evt)) dst →
        (runFrom Panel.step (s.step (.btn i evt)) evs).CanStop i dst →
        (runFrom Panel.step (s.step (.btn i evt)) evs).StopsDimming
          ((runFrom Panel.step (s.step (.btn i evt)) evs).step (.btn i .release)) dst) ∧
      ∀ c, i = Board.relayEle c →
        (runFrom Panel.step (s.step (.btn i .startPress)) evs).CanReleaseMomentary c →
        isOn ((runFrom Panel.step (s.step (.btn i .startPress)) evs).step
          (.btn i .release)).dev.relay.rlsSet c = false := by
  constructor
  · intro evt dst hhold hstart hcan
    have hflag := Panel.holdFlag_run (Panel.holdFlag_of_startsDimming hhold hstart) hno
    exact Panel.stops_step_release hflag hcan
  · rintro c rfl hcan
    exact Panel.set_step_release hcan

/-- A hold of button 0 that dims, with a pass and another button in between. -/
theorem panel_release_undoes_hold :
    (runFrom Panel.step
        ((runFrom Panel.step Panel.new1
          [Panel.addHoldUp, .btn Board.buttonScene0Idx .startPress]).step
            (.btn Board.buttonScene0Idx .hold500MS))
        [.proc fun _ => 0, .btn Board.buttonScene1Idx .startPress]).StopsDimming
      ((runFrom Panel.step
        ((runFrom Panel.step Panel.new1
          [Panel.addHoldUp, .btn Board.buttonScene0Idx .startPress]).step
            (.btn Board.buttonScene0Idx .hold500MS))
        [.proc fun _ => 0, .btn Board.buttonScene1Idx .startPress]).step
          (.btn Board.buttonScene0Idx .release)) 0xC001 := by
  refine (panel_release_undoes (runFrom Panel.step Panel.new1
      [Panel.addHoldUp, .btn Board.buttonScene0Idx .startPress]) Board.buttonScene0Idx
    [.proc fun _ => 0, .btn Board.buttonScene1Idx .startPress] ?_).1 .hold500MS 0xC001 rfl ?_
      (by decide +kernel)
  · simp [Board.buttonScene0Idx, Board.buttonScene1Idx]
  · refine ⟨[.led 1 1, .cmd vdDimmingControlSet [0x00, 0x13, 2, 0x20, 0x30, 0x32] 2 0xC001,
      .cmd vdRcKeyReport [btnKeyHoldUp] 2 gatewayUnicastAddr], by decide +kernel, _,
      List.mem_cons_of_mem _ List.mem_cons_self, .upSmooth, rfl, [0x00, 0x13], _, _, rfl, rfl⟩

/-- A lock between the hold and the release, or between the press of a momentary button and
its release: the device dims on, and the relay stays on. -/
theorem panel_release_locked :
    (¬ ∀ (evs₀ evs : List (PanelEvent board1)) (i : board1.Btn) (evt : ButtonState)
        (dst : UInt16), (∀ ev ∈ evs, ev ≠ .btn i .release) → evt.isHold = true →
        (runFrom Panel.step Panel.new1 evs₀).StartsDimming
          ((runFrom Panel.step Panel.new1 evs₀).step (.btn i evt)) dst →
        (runFrom Panel.step Panel.new1 (evs₀ ++ .btn i evt :: evs)).StopsDimming
          ((runFrom Panel.step Panel.new1 (evs₀ ++ .btn i evt :: evs)).step
            (.btn i .release)) dst) ∧
      ¬ ∀ (evs₀ evs : List (PanelEvent board1)) (c : board1.Chn),
        (∀ ev ∈ evs, ev ≠ .btn (Board.relayEle c) .release) →
        (runFrom Panel.step Panel.new1 evs₀).dev.sh.switchMode c = .momentary →
        isOn ((runFrom Panel.step Panel.new1 evs₀).step
          (.btn (Board.relayEle c) .startPress)).dev.relay.rlsSet c = true →
        isOn ((runFrom Panel.step Panel.new1
          (evs₀ ++ .btn (Board.relayEle c) .startPress :: evs)).step
            (.btn (Board.relayEle c) .release)).dev.relay.rlsSet c = false := by
  constructor
  · intro h
    have hrun := h [Panel.addHoldUp, .btn Board.buttonScene0Idx .startPress]
      [.lock Board.buttonScene0Idx tsLock] Board.buttonScene0Idx .hold500MS 0xC001 (by simp) rfl
      ⟨[.led 1 1, .cmd vdDimmingControlSet [0x00, 0x13, 2, 0x20, 0x30, 0x32] 2 0xC001,
        .cmd vdRcKeyReport [btnKeyHoldUp] 2 gatewayUnicastAddr], by decide +kernel, _,
        List.mem_cons_of_mem _ List.mem_cons_self, .upSmooth, rfl, [0x00, 0x13], _, _, rfl, rfl⟩
    obtain ⟨new, hout, o, ho, -⟩ := hrun
    -- the locked release has sent nothing
    have hnone : ∀ m n : Nat, m = n + new.length → m = n → new = [] := by
      intro m n hlen hmn
      rw [← List.length_eq_zero_iff]
      omega
    have hlen := congrArg List.length hout
    rw [List.length_append] at hlen
    rw [hnone _ _ hlen (by decide +kernel)] at ho
    cases ho
  · intro h
    have hrun := h [.changeMode board1.chn0 .momentary]
      [.lock (Board.relayEle board1.chn0) tsLock] board1.chn0 (by simp) (by decide +kernel)
      (by decide +kernel)
    revert hrun
    decide +kernel

end LumesSwitch
