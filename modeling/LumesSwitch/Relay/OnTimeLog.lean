import LumesSwitch.Flash.WordLog
import LumesSwitch.Relay.Env

/-!
# The on-times that are stored and sent

`relay.c` answers with the total of one channel and then stores the totals of all, if one of
them differs from what it stored last.

- `OnTimeView` — the totals, what was stored of them, the log, and the answers;
- `Device.onTimeView_onTimeChannel` — an iteration of the on-time loop;
- `Device.onTimeView_proc` — behind the loop, a pass only counts.
-/

namespace LumesSwitch

open Flags Runs Words

variable {b : Board} {ε : Type}

/-- The on-times of a device. -/
@[ext] structure OnTimeView (b : Board) where
  total : b.Chn → UInt32
  stored : b.Chn → UInt32
  log : LogState
  answers : Nat → List Nat

namespace OnTimeView

/-- A total differs from the stored one. -/
def StoreDue (v : OnTimeView b) : Prop := ∃ c, v.total c ≠ v.stored c

instance (v : OnTimeView b) : Decidable v.StoreDue := inferInstanceAs (Decidable (∃ _, _))

/-- The view after `relay_store_total_relay_on_time`. -/
def store (v : OnTimeView b) : OnTimeView b :=
  if v.StoreDue then
    { v with
      stored := v.total
      log := (relayOnTimeLog b).put v.log (encodeWords v.total) }
  else v

/-- The view after an answer for channel `c`. -/
def answer (v : OnTimeView b) (c : b.Chn) : OnTimeView b :=
  store { v with
    answers := Function.update v.answers c (v.answers c ++ [(v.total c).toNat]) }

/-- The view after the total of channel `c` has become 0. -/
def clear (v : OnTimeView b) (c : b.Chn) : OnTimeView b :=
  { v with total := Function.update v.total c 0 }

/-- The view after the totals have all become 0. -/
def clearAll (v : OnTimeView b) : OnTimeView b := { v with total := fun _ => 0 }

theorem store_of_due {v : OnTimeView b} (h : v.StoreDue) :
    v.store = { v with
      stored := v.total
      log := (relayOnTimeLog b).put v.log (encodeWords v.total) } := if_pos h

theorem store_of_not_due {v : OnTimeView b} (h : ¬ v.StoreDue) : v.store = v := if_neg h

/-- What is stored is not due. -/
theorem not_storeDue_store (v : OnTimeView b) : ¬ v.store.StoreDue := by
  by_cases h : v.StoreDue
  · rw [store_of_due h]
    rintro ⟨c, hc⟩
    exact hc rfl
  · rw [store_of_not_due h]
    exact h

theorem total_store (v : OnTimeView b) : v.store.total = v.total := by
  rw [store]
  split <;> rfl

theorem total_answer (v : OnTimeView b) (c : b.Chn) : (v.answer c).total = v.total :=
  total_store _

end OnTimeView

/-- `relay_handle_delete_relay_on_time`, for a channel of the board. -/
def Device.handleDeleteRelayOnTime (s : Device b ε) (c : b.Chn) : Device b ε :=
  (s.updOnTime c fun p => { p with
    totalSeconds := 0 }).storeTotalRelayOnTime.responseTotalRelayOnTime c

/-- `relay_clean_relay_on_time` -/
def Device.cleanRelayOnTime (s : Device b ε) : Device b ε :=
  (s.updRelay fun r => { r with
    onTime := fun c => { r.onTime c with totalSeconds := 0 } }).storeTotalRelayOnTime

namespace Device

def onTimeView (s : Device b ε) : OnTimeView b where
  total c := (s.relay.onTime c).totalSeconds
  stored c := (s.relay.onTime c).totalSecondsStored
  log := s.relay.onTimeLog
  answers c := answersFor c s.relay.out

variable (s : Device b ε)

/-! ## What leaves the view alone -/

theorem onTimeView_of_command {s s' : Device b ε}
    (h : s'.besideCommand.1 = s.besideCommand.1) : s'.onTimeView = s.onTimeView :=
  congrArg (fun p : RelayState b × Shared b => OnTimeView.mk (fun c => (p.1.onTime c).totalSeconds)
    (fun c => (p.1.onTime c).totalSecondsStored) p.1.onTimeLog
    fun c => answersFor c p.1.out) h

/-- A drive or an interrupt at most counts. -/
theorem onTimeView_of_drive {s s' : Device b ε} (h : s'.besideDrive = s.besideDrive) :
    s'.onTimeView = { s.onTimeView with total := s'.core.total } :=
  OnTimeView.ext rfl (congrArg (fun p => p.2.2.1) h) (congrArg (fun p => p.2.2.2.1) h)
    (congrArg (fun p => p.2.2.2.2) h)

/-- Sending no answer. -/
theorem onTimeView_emit {o : RelayOut} (h : ∀ c, answersFor c [o] = []) :
    (s.emit o).onTimeView = s.onTimeView :=
  OnTimeView.ext rfl rfl rfl (answersFor_concat h s.relay.out)

theorem onTimeView_changeMode (c : b.Chn) (m : SwitchMode) :
    (s.changeMode c m).onTimeView = s.onTimeView := by
  have hhandle : ∀ s : Device b ε,
      (s.handleSwitchChangeMode c).onTimeView = s.onTimeView := by
    intro s
    rw [handleSwitchChangeMode]
    split
    · rfl
    · rfl
    · split
      · rfl
      · exact onTimeView_of_command (congrArg Prod.fst (s.besideCommand_setTargetState ..))
  unfold changeMode
  dsimp only
  split
  · exact (hhandle _).trans rfl
  · rfl

theorem onTimeView_handleZeroSync : s.handleZeroSync.onTimeView = s.onTimeView := by
  rw [onTimeView_of_drive s.besideDrive_handleZeroSync, core_handleZeroSync]
  rfl

theorem onTimeView_handleControlWhenTimerMatch :
    s.handleControlWhenTimerMatch.onTimeView = s.onTimeView := by
  have htotal : s.core.timerMatch.total = s.core.total := by
    rw [RelayCore.timerMatch]
    split <;> rfl
  rw [onTimeView_of_drive s.besideDrive_handleControlWhenTimerMatch,
    core_handleControlWhenTimerMatch, htotal]
  rfl

theorem onTimeView_mapSetAndTargetStatus (cb : StateChangeCallback b ε) :
    (s.mapSetAndTargetStatus cb).onTimeView = s.onTimeView := by
  have hcall : ∀ (fact : Bool) (s : Device b ε) c st,
      (if fact then s else cb.run s c st).onTimeView = s.onTimeView := by
    intro fact s c st
    cases fact with
    | true => rfl
    | false => exact onTimeView_of_command (besideCommand_of_callbackSteps (cb.steps s c st))
  have hbody : ∀ (s : Device b ε) (c : b.Chn), (mapChannel cb s c).onTimeView = s.onTimeView := by
    intro s c
    rw [mapChannel]
    dsimp only
    split
    · exact (hcall _ _ _ _).trans (onTimeView_emit _ fun _ => rfl)
    · rfl
  rw [mapSetAndTargetStatus]
  split
  · exact keep_runFrom onTimeView hbody s _
  · rfl

theorem onTimeView_handleStoreDelay : s.handleStoreDelay.onTimeView = s.onTimeView := by
  rw [handleStoreDelay]
  dsimp only
  split <;> rfl

theorem onTimeView_checkAutoOff : s.checkAutoOff.onTimeView = s.onTimeView := by
  refine keep_runFrom onTimeView (fun s c => ?_) s _
  rw [checkAutoOffChannel]
  split
  · exact (onTimeView_of_command
      (congrArg Prod.fst (besideCommand_setTargetState _ c gOff .device true))).trans rfl
  · rfl

/-- **Behind the on-time loop a pass only counts**: it neither stores nor answers. -/
theorem onTimeView_proc (cb : StateChangeCallback b ε) (rand : Nat → Nat) :
    (s.proc cb rand).onTimeView =
      { (s.onTimeProc rand).onTimeView with total := (s.proc cb rand).core.total } := by
  have hdrive : ∀ {s s' : Device b ε}, s'.besideDrive = s.besideDrive →
      s.onTimeView.stored = s'.onTimeView.stored ∧ s.onTimeView.log = s'.onTimeView.log ∧
        s.onTimeView.answers = s'.onTimeView.answers := by
    intro s s' h
    rw [onTimeView_of_drive h]
    exact ⟨rfl, rfl, rfl⟩
  have hbefore : ((s.onTimeProc rand).mapSetAndTargetStatus
      cb).handleStoreDelay.checkAutoOff.onTimeView = (s.onTimeProc rand).onTimeView := by
    rw [onTimeView_checkAutoOff, onTimeView_handleStoreDelay, onTimeView_mapSetAndTargetStatus]
  have hpass : (s.proc cb rand).besideDrive = ((s.onTimeProc rand).mapSetAndTargetStatus
      cb).handleStoreDelay.checkAutoOff.besideDrive := by
    unfold proc
    dsimp only
    rw [besideDrive_checkBusyTimeout]
    split
    · exact besideDrive_procIdle _
    · exact besideDrive_procBusy _
  rw [onTimeView_of_drive hpass, hbefore]

/-! ## The on-time functions -/

theorem onTimeView_storeTotalRelayOnTime :
    s.storeTotalRelayOnTime.onTimeView = s.onTimeView.store := by
  have hdue : (b.chns.any fun c =>
      (s.relay.onTime c).totalSeconds ≠ (s.relay.onTime c).totalSecondsStored) = true ↔
      s.onTimeView.StoreDue := by
    rw [List.any_eq_true]
    constructor
    · rintro ⟨c, -, hc⟩
      exact ⟨c, of_decide_eq_true hc⟩
    · rintro ⟨c, hc⟩
      exact ⟨c, b.mem_chns c, decide_eq_true hc⟩
  rw [storeTotalRelayOnTime]
  by_cases h : s.onTimeView.StoreDue
  · rw [if_pos (hdue.mpr h), OnTimeView.store_of_due h]
    rfl
  · rw [if_neg fun hx => h (hdue.mp hx), OnTimeView.store_of_not_due h]

theorem onTimeView_responseTotalRelayOnTime (c : b.Chn) :
    (s.responseTotalRelayOnTime c).onTimeView = s.onTimeView.answer c := by
  rw [responseTotalRelayOnTime, onTimeView_storeTotalRelayOnTime, OnTimeView.answer]
  refine congrArg OnTimeView.store (OnTimeView.ext rfl rfl rfl (funext fun c' => ?_))
  show answersFor c' (s.relay.out ++ [.onTimeRsp c (s.relay.onTime c).totalSeconds]) =
    Function.update s.onTimeView.answers c
      (s.onTimeView.answers c ++ [(s.onTimeView.total c).toNat]) c'
  rw [answersFor_append]
  by_cases h : c' = c.val
  · subst h
    rw [Function.update_self]
    simp [answersFor, onTimeView]
  · rw [Function.update_of_ne h]
    simp [answersFor, onTimeView, Ne.symm h]

/-- An update of an on-time entry that leaves the stored total alone. -/
theorem onTimeView_updOnTime (c : b.Chn) {f : RelayOnTime → RelayOnTime}
    (h : ∀ p, (f p).totalSecondsStored = p.totalSecondsStored) :
    (s.updOnTime c f).onTimeView =
      { s.onTimeView with
        total := Function.update s.onTimeView.total c (f (s.relay.onTime c)).totalSeconds } := by
  rw [onTimeView_of_drive (s.besideDrive_updOnTime c h), core_updOnTime]
  rfl

theorem onTimeView_handleDeleteRelayOnTime (c : b.Chn) :
    (s.handleDeleteRelayOnTime c).onTimeView = (s.onTimeView.clear c).store.answer c := by
  rw [handleDeleteRelayOnTime, onTimeView_responseTotalRelayOnTime,
    onTimeView_storeTotalRelayOnTime]
  exact congrArg (fun v => OnTimeView.answer (OnTimeView.store v) c)
    (s.onTimeView_updOnTime c (by exact fun _ => rfl))

theorem onTimeView_cleanRelayOnTime :
    s.cleanRelayOnTime.onTimeView = s.onTimeView.clearAll.store := by
  rw [cleanRelayOnTime, onTimeView_storeTotalRelayOnTime]
  rfl

/-- One that leaves both totals alone. -/
theorem onTimeView_updOnTime_same (c : b.Chn) {f : RelayOnTime → RelayOnTime}
    (h : ∀ p, (f p).totalSeconds = p.totalSeconds)
    (h' : ∀ p, (f p).totalSecondsStored = p.totalSecondsStored) :
    (s.updOnTime c f).onTimeView = s.onTimeView := by
  rw [s.onTimeView_updOnTime c h', h]
  exact OnTimeView.ext (Function.update_eq_self c s.core.total) rfl rfl rfl

/-- A check that is due answers. -/
def PublishDue (c : b.Chn) : Prop :=
  clockTimeExceed s.sh.timeS (s.relay.onTime c).responseLastTS (s.relay.onTime c).intervalTS = true

instance (c : b.Chn) : Decidable (s.PublishDue c) := inferInstanceAs (Decidable (_ = _))

theorem onTimeView_checkPublishRelayOnTime (rand : Nat) (c : b.Chn) :
    (s.checkPublishRelayOnTime rand c).onTimeView =
      if s.PublishDue c then s.onTimeView.answer c else s.onTimeView := by
  rw [checkPublishRelayOnTime]
  dsimp only
  have hview : ∀ f : RelayOnTime → RelayOnTime, (∀ p, (f p).totalSeconds = p.totalSeconds) →
      (∀ p, (f p).totalSecondsStored = p.totalSecondsStored) →
      ((s.updOnTime c f).responseTotalRelayOnTime c).onTimeView = s.onTimeView.answer c := by
    intro f h1 h2
    rw [onTimeView_responseTotalRelayOnTime, onTimeView_updOnTime_same _ _ h1 h2]
  split
  · next h =>
    rw [if_pos (show s.PublishDue c from h)]
    exact hview _ (fun _ => rfl) fun _ => rfl
  · next h => rw [if_neg (show ¬ s.PublishDue c from h)]

/-- The count at the start of an iteration of the on-time loop. -/
def countChannel (c : b.Chn) : Device b ε :=
  if isOn s.relay.rlsPresent c then
    let s := s.clampCheckStart c
    let expireTimeMs := s.sh.timeMs - (s.relay.onTime c).checkStartTMs
    if expireTimeMs ≥ 60000 then
      s.updOnTime c fun p => { p with
        totalSeconds := p.totalSeconds + expireTimeMs / 1000
        checkStartTMs := s.sh.timeMs }
    else s
  else s

/-- An iteration of the on-time loop answers: the channel is OFF or has just been counted, and
its check is due. -/
def Answers (c : b.Chn) : Prop :=
  (s.core.present c = true → s.core.timeMs - s.core.clamped c ≥ 60000) ∧ s.PublishDue c

instance (c : b.Chn) : Decidable (s.Answers c) := inferInstanceAs (Decidable (_ ∧ _))

theorem besideDrive_countChannel (c : b.Chn) :
    (s.countChannel c).besideDrive = s.besideDrive := by
  have hclamp : (s.clampCheckStart c).besideDrive = s.besideDrive :=
    s.besideDrive_updOnTime c fun _ => rfl
  unfold countChannel
  dsimp only
  split
  · split
    · exact (besideDrive_updOnTime _ c (by exact fun _ => rfl)).trans hclamp
    · exact hclamp
  · rfl

theorem publishDue_countChannel (c : b.Chn) : (s.countChannel c).PublishDue c ↔ s.PublishDue c := by
  have hkeep : ∀ (s : Device b ε) (f : RelayOnTime → RelayOnTime),
      (∀ p, (f p).responseLastTS = p.responseLastTS) → (∀ p, (f p).intervalTS = p.intervalTS) →
      ((s.updOnTime c f).PublishDue c ↔ s.PublishDue c) := by
    intro s f hlast hint
    have hself : (s.updOnTime c f).relay.onTime c = f (s.relay.onTime c) :=
      Function.update_self ..
    rw [PublishDue, hself, hlast, hint]
    rfl
  have hclamp := hkeep s (fun p => { p with
    checkStartTMs := if p.checkStartTMs > s.sh.timeMs then s.sh.timeMs else p.checkStartTMs })
    (fun _ => rfl) fun _ => rfl
  unfold countChannel
  dsimp only
  split
  · split
    · exact Iff.trans (hkeep _ _ (fun _ => rfl) fun _ => rfl) hclamp
    · exact hclamp
  · exact Iff.rfl

/-- **An iteration of the on-time loop**: a count, and perhaps an answer. -/
theorem onTimeView_onTimeChannel (rand : Nat → Nat) (c : b.Chn) :
    (onTimeChannel rand s c).onTimeView =
      if s.Answers c then (s.countChannel c).onTimeView.answer c
      else (s.countChannel c).onTimeView := by
  have hstart : (s.clampCheckStart c).sh.timeMs -
      ((s.clampCheckStart c).relay.onTime c).checkStartTMs = s.core.timeMs - s.core.clamped c :=
    congrArg (s.sh.timeMs - ·) (s.onTime_clampCheckStart c).1
  have hpublish := s.publishDue_countChannel c
  -- the branches of the iteration: those that end in a check, and the one that does not
  have hiter : onTimeChannel rand s c =
      if s.core.present c = true → s.core.timeMs - s.core.clamped c ≥ 60000 then
        (s.countChannel c).checkPublishRelayOnTime (rand c) c
      else s.countChannel c := by
    rw [onTimeChannel, ← hstart]
    unfold countChannel
    dsimp only
    by_cases hp : isOn s.relay.rlsPresent c = true
    · rw [if_pos hp, if_pos hp]
      by_cases he : (s.clampCheckStart c).sh.timeMs -
          ((s.clampCheckStart c).relay.onTime c).checkStartTMs ≥ 60000
      · rw [if_pos he, if_pos he, if_pos fun _ => he]
      · rw [if_neg he, if_neg he, if_neg fun h => he (h hp)]
    · rw [if_neg hp, if_neg hp, if_pos fun h : s.core.present c = true => absurd h hp]
  rw [hiter]
  by_cases hcond : s.core.present c = true → s.core.timeMs - s.core.clamped c ≥ 60000
  · rw [if_pos hcond, onTimeView_checkPublishRelayOnTime]
    exact if_congr (hpublish.trans ⟨fun h => ⟨hcond, h⟩, fun h => h.2⟩) rfl rfl
  · rw [if_neg hcond, if_neg fun h : s.Answers c => hcond h.1]

end Device

end LumesSwitch
