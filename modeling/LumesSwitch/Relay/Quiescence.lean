import LumesSwitch.Relay.Events

/-!
# Relay quiescence

When the driver has nothing left to do, the pins show what the flags say. The
invariant is `DriveInv`: a channel whose present flag equals its target has its
pin at the right level, and an open drive (in progress, or finished and not yet
consumed) belongs to a channel whose flags differ, so that the drive settles it.

A switch-mode change complements the present flag to force a drive. If a
finished OFF drive of that channel is waiting to be consumed, consuming it sets
the present flag back and the forced drive is lost: `relay_redrive_lost`.
`ModeChangeOk` excludes that window, and `relay_quiescent_of_modeChangeOk` is
the property for every run that keeps clear of it.
-/

namespace LumesSwitch

open Runs

variable {b : Board}

namespace RelayCore

/-- An open drive of a channel: in progress, or finished and not yet consumed. -/
structure DriveInv (k : RelayCore b) : Prop where
  not_both : ¬ (k.busy = true ∧ k.done = true)
  differs : k.busy = true ∨ k.done = true → ∀ d, k.drive = some d →
    k.present d.chn ≠ k.target d.chn
  pending : k.done = true → ∀ d, k.drive = some d →
    k.pin d.chn = (k.mode d.chn).level d.on
  settled : ∀ c, k.present c = k.target c → k.pin c = (k.mode c).level (k.target c)

namespace DriveInv

variable {k k' : RelayCore b}

theorem command (h : DriveInv k) (c : b.Chn) (cmd : RelayCmd) : DriveInv (k.command c cmd) := by
  unfold RelayCore.command
  cases cmd with
  | net st =>
    dsimp only
    split
    · exact ⟨h.not_both, h.differs, h.pending, h.settled⟩
    · exact ⟨h.not_both, h.differs, h.pending, h.settled⟩
  | toggle => exact ⟨h.not_both, h.differs, h.pending, h.settled⟩
  | set st => exact ⟨h.not_both, h.differs, h.pending, h.settled⟩

theorem commands (h : DriveInv k) (hc : k.Commands k') : DriveInv k' :=
  hc.invariant (fun _ c cmd hk => hk.command c cmd) h

/-- Setting the present flag of a channel to the complement of its target opens
the channel for a drive. -/
theorem reopen (h : DriveInv k) {c : b.Chn} {t p s : b.Chn → Bool}
    (hc : p c ≠ t c) (ht : ∀ c', c' ≠ c → t c' = k.target c')
    (hp : ∀ c', c' ≠ c → p c' = k.present c') :
    DriveInv { k with target := t, present := p, set := s } := by
  constructor
  case not_both => exact h.not_both
  case differs =>
    intro hopen d hd
    by_cases hdc : d.chn = c
    · rw [← hdc] at hc
      exact hc
    · show p d.chn ≠ t d.chn
      rw [hp d.chn hdc, ht d.chn hdc]
      exact h.differs hopen d hd
  case pending => exact h.pending
  case settled =>
    intro c' heq
    by_cases hcc : c' = c
    · subst hcc
      exact absurd heq hc
    · change p c' = t c' at heq
      rw [hp c' hcc, ht c' hcc] at heq
      show k.pin c' = (k.mode c').level (t c')
      rw [ht c' hcc]
      exact h.settled c' heq

theorem map (h : DriveInv k) (c : b.Chn) : DriveInv (k.map c) := by
  rw [RelayCore.map]
  split
  · refine h.reopen (c := c) (s := k.set) ?_ (fun c' hc => ?_) (fun c' hc => ?_)
    · rw [Function.update_self, Function.update_self]
      exact Bool.not_ne_self _
    · exact Function.update_of_ne hc ..
    · exact Function.update_of_ne hc ..
  · exact h

theorem sameState (h : DriveInv k) (c : b.Chn) : DriveInv (k.sameState c) := by
  refine h.reopen (c := c) (t := k.target) (s := k.set) ?_ (fun _ _ => rfl) (fun c' hc => ?_)
  · rw [Function.update_self]
    exact Bool.not_ne_self _
  · exact Function.update_of_ne hc ..

theorem mapLoop {cs : List b.Chn} (h : DriveInv k) (hl : MapLoop cs k k') : DriveInv k' := by
  induction hl with
  | nil => exact h
  | cons hc _ ih => exact ih ((h.map _).commands hc)

/-- Counting on-time touches neither flags nor pins. -/
theorem count (h : DriveInv k) (c : b.Chn) : DriveInv (k.count c) := by
  rw [RelayCore.count]
  split
  · split
    · exact ⟨h.not_both, h.differs, h.pending, h.settled⟩
    · exact ⟨h.not_both, h.differs, h.pending, h.settled⟩
  · exact h

theorem onTime (h : DriveInv k) : DriveInv k.onTime := by
  rw [RelayCore.onTime]
  split
  · exact invariant_runFrom (fun _ c hk => hk.count c) h b.chns
  · exact h

/-- Consuming a finished drive: its channel is settled if the drive was for the
target, and stays open otherwise. -/
theorem consume (h : DriveInv k) (hdone : k.done = true) (hbusy : k.busy = false) :
    DriveInv k.consume := by
  have hclosed : ¬ (k.busy = true ∨ false = true) := by simp [hbusy]
  rw [RelayCore.consume]
  cases hd : k.drive with
  | none =>
    refine ⟨fun hb => Bool.false_ne_true hb.2, fun hopen => absurd hopen hclosed,
      fun hx => absurd hx Bool.false_ne_true, h.settled⟩
  | some d =>
    refine ⟨fun hb => Bool.false_ne_true hb.2, fun hopen => absurd hopen hclosed,
      fun hx => absurd hx Bool.false_ne_true, ?_⟩
    intro c heq
    by_cases hc : c = d.chn
    · -- its present flag is the state of the drive, which the pin has
      subst hc
      have hon : d.on = k.target d.chn := by simpa using heq
      rw [← hon]
      exact h.pending hdone d hd
    · refine h.settled c ?_
      simpa [hc] using heq

theorem start (h : DriveInv k) {c : b.Chn} (hdone : k.done = false)
    (hc : k.present c ≠ k.target c) : DriveInv (k.start c) := by
  refine ⟨fun hb => ?_, fun _ d hd => ?_, fun hx => ?_, h.settled⟩
  · exact Bool.false_ne_true (hdone.symm.trans hb.2)
  · obtain rfl : ⟨c, k.target c⟩ = d := Option.some.inj hd
    exact hc
  · exact absurd (hdone.symm.trans hx) Bool.false_ne_true

theorem consume_done (k : RelayCore b) : k.consume.done = false := by
  rw [RelayCore.consume]
  split <;> rfl

theorem pass (h : DriveInv k) (hbusy : k.busy = false) : DriveInv k.pass := by
  unfold RelayCore.pass
  generalize hk1 : (if k.done = true then k.consume else k) = k1
  have h1 : DriveInv k1 ∧ k1.done = false := by
    rw [← hk1]
    split
    · next hdone => exact ⟨h.consume hdone hbusy, consume_done k⟩
    · next hdone => exact ⟨h, Bool.not_eq_true _ ▸ hdone⟩
  dsimp only
  cases hn : k1.next with
  | none => exact h1.1
  | some c =>
    have hdiff := List.find?_some hn
    exact h1.1.start h1.2 fun heq => by simp [heq] at hdiff

theorem timerMatch (h : DriveInv k) : DriveInv k.timerMatch := by
  rw [RelayCore.timerMatch, RelayCore.drivenPin]
  split
  · next hbusy =>
    constructor
    case not_both => exact fun hb => Bool.false_ne_true hb.1
    case differs => exact fun _ d hd => h.differs (Or.inl hbusy) d hd
    case pending =>
      intro _ d hd
      simp only [show k.drive = some d from hd, Function.update_self]
    case settled =>
      intro c heq
      cases hd : k.drive with
      | none => exact h.settled c heq
      | some d =>
        -- the driven channel is open, so the settled ones keep their pins
        have hc : c ≠ d.chn := by
          rintro rfl
          exact h.differs (Or.inl hbusy) d hd heq
        show Function.update k.pin d.chn _ c = _
        rw [Function.update_of_ne hc]
        exact h.settled c heq
  · exact h

/-- A mode change keeps the invariant unless it takes a channel with a finished
OFF drive into or out of lighting mode. -/
theorem changeMode (h : DriveInv k) (c : b.Chn) (m : SwitchMode)
    (hok : k.done = true → k.drive = some ⟨c, false⟩ →
      (k.mode c = .lighting ↔ m = .lighting)) : DriveInv (k.changeMode c m) := by
  have hpend : k.done = true → ∀ d, k.drive = some d →
      k.pin d.chn = ((k.writeMode c m).mode d.chn).level d.on := by
    intro hdone d hd
    have hp := h.pending hdone d hd
    by_cases hc : d.chn = c
    · subst hc
      rw [show (k.writeMode d.chn m).mode d.chn = m from Function.update_self .., hp]
      cases hon : d.on with
      | true => rw [SwitchMode.level_true, SwitchMode.level_true]
      | false =>
        -- the window of the lost drive, which `hok` excludes
        have hiff := hok hdone (by rw [hd, ← hon])
        unfold SwitchMode.level
        by_cases hm : m = .lighting
        · rw [if_pos hm, if_pos (hiff.mpr hm)]
        · rw [if_neg hm, if_neg (fun hx => hm (hiff.mp hx))]
    · rw [show (k.writeMode c m).mode d.chn = k.mode d.chn from Function.update_of_ne hc ..]
      exact hp
  -- the modes of the other channels are as before
  have hother : ∀ c', c' ≠ c → (k.writeMode c m).mode c' = k.mode c' :=
    fun c' hc => Function.update_of_ne hc ..
  rw [RelayCore.changeMode]
  split
  · next heq =>
    have hsame : k.writeMode c m = k := by
      rw [writeMode, ← heq]
      exact RelayCore.ext rfl rfl rfl rfl (Function.update_eq_self c k.mode) rfl rfl rfl rfl rfl
        rfl rfl rfl
    rw [hsame]
    exact h
  · split
    · next hmom =>
      -- momentary, and ON: the pin is ON under either mode
      have hw : DriveInv (k.writeMode c m) := by
        refine ⟨h.not_both, h.differs, hpend, ?_⟩
        intro c' heq
        by_cases hc : c' = c
        · subst hc
          have hp := h.settled c' heq
          rw [hmom.2] at hp
          show k.pin c' = ((k.writeMode c' m).mode c').level (k.target c')
          rw [hp, hmom.2, SwitchMode.level_true, SwitchMode.level_true]
        · rw [hother c' hc]
          exact h.settled c' heq
      exact hw.command c _
    · -- a forced drive opens the channel under its new mode
      constructor
      case not_both => exact h.not_both
      case differs =>
        intro hopen d hd
        by_cases hc : d.chn = c
        · subst hc
          show Function.update k.present d.chn (!k.target d.chn) d.chn ≠ k.target d.chn
          rw [Function.update_self]
          exact Bool.not_ne_self _
        · show Function.update k.present c (!k.target c) d.chn ≠ k.target d.chn
          rw [Function.update_of_ne hc]
          exact h.differs hopen d hd
      case pending => exact hpend
      case settled =>
        intro c' heq
        by_cases hc : c' = c
        · subst hc
          change Function.update k.present c' (!k.target c') c' = k.target c' at heq
          rw [Function.update_self] at heq
          exact absurd heq (Bool.not_ne_self _)
        · change Function.update k.present c (!k.target c) c' = k.target c' at heq
          rw [Function.update_of_ne hc] at heq
          show k.pin c' = ((k.writeMode c m).mode c').level (k.target c')
          rw [hother c' hc]
          exact h.settled c' heq

end DriveInv

end RelayCore

namespace Device

variable {ε : Type}

/-- No switch-mode change takes a channel into or out of lighting mode while a
finished OFF drive of that channel waits for `relay_proc`. -/
def ModeChangeOk (s : Device b ε) : RelayEvent b ε → Prop
  | .changeMode c m =>
    s.relay.doneOnOffControlFlag = true → s.relay.active = some ⟨c, false⟩ →
      (s.sh.switchMode c = .lighting ↔ m = .lighting)
  | _ => True

instance (s : Device b ε) (ev : RelayEvent b ε) : Decidable (s.ModeChangeOk ev) :=
  match ev with
  | .changeMode _ _ => inferInstanceAs (Decidable (_ → _ → _))
  | .setTargetState .. | .toggleState .. | .netState .. | .zeroSync | .timerMatch | .proc _
  | .clock .. | .other .. => isTrue trivial

/-- `relay_proc` would start nothing. -/
def Quiescent (s : Device b ε) : Prop :=
  s.relay.relayModuleSt = .idle ∧ s.relay.doneOnOffControlFlag = false ∧
  ∀ c : b.Chn, Flags.isOn s.relay.rlsSet c = Flags.isOn s.relay.rlsTarget c ∧
    Flags.isOn s.relay.rlsTarget c = Flags.isOn s.relay.rlsPresent c

instance (s : Device b ε) : Decidable s.Quiescent := inferInstanceAs (Decidable (_ ∧ _ ∧ _))

/-- The level the pin of a channel must have: ON in lighting mode, else its
`RLS_TARGET` flag. -/
def wantedLevel (s : Device b ε) (c : b.Chn) : Bool :=
  if s.sh.switchMode c = .lighting then true else Flags.isOn s.relay.rlsTarget c

/-- **Step lemma**. -/
theorem driveInv_step (cb : StateChangeCallback b ε) {s : Device b ε} {ev : RelayEvent b ε}
    (h : s.core.DriveInv) (hok : s.ModeChangeOk ev) : (s.step cb ev).core.DriveInv := by
  have hstep := s.core_step cb ev
  generalize (s.step cb ev).core = k' at hstep
  cases hstep with
  | commands hc => exact h.commands hc
  | changeMode c m => exact h.changeMode c m hok
  | timerMatch => exact h.timerMatch
  | @proc _ _ k1 k2 h1 h2 =>
    have h3 := (h.onTime.mapLoop h1).commands h2
    split
    · exact h3
    · next hb => exact h3.pass (Bool.not_eq_true _ ▸ hb)
  | clock ms sec => exact ⟨h.not_both, h.differs, h.pending, h.settled⟩

theorem driveInv_boot (rand : Nat → Nat) (stateLog onTimeLog : LogState) (sh : Shared b)
    (env : ε) : (boot rand stateLog onTimeLog sh env).core.DriveInv := by
  obtain ⟨t, total, heq⟩ := core_boot rand stateLog onTimeLog sh env
  rw [heq]
  refine ⟨fun hb => Bool.false_ne_true hb.1, fun _ _ hd => (nomatch hd),
    fun _ _ hd => (nomatch hd), fun c hc => ?_⟩
  exact absurd hc (Bool.not_ne_self _)

/-- A quiescent device with the invariant shows its flags on the pins. -/
theorem pin_of_quiescent {s : Device b ε} (h : s.core.DriveInv) (hq : s.Quiescent)
    (c : b.Chn) : s.relay.pin c = s.wantedLevel c := by
  obtain ⟨-, -, hflags⟩ := hq
  exact h.settled c (hflags c).2.symm

end Device

/-- **Relay quiescence.** In every run from `relay_init` whose mode changes keep
clear of unconsumed OFF drives, whenever the driver is at rest every pin is ON in
lighting mode and equal to `RLS_TARGET` otherwise. -/
theorem relay_quiescent_of_modeChangeOk {ε : Type} (cb : StateChangeCallback b ε)
    (rand : Nat → Nat) (stateLog onTimeLog : LogState) (sh : Shared b) (env : ε)
    (evs : List (RelayEvent b ε))
    (hok : AllSteps (Device.step cb) Device.ModeChangeOk
      (Device.boot rand stateLog onTimeLog sh env) evs)
    (hq : (runFrom (Device.step cb) (Device.boot rand stateLog onTimeLog sh env) evs).Quiescent)
    (c : b.Chn) :
    (runFrom (Device.step cb) (Device.boot rand stateLog onTimeLog sh env) evs).relay.pin c =
      (runFrom (Device.step cb) (Device.boot rand stateLog onTimeLog sh env) evs).wantedLevel
        c := by
  refine Device.pin_of_quiescent ?_ hq c
  exact AllSteps.invariant (I := fun s : Device b ε => s.core.DriveInv)
    (fun s ev h h' => Device.driveInv_step cb h h')
    (Device.driveInv_boot rand stateLog onTimeLog sh env) hok

/-! ## The lost drive -/

/-- The drive after power-on, up to the interrupt. -/
def firstDrive : List (RelayEvent board1 Unit) := [.proc fun _ => 0, .zeroSync, .timerMatch]

/-- The first drive and its consumption, then an accepted change to lighting
mode and the drive it forces. -/
def lightingEvents : List (RelayEvent board1 Unit) :=
  firstDrive ++ [.proc fun _ => 0, .changeMode board1.chn0 .lighting] ++ firstDrive ++
    [.proc fun _ => 0]

theorem relay_quiescent_lighting :
    (runFrom (Device.step (noCallback board1))
      (Device.boot (fun _ => 0) emptyLog emptyLog demoShared ()) lightingEvents).relay.pin
        board1.chn0 =
    (runFrom (Device.step (noCallback board1))
      (Device.boot (fun _ => 0) emptyLog emptyLog demoShared ()) lightingEvents).wantedLevel
        board1.chn0 :=
  relay_quiescent_of_modeChangeOk (noCallback board1) (fun _ => 0) emptyLog emptyLog demoShared
    () lightingEvents (by decide +kernel) (by decide +kernel) board1.chn0

/-- The mode changes between the interrupt of the first drive and the pass that
consumes it: the driver comes to rest with the lighting channel OFF. -/
theorem relay_redrive_lost :
    ¬ ∀ (b : Board) (ε : Type) (cb : StateChangeCallback b ε) (rand : Nat → Nat)
      (stateLog onTimeLog : LogState) (sh : Shared b) (env : ε) (evs : List (RelayEvent b ε))
      (c : b.Chn),
      (runFrom (Device.step cb) (Device.boot rand stateLog onTimeLog sh env) evs).Quiescent →
      (runFrom (Device.step cb) (Device.boot rand stateLog onTimeLog sh env) evs).relay.pin c =
        (runFrom (Device.step cb) (Device.boot rand stateLog onTimeLog sh env) evs).wantedLevel
          c := by
  intro h
  have hrun := h board1 Unit (noCallback board1) (fun _ => 0) emptyLog emptyLog demoShared ()
    (firstDrive ++ [.changeMode board1.chn0 .lighting, .proc fun _ => 0]) board1.chn0
    (by decide +kernel)
  revert hrun
  decide +kernel

end LumesSwitch
