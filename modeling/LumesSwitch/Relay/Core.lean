import LumesSwitch.Lib.Run
import LumesSwitch.Relay.Model

/-!
# The core of the relay driver

What the relay properties depend on: per channel the three flags, the level of
the pin, the switch mode and the on-time counter; the drive in progress; the
clock; and the commands accepted. `RelayCore` has one operation for each thing
the driver does to them, and `Device.core` maps a device to its core. The
lemmas `core_…` say which operation each function of `relay.c` is.

The state-change callback and the automatic OFF issue commands the core does
not determine: `Commands k k'` says that `k'` comes from `k` by some commands.
-/

namespace LumesSwitch

open Flags Runs

@[ext] structure RelayCore (b : Board) where
  target : b.Chn → Bool
  present : b.Chn → Bool
  set : b.Chn → Bool
  pin : b.Chn → Bool
  mode : b.Chn → SwitchMode
  busy : Bool
  done : Bool
  drive : Option (Drive b)
  total : b.Chn → UInt32
  checkStart : b.Chn → UInt32
  powerOn : b.Chn → Bool
  timeMs : UInt32
  trace : List (CmdEntry b)

/-- The level a drive puts on the pin: a lighting channel is always fed. -/
def SwitchMode.level (m : SwitchMode) (on : Bool) : Bool := if m = .lighting then true else on

@[simp] theorem SwitchMode.level_true (m : SwitchMode) : m.level true = true := ite_self true

namespace RelayCore

variable {b : Board}

/-! ## Operations -/

/-- The effect of a command: a network command for the target state has none,
and a toggle inverts the target. -/
def command (k : RelayCore b) (c : b.Chn) (cmd : RelayCmd) : RelayCore b :=
  let k' := { k with trace := k.trace ++ [⟨c, cmd, k.target c, k.set c⟩] }
  match cmd with
  | .net st => if k.target c = st then k' else { k' with set := Function.update k.set c st }
  | .toggle => { k' with set := Function.update k.set c (!k.target c) }
  | .set st => { k' with set := Function.update k.set c st }

/-- `k'` comes from `k` by commands. -/
def Commands (k k' : RelayCore b) : Prop :=
  ∃ cmds : List (b.Chn × RelayCmd), k' = runFrom (fun k p => k.command p.1 p.2) k cmds

/-- Force a drive of channel `c`. -/
def sameState (k : RelayCore b) (c : b.Chn) : RelayCore b :=
  { k with present := Function.update k.present c (!k.target c) }

def writeMode (k : RelayCore b) (c : b.Chn) (m : SwitchMode) : RelayCore b :=
  { k with mode := Function.update k.mode c m }

/-- A new switch mode for channel `c`. -/
def changeMode (k : RelayCore b) (c : b.Chn) (m : SwitchMode) : RelayCore b :=
  if k.mode c = m then k.writeMode c m
  else if m = .momentary ∧ k.target c = true then (k.writeMode c m).command c (.set false)
  else (k.writeMode c m).sameState c

/-- The start of counting, not later than now. -/
def clamped (k : RelayCore b) (c : b.Chn) : UInt32 :=
  if k.checkStart c > k.timeMs then k.timeMs else k.checkStart c

/-- The periodic on-time count of channel `c`. -/
def count (k : RelayCore b) (c : b.Chn) : RelayCore b :=
  if k.present c then
    if k.timeMs - k.clamped c ≥ 60000 then
      { k with
        total := Function.update k.total c (k.total c + (k.timeMs - k.clamped c) / 1000)
        checkStart := Function.update k.checkStart c k.timeMs }
    else { k with checkStart := Function.update k.checkStart c (k.clamped c) }
  else k

/-- Map the set flag of channel `c` to its target. -/
def map (k : RelayCore b) (c : b.Chn) : RelayCore b :=
  if k.set c ≠ k.target c then
    { k with
      target := Function.update k.target c (k.set c)
      present := Function.update k.present c (!k.set c) }
  else k

/-- The mapping loop: behind each channel mapped, the callback may issue commands. -/
inductive MapLoop : List b.Chn → RelayCore b → RelayCore b → Prop where
  | nil (k : RelayCore b) : MapLoop [] k k
  | cons {c : b.Chn} {cs : List b.Chn} {k k' k'' : RelayCore b}
      (hc : Commands (k.map c) k') (hcs : MapLoop cs k' k'') : MapLoop (c :: cs) k k''

/-- The on-time loop, from five seconds after boot. -/
def onTime (k : RelayCore b) : RelayCore b :=
  if clockTimeExceed k.timeMs 0 5000 then runFrom count k b.chns else k

/-- Consume a finished drive. -/
def consume (k : RelayCore b) : RelayCore b :=
  match k.drive with
  | none => { k with done := false }
  | some d =>
    { k with
      done := false
      present := Function.update k.present d.chn d.on
      total := if d.on = false ∧ k.powerOn d.chn = false then
          Function.update k.total d.chn
            (k.total d.chn + (k.timeMs - k.clamped d.chn) / 1000)
        else k.total
      checkStart := Function.update k.checkStart d.chn
        (if d.on then k.timeMs else k.clamped d.chn)
      powerOn := Function.update k.powerOn d.chn false }

/-- Start a drive of channel `c`. -/
def start (k : RelayCore b) (c : b.Chn) : RelayCore b :=
  { k with busy := true, drive := some ⟨c, k.target c⟩ }

/-- The first channel that needs a drive. -/
def next (k : RelayCore b) : Option b.Chn :=
  b.chns.find? fun c => k.target c != k.present c

/-- A pass of the idle driver. -/
def pass (k : RelayCore b) : RelayCore b :=
  let k := if k.done then k.consume else k
  match k.next with
  | some c => k.start c
  | none => k

/-- The pins with that of the drive in progress written. -/
def drivenPin (k : RelayCore b) : b.Chn → Bool :=
  match k.drive with
  | none => k.pin
  | some d => Function.update k.pin d.chn ((k.mode d.chn).level d.on)

/-- The timer interrupt behind a zero crossing. -/
def timerMatch (k : RelayCore b) : RelayCore b :=
  if k.busy then { k with busy := false, done := true, pin := k.drivenPin } else k

theorem Commands.refl (k : RelayCore b) : Commands k k := ⟨[], rfl⟩

theorem Commands.one (k : RelayCore b) (c : b.Chn) (cmd : RelayCmd) :
    Commands k (k.command c cmd) := ⟨[(c, cmd)], rfl⟩

theorem Commands.trans {k k' k'' : RelayCore b} (h : Commands k k') (h' : Commands k' k'') :
    Commands k k'' := by
  obtain ⟨xs, rfl⟩ := h
  obtain ⟨ys, rfl⟩ := h'
  exact ⟨xs ++ ys, (runFrom_append _ _ xs ys).symm⟩

/-- What every command preserves, commands preserve. -/
theorem Commands.invariant {I : RelayCore b → Prop} {k k' : RelayCore b} (h : Commands k k')
    (hI : ∀ k c cmd, I k → I (k.command c cmd)) (hk : I k) : I k' := by
  obtain ⟨cmds, rfl⟩ := h
  exact invariant_runFrom (fun k p hk => hI k p.1 p.2 hk) hk cmds

/-- What every command and every mapping preserves, the mapping loop preserves. -/
theorem MapLoop.invariant {I : RelayCore b → Prop} {cs : List b.Chn} {k k' : RelayCore b}
    (h : MapLoop cs k k') (hI : ∀ k c cmd, I k → I (k.command c cmd))
    (hmap : ∀ k c, I k → I (k.map c)) (hk : I k) : I k' := by
  induction h with
  | nil => exact hk
  | cons hc _ ih => exact ih (hc.invariant hI (hmap _ _ hk))

/-! ### The flags the on-time loop and the idle pass leave alone -/

/-- The on-time loop changes on-time only. -/
theorem onTime_eq (k : RelayCore b) :
    ∃ total checkStart, k.onTime = { k with total := total, checkStart := checkStart } := by
  rw [onTime]
  split
  · refine invariant_runFrom
      (I := fun k' => ∃ total checkStart, k' = { k with total := total, checkStart := checkStart })
      (fun k' c hk' => ?_) ⟨k.total, k.checkStart, rfl⟩ b.chns
    obtain ⟨total, checkStart, rfl⟩ := hk'
    rw [count]
    split
    · split
      · exact ⟨_, _, rfl⟩
      · exact ⟨_, _, rfl⟩
    · exact ⟨_, _, rfl⟩
  · exact ⟨_, _, rfl⟩

/-- Behind the consumption of a finished drive, a pass only starts a drive. -/
theorem pass_eq (k : RelayCore b) :
    ∃ busy drive,
      k.pass = { (if k.done then k.consume else k) with busy := busy, drive := drive } := by
  rw [pass]
  generalize (if k.done = true then k.consume else k) = k1
  dsimp only
  cases k1.next with
  | none => exact ⟨k1.busy, k1.drive, rfl⟩
  | some c => exact ⟨true, some ⟨c, k1.target c⟩, rfl⟩

theorem consume_flags (k : RelayCore b) :
    k.consume.set = k.set ∧ k.consume.target = k.target ∧ k.consume.trace = k.trace := by
  rw [consume]
  split <;> exact ⟨rfl, rfl, rfl⟩

/-- The pass of the idle driver changes neither set nor target flags. -/
theorem pass_flags (k : RelayCore b) :
    k.pass.set = k.set ∧ k.pass.target = k.target ∧ k.pass.trace = k.trace := by
  obtain ⟨busy, drive, heq⟩ := k.pass_eq
  rw [heq]
  split
  · exact k.consume_flags
  · exact ⟨rfl, rfl, rfl⟩

end RelayCore

/-! ## The core of a device -/

theorem isOn_backupMaskRl {b : Board} (c : b.Chn) : isOn backupMaskRl c = true := by
  have h1 := b.le_three
  have h2 := c.isLt
  have h3 : c.val = 0 ∨ c.val = 1 ∨ c.val = 2 := by omega
  rcases h3 with h | h | h <;> rw [h] <;> decide

theorem chn_lt {b : Board} (c : b.Chn) : c.val < 16 := by
  have h1 := b.le_three
  have h2 := c.isLt
  omega

/-- The flags of the board's channels. -/
def flags {b : Board} (w : BitVec 16) : b.Chn → Bool := fun c => isOn w c

@[simp] theorem flags_mask {b : Board} (w : BitVec 16) :
    (flags (w &&& backupMaskRl) : b.Chn → Bool) = flags w := by
  funext c
  simp [flags, isOn_backupMaskRl c]

@[simp] theorem flags_put {b : Board} (w : BitVec 16) (c : b.Chn) (v : Bool) :
    (flags (Flags.put w c v) : b.Chn → Bool) = Function.update (flags w) c v := by
  funext c'
  rw [flags, isOn_put w (chn_lt c)]
  by_cases h : c' = c
  · subst h
    simp
  · have hv : ¬ c'.val = c.val := fun hx => h (Fin.ext hx)
    simp [h, hv, flags]

namespace Device

variable {b : Board} {ε : Type}

def core (s : Device b ε) : RelayCore b where
  target := flags s.relay.rlsTarget
  present := flags s.relay.rlsPresent
  set := flags s.relay.rlsSet
  pin := s.relay.pin
  mode := s.sh.switchMode
  busy := decide (s.relay.relayModuleSt = .busy)
  done := s.relay.doneOnOffControlFlag
  drive := s.relay.active
  total c := (s.relay.onTime c).totalSeconds
  checkStart c := (s.relay.onTime c).checkStartTMs
  powerOn := s.relay.powerOnControl
  timeMs := s.sh.timeMs
  trace := s.trace

/-! ### Functions that leave the core alone -/

@[simp] theorem core_emit (s : Device b ε) (o : RelayOut) : (s.emit o).core = s.core := rfl

@[simp] theorem core_updateControlMessageParams (s : Device b ε) (idx : Nat)
    (src dst opcode : UInt16) :
    (s.updateControlMessageParams idx src dst opcode).core = s.core := by
  rw [updateControlMessageParams]
  split <;> rfl

@[simp] theorem core_handleStoreDelay (s : Device b ε) : s.handleStoreDelay.core = s.core := by
  rw [handleStoreDelay]
  dsimp only
  split <;> rfl

@[simp] theorem core_procBusy (s : Device b ε) : s.procBusy.core = s.core := by
  rw [procBusy]
  split <;> rfl

@[simp] theorem core_checkBusyTimeout (s : Device b ε) : s.checkBusyTimeout.core = s.core := by
  unfold checkBusyTimeout
  dsimp only
  split <;> split <;> rfl

@[simp] theorem core_gridFreqZeroSync (s : Device b ε) : s.gridFreqZeroSync.core = s.core := by
  rw [gridFreqZeroSync]
  dsimp only
  split
  · split <;> split <;> rfl
  · rfl

@[simp] theorem core_handleZeroSync (s : Device b ε) : s.handleZeroSync.core = s.core := by
  unfold handleZeroSync
  dsimp only
  split
  · rw [core_gridFreqZeroSync]
    rfl
  · exact s.core_gridFreqZeroSync

@[simp] theorem core_storeTotalRelayOnTime (s : Device b ε) :
    s.storeTotalRelayOnTime.core = s.core := by
  rw [storeTotalRelayOnTime]
  split <;> rfl

/-- An update of the on-time entry of one channel. -/
theorem core_updOnTime (s : Device b ε) (c : b.Chn) (f : RelayOnTime → RelayOnTime) :
    (s.updOnTime c f).core =
      { s.core with
        total := Function.update s.core.total c (f (s.relay.onTime c)).totalSeconds
        checkStart := Function.update s.core.checkStart c
          (f (s.relay.onTime c)).checkStartTMs } := by
  refine RelayCore.ext rfl rfl rfl rfl rfl rfl rfl rfl ?_ ?_ rfl rfl rfl
  · funext c'
    by_cases h : c' = c
    · subst h
      simp [core, updOnTime, updRelay]
    · simp [core, updOnTime, updRelay, h]
  · funext c'
    by_cases h : c' = c
    · subst h
      simp [core, updOnTime, updRelay]
    · simp [core, updOnTime, updRelay, h]

/-- An update that leaves the two on-time numbers alone. -/
theorem core_updOnTime_same (s : Device b ε) (c : b.Chn) {f : RelayOnTime → RelayOnTime}
    (h1 : ∀ p, (f p).totalSeconds = p.totalSeconds)
    (h2 : ∀ p, (f p).checkStartTMs = p.checkStartTMs) : (s.updOnTime c f).core = s.core := by
  rw [core_updOnTime, h1, h2]
  refine RelayCore.ext rfl rfl rfl rfl rfl rfl rfl rfl ?_ ?_ rfl rfl rfl
  · exact Function.update_eq_self c s.core.total
  · exact Function.update_eq_self c s.core.checkStart

@[simp] theorem core_checkPublishRelayOnTime (rand : Nat) (s : Device b ε) (c : b.Chn) :
    (s.checkPublishRelayOnTime rand c).core = s.core := by
  rw [checkPublishRelayOnTime]
  dsimp only
  split
  · rw [responseTotalRelayOnTime, core_storeTotalRelayOnTime, core_emit]
    exact s.core_updOnTime_same c (fun _ => rfl) (fun _ => rfl)
  · rfl

/-! ### Commands -/

theorem core_record (s : Device b ε) (c : b.Chn) (cmd : RelayCmd) :
    (s.record c cmd).core =
      { s.core with trace := s.core.trace ++ [⟨c, cmd, s.core.target c, s.core.set c⟩] } := by
  rw [record, dif_pos c.isLt]
  rfl

theorem core_writeSet (s : Device b ε) (c : b.Chn) (st : UInt8) (src : SrcControl)
    (store : Bool) :
    (s.writeSet c st src store).core =
      { s.core with set := Function.update s.core.set c (decide (st = gOn)) } := by
  have hset : (flags (Flags.put s.relay.rlsSet c (decide (st = gOn)) &&& backupMaskRl) :
      b.Chn → Bool) = Function.update (flags s.relay.rlsSet) c (decide (st = gOn)) := by
    rw [flags_mask, flags_put]
  rw [writeSet, dif_pos c.isLt]
  dsimp only
  split <;> split <;>
    (try rw [core_updateControlMessageParams]) <;>
    exact RelayCore.ext rfl rfl hset rfl rfl rfl rfl rfl rfl rfl rfl rfl rfl

/-- A channel the board lacks takes no command. -/
theorem writeSet_of_ge (s : Device b ε) {idx : Nat} (h : ¬ idx < b.numberRl) (st : UInt8)
    (src : SrcControl) (store : Bool) : s.writeSet idx st src store = s := dif_neg h

theorem record_of_ge (s : Device b ε) {idx : Nat} (h : ¬ idx < b.numberRl) (cmd : RelayCmd) :
    s.record idx cmd = s := dif_neg h

theorem core_setTargetState (s : Device b ε) (c : b.Chn) (st : UInt8) (src : SrcControl)
    (store : Bool) :
    (s.setTargetState c st src store).core = s.core.command c (.set (decide (st = gOn))) := by
  rw [setTargetState, core_writeSet, core_record]
  rfl

theorem core_toggleState (s : Device b ε) (c : b.Chn) (src : SrcControl) :
    (s.toggleState c src).core = s.core.command c .toggle := by
  rw [toggleState, core_writeSet, core_record]
  have hst : decide ((if bit s.relay.rlsTarget c = gOn then gOff else gOn) = gOn)
      = !s.core.target c := by
    show _ = !isOn s.relay.rlsTarget c
    rw [bit]
    cases isOn s.relay.rlsTarget c <;> rfl
  rw [hst]
  rfl

theorem core_netState (s : Device b ε) (c : b.Chn) (st : Bool) :
    (s.netState c st).core = s.core.command c (.net st) := by
  rw [netState, RelayCore.command]
  dsimp only
  have hiff : isOn s.relay.rlsTarget c = st ↔ s.core.target c = st := Iff.rfl
  by_cases h : isOn s.relay.rlsTarget c = st
  · rw [if_pos h, if_pos (hiff.mp h), core_record]
  · rw [if_neg h, if_neg (fun hx => h (hiff.mpr hx)), core_writeSet, core_record]
    have hst : decide ((if st = true then gOn else gOff) = gOn) = st := by cases st <;> rfl
    rw [hst]

end Device

/-- The core sees a callback step as commands. -/
theorem CallbackStep.commands {b : Board} {ε : Type} {s s' : Device b ε}
    (h : CallbackStep s s') : RelayCore.Commands s.core s'.core := by
  have hidx : ∀ idx : Nat, idx < b.numberRl ∨ ¬ idx < b.numberRl := fun idx => Decidable.em _
  cases h with
  | setTargetState idx st src store =>
    rcases hidx idx with h | h
    · rw [show s.setTargetState idx st src store
        = s.setTargetState (⟨idx, h⟩ : b.Chn) st src store from rfl, Device.core_setTargetState]
      exact .one _ _ _
    · rw [Device.setTargetState, Device.writeSet_of_ge _ h, Device.record_of_ge _ h]
      exact .refl _
  | toggleState idx src =>
    rcases hidx idx with h | h
    · rw [show s.toggleState idx src = s.toggleState (⟨idx, h⟩ : b.Chn) src from rfl,
        Device.core_toggleState]
      exact .one _ _ _
    · rw [Device.toggleState, Device.writeSet_of_ge _ h, Device.record_of_ge _ h]
      exact .refl _
  | netState idx st =>
    rcases hidx idx with h | h
    · rw [show s.netState idx st = s.netState (⟨idx, h⟩ : b.Chn) st from rfl,
        Device.core_netState]
      exact .one _ _ _
    · rw [Device.netState, Device.writeSet_of_ge _ h, Device.record_of_ge _ h, ite_self]
      exact .refl _
  | other env nwk => exact .refl _

/-- The core sees callback steps as commands. -/
theorem commands_of_callbackSteps {b : Board} {ε : Type} {s s' : Device b ε}
    (h : Relation.ReflTransGen CallbackStep s s') : RelayCore.Commands s.core s'.core := by
  induction h with
  | refl => exact .refl _
  | tail _ hstep ih => exact ih.trans hstep.commands

/-- The core sees a state-change callback as commands. -/
theorem StateChangeCallback.commands {b : Board} {ε : Type} (cb : StateChangeCallback b ε)
    (s : Device b ε) (c : b.Chn) (st : UInt8) :
    RelayCore.Commands s.core (cb.run s c st).core :=
  commands_of_callbackSteps (cb.steps s c st)

namespace Device

variable {b : Board} {ε : Type}

/-! ### The main loop -/

theorem core_controlSameState (s : Device b ε) (c : b.Chn) :
    (s.controlSameState c).core = s.core.sameState c := by
  refine RelayCore.ext rfl ?_ rfl rfl rfl rfl rfl rfl rfl rfl rfl rfl rfl
  exact flags_put s.relay.rlsPresent c (!isOn s.relay.rlsTarget c)

theorem core_writeSwitchMode (s : Device b ε) (c : b.Chn) (m : SwitchMode) :
    (s.writeSwitchMode c m).core = s.core.writeMode c m := rfl

theorem core_changeMode (s : Device b ε) (c : b.Chn) (m : SwitchMode) :
    (s.changeMode c m).core = s.core.changeMode c m := by
  have hmode : (s.writeSwitchMode c m).sh.switchMode c = m := Function.update_self ..
  rw [changeMode, RelayCore.changeMode]
  by_cases hm : s.sh.switchMode c = m
  · rw [if_neg (fun hx => hx hm), if_pos (show s.core.mode c = m from hm), core_writeSwitchMode]
  · rw [if_pos hm, if_neg (show ¬ s.core.mode c = m from hm), handleSwitchChangeMode, hmode]
    cases m with
    | momentary =>
      dsimp only
      by_cases ht : isOn s.relay.rlsTarget c = false
      · have hf : ¬ s.core.target c = true := fun hx => Bool.false_ne_true (ht.symm.trans hx)
        rw [if_pos (show isOn (s.writeSwitchMode c .momentary).relay.rlsTarget c = false from ht),
          if_neg (fun hx => hf hx.2), core_controlSameState, core_writeSwitchMode]
      · have hx : s.core.target c = true := Bool.not_eq_false _ ▸ ht
        rw [if_neg (show ¬ isOn (s.writeSwitchMode c .momentary).relay.rlsTarget c = false from ht),
          if_pos ⟨rfl, hx⟩, core_setTargetState, core_writeSwitchMode]
        rfl
    | toggle =>
      dsimp only
      rw [if_neg (fun hx => SwitchMode.noConfusion hx.1), core_controlSameState,
        core_writeSwitchMode]
    | lighting =>
      dsimp only
      rw [if_neg (fun hx => SwitchMode.noConfusion hx.1), core_controlSameState,
        core_writeSwitchMode]

theorem core_clampCheckStart (s : Device b ε) (c : b.Chn) :
    (s.clampCheckStart c).core =
      { s.core with checkStart := Function.update s.core.checkStart c (s.core.clamped c) } := by
  rw [clampCheckStart, core_updOnTime]
  refine RelayCore.ext rfl rfl rfl rfl rfl rfl rfl rfl ?_ rfl rfl rfl rfl
  exact Function.update_eq_self c s.core.total

theorem onTime_clampCheckStart (s : Device b ε) (c : b.Chn) :
    ((s.clampCheckStart c).relay.onTime c).checkStartTMs = s.core.clamped c ∧
    ((s.clampCheckStart c).relay.onTime c).totalSeconds = s.core.total c := by
  simp [clampCheckStart, updOnTime, updRelay, RelayCore.clamped, core]

theorem core_onTimeChannel (rand : Nat → Nat) (s : Device b ε) (c : b.Chn) :
    (onTimeChannel rand s c).core = s.core.count c := by
  obtain ⟨hstart, htotal⟩ := s.onTime_clampCheckStart c
  have htime : (s.clampCheckStart c).sh.timeMs = s.core.timeMs := rfl
  rw [onTimeChannel, RelayCore.count]
  dsimp only
  by_cases hp : isOn s.relay.rlsPresent c = true
  · rw [if_pos hp, if_pos (show s.core.present c = true from hp), hstart, htime]
    by_cases he : s.core.timeMs - s.core.clamped c ≥ 60000
    · rw [if_pos he, if_pos he, core_checkPublishRelayOnTime, core_updOnTime,
        core_clampCheckStart]
      simp only [htotal, Function.update_idem]
    · rw [if_neg he, if_neg he, core_clampCheckStart]
  · rw [if_neg hp, if_neg (show ¬ s.core.present c = true from hp),
      core_checkPublishRelayOnTime]

theorem core_onTimeProc (rand : Nat → Nat) (s : Device b ε) :
    (s.onTimeProc rand).core = s.core.onTime := by
  rw [onTimeProc, RelayCore.onTime]
  split
  · next h =>
    rw [if_pos (show clockTimeExceed s.core.timeMs 0 5000 = true from h)]
    exact runFrom_map core (core_onTimeChannel rand) s b.chns
  · next h => rw [if_neg (show ¬ clockTimeExceed s.core.timeMs 0 5000 = true from h)]

theorem core_maskRls (s : Device b ε) : s.maskRls.core = s.core := by
  refine RelayCore.ext ?_ ?_ ?_ rfl rfl rfl rfl rfl rfl rfl rfl rfl rfl
  · exact flags_mask s.relay.rlsTarget
  · exact flags_mask s.relay.rlsPresent
  · exact flags_mask s.relay.rlsSet

theorem core_mapChannel (cb : StateChangeCallback b ε) (s : Device b ε) (c : b.Chn) :
    RelayCore.Commands (s.core.map c) (s.mapChannel cb c).core := by
  rw [mapChannel]
  dsimp only
  by_cases h : isOn s.relay.rlsSet c ≠ isOn s.relay.rlsTarget c
  · rw [if_pos h]
    generalize hs' : emit _ (RelayOut.ledOn c _) = s'
    have hcore : s'.core = s.core.map c := by
      rw [← hs', core_emit, RelayCore.map, if_pos (show s.core.set c ≠ s.core.target c from h)]
      refine RelayCore.ext ?_ ?_ rfl rfl rfl rfl rfl rfl rfl rfl rfl rfl rfl
      · exact flags_put s.relay.rlsTarget c (isOn s.relay.rlsSet c)
      · exact flags_put s.relay.rlsPresent c (!isOn s.relay.rlsSet c)
    split
    · rw [hcore]
      exact .refl _
    · rw [← hcore]
      exact cb.commands s' c _
  · have hsame : s.core.map c = s.core :=
      if_neg (show ¬ s.core.set c ≠ s.core.target c from h)
    rw [if_neg h, hsame]
    exact .refl _

theorem core_mapSetAndTargetStatus (cb : StateChangeCallback b ε) (s : Device b ε) :
    RelayCore.MapLoop b.chns s.core (s.mapSetAndTargetStatus cb).core := by
  have hloop : ∀ (cs : List b.Chn) (s : Device b ε),
      RelayCore.MapLoop cs s.core (runFrom (mapChannel cb) s cs).core := by
    intro cs
    induction cs with
    | nil => exact fun s => .nil _
    | cons c cs ih => exact fun s => .cons (s.core_mapChannel cb c) (ih (s.mapChannel cb c))
  rw [mapSetAndTargetStatus]
  by_cases h : s.relay.rlsSet ≠ s.relay.rlsTarget
  · rw [if_pos h, core_maskRls]
    exact hloop b.chns s
  · -- the words are equal: the loop would find nothing to map
    rw [if_neg h]
    have heq : s.core.set = s.core.target := congrArg flags (Decidable.not_not.mp h)
    have hsame : ∀ c, s.core.map c = s.core := fun c => by
      rw [RelayCore.map, if_neg (fun hx => hx (congrFun heq c))]
    have hskip : ∀ cs : List b.Chn, RelayCore.MapLoop cs s.core s.core := by
      intro cs
      induction cs with
      | nil => exact .nil _
      | cons c cs ih =>
        refine .cons ?_ ih
        rw [hsame c]
        exact .refl _
    exact hskip b.chns

theorem core_checkAutoOffChannel (s : Device b ε) (c : b.Chn) :
    RelayCore.Commands s.core (s.checkAutoOffChannel c).core := by
  rw [checkAutoOffChannel]
  split
  · rw [core_setTargetState]
    exact .one s.core c _
  · exact .refl _

theorem core_checkAutoOff (s : Device b ε) : RelayCore.Commands s.core s.checkAutoOff.core :=
  invariant_runFrom (I := fun s' : Device b ε => RelayCore.Commands s.core s'.core)
    (fun s' c h => h.trans (s'.core_checkAutoOffChannel c)) (.refl s.core) b.chns

theorem core_consumeOnTime (s : Device b ε) (c : b.Chn) (on : Bool) :
    (s.consumeOnTime c on).core =
      { s.core with
        total := if on = false ∧ s.core.powerOn c = false then
            Function.update s.core.total c
              (s.core.total c + (s.core.timeMs - s.core.clamped c) / 1000)
          else s.core.total
        checkStart := Function.update s.core.checkStart c
          (if on then s.core.timeMs else s.core.clamped c)
        powerOn := Function.update s.core.powerOn c false } := by
  obtain ⟨hstart, htotal⟩ := s.onTime_clampCheckStart c
  have hmask : ∀ s : Device b ε, (s.updRelay fun r => { r with
      powerOnControl := Function.update r.powerOnControl c false
      rlsActual := r.rlsActual &&& backupMaskRl }).core =
      { s.core with powerOn := Function.update s.core.powerOn c false } := fun _ => rfl
  have hpow : (s.clampCheckStart c).relay.powerOnControl c = s.core.powerOn c := rfl
  rw [consumeOnTime]
  dsimp only
  rw [hmask]
  cases on with
  | false =>
    rw [if_pos rfl, if_neg Bool.false_ne_true]
    by_cases hp : s.core.powerOn c = false
    · rw [if_pos (hpow.trans hp), if_pos ⟨rfl, hp⟩, core_emit, core_updOnTime,
        core_clampCheckStart]
      simp only [hstart, htotal, Function.update_idem]
      rfl
    · rw [if_neg (fun hx => hp (hpow.symm.trans hx)), if_neg (fun hx => hp hx.2),
        core_clampCheckStart]
  | true =>
    rw [if_neg Bool.true_eq_false.mp, if_pos rfl,
      if_neg (fun hx => Bool.true_eq_false.mp hx.1), core_updOnTime, core_clampCheckStart]
    simp only [htotal, Function.update_idem]
    exact RelayCore.ext rfl rfl rfl rfl rfl rfl rfl rfl (Function.update_eq_self c s.core.total)
      rfl rfl rfl rfl

theorem core_consumeDone (s : Device b ε) : s.consumeDone.core = s.core.consume := by
  have hdone : ∀ s : Device b ε, (s.updRelay fun r =>
      { r with doneOnOffControlFlag := false }).core = { s.core with done := false } :=
    fun _ => rfl
  rw [consumeDone, RelayCore.consume]
  cases hc : s.relay.active with
  | none =>
    have hd : s.core.drive = none := hc
    simp only [hd]
    exact (hdone s).trans (RelayCore.ext rfl rfl rfl rfl rfl rfl rfl hc rfl rfl rfl rfl rfl)
  | some d =>
    have hd : s.core.drive = some d := hc
    simp only [hd]
    rw [hdone, core_consumeOnTime]
    refine RelayCore.ext rfl ?_ rfl rfl rfl rfl rfl hc rfl rfl rfl rfl rfl
    show flags (Flags.put s.relay.rlsPresent d.chn d.on &&& backupMaskRl) = _
    rw [flags_mask, flags_put]
    rfl

theorem core_startDrive (s : Device b ε) (c : b.Chn) :
    (s.startDrive c).core = s.core.start c := by
  have hzero : ∀ s : Device b ε, (s.setUpTimeToChangeState.updRelay fun r =>
      { r with controlWhenTimeout := false }).core = s.core := fun _ => rfl
  have hbusy : ∀ (s : Device b ε) (t : UInt32), (s.updRelay fun r =>
      { r with relayModuleSt := .busy, waitZeroPointStTime := t }).core
      = { s.core with busy := true } := fun _ _ => rfl
  rw [startDrive, hzero, hbusy]
  -- the automatic OFF of a momentary relay is not part of the core
  split <;> rfl

theorem nextChannel_eq (s : Device b ε) : s.nextChannel = s.core.next := rfl

theorem core_procIdle (s : Device b ε) : s.procIdle.core = s.core.pass := by
  have hdone : (if s.relay.doneOnOffControlFlag = true then s.consumeDone else s).core
      = if s.core.done = true then s.core.consume else s.core := by
    rw [apply_ite core, core_consumeDone]
    rfl
  unfold procIdle RelayCore.pass
  dsimp only
  rw [← hdone]
  generalize (if s.relay.doneOnOffControlFlag = true then s.consumeDone else s) = s'
  rw [nextChannel_eq]
  by_cases h : s'.relay.rlsTarget ≠ s'.relay.rlsPresent
  · rw [if_pos h]
    cases s'.core.next with
    | none => rfl
    | some c => exact s'.core_startDrive c
  · -- the words are equal: no channel needs a drive
    have heq : s'.core.target = s'.core.present := congrArg flags (Decidable.not_not.mp h)
    have hnone : s'.core.next = none := by
      refine List.find?_eq_none.mpr fun c _ => ?_
      rw [heq]
      simp
    rw [if_neg h, hnone]

theorem core_drivePin (s : Device b ε) :
    s.drivePin.core = { s.core with pin := s.core.drivenPin } := by
  have hd : s.core.drive = s.relay.active := rfl
  rw [drivePin, RelayCore.drivenPin, hd]
  cases s.relay.active with
  | none => rfl
  | some d => rfl

theorem core_handleControlWhenTimerMatch (s : Device b ε) :
    s.handleControlWhenTimerMatch.core = s.core.timerMatch := by
  have hset : ∀ s : Device b ε, (s.updRelay fun r =>
      { r with doneOnOffControlFlag := true, relayModuleSt := .idle }).core
      = { s.core with done := true, busy := false } := fun _ => rfl
  unfold handleControlWhenTimerMatch
  generalize hs' : (s.updRelay fun r => { r with timer1 := false }) = s'
  have hcore : s.core = s'.core := by
    rw [← hs']
    rfl
  rw [hcore, RelayCore.timerMatch]
  dsimp only
  by_cases hb : s'.relay.relayModuleSt = .busy
  · rw [if_pos hb, if_pos (show s'.core.busy = true from decide_eq_true hb), hset, core_drivePin]
  · rw [if_neg hb,
      if_neg (show ¬ s'.core.busy = true from fun hx => hb (of_decide_eq_true hx))]

/-- What a `relay_proc` pass does to the core: the on-time loop, the mapping
loop with the commands of the callbacks, the commands of the automatic OFF, and
the pass of an idle driver. -/
theorem core_proc (cb : StateChangeCallback b ε) (rand : Nat → Nat) (s : Device b ε) :
    ∃ k1 k2, RelayCore.MapLoop b.chns s.core.onTime k1 ∧ RelayCore.Commands k1 k2 ∧
      (s.proc cb rand).core = if k2.busy then k2 else k2.pass := by
  refine ⟨((s.onTimeProc rand).mapSetAndTargetStatus cb).core,
    ((s.onTimeProc rand).mapSetAndTargetStatus cb).handleStoreDelay.checkAutoOff.core,
    ?_, ?_, ?_⟩
  · rw [← core_onTimeProc rand s]
    exact core_mapSetAndTargetStatus cb _
  · have h := core_checkAutoOff ((s.onTimeProc rand).mapSetAndTargetStatus cb).handleStoreDelay
    rw [core_handleStoreDelay] at h
    exact h
  · unfold proc
    dsimp only
    rw [core_checkBusyTimeout]
    generalize ((s.onTimeProc rand).mapSetAndTargetStatus cb).handleStoreDelay.checkAutoOff = s'
    have hb : s'.core.busy = decide (s'.relay.relayModuleSt = .busy) := rfl
    rw [hb]
    cases s'.relay.relayModuleSt with
    | idle => exact s'.core_procIdle
    | busy => exact s'.core_procBusy

end Device

end LumesSwitch
