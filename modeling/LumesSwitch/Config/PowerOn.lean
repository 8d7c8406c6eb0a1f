import LumesSwitch.Config.Stored
import LumesSwitch.Net.Commands
import LumesSwitch.Relay.StoreDelay

/-!
# Power-on state

The relay driver and the configuration, with power losses. A boot works out the target of
each relay from its mode, its policy and the stored word, and does not store the result. So
the word stays what it was under a mode or policy that overrides it, and a later setting
that lets the relay restore its state brings an old one back.

- `PowerDevice.step` — commands, passes, settings and power losses;
- `PowerDevice.BootsAsSet` — a power loss now would bring every relay up as its mode and
  policy say;
- `PowerDevice.bootsAsSet_iff` — so it is in every state of a run if and only if each
  setting that lets a relay restore its state finds it in the flash, or a store pending.
-/

namespace LumesSwitch

open Flags Nor Runs

variable {b : Board}

/-! ## The settings -/

/-- The mode that the tests of the driver tell apart. -/
def SwitchMode.ofByte (x : UInt8) : SwitchMode :=
  if x = toggleSwitchType then .toggle
  else if x = momentorySwitchType then .momentary
  else .lighting

/-- The policy that `relay_restore_target_state` follows. -/
def PowerOnState.ofByte (x : UInt8) : PowerOnState :=
  if x = powerUpOn then .on else if x = powerUpOff then .off else .restore

/-- What the driver reads of `sw_config_st`. -/
def SwConfig.modes (c : SwConfig b) : b.Chn → SwitchMode := fun i => .ofByte (c.switchMode i)
def SwConfig.policies (c : SwConfig b) : b.Chn → PowerOnState := fun i => .ofByte (c.powerOnState i)

/-- An accepted setting. -/
inductive Setting (b : Board) where
  | mode (c : b.Chn) (m : SwitchMode)
  | policy (c : b.Chn) (p : PowerOnState)

/-- What a setting changes. -/
def Setting.apply (x : Setting b) (sh : Shared b) : Shared b :=
  match x with
  | .mode c m => { sh with switchMode := Function.update sh.switchMode c m }
  | .policy c p => { sh with powerOnState := Function.update sh.powerOnState c p }

/-- The setting in a switch-mode message. -/
def switchModeSetting (par : Nat → UInt8) (parLen : Nat) : Option (Setting b) :=
  (SwCfg.switchModeId par parLen).bind fun id =>
    if par 1 < switchTypeUnknown then some (.mode id (.ofByte (par 1))) else none

/-- The setting of a power-on state for channel `id`. -/
def powerOnSetting (id : b.Chn) (v : UInt8) : Option (Setting b) :=
  if v < powerUpUnknown then some (.policy id (.ofByte v)) else none

/-! ## The device -/

/-- The relay driver, its surroundings, and the configuration. -/
structure PowerDevice (b : Board) where
  dev : NetDevice b
  cfg : SwCfg b

inductive PowerEvent (b : Board) where
  | net (ev : NetEvent b)
  /-- `sw_cfg_handle_set_message` -/
  | setMessage (m : b.Btn) (par : Nat → UInt8) (parLen : Nat) (cmd : UInt8)
  /-- `user_cmd_sig_g_on_powerup_set` -/
  | onPowerUpSet (m : b.Btn) (par : Nat → UInt8)
  /-- a power loss, and the boot behind it: `sw_config_init`, then `relay_init` -/
  | powerLoss (rand : Nat → Nat) (sh : Shared b) (env : NetState b)

namespace PowerDevice

/-- The driver finds the settings in `sw_config_st`. -/
def withCfg (s : PowerDevice b) (cfg : SwCfg b) : PowerDevice b where
  dev := { s.dev with sh := { s.dev.sh with
    switchMode := cfg.st.modes, powerOnState := cfg.st.policies } }
  cfg := cfg

/-- The boot behind a power loss. -/
def reboot (s : PowerDevice b) (rand : Nat → Nat) (sh : Shared b) (env : NetState b) :
    PowerDevice b :=
  let cfg := s.cfg.swConfigInit
  { dev := Device.boot rand s.dev.relay.stateLog s.dev.relay.onTimeLog
      { sh with switchMode := cfg.st.modes, powerOnState := cfg.st.policies } env
    cfg := cfg }

def step (s : PowerDevice b) : PowerEvent b → PowerDevice b
  | .net ev => { s with dev := s.dev.netStep ev }
  | .setMessage m par parLen cmd =>
    match s.cfg.swCfgHandleSetMessage m par parLen cmd with
    | none => s
    | some (cfg, none) => s.withCfg cfg
    | some (cfg, some c) =>
      { s.withCfg cfg with dev := (s.withCfg cfg).dev.handleSwitchChangeMode c }
  | .onPowerUpSet m par =>
    match s.cfg.userCmdSigGOnPowerupSet m par with
    | none => s
    | some cfg => s.withCfg cfg
  | .powerLoss rand sh env => s.reboot rand sh env

/-- A first boot, with the sectors of the configuration and of the relay state erased. -/
def firstBoot (cfgMem stateMem : Mem) (onTimeLog : LogState) (rand : Nat → Nat) (sh : Shared b)
    (env : NetState b) : PowerDevice b :=
  let cfg := SwCfg.firstBoot b cfgMem
  { dev := Device.boot rand ⟨0, erase relayStateLog.flashAdr flashSectorSize stateMem⟩ onTimeLog
      { sh with switchMode := cfg.st.modes, powerOnState := cfg.st.policies } env
    cfg := cfg }

/-! ## The property -/

/-- No store is pending, and the relays are mapped. -/
def Settled (s : PowerDevice b) : Prop :=
  ¬ s.dev.Pending ∧ s.dev.relay.rlsSet = s.dev.relay.rlsTarget

instance (s : PowerDevice b) : Decidable s.Settled := inferInstanceAs (Decidable (_ ∧ _))

/-- What happens: commands store, modes change by messages, and power is lost when the
device has settled. -/
def Ready (s : PowerDevice b) : PowerEvent b → Prop
  | .net (.relay (.setTargetState _ _ _ store)) => store = true
  | .net (.relay (.changeMode _ _)) => False
  | .net _ => True
  | .setMessage _ _ _ cmd => cmd = vdConfigSwitchModeOpt ∨ cmd = vdConfigOnPowerUpState
  | .onPowerUpSet _ _ => True
  | .powerLoss _ _ _ => s.Settled

instance (s : PowerDevice b) : ∀ ev, Decidable (s.Ready ev)
  | .net (.relay (.setTargetState _ _ _ _)) => inferInstanceAs (Decidable (_ = _))
  | .net (.relay (.changeMode _ _)) => isFalse id
  | .net (.relay (.toggleState _ _)) | .net (.relay (.netState _ _)) | .net (.relay .zeroSync)
  | .net (.relay .timerMatch) | .net (.relay (.proc _)) | .net (.relay (.clock _ _))
  | .net (.relay (.other _ _ _ _)) | .net (.sendControl _ _ _) => isTrue trivial
  | .setMessage _ _ _ _ => inferInstanceAs (Decidable (_ ∨ _))
  | .onPowerUpSet _ _ => isTrue trivial
  | .powerLoss _ _ _ => inferInstanceAs (Decidable (Settled _))

/-- A power loss now would bring each relay up OFF if it is momentary, else as its policy
says: ON, OFF, or with the target it has now. -/
def BootsAsSet (s : PowerDevice b) : Prop :=
  s.Settled → ∀ (rand : Nat → Nat) (sh : Shared b) (env : NetState b) (c : b.Chn),
    isOn (s.reboot rand sh env).dev.relay.rlsTarget c =
      s.dev.sh.bootTarget c (isOn s.dev.relay.rlsTarget c)

/-- The setting that an event makes. -/
def accepted : PowerEvent b → Option (Setting b)
  | .setMessage m par parLen cmd =>
    (Board.relayIdx m).bind fun _ =>
      if cmd = vdConfigSwitchModeOpt then switchModeSetting par parLen
      else if cmd = vdConfigOnPowerUpState then
        (SwCfg.onPowerUpStateId par parLen).bind fun id => powerOnSetting id (par 1)
      else none
  | .onPowerUpSet m par => (Board.relayIdx m).bind fun idx => powerOnSetting idx (par 0)
  | .net _ | .powerLoss _ _ _ => none

/-- A setting that lets a relay restore its state finds its target in the flash, or a store
pending. -/
def SettingOk (s : PowerDevice b) : Option (Setting b) → Prop
  | some (.mode c m) => m ≠ .momentary → s.dev.sh.powerOnState c = .restore → s.dev.Safe c
  | some (.policy c p) => p = .restore → s.dev.sh.switchMode c ≠ .momentary → s.dev.Safe c
  | none => True

instance (s : PowerDevice b) : ∀ x, Decidable (s.SettingOk x)
  | some (.mode _ _) => inferInstanceAs (Decidable (_ → _ → _))
  | some (.policy _ _) => inferInstanceAs (Decidable (_ → _ → _))
  | none => isTrue trivial

/-- The condition. -/
def StepOk (s : PowerDevice b) (ev : PowerEvent b) : Prop := s.SettingOk (accepted ev)

instance (s : PowerDevice b) (ev : PowerEvent b) : Decidable (s.StepOk ev) :=
  inferInstanceAs (Decidable (s.SettingOk (accepted ev)))

/-! ## The invariant -/

/-- What holds in every state: the configuration is stored, and the driver reads it. -/
structure Inv (s : PowerDevice b) : Prop where
  stored : s.cfg.Stored
  store : s.dev.StoreInv
  modes : s.dev.sh.switchMode = s.cfg.st.modes
  policies : s.dev.sh.powerOnState = s.cfg.st.policies

theorem inv_firstBoot (cfgMem stateMem : Mem) (onTimeLog : LogState) (rand : Nat → Nat)
    (sh : Shared b) (env : NetState b) :
    (firstBoot cfgMem stateMem onTimeLog rand sh env).Inv ∧
      (firstBoot cfgMem stateMem onTimeLog rand sh env).dev.Agrees := by
  have hlog := LogRel.firstBoot relayStateLog stateMem 0
  exact ⟨⟨SwCfg.stored_firstBoot cfgMem, (Device.boot_spec rand onTimeLog _ env hlog).1, rfl, rfl⟩,
    Device.agrees_boot rand onTimeLog _ env hlog⟩

/-- The flash agrees if and only if a power loss now brings every relay up as set. -/
theorem Inv.agrees_iff {s : PowerDevice b} (h : s.Inv) : s.BootsAsSet ↔ s.dev.Agrees := by
  have hcfg : s.cfg.swConfigInit.st = s.cfg.st := (SwCfg.swConfigInit_of_stored h.stored).1
  have hboot : ∀ (rand : Nat → Nat) (sh : Shared b) (env : NetState b), ¬ s.dev.Pending →
      ((∀ c : b.Chn, isOn (s.reboot rand sh env).dev.relay.rlsTarget c =
        s.dev.sh.bootTarget c (isOn s.dev.relay.rlsTarget c)) ↔ s.dev.Agrees) := by
    intro rand sh env hp
    rw [reboot, hcfg]
    exact Device.boot_agrees_iff rand h.store hp _ h.modes.symm h.policies.symm env
  by_cases hp : s.dev.Pending
  · exact ⟨fun _ _ _ => .inl hp, fun _ hs => absurd hp hs.1⟩
  · constructor
    · intro hs
      exact (hboot (fun _ => 0) s.dev.sh s.dev.env hp).mp
        (hs ⟨hp, h.store.set_eq hp⟩ (fun _ => 0) s.dev.sh s.dev.env)
    · intro hs _ rand sh env
      exact (hboot rand sh env hp).mpr hs

theorem Inv.reboot {s : PowerDevice b} (h : s.Inv) (rand : Nat → Nat) (sh : Shared b)
    (env : NetState b) : (s.reboot rand sh env).Inv ∧ (s.reboot rand sh env).dev.Agrees := by
  obtain ⟨v, hlog⟩ := h.store.log
  exact ⟨⟨(SwCfg.swConfigInit_of_stored h.stored).2,
    (Device.boot_spec rand _ _ env hlog.reindex).1, rfl, rfl⟩,
    Device.agrees_boot rand _ _ env hlog.reindex⟩

/-! ## The driver's events -/

end PowerDevice

namespace Device

theorem commanded_of_netSteps {s s' : NetDevice b} (h : NetSteps s s') : Commanded s s' := by
  induction h with
  | refl => exact .refl s
  | tail _ hstep ih =>
    refine ih.trans ?_
    cases hstep with
    | onEnv f hf => exact .of_storing rfl rfl
    | params idx src dst op =>
      refine .of_storing ?_ (shared_updateControlMessageParams _ ..).settings
      rw [updateControlMessageParams]
      split <;> rfl
    | netState c st => exact commanded_netState _ c st

theorem commanded_netCallback (s : NetDevice b) (c : b.Chn) (st : UInt8) :
    Commanded s ((netCallback b).run s c st) :=
  commanded_of_netSteps (s.steps_netMessageHandleStateChange c st)

theorem commanded_handleSwitchChangeMode (s : NetDevice b) (c : b.Chn) :
    Commanded s (s.handleSwitchChangeMode c) := by
  rw [handleSwitchChangeMode]
  cases s.sh.switchMode c with
  | toggle => exact .of_storing rfl rfl
  | lighting => exact .of_storing rfl rfl
  | momentary =>
    dsimp only
    split
    · exact .of_storing rfl rfl
    · exact s.commanded_setTargetState c gOff .device

/-- A change of what is shared alone. -/
theorem storeInv_congr {s s' : NetDevice b} (h : s'.storing = s.storing) (hs : s.StoreInv) :
    s'.StoreInv := by
  have hset : s'.relay.rlsSet = s.relay.rlsSet := congrArg Prod.fst h
  have htarget : s'.relay.rlsTarget = s.relay.rlsTarget := congrArg (fun p => p.2.1) h
  have hdelay : s'.relay.storeDelay = s.relay.storeDelay := congrArg (fun p => p.2.2.1) h
  have hlog : s'.relay.stateLog = s.relay.stateLog := congrArg (fun p => p.2.2.2) h
  refine ⟨by rw [hlog]; exact hs.log, by rw [htarget]; exact hs.masked, fun c hne => ?_,
    fun j hj => ?_⟩
  · rw [Pending, hdelay]
    rw [hset, htarget] at hne
    exact hs.pending c hne
  · rw [hset, htarget]
    exact hs.rest j hj

/-- What the step lemmas below say of an event. -/
def StoreStep (s s' : NetDevice b) : Prop :=
  s'.StoreInv ∧ s'.sh.switchMode = s.sh.switchMode ∧ s'.sh.powerOnState = s.sh.powerOnState ∧
    (s.Agrees → s'.Agrees)

theorem Commanded.storeStep {s s' : NetDevice b} (h : Commanded s s') (hs : s.StoreInv) :
    StoreStep s s' :=
  ⟨h.storeInv hs, congrArg Prod.fst h.settings, congrArg (fun p => p.2.1) h.settings, h.agrees⟩

/-- **Step lemma** of the driver. -/
theorem netStep_spec {s : NetDevice b} {cfg : SwCfg b} (hs : s.StoreInv) {ev : NetEvent b}
    (hready : PowerDevice.Ready ⟨s, cfg⟩ (.net ev)) : StoreStep s (s.netStep ev) := by
  have hsame : ∀ s' : NetDevice b, s'.storing = s.storing →
      s'.sh.switchMode = s.sh.switchMode → s'.sh.powerOnState = s.sh.powerOnState →
      StoreStep s s' := by
    intro s' hst hmode hstate
    refine ⟨storeInv_congr hst hs, hmode, hstate, fun ha => ?_⟩
    refine (agrees_withSettings hst).mpr fun c hc => ha c ?_
    rw [Restores, hmode, hstate] at hc
    exact hc
  cases ev with
  | sendControl m st updateEn =>
    exact (commanded_of_netSteps (s.steps_sendControl m st updateEn)).storeStep hs
  | relay ev =>
    cases ev with
    | setTargetState idx st src store =>
      have hstore : store = true := hready
      subst hstore
      exact (s.commanded_setTargetState idx st src).storeStep hs
    | toggleState idx src => exact (s.commanded_toggleState idx src).storeStep hs
    | netState idx st => exact (s.commanded_netState idx st).storeStep hs
    | changeMode c m => exact absurd hready id
    | zeroSync =>
      exact hsame _ s.storing_handleZeroSync
        (congrArg (fun p => p.1.switchMode) s.outside_handleZeroSync)
        (congrArg (fun p => p.1.powerOnState) s.outside_handleZeroSync)
    | timerMatch =>
      exact hsame _ s.storing_handleControlWhenTimerMatch
        (congrArg (fun p => p.1.switchMode) s.outside_handleControlWhenTimerMatch)
        (congrArg (fun p => p.1.powerOnState) s.outside_handleControlWhenTimerMatch)
    | proc rand =>
      obtain ⟨hinv, hset, hagrees⟩ := proc_spec commanded_netCallback hs rand
      exact ⟨hinv, congrArg Prod.fst hset, congrArg (fun p => p.2.1) hset, hagrees⟩
    | clock ms sec => exact hsame _ rfl rfl rfl
    | other env factActive lightness nwk => exact hsame _ rfl rfl rfl

end Device

namespace PowerDevice

/-! ## The settings' events -/

theorem modes_update {c : SwConfig b} (id : b.Chn) (x : UInt8) :
    (fun i => SwitchMode.ofByte (Function.update c.switchMode id x i)) =
      Function.update c.modes id (.ofByte x) :=
  funext fun i => Function.apply_update (fun _ => SwitchMode.ofByte) c.switchMode id x i

theorem policies_update {c : SwConfig b} (id : b.Chn) (x : UInt8) :
    (fun i => PowerOnState.ofByte (Function.update c.powerOnState id x i)) =
      Function.update c.policies id (.ofByte x) :=
  funext fun i => Function.apply_update (fun _ => PowerOnState.ofByte) c.powerOnState id x i

/-- The device with a setting applied. -/
def applied (s : PowerDevice b) (x : Option (Setting b)) : NetDevice b :=
  match x with
  | none => s.dev
  | some x => { s.dev with sh := x.apply s.dev.sh }

/-- The configuration `cfg` is stored, and is that of `s` with the setting `x`. -/
structure Follows (s : PowerDevice b) (x : Option (Setting b)) (cfg : SwCfg b) : Prop where
  stored : cfg.Stored
  modes : cfg.st.modes = (s.applied x).sh.switchMode
  policies : cfg.st.policies = (s.applied x).sh.powerOnState

/-- The driver finds the setting in the new configuration. -/
theorem Follows.withCfg_dev {s : PowerDevice b} {x : Option (Setting b)} {cfg : SwCfg b}
    (h : s.Follows x cfg) : (s.withCfg cfg).dev = s.applied x := by
  rw [withCfg, h.modes, h.policies]
  cases x with
  | none => rfl
  | some x => cases x <;> rfl

theorem Inv.follows_none {s : PowerDevice b} (h : s.Inv) {cfg : SwCfg b} (hst : cfg.st = s.cfg.st)
    (hlog : cfg.log = s.cfg.log) : s.Follows none cfg :=
  ⟨h.stored.congr hst hlog, (congrArg SwConfig.modes hst).trans h.modes.symm,
    (congrArg SwConfig.policies hst).trans h.policies.symm⟩

/-- A power-on state in a message is the setting, or none. -/
theorem Inv.follows_powerOn {s : PowerDevice b} (h : s.Inv) (id : b.Chn) (v : UInt8)
    {cfg : SwCfg b}
    (hset : v < powerUpUnknown → cfg.st = (s.cfg.storePowerOnState id v).st ∧
      cfg.log = (s.cfg.storePowerOnState id v).log)
    (hnone : ¬ v < powerUpUnknown → cfg.st = s.cfg.st ∧ cfg.log = s.cfg.log) :
    s.Follows (powerOnSetting id v) cfg := by
  rw [powerOnSetting]
  by_cases hv : v < powerUpUnknown
  · obtain ⟨hst, hlog⟩ := hset hv
    rw [if_pos hv]
    refine ⟨(h.stored.storePowerOnState id hv).congr hst hlog, ?_, ?_⟩
    · exact (congrArg SwConfig.modes hst).trans h.modes.symm
    · refine (congrArg SwConfig.policies hst).trans ?_
      refine (policies_update (c := s.cfg.st) id v).trans ?_
      rw [← h.policies]
      rfl
  · obtain ⟨hst, hlog⟩ := hnone hv
    rw [if_neg hv]
    exact h.follows_none hst hlog

/-- A switch-mode message makes its setting, and the driver is told of no other relay. -/
theorem Inv.follows_switchMode {s : PowerDevice b} (h : s.Inv) (par : Nat → UInt8)
    (parLen : Nat) :
    s.Follows (switchModeSetting par parLen) (s.cfg.switchModeOpt par parLen).1 ∧
      ∀ c, (s.cfg.switchModeOpt par parLen).2 = some c →
        ∃ m, switchModeSetting par parLen = some (.mode c m) := by
  have hstored := h.stored.switchModeOpt par parLen
  rw [switchModeSetting]
  rcases s.cfg.switchModeOpt_cases par parLen with
    ⟨hst, hlog, hchn, hno⟩ | ⟨id, ext, hid, hmode, hst, -, -, hchn⟩
  · rw [hchn]
    refine ⟨?_, fun c hc => nomatch hc⟩
    cases hid : (SwCfg.switchModeId par parLen : Option b.Chn) with
    | none => exact h.follows_none hst hlog
    | some id =>
      rw [Option.bind_some, if_neg (hno id hid)]
      exact h.follows_none hst hlog
  · rw [hid, Option.bind_some, if_pos hmode, hchn]
    refine ⟨⟨hstored, ?_, ?_⟩, fun c hc => ?_⟩
    · refine (congrArg SwConfig.modes hst).trans ?_
      refine (modes_update (c := s.cfg.st) id (par 1)).trans ?_
      rw [← h.modes]
      rfl
    · exact (congrArg SwConfig.policies hst).trans h.policies.symm
    · split at hc
      · cases hc
        exact ⟨_, rfl⟩
      · cases hc

/-- What an event that is no event of the driver, and no power loss, does: it makes its
setting, and tells the driver of a new mode. -/
theorem Inv.step_setting {s : PowerDevice b} (h : s.Inv) {ev : PowerEvent b} (hready : s.Ready ev)
    (hnet : ∀ ev', ev ≠ .net ev') (hloss : ∀ rand sh env, ev ≠ .powerLoss rand sh env) :
    s.Follows (accepted ev) (s.step ev).cfg ∧
      ((s.step ev).dev = s.applied (accepted ev) ∨
        ∃ c m, accepted ev = some (.mode c m) ∧
          (s.step ev).dev = (s.applied (accepted ev)).handleSwitchChangeMode c) := by
  cases ev with
  | net ev' => exact absurd rfl (hnet ev')
  | powerLoss rand sh env => exact absurd rfl (hloss rand sh env)
  | onPowerUpSet m par =>
    rw [step, accepted, SwCfg.userCmdSigGOnPowerupSet]
    cases Board.relayIdx m with
    | none => exact ⟨h.follows_none rfl rfl, .inl rfl⟩
    | some idx =>
      have hf : s.Follows (powerOnSetting idx (par 0)) ((if par 0 < powerUpUnknown then
          (s.cfg.storePowerOnState idx (par 0)).blink idx true
          else s.cfg.blink idx false).userCmdSigGOnPowerupGet idx) := by
        refine h.follows_powerOn idx (par 0) (fun hv => ?_) (fun hv => ?_)
        · rw [if_pos hv]
          exact ⟨rfl, rfl⟩
        · rw [if_neg hv]
          exact ⟨rfl, rfl⟩
      exact ⟨hf, .inl hf.withCfg_dev⟩
  | setMessage m par parLen cmd =>
    cases hidx : Board.relayIdx m with
    | none =>
      rw [step, accepted, SwCfg.swCfgHandleSetMessage, hidx]
      exact ⟨h.follows_none rfl rfl, .inl rfl⟩
    | some idx =>
      rcases hready with rfl | rfl
      · have hhandle : s.cfg.swCfgHandleSetMessage m par parLen vdConfigSwitchModeOpt =
            some (s.cfg.switchModeOpt par parLen) := by
          rw [SwCfg.swCfgHandleSetMessage, hidx]
          rfl
        have hacc : accepted (.setMessage m par parLen vdConfigSwitchModeOpt) =
            (switchModeSetting par parLen : Option (Setting b)) := by
          rw [accepted, hidx]
          rfl
        obtain ⟨hf, hchn⟩ := h.follows_switchMode par parLen
        rw [step, hhandle, hacc]
        generalize s.cfg.switchModeOpt par parLen = p at hf hchn ⊢
        obtain ⟨cfg, chn⟩ := p
        cases chn with
        | none => exact ⟨hf, .inl hf.withCfg_dev⟩
        | some c =>
          obtain ⟨m', hm⟩ := hchn c rfl
          refine ⟨hf, .inr ⟨c, m', hm, ?_⟩⟩
          show (s.withCfg cfg).dev.handleSwitchChangeMode c = _
          rw [hf.withCfg_dev]
      · have hhandle : s.cfg.swCfgHandleSetMessage m par parLen vdConfigOnPowerUpState =
            some (s.cfg.onPowerUpStateOpt par parLen, none) := by
          rw [SwCfg.swCfgHandleSetMessage, hidx]
          rfl
        have hacc : accepted (.setMessage m par parLen vdConfigOnPowerUpState) =
            ((SwCfg.onPowerUpStateId par parLen).bind fun id =>
              powerOnSetting id (par 1) : Option (Setting b)) := by
          rw [accepted, hidx]
          rfl
        have hf : s.Follows ((SwCfg.onPowerUpStateId par parLen).bind fun id =>
            powerOnSetting id (par 1)) (s.cfg.onPowerUpStateOpt par parLen) := by
          rw [SwCfg.onPowerUpStateOpt]
          cases (SwCfg.onPowerUpStateId par parLen : Option b.Chn) with
          | none => exact h.follows_none rfl rfl
          | some id =>
            refine h.follows_powerOn id (par 1) (fun hv => ?_) (fun hv => ?_)
            · dsimp only
              rw [if_pos hv]
              exact ⟨rfl, rfl⟩
            · dsimp only
              rw [if_neg hv]
              exact ⟨rfl, rfl⟩
        rw [step, hhandle, hacc]
        exact ⟨hf, .inl hf.withCfg_dev⟩

/-! ## The step -/

theorem storing_applied (s : PowerDevice b) (x : Option (Setting b)) :
    (s.applied x).storing = s.dev.storing := by
  cases x <;> rfl

/-- Where the flash agrees, it does so under a setting if and only if that meets the
condition. -/
theorem agrees_applied_iff {s : PowerDevice b} (h : s.dev.Agrees) (ev : PowerEvent b) :
    (s.applied (accepted ev)).Agrees ↔ s.StepOk ev := by
  rw [Device.agrees_withSettings (s.storing_applied _), StepOk]
  cases (accepted ev : Option (Setting b)) with
  | none => exact ⟨fun _ => trivial, fun _ => h⟩
  | some x =>
    cases x with
    | mode c m =>
      constructor
      · intro hall hm hstate
        refine hall c ⟨?_, hstate⟩
        show Function.update s.dev.sh.switchMode c m c ≠ .momentary
        rw [Function.update_self]
        exact hm
      · rintro hok c' ⟨hmode, hstate⟩
        change Function.update s.dev.sh.switchMode c m c' ≠ .momentary at hmode
        by_cases hc : c' = c
        · subst hc
          rw [Function.update_self] at hmode
          exact hok hmode hstate
        · rw [Function.update_of_ne hc] at hmode
          exact h c' ⟨hmode, hstate⟩
    | policy c p =>
      constructor
      · intro hall hp hmode
        refine hall c ⟨hmode, ?_⟩
        show Function.update s.dev.sh.powerOnState c p c = .restore
        rw [Function.update_self]
        exact hp
      · rintro hok c' ⟨hmode, hstate⟩
        change Function.update s.dev.sh.powerOnState c p c' = .restore at hstate
        by_cases hc : c' = c
        · subst hc
          rw [Function.update_self] at hstate
          exact hok hstate hmode
        · rw [Function.update_of_ne hc] at hstate
          exact h c' ⟨hmode, hstate⟩

/-- The driver hears of a new mode: it may set up a store, for a relay that has become
momentary. -/
theorem agrees_handleSwitchChangeMode_iff {s : PowerDevice b} (h : s.dev.Agrees) {c : b.Chn}
    {m : SwitchMode} {x : Option (Setting b)} (hx : x = some (.mode c m)) :
    ((s.applied x).handleSwitchChangeMode c).Agrees ↔ (s.applied x).Agrees := by
  subst hx
  have hmode : (s.applied (some (.mode c m))).sh.switchMode c = m := Function.update_self ..
  by_cases hm : m = .momentary
  · -- no relay comes to restore its state
    have hok : (s.applied (some (.mode c m))).Agrees := by
      refine (Device.agrees_withSettings (s.storing_applied _)).mpr ?_
      rintro c' ⟨hmode', hstate⟩
      by_cases hc : c' = c
      · subst hc
        exact absurd (hmode.trans hm) hmode'
      · refine h c' ⟨fun hs => hmode' ?_, hstate⟩
        exact (Function.update_of_ne hc ..).trans hs
    exact ⟨fun _ => hok, (Device.commanded_handleSwitchChangeMode _ c).agrees⟩
  · have hsame : ((s.applied (some (.mode c m))).handleSwitchChangeMode c) =
        (s.applied (some (.mode c m))).controlSameState c := by
      rw [Device.handleSwitchChangeMode, hmode]
      cases m with
      | momentary => exact absurd rfl hm
      | toggle => rfl
      | lighting => rfl
    rw [hsame]
    exact Iff.rfl

/-- **Step lemma.** -/
theorem Inv.step {s : PowerDevice b} (h : s.Inv) {ev : PowerEvent b} (hready : s.Ready ev) :
    (s.step ev).Inv ∧ (s.dev.Agrees → ((s.step ev).dev.Agrees ↔ s.StepOk ev)) := by
  have hsetting : (∀ ev', ev ≠ .net ev') → (∀ rand sh env, ev ≠ .powerLoss rand sh env) →
      (s.step ev).Inv ∧ (s.dev.Agrees → ((s.step ev).dev.Agrees ↔ s.StepOk ev)) := by
    intro hnet hloss
    obtain ⟨⟨hstored, hmodes, hpolicies⟩, hdev⟩ := h.step_setting hready hnet hloss
    have hinv : (s.applied (accepted ev)).StoreInv :=
      Device.storeInv_congr (s.storing_applied _) h.store
    rcases hdev with hdev | ⟨c, m, hx, hdev⟩
    · rw [← hdev] at hmodes hpolicies hinv
      refine ⟨⟨hstored, hinv, hmodes.symm, hpolicies.symm⟩, fun ha => ?_⟩
      rw [hdev]
      exact agrees_applied_iff ha ev
    · have hcmd := Device.commanded_handleSwitchChangeMode (s.applied (accepted ev)) c
      rw [← hdev] at hcmd
      refine ⟨⟨hstored, hcmd.storeInv hinv, ?_, ?_⟩, fun ha => ?_⟩
      · exact (congrArg Prod.fst hcmd.settings).trans hmodes.symm
      · exact (congrArg (fun p => p.2.1) hcmd.settings).trans hpolicies.symm
      · rw [hdev]
        exact (agrees_handleSwitchChangeMode_iff ha hx).trans (agrees_applied_iff ha ev)
  cases ev with
  | net ev' =>
    obtain ⟨hinv, hmode, hstate, hagrees⟩ := Device.netStep_spec h.store hready
    exact ⟨⟨h.stored, hinv, hmode.trans h.modes, hstate.trans h.policies⟩,
      fun ha => iff_of_true (hagrees ha) trivial⟩
  | powerLoss rand sh env =>
    obtain ⟨hinv, hagrees⟩ := h.reboot rand sh env
    exact ⟨hinv, fun _ => iff_of_true hagrees trivial⟩
  | setMessage m par parLen cmd => exact hsetting (fun _ => nofun) (fun _ _ _ => nofun)
  | onPowerUpSet m par => exact hsetting (fun _ => nofun) (fun _ _ _ => nofun)

/-- **Power-on state.** In a run from erased flash, a power loss in any state would bring
every relay up as its mode and policy say if and only if every step meets the condition. -/
theorem bootsAsSet_iff (cfgMem stateMem : Mem) (onTimeLog : LogState) (rand : Nat → Nat)
    (sh : Shared b) (env : NetState b) (evs : List (PowerEvent b))
    (hready : AllSteps step Ready (firstBoot cfgMem stateMem onTimeLog rand sh env) evs) :
    AllStates step BootsAsSet (firstBoot cfgMem stateMem onTimeLog rand sh env) evs ↔
      AllSteps step StepOk (firstBoot cfgMem stateMem onTimeLog rand sh env) evs := by
  obtain ⟨hinv, hagrees⟩ := inv_firstBoot cfgMem stateMem onTimeLog rand sh env
  refine AllStates.iff_allSteps_of_ready (I := Inv) (fun s ev h hr => (h.step hr).1)
    (fun s ev h hr hs => ?_) hinv (hinv.agrees_iff.mpr hagrees) hready
  obtain ⟨hinv', hiff⟩ := h.step hr
  exact hinv'.agrees_iff.trans (hiff (h.agrees_iff.mp hs))

/-! ## An old state brought back -/

/-- A new one-relay device. -/
def new1 : PowerDevice board1 :=
  firstBoot (fun _ => 0) (fun _ => 0) emptyLog (fun _ => 0) demoShared demoNet

/-- The network switches the relay ON or OFF, and the state is stored. -/
def storeState (st : Bool) : List (PowerEvent board1) :=
  [.net (sendControl1 st), .net (.relay (.proc fun _ => 0)), .net (.relay (.clock 3001 3)),
    .net (.relay (.proc fun _ => 0))]

/-- The power-on state of the relay. -/
def setPolicy (v : UInt8) : PowerEvent board1 :=
  .setMessage (Board.relayEle board1.chn0) (fun i => [1, v].getD i 0) 2 vdConfigOnPowerUpState

def lossOfPower : PowerEvent board1 := .powerLoss (fun _ => 0) demoShared demoNet

/-- ON stored, OFF by policy, and ON again before the policy is to restore. -/
theorem bootsAsSet_storedAgain :
    AllStates step BootsAsSet new1 (storeState true ++ [setPolicy powerUpOff, lossOfPower] ++
      storeState true ++ [setPolicy powerUpRestore, lossOfPower]) :=
  (bootsAsSet_iff (fun _ => 0) (fun _ => 0) emptyLog (fun _ => 0) demoShared demoNet _
    (by decide +kernel)).mpr (by decide +kernel)

/-- ON stored, OFF by policy, and then the policy is to restore: the relay is OFF, and the
next boot would switch it ON. -/
theorem bootsAsSet_not_oldState :
    ¬ ∀ evs : List (PowerEvent board1), AllSteps step Ready new1 evs →
      AllStates step BootsAsSet new1 evs := by
  intro h
  have hrun := h (storeState true ++ [setPolicy powerUpOff, lossOfPower, setPolicy powerUpRestore])
    (by decide +kernel)
  obtain ⟨-, -, -, -, -, -, -, hlast⟩ := hrun
  have hon := hlast (by decide +kernel) (fun _ => 0) demoShared demoNet board1.chn0
  revert hon
  decide +kernel

end PowerDevice

end LumesSwitch
