import LumesSwitch.Config.Survival

/-!
# Button ids in configuration messages

Three options are set and reported under button ids. Every answer names a relay by its button
id, two above its number. The handlers of the settings and of the questions take the ids apart
each in its own way.

- `SwCfg.swCfgHandleGetMessage` — the questions;
- `ConfigOption.Sets`, `ConfigOption.reports` — what a message sets, and what an answer reports;
- `SwCfg.IdRoundTrips`, `SwCfg.idRoundTrips_iff` — which ids come back as they were sent.
-/

namespace LumesSwitch

open Bufs Flags Nor Runs Words

/-! ## Questions -/

/-- `VD_CONFIG_ALL_SWITCH_OPT` -/
def vdConfigAllSwitchOpt : UInt8 := 0x20

namespace SwCfg

variable {b : Board}

/-- `sw_cfg_response_all_on_power_up_st_config` -/
def responseAllOnPowerUpStConfig (s : SwCfg b) : SwCfg b :=
  s.send (.nodeStatus Board.eleRelayOffset (vdConfigOnPowerUpState :: b.chns.map s.onPowerUpSt))

/-- `sw_cfg_handle_get_message`; `none` is the error of a command that is not known. The task
that `VD_CONFIG_ALL_SWITCH_OPT` enables asks these questions later. -/
def swCfgHandleGetMessage (s : SwCfg b) (m : b.Btn) (par : Nat → UInt8) (cmd : UInt8) :
    Option (SwCfg b) :=
  if cmd = vdConfigAllSwitchOpt then some s
  else if cmd = vdConfigSwSetMapUnmapInput then
    match Board.relayIdx m with
    | none => some s
    | some id => some (s.responseLinkUnlink id)
  else if cmd = vdConfigSwitchModeOpt then
    match (chnOfByte (par 0 - UInt8.ofNat Board.eleRelayOffset) : Option b.Chn) with
    | none => some s
    | some _ => some (s.responseSwitchMode (par 0 - 1).toNat)
  else if cmd = vdConfigOnPowerUpState then some s.responseAllOnPowerUpStConfig
  else if cmd = vdLinkUnlinkV2Opt then some (s.responseLinkUnlinkV2 (Board.relayEle b.chn0))
  else if cmd = vdEnOnOffGroupDefault then
    match (chnOfByte (par 0) : Option b.Chn) with
    | none => some s
    | some id => some (s.responseEnableDisableGroupDefault id)
  else none

end SwCfg

/-! ## Options -/

/-- The options that are addressed by a button id. -/
inductive ConfigOption where
  | switchMode
  | onPowerUpState
  | linkUnlinkV2
  deriving DecidableEq

namespace ConfigOption

/-- The command of an option. -/
def cmd : ConfigOption → UInt8
  | .switchMode => vdConfigSwitchModeOpt
  | .onPowerUpState => vdConfigOnPowerUpState
  | .linkUnlinkV2 => vdLinkUnlinkV2Opt

/-- The button ids of an answer behind its command, with the value for each. -/
def pairs : ConfigOption → List UInt8 → List (UInt8 × List UInt8)
  | .switchMode, [] => []
  | .switchMode, id :: value => [(id, value)]
  | .onPowerUpState, xs => xs.map fun x : UInt8 => (x >>> (4 : UInt8), [x &&& (0x0F : UInt8)])
  | .linkUnlinkV2, xs => xs.map fun x : UInt8 => (x >>> (2 : UInt8), [x &&& (3 : UInt8)])

/-- What an answer reports of an option. -/
def reports (o : ConfigOption) : SwConfigOut → List (UInt8 × List UInt8)
  | .nodeStatus _ (c :: xs) => if c = o.cmd then o.pairs xs else []
  | _ => []

/-- The set message that carries a pair. -/
def message : ConfigOption → UInt8 × List UInt8 → List UInt8
  | .switchMode, (id, value) => id :: value
  | .onPowerUpState, (id, value) => id :: value
  | .linkUnlinkV2, (id, value) => [(id <<< (2 : UInt8)) ||| value.headD 0]

/-- A set message that is accepted sets the value `v` for button id `id`: it carries the id and
the value, in a list at a place behind which the id does not come again with a link. -/
def Sets (b : Board) (par : Nat → UInt8) (parLen : Nat) (id v : UInt8) : ConfigOption → Prop
  | .switchMode => (SwCfg.switchModeId par parLen : Option b.Chn) ≠ none ∧ par 0 = id ∧ par 1 = v ∧
      v < switchTypeUnknown
  | .onPowerUpState => (SwCfg.onPowerUpStateId par parLen : Option b.Chn) ≠ none ∧ par 0 = id ∧
      par 1 = v ∧ v < powerUpUnknown
  | .linkUnlinkV2 => ∃ j < parLen, par j >>> 2 = id ∧ par j &&& 3 = v ∧ v < linkUnknown ∧
      (SwCfg.chnOfByte (id - 1 - UInt8.ofNat Board.eleRelayOffset) : Option b.Chn) ≠ none ∧
      ∀ k, j < k → k < parLen → par k >>> 2 = id → ¬ par k &&& 3 < linkUnknown

end ConfigOption

namespace SwCfg

variable {b : Board}

/-- The answers to a set message, and to a question. -/
def setAnswers (s : SwCfg b) (m : b.Btn) (par : Nat → UInt8) (parLen : Nat) (o : ConfigOption) :
    List SwConfigOut := (step { s with out := [] } (.setMessage m par parLen o.cmd)).out
def getAnswers (s : SwCfg b) (m : b.Btn) (par : Nat → UInt8) (o : ConfigOption) :
    List SwConfigOut :=
  match swCfgHandleGetMessage { s with out := [] } m par o.cmd with
  | none => []
  | some s' => s'.out

/-- The value `v` is reported for the button id `id`. -/
def Reported (o : ConfigOption) (outs : List SwConfigOut) (id v : UInt8) : Prop :=
  ∃ r ∈ outs.flatMap o.reports, r.1 = id ∧ r.2.head? = some v

/-- A pair sent back as a set message. -/
def sendBack (s : SwCfg b) (m : b.Btn) (o : ConfigOption) (r : UInt8 × List UInt8) : SwCfg b :=
  s.step (.setMessage m (fun i => (o.message r).getD i 0) (o.message r).length o.cmd)

/-- The law for one option and one button id: what is set for the id is reported for it, an
answer to a question for the id names it, and what is reported can be sent back. -/
structure IdRoundTrips (s : SwCfg b) (o : ConfigOption) (id : UInt8) : Prop where
  reported : ∀ (m : b.Btn) (par : Nat → UInt8) (parLen : Nat) (v : UInt8),
    (Board.relayIdx m : Option b.Chn) ≠ none → o.Sets b par parLen id v →
      Reported o (s.setAnswers m par parLen o) id v ∧
        ∀ (m' : b.Btn) (par' : Nat → UInt8), par' 0 = id →
          Reported o ((s.step (.setMessage m par parLen o.cmd)).getAnswers m' par' o) id v
  named : o = .switchMode → ∀ (m : b.Btn) (par : Nat → UInt8), par 0 = id →
    ∀ r ∈ (s.getAnswers m par o).flatMap o.reports, r.1 = id
  sentBackGet : ∀ (m : b.Btn) (par : Nat → UInt8), ∀ r ∈ (s.getAnswers m par o).flatMap o.reports,
    ∀ m' : b.Btn, (s.sendBack m' o r).st = s.st
  sentBackSet : ∀ (m : b.Btn) (par : Nat → UInt8) (parLen : Nat),
    ∀ r ∈ (s.setAnswers m par parLen o).flatMap o.reports, ∀ m' : b.Btn,
      ((s.step (.setMessage m par parLen o.cmd)).sendBack m' o r).st =
        (s.step (.setMessage m par parLen o.cmd)).st

/-- The condition on an option and a button id. -/
def IdOk (b : Board) (id : UInt8) : ConfigOption → Prop
  | .switchMode => ¬ (3 ≤ id.toNat ∧ id.toNat ≤ b.numberRl + 2) ∧
      ¬ (2 ≤ id.toNat ∧ id.toNat ≤ b.numberRl)
  | .onPowerUpState => ¬ (1 ≤ id.toNat ∧ id.toNat ≤ b.numberRl) ∧ b.numberRl ≠ 3
  | .linkUnlinkV2 => True

/-! ## What is reported -/

/-- The value of channel `i` as it is reported. -/
def value (c : SwConfig b) (i : b.Chn) : ConfigOption → List UInt8
  | .switchMode => c.switchMode i ::
      if c.switchMode i = toggleSwitchType then (c.extendedParamSt i).toBytes else []
  | .onPowerUpState => [c.powerOnState i]
  | .linkUnlinkV2 => [(c.linkUnlink i).toUInt8]

/-- The answer about the mode of channel `i`. -/
def modeStatus (s : SwCfg b) (i : b.Chn) : SwConfigOut :=
  .nodeStatus (rspEle i) (vdConfigSwitchModeOpt :: btnId i :: value s.st i .switchMode)

/-- A loop that sends a message for some of the channels. -/
theorem runFrom_sends {c : SwConfig b} {body : SwCfg b → b.Chn → SwCfg b} {on : b.Chn → Bool}
    {msg : b.Chn → SwConfigOut}
    (hbody : ∀ s i, s.st = c → body s i = if on i then s.send (msg i) else s) (is : List b.Chn)
    {s : SwCfg b} (hs : s.st = c) :
    runFrom body s is = { s with out := s.out ++ (is.filter on).map msg } := by
  induction is generalizing s with
  | nil => simp
  | cons i is ih =>
    rw [runFrom_cons, hbody s i hs]
    by_cases hi : on i = true
    · rw [if_pos hi, ih (s := s.send (msg i)) hs, List.filter_cons_of_pos hi, List.map_cons]
      simp [send]
    · rw [if_neg hi, ih hs, List.filter_cons_of_neg hi]

theorem responseSwitchModeByBitMask_eq (s : SwCfg b) (mask : BitVec 16) :
    s.responseSwitchModeByBitMask mask =
      { s with out := s.out ++ (b.chns.filter fun i : b.Chn => isOn mask i).map s.modeStatus } := by
  refine runFrom_sends (c := s.st) (fun s' i hst => ?_) b.chns rfl
  dsimp only
  rw [hst]
  rfl

/-- The mode of the channel with the index is reported, if there is one. -/
theorem mem_responseSwitchMode (s : SwCfg b) {idx : Nat} (hidx : idx < 16) (o : SwConfigOut) :
    o ∈ (s.responseSwitchMode idx).out ↔
      o ∈ s.out ∨ ∃ i : b.Chn, i.val = idx ∧ o = s.modeStatus i := by
  have hzero : ∀ i : Nat, isOn (0 : BitVec 16) i = false := fun i => by simp [isOn]
  rw [responseSwitchMode, responseSwitchModeByBitMask_eq]
  simp only [List.mem_append, List.mem_map, List.mem_filter, b.mem_chns, true_and,
    isOn_setOn _ hidx, hzero, Bool.or_false, decide_eq_true_eq]
  exact or_congr_right (exists_congr fun i => and_congr_right fun _ => eq_comm)

/-- A button id is two above the number of its relay. -/
theorem btnId_toNat (i : b.Chn) : (btnId i).toNat = i.val + 3 := by
  have hi := i.isLt
  have hthree := b.le_three
  have htwo : Board.eleRelayOffset = 2 := rfl
  rw [btnId, UInt8.toNat_ofNat']
  omega

/-- A button id is one of three. -/
theorem btnId_cases (i : b.Chn) : btnId i = 3 ∨ btnId i = 4 ∨ btnId i = 5 := by
  have hi := i.isLt
  have hthree := b.le_three
  have hid := btnId_toNat i
  simp only [← UInt8.toNat_inj, hid]
  have h3 : (3 : UInt8).toNat = 3 ∧ (4 : UInt8).toNat = 4 ∧ (5 : UInt8).toNat = 5 := by decide
  omega

/-- A power-on state and its button id come out of the byte they are packed into. -/
theorem unpack_powerUp {id v : UInt8} (hid : id = 3 ∨ id = 4 ∨ id = 5)
    (hv : v < powerUpUnknown) :
    ((v &&& (0x0F : UInt8)) ||| (id <<< (4 : UInt8))) >>> (4 : UInt8) = id ∧
      ((v &&& (0x0F : UInt8)) ||| (id <<< (4 : UInt8))) &&& (0x0F : UInt8) = v := by
  have hcases : v = 0 ∨ v = 1 ∨ v = 2 := by
    rw [UInt8.lt_iff_toNat_lt, show powerUpUnknown.toNat = 3 from rfl] at hv
    simp only [← UInt8.toNat_inj]
    have h : (0 : UInt8).toNat = 0 ∧ (1 : UInt8).toNat = 1 ∧ (2 : UInt8).toNat = 2 := by decide
    omega
  rcases hid with rfl | rfl | rfl <;> rcases hcases with rfl | rfl | rfl <;> decide

/-- A link and its button id come out of the byte they are packed into. -/
theorem unpack_link {id v : UInt8} (hid : id = 3 ∨ id = 4 ∨ id = 5) (hv : v < linkUnknown) :
    ((v &&& (3 : UInt8)) ||| (id <<< (2 : UInt8))) >>> (2 : UInt8) = id ∧
      ((v &&& (3 : UInt8)) ||| (id <<< (2 : UInt8))) &&& (3 : UInt8) = v ∧
      ((id <<< (2 : UInt8)) ||| v) = (v &&& (3 : UInt8)) ||| (id <<< (2 : UInt8)) := by
  have hcases : v = 0 ∨ v = 1 := by
    rw [UInt8.lt_iff_toNat_lt, show linkUnknown.toNat = 2 from rfl] at hv
    simp only [← UInt8.toNat_inj]
    have h : (0 : UInt8).toNat = 0 ∧ (1 : UInt8).toNat = 1 := by decide
    omega
  rcases hid with rfl | rfl | rfl <;> rcases hcases with rfl | rfl <;> decide

/-! ## Button ids and channels -/

theorem chnOfByte_ne_none {x : UInt8} :
    (chnOfByte x : Option b.Chn) ≠ none ↔ x.toNat < b.numberRl := by
  rw [chnOfByte]
  split
  · next h => exact iff_of_true (Option.some_ne_none _) h
  · next h => exact iff_of_false (fun hn => hn rfl) h

theorem chnOfByte_eq {x : UInt8} {i : b.Chn} (h : x.toNat = i.val) : chnOfByte x = some i := by
  have hlt : x.toNat < b.numberRl := h ▸ i.isLt
  rw [chnOfByte, dif_pos hlt]
  exact congrArg some (Fin.ext h)

theorem toNat_of_chnOfByte {x : UInt8} {i : b.Chn} (h : chnOfByte x = some i) :
    x.toNat = i.val := by
  rw [chnOfByte] at h
  split at h
  · rw [← Option.some.inj h]
  · cases h

theorem toNat_sub_one (x : UInt8) : (x - 1).toNat = (x.toNat + 255) % 256 := by
  rw [UInt8.toNat_sub, UInt8.toNat_one]
  omega

theorem toNat_sub_offset (x : UInt8) :
    (x - UInt8.ofNat Board.eleRelayOffset).toNat = (x.toNat + 254) % 256 := by
  have htwo : (UInt8.ofNat Board.eleRelayOffset).toNat = 2 := rfl
  rw [UInt8.toNat_sub, htwo]
  omega

/-- The channel that a switch-mode or link message takes a button id for. -/
theorem chnOfByte_btnId (i : b.Chn) :
    chnOfByte (btnId i - 1 - UInt8.ofNat Board.eleRelayOffset) = some i := by
  have hi := i.isLt
  have hthree := b.le_three
  refine chnOfByte_eq ?_
  rw [toNat_sub_offset, toNat_sub_one, btnId_toNat]
  omega

/-- The button id of a channel that such a message addresses. -/
theorem eq_btnId {id : UInt8} {i : b.Chn}
    (h : chnOfByte (id - 1 - UInt8.ofNat Board.eleRelayOffset) = some i) : id = btnId i := by
  have hval := toNat_of_chnOfByte h
  have hi := i.isLt
  have hthree := b.le_three
  have hid := id.toNat_lt
  rw [toNat_sub_offset, toNat_sub_one] at hval
  rw [← UInt8.toNat_inj, btnId_toNat]
  omega

/-! ## Buttons without a relay -/

/-- A set message for a button without a relay is ignored. -/
theorem step_of_relayIdx_none (s : SwCfg b) {m : b.Btn} {par : Nat → UInt8} {parLen : Nat}
    {cmd : UInt8} (hidx : (Board.relayIdx m : Option b.Chn) = none) :
    s.step (.setMessage m par parLen cmd) = s := by
  rw [step, swCfgHandleSetMessage, hidx]

/-- A set message that is answered is for the button of a relay. -/
theorem relayIdx_of_mem_setReports {s : SwCfg b} {m : b.Btn} {par : Nat → UInt8} {parLen : Nat}
    {o : ConfigOption} {r : UInt8 × List UInt8}
    (hr : r ∈ (s.setAnswers m par parLen o).flatMap o.reports) :
    ∃ idx : b.Chn, Board.relayIdx m = some idx := by
  refine Option.ne_none_iff_exists'.mp fun hidx => ?_
  rw [setAnswers, step_of_relayIdx_none _ hidx] at hr
  exact List.not_mem_nil hr

/-! ## Switch modes -/

section SwitchMode

variable {s : SwCfg b} {m : b.Btn} {par : Nat → UInt8} {parLen : Nat}

theorem step_switchMode (s : SwCfg b) {idx : b.Chn} (hidx : Board.relayIdx m = some idx) :
    s.step (.setMessage m par parLen ConfigOption.switchMode.cmd) =
      (s.switchModeOpt par parLen).1 := by
  rw [step, swCfgHandleSetMessage, hidx]
  rfl

theorem getMessage_switchMode (s : SwCfg b) (m : b.Btn) (par : Nat → UInt8) :
    s.swCfgHandleGetMessage m par ConfigOption.switchMode.cmd =
      match (chnOfByte (par 0 - UInt8.ofNat Board.eleRelayOffset) : Option b.Chn) with
      | none => some s
      | some _ => some (s.responseSwitchMode (par 0 - 1).toNat) := by
  rw [swCfgHandleGetMessage]
  rfl

/-- The messages that a mode is set by. -/
theorem switchModeId_ne_none : (switchModeId par parLen : Option b.Chn) ≠ none ↔
    (parLen = 2 ∨ parLen = 5) ∧ 3 ≤ (par 0).toNat ∧ (par 0).toNat ≤ b.numberRl + 2 := by
  have hthree := b.le_three
  have hpar := (par 0).toNat_lt
  rw [switchModeId]
  split
  · next hlen =>
    rw [and_iff_right hlen, chnOfByte_ne_none, toNat_sub_offset, toNat_sub_one]
    omega
  · next hlen => exact iff_of_false (fun hn => hn rfl) fun h => hlen h.1

/-- What is reported of the mode, after a question. -/
theorem mem_getReports_switchMode {r : UInt8 × List UInt8} :
    r ∈ (s.getAnswers m par .switchMode).flatMap ConfigOption.switchMode.reports ↔
      (2 ≤ (par 0).toNat ∧ (par 0).toNat ≤ b.numberRl + 1) ∧
        ∃ i : b.Chn, i.val + 1 = (par 0).toNat ∧ r = (btnId i, value s.st i .switchMode) := by
  have hthree := b.le_three
  have hpar := (par 0).toNat_lt
  have hsub := toNat_sub_offset (par 0)
  have hone := toNat_sub_one (par 0)
  rw [getAnswers, getMessage_switchMode]
  cases hid : (chnOfByte (par 0 - UInt8.ofNat Board.eleRelayOffset) : Option b.Chn) with
  | none =>
    have hno : ¬ (par 0 - UInt8.ofNat Board.eleRelayOffset).toNat < b.numberRl :=
      chnOfByte_ne_none.not.mp (not_not.mpr hid)
    refine iff_of_false (by simp) fun h => hno ?_
    omega
  | some j =>
    have hj := toNat_of_chnOfByte hid
    have hlt := j.isLt
    have hidx : (par 0 - 1).toNat < 16 := by omega
    rw [and_iff_right (by omega)]
    dsimp only
    simp only [List.mem_flatMap, mem_responseSwitchMode _ hidx, List.not_mem_nil, false_or]
    constructor
    · rintro ⟨-, ⟨i, hi, rfl⟩, hr⟩
      exact ⟨i, by omega, List.mem_singleton.mp hr⟩
    · rintro ⟨i, hi, rfl⟩
      exact ⟨_, ⟨i, by omega, rfl⟩, List.mem_singleton_self _⟩

/-- What a switch-mode message for channel `id` makes of the structure. -/
def modeSet (c : SwConfig b) (id : b.Chn) (par : Nat → UInt8) (parLen : Nat) : SwConfig b :=
  if par 1 < switchTypeUnknown then
    setExtended { c with switchMode := Function.update c.switchMode id (par 1) } id par parLen
  else c

theorem switchModeOpt_none (s : SwCfg b)
    (hid : (switchModeId par parLen : Option b.Chn) = none) :
    (s.switchModeOpt par parLen).1 = s := by
  rw [switchModeOpt, hid]

/-- The structure behind a switch-mode message, and the answers to it. -/
theorem switchModeOpt_some (s : SwCfg b) {id : b.Chn} (hid : switchModeId par parLen = some id) :
    (s.switchModeOpt par parLen).1.st = modeSet s.st id par parLen ∧
      ∃ s₁ : SwCfg b, s₁.st = modeSet s.st id par parLen ∧ s₁.out = s.out ∧
        (s.switchModeOpt par parLen).1.out =
          (s₁.responseSwitchMode id).out ++ [.blink (setOn 0 id) (decide (par 1 < 3))] := by
  rw [switchModeOpt, hid]
  dsimp only
  generalize hs₁ : (if decide (par 1 < switchTypeUnknown) = true then _ else s) = s₁
  have hst : s₁.st = modeSet s.st id par parLen ∧ s₁.out = s.out := by
    rw [← hs₁, modeSet]
    by_cases hmode : par 1 < switchTypeUnknown
    · rw [decide_eq_true hmode, if_pos rfl, if_pos hmode]
      exact ⟨rfl, rfl⟩
    · rw [decide_eq_false hmode, if_neg Bool.false_ne_true, if_neg hmode]
      exact ⟨rfl, rfl⟩
  exact ⟨(s₁.kept_responseSwitchMode id).1.trans hst.1, s₁, hst.1, hst.2, rfl⟩

theorem reports_modeStatus (s : SwCfg b) (i : b.Chn) :
    ConfigOption.switchMode.reports (s.modeStatus i) = [(btnId i, value s.st i .switchMode)] := rfl

/-- What is reported of the mode, after a setting. -/
theorem mem_setReports_switchMode {r : UInt8 × List UInt8} {idx : b.Chn}
    (hidx : Board.relayIdx m = some idx) :
    r ∈ (s.setAnswers m par parLen .switchMode).flatMap ConfigOption.switchMode.reports ↔
      ∃ i : b.Chn, switchModeId par parLen = some i ∧
        r = (btnId i, value (s.step (.setMessage m par parLen ConfigOption.switchMode.cmd)).st i
          .switchMode) := by
  rw [setAnswers, step_switchMode _ hidx, step_switchMode _ hidx]
  cases hid : (switchModeId par parLen : Option b.Chn) with
  | none =>
    rw [switchModeOpt_none _ hid]
    refine iff_of_false (by simp) ?_
    rintro ⟨i, hi, -⟩
    cases hi
  | some id =>
    obtain ⟨-, s₁, hst, hout, hans⟩ :=
      switchModeOpt_some { s with out := [] } hid
    have hlt : id.val < 16 := by
      have hi := id.isLt
      have hthree := b.le_three
      omega
    rw [hans, (s.switchModeOpt_some hid).1]
    simp only [List.mem_flatMap, List.mem_append, mem_responseSwitchMode _ hlt, hout,
      List.not_mem_nil, false_or]
    constructor
    · rintro ⟨o, ⟨i, hi, rfl⟩ | hblink, hr⟩
      · obtain rfl := Fin.ext hi
        rw [reports_modeStatus, hst] at hr
        exact ⟨i, rfl, List.mem_singleton.mp hr⟩
      · rw [List.mem_singleton.mp hblink] at hr
        exact absurd hr List.not_mem_nil
    · rintro ⟨i, hi, rfl⟩
      obtain rfl := Option.some.inj hi
      refine ⟨s₁.modeStatus id, .inl ⟨id, rfl, rfl⟩, ?_⟩
      rw [reports_modeStatus, hst]
      exact List.mem_singleton_self _

/-- What is reported of a mode can be sent back. -/
theorem sendBack_switchMode (s : SwCfg b) (m : b.Btn) (i : b.Chn) :
    (s.sendBack m .switchMode (btnId i, value s.st i .switchMode)).st = s.st := by
  rw [sendBack]
  cases hidx : (Board.relayIdx m : Option b.Chn) with
  | none => rw [step_of_relayIdx_none _ hidx]
  | some idx =>
    rw [step_switchMode s hidx]
    generalize hbs : ConfigOption.switchMode.message (btnId i, value s.st i .switchMode) = bs
    have hbs' : bs = btnId i :: s.st.switchMode i ::
        if s.st.switchMode i = toggleSwitchType then (s.st.extendedParamSt i).toBytes else [] :=
      hbs.symm
    have hlen : bs.length = 2 ∨ bs.length = 5 := by
      rw [hbs']
      split
      · exact .inr rfl
      · exact .inl rfl
    have hid : switchModeId (fun k => bs.getD k 0) bs.length = some i := by
      rw [switchModeId, if_pos hlen, hbs']
      exact chnOfByte_btnId i
    have hmode : Function.update s.st.switchMode i (bs.getD 1 0) = s.st.switchMode := by
      rw [hbs']
      exact Function.update_eq_self i s.st.switchMode
    rw [(s.switchModeOpt_some hid).1, modeSet, hmode]
    split
    · rw [setExtended]
      by_cases htoggle : s.st.switchMode i = toggleSwitchType
      · rw [if_pos htoggle] at hbs'
        have hext : (⟨bs.getD 2 0, ofU16Bytes (bs.getD 3 0) (bs.getD 4 0)⟩ : ExtendedParam) =
            s.st.extendedParamSt i := by
          rw [hbs']
          exact ExtendedParam.ofBytes_toBytes _
        rw [if_pos (by rw [hbs']; rfl)]
        dsimp only
        split
        · rw [hext, Function.update_eq_self]
        · rfl
      · rw [if_neg htoggle] at hbs'
        have hone : bs.getD 1 0 = s.st.switchMode i := by
          rw [hbs']
          rfl
        rw [if_neg (by rw [hbs']; simp)]
        split
        · rfl
        · dsimp only
          rw [if_neg (by rwa [hone])]
    · rfl

/-- The ids that a switch-mode message accepts, and those that a question is answered for. -/
theorem idRoundTrips_switchMode (s : SwCfg b) (id : UInt8) :
    s.IdRoundTrips .switchMode id ↔ IdOk b id .switchMode := by
  have hthree := b.le_three
  have hid := id.toNat_lt
  constructor
  · intro h
    constructor
    · -- a question for an id that can be set is answered with another one
      rintro ⟨hge, hle⟩
      have hsets : ConfigOption.Sets b (fun k => if k = 0 then id else 0) 2 id 0 .switchMode :=
        ⟨switchModeId_ne_none.mpr ⟨.inl rfl, hge, hle⟩, rfl, rfl, by decide⟩
      obtain ⟨-, hget⟩ := h.reported (Board.relayEle b.chn0) _ 2 0 (by simp) hsets
      obtain ⟨r, hr, hname, -⟩ := hget (Board.relayEle b.chn0) (fun _ => id) rfl
      obtain ⟨-, i, hi, rfl⟩ := mem_getReports_switchMode.mp hr
      have hname : btnId i = id := hname
      have hval := btnId_toNat i
      rw [hname] at hval
      omega
    · rintro ⟨hge, hle⟩
      have hlt : id.toNat - 1 < b.numberRl := by omega
      have hname : btnId (b := b) ⟨id.toNat - 1, hlt⟩ = id :=
        h.named rfl (Board.relayEle b.chn0) (fun _ => id) rfl _ (mem_getReports_switchMode.mpr
          ⟨⟨hge, by omega⟩, ⟨id.toNat - 1, hlt⟩, by dsimp only; omega, rfl⟩)
      have hval := btnId_toNat (b := b) ⟨id.toNat - 1, hlt⟩
      rw [hname] at hval
      dsimp only at hval
      omega
  · rintro ⟨hset, hget⟩
    refine ⟨?_, ?_, ?_, ?_⟩
    · rintro m par parLen v - ⟨hsome, hpar, -⟩
      exact absurd (hpar ▸ (switchModeId_ne_none.mp hsome).2) hset
    · rintro - m par hpar r hr
      obtain ⟨⟨hge, -⟩, i, hi, -⟩ := mem_getReports_switchMode.mp hr
      rw [hpar] at hge hi
      exact absurd ⟨hge, by omega⟩ hget
    · intro m par r hr m'
      obtain ⟨-, i, -, rfl⟩ := mem_getReports_switchMode.mp hr
      exact sendBack_switchMode s m' i
    · intro m par parLen r hr m'
      obtain ⟨idx, hidx⟩ := relayIdx_of_mem_setReports hr
      obtain ⟨i, -, rfl⟩ := (mem_setReports_switchMode hidx).mp hr
      exact sendBack_switchMode _ m' i

end SwitchMode

/-! ## Power-on states -/

section OnPowerUpState

variable {s : SwCfg b} {m : b.Btn} {par : Nat → UInt8} {parLen : Nat}

theorem step_onPowerUpState (s : SwCfg b) {idx : b.Chn} (hidx : Board.relayIdx m = some idx) :
    s.step (.setMessage m par parLen ConfigOption.onPowerUpState.cmd) =
      s.onPowerUpStateOpt par parLen := by
  rw [step, swCfgHandleSetMessage, hidx]
  rfl

/-- The messages that a power-on state is set by. -/
theorem onPowerUpStateId_ne_none : (onPowerUpStateId par parLen : Option b.Chn) ≠ none ↔
    parLen = 2 ∧ 1 ≤ (par 0).toNat ∧ (par 0).toNat ≤ b.numberRl := by
  have hthree := b.le_three
  have hpar := (par 0).toNat_lt
  rw [onPowerUpStateId]
  split
  · next hlen =>
    rw [and_iff_right hlen, chnOfByte_ne_none, toNat_sub_one]
    omega
  · next hlen => exact iff_of_false (fun hn => hn rfl) fun h => hlen h.1

/-- What a byte of an answer reports. -/
theorem unpack_onPowerUpSt (hv : s.st.Valid) (i : b.Chn) :
    (s.onPowerUpSt i >>> (4 : UInt8), [s.onPowerUpSt i &&& (0x0F : UInt8)]) =
      (btnId i, value s.st i .onPowerUpState) := by
  obtain ⟨hid, hval⟩ := unpack_powerUp (btnId_cases i) (hv.entryOk i).powerOnState
  rw [value, onPowerUpSt, hid, hval]

/-- What is reported of the power-on states, after a question. -/
theorem mem_getReports_onPowerUpState (hv : s.st.Valid) {r : UInt8 × List UInt8}
    (hr : r ∈ (s.getAnswers m par .onPowerUpState).flatMap ConfigOption.onPowerUpState.reports) :
    ∃ i : b.Chn, r = (btnId i, value s.st i .onPowerUpState) := by
  have hans : s.getAnswers m par .onPowerUpState =
      [.nodeStatus Board.eleRelayOffset (vdConfigOnPowerUpState :: b.chns.map s.onPowerUpSt)] := by
    rw [getAnswers, swCfgHandleGetMessage]
    rfl
  have hreports : ConfigOption.onPowerUpState.reports (.nodeStatus Board.eleRelayOffset
      (vdConfigOnPowerUpState :: b.chns.map s.onPowerUpSt)) =
        (b.chns.map s.onPowerUpSt).map
          fun x : UInt8 => (x >>> (4 : UInt8), [x &&& (0x0F : UInt8)]) := rfl
  rw [hans, List.flatMap_singleton, hreports, List.map_map] at hr
  obtain ⟨i, -, rfl⟩ := List.mem_map.mp hr
  exact ⟨i, unpack_onPowerUpSt hv i⟩

/-- The structure and the answers behind a power-on message for channel `id`. -/
theorem onPowerUpStateOpt_some (s : SwCfg b) {id : b.Chn}
    (hid : onPowerUpStateId par parLen = some id) :
    (s.onPowerUpStateOpt par parLen).st =
        (if par 1 < powerUpUnknown then
          { s.st with powerOnState := Function.update s.st.powerOnState id (par 1) }
        else s.st) ∧
      ∃ ok, (s.onPowerUpStateOpt par parLen).out = s.out ++ [.blink (setOn 0 id) ok,
        .nodeStatus (rspEle id)
          [vdConfigOnPowerUpState, (s.onPowerUpStateOpt par parLen).onPowerUpSt id]] := by
  rw [onPowerUpStateOpt, hid]
  dsimp only
  split
  · exact ⟨rfl, true, List.append_assoc _ _ _⟩
  · exact ⟨rfl, false, List.append_assoc _ _ _⟩

theorem onPowerUpStateOpt_none (s : SwCfg b)
    (hid : (onPowerUpStateId par parLen : Option b.Chn) = none) :
    s.onPowerUpStateOpt par parLen = s := by
  rw [onPowerUpStateOpt, hid]

/-- What is reported of the power-on states, after a setting. -/
theorem mem_setReports_onPowerUpState (hv : s.st.Valid) {idx : b.Chn}
    (hidx : Board.relayIdx m = some idx) {r : UInt8 × List UInt8} :
    r ∈ (s.setAnswers m par parLen .onPowerUpState).flatMap
        ConfigOption.onPowerUpState.reports ↔
      ∃ i : b.Chn, onPowerUpStateId par parLen = some i ∧
        r = (btnId i, value
          (s.step (.setMessage m par parLen ConfigOption.onPowerUpState.cmd)).st i
            .onPowerUpState) := by
  have hv' := valid_step hv (.setMessage m par parLen ConfigOption.onPowerUpState.cmd)
  rw [setAnswers, step_onPowerUpState _ hidx]
  rw [step_onPowerUpState _ hidx] at hv' ⊢
  cases hid : (onPowerUpStateId par parLen : Option b.Chn) with
  | none =>
    rw [onPowerUpStateOpt_none _ hid]
    refine iff_of_false (by simp) ?_
    rintro ⟨i, hi, -⟩
    cases hi
  | some id =>
    obtain ⟨hst, ok, hout⟩ :=
      onPowerUpStateOpt_some { s with out := [] } hid
    have heq : (onPowerUpStateOpt { s with out := [] } par parLen).onPowerUpSt id =
        (s.onPowerUpStateOpt par parLen).onPowerUpSt id := by
      rw [onPowerUpSt, hst, onPowerUpSt, (s.onPowerUpStateOpt_some hid).1]
    have hreports : ConfigOption.onPowerUpState.reports (.nodeStatus (rspEle id)
        [vdConfigOnPowerUpState, (s.onPowerUpStateOpt par parLen).onPowerUpSt id]) =
          [(btnId id, value (s.onPowerUpStateOpt par parLen).st id .onPowerUpState)] :=
      congrArg (· :: []) (unpack_onPowerUpSt hv' id)
    have hblink : ConfigOption.onPowerUpState.reports (.blink (setOn 0 id) ok) = [] := rfl
    rw [hout, heq, List.nil_append, List.flatMap_cons, hblink, List.nil_append,
      List.flatMap_singleton, hreports, List.mem_singleton]
    constructor
    · exact fun hr => ⟨id, rfl, hr⟩
    · rintro ⟨i, hi, rfl⟩
      rw [Option.some.inj hi]

/-- With three relays, the answer to a setting of the first, sent back, sets the third. -/
theorem not_sentBackSet_onPowerUpState (hv : s.st.Valid) (hn : b.numberRl = 3) :
    ¬ ∀ (m : b.Btn) (par : Nat → UInt8) (parLen : Nat),
      ∀ r ∈ (s.setAnswers m par parLen .onPowerUpState).flatMap
        ConfigOption.onPowerUpState.reports, ∀ m' : b.Btn,
        ((s.step (.setMessage m par parLen ConfigOption.onPowerUpState.cmd)).sendBack m'
          .onPowerUpState r).st =
            (s.step (.setMessage m par parLen ConfigOption.onPowerUpState.cmd)).st := by
  intro h
  obtain ⟨k2, hk2⟩ : ∃ k2 : b.Chn, k2.val = 2 := ⟨⟨2, by omega⟩, rfl⟩
  obtain ⟨v, hv3, hne⟩ : ∃ v : UInt8, v < powerUpUnknown ∧ v ≠ s.st.powerOnState k2 := by
    by_cases hzero : s.st.powerOnState k2 = 0
    · exact ⟨1, by decide, by rw [hzero]; decide⟩
    · exact ⟨0, by decide, Ne.symm hzero⟩
  have hfirst : onPowerUpStateId (fun k => if k = 0 then 1 else v) 2 = some b.chn0 := by
    rw [onPowerUpStateId, if_pos rfl, if_pos rfl]
    exact chnOfByte_eq rfl
  have hidx : (Board.relayIdx (Board.relayEle b.chn0) : Option b.Chn) = some b.chn0 :=
    Board.relayIdx_relayEle _
  have hst := (s.onPowerUpStateOpt_some hfirst).1
  dsimp only at hst
  rw [if_neg Nat.one_ne_zero, if_pos hv3] at hst
  -- the answer names the first relay by 3
  have hback := h (Board.relayEle b.chn0) _ 2 _
    ((mem_setReports_onPowerUpState hv hidx).mpr ⟨b.chn0, hfirst, rfl⟩) (Board.relayEle b.chn0)
  rw [step_onPowerUpState _ hidx, sendBack, step_onPowerUpState _ hidx, hst] at hback
  have hmsg : ConfigOption.onPowerUpState.message (btnId b.chn0, value
      { s.st with powerOnState := Function.update s.st.powerOnState b.chn0 v } b.chn0
        .onPowerUpState) = [btnId b.chn0, v] := by
    change [btnId b.chn0, Function.update s.st.powerOnState b.chn0 v b.chn0] = _
    rw [Function.update_self]
  have hthird : onPowerUpStateId (fun i => [btnId b.chn0, v].getD i 0)
      [btnId b.chn0, v].length = some k2 := by
    have hlen : [btnId b.chn0, v].length = 2 := rfl
    rw [onPowerUpStateId, if_pos hlen]
    refine chnOfByte_eq ?_
    change (btnId b.chn0 - 1).toNat = k2.val
    rw [toNat_sub_one, hk2, btnId_toNat, show b.chn0.val = 0 from rfl]
  have hone : [btnId b.chn0, v].getD 1 0 = v := rfl
  rw [hmsg, (onPowerUpStateOpt_some _ hthird).1, hone, if_pos hv3, hst] at hback
  have hk : k2 ≠ b.chn0 := by
    rintro rfl
    exact absurd hk2 (show ¬ (0 : Nat) = 2 by decide)
  have hval := congrFun (congrArg SwConfig.powerOnState hback) k2
  dsimp only at hval
  rw [Function.update_self, Function.update_of_ne hk] at hval
  exact hne hval

/-- The ids that a power-on message accepts are not those of the answers. -/
theorem idRoundTrips_onPowerUpState (hv : s.st.Valid) (id : UInt8) :
    s.IdRoundTrips .onPowerUpState id ↔ IdOk b id .onPowerUpState := by
  have hthree := b.le_three
  have hid := id.toNat_lt
  have hone := toNat_sub_one id
  constructor
  · intro h
    constructor
    · -- a setting is answered under an id two above
      rintro ⟨hge, hle⟩
      have hchn : onPowerUpStateId (fun k => if k = 0 then id else 0) 2 =
          some (⟨id.toNat - 1, by omega⟩ : b.Chn) := by
        rw [onPowerUpStateId, if_pos rfl]
        exact chnOfByte_eq (by dsimp only; rw [if_pos rfl]; omega)
      have hsets : ConfigOption.Sets b (fun k => if k = 0 then id else 0) 2 id 0
          .onPowerUpState := by
        refine ⟨?_, rfl, rfl, by decide⟩
        rw [hchn]
        exact Option.some_ne_none _
      obtain ⟨⟨r, hr, hname, -⟩, -⟩ := h.reported (Board.relayEle b.chn0) _ 2 0 (by simp) hsets
      obtain ⟨i, hi, rfl⟩ := (mem_setReports_onPowerUpState hv (Board.relayIdx_relayEle _)).mp hr
      have hname : btnId i = id := hname
      have hval := btnId_toNat i
      have hidx : i.val = id.toNat - 1 := by
        rw [hchn] at hi
        exact (congrArg Fin.val (Option.some.inj hi)).symm
      rw [hname] at hval
      omega
    · -- the first of three relays is answered under the id of the third
      intro hn
      exact not_sentBackSet_onPowerUpState hv hn h.sentBackSet
  · rintro ⟨hset, hn⟩
    have hback : ∀ (s' : SwCfg b) (m' : b.Btn) (i : b.Chn) (value : List UInt8),
        (s'.sendBack m' .onPowerUpState (btnId i, value)).st = s'.st := by
      intro s' m' i value
      have hi := i.isLt
      have hval := btnId_toNat i
      rw [sendBack]
      cases hidx : (Board.relayIdx m' : Option b.Chn) with
      | none => rw [step_of_relayIdx_none _ hidx]
      | some idx =>
        rw [step_onPowerUpState _ hidx, onPowerUpStateOpt_none]
        refine not_not.mp fun hsome => ?_
        obtain ⟨-, -, hle⟩ := onPowerUpStateId_ne_none.mp hsome
        have hpar : (ConfigOption.onPowerUpState.message (btnId i, value)).getD 0 0 = btnId i := rfl
        rw [hpar, hval] at hle
        omega
    refine ⟨?_, fun hne => ConfigOption.noConfusion hne, ?_, ?_⟩
    · rintro m par parLen v - ⟨hsome, hpar, -⟩
      exact absurd (hpar ▸ (onPowerUpStateId_ne_none.mp hsome).2) hset
    · intro m par r hr m'
      obtain ⟨i, rfl⟩ := mem_getReports_onPowerUpState hv hr
      exact hback s m' i _
    · intro m par parLen r hr m'
      obtain ⟨idx, hidx⟩ := relayIdx_of_mem_setReports hr
      obtain ⟨i, -, rfl⟩ := (mem_setReports_onPowerUpState hv hidx).mp hr
      exact hback _ m' i _

end OnPowerUpState

/-! ## Links -/

section LinkUnlinkV2

variable {s : SwCfg b} {m : b.Btn} {par : Nat → UInt8} {parLen : Nat}

theorem step_linkUnlinkV2 (s : SwCfg b) {idx : b.Chn} (hidx : Board.relayIdx m = some idx) :
    s.step (.setMessage m par parLen ConfigOption.linkUnlinkV2.cmd) =
      s.linkUnlinkV2Opt m par parLen := by
  rw [step, swCfgHandleSetMessage, hidx]
  rfl

/-- The answer about the links. -/
def linkStatus (s : SwCfg b) (m : b.Btn) : SwConfigOut :=
  .nodeStatus m (vdLinkUnlinkV2Opt :: b.chns.map fun i =>
    ((s.st.linkUnlink i).toUInt8 &&& (3 : UInt8)) ||| (btnId i <<< (2 : UInt8)))

theorem toUInt8_lt {x : UInt16} (h : x < linkUnknown.toUInt16) : x.toUInt8 < linkUnknown := by
  rw [UInt16.lt_iff_toNat_lt, show linkUnknown.toUInt16.toNat = 2 from rfl] at h
  rw [UInt8.lt_iff_toNat_lt, show linkUnknown.toNat = 2 from rfl, UInt16.toNat_toUInt8]
  omega

/-- Every link is reported. -/
theorem reports_linkStatus (hv : s.st.Valid) (m : b.Btn) :
    ConfigOption.linkUnlinkV2.reports (s.linkStatus m) =
      b.chns.map fun i => (btnId i, value s.st i .linkUnlinkV2) := by
  change (b.chns.map _).map _ = _
  rw [List.map_map]
  refine List.map_congr_left fun i _ => ?_
  obtain ⟨hid, hval, -⟩ := unpack_link (btnId_cases i) (toUInt8_lt (hv.entryOk i).linkUnlink)
  rw [Function.comp_apply, hid, hval, value]

theorem getAnswers_linkUnlinkV2 (s : SwCfg b) (m : b.Btn) (par : Nat → UInt8) :
    s.getAnswers m par .linkUnlinkV2 = [s.linkStatus (Board.relayEle b.chn0)] := by
  rw [getAnswers, swCfgHandleGetMessage]
  rfl

/-- A link list is answered if an entry of it is valid. -/
theorem linkUnlinkV2Opt_out (s : SwCfg b) (m : b.Btn) (par : Nat → UInt8) (parLen : Nat) :
    ∃ mask, (s.linkUnlinkV2Opt m par parLen).out = s.out ++
      (if (runFrom (linkItem par) (s.st, false, (0 : BitVec 16)) (List.range parLen)).2.1 then
        [(s.linkUnlinkV2Opt m par parLen).linkStatus m, .blink mask true]
      else [.blink mask false]) ∧
    (s.linkUnlinkV2Opt m par parLen).st =
      (runFrom (linkItem par) (s.st, false, (0 : BitVec 16)) (List.range parLen)).1 := by
  rw [linkUnlinkV2Opt]
  generalize runFrom (linkItem par) (s.st, false, (0 : BitVec 16)) (List.range parLen) = r
  obtain ⟨c, valid, mask⟩ := r
  refine ⟨mask, ?_⟩
  dsimp only
  cases valid with
  | true => exact ⟨List.append_assoc _ _ _, rfl⟩
  | false => exact ⟨rfl, rfl⟩

/-- The items of a list behind the last one that sets a link leave the link alone. -/
theorem linkItem_later {id v : UInt8} {i : b.Chn}
    (hchn : chnOfByte (id - 1 - UInt8.ofNat Board.eleRelayOffset) = some i) {ks : List Nat}
    (hlater : ∀ k ∈ ks, par k >>> 2 = id → ¬ par k &&& 3 < linkUnknown)
    {x : SwConfig b × Bool × BitVec 16} (hlink : x.1.linkUnlink i = v.toUInt16)
    (hvalid : x.2.1 = true) :
    (runFrom (linkItem par) x ks).1.linkUnlink i = v.toUInt16 ∧
      (runFrom (linkItem par) x ks).2.1 = true := by
  induction ks generalizing x with
  | nil => exact ⟨hlink, hvalid⟩
  | cons k ks ih =>
    have hrest := fun k' hk' => hlater k' (List.mem_cons_of_mem k hk')
    rw [runFrom_cons]
    suffices hstep : (linkItem par x k).1.linkUnlink i = v.toUInt16 ∧
        (linkItem par x k).2.1 = true from ih hrest hstep.1 hstep.2
    obtain ⟨c, valid, mask⟩ := x
    rw [linkItem]
    dsimp only
    split
    · exact ⟨hlink, hvalid⟩
    · next j hj =>
      split
      · next hlt =>
        have hne : i ≠ j := by
          rintro rfl
          exact hlater k List.mem_cons_self ((eq_btnId hj).trans (eq_btnId hchn).symm) hlt
        exact ⟨(Function.update_of_ne hne _ _).trans hlink, rfl⟩
      · exact ⟨hlink, hvalid⟩

/-- A list that sets a link leaves it set. -/
theorem linkItem_sets {id v : UInt8} {c : SwConfig b} {i : b.Chn}
    (hchn : chnOfByte (id - 1 - UInt8.ofNat Board.eleRelayOffset) = some i)
    (hsets : ConfigOption.Sets b par parLen id v .linkUnlinkV2) :
    (runFrom (linkItem par) (c, false, (0 : BitVec 16)) (List.range parLen)).1.linkUnlink i =
        v.toUInt16 ∧
      (runFrom (linkItem par) (c, false, (0 : BitVec 16)) (List.range parLen)).2.1 = true := by
  obtain ⟨j, hj, hid, hval, hlt, -, hlater⟩ := hsets
  have hsplit : List.range parLen =
      List.range j ++ j :: (List.range (parLen - (j + 1))).map (j + 1 + ·) := by
    have hlen : parLen = j + 1 + (parLen - (j + 1)) := by omega
    rw [hlen, List.range_add, List.range_succ, List.append_assoc, List.singleton_append,
      Nat.add_sub_cancel_left]
  rw [hsplit, runFrom_append, runFrom_cons]
  generalize runFrom (linkItem par) (c, false, (0 : BitVec 16)) (List.range j) = x
  have hitem : linkItem par x j = ({ x.1 with
      linkUnlink := Function.update x.1.linkUnlink i v.toUInt16 }, true, setOn x.2.2 i) := by
    rw [linkItem]
    dsimp only
    rw [hid, hchn]
    dsimp only
    rw [hval, if_pos hlt]
  refine linkItem_later hchn ?_ ?_ ?_
  · intro k hk
    obtain ⟨l, hl, rfl⟩ := List.mem_map.mp hk
    have hl' := List.mem_range.mp hl
    exact hlater _ (by omega) (by omega)
  · rw [hitem]
    exact Function.update_self ..
  · rw [hitem]

/-- What is reported of the links, after a setting. -/
theorem mem_setReports_linkUnlinkV2 (hv : s.st.Valid) {r : UInt8 × List UInt8} {idx : b.Chn}
    (hidx : Board.relayIdx m = some idx) :
    r ∈ (s.setAnswers m par parLen .linkUnlinkV2).flatMap ConfigOption.linkUnlinkV2.reports ↔
      (runFrom (linkItem par) (s.st, false, (0 : BitVec 16)) (List.range parLen)).2.1 = true ∧
        ∃ i : b.Chn, r = (btnId i, value
          (s.step (.setMessage m par parLen ConfigOption.linkUnlinkV2.cmd)).st i
            .linkUnlinkV2) := by
  have hv' := valid_step hv (.setMessage m par parLen ConfigOption.linkUnlinkV2.cmd)
  rw [setAnswers, step_linkUnlinkV2 _ hidx]
  rw [step_linkUnlinkV2 _ hidx] at hv' ⊢
  obtain ⟨mask, hout, hst⟩ := linkUnlinkV2Opt_out { s with out := [] } m par parLen
  obtain ⟨-, -, hst'⟩ := s.linkUnlinkV2Opt_out m par parLen
  have hstatus : (linkUnlinkV2Opt { s with out := [] } m par parLen).linkStatus m =
      (s.linkUnlinkV2Opt m par parLen).linkStatus m := by
    rw [linkStatus, hst, linkStatus, hst']
  rw [hout, hstatus, List.nil_append]
  dsimp only
  split
  · next hvalid =>
    have hblink : ConfigOption.linkUnlinkV2.reports (.blink mask true) = [] := rfl
    rw [and_iff_right hvalid, List.flatMap_cons, reports_linkStatus hv', List.flatMap_singleton,
      hblink, List.append_nil, List.mem_map]
    constructor
    · rintro ⟨i, -, rfl⟩
      exact ⟨i, rfl⟩
    · rintro ⟨i, rfl⟩
      exact ⟨i, b.mem_chns i, rfl⟩
  · next hvalid =>
    refine iff_of_false ?_ fun h => hvalid h.1
    simp [ConfigOption.reports]

/-- A link that is reported can be sent back. -/
theorem sendBack_linkUnlinkV2 (hv : s.st.Valid) (m : b.Btn) (i : b.Chn) :
    (s.sendBack m .linkUnlinkV2 (btnId i, value s.st i .linkUnlinkV2)).st = s.st := by
  have hlt := (hv.entryOk i).linkUnlink
  obtain ⟨hid, hval, hpack⟩ := unpack_link (btnId_cases i) (toUInt8_lt hlt)
  rw [sendBack]
  cases hidx : (Board.relayIdx m : Option b.Chn) with
  | none => rw [step_of_relayIdx_none _ hidx]
  | some idx =>
    obtain ⟨-, -, hst⟩ := s.linkUnlinkV2Opt_out m (fun k => (ConfigOption.linkUnlinkV2.message
      (btnId i, value s.st i .linkUnlinkV2)).getD k 0) 1
    have hbyte : (ConfigOption.linkUnlinkV2.message
        (btnId i, value s.st i .linkUnlinkV2)).getD 0 0 =
          ((s.st.linkUnlink i).toUInt8 &&& (3 : UInt8)) ||| (btnId i <<< (2 : UInt8)) := hpack
    have hlink : (s.st.linkUnlink i).toUInt8.toUInt16 = s.st.linkUnlink i := by
      rw [UInt16.lt_iff_toNat_lt, show linkUnknown.toUInt16.toNat = 2 from rfl] at hlt
      rw [← UInt16.toNat_inj, UInt8.toNat_toUInt16, UInt16.toNat_toUInt8]
      omega
    have hitem : (linkItem (fun k => (ConfigOption.linkUnlinkV2.message
        (btnId i, value s.st i .linkUnlinkV2)).getD k 0) (s.st, false, (0 : BitVec 16)) 0).1 =
          s.st := by
      rw [linkItem]
      dsimp only
      rw [hbyte, hid, hval, chnOfByte_btnId, hlink]
      dsimp only
      rw [if_pos (toUInt8_lt hlt), Function.update_eq_self]
    rw [step_linkUnlinkV2 s hidx]
    exact hst.trans hitem

/-- A link list comes back under the ids that it was sent with. -/
theorem idRoundTrips_linkUnlinkV2 (hv : s.st.Valid) (id : UInt8) :
    s.IdRoundTrips .linkUnlinkV2 id := by
  refine ⟨?_, fun hne => ConfigOption.noConfusion hne, ?_, ?_⟩
  · intro m par parLen v hm hsets
    have hsome : (chnOfByte (id - 1 - UInt8.ofNat Board.eleRelayOffset) : Option b.Chn) ≠ none := by
      obtain ⟨-, -, -, -, -, hsome, -⟩ := hsets
      exact hsome
    obtain ⟨i, hi⟩ := Option.ne_none_iff_exists'.mp hsome
    obtain ⟨idx, hidx⟩ := Option.ne_none_iff_exists'.mp hm
    obtain ⟨hlink, hvalid⟩ := linkItem_sets (c := s.st) hi hsets
    obtain ⟨-, -, hst⟩ := s.linkUnlinkV2Opt_out m par parLen
    have hv' := valid_step hv (.setMessage m par parLen ConfigOption.linkUnlinkV2.cmd)
    have hval : (value (s.step (.setMessage m par parLen ConfigOption.linkUnlinkV2.cmd)).st i
        .linkUnlinkV2).head? = some v := by
      rw [step_linkUnlinkV2 s hidx, hst, value, hlink, UInt8.toUInt8_toUInt16]
      rfl
    refine ⟨⟨_, (mem_setReports_linkUnlinkV2 hv hidx).mpr ⟨hvalid, i, rfl⟩,
      (eq_btnId hi).symm, hval⟩, fun m' par' _ => ⟨(btnId i, _), ?_, (eq_btnId hi).symm, hval⟩⟩
    rw [getAnswers_linkUnlinkV2, List.flatMap_singleton, reports_linkStatus hv']
    exact List.mem_map_of_mem (b.mem_chns i)
  · intro m par r hr m'
    rw [getAnswers_linkUnlinkV2, List.flatMap_singleton, reports_linkStatus hv] at hr
    obtain ⟨i, -, rfl⟩ := List.mem_map.mp hr
    exact sendBack_linkUnlinkV2 hv m' i
  · intro m par parLen r hr m'
    obtain ⟨idx, hidx⟩ := relayIdx_of_mem_setReports hr
    obtain ⟨-, i, rfl⟩ := (mem_setReports_linkUnlinkV2 hv hidx).mp hr
    exact sendBack_linkUnlinkV2 (valid_step hv _) m' i

end LinkUnlinkV2

/-! ## Every option -/

/-- Which ids come back as they were sent. -/
theorem idRoundTrips_iff (mem : Mem) (evs : List (CfgEvent b)) (o : ConfigOption) (id : UInt8) :
    (runFrom step (firstBoot b mem) evs).IdRoundTrips o id ↔ IdOk b id o := by
  obtain ⟨hfirst, -⟩ := stored_firstBoot (b := b) mem
  have hv : (runFrom step (firstBoot b mem) evs).st.Valid :=
    invariant_runFrom (I := fun s : SwCfg b => s.st.Valid) (fun _ ev hs => valid_step hs ev)
      hfirst evs
  cases o with
  | switchMode => exact idRoundTrips_switchMode _ id
  | onPowerUpState => exact idRoundTrips_onPowerUpState hv id
  | linkUnlinkV2 => exact iff_of_true (idRoundTrips_linkUnlinkV2 hv id) trivial

/-- A switch mode that is set for button 3 is not reported to a question for button 3. -/
theorem not_idRoundTrips_three :
    ¬ (firstBoot board2 fun _ => erasedByte).IdRoundTrips .switchMode 3 := fun h =>
  ((idRoundTrips_switchMode _ 3).mp h).1 ⟨by decide, by decide⟩

end SwCfg

end LumesSwitch
