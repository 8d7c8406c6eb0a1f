import LumesSwitch.Config.Stored

/-!
# What survives a power cut of the configuration

Every setting stores the structure it has changed, but for the first of the two link
messages: it changes the structure in memory and answers, and stores nothing.

- `SwConfig.default`, `SwCfg.firstBoot_st` — the structure of a new device;
- `SwCfg.setMessage_cases` — what a message can do;
- `SwCfg.settingsSurvive_iff` — a run survives a power cut at any point if and only if no link
  message of the first kind changes a link.
-/

namespace LumesSwitch

open Bufs Flags Nor Runs Words

variable {b : Board}

/-! ## A new device -/

namespace SwConfig

/-- The structure that the check makes of erased flash. -/
def default (b : Board) : SwConfig b where
  switchMode _ := toggleSwitchType
  extendedParamSt _ := ⟨toggleUnknown, autoOnOffMinTimeS⟩
  linkUnlink _ := linkEnable.toUInt16
  mapInput i := UInt8.ofNat (i + 1)
  enGroupDefault _ := 1
  powerOnState _ := powerUpRestore
  rsv _ := maxU8

/-- The structure in erased flash. -/
def unset (b : Board) : SwConfig b where
  switchMode _ := maxU8
  extendedParamSt _ := ⟨maxU8, 0xFFFF⟩
  linkUnlink _ := 0xFFFF
  mapInput _ := maxU8
  enGroupDefault _ := maxU8
  powerOnState _ := maxU8
  rsv _ := maxU8

/-- An array whose records are all blank. -/
theorem blank_encodeRecords {α : Type*} {n : Nat} {enc : α → List UInt8} {f : Fin n → α}
    (h : ∀ i, Blank (enc (f i))) : Blank (encodeRecords enc f) := by
  intro x hx
  obtain ⟨i, -, hi⟩ := List.mem_flatMap.mp hx
  exact h i x hi

theorem blank_append {xs ys : List UInt8} (hx : Blank xs) (hy : Blank ys) : Blank (xs ++ ys) :=
  fun x hmem => (List.mem_append.mp hmem).elim (hx x) (hy x)

theorem toBytes_unset : (unset b).toBytes = List.replicate (9 * b.numberRl + 64) erasedByte := by
  have hbyte : ∀ n, Blank (u8Array fun _ : Fin n => maxU8) :=
    fun n => blank_encodeRecords fun _ => blank_replicate 1
  have hext : ExtendedParam.toBytes ⟨maxU8, 0xFFFF⟩ = List.replicate 3 erasedByte := by decide
  have hlink : u16Bytes 0xFFFF = List.replicate 2 erasedByte := by decide
  refine List.eq_replicate_iff.mpr ⟨(unset b).toBytes_length, ?_⟩
  refine blank_append (hbyte _) (blank_append ?_ (blank_append ?_ (blank_append (hbyte _)
    (blank_append (hbyte _) (blank_append (hbyte _) (hbyte _))))))
  · exact blank_encodeRecords fun _ => hext ▸ blank_replicate 3
  · exact blank_encodeRecords fun _ => hlink ▸ blank_replicate 2

theorem checked_unset : (unset b).checked = default b := by
  have hthree := b.le_three
  have hmap : (maxU8).toNat > b.numberRl := by
    show 255 > b.numberRl
    omega
  refine SwConfig.ext rfl rfl rfl ?_ rfl rfl rfl
  exact funext fun i => if_pos hmap

end SwConfig

namespace SwCfg

/-- A boot on an erased sector. -/
theorem swConfigInit_erased {s : SwCfg b}
    (h : LogRel (swConfigLog b) ((swConfigLog b).reindex s.log) none) :
    s.swConfigInit.st = .default b := by
  have hread : (swConfigLog b).restore ((swConfigLog b).reindex s.log) =
      (SwConfig.unset b).toBytes := by
    rw [h.restore_eq, SwConfig.toBytes_unset]
    rfl
  rw [swConfigInit, hread, SwConfig.ofBytes_toBytes, swCheckValidParams]
  dsimp only
  rw [SwConfig.checked_unset]
  split <;> rfl

theorem firstBoot_st (mem : Mem) : (firstBoot b mem).st = .default b :=
  swConfigInit_erased (LogRel.firstBoot (swConfigLog b) mem 0)

/-! ## What is stored -/

/-- A setting leaves a valid structure with the same mapping, and stores it if it is not the
structure before. -/
structure Settles (s s' : SwCfg b) : Prop where
  valid : s'.st.Valid
  mapInput : s'.st.mapInput = s.st.mapInput
  saves : (s'.st = s.st ∧ s'.log = s.log) ∨ s'.log = (swConfigLog b).put s.log s'.st.toBytes

theorem settles_of_eq {s s' : SwCfg b} (hv : s.st.Valid) (hst : s'.st = s.st)
    (hlog : s'.log = s.log) : s.Settles s' :=
  ⟨by rwa [hst], by rw [hst], .inl ⟨hst, hlog⟩⟩

theorem Stored.settles {s s' : SwCfg b} (h : s.Stored) (hs : s.Settles s') : s'.Stored := by
  rcases hs.saves with ⟨hst, hlog⟩ | hlog
  · exact h.congr hst hlog
  · obtain ⟨_, hrel⟩ := h
    exact (stored_swConfigStore (s := { s' with log := s.log }) hs.valid hrel).congr rfl hlog

end SwCfg

namespace SwConfig

/-- What is valid stays so under other links that are. -/
theorem Valid.updateLinks {c : SwConfig b} (h : c.Valid) {links : b.Chn → UInt16}
    (hl : ∀ i, links i < linkUnknown.toUInt16) : Valid { c with linkUnlink := links } := by
  refine valid_of_entryOk fun i => ?_
  have hi := h.entryOk i
  exact { hi with linkUnlink := hl i }

/-- What is valid stays so with the default group of a channel enabled or disabled. -/
theorem Valid.updateGroup {c : SwConfig b} (h : c.Valid) (id : b.Chn) {en : UInt8}
    (hen : en ≤ 1) :
    Valid { c with enGroupDefault := Function.update c.enGroupDefault id en } := by
  have hne : en ≠ maxU8 := by
    rintro rfl
    exact absurd hen (by decide)
  have hgroup : ∀ i, Function.update c.enGroupDefault id en i ≠ maxU8 :=
    (Function.forall_update_iff _ fun _ x => x ≠ maxU8).mpr
      ⟨hne, fun i _ => (h.entryOk i).enGroupDefault⟩
  refine valid_of_entryOk fun i => ?_
  have hi := h.entryOk i
  exact { hi with enGroupDefault := hgroup i }

end SwConfig

namespace SwCfg

/-! ## The settings -/

theorem toUInt16_lt {x y : UInt8} (h : x < y) : x.toUInt16 < y.toUInt16 := by
  rw [UInt8.lt_iff_toNat_lt] at h
  rwa [UInt16.lt_iff_toNat_lt, UInt8.toNat_toUInt16, UInt8.toNat_toUInt16]

/-- The loop over a link list changes links only, to valid ones, and finds a valid entry
wherever it changes one. -/
theorem linkItem_kept {c : SwConfig b} (hv : c.Valid) (par : Nat → UInt8) (is : List Nat) :
    let r := runFrom (linkItem par) (c, false, (0 : BitVec 16)) is
    (∃ links, r.1 = { c with linkUnlink := links } ∧ ∀ i, links i < linkUnknown.toUInt16) ∧
      (r.2.1 = false → r.1 = c) := by
  refine invariant_runFrom (I := fun r : SwConfig b × Bool × BitVec 16 =>
    (∃ links, r.1 = { c with linkUnlink := links } ∧ ∀ i, links i < linkUnknown.toUInt16) ∧
      (r.2.1 = false → r.1 = c)) ?_ ⟨⟨c.linkUnlink, rfl, fun i => (hv.entryOk i).linkUnlink⟩,
      fun _ => rfl⟩ is
  rintro ⟨c', valid, mask⟩ i ⟨⟨links, rfl, hlinks⟩, hkept⟩
  rw [linkItem]
  dsimp only
  split
  · exact ⟨⟨links, rfl, hlinks⟩, hkept⟩
  · next id _ =>
    split
    · next hlt =>
      refine ⟨⟨_, rfl, ?_⟩, fun h => Bool.noConfusion h⟩
      exact (Function.forall_update_iff _ fun _ x => x < linkUnknown.toUInt16).mpr
        ⟨toUInt16_lt hlt, fun i _ => hlinks i⟩
    · exact ⟨⟨links, rfl, hlinks⟩, hkept⟩

section Settings

variable {s : SwCfg b} (hv : s.st.Valid)
include hv

theorem settles_linkUnlinkV2Opt (m : b.Btn) (par : Nat → UInt8) (parLen : Nat) :
    s.Settles (s.linkUnlinkV2Opt m par parLen) := by
  obtain ⟨⟨links, hc, hlinks⟩, hkept⟩ := linkItem_kept hv par (List.range parLen)
  rw [SwCfg.linkUnlinkV2Opt]
  generalize runFrom (linkItem par) (s.st, false, (0 : BitVec 16)) (List.range parLen) = r at *
  obtain ⟨c, valid, mask⟩ := r
  dsimp only at hc hkept ⊢
  subst hc
  split
  · exact ⟨hv.updateLinks hlinks, rfl, .inr rfl⟩
  · next hvalid => exact settles_of_eq hv (hkept (Bool.not_eq_true _ ▸ hvalid)) rfl

theorem settles_enOnOffGroupDefaultOpt (idx : b.Chn) (par : Nat → UInt8) :
    s.Settles (s.enOnOffGroupDefaultOpt idx par) := by
  rw [SwCfg.enOnOffGroupDefaultOpt]
  split
  · next hen =>
    dsimp only
    split
    · exact settles_of_eq hv rfl rfl
    · exact ⟨hv.updateGroup idx hen, rfl, .inr rfl⟩
  · exact settles_of_eq hv rfl rfl

theorem settles_onPowerUpStateOpt (par : Nat → UInt8) (parLen : Nat) :
    s.Settles (s.onPowerUpStateOpt par parLen) := by
  rw [SwCfg.onPowerUpStateOpt]
  split
  · exact settles_of_eq hv rfl rfl
  · next id _ =>
    dsimp only
    split
    · next hlt => exact ⟨valid_storePowerOnState hv id hlt, rfl, .inr rfl⟩
    · exact settles_of_eq hv rfl rfl

theorem settles_switchModeOpt (par : Nat → UInt8) (parLen : Nat) :
    s.Settles (s.switchModeOpt par parLen).1 := by
  rcases s.switchModeOpt_cases par parLen with
    ⟨hst, hlog, -⟩ | ⟨id, ext, -, -, hst, -, hlog, -⟩
  · exact settles_of_eq hv hst hlog
  · exact ⟨valid_switchModeOpt hv par parLen, by rw [hst], .inr hlog⟩

/-- The link message of the first kind leaves a valid structure too, and stores nothing. -/
theorem valid_linkUnlinkOpt (idx : b.Chn) (par : Nat → UInt8) :
    (s.linkUnlinkOpt idx par).st.Valid := by
  rw [linkUnlinkOpt]
  split
  · next hlt =>
    exact hv.updateLinks ((Function.forall_update_iff _ fun _ x => x < linkUnknown.toUInt16).mpr
      ⟨toUInt16_lt hlt, fun i _ => (hv.entryOk i).linkUnlink⟩)
  · exact hv

end Settings

/-! ## Runs -/

end SwCfg

/-- A message to the configuration, or a power cut and the boot behind it. -/
inductive CfgEvent (b : Board) where
  /-- `sw_cfg_handle_set_message` -/
  | setMessage (m : b.Btn) (par : Nat → UInt8) (parLen : Nat) (cmd : UInt8)
  /-- `user_cmd_sig_g_on_powerup_set` -/
  | onPowerUpSet (m : b.Btn) (par : Nat → UInt8)
  | reboot

namespace SwCfg

def step (s : SwCfg b) : CfgEvent b → SwCfg b
  | .setMessage m par parLen cmd =>
    match s.swCfgHandleSetMessage m par parLen cmd with
    | none => s
    | some (s', _) => s'
  | .onPowerUpSet m par => (s.userCmdSigGOnPowerupSet m par).getD s
  | .reboot => s.swConfigInit

/-- A power cut restores the structure, and the structure is in range: the modes, links and
power-on states are known, and the inputs that are mapped are mapped to different relays. -/
def Survives (s : SwCfg b) : Prop :=
  s.swConfigInit.st = s.st ∧
    (∀ i, s.st.switchMode i < switchTypeUnknown ∧ s.st.linkUnlink i < linkUnknown.toUInt16 ∧
      s.st.powerOnState i < powerUpUnknown ∧ (s.st.mapInput i).toNat ≤ b.numberRl) ∧
    ∀ i j, s.st.mapInput i = s.st.mapInput j → s.st.mapInput i ≠ 0 → i = j

/-- The condition on a step: a link message of the first kind carries the link that is set. -/
def LinkKept (s : SwCfg b) : CfgEvent b → Prop
  | .setMessage m par _ cmd =>
    cmd = vdConfigSwSetMapUnmapInput → par 0 < linkUnknown → ∀ idx : b.Chn,
      Board.relayIdx m = some idx → s.st.linkUnlink idx = (par 0).toUInt16
  | .onPowerUpSet _ _ | .reboot => True

/-- What holds as long as the condition does: the structure is stored, and its mapping is the
one of a new device. -/
structure Sound (s : SwCfg b) : Prop where
  stored : s.Stored
  mapInput : s.st.mapInput = (SwConfig.default b).mapInput

theorem sound_firstBoot (mem : Mem) : (firstBoot b mem).Sound :=
  ⟨stored_firstBoot mem, by rw [firstBoot_st]⟩

theorem Sound.survives {s : SwCfg b} (h : s.Sound) : s.Survives := by
  have hthree := b.le_three
  have hmap : ∀ i : b.Chn, (s.st.mapInput i).toNat = i.val + 1 := by
    intro i
    rw [h.mapInput]
    show (UInt8.ofNat (i + 1)).toNat = i.val + 1
    rw [UInt8.toNat_ofNat']
    omega
  have hv := h.stored.1
  refine ⟨(swConfigInit_of_stored h.stored).1, fun i => ?_, fun i j hij _ => ?_⟩
  · have hi := hv.entryOk i
    exact ⟨hi.switchMode, hi.linkUnlink, hi.powerOnState, hi.mapInput⟩
  · have heq := congrArg UInt8.toNat hij
    rw [hmap, hmap] at heq
    exact Fin.ext (Nat.succ.inj heq)

/-- The structure behind a boot depends on the log alone. -/
theorem swConfigInit_st (s : SwCfg b) :
    s.swConfigInit.st = (SwConfig.ofBytes b
      ((swConfigLog b).restore ((swConfigLog b).reindex s.log))).checked := by
  rw [swConfigInit, swCheckValidParams]
  split <;> rfl

theorem Sound.congr {s s' : SwCfg b} (h : s.Sound) (hst : s'.st = s.st) (hlog : s'.log = s.log) :
    s'.Sound := ⟨h.stored.congr hst hlog, by rw [hst, h.mapInput]⟩

/-- The link message of the first kind, with its link set already. -/
theorem Sound.linkUnlinkOpt {s : SwCfg b} (h : s.Sound) {idx : b.Chn} {par : Nat → UInt8}
    (hkept : par 0 < linkUnknown → s.st.linkUnlink idx = (par 0).toUInt16) :
    (s.linkUnlinkOpt idx par).Sound := by
  rw [SwCfg.linkUnlinkOpt]
  split
  · next hlt =>
    refine h.congr ?_ rfl
    rw [← hkept hlt, Function.update_eq_self]
    rfl
  · exact h.congr rfl rfl

/-- What a message can do: it is the link message of the first kind, or it settles. -/
theorem setMessage_cases {s : SwCfg b} (hv : s.st.Valid) (m : b.Btn) (par : Nat → UInt8)
    (parLen : Nat) (cmd : UInt8) :
    (∃ idx : b.Chn, cmd = vdConfigSwSetMapUnmapInput ∧ Board.relayIdx m = some idx ∧
      s.step (.setMessage m par parLen cmd) = s.linkUnlinkOpt idx par) ∨
    s.Settles (s.step (.setMessage m par parLen cmd)) := by
  rw [step, swCfgHandleSetMessage]
  cases hidx : (Board.relayIdx m : Option b.Chn) with
  | none => exact .inr (settles_of_eq hv rfl rfl)
  | some idx =>
    dsimp only
    by_cases h1 : cmd = vdConfigSwSetMapUnmapInput
    · rw [if_pos h1]
      exact .inl ⟨idx, h1, rfl, rfl⟩
    · rw [if_neg h1]
      right
      by_cases h2 : cmd = vdConfigSwitchModeOpt
      · rw [if_pos h2]
        exact settles_switchModeOpt hv par parLen
      · rw [if_neg h2]
        by_cases h3 : cmd = vdConfigOnPowerUpState
        · rw [if_pos h3]
          exact settles_onPowerUpStateOpt hv par parLen
        · rw [if_neg h3]
          by_cases h4 : cmd = vdLinkUnlinkV2Opt
          · rw [if_pos h4]
            exact settles_linkUnlinkV2Opt hv m par parLen
          · rw [if_neg h4]
            by_cases h5 : cmd = vdEnOnOffGroupDefault
            · rw [if_pos h5]
              exact settles_enOnOffGroupDefaultOpt hv idx par
            · rw [if_neg h5]
              exact settles_of_eq hv rfl rfl

theorem settles_onPowerUpSet {s : SwCfg b} (hv : s.st.Valid) (m : b.Btn) (par : Nat → UInt8) :
    s.Settles (s.step (.onPowerUpSet m par)) := by
  rw [step, userCmdSigGOnPowerupSet]
  cases hidx : (Board.relayIdx m : Option b.Chn) with
  | none => exact settles_of_eq hv rfl rfl
  | some idx =>
    dsimp only [Option.getD_some]
    split
    · next hlt => exact ⟨valid_storePowerOnState hv idx hlt, rfl, .inr rfl⟩
    · exact settles_of_eq hv rfl rfl

/-- Every message and every boot leaves a valid structure. -/
theorem valid_step {s : SwCfg b} (hv : s.st.Valid) (ev : CfgEvent b) : (s.step ev).st.Valid := by
  cases ev with
  | setMessage m par parLen cmd =>
    obtain ⟨idx, -, -, hstep⟩ | hs := setMessage_cases hv m par parLen cmd
    · rw [hstep]
      exact valid_linkUnlinkOpt hv idx par
    · exact hs.valid
  | onPowerUpSet m par => exact (settles_onPowerUpSet hv m par).valid
  | reboot =>
    rw [step, swConfigInit_st]
    exact SwConfig.valid_checked _

theorem Sound.settles {s s' : SwCfg b} (h : s.Sound) (hs : s.Settles s') : s'.Sound :=
  ⟨h.stored.settles hs, hs.mapInput.trans h.mapInput⟩

/-- **Step lemma.** -/
theorem Sound.step {s : SwCfg b} (h : s.Sound) (ev : CfgEvent b) (hok : s.LinkKept ev) :
    (s.step ev).Sound := by
  cases ev with
  | setMessage m par parLen cmd =>
    obtain ⟨idx, hcmd, hidx, hstep⟩ | hs := setMessage_cases h.stored.1 m par parLen cmd
    · rw [hstep]
      exact h.linkUnlinkOpt fun hlt => hok hcmd hlt idx hidx
    · exact h.settles hs
  | onPowerUpSet m par => exact h.settles (settles_onPowerUpSet h.stored.1 m par)
  | reboot =>
    obtain ⟨hst, hstored⟩ := swConfigInit_of_stored h.stored
    exact ⟨hstored, by rw [SwCfg.step, hst, h.mapInput]⟩

/-- A link message of the first kind that changes a link does not survive a power cut. -/
theorem Sound.linkKept {s : SwCfg b} (h : s.Sound) (ev : CfgEvent b)
    (hsurvives : (s.step ev).Survives) : s.LinkKept ev := by
  cases ev with
  | onPowerUpSet m par => trivial
  | reboot => trivial
  | setMessage m par parLen cmd =>
    intro hcmd hlt idx hidx
    have hstep : s.step (.setMessage m par parLen cmd) = s.linkUnlinkOpt idx par := by
      rw [SwCfg.step, swCfgHandleSetMessage, hidx]
      dsimp only
      rw [if_pos hcmd]
    have hopt : (s.linkUnlinkOpt idx par).st =
        { s.st with linkUnlink := Function.update s.st.linkUnlink idx (par 0).toUInt16 } ∧
          (s.linkUnlinkOpt idx par).log = s.log := by
      rw [SwCfg.linkUnlinkOpt, if_pos hlt]
      exact ⟨rfl, rfl⟩
    have hboot := hsurvives.1
    rw [hstep, swConfigInit_st, hopt.2, ← swConfigInit_st,
      (swConfigInit_of_stored h.stored).1, hopt.1] at hboot
    have hlink := congrFun (congrArg SwConfig.linkUnlink hboot) idx
    rw [hlink]
    exact Function.update_self ..

/-- **Every run**: from a new device on, the configuration survives a power cut at any point
if and only if no link message of the first kind changes a link. -/
theorem settingsSurvive_iff (mem : Mem) (evs : List (CfgEvent b)) :
    AllStates step Survives (firstBoot b mem) evs ↔
      AllSteps step LinkKept (firstBoot b mem) evs :=
  AllStates.iff_allSteps_of_breaks (fun _ h => h.survives) (fun _ ev h => h.step ev)
    (fun _ ev h => h.linkKept ev) (sound_firstBoot mem)

/-- The link of the first relay of a two-relay switch is disabled with the first message. -/
theorem not_survives_linkUnlink :
    ¬ AllStates step Survives (firstBoot board2 fun _ => erasedByte)
      [.setMessage (Board.relayEle board2.chn0) (fun _ => 0) 1 vdConfigSwSetMapUnmapInput] := by
  intro h
  have hkept := (sound_firstBoot _).linkKept _ h.2.head rfl (by decide) board2.chn0
    (Board.relayIdx_relayEle _)
  rw [firstBoot_st] at hkept
  exact absurd hkept (by decide)

end SwCfg

end LumesSwitch
