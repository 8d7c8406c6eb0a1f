import LumesSwitch.Config.ButtonIds

/-!
# A switch mode and the other relays

A switch-mode message names one relay by its button id. Its short form resets the toggle type
of a relay too, and takes the index of that relay from the button id without the offset of the
relay elements.

- `SwCfg.SettingOk` — a setting changes the relay it names only, and the short form resets it;
- `SwCfg.setExtended_short` — what the short form does;
- `SwCfg.settingOk_iff` — which messages keep to their relay.
-/

namespace LumesSwitch

open Bufs Nor Runs Words

variable {b : Board}

namespace SwConfig

/-- The entries for relay `i` are the same. -/
structure SameEntries (c c' : SwConfig b) (i : b.Chn) : Prop where
  switchMode : c'.switchMode i = c.switchMode i
  extendedParamSt : c'.extendedParamSt i = c.extendedParamSt i
  linkUnlink : c'.linkUnlink i = c.linkUnlink i
  powerOnState : c'.powerOnState i = c.powerOnState i
  mapInput : c'.mapInput i = c.mapInput i
  enGroupDefault : c'.enGroupDefault i = c.enGroupDefault i

theorem SameEntries.refl (c : SwConfig b) (i : b.Chn) : SameEntries c c i :=
  ⟨rfl, rfl, rfl, rfl, rfl, rfl⟩

end SwConfig

namespace SwCfg

open SwConfig

/-- The relay that the button id of a message names. -/
def namedRelay (b : Board) (par : Nat → UInt8) : Option b.Chn :=
  chnOfByte (par 0 - 1 - UInt8.ofNat Board.eleRelayOffset)

/-- A short message that sets the mode TOGGLE of relay `i`. -/
def ShortToggle (par : Nat → UInt8) (parLen : Nat) (i : b.Chn) : Prop :=
  namedRelay b par = some i ∧ parLen = 2 ∧ par 1 = toggleSwitchType

/-- What a switch-mode message may make of the structure `c`. -/
structure SettingOk (c c' : SwConfig b) (par : Nat → UInt8) (parLen : Nat) : Prop where
  others : ∀ i, namedRelay b par ≠ some i → SameEntries c c' i
  short : ∀ i, ShortToggle par parLen i → (c'.extendedParamSt i).toggleType = toggleDefault

/-- A short message with the mode TOGGLE finds the toggle type of its relay reset, and that of
the relay two above, if there is one. -/
def ShortFormOk (c : SwConfig b) (par : Nat → UInt8) (parLen : Nat) : Prop :=
  ∀ i, ShortToggle par parLen i → (c.extendedParamSt i).toggleType = toggleDefault ∧
    ∀ j : b.Chn, j.val = i.val + 2 → (c.extendedParamSt j).toggleType = toggleDefault

/-! ## The forms of a message -/

section Forms

variable {c : SwConfig b} {par : Nat → UInt8} {parLen : Nat} {id : b.Chn}

theorem switchModeId_eq_some : switchModeId par parLen = some id ↔
    (parLen = 2 ∨ parLen = 5) ∧ namedRelay b par = some id := by
  rw [switchModeId, namedRelay]
  split
  · next hlen => rw [and_iff_right hlen]
  · next hlen => exact iff_of_false (Option.some_ne_none id).symm fun h => hlen h.1

/-- The index that the short form takes is that of the relay two above. -/
theorem chnOfByte_short (hid : namedRelay b par = some id) (j : b.Chn) :
    chnOfByte (par 0 - 1) = some j ↔ j.val = id.val + 2 := by
  have hthree := b.le_three
  have hlt := id.isLt
  have hj := j.isLt
  have hval : (par 0 - 1).toNat = id.val + 2 := by
    rw [toNat_sub_one, eq_btnId hid, btnId_toNat]
    omega
  constructor
  · intro h
    exact (toNat_of_chnOfByte h).symm.trans hval
  · intro h
    exact chnOfByte_eq (hval.trans h.symm)

/-- A setting of the named relay leaves the others alone. -/
theorem sameEntries_update {modes : b.Chn → UInt8} {ext : b.Chn → ExtendedParam} {i : b.Chn}
    (hmode : modes i = c.switchMode i) (hext : ext i = c.extendedParamSt i) :
    SameEntries c { c with switchMode := modes, extendedParamSt := ext } i :=
  ⟨hmode, hext, rfl, rfl, rfl, rfl⟩

/-- The long form sets the toggle parameters of its relay, or none. -/
theorem setExtended_long (c : SwConfig b) (id : b.Chn) (par : Nat → UInt8) :
    ∃ p, setExtended c id par 5 =
      { c with extendedParamSt := Function.update c.extendedParamSt id p } := by
  rw [setExtended, if_pos rfl]
  dsimp only
  split
  · exact ⟨_, rfl⟩
  · exact ⟨c.extendedParamSt id, by rw [Function.update_eq_self]⟩

/-- The short form with the mode TOGGLE resets the toggle type of the relay two above. -/
theorem setExtended_short (hid : namedRelay b par = some id) (hmode : par 1 = toggleSwitchType)
    {j : b.Chn} (hj : j.val = id.val + 2) :
    setExtended c id par 2 = { c with
      extendedParamSt := Function.update c.extendedParamSt j
        { c.extendedParamSt j with toggleType := toggleDefault } } := by
  rw [setExtended, if_neg (by decide), (chnOfByte_short hid j).mpr hj]
  exact if_pos hmode

/-- It changes nothing with another mode, or if there is no such relay. -/
theorem setExtended_short_none (hid : namedRelay b par = some id)
    (h : par 1 = toggleSwitchType → ∀ j : b.Chn, j.val ≠ id.val + 2) :
    setExtended c id par 2 = c := by
  rw [setExtended, if_neg (by decide)]
  split
  · rfl
  · next j hj =>
    refine if_neg fun hmode => ?_
    exact h hmode j ((chnOfByte_short hid j).mp hj)

end Forms

/-! ## The frame -/

section Frame

variable {c : SwConfig b} {par : Nat → UInt8} {parLen : Nat} {id : b.Chn}

/-- A structure that is left as it is keeps to the law where the message is no short one that
sets TOGGLE. -/
theorem settingOk_self (h : ∀ i, ¬ ShortToggle (b := b) par parLen i) :
    SettingOk c c par parLen ∧ ShortFormOk c par parLen :=
  ⟨⟨fun i _ => SameEntries.refl c i, fun i hi => absurd hi (h i)⟩, fun i hi => absurd hi (h i)⟩

/-- The modes are set for the named relay only. -/
theorem modes_other {v : UInt8} (hid : namedRelay b par = some id) {i : b.Chn}
    (hi : namedRelay b par ≠ some i) :
    Function.update c.switchMode id v i = c.switchMode i :=
  Function.update_of_ne (fun heq : i = id => hi (heq ▸ hid)) ..

theorem settingOk_long (hid : namedRelay b par = some id) :
    SettingOk c (modeSet c id par 5) par 5 ∧ ShortFormOk c par 5 := by
  have hshort : ∀ i, ¬ ShortToggle (b := b) par 5 i := fun i h => absurd h.2.1 (by decide)
  rw [modeSet]
  split
  · obtain ⟨p, hp⟩ := setExtended_long
      { c with switchMode := Function.update c.switchMode id (par 1) } id par
    rw [hp]
    refine ⟨⟨fun i hi => ?_, fun i hi => absurd hi (hshort i)⟩, fun i hi => absurd hi (hshort i)⟩
    refine sameEntries_update (modes_other hid hi) ?_
    exact Function.update_of_ne (fun heq : i = id => hi (heq ▸ hid)) ..
  · exact settingOk_self hshort

/-- The structure behind a short message with the mode TOGGLE. -/
theorem modeSet_short (hid : namedRelay b par = some id) (hmode : par 1 = toggleSwitchType)
    {j : b.Chn} (hj : j.val = id.val + 2) :
    modeSet c id par 2 = { c with
      switchMode := Function.update c.switchMode id (par 1)
      extendedParamSt := Function.update c.extendedParamSt j
        { c.extendedParamSt j with toggleType := toggleDefault } } := by
  have hlt : par 1 < switchTypeUnknown := by
    rw [hmode]
    decide
  rw [modeSet, if_pos hlt, setExtended_short hid hmode hj]

/-- The short form with the mode TOGGLE keeps to the law if the two toggle types are reset
already. -/
theorem settingOk_short_iff (hid : namedRelay b par = some id) (hmode : par 1 = toggleSwitchType) :
    SettingOk c (modeSet c id par 2) par 2 ↔ ShortFormOk c par 2 := by
  have hlt : par 1 < switchTypeUnknown := by
    rw [hmode]
    decide
  have hself : ShortToggle par 2 id := ⟨hid, rfl, hmode⟩
  have honly : ∀ i, ShortToggle par 2 i → i = id :=
    fun i hi => Option.some.inj (hi.1.symm.trans hid)
  have hform : ShortFormOk c par 2 ↔ (c.extendedParamSt id).toggleType = toggleDefault ∧
      ∀ j : b.Chn, j.val = id.val + 2 → (c.extendedParamSt j).toggleType = toggleDefault := by
    constructor
    · intro h
      exact h id hself
    · intro h i hi
      rw [honly i hi]
      exact h
  rw [hform]
  by_cases hj : ∃ j : b.Chn, j.val = id.val + 2
  -- the button id of the message is two above the index of the relay that it names, and the
  -- short form takes it for the index
  · obtain ⟨j, hj⟩ := hj
    have hne : id ≠ j := fun heq => by
      have hval := congrArg Fin.val heq
      omega
    rw [modeSet_short hid hmode hj]
    constructor
    · rintro ⟨hothers, hreset⟩
      have hid' := hreset id hself
      dsimp only at hid'
      rw [Function.update_of_ne hne] at hid'
      refine ⟨hid', fun k hk => ?_⟩
      obtain rfl : k = j := Fin.ext (hk.trans hj.symm)
      have hsame := (hothers k fun h => hne (Option.some.inj (hid.symm.trans h))).extendedParamSt
      dsimp only at hsame
      rw [Function.update_self] at hsame
      rw [← hsame]
    · rintro ⟨hreset, habove⟩
      -- a reset that finds the type reset changes nothing
      have hkeep : Function.update c.extendedParamSt j
          { c.extendedParamSt j with toggleType := toggleDefault } = c.extendedParamSt := by
        rw [← habove j hj]
        exact Function.update_eq_self j c.extendedParamSt
      rw [hkeep]
      refine ⟨fun i hi => sameEntries_update (modes_other hid hi) rfl, fun i hi => ?_⟩
      rw [honly i hi]
      exact hreset
  · have hnone : ∀ j : b.Chn, j.val ≠ id.val + 2 := fun j h => hj ⟨j, h⟩
    rw [modeSet, if_pos hlt, setExtended_short_none hid fun _ => hnone]
    constructor
    · intro h
      exact ⟨h.short id hself, fun j h => absurd h (hnone j)⟩
    · rintro ⟨hreset, -⟩
      refine ⟨fun i hi => sameEntries_update (modes_other hid hi) rfl, fun i hi => ?_⟩
      rw [honly i hi]
      exact hreset

theorem settingOk_modeSet_iff (hid : switchModeId par parLen = some id) :
    SettingOk c (modeSet c id par parLen) par parLen ↔ ShortFormOk c par parLen := by
  obtain ⟨rfl | rfl, hnamed⟩ := switchModeId_eq_some.mp hid
  · by_cases hmode : par 1 = toggleSwitchType
    · exact settingOk_short_iff hnamed hmode
    · have hshort : ∀ i, ¬ ShortToggle (b := b) par 2 i := fun i h => hmode h.2.2
      refine iff_of_true ⟨fun i hi => ?_, fun i hi => absurd hi (hshort i)⟩
        fun i hi => absurd hi (hshort i)
      rw [modeSet]
      split
      · rw [setExtended_short_none hnamed fun h => absurd h hmode]
        exact sameEntries_update (modes_other hnamed hi) rfl
      · exact SameEntries.refl c i
  · obtain ⟨hset, hform⟩ := settingOk_long (c := c) hnamed
    exact iff_of_true hset hform

end Frame

theorem settingOk_switchModeOpt_iff (s : SwCfg b) (par : Nat → UInt8) (parLen : Nat) :
    SettingOk s.st (s.switchModeOpt par parLen).1.st par parLen ↔
      ShortFormOk s.st par parLen := by
  cases hid : (switchModeId par parLen : Option b.Chn) with
  | none =>
    have hshort : ∀ i, ¬ ShortToggle (b := b) par parLen i := by
      rintro i ⟨hnamed, hlen, -⟩
      rw [switchModeId_eq_some.mpr ⟨.inl hlen, hnamed⟩] at hid
      cases hid
    rw [switchModeOpt_none s hid]
    obtain ⟨hself, hform⟩ := settingOk_self (c := s.st) hshort
    exact iff_of_true hself hform
  | some id =>
    rw [(switchModeOpt_some s hid).1]
    exact settingOk_modeSet_iff hid

/-- A switch-mode message that arrives for a relay. -/
theorem swCfgHandleSetMessage_switchMode (s : SwCfg b) {m : b.Btn} (par : Nat → UInt8)
    (parLen : Nat) {idx : b.Chn} (hidx : Board.relayIdx m = some idx) :
    s.swCfgHandleSetMessage m par parLen vdConfigSwitchModeOpt =
      some (s.switchModeOpt par parLen) := by
  rw [swCfgHandleSetMessage, hidx]
  rfl

/-- **Only the relay that is named**: a switch-mode message that arrives for a relay changes
the entries of the relay it names only, and its short form resets the toggle type there, if and
only if it is not a short one that sets TOGGLE or finds the toggle types reset. -/
theorem settingOk_iff (s : SwCfg b) (m : b.Btn) (par : Nat → UInt8) (parLen : Nat) :
    (∀ s' told, s.swCfgHandleSetMessage m par parLen vdConfigSwitchModeOpt = some (s', told) →
        SettingOk s.st s'.st par parLen) ↔
      ((Board.relayIdx m : Option b.Chn) ≠ none → ShortFormOk s.st par parLen) := by
  cases hidx : (Board.relayIdx m : Option b.Chn) with
  | none =>
    refine iff_of_true (fun s' told h => ?_) fun h => absurd rfl h
    rw [swCfgHandleSetMessage, hidx] at h
    cases h
  | some idx =>
    rw [s.swCfgHandleSetMessage_switchMode par parLen hidx,
      forall_prop_of_true (Option.some_ne_none idx), ← s.settingOk_switchModeOpt_iff par parLen]
    constructor
    · intro h
      exact h _ _ rfl
    · intro h s' told heq
      have hs' : (s.switchModeOpt par parLen).1 = s' := congrArg Prod.fst (Option.some.inj heq)
      exact hs' ▸ h

/-- The short message that sets the mode TOGGLE under the button id 3. -/
def shortToggleThree (i : Nat) : UInt8 := [(3 : UInt8), toggleSwitchType].getD i 0

/-- On a new device with three relays it leaves the toggle type of the first, which it names,
as it was: it resets that of the third. -/
theorem not_settingOk_shortToggleThree :
    ∃ s' told, (firstBoot board3 fun _ => erasedByte).swCfgHandleSetMessage ⟨2, by decide⟩
        shortToggleThree 2 vdConfigSwitchModeOpt = some (s', told) ∧
      ¬ SettingOk (firstBoot board3 fun _ => erasedByte).st s'.st shortToggleThree 2 := by
  have hidx : Board.relayIdx (b := board3) ⟨2, by decide⟩ = some ⟨0, by decide⟩ := rfl
  refine ⟨_, _, swCfgHandleSetMessage_switchMode _ shortToggleThree 2 hidx, fun h => ?_⟩
  have hshort : ShortToggle (b := board3) shortToggleThree 2 ⟨0, by decide⟩ := ⟨rfl, rfl, rfl⟩
  have hform := (settingOk_switchModeOpt_iff _ shortToggleThree 2).mp h _ hshort
  rw [firstBoot_st] at hform
  exact absurd hform.1 (by decide)

end SwCfg

end LumesSwitch
