import LumesSwitch.Relay.Env

/-!
# The delayed store of the relay state

A command for another state than the target sets up a store three seconds from then. The
pass that stores has mapped every channel first, so the word it stores is what the relays
were set to.

- `Device.StoreInv` — flags that differ have a store pending, in every state of the driver;
- `Device.Agrees` — with no store pending, the flash has the target of every relay that
  restores it;
- `Device.agrees_proc` — a pass keeps that;
- `Device.agrees_withSettings` — a setting keeps it if and only if the relays that come to
  restore their state have it in flash, or a store pending.
-/

namespace LumesSwitch

open Flags Runs

/-- Only flags of channels there can be are set. -/
def Masked (w : BitVec 16) : Prop := ∀ j, isOn w j = true → isOn backupMaskRl j = true

theorem masked_and (w : BitVec 16) : Masked (w &&& backupMaskRl) := by
  intro j hj
  rw [isOn_and, Bool.and_eq_true] at hj
  exact hj.2

theorem Masked.put {b : Board} {w : BitVec 16} (h : Masked w) (c : b.Chn) (v : Bool) :
    Masked (Flags.put w c v) := by
  intro j hj
  rw [isOn_put w (chn_lt c)] at hj
  split at hj
  · next hjc =>
    rw [hjc]
    exact isOn_backupMaskRl c
  · exact h j hj

theorem Masked.and_eq {w : BitVec 16} (h : Masked w) : w &&& backupMaskRl = w := by
  refine BitVec.eq_of_getLsbD_eq fun j _ => ?_
  show isOn (w &&& backupMaskRl) j = isOn w j
  rw [isOn_and]
  cases hj : isOn w j with
  | false => rfl
  | true => exact h j hj

/-- A word of the board's flags can be told from erased flash. -/
theorem Masked.ne_erased {w : BitVec 16} (h : Masked w) : w ≠ 0xFFFF#16 := by
  rintro rfl
  exact absurd (h 3 (by decide)) (by decide)

theorem ofLe16_le16 (w : BitVec 16) : ofLe16 (le16 w) = w := by
  have hw : w.toNat < 2 ^ 16 := w.isLt
  apply BitVec.eq_of_toNat_eq
  simp only [ofLe16, le16, List.getD_cons_zero, List.getD_cons_succ, UInt8.toNat_ofNat',
    BitVec.toNat_ofNat]
  omega

theorem Masked.le16_not_blank {w : BitVec 16} (h : Masked w) : ¬ Nor.Blank (le16 w) := by
  intro hblank
  have heq : le16 w = [0xFF, 0xFF] :=
    List.cons_eq_cons.mpr ⟨hblank _ List.mem_cons_self, List.cons_eq_cons.mpr
      ⟨hblank _ (List.mem_cons_of_mem _ List.mem_cons_self), rfl⟩⟩
  refine h.ne_erased ?_
  rw [← ofLe16_le16 w, heq]
  decide

/-- The word as a block of its log. -/
def stateBlock (w : BitVec 16) (h : Masked w) : relayStateLog.Block :=
  ⟨le16 w, rfl, h.le16_not_blank⟩

namespace Device

variable {b : Board} {ε : Type} (s : Device b ε)

/-! ## What the driver leaves alone -/

/-- The two words of flags, the delayed store, and the log. -/
def storing : BitVec 16 × BitVec 16 × StoreRelayStDelay × LogState :=
  (s.relay.rlsSet, s.relay.rlsTarget, s.relay.storeDelay, s.relay.stateLog)

/-- The settings, and the clock. -/
def settings : (b.Chn → SwitchMode) × (b.Chn → PowerOnState) × UInt32 :=
  (s.sh.switchMode, s.sh.powerOnState, s.sh.timeMs)

theorem SharedKept.settings {s s' : Device b ε} (h : SharedKept s s') :
    s'.settings = s.settings := by
  obtain ⟨nwk, hs⟩ := h
  rw [Device.settings, hs]
  rfl

theorem settings_of_outside {s s' : Device b ε} (h : s'.outside = s.outside) :
    s'.settings = s.settings := by
  have hsh : s'.sh = s.sh := congrArg Prod.fst h
  rw [Device.settings, hsh]
  rfl

theorem storing_onTimeProc (rand : Nat → Nat) : (s.onTimeProc rand).storing = s.storing :=
  congrArg (fun p => (p.1.rlsSet, p.1.rlsTarget, p.1.storeDelay, p.1.stateLog))
    (s.besideOnTime_onTimeProc rand)

theorem storing_of_beside {s s' : Device b ε} (h : s'.besideDrive = s.besideDrive) :
    s'.storing = s.storing :=
  congrArg (fun p => p.2.1) h

theorem storing_procIdle : s.procIdle.storing = s.storing :=
  storing_of_beside s.besideDrive_procIdle

theorem storing_procBusy : s.procBusy.storing = s.storing :=
  storing_of_beside s.besideDrive_procBusy

theorem storing_checkBusyTimeout : s.checkBusyTimeout.storing = s.storing :=
  storing_of_beside s.besideDrive_checkBusyTimeout

theorem storing_handleZeroSync : s.handleZeroSync.storing = s.storing :=
  storing_of_beside s.besideDrive_handleZeroSync

theorem storing_handleControlWhenTimerMatch :
    s.handleControlWhenTimerMatch.storing = s.storing :=
  storing_of_beside s.besideDrive_handleControlWhenTimerMatch

/-! ## Commands -/

/-- A store has been set up now. -/
def Fresh : Prop := s.relay.storeDelay = ⟨true, s.sh.timeMs, 3000⟩

/-- From `s` to `s'` the driver has accepted commands that store. -/
structure Commanded (s s' : Device b ε) : Prop where
  target : s'.relay.rlsTarget = s.relay.rlsTarget
  stateLog : s'.relay.stateLog = s.relay.stateLog
  settings : s'.settings = s.settings
  delay : s'.relay.storeDelay = s.relay.storeDelay ∨ s'.Fresh
  set : ∀ c : b.Chn, isOn s'.relay.rlsSet c = isOn s.relay.rlsSet c ∨
    isOn s'.relay.rlsSet c = isOn s.relay.rlsTarget c ∨ s'.Fresh
  rest : Masked s.relay.rlsTarget → ∀ j, b.numberRl ≤ j →
    isOn s.relay.rlsSet j = isOn s.relay.rlsTarget j →
    isOn s'.relay.rlsSet j = isOn s.relay.rlsTarget j

variable {s} {s' s'' : Device b ε}

theorem timeMs_of_settings (h : s'.settings = s.settings) : s'.sh.timeMs = s.sh.timeMs :=
  congrArg (fun p => p.2.2) h

theorem Fresh.congr (h : s.Fresh) (hdelay : s'.relay.storeDelay = s.relay.storeDelay)
    (hset : s'.settings = s.settings) : s'.Fresh := by
  rw [Fresh, hdelay, timeMs_of_settings hset]
  exact h

namespace Commanded

theorem of_storing (h : s'.storing = s.storing) (hset : s'.settings = s.settings) :
    Commanded s s' := by
  have hs : s'.relay.rlsSet = s.relay.rlsSet := congrArg Prod.fst h
  refine ⟨congrArg (fun p => p.2.1) h, congrArg (fun p => p.2.2.2) h, hset,
    .inl (congrArg (fun p => p.2.2.1) h), fun c => .inl (by rw [hs]), fun _ j _ hj => ?_⟩
  rw [hs]
  exact hj

theorem refl (s : Device b ε) : Commanded s s := of_storing rfl rfl

theorem trans (h : Commanded s s') (h' : Commanded s' s'') : Commanded s s'' := by
  have hfresh : s'.Fresh → s''.Fresh := fun hf =>
    h'.delay.elim (fun hd => hf.congr hd h'.settings) id
  refine ⟨h'.target.trans h.target, h'.stateLog.trans h.stateLog, h'.settings.trans h.settings,
    ?_, fun c => ?_, fun hm j hn hj => ?_⟩
  · rcases h'.delay with hd | hf
    · rcases h.delay with hd' | hf
      · exact .inl (hd.trans hd')
      · exact .inr (hfresh hf)
    · exact .inr hf
  · rcases h'.set c with hc | hc | hf
    · rcases h.set c with hc' | hc' | hf
      · exact .inl (hc.trans hc')
      · exact .inr (.inl (hc.trans hc'))
      · exact .inr (.inr (hfresh hf))
    · rw [h.target] at hc
      exact .inr (.inl hc)
    · exact .inr (.inr hf)
  · have hrest := h'.rest
    rw [h.target] at hrest
    exact hrest hm j hn (h.rest hm j hn hj)

end Commanded

theorem commanded_record (s : Device b ε) (idx : Nat) (cmd : RelayCmd) :
    Commanded s (s.record idx cmd) := by
  refine .of_storing ?_ (s.shared_record idx cmd).settings
  rw [record]
  split <;> rfl

/-- A command that stores sets up the store if it is for another state than the target. -/
theorem storing_writeSet (s : Device b ε) (c : b.Chn) (st : UInt8) (src : SrcControl)
    (store : Bool) : (s.writeSet c st src store).storing =
      (Flags.put s.relay.rlsSet c (decide (st = gOn)) &&& backupMaskRl, s.relay.rlsTarget,
        if st ≠ bit s.relay.rlsTarget c ∧ store = true then ⟨true, s.sh.timeMs, 3000⟩
        else s.relay.storeDelay, s.relay.stateLog) := by
  have hparams : ∀ (p : Prop) [Decidable p] (s1 : Device b ε) idx src dst op,
      (if p then s1.updateControlMessageParams idx src dst op else s1).storing = s1.storing := by
    intro p _ s1 idx src dst op
    split
    · rw [updateControlMessageParams]
      split <;> rfl
    · rfl
  have hsetup : ∀ (p : Prop) [Decidable p] (s1 : Device b ε),
      (if p then s1.setupStoreStateDelay else s1).storing =
        (s1.relay.rlsSet, s1.relay.rlsTarget,
          if p then ⟨true, s1.sh.timeMs, 3000⟩ else s1.relay.storeDelay, s1.relay.stateLog) := by
    intro p _ s1
    split <;> rfl
  rw [writeSet, dif_pos c.isLt]
  dsimp only
  exact (hparams _ _ ..).trans (hsetup _ _)

theorem commanded_writeSet (s : Device b ε) (idx : Nat) (st : UInt8) (src : SrcControl) :
    Commanded s (s.writeSet idx st src true) := by
  by_cases hidx : idx < b.numberRl
  · have hset : (s.writeSet idx st src true).core.set =
        Function.update s.core.set ⟨idx, hidx⟩ (decide (st = gOn)) :=
      congrArg RelayCore.set (s.core_writeSet ⟨idx, hidx⟩ st src true)
    have hshared := (s.shared_writeSet idx st src true).settings
    have hstoring := s.storing_writeSet ⟨idx, hidx⟩ st src true
    have htarget : (s.writeSet idx st src true).relay.rlsTarget = s.relay.rlsTarget :=
      congrArg (fun p => p.2.1) hstoring
    have hdelay := congrArg (fun p => p.2.2.1) hstoring
    have hfresh : st ≠ bit s.relay.rlsTarget idx → (s.writeSet idx st src true).Fresh := by
      intro hst
      rw [Fresh, timeMs_of_settings hshared]
      exact hdelay.trans (if_pos ⟨hst, rfl⟩)
    refine ⟨htarget, congrArg (fun p => p.2.2.2) hstoring, hshared, ?_, fun c => ?_,
      fun hm j hn hj => ?_⟩
    · by_cases hst : st ≠ bit s.relay.rlsTarget idx
      · exact .inr (hfresh hst)
      · exact .inl (hdelay.trans (if_neg fun h => hst h.1))
    · have hc : isOn (s.writeSet idx st src true).relay.rlsSet c =
          Function.update s.core.set ⟨idx, hidx⟩ (decide (st = gOn)) c := congrFun hset c
      by_cases hci : c = ⟨idx, hidx⟩
      · subst hci
        rw [Function.update_self] at hc
        by_cases hst : st = bit s.relay.rlsTarget idx
        · refine .inr (.inl (hc.trans ?_))
          rw [hst, bit]
          cases isOn s.relay.rlsTarget idx <;> rfl
        · exact .inr (.inr (hfresh hst))
      · rw [Function.update_of_ne hci] at hc
        exact .inl hc
    · have hword : (s.writeSet idx st src true).relay.rlsSet =
          Flags.put s.relay.rlsSet idx (decide (st = gOn)) &&& backupMaskRl :=
        congrArg Prod.fst hstoring
      rw [hword, isOn_and, isOn_put _ (chn_lt ⟨idx, hidx⟩), if_neg (by omega), hj]
      exact (isOn_and _ _ j).symm.trans (by rw [hm.and_eq])
  · rw [writeSet_of_ge s hidx]
    exact .refl s

theorem commanded_setTargetState (s : Device b ε) (idx : Nat) (st : UInt8) (src : SrcControl) :
    Commanded s (s.setTargetState idx st src true) :=
  (s.commanded_record idx _).trans (commanded_writeSet _ idx st src)

theorem commanded_toggleState (s : Device b ε) (idx : Nat) (src : SrcControl) :
    Commanded s (s.toggleState idx src) :=
  (s.commanded_record idx _).trans (commanded_writeSet _ idx _ src)

theorem commanded_netState (s : Device b ε) (idx : Nat) (st : Bool) :
    Commanded s (s.netState idx st) := by
  rw [netState]
  split
  · exact s.commanded_record idx _
  · exact (s.commanded_record idx _).trans (commanded_writeSet _ idx _ _)

theorem commanded_checkAutoOff (s : Device b ε) : Commanded s s.checkAutoOff := by
  refine invariant_runFrom (I := fun s' : Device b ε => Commanded s s') (fun s' c hs' => ?_)
    (.refl s) b.chns
  rw [checkAutoOffChannel]
  split
  · refine hs'.trans (Commanded.trans ?_ (commanded_setTargetState _ c gOff .device))
    exact .of_storing rfl rfl
  · exact hs'

/-! ## The stored word -/

/-- The word a boot would start from. -/
def storedTarget (s : Device b ε) : BitVec 16 :=
  let w := ofLe16 (relayStateLog.restore s.relay.stateLog)
  if w = 0xFFFF#16 then 0 else w

/-- Relay `c` is to have its target state back after a boot. -/
def Restores (s : Device b ε) (c : b.Chn) : Prop :=
  s.sh.switchMode c ≠ .momentary ∧ s.sh.powerOnState c = .restore

instance (s : Device b ε) (c : b.Chn) : Decidable (s.Restores c) :=
  inferInstanceAs (Decidable (_ ∧ _))

/-- A store is pending. -/
def Pending (s : Device b ε) : Prop := s.relay.storeDelay.enable = true

instance (s : Device b ε) : Decidable s.Pending := inferInstanceAs (Decidable (_ = _))

/-- What holds in every state of the driver: flags that differ have a store pending. -/
structure StoreInv (s : Device b ε) : Prop where
  log : ∃ v, LogRel relayStateLog s.relay.stateLog v
  masked : Masked s.relay.rlsTarget
  pending : ∀ c : b.Chn, isOn s.relay.rlsSet c ≠ isOn s.relay.rlsTarget c → s.Pending
  rest : ∀ j, b.numberRl ≤ j → isOn s.relay.rlsSet j = isOn s.relay.rlsTarget j

/-- With no store pending the two words are equal. -/
theorem StoreInv.set_eq (h : s.StoreInv) (hp : ¬ s.Pending) :
    s.relay.rlsSet = s.relay.rlsTarget := by
  refine BitVec.eq_of_getLsbD_eq fun j _ => ?_
  by_cases hj : j < b.numberRl
  · exact Decidable.not_not.mp fun hne => hp (h.pending ⟨j, hj⟩ hne)
  · exact h.rest j (Nat.not_lt.mp hj)

/-- The flash has the target of relay `c`, or will. -/
def Safe (s : Device b ε) (c : b.Chn) : Prop :=
  s.Pending ∨ isOn s.storedTarget c = isOn s.relay.rlsTarget c

instance (s : Device b ε) (c : b.Chn) : Decidable (s.Safe c) := inferInstanceAs (Decidable (_ ∨ _))

/-- With no store pending, the flash has the target of every relay that restores it. -/
def Agrees (s : Device b ε) : Prop := ∀ c, s.Restores c → s.Safe c

theorem Fresh.pending (h : s.Fresh) : s.Pending := congrArg StoreRelayStDelay.enable h

theorem restores_congr (h : s'.settings = s.settings) (c : b.Chn) :
    s'.Restores c ↔ s.Restores c := by
  have hmode : s'.sh.switchMode = s.sh.switchMode := congrArg Prod.fst h
  have hstate : s'.sh.powerOnState = s.sh.powerOnState := congrArg (fun p => p.2.1) h
  rw [Restores, hmode, hstate]
  rfl

theorem storedTarget_congr (h : s'.relay.stateLog = s.relay.stateLog) :
    s'.storedTarget = s.storedTarget := by
  rw [storedTarget, h]
  rfl

namespace Commanded

theorem pending (h : Commanded s s') (hp : s.Pending) : s'.Pending := by
  rcases h.delay with hd | hf
  · rw [Pending, hd]
    exact hp
  · exact hf.pending

theorem storeInv (h : Commanded s s') (hs : s.StoreInv) : s'.StoreInv := by
  refine ⟨by rw [h.stateLog]; exact hs.log, by rw [h.target]; exact hs.masked, fun c hne => ?_,
    fun j hj => ?_⟩
  · rw [h.target] at hne
    rcases h.set c with hc | hc | hf
    · exact h.pending (hs.pending c (hc ▸ hne))
    · exact absurd hc hne
    · exact hf.pending
  · rw [h.target]
    exact h.rest hs.masked j hj (hs.rest j hj)

theorem safe (h : Commanded s s') {c : b.Chn} (hs : s.Safe c) : s'.Safe c := by
  rcases hs with hp | heq
  · exact .inl (h.pending hp)
  · right
    rw [storedTarget_congr h.stateLog, h.target]
    exact heq

theorem agrees (h : Commanded s s') (hs : s.Agrees) : s'.Agrees :=
  fun c hc => h.safe (hs c ((restores_congr h.settings c).mp hc))

end Commanded

/-! ## The store -/

/-- A channel that is mapped has equal flags, unless a store has been set up now. -/
def MappedOrFresh (s : Device b ε) (c : b.Chn) : Prop :=
  isOn s.relay.rlsSet c = isOn s.relay.rlsTarget c ∨ s.Fresh

theorem Commanded.mappedOrFresh (h : Commanded s s') {c : b.Chn} (hs : s.MappedOrFresh c) :
    s'.MappedOrFresh c := by
  rw [MappedOrFresh, h.target]
  rcases hs with heq | hf
  · rcases h.set c with hc | hc | hf
    · exact .inl (hc.trans heq)
    · exact .inl hc
    · exact .inr hf
  · exact .inr (h.delay.elim (fun hd => hf.congr hd h.settings) id)

/-- A store puts the target in the flash. -/
theorem storedTarget_put (s : Device b ε) (h : s.StoreInv) :
    (∃ v, LogRel relayStateLog s.storeTargetState.relay.stateLog v) ∧
      s.storeTargetState.storedTarget = s.relay.rlsTarget := by
  obtain ⟨v, hlog⟩ := h.log
  have hput : LogRel relayStateLog s.storeTargetState.relay.stateLog
      (some (stateBlock s.relay.rlsTarget h.masked)) := hlog.put (stateBlock _ h.masked)
  refine ⟨⟨_, hput⟩, ?_⟩
  rw [storedTarget, hput.restore_eq]
  show (if ofLe16 (le16 s.relay.rlsTarget) = 0xFFFF#16 then 0
    else ofLe16 (le16 s.relay.rlsTarget)) = s.relay.rlsTarget
  rw [ofLe16_le16, if_neg h.masked.ne_erased]

/-- A store that is carried out finds every channel mapped. -/
theorem handleStoreDelay_spec {s : Device b ε} (hinv : s.StoreInv)
    (hmapped : ∀ c, s.MappedOrFresh c) :
    s.handleStoreDelay.StoreInv ∧ s.handleStoreDelay.settings = s.settings ∧
      (s.Agrees → s.handleStoreDelay.Agrees) := by
  rw [handleStoreDelay]
  dsimp only
  split
  · next hdue =>
    rw [Bool.and_eq_true] at hdue
    have hnot : ¬ s.Fresh := by
      intro hf
      have hexceed := hdue.2
      rw [hf, clockTimeExceed, UInt32.sub_self] at hexceed
      exact absurd hexceed (show ¬ decide ((0 : UInt32) > 3000) = true by decide)
    obtain ⟨hlog, hstored⟩ := s.storedTarget_put hinv
    refine ⟨⟨hlog, hinv.masked, fun c hne => ?_, hinv.rest⟩, rfl, fun _ c _ => .inr ?_⟩
    · exact absurd ((hmapped c).resolve_right hnot) hne
    · exact congrArg (fun w => isOn w c) hstored
  · exact ⟨hinv, rfl, id⟩

/-! ## The mapping -/

theorem commanded_maskRls (h : s.StoreInv) : Commanded s s.maskRls :=
  ⟨h.masked.and_eq, rfl, rfl, .inl rfl, fun c =>
    .inl (congrFun (congrArg RelayCore.set s.core_maskRls) c), fun hm j _ hj => by
      show isOn (s.relay.rlsSet &&& backupMaskRl) j = _
      rw [isOn_and, hj, ← isOn_and, hm.and_eq]⟩

section Callback

variable {cb : StateChangeCallback b ε} (hcb : ∀ s c st, Commanded s (cb.run s c st))

include hcb

/-- Mapping a channel leaves alone a device whose flags are equal there; else it sets the
target, and the callback commands. -/
theorem mapChannel_cases (s : Device b ε) (c : b.Chn) :
    (isOn s.relay.rlsSet c = isOn s.relay.rlsTarget c ∧ s.mapChannel cb c = s) ∨
    ∃ s1 : Device b ε, isOn s.relay.rlsSet c ≠ isOn s.relay.rlsTarget c ∧
      s1.storing = (s.relay.rlsSet, Flags.put s.relay.rlsTarget c (isOn s.relay.rlsSet c),
        s.relay.storeDelay, s.relay.stateLog) ∧
      s1.settings = s.settings ∧ Commanded s1 (s.mapChannel cb c) := by
  rw [mapChannel]
  by_cases h : isOn s.relay.rlsSet c ≠ isOn s.relay.rlsTarget c
  · rw [if_pos h]
    dsimp only
    generalize hs1 : emit _ (RelayOut.ledOn c _) = s1
    refine .inr ⟨s1, h, ?_, ?_, ?_⟩
    · rw [← hs1]
      rfl
    · rw [← hs1]
      rfl
    · split
      · exact .refl s1
      · exact hcb s1 c _
  · exact .inl ⟨Decidable.not_not.mp h, if_neg h⟩

/-- **Step lemma** of the mapping. -/
theorem mapChannel_step {s : Device b ε} (hinv : s.StoreInv) (c : b.Chn) :
    (s.mapChannel cb c).StoreInv ∧ (s.mapChannel cb c).settings = s.settings ∧
      (s.mapChannel cb c).MappedOrFresh c ∧
      (∀ c', s.MappedOrFresh c' → (s.mapChannel cb c).MappedOrFresh c') ∧
      (s.Agrees → (s.mapChannel cb c).Agrees) := by
  rcases mapChannel_cases hcb s c with ⟨heq, hsame⟩ | ⟨s1, hne, hst, hset, hcmd⟩
  · rw [hsame]
    exact ⟨hinv, rfl, .inl heq, fun _ h => h, id⟩
  · have hset1 : s1.relay.rlsSet = s.relay.rlsSet := congrArg Prod.fst hst
    have htarget1 : s1.relay.rlsTarget =
        Flags.put s.relay.rlsTarget c (isOn s.relay.rlsSet c) := congrArg (fun p => p.2.1) hst
    have hdelay1 : s1.relay.storeDelay = s.relay.storeDelay := congrArg (fun p => p.2.2.1) hst
    have hlog1 : s1.relay.stateLog = s.relay.stateLog := congrArg (fun p => p.2.2.2) hst
    -- the flags differed, so a store is pending
    have hp : s1.Pending := by
      rw [Pending, hdelay1]
      exact hinv.pending c hne
    have hinv1 : s1.StoreInv := by
      refine ⟨by rw [hlog1]; exact hinv.log, by rw [htarget1]; exact hinv.masked.put c _,
        fun _ _ => hp, fun j hj => ?_⟩
      have hc := c.isLt
      rw [hset1, htarget1, isOn_put _ (chn_lt c), if_neg (by omega)]
      exact hinv.rest j hj
    have hbit : ∀ c' : b.Chn, isOn s1.relay.rlsTarget c' =
        if c' = c then isOn s.relay.rlsSet c else isOn s.relay.rlsTarget c' := by
      intro c'
      rw [htarget1, isOn_put _ (chn_lt c)]
      by_cases hcc : c' = c
      · subst hcc
        rw [if_pos rfl, if_pos rfl]
      · rw [if_neg hcc, if_neg fun hval => hcc (Fin.ext hval)]
    refine ⟨hcmd.storeInv hinv1, hcmd.settings.trans hset, hcmd.mappedOrFresh (.inl ?_),
      fun c' hc' => hcmd.mappedOrFresh ?_, fun _ => hcmd.agrees fun _ _ => .inl hp⟩
    · rw [hset1, hbit, if_pos rfl]
    · rcases hc' with heq | hf
      · left
        rw [hset1, hbit]
        split
        · next hcc => rw [hcc]
        · exact heq
      · exact .inr (hf.congr hdelay1 hset)

/-- **Loop lemma** of the mapping: behind it every channel is mapped, or a store has been
set up now. -/
theorem mapSetAndTargetStatus_spec {s : Device b ε} (hinv : s.StoreInv) :
    (s.mapSetAndTargetStatus cb).StoreInv ∧ (s.mapSetAndTargetStatus cb).settings = s.settings ∧
      (∀ c, (s.mapSetAndTargetStatus cb).MappedOrFresh c) ∧
      (s.Agrees → (s.mapSetAndTargetStatus cb).Agrees) := by
  rw [mapSetAndTargetStatus]
  split
  · have hloop : (runFrom (mapChannel cb) s b.chns).StoreInv ∧
        (runFrom (mapChannel cb) s b.chns).settings = s.settings ∧
        (∀ c : b.Chn, c.val < b.numberRl → (runFrom (mapChannel cb) s b.chns).MappedOrFresh c) ∧
        (s.Agrees → (runFrom (mapChannel cb) s b.chns).Agrees) := by
      refine runFrom_finRange
        (I := fun k (s' : Device b ε) => s'.StoreInv ∧ s'.settings = s.settings ∧
          (∀ c : b.Chn, c.val < k → s'.MappedOrFresh c) ∧ (s.Agrees → s'.Agrees))
        (fun s' k hs' => ?_) ⟨hinv, rfl, fun c hc => absurd hc (Nat.not_lt_zero _), id⟩
      obtain ⟨hinv', hset', hmapped, hagrees⟩ := hs'
      obtain ⟨h1, h2, h3, h4, h5⟩ := mapChannel_step hcb hinv' k
      refine ⟨h1, h2.trans hset', fun c hc => ?_, fun ha => h5 (hagrees ha)⟩
      rcases Nat.lt_succ_iff_lt_or_eq.mp hc with hlt | heq
      · exact h4 c (hmapped c hlt)
      · rw [show c = k from Fin.ext heq]
        exact h3
    obtain ⟨hinv', hset', hmapped, hagrees⟩ := hloop
    have hmask := commanded_maskRls hinv'
    exact ⟨hmask.storeInv hinv', hmask.settings.trans hset',
      fun c => hmask.mappedOrFresh (hmapped c c.isLt), fun ha => hmask.agrees (hagrees ha)⟩
  · next heq =>
    have hw : s.relay.rlsSet = s.relay.rlsTarget := Decidable.not_not.mp heq
    exact ⟨hinv, rfl, fun c => .inl (by rw [hw]), id⟩

/-! ## The pass -/

/-- **Step lemma** of the pass. -/
theorem proc_spec {s : Device b ε} (hinv : s.StoreInv) (rand : Nat → Nat) :
    (s.proc cb rand).StoreInv ∧ (s.proc cb rand).settings = s.settings ∧
      (s.Agrees → (s.proc cb rand).Agrees) := by
  have htime : Commanded s (s.onTimeProc rand) :=
    .of_storing (s.storing_onTimeProc rand) (settings_of_outside (s.outside_onTimeProc rand))
  obtain ⟨hinv1, hset1, hmapped, hagrees1⟩ := mapSetAndTargetStatus_spec hcb (htime.storeInv hinv)
  obtain ⟨hinv2, hset2, hagrees2⟩ := handleStoreDelay_spec hinv1 hmapped
  have hwatch : ∀ s' : Device b ε, Commanded s' s'.checkBusyTimeout := fun s' =>
    .of_storing s'.storing_checkBusyTimeout (settings_of_outside s'.outside_checkBusyTimeout)
  have hend : Commanded ((s.onTimeProc rand).mapSetAndTargetStatus cb).handleStoreDelay
      (s.proc cb rand) := by
    unfold proc
    dsimp only
    generalize ((s.onTimeProc rand).mapSetAndTargetStatus cb).handleStoreDelay = s1
    refine (s1.commanded_checkAutoOff.trans ?_).trans (hwatch _)
    generalize s1.checkAutoOff = s2
    cases s2.relay.relayModuleSt with
    | idle => exact .of_storing s2.storing_procIdle (settings_of_outside s2.outside_procIdle)
    | busy => exact .of_storing s2.storing_procBusy (settings_of_outside s2.outside_procBusy)
  exact ⟨hend.storeInv hinv2, ((hend.settings.trans hset2).trans hset1).trans htime.settings,
    fun ha => hend.agrees (hagrees2 (hagrees1 (htime.agrees ha)))⟩

end Callback

/-! ## Settings -/

/-- New settings keep the agreement if and only if they leave no relay to restore a state
that the flash has not and is not about to have. -/
theorem agrees_withSettings {s s' : Device b ε} (h : s'.storing = s.storing) :
    s'.Agrees ↔ ∀ c, s'.Restores c → s.Safe c := by
  have htarget : s'.relay.rlsTarget = s.relay.rlsTarget := congrArg (fun p => p.2.1) h
  have hdelay : s'.relay.storeDelay = s.relay.storeDelay := congrArg (fun p => p.2.2.1) h
  have hstored : s'.storedTarget = s.storedTarget :=
    storedTarget_congr (congrArg (fun p => p.2.2.2) h)
  have hsafe : ∀ c, s'.Safe c ↔ s.Safe c := fun c => by
    rw [Safe, Pending, hdelay, hstored, htarget]
    rfl
  exact forall_congr' fun c => imp_congr Iff.rfl (hsafe c)

/-! ## Boot -/

end Device

/-- The target of relay `c` after a boot, by its mode and policy. -/
def Shared.bootTarget {b : Board} (sh : Shared b) (c : b.Chn) (restored : Bool) : Bool :=
  match sh.switchMode c with
  | .momentary => false
  | .toggle | .lighting =>
    match sh.powerOnState c with
    | .on => true
    | .off => false
    | .restore => restored

namespace Device

variable {b : Board} {ε : Type}

theorem isOn_applyPowerOnState (sh : Shared b) (w : BitVec 16) (c : b.Chn) :
    isOn (applyPowerOnState sh w c) c = sh.bootTarget c (isOn w c) := by
  rw [applyPowerOnState, Shared.bootTarget]
  cases sh.switchMode c with
  | momentary => simp
  | toggle => cases sh.powerOnState c <;> simp [chn_lt c]
  | lighting => cases sh.powerOnState c <;> simp [chn_lt c]

theorem isOn_applyPowerOnState_of_ne (sh : Shared b) (w : BitVec 16) {c c' : b.Chn}
    (h : c' ≠ c) : isOn (applyPowerOnState sh w c') c = isOn w c := by
  have hval : ¬ c.val = c'.val := fun hx => h (Fin.ext hx.symm)
  rw [applyPowerOnState]
  cases sh.switchMode c' with
  | momentary => simp [hval]
  | toggle => cases sh.powerOnState c' <;> simp [chn_lt c', hval]
  | lighting => cases sh.powerOnState c' <;> simp [chn_lt c', hval]

/-- What a boot makes of the log of the state. -/
theorem boot_spec (rand : Nat → Nat) {stateLog : LogState} (onTimeLog : LogState)
    (sh : Shared b) (env : ε) {v : Option relayStateLog.Block}
    (hlog : LogRel relayStateLog (relayStateLog.reindex stateLog) v) :
    (boot rand stateLog onTimeLog sh env).StoreInv ∧
      ¬ (boot rand stateLog onTimeLog sh env).Pending ∧
      ∀ c : b.Chn, isOn (boot rand stateLog onTimeLog sh env).relay.rlsTarget c =
        sh.bootTarget c (isOn (boot rand stateLog onTimeLog sh env).storedTarget c) := by
  refine ⟨⟨⟨v, hlog⟩, masked_and _, fun c hne => absurd rfl hne, fun _ _ => rfl⟩,
    Bool.false_ne_true, fun c => ?_⟩
  generalize hw : (boot rand stateLog onTimeLog sh env).storedTarget = w
  have htarget : (boot rand stateLog onTimeLog sh env).relay.rlsTarget =
      runFrom (applyPowerOnState sh) w b.chns &&& backupMaskRl := by
    rw [← hw]
    rfl
  rw [htarget, isOn_and, isOn_backupMaskRl, Bool.and_true]
  exact runFrom_view (fun w => isOn w c.val) (fun w c' => isOn_applyPowerOnState_of_ne sh w)
    (fun w => isOn_applyPowerOnState sh w c) b.nodup_chns (b.mem_chns c) w

/-- A boot reads the word that the flash had before. -/
theorem storedTarget_boot (rand : Nat → Nat) {s : Device b ε} (h : s.StoreInv)
    (onTimeLog : LogState) (sh : Shared b) (env : ε) :
    (boot rand s.relay.stateLog onTimeLog sh env).storedTarget = s.storedTarget := by
  obtain ⟨v, hlog⟩ := h.log
  have hboot : (boot rand s.relay.stateLog onTimeLog sh env).relay.stateLog =
      relayStateLog.reindex s.relay.stateLog := rfl
  rw [storedTarget, storedTarget, hboot, hlog.reindex.restore_eq, hlog.restore_eq]

/-- Behind a boot the flash has the target of every relay that restores it. -/
theorem agrees_boot (rand : Nat → Nat) {stateLog : LogState} (onTimeLog : LogState)
    (sh : Shared b) (env : ε) {v : Option relayStateLog.Block}
    (hlog : LogRel relayStateLog (relayStateLog.reindex stateLog) v) :
    (boot rand stateLog onTimeLog sh env).Agrees := by
  obtain ⟨-, -, htarget⟩ := boot_spec rand onTimeLog sh env hlog
  rintro c ⟨hmode, hstate⟩
  change sh.switchMode c ≠ .momentary at hmode
  change sh.powerOnState c = .restore at hstate
  right
  rw [htarget c, Shared.bootTarget, hstate]
  cases hsw : sh.switchMode c with
  | momentary => exact absurd hsw hmode
  | toggle => rfl
  | lighting => rfl

/-- A power loss with no store pending brings every relay up as its mode and policy say, if
and only if the flash agrees. -/
theorem boot_agrees_iff (rand : Nat → Nat) {s : Device b ε} (h : s.StoreInv) (hp : ¬ s.Pending)
    (onTimeLog : LogState) {sh : Shared b} (hmode : sh.switchMode = s.sh.switchMode)
    (hstate : sh.powerOnState = s.sh.powerOnState) (env : ε) :
    (∀ c : b.Chn, isOn (boot rand s.relay.stateLog onTimeLog sh env).relay.rlsTarget c =
      s.sh.bootTarget c (isOn s.relay.rlsTarget c)) ↔ s.Agrees := by
  obtain ⟨v, hlog⟩ := h.log
  obtain ⟨-, -, htarget⟩ := boot_spec rand onTimeLog sh env hlog.reindex
  refine forall_congr' fun c => ?_
  rw [htarget c, storedTarget_boot rand h, Shared.bootTarget, Shared.bootTarget, hmode, hstate,
    Restores, Safe, or_iff_right hp]
  cases s.sh.switchMode c with
  | momentary => simp
  | toggle => cases s.sh.powerOnState c <;> simp
  | lighting => cases s.sh.powerOnState c <;> simp

end Device

end LumesSwitch
