import LumesSwitch.Lib.Run
import LumesSwitch.Lib.Table
import LumesSwitch.Board

/-!
# The default network (`default_network.c`)

An unprovisioned device listens to a network whose key is in the source; a provisioned
one opens it on request for a limited time. Two flags remember that the key was put into
the key table, or taken out of it.

- `meshNetKeyAdd`, `meshNetKeyDel` — the key table (`mesh_node.c`);
- `DefaultNw.procDefaultNetwork` — the loop;
- `DefaultNw.Inv` — the key is in the table only while its deletion is still to come;
- `defaultKey_gone_of_stepOk` — no key is left behind in a run that never tries to delete
  it while it is the only key.
-/

namespace LumesSwitch

open Runs Tables

/-! ## The key table -/

/-- `mesh_net_key_t`: a valid entry. -/
structure NetKey where
  key : List UInt8
  index : UInt16
  deriving DecidableEq

/-- `mesh_key.net_key`: `NET_KEY_MAX` slots; an invalid one is all zero. -/
def netKeyMax : Nat := 2

abbrev NetKeys : Type := Table netKeyMax NetKey

/-- `ST_SUCCESS`, `ST_INSUFFICIENT_RES`, `ST_KEYIDX_ALREADY_STORE`, `ST_CAN_NOT_REMOVE` -/
inductive KeyStatus where
  | success
  | insufficientRes
  | keyidxAlreadyStore
  | canNotRemove
  deriving DecidableEq

/-- `tmp_nk` at its index, `GET_NETKEY_INDEX(tmp_net_app_id)`. -/
def tmpNk : NetKey where
  key := [0x34, 0xD0, 0x2F, 0x83, 0x0B, 0x5E, 0x76, 0xB0,
    0x39, 0xE1, 0x35, 0x21, 0xDE, 0x73, 0x1A, 0x48]
  index := 1

/-- `is_mesh_net_key_exist` -/
def isMeshNetKeyExist (t : NetKeys) (keyIdx : UInt16) : Option (Fin netKeyMax) :=
  find NetKey.index t keyIdx

/-- `get_net_key_cnt` -/
def getNetKeyCnt (t : NetKeys) : Nat := count t

/-- `mesh_net_key_set(NETKEY_ADD)` -/
def meshNetKeyAdd (t : NetKeys) (k : NetKey) : NetKeys × KeyStatus :=
  match isMeshNetKeyExist t k.index with
  | some i => (t, if t i = some k then .success else .keyidxAlreadyStore)
  | none =>
    match emptySlot t with
    | some i => (Function.update t i (some k), .success)
    | none => (t, .insufficientRes)

/-- `mesh_net_key_set(NETKEY_DEL)` -/
def meshNetKeyDel (t : NetKeys) (keyIdx : UInt16) : NetKeys × KeyStatus :=
  match isMeshNetKeyExist t keyIdx with
  | some i =>
    if getNetKeyCnt t ≤ 1 then (t, .canNotRemove)
    else (Function.update t i none, .success)
  | none => (t, .success)

/-- The table that a boot builds from the saved keys. -/
def retrieveNetKeys (saved : List NetKey) : NetKeys :=
  runFrom (fun t k => (meshNetKeyAdd t k).1) (fun _ => none) saved

/-- `net_key_is_valid`: a key that is not zero has this index. -/
def netKeyIsValid (t : NetKeys) (netIdx : UInt16) : Bool :=
  ∃ i, ∃ k ∈ t i, k.index = netIdx ∧ ∃ x ∈ k.key, x ≠ 0

/-! ## The module -/

/-- `get_provision_state` -/
inductive ProvisionState where
  | unprov
  | proving
  | proved
  deriving DecidableEq

/-- `m_default_nw_t` -/
structure MDefaultNw where
  en : Bool
  timeLenS : UInt32
  stTimeS : UInt32

/-- The variables of `default_network.c`, the key table, the provisioning state, the
factory mode and the seconds counter. -/
structure DefaultNw where
  setTmpKeysFlag : Bool
  delTmpKeysFlag : Bool
  tempKeyIsInFlash : Bool
  mDefaultNw : MDefaultNw
  netKey : NetKeys
  provisionState : ProvisionState
  factActive : Bool
  timeS : UInt32

/-- `OPEN_DF_NW_TIMEOUT` -/
def openDfNwTimeout : UInt16 := 1800

namespace DefaultNw

/-- After power-on, with the keys of the flash. -/
def powerOn (netKey : NetKeys) (st : ProvisionState) (fact : Bool) : DefaultNw where
  setTmpKeysFlag := false
  delTmpKeysFlag := true
  tempKeyIsInFlash := false
  mDefaultNw := ⟨false, 0, 0⟩
  netKey := netKey
  provisionState := st
  factActive := fact
  timeS := 0

/-- `is_provision_success` -/
def isProvisionSuccess (s : DefaultNw) : Bool := s.provisionState = .proved

/-- `set_tmp_keys(1)` -/
def setTmpKeys (s : DefaultNw) : DefaultNw :=
  if s.setTmpKeysFlag then s
  else
    { s with
      setTmpKeysFlag := true
      delTmpKeysFlag := false
      netKey := (meshNetKeyAdd s.netKey tmpNk).1 }

/-- `del_tmp_keys` -/
def delTmpKeys (s : DefaultNw) : DefaultNw :=
  if s.delTmpKeysFlag then s
  else
    let s := { s with delTmpKeysFlag := true, setTmpKeysFlag := false }
    if s.tempKeyIsInFlash then
      { s with netKey := (meshNetKeyDel s.netKey tmpNk.index).1, tempKeyIsInFlash := false }
    else
      match isMeshNetKeyExist s.netKey tmpNk.index with
      | some i =>
        -- `ST_CAN_NOT_REMOVE`: the flags are turned over all the same
        if getNetKeyCnt s.netKey ≤ 1 then s
        else { s with netKey := Function.update s.netKey i none }
      | none => s

/-- `proc_default_network` -/
def procDefaultNetwork (s : DefaultNw) : DefaultNw :=
  if s.factActive ∧ s.provisionState = .unprov then s.delTmpKeys
  else if !s.isProvisionSuccess then s.setTmpKeys
  else if s.mDefaultNw.en then
    if clockTimeExceed s.timeS s.mDefaultNw.stTimeS s.mDefaultNw.timeLenS then
      delTmpKeys { s with mDefaultNw := { s.mDefaultNw with en := false } }
    else s
  else s.delTmpKeys

/-- `set_default_network_manual` -/
def setDefaultNetworkManual (s : DefaultNw) (en : Bool) (timeS : UInt16) : DefaultNw :=
  let timeS := if timeS > openDfNwTimeout then openDfNwTimeout else timeS
  { s with mDefaultNw := ⟨en, timeS.toUInt32, s.timeS⟩ }

/-- The network part of `cb_vd_mesh_reset_network`, the message that opens and closes the
default network. -/
def cbVdMeshResetNetwork (s : DefaultNw) (enable : Bool) (timeS : UInt16) : DefaultNw :=
  if enable then (s.setDefaultNetworkManual enable timeS).setTmpKeys
  else s.setDefaultNetworkManual false 0

/-- `check_and_del_default_power_on` -/
def checkAndDelDefaultPowerOn (s : DefaultNw) : DefaultNw :=
  if netKeyIsValid s.netKey tmpNk.index then
    delTmpKeys { s with tempKeyIsInFlash := true, delTmpKeysFlag := false }
  else s

/-! ## Events -/

/-- A net key of a provisioner: any but the one in the source. -/
abbrev ProvisionerKey : Type := { k : NetKey // k ≠ tmpNk }

/-- What happens to the default network: the loop, a window opened or closed directly or
by the message, the provisioning state, a provisioner's key that
enters or leaves the table or all keys that leave it, the factory mode, the clock. -/
inductive Event where
  | proc
  | manual (en : Bool) (timeS : UInt16)
  | resetNetwork (enable : Bool) (timeS : UInt16)
  | provision (st : ProvisionState)
  | keyAdd (k : ProvisionerKey)
  | keyDel (keyIdx : UInt16)
  | keysClear
  | fact (on : Bool)
  | clock (timeS : UInt32)

def step (s : DefaultNw) : Event → DefaultNw
  | .proc => s.procDefaultNetwork
  | .manual en timeS => s.setDefaultNetworkManual en timeS
  | .resetNetwork enable timeS => s.cbVdMeshResetNetwork enable timeS
  | .provision st => { s with provisionState := st }
  | .keyAdd k => { s with netKey := (meshNetKeyAdd s.netKey k.val).1 }
  | .keyDel keyIdx => { s with netKey := (meshNetKeyDel s.netKey keyIdx).1 }
  | .keysClear => { s with netKey := fun _ => none }
  | .fact on => { s with factActive := on }
  | .clock timeS => { s with timeS := timeS }

/-- After the boot. -/
def boot (saved : List NetKey) (st : ProvisionState) (fact : Bool) : DefaultNw :=
  (powerOn (retrieveNetKeys saved) st fact).checkAndDelDefaultPowerOn

/-! ## The key is gone -/

/-- A provisioned device outside the factory mode and with its window closed that has
another key does not have the default one. -/
def KeyGone (s : DefaultNw) : Prop :=
  s.provisionState = .proved → s.factActive = false → s.mDefaultNw.en = false →
    (∃ k, k ≠ tmpNk ∧ Has s.netKey k) → ¬ Has s.netKey tmpNk

/-- The key is gone right after the loop. -/
def GoneAfter (s : DefaultNw) : Event → Prop
  | .proc => KeyGone s.procDefaultNetwork
  | _ => True

/-- The default key is the only one. -/
def OnlyKey (t : NetKeys) : Prop := Has t tmpNk ∧ getNetKeyCnt t ≤ 1

instance (t : NetKeys) : Decidable (OnlyKey t) := inferInstanceAs (Decidable (_ ∧ _))

/-- The loop asks for the deletion: in factory mode on a device that is not provisioned,
or on a provisioned one whose window is closed or has run out. -/
def DeletionDue (s : DefaultNw) : Prop :=
  s.factActive = true ∧ s.provisionState = .unprov ∨
    s.provisionState = .proved ∧ (s.mDefaultNw.en = true →
      clockTimeExceed s.timeS s.mDefaultNw.stTimeS s.mDefaultNw.timeLenS = true)

instance (s : DefaultNw) : Decidable (DeletionDue s) := inferInstanceAs (Decidable (_ ∨ _))

/-- The condition: a deletion that is still to come is not asked for while the default
key is the only one. -/
def StepOk (s : DefaultNw) : Event → Prop
  | .proc => s.delTmpKeysFlag = false → DeletionDue s → ¬ OnlyKey s.netKey
  | _ => True

instance (s : DefaultNw) : ∀ ev, Decidable (StepOk s ev)
  | .proc => inferInstanceAs (Decidable (_ → _ → _))
  | .manual .. | .resetNetwork .. | .provision _ | .keyAdd _ | .keyDel _ | .keysClear | .fact _
  | .clock _ => inferInstanceAs (Decidable True)

end DefaultNw

/-! ### The table -/

theorem distinct_add {t : NetKeys} (h : Distinct NetKey.index t) (k : NetKey) :
    Distinct NetKey.index (meshNetKeyAdd t k).1 := by
  rw [meshNetKeyAdd]
  split
  · exact h
  · next hnone =>
    split
    · exact h.fill fun _ _ hb => find_eq_none hnone hb
    · exact h

theorem distinct_del {t : NetKeys} (h : Distinct NetKey.index t) (keyIdx : UInt16) :
    Distinct NetKey.index (meshNetKeyDel t keyIdx).1 := by
  rw [meshNetKeyDel]
  split
  · split
    · exact h
    · exact h.empty _
  · exact h

theorem distinct_retrieve (saved : List NetKey) : Distinct NetKey.index (retrieveNetKeys saved) :=
  invariant_runFrom (I := Distinct NetKey.index) (fun _ k h => distinct_add h k)
    distinct_empty saved

theorem has_add {t : NetKeys} {k k' : NetKey} (h : Has (meshNetKeyAdd t k).1 k') :
    k' = k ∨ Has t k' := by
  rw [meshNetKeyAdd] at h
  split at h
  · exact .inr h
  · split at h
    · exact (has_update h).imp_left fun heq => (Option.some.inj heq).symm
    · exact .inr h

theorem has_del {t : NetKeys} {keyIdx : UInt16} {k : NetKey}
    (h : Has (meshNetKeyDel t keyIdx).1 k) :
    Has t k := by
  rw [meshNetKeyDel] at h
  split at h
  · split at h
    · exact h
    · exact (has_update h).resolve_left nofun
  · exact h

/-- A deletion works unless the key is the only one. -/
theorem not_has_del {t : NetKeys} (h : Distinct NetKey.index t) (hone : ¬ DefaultNw.OnlyKey t) :
    ¬ Has (meshNetKeyDel t tmpNk.index).1 tmpNk := by
  rw [meshNetKeyDel]
  split
  · next i hi =>
    split
    · next hcnt => exact fun hhas => hone ⟨hhas, hcnt⟩
    · exact h.not_has hi
  · next hnone =>
    rintro ⟨i, hi⟩
    exact find_eq_none hnone hi rfl

namespace DefaultNw

/-! ### The invariant -/

/-- The key is in the table only while its deletion is still to come. -/
structure Inv (s : DefaultNw) : Prop where
  distinct : Distinct NetKey.index s.netKey
  latch : Has s.netKey tmpNk → s.delTmpKeysFlag = false

theorem inv_setTmpKeys {s : DefaultNw} (h : Inv s) : Inv s.setTmpKeys := by
  rw [setTmpKeys]
  split
  · exact h
  · exact ⟨distinct_add h.distinct tmpNk, fun _ => rfl⟩

/-- Both ways to delete the key do the same to the table. -/
theorem delTmpKeys_netKey {s : DefaultNw} (h : s.delTmpKeysFlag = false) :
    s.delTmpKeys.netKey = (meshNetKeyDel s.netKey tmpNk.index).1 := by
  rw [delTmpKeys, h, if_neg Bool.false_ne_true]
  dsimp only
  by_cases hflash : s.tempKeyIsInFlash = true
  · rw [if_pos hflash]
  · rw [if_neg hflash, meshNetKeyDel]
    cases isMeshNetKeyExist s.netKey tmpNk.index with
    | none => rfl
    | some i =>
      dsimp only
      split <;> rfl

/-- **Spec** of `del_tmp_keys`: unless the key is the only one, it is gone. -/
theorem delTmpKeys_spec {s : DefaultNw} (hdist : Distinct NetKey.index s.netKey)
    (hlatch : s.delTmpKeysFlag = true → ¬ Has s.netKey tmpNk)
    (hok : s.delTmpKeysFlag = false → ¬ OnlyKey s.netKey) :
    Distinct NetKey.index s.delTmpKeys.netKey ∧ ¬ Has s.delTmpKeys.netKey tmpNk := by
  by_cases hdel : s.delTmpKeysFlag = true
  · rw [delTmpKeys, if_pos hdel]
    exact ⟨hdist, hlatch hdel⟩
  · have hfalse : s.delTmpKeysFlag = false := Bool.not_eq_true _ ▸ hdel
    rw [delTmpKeys_netKey hfalse]
    exact ⟨distinct_del hdist _, not_has_del hdist (hok hfalse)⟩

theorem Inv.delTmpKeys {s : DefaultNw} (h : Inv s)
    (hok : s.delTmpKeysFlag = false → ¬ OnlyKey s.netKey) :
    Inv s.delTmpKeys ∧ ¬ Has s.delTmpKeys.netKey tmpNk := by
  have hlatch : s.delTmpKeysFlag = true → ¬ Has s.netKey tmpNk := fun hdel hhas =>
    nomatch (h.latch hhas).symm.trans hdel
  obtain ⟨hdist, hgone⟩ := delTmpKeys_spec h.distinct hlatch hok
  exact ⟨⟨hdist, fun hhas => absurd hhas hgone⟩, hgone⟩

/-- What the loop does: it deletes the key, sets it, or leaves an open window alone. -/
theorem proc_cases (s : DefaultNw) :
    (DeletionDue s ∧ ∃ en, s.procDefaultNetwork =
        delTmpKeys { s with mDefaultNw := { s.mDefaultNw with en := en } }) ∨
      (s.provisionState ≠ .proved ∧ s.procDefaultNetwork = s.setTmpKeys) ∨
      (s.mDefaultNw.en = true ∧ s.procDefaultNetwork = s) := by
  rw [procDefaultNetwork]
  split
  · next hfact => exact .inl ⟨.inl hfact, s.mDefaultNw.en, rfl⟩
  · split
    · next hprov =>
      refine .inr (.inl ⟨fun hproved => ?_, rfl⟩)
      rw [isProvisionSuccess, hproved] at hprov
      cases hprov
    · next hprov =>
      have hproved : s.provisionState = .proved := by
        rw [Bool.not_eq_true', Bool.not_eq_false] at hprov
        exact of_decide_eq_true hprov
      split
      · next hen =>
        split
        · next hex => exact .inl ⟨.inr ⟨hproved, fun _ => hex⟩, false, rfl⟩
        · exact .inr (.inr ⟨hen, rfl⟩)
      · next hen => exact .inl ⟨.inr ⟨hproved, fun h => absurd h hen⟩, s.mDefaultNw.en, rfl⟩

/-- **Step lemma** of the loop. -/
theorem Inv.proc {s : DefaultNw} (h : Inv s) (hok : StepOk s .proc) :
    Inv s.procDefaultNetwork ∧ KeyGone s.procDefaultNetwork := by
  rcases proc_cases s with ⟨hdue, en, heq⟩ | ⟨hprov, heq⟩ | ⟨hen, heq⟩
  · rw [heq]
    have h' : Inv { s with mDefaultNw := { s.mDefaultNw with en := en } } := ⟨h.distinct, h.latch⟩
    obtain ⟨hinv, hgone⟩ := h'.delTmpKeys fun hdel => hok hdel hdue
    exact ⟨hinv, fun _ _ _ _ => hgone⟩
  · rw [heq]
    refine ⟨inv_setTmpKeys h, fun hproved => absurd ?_ hprov⟩
    rw [setTmpKeys] at hproved
    split at hproved
    · exact hproved
    · exact hproved
  · rw [heq]
    exact ⟨h, fun _ _ hclosed => nomatch hen.symm.trans hclosed⟩

/-- **Step lemma**. -/
theorem Inv.step {s : DefaultNw} (h : Inv s) {ev : Event} (hok : StepOk s ev) :
    Inv (s.step ev) := by
  cases ev with
  | proc => exact (h.proc hok).1
  | manual en timeS => exact ⟨h.distinct, h.latch⟩
  | resetNetwork enable timeS =>
    show Inv (s.cbVdMeshResetNetwork enable timeS)
    rw [cbVdMeshResetNetwork]
    split
    · exact inv_setTmpKeys ⟨h.distinct, h.latch⟩
    · exact ⟨h.distinct, h.latch⟩
  | provision st => exact ⟨h.distinct, h.latch⟩
  | keyAdd k =>
    refine ⟨distinct_add h.distinct k.val, fun hhas => h.latch ?_⟩
    exact (has_add hhas).resolve_left fun heq => k.property heq.symm
  | keyDel keyIdx => exact ⟨distinct_del h.distinct keyIdx, fun hhas => h.latch (has_del hhas)⟩
  | keysClear => exact ⟨distinct_empty, fun hhas => absurd hhas (not_has_empty tmpNk)⟩
  | fact on => exact ⟨h.distinct, h.latch⟩
  | clock timeS => exact ⟨h.distinct, h.latch⟩

/-- The default key is a key that is not zero, so the check at power-on finds it. -/
theorem netKeyIsValid_tmpNk {t : NetKeys} (h : Has t tmpNk) :
    netKeyIsValid t tmpNk.index = true := by
  obtain ⟨i, hi⟩ := h
  exact decide_eq_true ⟨i, tmpNk, hi, rfl, 0x34, List.mem_cons_self, by decide⟩

theorem inv_boot {saved : List NetKey} (st : ProvisionState) (fact : Bool)
    (hboot : ¬ OnlyKey (retrieveNetKeys saved)) : Inv (boot saved st fact) := by
  have hdist := distinct_retrieve saved
  rw [boot, checkAndDelDefaultPowerOn]
  split
  · obtain ⟨hdist', hgone⟩ := delTmpKeys_spec
      (s := { powerOn (retrieveNetKeys saved) st fact with
        tempKeyIsInFlash := true, delTmpKeysFlag := false })
      hdist (fun h => nomatch h) fun _ => hboot
    exact ⟨hdist', fun hhas => absurd hhas hgone⟩
  · next hvalid => exact ⟨hdist, fun hhas => absurd (netKeyIsValid_tmpNk hhas) hvalid⟩

/-- **Run theorem**: in a run that never asks for the deletion while the default key is
the only one, nor boots so, the key is gone right after the loop. -/
theorem defaultKey_gone_of_stepOk (saved : List NetKey) (st : ProvisionState) (fact : Bool)
    (evs : List Event) (hboot : ¬ OnlyKey (retrieveNetKeys saved))
    (h : AllSteps step StepOk (boot saved st fact) evs) :
    AllSteps step GoneAfter (boot saved st fact) evs := by
  refine AllSteps.transport (fun s ev hI hok => hI.step hok) (fun s ev hI hok => ?_)
    (inv_boot st fact hboot) h
  cases ev with
  | proc => exact (hI.proc hok).2
  | manual | resetNetwork | provision | keyAdd | keyDel | keysClear | fact | clock => trivial

/-- A net key of a provisioner. -/
def otherNk : ProvisionerKey := ⟨⟨[0x01], 0⟩, by decide⟩

/-- An unprovisioned device sets the key; it is provisioned; the loop deletes the key. -/
theorem defaultKey_gone_provisioned :
    ¬ OnlyKey (retrieveNetKeys []) ∧
      AllSteps step StepOk (boot [] .unprov false)
        [.proc, .keyAdd otherNk, .provision .proved, .proc] ∧
      AllSteps step GoneAfter (boot [] .unprov false)
        [.proc, .keyAdd otherNk, .provision .proved, .proc] := by
  have hboot : ¬ OnlyKey (retrieveNetKeys []) := by decide +kernel
  have hok : AllSteps step StepOk (boot [] .unprov false)
      [.proc, .keyAdd otherNk, .provision .proved, .proc] := by decide +kernel
  exact ⟨hboot, hok, defaultKey_gone_of_stepOk [] .unprov false _ hboot hok⟩

/-- An unprovisioned device sets the key and goes through the factory mode, where the
deletion is given up; after provisioning the loop takes the key for deleted. -/
theorem defaultKey_stays :
    ¬ AllSteps step GoneAfter (boot [] .unprov false)
      [.proc, .fact true, .proc, .fact false, .keyAdd otherNk, .provision .proved, .proc] := by
  rintro ⟨-, -, -, -, -, -, hgone, -⟩
  exact hgone (by decide +kernel) (by decide +kernel) (by decide +kernel)
    ⟨otherNk.val, by decide, by decide +kernel⟩ (by decide +kernel)

end DefaultNw

end LumesSwitch
