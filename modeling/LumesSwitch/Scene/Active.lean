import LumesSwitch.Scene.Slots
import LumesSwitch.Net.Receive

/-!
# Executing a scene (`execution_scene_active`)

A key event executes its slot: a scene is recalled, each scene of a list is, or each message of
a list is built from the payload stored for it. A payload starts with its opcode. One that is
known to the switch gets three bytes more, in a buffer of the size of a payload; one of a
vendor goes out as it is stored. The lengths are what ADD has taken, less the opcode.

- `ParExecutionScene.execute` — the slot, access by access;
- `ParExecutionScene.entryOk_iff` — one entry of a list of messages;
- `Scenes.activeSafe_iff` — which slots build well-formed messages only.
-/

namespace LumesSwitch

open Bufs Nor Runs Words

/-! ## The opcodes -/

/-- `LIGHT_HSL_SET_NOACK`, `LIGHT_CTL_SET_NOACK`, `LIGHT_CTL_TEMP_SET`,
`LIGHT_CTL_TEMP_SET_NOACK` -/
def lightHslSetNoack : UInt16 := 0x7782
def lightCtlSetNoack : UInt16 := 0x5F82
def lightCtlTempSet : UInt16 := 0x6482
def lightCtlTempSetNoack : UInt16 := 0x6582

/-- `G_LEVEL_SET`, `G_LEVEL_SET_NOACK` -/
def gLevelSet : UInt16 := 0x0682
def gLevelSetNoack : UInt16 := 0x0782

/-- `op_sig_support_scene` -/
def opSigSupportScene : List UInt16 :=
  [lightHslSet, lightHslSetNoack, lightCtlSet, lightCtlSetNoack, lightCtlTempSet,
    lightCtlTempSetNoack, lightnessSet, lightnessSetNoack, gOnoffSet, gOnoffSetNoack,
    gLevelSet, gLevelSetNoack]

/-- `START_VENDOR_OPCODE`, `VD_SCENE_REQUEST_NOACK`, `VENDOR_SCENE_RECALL_NOACK` -/
def startVendorOpcode : UInt8 := 0xC0
def vdSceneRequestNoack : UInt16 := 0xF4
def vendorSceneRecallNoack : UInt8 := 1

/-! ## What an execution does -/

/-- A call of `mesh_tx_cmd_rsp`: the opcode, the bytes from its pointer to the end of the
buffer behind it, the length, the source and the destination. -/
structure SceneTx where
  op : UInt16
  par : List UInt8
  len : Int
  src : UInt16
  dst : UInt16
  deriving DecidableEq

/-- What the execution of entry `i` does: it reads byte `k` of its payload, it writes byte `k`
of `par_control`, it hands on a message. -/
inductive SceneAct where
  | readPayload (i k : Nat)
  | writeControl (k : Nat)
  | send (i : Nat) (m : SceneTx)
  deriving DecidableEq

/-- The transaction counters `tid` and `vd_tid`. -/
structure SceneTids where
  tid : UInt8
  vdTid : UInt8

/-- A message for entry `i`. -/
def SceneAct.sendsFor (i : Nat) : SceneAct → Bool
  | .send j _ => j = i
  | _ => false

namespace ParExecutionScene

variable (adr : UInt16) (stack : Nat → Buf 14) (p : ParExecutionScene)

/-- `control_infor[i].payload[k]` -/
def payload (i k : Nat) : UInt8 := p.area.get (17 * i + 3 + k)

/-- `op_sig` of an entry -/
def opSig (i : Nat) : UInt16 := ofU16Bytes (p.payload i 0) (p.payload i 1)

/-- The branch for an opcode of the list: `par_control` starts as `stack i` and gets the
payload behind the opcode, the counter, the transition time and the delay. -/
def sendSig (i : Nat) (t : SceneTids) (op : UInt16) : SceneTids × List SceneAct :=
  let parLen := p.payloadLen i - 2
  let tid := t.tid + 1
  let parControl := (stack i).write 0 (p.area.read (17 * i + 5) parLen.toNat)
  let parControl := parControl.write parLen.toNat [tid]
  let parControl := parControl.write (parLen + 1).toNat [p.transTime]
  let parControl := parControl.write (parLen + 2).toNat [0]
  ({ t with tid },
    (List.range parLen.toNat).flatMap (fun k => [.readPayload i (2 + k), .writeControl k]) ++
      [.writeControl parLen.toNat, .writeControl (parLen + 1).toNat,
        .writeControl (parLen + 2).toNat,
        .send i ⟨op, parControl.read 0 14, (parLen + 3).toNat, adr, p.destAddr i⟩])

/-- The body of the loop over `op_sig_support_scene`. -/
def trySig (i : Nat) (t : SceneTids) (op : UInt16) : SceneTids × List SceneAct :=
  let reads : List SceneAct := [.readPayload i 1, .readPayload i 0]
  if p.opSig i = op then
    let (t, acts) := p.sendSig adr stack i t op
    (t, reads ++ acts)
  else (t, reads)

/-- The branch for the opcode of a vendor. -/
def sendVendor (i : Nat) : List SceneAct :=
  .readPayload i 0 ::
    if startVendorOpcode ≤ p.payload i 0 then
      [.send i ⟨(p.payload i 0).toUInt16, p.area.read (17 * i + 6) 11,
        ((p.payloadLen i).toNat : Int) - 3, adr, p.destAddr i⟩]
    else []

/-- The body of the loop over the entries of a list of messages. -/
def executeEntry (t : SceneTids) (i : Nat) : SceneTids × List SceneAct :=
  if p.destAddr i = adrUnassigned then (t, [])
  else if maxPayloadLen < (p.payloadLen i).toNat then (t, [])
  else
    (runFrom (fun t op => (p.trySig adr stack i t op).1) t opSigSupportScene,
      outputs (p.trySig adr stack i) t opSigSupportScene ++ p.sendVendor adr i)

/-- `vendor_scene_recall`, sent for entry `i`. -/
def sendRecall (i : Nat) (t : SceneTids) (sceneId : UInt16) (transTime delayTime : UInt8) :
    SceneTids × List SceneAct :=
  let vdTid := t.vdTid + 1
  let par := vendorSceneRecallNoack :: u16Bytes sceneId ++ [vdTid, transTime, delayTime]
  ({ t with vdTid }, [.send i ⟨vdSceneRequestNoack, par, 6, adr, 0xFFFF⟩])

/-- The body of the loop over the entries of a list of scenes. -/
def recallEntry (t : SceneTids) (j : Nat) : SceneTids × List SceneAct :=
  if p.inSceneId j ≠ lmSceneInInvalid then
    sendRecall adr j t (p.inSceneId j) (p.area.get (4 * j + 2)) (p.area.get (4 * j + 3))
  else (t, [])

/-- A run over the five entries of a slot. -/
def overEntries (step : SceneTids → Nat → SceneTids × List SceneAct) (t : SceneTids) :
    SceneTids × List SceneAct :=
  (runFrom (fun t i => (step t i).1) t (List.range maxSceneDestAdr),
    outputs step t (List.range maxSceneDestAdr))

/-- The slot of an event. -/
def execute (t : SceneTids) : SceneTids × List SceneAct :=
  if p.sceneId ≠ sceneIdInvalid then
    if p.sceneId ≠ 0xFFFF then sendRecall adr 0 t p.sceneId p.transTime 0
    else overEntries (p.recallEntry adr) t
  else overEntries (p.executeEntry adr stack) t

/-! ## Well-formed messages -/

/-- The access stays in its buffer: in the payload that is stored, in `par_control`, and the
length of a message in the bytes it is sent from. -/
def InBounds : SceneAct → Prop
  | .readPayload i k => k < (p.payloadLen i).toNat
  | .writeControl k => k < maxPayloadLen
  | .send _ m => 0 ≤ m.len ∧ m.len ≤ m.par.length

/-- Entry `i` of a list of messages holds one. -/
def HasMessage (i : Nat) : Prop :=
  p.destAddr i ≠ adrUnassigned ∧ (p.payloadLen i).toNat ≤ maxPayloadLen

/-- Entry `i` is a destination of the slot. -/
def IsDest (i : Nat) : Prop :=
  if p.sceneId = sceneIdInvalid then p.HasMessage i
  else if p.sceneId = 0xFFFF then p.inSceneId i ≠ lmSceneInInvalid
  else i = 0

/-- What is expected of the execution of a slot. -/
structure ActsOk (acts : List SceneAct) : Prop where
  inBounds : ∀ a ∈ acts, p.InBounds a
  once : ∀ i < maxSceneDestAdr, p.IsDest i → acts.countP (SceneAct.sendsFor i) = 1

/-- The payload starts with an opcode of the list and leaves room for the three bytes behind
it, or with one of a vendor and has the three bytes of it. -/
def Supported (i : Nat) : Prop :=
  (p.opSig i ∈ opSigSupportScene ∧ 2 ≤ (p.payloadLen i).toNat ∧
      (p.payloadLen i).toNat < maxPayloadLen) ∨
    (startVendorOpcode ≤ p.payload i 0 ∧ 3 ≤ (p.payloadLen i).toNat)

/-! ## One entry -/

variable {adr stack p}

theorem low_of_mem_opSigSupportScene : ∀ op ∈ opSigSupportScene, op.toUInt8 = 0x82 := by
  have hall : opSigSupportScene.all (fun op => op.toUInt8 = 0x82) = true := by decide
  exact fun op hop => of_decide_eq_true (List.all_eq_true.mp hall op hop)

theorem nodup_opSigSupportScene : opSigSupportScene.Nodup := by decide

/-- An opcode of the list is not one of a vendor. -/
theorem not_vendor_of_sig {i : Nat} (h : p.opSig i ∈ opSigSupportScene) :
    ¬ startVendorOpcode ≤ p.payload i 0 := by
  have hlow : (p.opSig i).toUInt8 = p.payload i 0 := by
    apply UInt8.toNat_inj.mp
    simp [opSig, ofU16Bytes]
  rw [← hlow, low_of_mem_opSigSupportScene _ h]
  decide

/-- The branch for an opcode of the list stays in its buffers if the payload leaves room for
the three bytes behind it. -/
theorem sendSig_inBounds_iff (i : Nat) (t : SceneTids) (op : UInt16)
    (hlen : (p.payloadLen i).toNat ≤ maxPayloadLen) (htwo : 2 ≤ (p.payloadLen i).toNat) :
    (∀ a ∈ (p.sendSig adr stack i t op).2, p.InBounds a) ↔
      (p.payloadLen i).toNat < maxPayloadLen := by
  have hmax : maxPayloadLen = 14 := rfl
  have hpar : (p.payloadLen i - 2).toNat = (p.payloadLen i).toNat - 2 :=
    UInt8.toNat_sub_of_le _ _ (UInt8.le_iff_toNat_le.mpr htwo)
  have hone : (p.payloadLen i - 2 + 1).toNat = (p.payloadLen i).toNat - 1 := by
    rw [UInt8.toNat_add, hpar, UInt8.toNat_one]
    omega
  have hlast : (p.payloadLen i - 2 + 2).toNat = (p.payloadLen i).toNat := by
    rw [UInt8.sub_add_cancel]
  have hsent : (p.payloadLen i - 2 + 3).toNat = (p.payloadLen i).toNat + 1 := by
    rw [UInt8.toNat_add, hpar, show (3 : UInt8).toNat = 3 from rfl]
    omega
  simp only [sendSig, List.forall_mem_append, List.forall_mem_flatMap, List.forall_mem_cons,
    List.not_mem_nil, false_implies, implies_true, InBounds, hpar, hone, hlast, hsent,
    Buf.read_length, and_true, List.mem_range]
  constructor
  -- the last access is the one that decides
  · rintro ⟨-, -, -, h, -⟩
    exact h
  · intro h
    refine ⟨fun k hk => ?_, ?_⟩ <;> omega

theorem sendSig_count (i j : Nat) (t : SceneTids) (op : UInt16) :
    (p.sendSig adr stack i t op).2.countP (SceneAct.sendsFor j) = if i = j then 1 else 0 := by
  have hcopy : ∀ ks : List Nat, (ks.flatMap fun k =>
      [SceneAct.readPayload i (2 + k), .writeControl k]).countP (SceneAct.sendsFor j) = 0 := by
    intro ks
    induction ks with
    | nil => rfl
    | cons k ks ih => simpa [SceneAct.sendsFor] using ih
  rw [sendSig, List.countP_append, hcopy]
  simp [SceneAct.sendsFor, List.countP_cons]

/-- One turn of the loop over the opcodes reads the opcode of the payload, and builds the
message if it is the one. -/
theorem trySig_inBounds_iff (i : Nat) (t : SceneTids) (op : UInt16)
    (hlen : (p.payloadLen i).toNat ≤ maxPayloadLen) :
    (∀ a ∈ (p.trySig adr stack i t op).2, p.InBounds a) ↔
      2 ≤ (p.payloadLen i).toNat ∧ (p.opSig i = op → (p.payloadLen i).toNat < maxPayloadLen) := by
  have hreads : (∀ a ∈ [SceneAct.readPayload i 1, .readPayload i 0], p.InBounds a) ↔
      2 ≤ (p.payloadLen i).toNat := by
    simp only [List.forall_mem_cons, List.not_mem_nil, false_implies, implies_true, InBounds,
      and_true]
    omega
  unfold trySig
  dsimp only
  split
  · next hop =>
    rw [List.forall_mem_append, hreads]
    refine and_congr_right fun htwo => ?_
    rw [sendSig_inBounds_iff i t op hlen htwo]
    exact ⟨fun h _ => h, fun h => h hop⟩
  · next hop =>
    rw [hreads]
    exact (and_iff_left fun h => absurd h hop).symm

theorem trySig_count (i j : Nat) (t : SceneTids) (op : UInt16) :
    (p.trySig adr stack i t op).2.countP (SceneAct.sendsFor j) =
      if p.opSig i = op ∧ i = j then 1 else 0 := by
  unfold trySig
  dsimp only
  split
  · next hop =>
    rw [List.countP_append, sendSig_count]
    simp [hop, SceneAct.sendsFor]
  · next hop => simp [hop, SceneAct.sendsFor]

/-- The loop over the opcodes. -/
theorem sigs_inBounds_iff (i : Nat) (t : SceneTids)
    (hlen : (p.payloadLen i).toNat ≤ maxPayloadLen) :
    (∀ a ∈ outputs (p.trySig adr stack i) t opSigSupportScene, p.InBounds a) ↔
      2 ≤ (p.payloadLen i).toNat ∧
        (p.opSig i ∈ opSigSupportScene → (p.payloadLen i).toNat < maxPayloadLen) := by
  rw [forall_outputs_iff fun t op _ => trySig_inBounds_iff i t op hlen]
  constructor
  · intro h
    -- every turn reads the opcode, and the list is not empty
    exact ⟨(h lightHslSet (by decide)).1, fun hmem => (h _ hmem).2 rfl⟩
  · rintro ⟨htwo, h⟩ op hop
    exact ⟨htwo, fun heq => h (heq ▸ hop)⟩

theorem sigs_count (i : Nat) (t : SceneTids) :
    (outputs (p.trySig adr stack i) t opSigSupportScene).countP (SceneAct.sendsFor i) =
      if p.opSig i ∈ opSigSupportScene then 1 else 0 := by
  split
  · next hmem =>
    -- one turn sends, that of the opcode in the payload
    refine countP_outputs_single (fun t op hop => ?_) (fun t => ?_) nodup_opSigSupportScene hmem t
    · rw [trySig_count, if_neg fun h => hop h.1.symm]
    · rw [trySig_count, if_pos ⟨rfl, rfl⟩]
  · next hmem =>
    refine countP_outputs_eq_zero (fun t op hop => ?_) t
    rw [trySig_count, if_neg fun h : p.opSig i = op ∧ i = i => hmem (h.1 ▸ hop)]

theorem sendVendor_inBounds_iff (i : Nat) (hlen : (p.payloadLen i).toNat ≤ maxPayloadLen)
    (htwo : 2 ≤ (p.payloadLen i).toNat) :
    (∀ a ∈ p.sendVendor adr i, p.InBounds a) ↔
      (startVendorOpcode ≤ p.payload i 0 → 3 ≤ (p.payloadLen i).toNat) := by
  have hmax : maxPayloadLen = 14 := rfl
  rw [sendVendor, List.forall_mem_cons]
  split
  · next hop =>
    simp only [List.forall_mem_cons, List.not_mem_nil, false_implies, implies_true, InBounds,
      Buf.read_length, and_true, hop, true_implies]
    omega
  · next hop =>
    simp only [List.not_mem_nil, false_implies, implies_true, InBounds, and_true, hop, iff_true]
    omega

theorem sendVendor_count (i j : Nat) :
    (p.sendVendor adr i).countP (SceneAct.sendsFor j) =
      if startVendorOpcode ≤ p.payload i 0 ∧ i = j then 1 else 0 := by
  unfold sendVendor
  split
  · next hop => simp [hop, SceneAct.sendsFor, List.countP_cons]
  · next hop => simp [hop, SceneAct.sendsFor]

/-- An entry without a message does nothing. -/
theorem executeEntry_none {i : Nat} (h : ¬ p.HasMessage i) (t : SceneTids) :
    p.executeEntry adr stack t i = (t, []) := by
  unfold executeEntry
  split
  · rfl
  · next hdest => exact if_pos (Nat.not_le.mp fun hlen => h ⟨hdest, hlen⟩)

theorem executeEntry_acts {i : Nat} (h : p.HasMessage i) (t : SceneTids) :
    (p.executeEntry adr stack t i).2 =
      outputs (p.trySig adr stack i) t opSigSupportScene ++ p.sendVendor adr i := by
  rw [executeEntry, if_neg h.1, if_neg (Nat.not_lt.mpr h.2)]

/-- The payload has the two bytes of an opcode, the one of the list leaves room for the three
bytes behind it, the one of a vendor has three bytes. -/
def Fits (p : ParExecutionScene) (i : Nat) : Prop :=
  2 ≤ (p.payloadLen i).toNat ∧
    (p.opSig i ∈ opSigSupportScene → (p.payloadLen i).toNat < maxPayloadLen) ∧
    (startVendorOpcode ≤ p.payload i 0 → 3 ≤ (p.payloadLen i).toNat)

theorem executeEntry_inBounds_iff (i : Nat) (t : SceneTids) :
    (∀ a ∈ (p.executeEntry adr stack t i).2, p.InBounds a) ↔ (p.HasMessage i → p.Fits i) := by
  by_cases hmsg : p.HasMessage i
  · rw [executeEntry_acts hmsg, List.forall_mem_append, sigs_inBounds_iff i t hmsg.2,
      forall_prop_of_true hmsg, Fits, and_assoc]
    refine and_congr_right fun htwo => and_congr_right fun _ => ?_
    exact sendVendor_inBounds_iff i hmsg.2 htwo
  · rw [executeEntry_none hmsg]
    exact iff_of_true (fun _ ha => absurd ha List.not_mem_nil) fun h => absurd h hmsg

theorem executeEntry_count {i : Nat} (hmsg : p.HasMessage i) (t : SceneTids) :
    (p.executeEntry adr stack t i).2.countP (SceneAct.sendsFor i) =
      (if p.opSig i ∈ opSigSupportScene then 1 else 0) +
        if startVendorOpcode ≤ p.payload i 0 ∧ i = i then 1 else 0 := by
  rw [executeEntry_acts hmsg, List.countP_append, sigs_count, sendVendor_count]

/-- A payload that fits and has one kind of opcode is supported. -/
theorem supported_iff (i : Nat) :
    p.Supported i ↔ p.Fits i ∧
      ((if p.opSig i ∈ opSigSupportScene then 1 else 0) +
        if startVendorOpcode ≤ p.payload i 0 ∧ i = i then 1 else 0) = 1 := by
  unfold Supported Fits
  by_cases hsig : p.opSig i ∈ opSigSupportScene
  -- no opcode is of both kinds
  · have hvd := not_vendor_of_sig hsig
    simp [hsig, hvd]
  · by_cases hvd : startVendorOpcode ≤ p.payload i 0
    · simp only [hsig, hvd, false_and, false_or, true_and, false_implies, true_implies, if_true,
        if_false, Nat.zero_add, and_true]
      omega
    · simp [hsig, hvd]

/-- An entry sends no message for another one. -/
theorem executeEntry_count_other {i j : Nat} (hij : i ≠ j) (t : SceneTids) :
    (p.executeEntry adr stack t i).2.countP (SceneAct.sendsFor j) = 0 := by
  by_cases hmsg : p.HasMessage i
  · rw [executeEntry_acts hmsg, List.countP_append, sendVendor_count, if_neg fun h => hij h.2]
    refine countP_outputs_eq_zero (fun t op _ => ?_) t
    rw [trySig_count, if_neg fun h => hij h.2]
  · rw [executeEntry_none hmsg]
    rfl

/-! ## A slot -/

/-- A recalled scene is sent from its buffer, once. -/
theorem recall_ok (i : Nat) (t : SceneTids) (sceneId : UInt16) (transTime delayTime : UInt8) :
    (∀ a ∈ (sendRecall adr i t sceneId transTime delayTime).2, p.InBounds a) ∧
      ∀ j, (sendRecall adr i t sceneId transTime delayTime).2.countP (SceneAct.sendsFor j) =
        if i = j then 1 else 0 := by
  constructor
  · simp [sendRecall, InBounds, u16Bytes]
  · intro j
    simp [sendRecall, SceneAct.sendsFor, List.countP_cons]

theorem recallEntry_inBounds (t : SceneTids) (j : Nat) :
    ∀ a ∈ (p.recallEntry adr t j).2, p.InBounds a := by
  unfold recallEntry
  split
  · exact (recall_ok j t _ _ _).1
  · exact fun _ ha => absurd ha List.not_mem_nil

theorem recallEntry_count (t : SceneTids) (i j : Nat) :
    (p.recallEntry adr t i).2.countP (SceneAct.sendsFor j) =
      if p.inSceneId i ≠ lmSceneInInvalid ∧ i = j then 1 else 0 := by
  unfold recallEntry
  split
  · next h =>
    rw [(recall_ok (p := p) i t _ _ _).2 j]
    exact if_congr (and_iff_right h).symm rfl rfl
  · next h => exact (if_neg fun h' => h h'.1).symm

/-- A slot that recalls scenes is executed well. -/
theorem actsOk_recall (hid : p.sceneId ≠ sceneIdInvalid) (t : SceneTids) :
    p.ActsOk (p.execute adr stack t).2 := by
  rw [execute, if_pos hid]
  split
  · next hone =>
    obtain ⟨hin, hcount⟩ :
        (∀ a ∈ (sendRecall adr 0 t p.sceneId p.transTime 0).2, p.InBounds a) ∧ _ :=
      recall_ok 0 t p.sceneId p.transTime 0
    refine ⟨hin, fun i _ hdest => ?_⟩
    rw [IsDest, if_neg hid, if_neg hone] at hdest
    rw [hcount, if_pos hdest.symm]
  · next hlist =>
    -- entry `i` is sent in its own turn
    refine ⟨(forall_outputs_iff
      (fun t j _ => iff_of_true (recallEntry_inBounds t j) trivial) t).mpr fun _ _ => trivial,
      fun i hi hdest => ?_⟩
    rw [IsDest, if_neg hid, if_pos (not_not.mp hlist)] at hdest
    refine countP_outputs_single (fun t j hj => ?_) (fun t => ?_) List.nodup_range
      (List.mem_range.mpr hi) t
    · rw [recallEntry_count, if_neg fun h => hj h.2]
    · rw [recallEntry_count, if_pos ⟨hdest, rfl⟩]

/-- **The slot**: a list of messages is executed well if each of them is supported; a scene
and a list of scenes always are. -/
theorem actsOk_iff (t : SceneTids) :
    p.ActsOk (p.execute adr stack t).2 ↔
      (p.sceneId = sceneIdInvalid → ∀ i < maxSceneDestAdr, p.HasMessage i → p.Supported i) := by
  by_cases hid : p.sceneId = sceneIdInvalid
  · have hexec : (p.execute adr stack t).2 =
        outputs (p.executeEntry adr stack) t (List.range maxSceneDestAdr) := by
      rw [execute, if_neg (not_not.mpr hid), overEntries]
    have hin := forall_outputs_iff (P := p.InBounds)
      (fun t i (_ : i ∈ List.range maxSceneDestAdr) =>
        show (∀ a ∈ (p.executeEntry adr stack t i).2, p.InBounds a) ↔ _ from
          executeEntry_inBounds_iff i t) t
    have hcount : ∀ i < maxSceneDestAdr, p.HasMessage i →
        (outputs (p.executeEntry adr stack) t (List.range maxSceneDestAdr)).countP
          (SceneAct.sendsFor i) = _ := fun i hi hmsg =>
      countP_outputs_single (fun t j hj => executeEntry_count_other hj t)
        (executeEntry_count hmsg) List.nodup_range (List.mem_range.mpr hi) t
    rw [hexec, forall_prop_of_true hid]
    constructor
    · rintro ⟨hbounds, honce⟩ i hi hmsg
      have hone := honce i hi (by rwa [IsDest, if_pos hid])
      rw [hcount i hi hmsg] at hone
      exact (supported_iff i).mpr ⟨hin.mp hbounds i (List.mem_range.mpr hi) hmsg, hone⟩
    · intro h
      refine ⟨hin.mpr fun i hi hmsg =>
        ((supported_iff i).mp (h i (List.mem_range.mp hi) hmsg)).1, fun i hi hdest => ?_⟩
      rw [IsDest, if_pos hid] at hdest
      rw [hcount i hi hdest]
      exact ((supported_iff i).mp (h i hi hdest)).2
  · exact iff_of_true (actsOk_recall hid t) fun h => absurd h hid

end ParExecutionScene

/-! ## The table -/

namespace Scenes

variable {b : Board}

/-- `execution_scene_active` -/
def executionSceneActive (s : Scenes b) (adr : UInt16) (stack : Nat → Buf 14) (t : SceneTids)
    (keyNumber keyEv : UInt8) : SceneTids × List SceneAct :=
  match slotOf b keyNumber keyEv with
  | none => (t, [])
  | some (k, e) =>
    if (s.table k e).btnEvent = keyEv then (s.table k e).execute adr stack t else (t, [])

/-- A key event builds well-formed messages: it does nothing if it has no slot, and what is
expected of its slot otherwise. -/
def ActiveSafe (s : Scenes b) (keyNumber keyEv : UInt8) (acts : List SceneAct) : Prop :=
  (slotOf b keyNumber keyEv = none → acts = []) ∧
    ∀ k e, slotOf b keyNumber keyEv = some (k, e) →
      if (s.table k e).btnEvent = keyEv then (s.table k e).ActsOk acts else acts = []

/-- The slot of the event, if it is a list of messages, holds supported ones. -/
def ActiveSupported (s : Scenes b) (keyNumber keyEv : UInt8) : Prop :=
  ∀ k e, slotOf b keyNumber keyEv = some (k, e) → (s.table k e).btnEvent = keyEv →
    (s.table k e).sceneId = sceneIdInvalid →
      ∀ i < maxSceneDestAdr, (s.table k e).HasMessage i → (s.table k e).Supported i

/-- **Well-formed messages**: on every table, so on every table that setup messages leave, a
key event builds well-formed messages only if and only if its slot holds supported ones. -/
theorem activeSafe_iff (s : Scenes b) (adr : UInt16) (stack : Nat → Buf 14) (t : SceneTids)
    (keyNumber keyEv : UInt8) :
    s.ActiveSafe keyNumber keyEv (s.executionSceneActive adr stack t keyNumber keyEv).2 ↔
      s.ActiveSupported keyNumber keyEv := by
  unfold ActiveSafe ActiveSupported executionSceneActive
  cases slotOf b keyNumber keyEv with
  | none => simp
  | some ke =>
    obtain ⟨k, e⟩ := ke
    simp only [Option.some.injEq, Prod.mk.injEq, reduceCtorEq, false_implies, true_and]
    constructor
    · rintro h k e ⟨rfl, rfl⟩ hevt
      have hok := h k e ⟨rfl, rfl⟩
      rw [if_pos hevt, if_pos hevt] at hok
      exact (ParExecutionScene.actsOk_iff t).mp hok
    · rintro h k e ⟨rfl, rfl⟩
      by_cases hevt : (s.table k e).btnEvent = keyEv
      · rw [if_pos hevt, if_pos hevt]
        exact (ParExecutionScene.actsOk_iff t).mpr (h k e ⟨rfl, rfl⟩ hevt)
      · rw [if_neg hevt, if_neg hevt]

/-- The ADD, for the first press of button 0, of a lightness message with a payload of 14
bytes to element `0xC001`. -/
def fullLightnessPayload : List UInt8 :=
  [0x08, 0x01, 0x00, 0x00, 1, 0x01, 0xC0, 14, 0x82, 0x4C] ++ List.replicate 12 0xAA ++ [5]

/-- On a new device with that ADD, the first press of button 0 writes 15 bytes to
`par_control`. -/
theorem not_activeSafe_fullLightnessPayload :
    ((erased board1).handle (received fullLightnessPayload)).2 =
        .sent [0x08, exStatusSuccess, 0x01, 0x00, 0x00] ∧
      ¬ ((erased board1).handle (received fullLightnessPayload)).1.ActiveSafe 0 1
        (((erased board1).handle (received fullLightnessPayload)).1.executionSceneActive
          1 (fun _ _ => 0) ⟨0, 0⟩ 0 1).2 := by
  refine ⟨by decide +kernel, fun hsafe => ?_⟩
  have hslot : slotOf board1 0 1 = some (⟨0, by decide⟩, 1) := by decide
  have hok := hsafe.2 _ _ hslot
  rw [if_pos (by decide +kernel)] at hok
  have hmem : SceneAct.writeControl 14 ∈
      (((erased board1).handle (received fullLightnessPayload)).1.executionSceneActive
        1 (fun _ _ => 0) ⟨0, 0⟩ 0 1).2 := by decide +kernel
  exact absurd (hok.inBounds _ hmem) (Nat.lt_irrefl 14)

end Scenes

end LumesSwitch
