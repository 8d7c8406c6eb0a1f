import LumesSwitch.Scene.RoundTrip
import LumesSwitch.Scene.Active

/-!
# A scene is executed as it was set up

What an ADD asks for, as the messages that its event should send, and what the event does send
when other setup messages and reboots have come in between: the ADD is packed into a slot of the
table, stored, restored, and unpacked by the execution.

- `AddBody.sends` — the messages that an ADD asks for;
- `AddBody.Runs` — what it may carry;
- `ParExecutionScene.HoldsDest` — a destination in its entry, and what the entry then sends;
- `Scenes.executes_as_added` — the event sends what the ADD has asked for.
-/

namespace LumesSwitch

open Bufs Nor Runs Words

/-! ## What an ADD asks for -/

deriving instance DecidableEq for SceneTids

/-- A message on the air: the opcode, the parameters, the source and the destination. -/
structure SceneMsg where
  op : UInt16
  par : List UInt8
  src : UInt16
  dst : UInt16
  deriving DecidableEq

/-- `mesh_tx_cmd_rsp` sends as many bytes as it is told. -/
def SceneTx.msg (m : SceneTx) : SceneMsg := ⟨m.op, m.par.take m.len.toNat, m.src, m.dst⟩

def SceneAct.msg : SceneAct → Option SceneMsg
  | .send _ m => some m.msg
  | _ => none

/-- The messages of an execution. -/
def messages (acts : List SceneAct) : List SceneMsg := acts.filterMap SceneAct.msg

namespace SceneDest

/-- The byte of a payload. -/
def byte (d : SceneDest) (k : Nat) : UInt8 := d.payload.getD k 0

def opSig (d : SceneDest) : UInt16 := ofU16Bytes (d.byte 0) (d.byte 1)

/-- The message to a destination: one with an opcode of the list gets the counter, the transition
time and no delay, one of a vendor goes out behind its three bytes of opcode. -/
def sends (adr : UInt16) (transTime : UInt8) (t : SceneTids) (d : SceneDest) :
    SceneTids × List SceneMsg :=
  if d.addr = adrUnassigned then (t, [])
  else if d.opSig ∈ opSigSupportScene then
    ({ t with tid := t.tid + 1 },
      [⟨d.opSig, d.payload.drop 2 ++ [t.tid + 1, transTime, 0], adr, d.addr⟩])
  else if startVendorOpcode ≤ d.byte 0 then
    (t, [⟨(d.byte 0).toUInt16, d.payload.drop 3, adr, d.addr⟩])
  else (t, [])

/-- A payload fits an entry, holds its opcode, and leaves room for what is put behind it. -/
structure Sendable (d : SceneDest) : Prop where
  le : d.payload.length ≤ maxPayloadLen
  opcode : 2 ≤ d.payload.length
  room : d.opSig ∈ opSigSupportScene → d.payload.length < maxPayloadLen
  vendor : startVendorOpcode ≤ d.byte 0 → 3 ≤ d.payload.length

end SceneDest

/-- The recall of a scene, to all nodes. -/
def SceneInfor.sends (adr : UInt16) (t : SceneTids) (x : SceneInfor) :
    SceneTids × List SceneMsg :=
  ({ t with vdTid := t.vdTid + 1 },
    [⟨vdSceneRequestNoack,
      vendorSceneRecallNoack :: u16Bytes x.id ++ [t.vdTid + 1, x.transT, x.delayT], adr, 0xFFFF⟩])

namespace AddBody

/-- The messages that an ADD asks for, and the counters behind them. -/
def sends (adr : UInt16) (transTime : UInt8) (t : SceneTids) : AddBody → SceneTids × List SceneMsg
  | direct dests _ =>
    (runFrom (fun t d => (SceneDest.sends adr transTime t d).1) t dests,
      outputs (SceneDest.sends adr transTime) t dests)
  | single id .. => SceneInfor.sends adr t ⟨id, transTime, 0⟩
  | multi infos _ =>
    (runFrom (fun t x => (SceneInfor.sends adr t x).1) t infos,
      outputs (SceneInfor.sends adr) t infos)

/-- What an ADD may carry. -/
def Runs : AddBody → Prop
  | direct dests _ => ∀ d ∈ dests, d.Sendable
  | single .. => True
  | multi infos _ => infos ≠ [] ∧ infos.length ≤ maxSceneDestAdr ∧
    ∀ x ∈ infos, x.id ≠ lmSceneInInvalid

end AddBody

/-! ## A destination in its entry -/

theorem messages_append (acts acts' : List SceneAct) :
    messages (acts ++ acts') = messages acts ++ messages acts' := List.filterMap_append

namespace ParExecutionScene

variable {adr : UInt16} {stack : Nat → Buf 14} {p : ParExecutionScene} {i : Nat} {d : SceneDest}

/-- Entry `i` holds the destination. -/
def HoldsDest (p : ParExecutionScene) (i : Nat) (d : SceneDest) : Prop :=
  p.area.read (17 * i) (3 + d.payload.length) = d.bytes

namespace HoldsDest

theorem payload_eq (h : p.HoldsDest i d) :
    p.area.read (17 * i + 3) d.payload.length = d.payload := by
  have hdrop := congrArg (List.drop 3) h
  rw [Buf.read_drop] at hdrop
  exact hdrop

theorem head_eq (h : p.HoldsDest i d) :
    p.area.read (17 * i) 3 = u16Bytes d.addr ++ [UInt8.ofNat d.payload.length] := by
  have htake := congrArg (List.take 3) h
  rw [Buf.read_take _ _ (Nat.le_add_right 3 _)] at htake
  exact htake

theorem destAddr_eq (h : p.HoldsDest i d) : p.destAddr i = d.addr := by
  have hhead := h.head_eq
  have hlo := p.area.getD_read (17 * i) (show 0 < 3 by decide)
  have hhi := p.area.getD_read (17 * i) (show 1 < 3 by decide)
  rw [hhead] at hlo hhi
  rw [destAddr, ← hhi, show p.area.get (17 * i) = _ from hlo.symm]
  exact ofU16Bytes_u16Bytes d.addr

theorem payloadLen_eq (h : p.HoldsDest i d) : p.payloadLen i = UInt8.ofNat d.payload.length := by
  have hhead := h.head_eq
  have hlen := p.area.getD_read (17 * i) (show 2 < 3 by decide)
  rw [hhead] at hlen
  exact hlen.symm

theorem toNat_payloadLen (h : p.HoldsDest i d) : (p.payloadLen i).toNat = d.payload.length := by
  rw [h.payloadLen_eq]
  exact toNat_ofNat_of_le d.length_le

theorem byte_eq (h : p.HoldsDest i d) {k : Nat} (hk : k < d.payload.length) :
    p.payload i k = d.byte k := by
  have hget := p.area.getD_read (17 * i + 3) hk
  rw [h.payload_eq] at hget
  exact hget.symm

theorem opSig_eq (h : p.HoldsDest i d) (htwo : 2 ≤ d.payload.length) : p.opSig i = d.opSig := by
  rw [opSig, h.byte_eq (by omega), h.byte_eq (by omega)]
  rfl

end HoldsDest

/-! ## What an entry sends -/

/-- What is put into a buffer piece by piece, from its start on. -/
theorem read_write_concat {n : Nat} (a : Buf n) {bs : List UInt8} {len : Nat} {x : UInt8}
    (h : a.read 0 len = bs) (hn : len < n) : (a.write len [x]).read 0 (len + 1) = bs ++ [x] := by
  have hfront : (a.write len [x]).read 0 len = a.read 0 len :=
    Buf.read_write_outside a (.inl (Nat.le_of_eq (Nat.zero_add len)))
  have hlast : (a.write len [x]).read len 1 = [x] := a.read_write (show len + [x].length ≤ n from hn)
  rw [Buf.read_add, Nat.zero_add, hfront, h, hlast]

/-- **The branch for an opcode of the list** sends the payload behind the opcode with the three
bytes. -/
theorem messages_sendSig (h : p.HoldsDest i d) (hd : d.Sendable)
    (hroom : d.payload.length < maxPayloadLen) (t : SceneTids) (op : UInt16) :
    messages (p.sendSig adr stack i t op).2 =
      [⟨op, d.payload.drop 2 ++ [t.tid + 1, p.transTime, 0], adr, d.addr⟩] := by
  have hmax : maxPayloadLen = 14 := rfl
  have htwo := hd.opcode
  have hlen := h.toNat_payloadLen
  obtain ⟨n, hn⟩ := Nat.exists_eq_add_of_le htwo
  have hpar : (p.payloadLen i - 2).toNat = n := by
    rw [UInt8.toNat_sub_of_le _ _ (UInt8.le_iff_toNat_le.mpr (hlen ▸ htwo)), hlen, hn]
    exact Nat.add_sub_cancel_left 2 n
  have hstep : ∀ k : UInt8, k.toNat ≤ 3 → (p.payloadLen i - 2 + k).toNat = n + k.toNat := by
    intro k hk
    rw [UInt8.toNat_add, hpar]
    omega
  have hpayload : p.area.read (17 * i + 5) n = d.payload.drop 2 := by
    have hread := h.payload_eq
    rw [hn] at hread
    rw [← hread, Buf.read_drop]
  have hcopy : messages ((List.range n).flatMap fun k =>
      [SceneAct.readPayload i (2 + k), .writeControl k]) = [] := by
    refine List.filterMap_eq_nil_iff.mpr fun a ha => ?_
    obtain ⟨k, -, hk⟩ := List.mem_flatMap.mp ha
    rcases List.mem_pair.mp hk with rfl | rfl <;> rfl
  -- the buffer is filled from its start on
  have hlenRead : (p.area.read (17 * i + 5) n).length = n := Buf.read_length ..
  have hfront : ((stack i).write 0 (p.area.read (17 * i + 5) n)).read 0 n = d.payload.drop 2 := by
    have hback := (stack i).read_write
      (show 0 + (p.area.read (17 * i + 5) n).length ≤ 14 by omega)
    rw [hlenRead] at hback
    rw [hback, hpayload]
  have hfull := read_write_concat _ (x := 0) (read_write_concat _ (x := p.transTime)
    (read_write_concat _ (x := t.tid + 1) hfront (by omega)) (by omega)) (by omega)
  rw [sendSig]
  dsimp only
  rw [hpar, hstep 1 (by decide), hstep 2 (by decide), hstep 3 (by decide), messages_append, hcopy,
    h.destAddr_eq]
  refine congrArg (fun par => [(⟨op, par, adr, d.addr⟩ : SceneMsg)]) ?_
  refine (Buf.read_take _ 0 (show n + 3 ≤ 14 by omega)).trans (hfull.trans ?_)
  rw [List.append_assoc, List.append_assoc]
  rfl

variable (adr stack) in
/-- The loop over the opcodes without the one of the payload. -/
theorem trySig_none {ops : List UInt16} (h : p.opSig i ∉ ops) (t : SceneTids) :
    runFrom (fun t op => (p.trySig adr stack i t op).1) t ops = t ∧
      messages (outputs (p.trySig adr stack i) t ops) = [] := by
  refine outputs_quiet (fun t op hop => ?_) t
  have hne : ¬ p.opSig i = op := fun heq => h (heq.symm ▸ hop)
  have hturn : p.trySig adr stack i t op = (t, [.readPayload i 1, .readPayload i 0]) := if_neg hne
  rw [hturn]
  exact ⟨rfl, rfl⟩

variable (adr stack) in
/-- The loop over the opcodes sends in the turn of the one of the payload. -/
theorem trySig_once {ops : List UInt16} (h : p.opSig i ∈ ops) (hnodup : ops.Nodup)
    (t : SceneTids) :
    runFrom (fun t op => (p.trySig adr stack i t op).1) t ops =
        (p.sendSig adr stack i t (p.opSig i)).1 ∧
      messages (outputs (p.trySig adr stack i) t ops) =
        messages (p.sendSig adr stack i t (p.opSig i)).2 := by
  induction ops with
  | nil => exact nomatch h
  | cons op ops ih =>
    obtain ⟨hop, hrest⟩ := List.nodup_cons.mp hnodup
    rw [runFrom_cons, outputs_cons, messages_append]
    by_cases heq : p.opSig i = op
    · subst heq
      have hturn : p.trySig adr stack i t (p.opSig i) =
          ((p.sendSig adr stack i t (p.opSig i)).1,
            [.readPayload i 1, .readPayload i 0] ++ (p.sendSig adr stack i t (p.opSig i)).2) :=
        if_pos rfl
      obtain ⟨hrun, hout⟩ := trySig_none adr stack hop
        (p.sendSig adr stack i t (p.opSig i)).1
      rw [hturn]
      dsimp only
      rw [hrun, hout, List.append_nil]
      exact ⟨rfl, rfl⟩
    · have hturn : p.trySig adr stack i t op = (t, [.readPayload i 1, .readPayload i 0]) :=
        if_neg heq
      have hmem := (List.mem_cons.mp h).resolve_left heq
      obtain ⟨hrun, hout⟩ := ih hmem hrest
      rw [hturn]
      exact ⟨hrun, hout⟩

/-- The branch for a vendor sends the payload behind the three bytes of its opcode. -/
theorem messages_sendVendor (h : p.HoldsDest i d) (hd : d.Sendable) :
    messages (p.sendVendor adr i) = if startVendorOpcode ≤ d.byte 0 then
      [⟨(d.byte 0).toUInt16, d.payload.drop 3, adr, d.addr⟩] else [] := by
  have hmax : maxPayloadLen = 14 := rfl
  have htwo := hd.opcode
  have hle := hd.le
  rw [sendVendor, h.byte_eq (by omega)]
  split
  · next hop =>
    have hthree := hd.vendor hop
    obtain ⟨n, hn⟩ := Nat.exists_eq_add_of_le hthree
    have hlen : (((p.payloadLen i).toNat : Int) - 3).toNat = n := by
      rw [h.toNat_payloadLen]
      omega
    have hpayload : p.area.read (17 * i + 6) n = d.payload.drop 3 := by
      have hread := h.payload_eq
      rw [hn] at hread
      rw [← hread, Buf.read_drop]
    have htake : (p.area.read (17 * i + 6) 11).take n = p.area.read (17 * i + 6) n :=
      Buf.read_take _ _ (by omega)
    refine congrArg₂ (fun par dst => [(⟨(d.byte 0).toUInt16, par, adr, dst⟩ : SceneMsg)]) ?_
      h.destAddr_eq
    dsimp only
    rw [hlen, htake, hpayload]
  · rfl

/-- **An entry** sends the message of its destination. -/
theorem executeEntry_holds (h : p.HoldsDest i d) (hd : d.Sendable) (t : SceneTids) :
    ((p.executeEntry adr stack t i).1, messages (p.executeEntry adr stack t i).2) =
      d.sends adr p.transTime t := by
  rw [executeEntry, h.destAddr_eq, SceneDest.sends]
  by_cases haddr : d.addr = adrUnassigned
  · rw [if_pos haddr, if_pos haddr]
    rfl
  · rw [if_neg haddr, if_neg haddr, h.toNat_payloadLen, if_neg (Nat.not_lt.mpr hd.le)]
    dsimp only
    rw [messages_append, messages_sendVendor h hd]
    have hop := h.opSig_eq hd.opcode
    by_cases hsig : d.opSig ∈ opSigSupportScene
    · -- an opcode of the list is not one of a vendor
      have hvendor : ¬ startVendorOpcode ≤ d.byte 0 := by
        have hnot := not_vendor_of_sig (p := p) (i := i) (hop ▸ hsig)
        rwa [h.byte_eq (by have htwo := hd.opcode; omega)] at hnot
      obtain ⟨hrun, hout⟩ := trySig_once adr stack (p := p) (i := i)
        (hop ▸ hsig) nodup_opSigSupportScene t
      rw [if_pos hsig, if_neg hvendor, List.append_nil, hrun, hout,
        messages_sendSig h hd (hd.room hsig), hop]
      rfl
    · obtain ⟨hrun, hout⟩ := trySig_none adr stack (p := p) (i := i)
        (fun hmem => hsig (hop ▸ hmem)) t
      rw [if_neg hsig, hrun, hout, List.nil_append]
      split
      · rfl
      · rfl

/-- A loop over the five entries sends what the list in the first of them asks for, if the others
are free. -/
theorem overEntries_view {κ : Type*} {step : SceneTids → Nat → SceneTids × List SceneAct}
    {step' : SceneTids → κ → SceneTids × List SceneMsg} {R : Nat → κ → Prop} {ks : List κ}
    (hview : ∀ t i k, R i k → ((step t i).1, messages (step t i).2) = step' t k)
    (hn : ks.length ≤ maxSceneDestAdr) (hR : List.Forall₂ R (List.range' 0 ks.length) ks)
    (hfree : ∀ t j, ks.length ≤ j → j < maxSceneDestAdr → step t j = (t, [])) (t : SceneTids) :
    ((overEntries step t).1, messages (overEntries step t).2) =
      (runFrom (fun t k => (step' t k).1) t ks, outputs step' t ks) := by
  have hrange : List.range maxSceneDestAdr =
      List.range' 0 ks.length ++ List.range' ks.length (maxSceneDestAdr - ks.length) := by
    have happend := List.range'_append_1 (s := 0) (m := ks.length)
      (n := maxSceneDestAdr - ks.length)
    rw [Nat.zero_add, Nat.add_sub_cancel' hn] at happend
    rw [List.range_eq_range', happend]
  have hquiet : ∀ t, ∀ j ∈ List.range' ks.length (maxSceneDestAdr - ks.length),
      (step t j).1 = t ∧ messages (step t j).2 = [] := by
    intro t j hj
    obtain ⟨hle, hlt⟩ := List.mem_range'_1.mp hj
    rw [hfree t j hle (by omega)]
    exact ⟨rfl, rfl⟩
  obtain ⟨hrun, hout⟩ := outputs_quiet hquiet
    (runFrom (fun t i => (step t i).1) t (List.range' 0 ks.length))
  rw [overEntries, hrange]
  dsimp only
  rw [runFrom_append, outputs_append, hrun, messages_append]
  refine Eq.trans ?_ (outputs_view (f := SceneAct.msg) hview hR t)
  exact congrArg (Prod.mk _) ((congrArg (messages _ ++ ·) hout).trans (List.append_nil _))

/-- A list of messages, the other entries being free. -/
theorem execute_dests {dests : List SceneDest} (hid : p.sceneId = sceneIdInvalid)
    (hn : dests.length ≤ maxSceneDestAdr)
    (h : List.Forall₂ p.HoldsDest (List.range' 0 dests.length) dests)
    (hd : ∀ d ∈ dests, d.Sendable)
    (hfree : ∀ j, dests.length ≤ j → j < maxSceneDestAdr → ¬ p.HasMessage j) (t : SceneTids) :
    ((p.execute adr stack t).1, messages (p.execute adr stack t).2) =
      (runFrom (fun t d => (SceneDest.sends adr p.transTime t d).1) t dests,
        outputs (SceneDest.sends adr p.transTime) t dests) := by
  have hboth : List.Forall₂ (fun i d => p.HoldsDest i d ∧ d.Sendable)
      (List.range' 0 dests.length) dests := by
    refine List.forall₂_iff_zip.mpr ⟨h.length_eq, fun {i d} hid => ?_⟩
    exact ⟨(List.forall₂_iff_zip.mp h).2 hid, hd d (List.of_mem_zip hid).2⟩
  rw [execute, if_neg (not_not.mpr hid)]
  exact overEntries_view (fun t i d hid => executeEntry_holds hid.1 hid.2 t) hn hboth
    (fun t j hle hlt => executeEntry_none (hfree j hle hlt) t) t

/-- The bytes of a scene in its entry. -/
theorem recallEntry_holds {j : Nat} {x : SceneInfor} (h : p.area.read (4 * j) 4 = x.bytes)
    (hvalid : x.id ≠ lmSceneInInvalid) (t : SceneTids) :
    ((p.recallEntry adr t j).1, messages (p.recallEntry adr t j).2) = x.sends adr t := by
  have hbyte : ∀ k < 4, p.area.get (4 * j + k) = x.bytes.getD k 0 := by
    intro k hk
    rw [← h, Buf.getD_read _ _ hk]
  have hid : p.inSceneId j = x.id := by
    rw [inSceneId, hbyte 1 (by decide), show p.area.get (4 * j) = _ from hbyte 0 (by decide)]
    exact ofU16Bytes_u16Bytes x.id
  rw [recallEntry, if_pos (by rw [hid]; exact hvalid), hid, hbyte 2 (by decide),
    hbyte 3 (by decide)]
  rfl

/-- A list of scenes, the other entries being free. -/
theorem execute_infos {infos : List SceneInfor} (hid : p.sceneId = lmSceneInInvalid)
    (hn : infos.length ≤ maxSceneDestAdr)
    (h : List.Forall₂ (fun j x => p.area.read (4 * j) 4 = x.bytes)
      (List.range' 0 infos.length) infos)
    (hvalid : ∀ x ∈ infos, x.id ≠ lmSceneInInvalid)
    (hfree : ∀ j, infos.length ≤ j → j < maxSceneDestAdr → p.inSceneId j = lmSceneInInvalid)
    (t : SceneTids) :
    ((p.execute adr stack t).1, messages (p.execute adr stack t).2) =
      (runFrom (fun t x => (SceneInfor.sends adr t x).1) t infos,
        outputs (SceneInfor.sends adr) t infos) := by
  have hboth : List.Forall₂ (fun j (x : SceneInfor) => p.area.read (4 * j) 4 = x.bytes ∧
      x.id ≠ lmSceneInInvalid) (List.range' 0 infos.length) infos := by
    refine List.forall₂_iff_zip.mpr ⟨h.length_eq, fun {j x} hjx => ?_⟩
    exact ⟨(List.forall₂_iff_zip.mp h).2 hjx, hvalid x (List.of_mem_zip hjx).2⟩
  have hlist : lmSceneInInvalid ≠ sceneIdInvalid := by decide
  have hmany : ¬ lmSceneInInvalid ≠ 0xFFFF := by decide
  rw [execute, hid, if_pos hlist, if_neg hmany]
  exact overEntries_view (fun t j x hjx => recallEntry_holds hjx.1 hjx.2 t) hn hboth
    (fun t j hle hlt => if_neg (not_not.mpr (hfree j hle hlt))) t

end ParExecutionScene

/-! ## What an ADD leaves in its slot -/

/-- The loop over the destinations leaves each of them in its entry, and the cursor in front of the
byte behind them. -/
theorem addDests_hold {par : Nat → UInt8} {t : UInt8} (dests : List SceneDest) (a : SceneArea)
    (index i : Nat) (hn : i + dests.length ≤ maxSceneDestAdr)
    (hle : ∀ d ∈ dests, d.payload.length ≤ maxPayloadLen)
    (h : CarriesAt par (index + 1) (dests.flatMap SceneDest.bytes ++ [t])) :
    let r := runFrom (addDest par) (a, index) (List.range' i dests.length)
    par (r.2 + 1) = t ∧
      List.Forall₂ (fun j d => r.1.read (17 * j) (3 + d.payload.length) = d.bytes)
        (List.range' i dests.length) dests ∧
      ∀ off len, off + len ≤ 17 * i → r.1.read off len = a.read off len := by
  induction dests generalizing a index i with
  | nil => exact ⟨(carriesAt_cons.mp h).1, .nil, fun _ _ _ => rfl⟩
  | cons d dests ih =>
    have hmax : maxPayloadLen = 14 := rfl
    rw [List.length_cons] at hn
    rw [List.flatMap_cons, List.append_assoc] at h
    obtain ⟨hadr, hnum, hpay, hrest⟩ := carriesAt_dest h
    obtain ⟨hd, hds⟩ := List.forall_mem_cons.mp hle
    have hclamp : clampLen (par (index + 3)) = d.payload.length := by
      rw [clampLen, hnum, toNat_ofNat_of_le d.length_le, Nat.min_eq_left hd]
    obtain ⟨hlen, hstored⟩ := addDest_stores par a index (i := i) (by omega)
    have hcursor := addDest_cursor par a index i
    have hframe : ∀ off len, off + len ≤ 17 * i →
        (addDest par (a, index) i).1.read off len = a.read off len :=
      fun off len hoff => addDest_frame par a index i (.inl hoff)
    rw [hclamp] at hlen hstored hcursor
    rw [List.length_cons, List.range'_succ, runFrom_cons]
    generalize addDest par (a, index) i = st at hlen hstored hcursor hframe
    obtain ⟨a', index'⟩ := st
    obtain rfl : index' = index + 3 + d.payload.length := hcursor
    dsimp only at hlen hstored hframe ⊢
    obtain ⟨ht, hall, hout⟩ := ih a' (index + 3 + d.payload.length) (i + 1) (by omega) hds hrest
    refine ⟨ht, .cons ?_ hall, fun off len hoff => ?_⟩
    · rw [hout _ _ (by omega), Buf.read_add]
      rw [destBytes, hlen, hpay] at hstored
      rw [hstored, SceneDest.bytes, ← hadr]
      rfl
    · rw [hout off len (by omega), hframe off len hoff]

namespace Scenes

variable {b : Board} (s : Scenes b) {par : Nat → UInt8} {k : b.Btn} {e : Fin 8} {m : AddMsg}

/-- The slot is for the event, and its execution sends what the ADD asks for. -/
def Executes (m : AddMsg) (evt : UInt8) (p : ParExecutionScene) : Prop :=
  p.btnEvent = evt ∧ ∀ (adr : UInt16) (stack : Nat → Buf 14) (t : SceneTids),
    ((p.execute adr stack t).1, messages (p.execute adr stack t).2) =
      m.body.sends adr m.transTime t

/-- A list of messages. -/
theorem executes_direct {dests : List SceneDest} {h : dests.length ≤ 255}
    (hbody : m.body = .direct dests h) (hpar : CarriesAt par 0 m.bytes)
    (hok : (s.addSlot k e par).2 = true) (hruns : ∀ d ∈ dests, d.Sendable) :
    Executes m (keyEvent par) ((s.addSlot k e par).1.table k e) := by
  have hfive : maxSceneDestAdr = 5 := rfl
  obtain ⟨-, -, hid, hnums, hentries⟩ := AddMsg.carries hpar
  rw [hbody] at hid hnums hentries
  have hn : (par 4).toNat = dests.length := by rw [hnums]; exact toNat_ofNat_of_le h
  obtain ⟨hle, hslot⟩ := s.addSlot_direct hid hok
  rw [hn] at hle
  obtain ⟨ht, hhold, -⟩ := addDests_hold dests ParExecutionScene.cleared.area 4 0 (by omega)
    (fun d hd => (hruns d hd).le) hentries
  obtain ⟨-, -, -, hframe⟩ := addDests_spec par ParExecutionScene.cleared.area 4 0 dests.length
    (by omega)
  dsimp only at hslot
  rw [hn] at hslot
  generalize runFrom (addDest par) (ParExecutionScene.cleared.area, 4) _ = r at *
  rw [hslot, ht]
  refine ⟨rfl, fun adr stack t => ?_⟩
  rw [hbody, AddBody.sends]
  refine ParExecutionScene.execute_dests (p := ⟨keyEvent par, sceneIdInvalid, r.1, m.transTime⟩)
    rfl hle hhold hruns (fun j hj hj' hmsg => ?_) t
  -- the length of a free entry is that of no message
  have hlen : r.1.get (17 * j + 2) = ParExecutionScene.cleared.area.get (17 * j + 2) :=
    List.head_eq_of_cons_eq (hframe (17 * j + 2) 1 (by omega))
  have hle' : (r.1.get (17 * j + 2)).toNat ≤ maxPayloadLen := hmsg.2
  rw [hlen, get_cleared (by omega)] at hle'
  exact absurd hle' (by decide)

/-- A single scene. -/
theorem executes_single {id : UInt16} {nums : UInt8} {hne : id ≠ sceneIdInvalid}
    {hne' : id ≠ lmSceneInInvalid} (hbody : m.body = .single id nums hne hne')
    (hpar : CarriesAt par 0 m.bytes) :
    Executes m (keyEvent par) ((s.addSlot k e par).1.table k e) := by
  obtain ⟨-, -, hid, -, hentries⟩ := AddMsg.carries hpar
  rw [hbody] at hid hentries
  have hid : ofU16Bytes (par 2) (par 3) = id := hid
  have ht : par 5 = m.transTime := (carriesAt_cons.mp hentries).1
  rw [s.addSlot_single (by rwa [hid]) (by rwa [hid]), hid, ht]
  refine ⟨rfl, fun adr stack t => ?_⟩
  have hinvalid : lmSceneInInvalid = 0xFFFF := rfl
  rw [hinvalid] at hne'
  rw [hbody, ParExecutionScene.execute]
  dsimp only
  rw [if_pos hne, if_pos hne']
  rfl

/-- A list of scenes. -/
theorem executes_multi {infos : List SceneInfor} {h : infos.length ≤ 255}
    (hbody : m.body = .multi infos h) (hpar : CarriesAt par 0 m.bytes) (hne : infos ≠ [])
    (hn : infos.length ≤ maxSceneDestAdr) (hvalid : ∀ x ∈ infos, x.id ≠ lmSceneInInvalid) :
    Executes m (keyEvent par) ((s.addSlot k e par).1.table k e) := by
  have hfive : maxSceneDestAdr = 5 := rfl
  obtain ⟨-, -, hid, hnums, hentries⟩ := AddMsg.carries hpar
  rw [hbody] at hid hnums hentries
  have hid : ofU16Bytes (par 2) (par 3) = lmSceneInInvalid := hid
  have hlen : (par 4).toNat = infos.length := by rw [hnums]; exact toNat_ofNat_of_le h
  have hpos : infos.length ≠ 0 := fun hzero => hne (List.length_eq_zero_iff.mp hzero)
  have hslot := s.addSlot_multi (k := k) (e := e) hid (by rw [hlen]; exact ⟨hpos, hn⟩)
  dsimp only at hslot
  rw [hlen] at hslot
  obtain ⟨ht, hmap, hframe⟩ := addScenes_spec infos ParExecutionScene.cleared.area 4 0
    (by omega) hentries
  generalize runFrom (addScene par) (ParExecutionScene.cleared.area, 4) _ = r at *
  have hhold : List.Forall₂ (fun j (x : SceneInfor) => r.1.read (4 * j) 4 = x.bytes)
      (List.range' 0 infos.length) infos := by
    rw [← List.forall₂_eq_eq_eq, List.forall₂_map_left_iff, List.forall₂_map_right_iff] at hmap
    exact hmap
  rw [hslot, ht]
  refine ⟨rfl, fun adr stack t => ?_⟩
  rw [hbody, AddBody.sends]
  refine ParExecutionScene.execute_infos (p := ⟨keyEvent par, lmSceneInInvalid, r.1, m.transTime⟩)
    rfl hn hhold hvalid (fun j hj hj' => ?_) t
  have hlo : r.1.get (4 * j) = ParExecutionScene.cleared.area.get (4 * j) :=
    List.head_eq_of_cons_eq (hframe (4 * j) 1 (by omega))
  have hhi : r.1.get (4 * j + 1) = ParExecutionScene.cleared.area.get (4 * j + 1) :=
    List.head_eq_of_cons_eq (hframe (4 * j + 1) 1 (by omega))
  rw [ParExecutionScene.inSceneId]
  dsimp only
  rw [hlo, hhi, get_cleared (by omega), get_cleared (by omega)]
  rfl

/-- The slot of an ADD that may be carried. -/
theorem executes_addSlot (hpar : CarriesAt par 0 m.bytes) (hok : (s.addSlot k e par).2 = true)
    (hruns : m.body.Runs) : Executes m (keyEvent par) ((s.addSlot k e par).1.table k e) := by
  cases hbody : m.body with
  | direct dests h =>
    rw [hbody] at hruns
    exact s.executes_direct hbody hpar hok hruns
  | single id nums hne hne' => exact s.executes_single hbody hpar
  | multi infos h =>
    rw [hbody] at hruns
    obtain ⟨hne, hn, hvalid⟩ := hruns
    exact s.executes_multi hbody hpar hne hn hvalid

/-- **A scene is executed as it was set up**: after an ADD that is answered with success, and any
messages and reboots that are not for its slot, its event sends the messages that the ADD has asked
for, in their order, and no others. -/
theorem executes_as_added (s : Scenes b) (m : AddMsg) {par : Nat → UInt8}
    (hpar : CarriesAt par 0 m.bytes) {k : b.Btn} {e : Fin 8}
    (hslot : slotOf b (keyNbr par) (keyEvent par) = some (k, e))
    (hok : (s.handle par).2 =
      .sent [rspTypeAndId par msgAdd, exStatusSuccess, par 1, par 2, par 3])
    (hruns : m.body.Runs) (evs : List Event)
    (hevs : ∀ ev ∈ evs, NonConflicting k (keyEvent par) ev) (adr : UInt16)
    (stack : Nat → Buf 14) (t : SceneTids) :
    let r := (runFrom step (s.handle par).1 evs).executionSceneActive adr stack t (keyNbr par)
      (keyEvent par)
    (r.1, messages r.2) = m.body.sends adr m.transTime t := by
  have hadd := (AddMsg.carries hpar).1
  have he := getKeyEventIndex_of_slotOf hslot
  obtain ⟨hsync, hheld, hrsp⟩ := s.handle_add_slot hadd hslot
  have hsucc : (s.addSlot k e par).2 = true := by
    rw [hok] at hrsp
    have hstatus := (List.cons.inj (List.cons.inj (SceneRsp.sent.inj hrsp)).2).1
    by_contra hfail
    rw [if_neg hfail] at hstatus
    exact absurd hstatus (by decide)
  have hrun := (run_table_other hsync he evs hevs).2
  obtain ⟨hevt, hexec⟩ := s.executes_addSlot (m := m) (e := e) (k := k) hpar hsucc hruns
  rw [executionSceneActive, hslot]
  dsimp only
  rw [hrun, hheld, if_pos hevt]
  exact hexec adr stack t

/-- For the first press of button 0, a lamp that is switched on, and a message of a vendor to a
group. -/
def lampAndVendor : AddMsg where
  typeAndId := 24
  event := 0x01
  body := .direct [⟨0x0012, [0x82, 0x02, 1], by decide⟩,
    ⟨0xC001, [0xC5, 0x11, 0x02, 9, 8], by decide⟩] (by decide)
  transTime := 7
  isAdd := by decide

/-- The two messages are sent after an ADD for another button and a reboot. -/
theorem executes_as_added_lampAndVendor :
    let s := runFrom step ((erased board1).handle (received lampAndVendor.bytes)).1
      [.msg (received otherScene.bytes), .reboot]
    let r := s.executionSceneActive 1 (fun _ _ => 0xAA) ⟨4, 0⟩ 0 1
    (r.1, messages r.2) = (⟨5, 0⟩,
      [⟨0x0282, [1, 5, 7, 0], 1, 0x0012⟩, ⟨0x00C5, [9, 8], 1, 0xC001⟩]) := by
  refine (executes_as_added (erased board1) lampAndVendor (k := ⟨0, by decide⟩) (e := 1)
    (by decide +kernel) (by decide +kernel) (by decide +kernel) ?_ _ ?_ 1 (fun _ _ => 0xAA)
    ⟨4, 0⟩).trans (by decide +kernel)
  · intro d hd
    rcases List.mem_pair.mp hd with rfl | rfl
    · exact ⟨by decide, by decide, by decide, by decide⟩
    · exact ⟨by decide, by decide, by decide, by decide⟩
  · rintro ev hev par rfl
    obtain hmsg | hmsg := List.mem_pair.mp hev
    · obtain rfl := Event.msg.inj hmsg
      have hother : slotOf board1 (keyNbr (received otherScene.bytes))
          (keyEvent (received otherScene.bytes)) = some (⟨1, by decide⟩, 1) := by decide +kernel
      rw [NotFor, if_pos (by decide +kernel), hother]
      rintro k' e' heq rfl
      exact absurd (Prod.mk.inj (Option.some.inj heq)).1 (by decide)
    · cases hmsg

end Scenes

end LumesSwitch
