import LumesSwitch.Net.Receive
import Mathlib.Algebra.BigOperators.Fin
import Mathlib.Algebra.Order.BigOperators.Group.Finset

/-!
# Switches bound to one group (`net_message.c`, `relay.c`)

Switches whose relays are bound to one group hear each other's messages. A change that the
group has caused must not be sent to the group again, or a few switches keep each other busy.

A relay *owes* a message if a change waits for its next pass and its last command was not
the group's. Only a command for the relay alone makes it owe, and a message pays for one
owing relay, so there are no more messages than commands.

- `Device.budget` — the messages sent and those owed; `Device.within_proc` — a pass keeps it;
- `Mesh` — the switches and the messages in flight;
- `Mesh.sent_le_of_stepOk` — no more messages than commands, if no automatic OFF of a
  momentary relay breaks in.
-/

namespace LumesSwitch

open Flags Runs

/-- A message to group `adr`. -/
def NetOut.isTo (adr : UInt16) : NetOut → Bool
  | .cmd _ _ _ dst => dst = adr
  | _ => false

namespace Device

variable {b : Board} {adr : UInt16} {c : b.Chn} {on : Bool} {d d' d'' : NetDevice b}

/-! ## What a switch owes to its group -/

/-- A change of relay `c` waits that the group has not caused. -/
def Owes (adr : UInt16) (d : NetDevice b) (c : b.Chn) : Prop :=
  d.core.set c ≠ d.core.target c ∧ d.lastDst c ≠ adr

instance (adr : UInt16) (d : NetDevice b) (c : b.Chn) : Decidable (d.Owes adr c) :=
  inferInstanceAs (Decidable (_ ∧ _))

/-- The relays that owe a message. -/
def owed (adr : UInt16) (d : NetDevice b) : Finset b.Chn := Finset.univ.filter fun c => d.Owes adr c

/-- How many messages the switch has sent to the group. -/
def sentTo (adr : UInt16) (d : NetDevice b) : Nat := d.cmds.countP (NetOut.isTo adr)

/-- The messages sent and owed. -/
def budget (adr : UInt16) (d : NetDevice b) : Nat := (d.owed adr).card + d.sentTo adr

/-- Every relay is bound to the group, and none is in lighting mode. -/
structure Bound (adr : UInt16) (d : NetDevice b) : Prop where
  group : ∀ c, d.env.getGroupBindingAdr (Board.relayEle c) = adr
  mode : ∀ c, d.sh.switchMode c ≠ .lighting

instance (adr : UInt16) (d : NetDevice b) : Decidable (d.Bound adr) :=
  decidable_of_iff ((∀ c, d.env.getGroupBindingAdr (Board.relayEle c) = adr) ∧
    ∀ c, d.sh.switchMode c ≠ .lighting) ⟨fun h => ⟨h.1, h.2⟩, fun h => ⟨h.group, h.mode⟩⟩

/-- From `d` to `d'` the budget has grown by `k` at most. -/
structure Within (adr : UInt16) (k : Nat) (d d' : NetDevice b) : Prop where
  bound : Bound adr d → Bound adr d'
  le : d'.budget adr ≤ d.budget adr + k

theorem mem_owed : c ∈ d.owed adr ↔ d.Owes adr c := by
  rw [owed, Finset.mem_filter]
  exact and_iff_right (Finset.mem_univ c)

theorem EnvKept.bound (h : EnvKept d d') (hb : Bound adr d) : Bound adr d' :=
  ⟨fun c => (h.group _).trans (hb.group c), fun c => by rw [h.mode]; exact hb.mode c⟩

namespace Within

theorem trans {k k' : Nat} (h : Within adr k d d') (h' : Within adr k' d' d'') :
    Within adr (k + k') d d'' := by
  have hle := h.le
  have hle' := h'.le
  exact ⟨fun hb => h'.bound (h.bound hb), by omega⟩

/-- Nothing new is owed, and nothing is sent. -/
theorem of_owes (hkept : EnvKept d d') (howes : ∀ c, d'.Owes adr c → d.Owes adr c) :
    Within adr 0 d d' := by
  have hcard : (d'.owed adr).card ≤ (d.owed adr).card :=
    Finset.card_le_card fun c hc => mem_owed.mpr (howes c (mem_owed.mp hc))
  refine ⟨hkept.bound, ?_⟩
  rw [budget, budget, sentTo, sentTo, hkept.cmds]
  omega

theorem refl (adr : UInt16) (d : NetDevice b) : Within adr 0 d d :=
  .of_owes (.refl d) fun _ h => h

/-- The driver goes on without a command. -/
theorem of_outside (hset : d'.core.set = d.core.set) (htarget : d'.core.target = d.core.target)
    (hout : d'.outside = d.outside) : Within adr 0 d d' := by
  have hsh : d'.sh = d.sh := congrArg Prod.fst hout
  have henv : d'.env = d.env := congrArg Prod.snd hout
  refine .of_owes (.of_env henv hsh) fun c => ?_
  rw [Owes, Owes, hset, htarget, lastDst, hsh]
  exact id

theorem of_core (hcore : d'.core = d.core) (hout : d'.outside = d.outside) : Within adr 0 d d' :=
  .of_outside (congrArg RelayCore.set hcore) (congrArg RelayCore.target hcore) hout

end Within

/-- A command makes no other relay owe. -/
theorem OnlyAt.owes (h : OnlyAt c d d') {c' : b.Chn} (hc' : c' ≠ c) :
    d'.Owes adr c' ↔ d.Owes adr c' := by
  rw [Owes, Owes, h.target, h.set c' hc', h.lastDst c' hc']

/-- A command makes its relay owe at most. -/
theorem OnlyAt.within (h : OnlyAt c d d') : Within adr 1 d d' := by
  have hsub : d'.owed adr ⊆ insert c (d.owed adr) := by
    intro c' hc'
    by_cases heq : c' = c
    · exact heq ▸ Finset.mem_insert_self ..
    · exact Finset.mem_insert_of_mem (mem_owed.mpr ((h.owes heq).mp (mem_owed.mp hc')))
  have hcard := (Finset.card_le_card hsub).trans (Finset.card_insert_le ..)
  refine ⟨h.kept.bound, ?_⟩
  rw [budget, budget, sentTo, sentTo, h.kept.cmds]
  omega

/-- A command that leaves its relay owing nothing costs nothing. -/
theorem OnlyAt.within_zero (h : OnlyAt c d d') (hc : d'.Owes adr c → d.Owes adr c) :
    Within adr 0 d d' := by
  refine .of_owes h.kept fun c' hc' => ?_
  by_cases heq : c' = c
  · exact heq ▸ hc (heq ▸ hc')
  · exact (h.owes heq).mp hc'

/-! ## A state change -/

/-- From `d` to `d'` relay `c` has kept its flags; another one has at most been commanded to
`on` in the name of the group. -/
structure Aside (adr : UInt16) (c : b.Chn) (on : Bool) (d d' : NetDevice b) : Prop where
  group : ∀ m, d'.env.getGroupBindingAdr m = d.env.getGroupBindingAdr m
  mode : d'.sh.switchMode = d.sh.switchMode
  target : d'.core.target = d.core.target
  set : d'.core.set c = d.core.set c
  others : ∀ c', c' ≠ c →
    (d'.core.set c' = d.core.set c' ∧ d'.lastDst c' = d.lastDst c') ∨
      (d'.lastDst c' = adr ∧ (d'.core.set c' = d.core.set c' ∨ d'.core.set c' = on))

namespace Aside

theorem of_onlyAt (h : OnlyAt c d d') (hset : d'.core.set c = d.core.set c) :
    Aside adr c on d d' :=
  ⟨h.kept.group, h.kept.mode, h.target, hset,
    fun c' hc' => Or.inl ⟨h.set c' hc', h.lastDst c' hc'⟩⟩

theorem refl (d : NetDevice b) : Aside adr c on d d := .of_onlyAt (.refl c d) rfl

theorem trans (h : Aside adr c on d d') (h' : Aside adr c on d' d'') : Aside adr c on d d'' := by
  refine ⟨fun m => (h'.group m).trans (h.group m), h'.mode.trans h.mode,
    h'.target.trans h.target, h'.set.trans h.set, fun c' hc' => ?_⟩
  rcases h.others c' hc', h'.others c' hc' with ⟨⟨hset, hdst⟩ | ⟨hdst, hset⟩, ⟨hset', hdst'⟩ | hcmd⟩
  · exact Or.inl ⟨hset'.trans hset, hdst'.trans hdst⟩
  · rw [← hset]
    exact Or.inr hcmd
  · rw [hset', hdst']
    exact Or.inr ⟨hdst, hset⟩
  · obtain ⟨hdst', hset'⟩ := hcmd
    refine Or.inr ⟨hdst', ?_⟩
    rcases hset' with hset' | hset'
    · rw [hset']
      exact hset
    · exact Or.inr hset'

/-- Relay `c` owes no more than before, the others nothing new. -/
theorem owes (h : Aside adr c on d d') (hc : d.core.set c = d.core.target c) {c' : b.Chn}
    (hc' : d'.Owes adr c') : c' ≠ c ∧ d.Owes adr c' := by
  obtain ⟨hpending, hdst⟩ := hc'
  rw [h.target] at hpending
  have hne : c' ≠ c := by
    rintro rfl
    rw [h.set] at hpending
    exact hpending hc
  refine ⟨hne, ?_⟩
  rcases h.others c' hne with ⟨hset, hsame⟩ | ⟨hgroup, -⟩
  · rw [hset] at hpending
    rw [hsame] at hdst
    exact ⟨hpending, hdst⟩
  · exact absurd hgroup hdst

end Aside

theorem aside_bindSibling (d : NetDevice b) (c : b.Chn) (adr : UInt16) (status : UInt8)
    (c' : b.Chn) :
    Aside adr c (status = gOn) d (bindSibling (Board.relayEle c) adr status d c') := by
  rw [bindSibling]
  dsimp only
  split
  · next hsib =>
    have hne : c' ≠ c := fun h => hsib.1 (congrArg Board.relayEle h)
    obtain ⟨hupd, hdst⟩ :=
      d.onlyAt_update c' (d.eleAdr (Board.relayEle c)) adr gOnoffSet
    have hcore := d.core_updateControlMessageParams (Board.relayEle c')
      (d.eleAdr (Board.relayEle c)) adr gOnoffSet
    generalize d.updateControlMessageParams (Board.relayEle c') (d.eleAdr (Board.relayEle c)) adr
      gOnoffSet = s1 at *
    obtain ⟨honly, hsh⟩ := s1.onlyAt_sendControl c' (status = gOn)
    have hnet := s1.core_sendControl c' (status = gOn) true
    generalize s1.sendControlDevManualToMcu (Board.relayEle c') (status = gOn) true = s2 at *
    have hstate : OnlyAt c' s2 (s2.onEnv fun x => { x with
        stateOfGroupBinding := Function.update x.stateOfGroupBinding (Board.relayEle c') status }) :=
      .of_same c' ⟨rfl, rfl, rfl, rfl, rfl, rfl⟩ rfl rfl
    have hall := (hupd.trans honly).trans hstate
    refine ⟨hall.kept.group, hall.kept.mode, hall.target, hall.set c hne.symm,
      fun c0 hc0 => ?_⟩
    by_cases heq : c0 = c'
    · subst heq
      refine Or.inr ⟨?_, ?_⟩
      · show s2.lastDst c0 = adr
        rw [lastDst, hsh]
        exact hdst
      · show s2.core.set c0 = d.core.set c0 ∨ s2.core.set c0 = _
        rw [← hcore]
        rcases hnet with hnet | hnet
        · exact Or.inl (by rw [hnet])
        · rw [hnet, RelayCore.command]
          dsimp only
          split
          · exact Or.inl rfl
          · exact Or.inr (Function.update_self ..)
    · exact Or.inl ⟨hall.set c0 heq, hall.lastDst c0 heq⟩
  · exact .refl d

/-- A message to the group commands nothing. -/
theorem aside_sendBinding (d : NetDevice b) (m : b.Btn) (adr adr' : UInt16) (status : UInt8)
    (c : b.Chn) (on : Bool) : Aside adr c on d (d.sendBinding m adr' status) := by
  have hsend : ∀ (s : NetDevice b) op type par,
      (s.sendToGroup m adr' op type par).core = s.core ∧
        (s.sendToGroup m adr' op type par).sh = s.sh ∧
        (s.sendToGroup m adr' op type par).env.bindingParaSt = s.env.bindingParaSt ∧
        (s.sendToGroup m adr' op type par).env.onoffSubList = s.env.onoffSubList := by
    intro s op type par
    rw [sendToGroup]
    split
    · exact ⟨rfl, rfl, rfl, rfl⟩
    · exact ⟨rfl, rfl, rfl, rfl⟩
  have haside : ∀ {s s' : NetDevice b}, s'.core = s.core → s'.sh = s.sh →
      s'.env.bindingParaSt = s.env.bindingParaSt → s'.env.onoffSubList = s.env.onoffSubList →
      Aside adr c on s s' := by
    intro s s' hcore hsh hpara hsubs
    refine ⟨fun m => ?_, by rw [hsh], by rw [hcore], by rw [hcore], fun c' _ => Or.inl ⟨?_, ?_⟩⟩
    · rw [NetState.getGroupBindingAdr, hpara, hsubs]
      rfl
    · rw [hcore]
    · rw [lastDst, hsh]
      rfl
  rw [sendBinding]
  dsimp only
  split
  · obtain ⟨hcore, hsh, hpara, hsubs⟩ := hsend d lightnessSetNoack typeCtlLightness _
    exact haside hcore hsh hpara hsubs
  · split
    · obtain ⟨hcore, hsh, hpara, hsubs⟩ := hsend (d.onEnv fun x =>
        { x with forceControlBinding := Function.update x.forceControlBinding m false })
        gOnoffSetNoack typeCtlOnOff ([status, 0, 0x0A, 1] ++ [0])
      exact haside hcore hsh hpara hsubs
    · obtain ⟨hcore, hsh, hpara, hsubs⟩ := hsend d gOnoffSetNoack typeCtlOnOff _
      exact haside hcore hsh hpara hsubs

/-- What a change of relay `c` to `on` has done: it has left the relay's flags alone and sent
one message at most; and if the group has caused it, none. -/
structure Reported (adr : UInt16) (c : b.Chn) (on : Bool) (d d' : NetDevice b) : Prop where
  aside : Aside adr c on d d'
  sent : d'.sentTo adr ≤ d.sentTo adr + 1
  silent : d.lastDst c = adr → d'.core.set = d.core.set ∧ d'.cmds = d.cmds

namespace Reported

theorem of_onlyAt (h : OnlyAt c d d') (hcore : d'.core = d.core) : Reported adr c on d d' := by
  refine ⟨.of_onlyAt h (by rw [hcore]), ?_, fun _ => ⟨by rw [hcore], h.kept.cmds⟩⟩
  rw [sentTo, sentTo, h.kept.cmds]
  omega

/-- Before the change is sent nothing else happens, -/
theorem before (h : OnlyAt c d d') (hcore : d'.core = d.core) (hdst : d'.lastDst c = d.lastDst c)
    (h' : Reported adr c on d' d'') : Reported adr c on d d'' := by
  have hsent : d'.sentTo adr = d.sentTo adr := by
    rw [sentTo, sentTo, h.kept.cmds]
  refine ⟨.trans (.of_onlyAt h (by rw [hcore])) h'.aside, hsent ▸ h'.sent, fun hgroup => ?_⟩
  obtain ⟨hset, hcmds⟩ := h'.silent (hdst.trans hgroup)
  exact ⟨by rw [hset, hcore], hcmds.trans h.kept.cmds⟩

/-- and behind it only the parameters of relay `c` may change. -/
theorem behind (h : Reported adr c on d d') (h' : OnlyAt c d' d'') (hcore : d''.core = d'.core) :
    Reported adr c on d d'' := by
  have hsent : d''.sentTo adr = d'.sentTo adr := by
    rw [sentTo, sentTo, h'.kept.cmds]
  refine ⟨h.aside.trans (.of_onlyAt h' (by rw [hcore])), hsent ▸ h.sent, fun hgroup => ?_⟩
  obtain ⟨hset, hcmds⟩ := h.silent hgroup
  exact ⟨by rw [hcore, hset], h'.kept.cmds.trans hcmds⟩

end Reported

/-- **Spec** of the message part of a state change. -/
theorem reported_sendOnOff (d : NetDevice b) (c : b.Chn) (status : UInt8)
    (hgroup : d.env.getGroupBindingAdr (Board.relayEle c) = adr) (hadr : adr ≠ adrUnassigned) :
    Reported adr c (status = gOn) d
      (d.sendOnOffControlToBleGroup (Board.relayEle c) status) := by
  have hnote : ∀ s : NetDevice b, OnlyAt c s (s.onEnv fun x => { x with
      stateOfGroupBinding := Function.update x.stateOfGroupBinding (Board.relayEle c) status }) :=
    fun s => .of_same c ⟨rfl, rfl, rfl, rfl, rfl, rfl⟩ rfl rfl
  rw [sendOnOffControlToBleGroup]
  dsimp only
  rw [hgroup, if_neg hadr]
  generalize hs1 : (if (d.sh.nwkControlMsgPara (Board.relayEle c)).dst = adr then _ else d) = s1
  have h1 : OnlyAt c d s1 ∧ s1.core = d.core ∧ s1.sh = d.sh ∧
      (d.lastDst c = adr → s1.env.forceControlBinding (Board.relayEle c) = false) := by
    rw [← hs1]
    split
    · exact ⟨.of_same c ⟨rfl, rfl, rfl, rfl, rfl, rfl⟩ rfl rfl, rfl, rfl,
        fun _ => Function.update_self ..⟩
    · next hdst => exact ⟨.refl c d, rfl, rfl, fun h => absurd h hdst⟩
  obtain ⟨honly1, hcore1, hsh1, hforce1⟩ := h1
  refine .before honly1 hcore1 (by rw [lastDst, hsh1]; rfl) ?_
  split
  · exact .of_onlyAt (hnote s1) rfl
  · split
    · next hsends =>
      -- the siblings are commanded, and one message goes out
      generalize hs2 : s1.onEnv _ = s2
      have h2 : OnlyAt c s1 s2 := by
        rw [← hs2]
        exact hnote s1
      have hloop := s2.loopInv_bindSiblings (Board.relayEle c) hadr status
      have haside : Aside adr c (status = gOn) s2
          (runFrom (bindSibling (Board.relayEle c) adr status) s2 b.chns) :=
        invariant_runFrom (I := fun s => Aside adr c (status = gOn) s2 s)
          (fun s c' hs => hs.trans (s.aside_bindSibling c adr status c')) (.refl s2) b.chns
      generalize runFrom (bindSibling (Board.relayEle c) adr status) s2 b.chns = s3 at *
      obtain ⟨-, o, hmsg, -⟩ := s3.sendBinding_spec (Board.relayEle c) adr status
      refine ⟨.trans (.trans ?_ haside) (s3.aside_sendBinding ..), ?_, fun hdst => ?_⟩
      · rw [← hs2]
        exact .of_onlyAt (hnote s1) rfl
      · rw [sentTo, sentTo, hmsg, List.countP_append, hloop.kept.cmds, h2.kept.cmds]
        have hone : [o].countP (NetOut.isTo adr) ≤ 1 := List.countP_le_length
        omega
      · have hdst1 : (s1.sh.nwkControlMsgPara (Board.relayEle c)).dst = adr := hdst
        have hdst0 : d.lastDst c = adr := by
          rw [lastDst, ← hsh1]
          exact hdst1
        rcases hsends with ⟨-, hne, -⟩ | hforce
        · rw [← hsh1] at hne
          exact absurd hdst1 hne
        · rw [hforce1 hdst0] at hforce
          exact absurd hforce Bool.false_ne_true
    · split
      · exact .of_onlyAt (hnote s1) rfl
      · exact .of_onlyAt (.refl c s1) rfl

/-- A report to the gateway changes the parameters of relay `c` at most. -/
theorem onlyAt_reportState (d : NetDevice b) (c : b.Chn) (status : UInt8) :
    OnlyAt c d (d.reportState c (Board.relayEle c) status) ∧
      (d.reportState c (Board.relayEle c) status).core = d.core := by
  have hsend : ∀ (s : NetDevice b) {o : NetOut}, o.isCmd = false → OnlyAt c s (s.send o) :=
    fun s _ ho => .of_same c ⟨rfl, rfl, rfl, rfl, rfl, s.cmds_send ho⟩ rfl rfl
  have hset : ∀ (s : NetDevice b) (f : NetState b → b.Chn → Bool), OnlyAt c s (s.onEnv fun x =>
      { x with relayControlFirstTimeFlag := f x }) :=
    fun s _ => .of_same c ⟨rfl, rfl, rfl, rfl, rfl, rfl⟩ rfl rfl
  rw [reportState]
  dsimp only
  split
  · refine ⟨.trans (.trans ?_ (hsend _ rfl)) (hset _ _), ?_⟩
    · split
      · have hlight : NetOut.isCmd (.lightnessSt (Board.relayEle c) (d.eleAdr (Board.relayEle c))) =
            false := rfl
        refine .trans (hsend d hlight) ?_
        exact .of_same c ⟨rfl, rfl, rfl, rfl, rfl, rfl⟩ rfl rfl
      · exact hsend d rfl
    · split <;> rfl
  · obtain ⟨hkept, hsh, -, -⟩ := d.publishStatus_spec (Board.relayEle c)
    have hcore : (d.publishStatus (Board.relayEle c)).core = d.core := by
      rw [publishStatus]
      dsimp only
      split <;> rfl
    generalize d.publishStatus (Board.relayEle c) = s1 at *
    have h2 := hsend s1 (o := .energyRelayStateChange c status false) rfl
    have hcore2 : (s1.send (.energyRelayStateChange c status false)).core = s1.core := rfl
    generalize s1.send (.energyRelayStateChange c status false) = s2 at *
    refine ⟨.trans (.trans ?_ h2) (s2.onlyAt_update c _ _ _).1, ?_⟩
    · exact .of_same c hkept hcore hsh
    · rw [core_updateControlMessageParams, hcore2, hcore]

/-- **Spec** of `net_message_handle_state_change`. -/
theorem reported_handle (d : NetDevice b) (c : b.Chn) {status : UInt8}
    (hst : status = gOn ∨ status = gOff)
    (hgroup : d.env.getGroupBindingAdr (Board.relayEle c) = adr) (hadr : adr ≠ adrUnassigned) :
    Reported adr c (status = gOn) d (d.netMessageHandleStateChange c status) := by
  have hlt : status < gOnoffRsv := by rcases hst with rfl | rfl <;> decide
  rw [netMessageHandleStateChange]
  dsimp only
  rw [if_pos hlt]
  obtain ⟨hkept1, hsh1, -, -, -, -⟩ := d.executeOnOff_spec (Board.relayEle c) status
  have hcore1 : (d.executeOnOff (Board.relayEle c) status).core = d.core := by
    unfold executeOnOff
    dsimp only
    split <;> rfl
  generalize d.executeOnOff (Board.relayEle c) status = s1 at *
  refine .before (.of_same c hkept1 hcore1 hsh1) hcore1 (by rw [lastDst, hsh1]; rfl) ?_
  generalize hs2 : (if s1.env.stateOfGroupBinding (Board.relayEle c) = subUnknown then _ else s1)
    = s2
  have h2 : OnlyAt c s1 s2 ∧ s2.core = s1.core ∧ s2.sh = s1.sh := by
    rw [← hs2]
    split
    · exact ⟨.of_same c ⟨rfl, rfl, rfl, rfl, rfl, rfl⟩ rfl rfl, rfl, rfl⟩
    · exact ⟨.refl c s1, rfl, rfl⟩
  obtain ⟨honly2, hcore2, hsh2⟩ := h2
  refine .before honly2 hcore2 (by rw [lastDst, hsh2]; rfl) ?_
  have hgroup2 : s2.env.getGroupBindingAdr (Board.relayEle c) = adr :=
    ((hkept1.trans honly2.kept).group _).trans hgroup
  have hreported := s2.reported_sendOnOff c status hgroup2 hadr
  generalize s2.sendOnOffControlToBleGroup (Board.relayEle c) status = s3 at *
  obtain ⟨honly4, hcore4⟩ := s3.onlyAt_reportState c status
  refine (hreported.behind honly4 hcore4).behind ?_ rfl
  have hreset : ∀ (x : NetState b) now,
      (x.autoResetTimeTrans now c status).bindingParaSt = x.bindingParaSt ∧
        (x.autoResetTimeTrans now c status).onoffSubList = x.onoffSubList ∧
        (x.autoResetTimeTrans now c status).swOutside = x.swOutside ∧
        (x.autoResetTimeTrans now c status).out = x.out := by
    intro x now
    rw [NetState.autoResetTimeTrans]
    split <;> exact ⟨rfl, rfl, rfl, rfl⟩
  generalize s3.reportState c (Board.relayEle c) status = s4
  obtain ⟨hpara, hsubs, hsw, hout⟩ := hreset s4.env s4.sh.timeMs
  refine .of_same c ⟨hpara, hsubs, hsw, rfl, rfl, ?_⟩ rfl rfl
  exact congrArg (List.filter NetOut.isCmd) hout

/-! ## A pass -/

/-- The device of `mapChannel`, where the change of relay `c` is applied. -/
theorem mapChannel_applied (d : NetDevice b) (c : b.Chn)
    (hpending : d.core.set c ≠ d.core.target c) :
    ∃ d1 : NetDevice b, d1.core.set = d.core.set ∧
      d1.core.target = Function.update d.core.target c (d.core.set c) ∧ d1.env = d.env ∧
      d1.sh.switchMode = d.sh.switchMode ∧ d1.sh.nwkControlMsgPara = d.sh.nwkControlMsgPara ∧
      d.mapChannel (netCallback b) c =
        if d.sh.factActive then d1
        else d1.netMessageHandleStateChange c (if d.core.set c then gOn else gOff) := by
  rw [mapChannel, if_pos (show isOn d.relay.rlsSet c ≠ isOn d.relay.rlsTarget c from hpending)]
  dsimp only
  generalize hs : emit _ (RelayOut.ledOn c _) = d1
  have h1 : d1.core.set = d.core.set ∧
      d1.core.target = Function.update d.core.target c (d.core.set c) ∧ d1.env = d.env ∧
      d1.sh.switchMode = d.sh.switchMode ∧ d1.sh.nwkControlMsgPara = d.sh.nwkControlMsgPara ∧
      d1.sh.factActive = d.sh.factActive := by
    rw [← hs]
    exact ⟨rfl, flags_put d.relay.rlsTarget c (isOn d.relay.rlsSet c), rfl, rfl, rfl, rfl⟩
  obtain ⟨hset, htarget, henv, hmode, hnwk, hfact⟩ := h1
  have hset' : isOn d.relay.rlsSet c = d.core.set c := rfl
  refine ⟨d1, hset, htarget, henv, hmode, hnwk, ?_⟩
  rw [hfact, hset', netCallback]

/-- What mapping relay `c` has done. -/
structure Mapped (adr : UInt16) (c : b.Chn) (d d' : NetDevice b) : Prop where
  within : Within adr 0 d d'
  target : d'.core.target = Function.update d.core.target c (d.core.set c)
  set : d'.core.set c = d.core.set c
  others : ∀ c', c' ≠ c → d'.core.set c' = d.core.set c' ∨
    d.Owes adr c ∧ d'.core.set c' = d.core.set c
  owes : ∀ c', d'.Owes adr c' → d.Owes adr c'

theorem mapped_mapChannel (d : NetDevice b) (c : b.Chn) (hb : Bound adr d)
    (hadr : adr ≠ adrUnassigned) : Mapped adr c d (d.mapChannel (netCallback b) c) := by
  by_cases hpending : d.core.set c ≠ d.core.target c
  · obtain ⟨d1, hset1, htarget1, henv1, hmode1, hnwk1, hmap⟩ := d.mapChannel_applied c hpending
    rw [hmap]
    have hlast : ∀ c', d1.lastDst c' = d.lastDst c' := fun c' => by
      rw [lastDst, hnwk1]
      rfl
    have hself : d1.core.set c = d1.core.target c := by
      rw [hset1, htarget1, Function.update_self]
    -- relay `c` owes nothing any more
    have howes1 : ∀ c', d1.Owes adr c' → c' ≠ c ∧ d.Owes adr c' := by
      rintro c' ⟨hne, hdst⟩
      have hc' : c' ≠ c := by
        rintro rfl
        exact hne hself
      rw [hset1, htarget1, Function.update_of_ne hc'] at hne
      rw [hlast] at hdst
      exact ⟨hc', hne, hdst⟩
    have hsub1 : d1.owed adr ⊆ (d.owed adr).erase c := by
      intro c' hc'
      obtain ⟨hne, howes⟩ := howes1 c' (mem_owed.mp hc')
      exact Finset.mem_erase.mpr ⟨hne, mem_owed.mpr howes⟩
    have hbound1 : Bound adr d1 :=
      ⟨fun c' => by rw [henv1]; exact hb.group c', fun c' => by rw [hmode1]; exact hb.mode c'⟩
    have hsent1 : d1.sentTo adr = d.sentTo adr := by
      rw [sentTo, cmds, henv1]
      rfl
    split
    · -- in the factory test nothing is reported
      refine ⟨⟨fun _ => hbound1, ?_⟩, htarget1, by rw [hset1],
        fun c' _ => Or.inl (by rw [hset1]), fun c' h => (howes1 c' h).2⟩
      have hcard := Finset.card_le_card (hsub1.trans (Finset.erase_subset ..))
      rw [budget, budget, hsent1]
      omega
    · have hst := ite_eq_or_eq (d.core.set c = true) gOn gOff
      have hreported := d1.reported_handle c hst (hbound1.group c) hadr
      have hon : decide ((if d.core.set c = true then gOn else gOff) = gOn) = d.core.set c := by
        cases d.core.set c <;> rfl
      rw [hon] at hreported
      generalize d1.netMessageHandleStateChange c _ = d2 at *
      obtain ⟨haside, hsent, hsilent⟩ := hreported
      have hsub2 : d2.owed adr ⊆ d1.owed adr := fun c' hc' =>
        mem_owed.mpr (haside.owes hself (mem_owed.mp hc')).2
      have hcard := Finset.card_le_card (hsub2.trans hsub1)
      refine ⟨⟨fun _ => ?_, ?_⟩, by rw [haside.target, htarget1], by rw [haside.set, hset1],
        fun c' hc' => ?_, fun c' hc' => (howes1 c' (haside.owes hself hc').2).2⟩
      · exact ⟨fun c' => (haside.group _).trans (hbound1.group c'),
          fun c' => by rw [haside.mode]; exact hbound1.mode c'⟩
      · rw [budget, budget]
        by_cases howes : d.Owes adr c
        · -- the message is the one that relay `c` owed
          have hpaid := Finset.card_erase_add_one (mem_owed.mpr howes)
          omega
        · have hdst : d1.lastDst c = adr := by
            rw [hlast]
            by_contra hne
            exact howes ⟨hpending, hne⟩
          have hle := Finset.card_erase_le (s := d.owed adr) (a := c)
          have hsame : d2.sentTo adr = d1.sentTo adr := by
            rw [sentTo, sentTo, (hsilent hdst).2]
          omega
      · by_cases howes : d.Owes adr c
        · rcases haside.others c' hc' with ⟨hset, -⟩ | ⟨-, hset | hset⟩
          · exact Or.inl (by rw [hset, hset1])
          · exact Or.inl (by rw [hset, hset1])
          · exact Or.inr ⟨howes, hset⟩
        · have hdst : d1.lastDst c = adr := by
            rw [hlast]
            by_contra hne
            exact howes ⟨hpending, hne⟩
          exact Or.inl (by rw [(hsilent hdst).1, hset1])
  · have hsame : d.mapChannel (netCallback b) c = d :=
      if_neg (show ¬ isOn d.relay.rlsSet c ≠ isOn d.relay.rlsTarget c from hpending)
    rw [hsame]
    refine ⟨.refl adr d, ?_, rfl, fun _ _ => Or.inl rfl, fun _ h => h⟩
    rw [Decidable.not_not.mp hpending, Function.update_eq_self]

theorem within_mapSetAndTargetStatus (d : NetDevice b) (hb : Bound adr d)
    (hadr : adr ≠ adrUnassigned) :
    Within adr 0 d (d.mapSetAndTargetStatus (netCallback b)) := by
  rw [mapSetAndTargetStatus]
  split
  · have hloop : Within adr 0 d (runFrom (mapChannel (netCallback b)) d b.chns) :=
      invariant_runFrom (I := fun s => Within adr 0 d s)
        (fun s c hs => hs.trans (s.mapped_mapChannel c (hs.bound hb) hadr).within)
        (.refl adr d) b.chns
    exact hloop.trans (.of_core (core_maskRls _) rfl)
  · exact .refl adr d

/-- A relay that is commanded OFF is OFF behind the mapping, if no other relay of the device
waits to take the group ON. -/
theorem target_mapSetAndTargetStatus (d : NetDevice b) (hb : Bound adr d)
    (hadr : adr ≠ adrUnassigned) {c : b.Chn} (hoff : d.core.set c = false)
    (howes : ∀ c', d.Owes adr c' → d.core.set c' = false) :
    (d.mapSetAndTargetStatus (netCallback b)).core.target c = false := by
  rw [mapSetAndTargetStatus]
  split
  · have hloop : Bound adr (runFrom (mapChannel (netCallback b)) d b.chns) ∧
        (runFrom (mapChannel (netCallback b)) d b.chns).core.set c = false ∧
        (∀ c', (runFrom (mapChannel (netCallback b)) d b.chns).Owes adr c' →
          (runFrom (mapChannel (netCallback b)) d b.chns).core.set c' = false) ∧
        (c.val < b.numberRl →
          (runFrom (mapChannel (netCallback b)) d b.chns).core.target c = false) := by
      refine runFrom_finRange (I := fun k s => Bound adr s ∧ s.core.set c = false ∧
        (∀ c', s.Owes adr c' → s.core.set c' = false) ∧ (c.val < k → s.core.target c = false))
        (fun s c0 hs => ?_) ⟨hb, hoff, howes, fun h => absurd h (Nat.not_lt_zero _)⟩
      obtain ⟨hbound, hset, hall, htarget⟩ := hs
      have hmapped := s.mapped_mapChannel c0 hbound hadr
      generalize s.mapChannel (netCallback b) c0 = s' at hmapped
      have hkeep : ∀ c', s.core.set c' = false → s'.core.set c' = false := by
        intro c' hc'
        by_cases heq : c' = c0
        · rw [heq, hmapped.set, ← heq, hc']
        · rcases hmapped.others c' heq with hsame | ⟨h0, hsame⟩
          · rw [hsame, hc']
          · rw [hsame, hall c0 h0]
      refine ⟨hmapped.within.bound hbound, hkeep c hset,
        fun c' hc' => hkeep c' (hall c' (hmapped.owes c' hc')), fun hlt => ?_⟩
      rw [hmapped.target]
      by_cases heq : c = c0
      · rw [← heq, Function.update_self, hset]
      · rw [Function.update_of_ne heq]
        exact htarget (Nat.lt_of_le_of_ne (Nat.le_of_lt_succ hlt) fun h => heq (Fin.ext h))
    rw [core_maskRls]
    exact hloop.2.2.2 c.isLt
  · next hsame =>
    have heq : d.core.set = d.core.target := congrArg flags (Decidable.not_not.mp hsame)
    rw [← heq, hoff]

/-- An automatic OFF of a relay that is OFF costs nothing. -/
theorem within_checkAutoOff (d : NetDevice b)
    (hoff : ∀ c, d.AutoOffDue c → d.core.target c = false) :
    Within adr 0 d d.checkAutoOff := by
  have hloop : (∀ c, d.checkAutoOff.AutoOffDue c → d.AutoOffDue c) ∧
      d.checkAutoOff.core.target = d.core.target ∧ Within adr 0 d d.checkAutoOff := by
    refine invariant_runFrom (I := fun s : NetDevice b =>
      (∀ c, s.AutoOffDue c → d.AutoOffDue c) ∧ s.core.target = d.core.target ∧ Within adr 0 d s)
      (fun s c hs => ?_) ⟨fun _ h => h, rfl, .refl adr d⟩ b.chns
    obtain ⟨hdue, htarget, hwithin⟩ := hs
    rw [checkAutoOffChannel]
    split
    · next hnow =>
      generalize hs1 : s.updRelay _ = s1
      have h1 : OnlyAt c s s1 ∧ s1.core = s.core ∧ ∀ c', s1.AutoOffDue c' → s.AutoOffDue c' := by
        rw [← hs1]
        refine ⟨.of_same c (.of_env rfl rfl) rfl rfl, rfl, ?_⟩
        rintro c' ⟨hmode, hflag, htime⟩
        refine ⟨hmode, ?_, htime⟩
        by_cases heq : c' = c
        · rw [heq]
          exact hnow.2.1
        · exact (Function.update_of_ne heq ..).symm.trans hflag
      obtain ⟨honly1, hcore1, hdue1⟩ := h1
      have honly := honly1.trans (s1.onlyAt_setTargetState c gOff .device true)
      have hset : (s1.setTargetState c gOff .device true).core.set c = false := by
        rw [core_setTargetState]
        exact Function.update_self ..
      have hnone : ¬ (s1.setTargetState c gOff .device true).Owes adr c := by
        rintro ⟨hne, -⟩
        rw [hset, honly.target, htarget, hoff c (hdue c hnow)] at hne
        exact hne rfl
      refine ⟨fun c' hc' => hdue c' (hdue1 c' ?_), honly.target.trans htarget,
        hwithin.trans (honly.within_zero fun h => absurd h hnone)⟩
      exact (autoOffDue_congr (s1.pulse_setTargetState ..) c').mp hc'
    · exact ⟨hdue, htarget, hwithin⟩
  exact hloop.2.2

/-- An automatic OFF that is due finds its relay commanded OFF already, and no relay of the
device waiting to take the group ON. -/
def PassOk (adr : UInt16) (d : NetDevice b) : Prop :=
  ∀ c, d.AutoOffDue c → d.core.set c = false ∧ ∀ c', d.Owes adr c' → d.core.set c' = false

instance (adr : UInt16) (d : NetDevice b) : Decidable (d.PassOk adr) :=
  inferInstanceAs (Decidable (∀ _, _ → _ ∧ ∀ _, _ → _))

/-- **Spec** of a pass: a message is sent for a relay that owed it. -/
theorem within_proc (d : NetDevice b) (rand : Nat → Nat) (hb : Bound adr d)
    (hadr : adr ≠ adrUnassigned) (hok : d.PassOk adr) :
    Within adr 0 d (d.proc (netCallback b) rand) := by
  obtain ⟨total, checkStart, hontime⟩ := d.core.onTime_eq
  have hcore1 := (d.core_onTimeProc rand).trans hontime
  have h1 : Within adr 0 d (d.onTimeProc rand) :=
    .of_outside (by rw [hcore1]) (by rw [hcore1]) (d.outside_onTimeProc rand)
  have hoff1 : ∀ c, (d.onTimeProc rand).AutoOffDue c → (d.onTimeProc rand).core.set c = false ∧
      ∀ c', (d.onTimeProc rand).Owes adr c' → (d.onTimeProc rand).core.set c' = false := by
    intro c hc
    have hsh : (d.onTimeProc rand).sh = d.sh := congrArg Prod.fst (d.outside_onTimeProc rand)
    obtain ⟨hset, howes⟩ := hok c ((autoOffDue_congr (d.pulse_onTimeProc rand) c).mp hc)
    refine ⟨by rw [hcore1]; exact hset, fun c' hc' => ?_⟩
    rw [Owes, lastDst, hsh, hcore1] at hc'
    rw [hcore1]
    exact howes c' hc'
  unfold proc
  dsimp only
  generalize d.onTimeProc rand = s1 at *
  have hb1 := h1.bound hb
  have h2 := s1.within_mapSetAndTargetStatus hb1 hadr
  have hoff2 : ∀ c, s1.AutoOffDue c →
      (s1.mapSetAndTargetStatus (netCallback b)).core.target c = false := by
    intro c hc
    obtain ⟨hset, howes⟩ := hoff1 c hc
    exact s1.target_mapSetAndTargetStatus hb1 hadr hset howes
  have hpulse2 := s1.pulse_mapSetAndTargetStatus (netCallback b)
  generalize s1.mapSetAndTargetStatus (netCallback b) = s2 at *
  have hcore3 := s2.core_handleStoreDelay
  have h3 : Within adr 0 s2 s2.handleStoreDelay := .of_core hcore3 s2.outside_handleStoreDelay
  have h4 : Within adr 0 s2.handleStoreDelay s2.handleStoreDelay.checkAutoOff := by
    refine within_checkAutoOff _ fun c hc => ?_
    rw [hcore3]
    exact hoff2 c ((autoOffDue_congr (s2.pulse_handleStoreDelay.trans hpulse2) c).mp hc)
  generalize s2.handleStoreDelay.checkAutoOff = s4 at *
  have hdrive : ∀ s5 : NetDevice b, Within adr 0 s4 s5 →
      Within adr 0 d s5.checkBusyTimeout := by
    intro s5 h5
    have h6 : Within adr 0 s5 s5.checkBusyTimeout :=
      .of_core s5.core_checkBusyTimeout s5.outside_checkBusyTimeout
    exact ((((h1.trans h2).trans h3).trans h4).trans h5).trans h6
  refine hdrive _ ?_
  split
  · obtain ⟨hset, htarget, -⟩ := s4.core.pass_flags
    have hcore := s4.core_procIdle
    exact .of_outside (by rw [hcore, hset]) (by rw [hcore, htarget]) s4.outside_procIdle
  · exact .of_core s4.core_procBusy s4.outside_procBusy

end Device

/-- Calls cost nothing. -/
theorem Panel.Calls.within {b : Board} {s s' : Panel b} (h : s.Calls s') (adr : UInt16) :
    Device.Within adr 0 s.dev s'.dev := by
  have hkept := (h.onlyAt b.chn0).kept
  obtain ⟨new, hdev, -⟩ := h
  refine .of_owes hkept fun c => ?_
  rw [hdev]
  exact id

/-! ## The mesh -/

/-- A message on its way to one relay. -/
structure Packet {n : Nat} (b : Fin n → Board) where
  node : Fin n
  chn : (b node).Chn
  op : UInt16
  par : List UInt8
  src : UInt16
  dst : UInt16

/-- The switches of a group and the messages in flight. -/
structure Mesh {n : Nat} (b : Fin n → Board) where
  node : ∀ i, Node (b i)
  flight : List (Packet b)

/-- What happens in the mesh. -/
inductive MeshEvent {n : Nat} (b : Fin n → Board) where
  /-- an event of a relay's button -/
  | button (i : Fin n) (c : (b i).Chn) (evt : ButtonState)
  /-- an on/off message of the gateway for one relay, and for the group -/
  | unicast (i : Fin n) (c : (b i).Chn) (par : List UInt8)
  | group (par : List UInt8)
  /-- a message in flight arrives -/
  | deliver (k : Nat)
  | proc (i : Fin n) (rand : Nat → Nat)
  | zeroSync (i : Fin n)
  | timerMatch (i : Fin n)
  /-- time passes for a switch -/
  | clock (i : Fin n) (ms s : UInt32)

namespace Mesh

variable {n : Nat} {b : Fin n → Board} (adr : UInt16)

/-- A message for every relay of switch `i`. -/
def packetsFor (i : Fin n) (op : UInt16) (par : List UInt8) (src dst : UInt16) : List (Packet b) :=
  (b i).chns.map fun c => ⟨i, c, op, par, src, dst⟩

/-- A message of switch `i` to the group reaches every relay of the others. -/
def copies (i : Fin n) : NetOut → List (Packet b)
  | .cmd op par src dst =>
    if dst = adr then
      (List.finRange n).flatMap fun j => if j = i then [] else packetsFor j op par src dst
    else []
  | _ => []

/-- Switch `i` goes on, and its new messages to the group set off. -/
def act (m : Mesh b) (i : Fin n) (f : Node (b i) → Node (b i)) : Mesh b :=
  let old := (m.node i).dev.env.out
  { node := Function.update m.node i (f (m.node i))
    flight := m.flight ++ ((f (m.node i)).dev.env.out.drop old.length).flatMap (copies adr i) }

def actPanel (m : Mesh b) (i : Fin n) (ev : PanelEvent (b i)) : Mesh b :=
  m.act adr i fun x => { x with panel := x.panel.step ev }

/-- One event; `adr` is the group. -/
def step (m : Mesh b) : MeshEvent b → Mesh b
  | .button i c evt => m.actPanel adr i (.btn (Board.relayEle c) evt)
  | .unicast i c par =>
    { m with flight := m.flight ++
        [⟨i, c, gOnoffSet, par, gatewayUnicastAddr, (m.node i).dev.eleAdr (Board.relayEle c)⟩] }
  | .group par =>
    { m with flight := m.flight ++ (List.finRange n).flatMap fun i =>
        packetsFor i gOnoffSet par gatewayUnicastAddr adr }
  | .deliver k =>
    match m.flight[k]? with
    | none => m
    | some p =>
      { m with flight := m.flight.eraseIdx k }.act adr p.node fun x =>
        x.receive p.op p.par (Board.relayEle p.chn) p.src p.dst
  | .proc i rand => m.actPanel adr i (.proc rand)
  | .zeroSync i => m.actPanel adr i .zeroSync
  | .timerMatch i => m.actPanel adr i .timerMatch
  | .clock i ms s => m.actPanel adr i (.clock ms s)

/-- The messages that the switches have sent to the group. -/
def sent (m : Mesh b) : Nat := ∑ i, (m.node i).dev.sentTo adr

/-- The external commands: the presses of the buttons, in momentary mode their releases too,
and the messages of the gateway. -/
def commands (m : Mesh b) : MeshEvent b → Nat
  | .button i c evt =>
    if evt = .startPress ∨
        evt = .release ∧ (m.node i).dev.sh.switchMode c = .momentary then 1 else 0
  | .unicast .. | .group _ => 1
  | _ => 0

/-- The switches are bound to the group, nothing is in flight, and no change waits. -/
structure Ready (m : Mesh b) : Prop where
  assigned : adr ≠ adrUnassigned
  bound : ∀ i, Device.Bound adr (m.node i).dev
  settled : ∀ i c, (m.node i).dev.core.set c = (m.node i).dev.core.target c
  flight : m.flight = []

/-- No pass switches a momentary relay OFF that has not been commanded OFF already. -/
def StepOk (m : Mesh b) : MeshEvent b → Prop
  | .proc i _ => (m.node i).dev.PassOk adr
  | _ => True

instance (m : Mesh b) : ∀ ev, Decidable (m.StepOk adr ev)
  | .proc i _ => inferInstanceAs (Decidable ((m.node i).dev.PassOk adr))
  | .button .. | .unicast .. | .group _ | .deliver _ | .zeroSync _ | .timerMatch _ | .clock .. =>
    inferInstanceAs (Decidable True)

/-- A message of the group that arrives sends nothing, and makes no relay owe a message. -/
def NoEcho (m : Mesh b) (ev : MeshEvent b) : Prop :=
  ∀ k p, ev = .deliver k → m.flight[k]? = some p → p.dst = adr →
    (m.step adr ev).sent adr = m.sent adr ∧
      ∀ i c, ((m.step adr ev).node i).dev.Owes adr c → (m.node i).dev.Owes adr c

/-! ## The account -/

/-- The budgets of the switches, and the messages in flight that are for one relay alone. -/
def credit (m : Mesh b) : Nat :=
  ∑ i, (m.node i).dev.budget adr + m.flight.countP fun p => p.dst ≠ adr

variable {adr} {m : Mesh b}

theorem dst_of_mem_packetsFor {i : Fin n} {op : UInt16} {par : List UInt8} {src dst : UInt16}
    {p : Packet b} (hp : p ∈ packetsFor i op par src dst) : p.dst = dst := by
  obtain ⟨c, -, rfl⟩ := List.mem_map.mp hp
  rfl

theorem dst_of_mem_copies {i : Fin n} {o : NetOut} {p : Packet b} (hp : p ∈ copies adr i o) :
    p.dst = adr := by
  cases o with
  | cmd op par src dst =>
    rw [copies] at hp
    split at hp
    · next hdst =>
      obtain ⟨j, -, hj⟩ := List.mem_flatMap.mp hp
      split at hj
      · exact absurd hj List.not_mem_nil
      · exact (dst_of_mem_packetsFor hj).trans hdst
    · exact absurd hp List.not_mem_nil
  | _ => exact absurd hp List.not_mem_nil

/-- Messages to the group are free. -/
theorem countP_of_dst {ps : List (Packet b)} (hps : ∀ p ∈ ps, p.dst = adr) :
    (ps.countP fun p => p.dst ≠ adr) = 0 := by
  refine List.countP_eq_zero.mpr fun p hp => ?_
  rw [hps p hp]
  simp

/-- **Step lemma** for one switch: the account grows by what the switch may do. -/
theorem act_spec (hb : ∀ j, Device.Bound adr (m.node j).dev) (i : Fin n)
    {f : Node (b i) → Node (b i)} {k : Nat}
    (h : Device.Within adr k (m.node i).dev (f (m.node i)).dev) :
    (∀ j, Device.Bound adr ((m.act adr i f).node j).dev) ∧
      (m.act adr i f).credit adr ≤ m.credit adr + k := by
  have hself : (m.act adr i f).node i = f (m.node i) := Function.update_self ..
  have hother : ∀ j, j ≠ i → (m.act adr i f).node j = m.node j :=
    fun j hj => Function.update_of_ne hj ..
  constructor
  · intro j
    by_cases hj : j = i
    · subst hj
      rw [hself]
      exact h.bound (hb j)
    · rw [hother j hj]
      exact hb j
  · have hrest : ∑ j ∈ Finset.univ.erase i, ((m.act adr i f).node j).dev.budget adr =
        ∑ j ∈ Finset.univ.erase i, (m.node j).dev.budget adr :=
      Finset.sum_congr rfl fun j hj => by rw [hother j (Finset.ne_of_mem_erase hj)]
    have hnew : ((m.act adr i f).flight.countP fun p => p.dst ≠ adr) =
        m.flight.countP fun p => p.dst ≠ adr := by
      have hfree : ∀ os : List NetOut,
          ((os.flatMap (copies adr i)).countP fun p : Packet b => p.dst ≠ adr) = 0 := by
        refine fun os => countP_of_dst fun p hp => ?_
        obtain ⟨o, -, ho⟩ := List.mem_flatMap.mp hp
        exact dst_of_mem_copies ho
      exact (List.countP_append ..).trans (congrArg (_ + ·) (hfree _))
    have hle := h.le
    rw [credit, credit, hnew, ← Finset.add_sum_erase _ _ (Finset.mem_univ i), hrest, hself,
      ← Finset.add_sum_erase Finset.univ (fun j => (m.node j).dev.budget adr) (Finset.mem_univ i)]
    omega

theorem actPanel_spec (hb : ∀ j, Device.Bound adr (m.node j).dev) (i : Fin n)
    (ev : PanelEvent (b i)) {k : Nat}
    (h : Device.Within adr k (m.node i).dev ((m.node i).panel.step ev).dev) :
    (∀ j, Device.Bound adr ((m.actPanel adr i ev).node j).dev) ∧
      (m.actPanel adr i ev).credit adr ≤ m.credit adr + k :=
  act_spec (f := fun x => { x with panel := x.panel.step ev }) hb i h

/-- Messages that set off. -/
theorem credit_append (ps : List (Packet b)) :
    ({ m with flight := m.flight ++ ps } : Mesh b).credit adr =
      m.credit adr + ps.countP fun p => p.dst ≠ adr := by
  rw [credit, credit, List.countP_append]
  exact (Nat.add_assoc ..).symm

/-- The driver's interrupts and the clock cost nothing. -/
theorem within_idle {b : Board} (s : Panel b) {ev : PanelEvent b}
    (hev : ev = .zeroSync ∨ ev = .timerMatch ∨ ∃ ms sec, ev = .clock ms sec) :
    Device.Within adr 0 s.dev (s.step ev).dev := by
  rcases hev with rfl | rfl | ⟨ms, sec, rfl⟩
  · exact .of_core s.dev.core_handleZeroSync s.dev.outside_handleZeroSync
  · have hcore := s.dev.core_handleControlWhenTimerMatch
    have hflags : s.dev.core.timerMatch.set = s.dev.core.set ∧
        s.dev.core.timerMatch.target = s.dev.core.target := by
      rw [RelayCore.timerMatch]
      split <;> exact ⟨rfl, rfl⟩
    exact .of_outside ((congrArg RelayCore.set hcore).trans hflags.1)
      ((congrArg RelayCore.target hcore).trans hflags.2)
      s.dev.outside_handleControlWhenTimerMatch
  · exact .of_owes ⟨rfl, rfl, rfl, rfl, rfl, rfl⟩ fun _ h => h

theorem within_button (hb : ∀ j, Device.Bound adr (m.node j).dev) (i : Fin n) (c : (b i).Chn)
    (evt : ButtonState) :
    Device.Within adr (m.commands (.button i c evt)) (m.node i).dev
      ((m.node i).panel.step (.btn (Board.relayEle c) evt)).dev := by
  have hmode := (hb i).mode c
  rw [commands]
  split
  · exact ((m.node i).panel.onlyAt_btn c evt hmode).within
  · next hno =>
    exact ((m.node i).panel.calls_btn c hmode (fun h => hno (Or.inl h))
      fun h hmom => hno (Or.inr ⟨h, hmom⟩)).within adr

/-- A message costs what it counts for in flight. -/
theorem within_receive {b : Board} (x : Node b) (op : UInt16) (par : List UInt8) (c : b.Chn)
    (src dst : UInt16) :
    Device.Within adr (if dst = adr then 0 else 1) x.dev
      (x.receive op par (Board.relayEle c) src dst).dev := by
  obtain ⟨honly, htaken⟩ := x.took_receive op par c src dst
  split
  · next hdst =>
    refine honly.within_zero fun howes => ?_
    rcases htaken with ⟨hcore, hsh⟩ | hlast
    · rw [Device.Owes, Device.lastDst, hcore, hsh] at howes
      exact howes
    · exact absurd (hlast.trans hdst) howes.2
  · exact honly.within

/-- **Step lemma**: the account grows by the commands of the step. -/
theorem credit_step (hadr : adr ≠ adrUnassigned) (hb : ∀ j, Device.Bound adr (m.node j).dev)
    {ev : MeshEvent b} (hok : m.StepOk adr ev) :
    (∀ j, Device.Bound adr ((m.step adr ev).node j).dev) ∧
      (m.step adr ev).credit adr ≤ m.credit adr + m.commands ev := by
  cases ev with
  | button i c evt => exact actPanel_spec hb i _ (within_button hb i c evt)
  | unicast i c par =>
    refine ⟨hb, ?_⟩
    rw [step, credit_append]
    exact Nat.add_le_add_left List.countP_le_length _
  | group par =>
    refine ⟨hb, ?_⟩
    have hfree : (((List.finRange n).flatMap fun i =>
        packetsFor i gOnoffSet par gatewayUnicastAddr adr).countP
          fun p : Packet b => p.dst ≠ adr) = 0 := by
      refine countP_of_dst fun p hp => ?_
      obtain ⟨j, -, hj⟩ := List.mem_flatMap.mp hp
      exact dst_of_mem_packetsFor hj
    rw [step, credit_append, hfree]
    exact Nat.le_add_right ..
  | deliver k =>
    rw [step]
    cases hp : m.flight[k]? with
    | none => exact ⟨hb, Nat.le_add_right ..⟩
    | some p =>
      obtain ⟨hk, hget⟩ := List.getElem?_eq_some_iff.mp hp
      obtain ⟨hbound, hle⟩ := act_spec (m := { m with flight := m.flight.eraseIdx k }) hb p.node
        (f := fun x => x.receive p.op p.par (Board.relayEle p.chn) p.src p.dst)
        (within_receive (m.node p.node) p.op p.par p.chn p.src p.dst)
      refine ⟨hbound, hle.trans ?_⟩
      -- the message leaves the account as it is carried out
      have hcount := (List.getElem_cons_eraseIdx_perm hk).countP_eq
        fun p : Packet b => decide (p.dst ≠ adr)
      rw [List.countP_cons, hget] at hcount
      have hpays : (if decide (p.dst ≠ adr) = true then 1 else 0) =
          if p.dst = adr then 0 else 1 := by
        by_cases hdst : p.dst = adr <;> simp [hdst]
      rw [credit, credit, ← hcount, hpays]
      exact Nat.le_of_eq (Nat.add_assoc ..)
  | proc i rand =>
    exact actPanel_spec hb i _ ((m.node i).dev.within_proc rand (hb i) hadr hok)
  | zeroSync i => exact actPanel_spec hb i _ (within_idle _ (Or.inl rfl))
  | timerMatch i => exact actPanel_spec hb i _ (within_idle _ (Or.inr (Or.inl rfl)))
  | clock i ms s => exact actPanel_spec hb i _ (within_idle _ (Or.inr (Or.inr ⟨ms, s, rfl⟩)))

/-- A message of the group that arrives is not passed on. -/
theorem noEcho (m : Mesh b) (ev : MeshEvent b) : m.NoEcho adr ev := by
  rintro k p rfl hp hdst
  rw [step, hp]
  dsimp only
  obtain ⟨honly, htaken⟩ := (m.node p.node).took_receive p.op p.par p.chn p.src p.dst
  have hcmds := honly.kept.cmds
  constructor
  · refine Finset.sum_congr rfl fun i _ => ?_
    by_cases hi : i = p.node
    · subst hi
      rw [act]
      dsimp only
      rw [Function.update_self, Device.sentTo, Device.sentTo, hcmds]
    · rw [act]
      dsimp only
      rw [Function.update_of_ne hi]
  · intro i c howes
    rw [act] at howes
    dsimp only at howes
    by_cases hi : i = p.node
    · subst hi
      rw [Function.update_self] at howes
      by_cases hc : c = p.chn
      · subst hc
        rcases htaken with ⟨hcore, hsh⟩ | hlast
        · rw [Device.Owes, Device.lastDst, hcore, hsh] at howes
          exact howes
        · exact absurd (hlast.trans hdst) howes.2
      · exact (honly.owes hc).mp howes
    · rw [Function.update_of_ne hi] at howes
      exact howes

/-- A one-relay momentary switch at `adr`, bound to `0xC001`. -/
def momentaryNode (adr : UInt16) : Node board1 where
  panel := Panel.new1.onDev fun d =>
    { d with
      sh := { d.sh with switchMode := fun _ => .momentary, eleAdrPrimary := adr }
      env := { d.env with
        bindingParaSt := fun _ => ⟨true, 0xC001⟩
        onoffSubList := fun _ => [0xC001] } }
  cntSame _ := 0

/-- Two of them. -/
def twoMomentary : Mesh fun _ : Fin 2 => board1 :=
  ⟨fun i => momentaryNode (if i = 0 then 0x10 else 0x20), []⟩

theorem ready_twoMomentary : twoMomentary.Ready 0xC001 :=
  ⟨by decide, by decide +kernel, by decide +kernel, rfl⟩

/-- A press of the first button takes the other switch along, and so does its release. -/
def pressAndRelease : List (MeshEvent fun _ : Fin 2 => board1) :=
  [.button 0 board1.chn0 .startPress, .proc 0 fun _ => 0, .deliver 0, .proc 1 fun _ => 0,
    .clock 0 400 0, .button 0 board1.chn0 .release, .proc 0 fun _ => 0, .deliver 0,
    .proc 1 fun _ => 0]

example : (runFrom (step 0xC001) twoMomentary pressAndRelease).sent 0xC001 = 2 := by
  decide +kernel

/-- The gateway switches the group ON: half a second later both switches send OFF. -/
def groupOn : List (MeshEvent fun _ : Fin 2 => board1) :=
  [.group [gOn, 0, 0, 0], .deliver 0, .deliver 0, .proc 0 fun _ => 0, .proc 1 fun _ => 0,
    .clock 0 600 0, .clock 1 600 0, .proc 0 fun _ => 0, .proc 1 fun _ => 0, .proc 0 fun _ => 0,
    .proc 1 fun _ => 0]

end Mesh

end LumesSwitch
