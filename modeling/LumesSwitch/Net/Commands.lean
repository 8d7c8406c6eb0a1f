import LumesSwitch.Net.Message

/-!
# The last command wins

A relay command writes `RLS_SET`; the next `relay_proc` pass maps it to
`RLS_TARGET`. Commands are decided on `RLS_TARGET`, so a command that is accepted
while another one waits for its pass sees an old state: a network command for
that old state is dropped, and a toggle repeats the waiting command.

- `CmdEntry.UpToDate` — the command was accepted with nothing to miss;
- `Device.acceptedSince` — the commands a channel has accepted;
- `relay_lastCommandWins` — if all of them were up to date, then after the last
  one and a pass `RLS_TARGET` is the result of all of them in order;
- `relay_command_dropped` — ON and OFF from the network before a pass leave ON.
-/

namespace LumesSwitch

open Runs

variable {b : Board}

/-- The relay state a command asks for, after a command that asked for `v`. -/
def RelayCmd.apply : RelayCmd → Bool → Bool
  | .net st, _ => st
  | .toggle, v => !v
  | .set st, _ => st

/-- No command was waiting that the command could miss: a network command for the
target state found the set flag there too, a toggle found the two flags equal. -/
def CmdEntry.UpToDate (e : CmdEntry b) : Prop :=
  match e.cmd with
  | .net st => e.target = st → e.set = st
  | .toggle => e.set = e.target
  | .set _ => True

instance (e : CmdEntry b) : Decidable e.UpToDate :=
  match e with
  | ⟨_, .net _, _, _⟩ => inferInstanceAs (Decidable (_ = _ → _ = _))
  | ⟨_, .toggle, _, _⟩ => inferInstanceAs (Decidable (_ = _))
  | ⟨_, .set _, _, _⟩ => inferInstanceAs (Decidable True)

/-- The state that a list of commands asks for. -/
def applyAll (v : Bool) (es : List (CmdEntry b)) : Bool :=
  es.foldl (fun v e => e.cmd.apply v) v

/-- The entries of channel `c`. -/
def ofChn (c : b.Chn) (es : List (CmdEntry b)) : List (CmdEntry b) :=
  es.filter fun e => e.chn = c

theorem ofChn_append_same (es : List (CmdEntry b)) (c : b.Chn) (cmd : RelayCmd)
    (target set : Bool) :
    ofChn c (es ++ [⟨c, cmd, target, set⟩]) = ofChn c es ++ [⟨c, cmd, target, set⟩] := by
  simp [ofChn, List.filter_append]

theorem ofChn_append_other {c : b.Chn} (es : List (CmdEntry b)) {e : CmdEntry b}
    (h : e.chn ≠ c) : ofChn c (es ++ [e]) = ofChn c es := by
  simp [ofChn, List.filter_append, h]

namespace RelayCore

variable {k k' : RelayCore b}

theorem command_trace (k : RelayCore b) (c : b.Chn) (cmd : RelayCmd) :
    (k.command c cmd).trace = k.trace ++ [⟨c, cmd, k.target c, k.set c⟩] := by
  unfold command
  cases cmd with
  | net st => dsimp only; split <;> rfl
  | toggle => rfl
  | set st => rfl

theorem command_target (k : RelayCore b) (c : b.Chn) (cmd : RelayCmd) :
    (k.command c cmd).target = k.target := by
  unfold command
  cases cmd with
  | net st => dsimp only; split <;> rfl
  | toggle => rfl
  | set st => rfl

theorem command_set_other (k : RelayCore b) {c c' : b.Chn} (cmd : RelayCmd) (h : c' ≠ c) :
    (k.command c cmd).set c' = k.set c' := by
  unfold command
  cases cmd with
  | net st =>
    dsimp only
    split
    · rfl
    · exact Function.update_of_ne h ..
  | toggle => exact Function.update_of_ne h ..
  | set st => exact Function.update_of_ne h ..

/-- A command that is up to date leaves what it asks for in the set flag. -/
theorem command_set_same (k : RelayCore b) (c : b.Chn) (cmd : RelayCmd)
    (h : CmdEntry.UpToDate ⟨c, cmd, k.target c, k.set c⟩) :
    (k.command c cmd).set c = cmd.apply (k.set c) := by
  unfold command
  cases cmd with
  | net st =>
    dsimp only
    split
    · next heq => exact h heq
    · exact Function.update_self ..
  | toggle =>
    have heq : k.set c = k.target c := h
    show Function.update k.set c (!k.target c) c = !k.set c
    rw [Function.update_self, heq]
  | set st => exact Function.update_self ..

/-! ## The set flag follows the commands -/

/-- The trace has grown behind `old`, and if the new commands of channel `c` were
up to date, its set flag is what they ask for, from `v` on. -/
def Follows (old : List (CmdEntry b)) (v : Bool) (c : b.Chn) (k : RelayCore b) : Prop :=
  ∃ new, k.trace = old ++ new ∧
    ((∀ e ∈ ofChn c new, e.UpToDate) → k.set c = applyAll v (ofChn c new))

theorem Follows.command {old : List (CmdEntry b)} {v : Bool} {c : b.Chn}
    (h : Follows old v c k) (c' : b.Chn) (cmd : RelayCmd) :
    Follows old v c (k.command c' cmd) := by
  obtain ⟨new, htrace, hset⟩ := h
  refine ⟨new ++ [⟨c', cmd, k.target c', k.set c'⟩], ?_, fun hup => ?_⟩
  · rw [command_trace, htrace, List.append_assoc]
  · by_cases hc : c' = c
    · subst hc
      rw [ofChn_append_same] at hup ⊢
      have hold := hset fun e he => hup e (List.mem_append_left _ he)
      rw [command_set_same k c' cmd (hup _ (List.mem_append_right _ (List.mem_singleton_self _))),
        hold, applyAll, applyAll, List.foldl_append]
      rfl
    · rw [ofChn_append_other new hc] at hup ⊢
      rw [command_set_other k cmd (Ne.symm hc)]
      exact hset hup

theorem Follows.step {ε : Type} {old : List (CmdEntry b)} {v : Bool} {c : b.Chn}
    {ev : RelayEvent b ε} (h : Follows old v c k) (hstep : CoreStep ev k k') :
    Follows old v c k' := by
  refine hstep.invariant (fun k c' cmd hk => hk.command c' cmd) (fun k c' hk => ?_)
    (fun k k' hset _ htrace hk => ?_) h
  · rw [map]
    split
    · exact hk
    · exact hk
  · obtain ⟨new, ht, hs⟩ := hk
    exact ⟨new, htrace.trans ht, fun hup => (congrFun hset c).trans (hs hup)⟩

/-! ## A pass brings the target flag up -/

/-- Channel `c` has accepted `n` commands or more, and if it has accepted exactly
`n`, nothing waits to be mapped. -/
def MappedAt (n : Nat) (c : b.Chn) (k : RelayCore b) : Prop :=
  n ≤ (ofChn c k.trace).length ∧
    ((ofChn c k.trace).length = n → k.target c = k.set c)

/-- A command of channel `c` makes the count grow, another one leaves the flags of
`c` alone. -/
theorem length_command (k : RelayCore b) (c c' : b.Chn) (cmd : RelayCmd) :
    (ofChn c (k.command c' cmd).trace).length = (ofChn c k.trace).length + 1 ∨
    (ofChn c (k.command c' cmd).trace).length = (ofChn c k.trace).length ∧ c' ≠ c := by
  rw [command_trace]
  by_cases hc : c' = c
  · subst hc
    left
    rw [ofChn_append_same]
    exact List.length_append
  · right
    rw [ofChn_append_other k.trace hc]
    exact ⟨rfl, hc⟩

theorem MappedAt.command {n : Nat} {c : b.Chn} (h : MappedAt n c k) (c' : b.Chn)
    (cmd : RelayCmd) : MappedAt n c (k.command c' cmd) := by
  obtain ⟨hle, hmapped⟩ := h
  rcases k.length_command c c' cmd with hlen | ⟨hlen, hc⟩
  · refine ⟨by omega, fun heq => ?_⟩
    omega
  · refine ⟨hlen ▸ hle, fun heq => ?_⟩
    rw [command_target, command_set_other k cmd (Ne.symm hc)]
    exact hmapped (hlen ▸ heq)

theorem map_mapped (k : RelayCore b) (c : b.Chn) : (k.map c).target c = (k.map c).set c := by
  rw [map]
  split
  · exact Function.update_self ..
  · next h => exact (Decidable.not_not.mp h).symm

theorem MappedAt.map {n : Nat} {c : b.Chn} (h : MappedAt n c k) (c' : b.Chn) :
    MappedAt n c (k.map c') := by
  have htrace : (k.map c').trace = k.trace := by
    rw [RelayCore.map]
    split <;> rfl
  obtain ⟨hle, hmapped⟩ := h
  refine ⟨htrace ▸ hle, fun heq => ?_⟩
  by_cases hc : c = c'
  · subst hc
    exact k.map_mapped c
  · have hsame : (k.map c').target c = k.target c ∧ (k.map c').set c = k.set c := by
      rw [RelayCore.map]
      split
      · exact ⟨Function.update_of_ne hc .., rfl⟩
      · exact ⟨rfl, rfl⟩
    rw [hsame.1, hsame.2]
    exact hmapped (htrace ▸ heq)

theorem MappedAt.same {n : Nat} {c : b.Chn} (h : MappedAt n c k) (hset : k'.set = k.set)
    (htarget : k'.target = k.target) (htrace : k'.trace = k.trace) : MappedAt n c k' := by
  rw [MappedAt, hset, htarget, htrace]
  exact h

theorem MappedAt.step {ε : Type} {n : Nat} {c : b.Chn} {ev : RelayEvent b ε}
    (h : MappedAt n c k) (hstep : CoreStep ev k k') : MappedAt n c k' :=
  hstep.invariant (fun _ c' cmd hk => hk.command c' cmd) (fun _ c' hk => hk.map c')
    (fun _ _ hset htarget htrace hk => hk.same hset htarget htrace) h

/-- The mapping loop maps every channel it comes to. -/
theorem MapLoop.mapped {cs : List b.Chn} (hl : MapLoop cs k k') {n : Nat} {c : b.Chn}
    (hc : c ∈ cs) (hle : n ≤ (ofChn c k.trace).length) : MappedAt n c k' := by
  induction hl with
  | nil => exact absurd hc List.not_mem_nil
  | @cons c' cs k k1 k2 hcmds hcs ih =>
    have htrace : (k.map c').trace = k.trace := by
      rw [RelayCore.map]
      split <;> rfl
    by_cases h : c = c'
    · -- its turn: from here on only a further command can part the flags
      subst h
      have hmap : MappedAt n c (k.map c) := ⟨htrace ▸ hle, fun _ => k.map_mapped c⟩
      have hk1 : MappedAt n c k1 := hcmds.invariant (fun _ c' cmd hk => hk.command c' cmd) hmap
      exact hcs.invariant (fun _ c' cmd hk => hk.command c' cmd) (fun _ c' hk => hk.map c') hk1
    · refine ih (List.mem_of_ne_of_mem h hc) ?_
      refine hcmds.invariant (I := fun k => n ≤ (ofChn c k.trace).length) (fun k c' cmd hk => ?_)
        (htrace ▸ hle)
      rcases k.length_command c c' cmd with hlen | ⟨hlen, -⟩
      · omega
      · exact hlen ▸ hk

end RelayCore

/-! ## Runs -/

/-- What happens to the device: an event of the relay driver, or a network command
through `send_control_dev_manual_to_mcu`. -/
inductive NetEvent (b : Board) where
  | relay (ev : RelayEvent b (NetState b))
  | sendControl (m : b.Btn) (st updateEn : Bool)

namespace Device

def netStep (s : NetDevice b) : NetEvent b → NetDevice b
  | .relay ev => s.step (netCallback b) ev
  | .sendControl m st updateEn => s.sendControlDevManualToMcu m st updateEn

/-- The commands channel `c` has accepted since the state `s`. -/
def acceptedSince (s' s : NetDevice b) (c : b.Chn) : List (CmdEntry b) :=
  ofChn c (s'.trace.drop s.trace.length)

/-- On the core, a network command is an event of the driver. -/
theorem core_netStep (s : NetDevice b) (ev : NetEvent b) :
    ∃ ev' : RelayEvent b (NetState b), CoreStep ev' s.core (s.netStep ev).core := by
  cases ev with
  | relay ev => exact ⟨ev, core_step (netCallback b) s ev⟩
  | sendControl m st updateEn =>
    exact ⟨.zeroSync, .commands (commands_of_callbackSteps
      (s.steps_sendControl m st updateEn).callback)⟩

/-- **Run lemma** for the set flag. -/
theorem follows_run (s : NetDevice b) (c : b.Chn) (evs : List (NetEvent b)) :
    RelayCore.Follows s.trace (Flags.isOn s.relay.rlsSet c) c (runFrom netStep s evs).core := by
  refine invariant_runFrom (I := fun s' : NetDevice b =>
    RelayCore.Follows s.trace (Flags.isOn s.relay.rlsSet c) c s'.core) (fun s' ev hs' => ?_) ?_ evs
  · obtain ⟨ev', hstep⟩ := s'.core_netStep ev
    exact hs'.step hstep
  · exact ⟨[], (List.append_nil _).symm, fun _ => rfl⟩

/-- **Run lemma** for the target flag. -/
theorem mappedAt_run {n : Nat} {c : b.Chn} {s : NetDevice b} (h : s.core.MappedAt n c)
    (evs : List (NetEvent b)) : (runFrom netStep s evs).core.MappedAt n c := by
  refine invariant_runFrom (I := fun s' : NetDevice b => s'.core.MappedAt n c)
    (fun s' ev hs' => ?_) h evs
  obtain ⟨ev', hstep⟩ := s'.core_netStep ev
  exact hs'.step hstep

/-- Behind a pass a channel is mapped, unless it has accepted a command since. -/
theorem mappedAt_proc (s : NetDevice b) (rand : Nat → Nat) (c : b.Chn) :
    (s.proc (netCallback b) rand).core.MappedAt (ofChn c s.trace).length c := by
  obtain ⟨k1, k2, h1, h2, heq⟩ := s.core_proc (netCallback b) rand
  have htrace : s.core.onTime.trace = s.trace := by
    obtain ⟨total, checkStart, hon⟩ := s.core.onTime_eq
    rw [hon]
    rfl
  have hk1 : k1.MappedAt (ofChn c s.trace).length c :=
    h1.mapped (b.mem_chns c) (le_of_eq (by rw [htrace]))
  have hk2 : k2.MappedAt (ofChn c s.trace).length c :=
    h2.invariant (fun _ c' cmd hk => hk.command c' cmd) hk1
  rw [heq]
  split
  · exact hk2
  · obtain ⟨hset, htarget, htr⟩ := k2.pass_flags
    exact hk2.same hset htarget htr

/-- A channel that is mapped, and has accepted nothing since `s1`, shows what its
commands ask for. -/
theorem target_of_mapped {s s1 s2 : NetDevice b} {c : b.Chn}
    (h1 : s1.core.Follows s.trace (Flags.isOn s.relay.rlsSet c) c)
    (h2 : s2.core.Follows s.trace (Flags.isOn s.relay.rlsSet c) c)
    (hmapped : s2.core.MappedAt (ofChn c s1.trace).length c)
    (hok : ∀ e ∈ s1.acceptedSince s c, e.UpToDate)
    (hlast : s2.acceptedSince s c = s1.acceptedSince s c) :
    Flags.isOn s2.relay.rlsTarget c =
      applyAll (Flags.isOn s.relay.rlsSet c) (s1.acceptedSince s c) := by
  obtain ⟨new1, htrace1, -⟩ := h1
  obtain ⟨new2, htrace2, hset⟩ := h2
  change s1.trace = s.trace ++ new1 at htrace1
  change s2.trace = s.trace ++ new2 at htrace2
  unfold acceptedSince at hok hlast ⊢
  rw [htrace1, List.drop_left] at hok hlast ⊢
  rw [htrace2, List.drop_left] at hlast
  have hcount : (ofChn c s2.trace).length = (ofChn c s1.trace).length := by
    rw [htrace1, htrace2]
    simp only [ofChn, List.filter_append] at hlast ⊢
    rw [hlast]
  have htarget : s2.core.target c = s2.core.set c := hmapped.2 hcount
  rw [hlast] at hset
  exact htarget.trans (hset hok)

end Device

/-- **The last command wins.** From any state, in any order of commands, passes,
interrupts and other events: once the last command of a relay is followed by a
pass, its target flag is what all its commands ask for, one after the other, if
each of them was up to date when it was accepted. -/
theorem relay_lastCommandWins (s : NetDevice b) (evs tail : List (NetEvent b))
    (rand : Nat → Nat) (c : b.Chn)
    (hok : ∀ e ∈ (runFrom Device.netStep s evs).acceptedSince s c, e.UpToDate)
    (hlast : (runFrom Device.netStep s (evs ++ .relay (.proc rand) :: tail)).acceptedSince s c =
      (runFrom Device.netStep s evs).acceptedSince s c) :
    Flags.isOn (runFrom Device.netStep s (evs ++ .relay (.proc rand) :: tail)).relay.rlsTarget c =
      applyAll (Flags.isOn s.relay.rlsSet c)
        ((runFrom Device.netStep s evs).acceptedSince s c) := by
  refine Device.target_of_mapped (s.follows_run c evs) (s.follows_run c _) ?_ hok hlast
  rw [runFrom_append]
  exact Device.mappedAt_run (Device.mappedAt_proc _ rand c) tail

/-! ## The dropped command -/

/-- The modules around the driver after a boot of a one-relay device that was never
configured. -/
def demoNet : NetState board1 where
  incommingSt _ := gOnoffRsv
  sceneActiveArr _ := false
  genExecutionSceneSt _ := gOnoffRsv
  stateOfGroupBinding _ := subUnknown
  relayControlFirstTimeFlag _ := true
  forceControlBinding _ := false
  bindingParaSt _ := ⟨false, 0⟩
  onoffSubList _ := []
  dimmingConfig _ := ⟨.restore, 0xFFFF, 0x32⟩
  touchBtnBeforeSt _ := ⟨.noPress, 0, false⟩
  controlBindingLocallyFlag _ := false
  autoTransPar _ := ⟨0, 0⟩
  enGroupDefault _ := true
  swOutside _ := none
  rand _ := 0
  out := []

/-- The device after its boot. -/
def bootedNet : NetDevice board1 :=
  Device.boot (fun _ => 0) emptyLog emptyLog demoShared demoNet

/-- The relay command of the network. -/
def sendControl1 (st : Bool) : NetEvent board1 :=
  .sendControl (Board.relayEle board1.chn0) st true

theorem relay_lastCommandWins_passBetween :
    Flags.isOn (runFrom Device.netStep bootedNet
      ([sendControl1 true, .relay (.proc fun _ => 0), sendControl1 false]
        ++ .relay (.proc fun _ => 0) :: [])).relay.rlsTarget board1.chn0 = false :=
  relay_lastCommandWins bootedNet
    [sendControl1 true, .relay (.proc fun _ => 0), sendControl1 false] [] (fun _ => 0)
    board1.chn0 (by decide +kernel) (by decide +kernel)

/-- ON, and OFF before a pass has mapped it: the OFF is compared with the old target
and dropped. -/
theorem relay_command_dropped :
    ¬ ∀ (evs tail : List (NetEvent board1)) (rand : Nat → Nat) (c : board1.Chn),
      (runFrom Device.netStep bootedNet
          (evs ++ .relay (.proc rand) :: tail)).acceptedSince bootedNet c =
        (runFrom Device.netStep bootedNet evs).acceptedSince bootedNet c →
      Flags.isOn (runFrom Device.netStep bootedNet
          (evs ++ .relay (.proc rand) :: tail)).relay.rlsTarget c =
        applyAll (Flags.isOn bootedNet.relay.rlsSet c)
          ((runFrom Device.netStep bootedNet evs).acceptedSince bootedNet c) := by
  intro h
  have hrun := h [sendControl1 true, sendControl1 false] [] (fun _ => 0) board1.chn0
    (by decide +kernel)
  revert hrun
  decide +kernel

end LumesSwitch
