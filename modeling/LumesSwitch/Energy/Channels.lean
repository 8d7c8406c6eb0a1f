import LumesSwitch.Energy.Account

/-!
# One channel at a time (`energy.c`)

The loops of `energy.c` run over the channels. An iteration changes the entries of its own
channel, beside the log and what is sent, so a loop does to a channel what the iteration of that
channel does.

- `EnergyState.Local` — only the entries of one channel change;
- `local_…` — the iterations are of this kind;
- `EnergyState.loop_ch` — what a loop does to a channel.
-/

namespace LumesSwitch

open Runs

namespace EnergyState

variable {b : Board}

/-- Only the entries of channel `c` change, beside the log and what is sent. -/
structure Local (c : b.Chn) (s s' : EnergyState b) : Prop where
  env : s'.env = s.env
  ch : ∀ i, i ≠ c → s'.ch i = s.ch i

@[simp] theorem upd_env (s : EnergyState b) (c : b.Chn) (f : EnergyChannel → EnergyChannel) :
    (s.upd c f).env = s.env := rfl

namespace Local

variable {c : b.Chn} {s s' s'' : EnergyState b}

theorem refl (c : b.Chn) (s : EnergyState b) : Local c s s := ⟨rfl, fun _ _ => rfl⟩

theorem trans (h : Local c s s') (h' : Local c s' s'') : Local c s s'' where
  env := h'.env.trans h.env
  ch i hi := (h'.ch i hi).trans (h.ch i hi)

theorem upd (h : Local c s s') (f : EnergyChannel → EnergyChannel) : Local c s (s'.upd c f) :=
  h.trans ⟨rfl, fun _ hi => Function.update_of_ne hi ..⟩

theorem send (h : Local c s s') (o : EnergyOut) : Local c s (s'.send o) := ⟨h.env, h.ch⟩

theorem store (h : Local c s s') : Local c s s'.storeActivePower := ⟨h.env, h.ch⟩

theorem setupPublishEnergyDelay (h : Local c s s') (w : UInt32) :
    Local c s (s'.setupPublishEnergyDelay c w) := h.upd _

theorem setupPublishIupPfDelay (h : Local c s s') (w : UInt32) (src : SourceReport) :
    Local c s (s'.setupPublishIupPfDelay c w src) := h.upd _

theorem updateInputToReport (h : Local c s s') : Local c s (s'.updateInputToReport c) := h.upd _

theorem iupReportDone (h : Local c s s') : Local c s (s'.iupReportDone c) := h.upd _

end Local

/-! ## The iterations -/

variable (rand : b.Chn → Nat → Nat) (s : EnergyState b) (c : b.Chn)

theorem local_publishActiveEnergy : Local c s (s.publishActiveEnergy c) := by
  rw [publishActiveEnergy]
  dsimp only
  split
  · refine (Local.send ?_ _).upd _
    split
    · exact ((Local.refl c s).upd _).store
    · exact (Local.refl c s).upd _
  · exact Local.refl c s

theorem local_publishIupPf : Local c s (s.publishIupPf c) := by
  rw [publishIupPf]
  dsimp only
  split
  · split
    · exact (Local.refl c s).iupReportDone
    · exact ((Local.refl c s).updateInputToReport.send _).iupReportDone
  · exact Local.refl c s

theorem local_publishPeriodic : Local c s (publishPeriodic rand s c) := by
  rw [publishPeriodic]
  dsimp only
  generalize hs' : (if clockTimeExceed s.env.timeS (s.ch c).publishIup.updateLastTS
    (s.ch c).iupTLenS then _ else s) = s'
  have hl : Local c s s' := by
    rw [← hs']
    split
    · exact ((Local.refl c s).setupPublishIupPfDelay 0 .periodic).upd _
    · exact Local.refl c s
  split
  · exact (hl.setupPublishEnergyDelay 0).upd _
  · exact hl

variable {s c} in
theorem Local.calculatorKwh {s' : EnergyState b} (h : Local c s s') :
    Local c s (calculatorKwh rand s' c) := by
  rw [EnergyState.calculatorKwh]
  dsimp only
  split
  · split
    · exact (h.upd _).setupPublishEnergyDelay _
    · exact h.upd _
  · split
    · exact h.upd _
    · exact h

variable {s c} in
theorem Local.checkPublishAllParameter {s' : EnergyState b} (h : Local c s s') :
    Local c s (checkPublishAllParameter rand s' c) := by
  rw [EnergyState.checkPublishAllParameter]
  dsimp only
  generalize hs'' : (if (s'.ch c).forceReportIup = true then _ else s') = s''
  have hl : Local c s s'' := by
    rw [← hs'']
    split
    · exact ((h.setupPublishIupPfDelay _ _).updateInputToReport).upd _
    · exact h
  split
  · exact hl
  · split
    · exact (hl.upd _).setupPublishIupPfDelay _ _
    · exact hl

theorem local_measurement : Local c s (measurement rand s c) := by
  rw [measurement]
  dsimp only
  generalize hs' : (if clockTimeExceed s.env.timeMs (s.ch c).queryTStart 2000 = true then _
    else s) = s'
  have hl : Local c s s' := by
    rw [← hs']
    split
    · exact (((Local.refl c s).upd _).send _).upd _
    · exact Local.refl c s
  split
  · exact ((hl.upd _).checkPublishAllParameter rand).calculatorKwh rand
  · exact hl

/-! ## The loops -/

section loop

variable {s c} {body : EnergyState b → b.Chn → EnergyState b}
  (hbody : ∀ s c, Local c s (body s c))
include hbody

/-- **Loop lemma**: a loop does to a channel what the iteration of the channel does, which finds
its entries and the clock as they were before the loop. -/
theorem loop_ch {Q : EnergyChannel → Prop}
    (hself : ∀ s', s'.ch c = s.ch c → s'.env = s.env → Q ((body s' c).ch c)) :
    Q ((runFrom body s b.chns).ch c) := by
  refine runFrom_once (P := fun s' : EnergyState b => s'.ch c = s.ch c ∧ s'.env = s.env)
    (Q := fun s' : EnergyState b => Q (s'.ch c)) ?_ ?_ ?_ b.nodup_chns (b.mem_chns c) ⟨rfl, rfl⟩
  -- the channels before it leave its entries as they were
  · rintro s' j hj ⟨hch, henv⟩
    exact ⟨((hbody s' j).ch c (Ne.symm hj)).trans hch, (hbody s' j).env.trans henv⟩
  · rintro s' ⟨hch, henv⟩
    exact hself s' hch henv
  -- and those behind it leave what it got
  · intro s' j hj h
    rw [(hbody s' j).ch c (Ne.symm hj)]
    exact h

end loop

end EnergyState

end LumesSwitch
