import LumesSwitch.Flash.Origin
import LumesSwitch.Relay.OnTime
import LumesSwitch.Relay.OnTimeLog

/-!
# The on-time after a clearing

A passed factory test clears the totals but no start of counting, and a forced reset clears the
flash but no totals. `OnTimeTally` observes the driver. Of each total it keeps the time that lies
before the last clearing: a count takes in the stretch from `check_start_t_ms` to now, and of that
what is older than the clearing. And it keeps where each record of the log comes from.

- `OnTimeTally.follow` — what a change of the totals does to the part of before;
- `OnTimeTally.observe` — the tally behind an event;
- `OnTimeTally.Final` — no answer that was sent, no record written since the clearing and no record
  a boot would read holds time of before it;
- `OnTimeTally.EventOk` — the condition on an event and the state before it: no count is due from
  a start before the clearing, and nothing is answered or stored before the reboot that a forced
  reset waits for;
- `OnTimeTally.Inv.event` — what one event preserves.
-/

namespace LumesSwitch

open Runs Words

variable {b : Board} {ε : Type}

/-- What happens to the on-times. -/
inductive OnTimeEvent (b : Board) (ε : Type) where
  | relay (ev : RelayEvent b ε)
  /-- a gateway query: `relay_response_total_relay_on_time(idx)` -/
  | query (c : b.Chn)
  | delete (c : b.Chn)
  /-- `relay_store_total_relay_on_time_delay`, five seconds after an OFF drive -/
  | store

def Device.onTimeStep (cb : StateChangeCallback b ε) (s : Device b ε) :
    OnTimeEvent b ε → Device b ε
  | .relay ev => s.step cb ev
  | .query c => s.responseTotalRelayOnTime c
  | .delete c => s.handleDeleteRelayOnTime c
  | .store => s.storeTotalRelayOnTime

/-! ## What a pass counts -/

namespace RelayCore

variable {k k' k1 k2 : RelayCore b}

/-- The time that a count takes in. -/
def stretch (k : RelayCore b) (c : b.Chn) : UInt32 := k.timeMs - k.clamped c

/-- A pass counts the stretch of channel `c`: in the loop, or for a finished OFF drive. -/
def CountDue (k : RelayCore b) (c : b.Chn) : Prop :=
  (k.present c = true ∧ clockTimeExceed k.timeMs 0 5000 = true ∧ k.stretch c ≥ 60000) ∨ k.OffDue c

instance (k : RelayCore b) (c : b.Chn) : Decidable (k.CountDue c) :=
  inferInstanceAs (Decidable (_ ∧ _ ∧ _ ∨ _))

/-- The start of a stretch that has been clamped is not clamped again. -/
theorem stretch_of_clamped {c : b.Chn} (htime : k'.timeMs = k.timeMs)
    (hstart : k'.checkStart c = k.clamped c) : k'.stretch c = k.stretch c := by
  have hle : k.clamped c ≤ k.timeMs := by
    rw [clamped]
    split
    · exact UInt32.le_refl _
    · next hlt => exact UInt32.not_lt.mp hlt
  rw [stretch, stretch, clamped, hstart, htime, if_neg (UInt32.not_lt.mpr hle)]

theorem stretch_of_now {c : b.Chn} (hstart : k'.checkStart c = k'.timeMs) : k'.stretch c = 0 := by
  rw [stretch, clamped, hstart, ite_self, UInt32.sub_self]

/-- What one iteration of the on-time loop does to channel `c'`: a total that changes was due,
and the stretch stays or starts afresh. -/
theorem count_chn (k : RelayCore b) (c c' : b.Chn) :
    ((k.count c).total c' = k.total c' ∨ k.present c' = true ∧ k.stretch c' ≥ 60000) ∧
      ((k.count c).stretch c' = k.stretch c' ∨ (k.count c).stretch c' = 0) := by
  by_cases hc : c' = c
  · subst hc
    rw [count]
    split
    · next hp =>
      split
      · next hspan => exact ⟨Or.inr ⟨hp, hspan⟩, Or.inr (stretch_of_now (Function.update_self ..))⟩
      · exact ⟨Or.inl rfl, Or.inl (stretch_of_clamped rfl (Function.update_self ..))⟩
    · exact ⟨Or.inl rfl, Or.inl rfl⟩
  · obtain ⟨htotal, hstart, -, htime⟩ := k.count_other hc
    refine ⟨Or.inl htotal, Or.inl ?_⟩
    rw [stretch, stretch, clamped, clamped, hstart, htime]

/-- The loop changes neither the flags nor the drive nor the clock. -/
theorem count_rest (k : RelayCore b) (c : b.Chn) :
    (k.count c).present = k.present ∧ (k.count c).timeMs = k.timeMs ∧
      ∀ c', (k.count c).OffDue c' ↔ k.OffDue c' := by
  rw [count]
  split
  · split
    · exact ⟨rfl, rfl, fun _ => Iff.rfl⟩
    · exact ⟨rfl, rfl, fun _ => Iff.rfl⟩
  · exact ⟨rfl, rfl, fun _ => Iff.rfl⟩

/-- What is due behind an iteration was due before it, or is not a second long. -/
theorem countDue_count {c c' : b.Chn} (h : (k.count c).CountDue c') :
    (k.count c).stretch c' = 0 ∨ (k.count c).stretch c' = k.stretch c' ∧ k.CountDue c' := by
  obtain ⟨hpresent, htime, hoff⟩ := k.count_rest c
  rcases (k.count_chn c c').2 with hsame | hzero
  · refine Or.inr ⟨hsame, ?_⟩
    rwa [CountDue, hpresent, htime, hsame, hoff] at h
  · exact Or.inl hzero

/-- Behind the loop, a total that changes is that of a finished OFF drive. -/
theorem proc_total (h1 : MapLoop b.chns k k1) (h2 : Commands k1 k2) (c : b.Chn) :
    (if k2.busy then k2 else k2.pass).total c = k.total c ∨
      k.OffDue c ∧
        (if k2.busy then k2 else k2.pass).total c = k.total c + k.stretch c / 1000 := by
  have hsame : SameDrive k k2 := (SameDrive.mapLoop h1).commands h2
  have hstretch : k2.stretch c = k.stretch c := by
    rw [stretch, stretch, clamped, clamped, hsame.checkStart, hsame.timeMs]
  split
  · exact Or.inl (congrFun hsame.total c)
  · next hbusy =>
    obtain ⟨busy, drive, heq⟩ := k2.pass_eq
    rw [heq, ← hsame.total, ← hstretch]
    dsimp only
    split
    · next hdone =>
      rw [consume]
      cases hd : k2.drive with
      | none => exact Or.inl rfl
      | some d =>
        dsimp only
        by_cases hcount : d.on = false ∧ k2.powerOn d.chn = false
        · rw [if_pos hcount]
          by_cases hc : c = d.chn
          · -- the drive of this channel is consumed
            subst hc
            have hdrive : d = ⟨d.chn, false⟩ := congrArg (Drive.mk d.chn) hcount.1
            refine Or.inr ⟨⟨hsame.busy ▸ Bool.not_eq_true _ ▸ hbusy, hsame.done ▸ hdone, ?_,
              hsame.powerOn ▸ hcount.2⟩, Function.update_self ..⟩
            rw [← hsame.drive, hd, ← hdrive]
          · exact Or.inl (Function.update_of_ne hc ..)
        · rw [if_neg hcount]
          exact Or.inl rfl
    · exact Or.inl rfl

end RelayCore

/-! ## The tally -/

/-- What has been seen of the on-time since the last clearing: how many milliseconds of each total
lie before it, what the last step answered with and how much of each answer lies before it, the
records of the log, the time that has passed, and whether the sector was erased under the write
index and the device not yet rebooted. -/
structure OnTimeTally (b : Board) where
  part : b.Chn → Nat
  answers : b.Chn → List (Nat × Nat)
  blocks : BlockOrigins b Nat
  agedMs : Nat
  erased : Bool

namespace OnTimeTally

/-- The totals of `k` have become those of `k'`. One that has changed was set to 0, or a stretch
has been counted: what of that is older than the clearing lies before it. -/
def follow (t : OnTimeTally b) (k k' : RelayCore b) : OnTimeTally b :=
  { t with part := fun c =>
      if k'.total c = k.total c then t.part c
      else if k'.total c = 0 then 0
      else t.part c + ((k.stretch c).toNat - t.agedMs) }

/-- `relay_store_total_relay_on_time` -/
def stored (t : OnTimeTally b) (v : OnTimeView b) : OnTimeTally b :=
  if v.StoreDue then { t with blocks := t.blocks.put 0x37000 v.log t.part } else t

/-- `relay_response_total_relay_on_time`: the total is sent, and then all of them are stored. -/
def answered (t : OnTimeTally b) (v : OnTimeView b) (c : b.Chn) : OnTimeTally b :=
  stored
    { t with
      answers := Function.update t.answers c (t.answers c ++ [((v.total c).toNat, t.part c)]) } v

/-- An iteration of the on-time loop: a count, and perhaps an answer. -/
def iterate (rand : Nat → Nat) (p : Device b ε × OnTimeTally b) (c : b.Chn) :
    Device b ε × OnTimeTally b :=
  let s := Device.onTimeChannel rand p.1 c
  let t := p.2.follow p.1.core s.core
  (s, if p.1.Answers c then t.answered (p.1.countChannel c).onTimeView c else t)

/-- The tally behind the on-time loop. -/
def loop (rand : Nat → Nat) (t : OnTimeTally b) (s : Device b ε) : OnTimeTally b :=
  if clockTimeExceed s.sh.timeMs 0 5000 then (runFrom (iterate rand) (s, t) b.chns).2 else t

/-- The tally behind an event of the driver in state `s`. -/
def observe (cb : StateChangeCallback b ε) (t : OnTimeTally b) (s : Device b ε) :
    OnTimeEvent b ε → OnTimeTally b
  | .relay (.proc rand) =>
    (t.loop rand s).follow (s.onTimeProc rand).core (s.proc cb rand).core
  | .relay (.clock ms _) => { t with agedMs := t.agedMs + ms.toNat }
  | .relay _ => t
  | .query c => t.answered s.onTimeView c
  | .delete c =>
    ((t.follow s.core (s.handleDeleteRelayOnTime c).core).stored (s.onTimeView.clear c)).answered
      (s.onTimeView.clear c).store c
  | .store => t.stored s.onTimeView

/-- All that the totals of `s` hold was counted before the clearing. -/
def clearing (s : Device b ε) (blocks : BlockOrigins b Nat) (erased : Bool) : OnTimeTally b where
  part c := 1000 * (s.relay.onTime c).totalSeconds.toNat
  answers _ := []
  blocks := blocks
  agedMs := 0
  erased := erased

/-- Behind a passed factory test: the totals are 0, and stored if anything else was. -/
def cleaned (t : OnTimeTally b) (s : Device b ε) : OnTimeTally b :=
  (clearing s.cleanRelayOnTime t.blocks.age t.erased).stored s.onTimeView.clearAll

/-- Behind a forced reset: the totals go on, and the sector is erased. -/
def forced (s : Device b ε) : OnTimeTally b := clearing s [] true

/-- Behind a reboot that was over `ms` after power came on: the totals are those of the record. -/
def rebooted (t : OnTimeTally b) (log : LogState) (ms : UInt32) : OnTimeTally b where
  part := t.blocks.bootPart 0x37000 log fun c => 1000 * bootWord 0x37000 log c
  answers _ := []
  blocks := t.blocks
  agedMs := t.agedMs + ms.toNat
  erased := false

/-- Nothing that the last step answered with, no record that was written since the clearing and
none that a boot would read holds time of before it. -/
structure Final (t : OnTimeTally b) (s : Device b ε) : Prop where
  answers : ∀ c : b.Chn, answersFor c s.relay.out = (t.answers c).map Prod.fst ∧
    ∀ p ∈ t.answers c, p.2 = 0
  blocks : t.blocks.Fresh 0x37000 s.relay.onTimeLog

/-! ## The condition -/

/-- No whole second is about to be counted from a start before the clearing, but in a device that
is to reboot. -/
def CountsOk (t : OnTimeTally b) (k : RelayCore b) : Prop :=
  t.erased = false → ∀ c, k.CountDue c → (k.stretch c).toNat ≤ t.agedMs ∨ k.stretch c < 1000

/-- A store that is due is not in a sector that was erased under the index, and its record can be
told from erased flash. -/
def StoreOk (t : OnTimeTally b) (v : OnTimeView b) : Prop :=
  v.StoreDue → t.erased = false ∧ ∃ c, v.total c ≠ 0xFFFFFFFF

/-- An answer sends one total, and stores them all. -/
def AnswerOk (t : OnTimeTally b) (v : OnTimeView b) : Prop := t.erased = false ∧ t.StoreOk v

def EventOk (t : OnTimeTally b) (s : Device b ε) : OnTimeEvent b ε → Prop
  | .relay (.proc rand) => t.CountsOk s.core ∧ (clockTimeExceed s.sh.timeMs 0 5000 = true →
    AllSteps (Device.onTimeChannel rand)
      (fun s c => s.Answers c → t.AnswerOk (s.countChannel c).onTimeView) s b.chns)
  | .query _ => t.AnswerOk s.onTimeView
  | .delete _ => t.erased = false
  | .store => t.StoreOk s.onTimeView
  | _ => True

/-- A passed factory test stores zeros, unless there is no record yet. -/
def CleanOk (t : OnTimeTally b) (s : Device b ε) : Prop :=
  t.erased = false ∧ (s.onTimeView.clearAll.StoreDue ∨ t.blocks = [])

instance (t : OnTimeTally b) (s : Device b ε) : Decidable (t.Final s) :=
  decidable_of_iff ((∀ c : b.Chn, answersFor c s.relay.out = (t.answers c).map Prod.fst ∧
      ∀ p ∈ t.answers c, p.2 = 0) ∧ t.blocks.Fresh 0x37000 s.relay.onTimeLog)
    ⟨fun h => ⟨h.1, h.2⟩, fun h => ⟨h.answers, h.blocks⟩⟩

instance (t : OnTimeTally b) (k : RelayCore b) : Decidable (t.CountsOk k) :=
  inferInstanceAs (Decidable (_ → ∀ _, _ → _ ∨ _))

instance (t : OnTimeTally b) (v : OnTimeView b) : Decidable (t.StoreOk v) :=
  inferInstanceAs (Decidable (_ → _ ∧ _))

instance (t : OnTimeTally b) (v : OnTimeView b) : Decidable (t.AnswerOk v) :=
  inferInstanceAs (Decidable (_ ∧ _))

instance (t : OnTimeTally b) (s : Device b ε) (ev : OnTimeEvent b ε) :
    Decidable (t.EventOk s ev) :=
  match ev with
  | .relay (.proc _) => inferInstanceAs (Decidable (_ ∧ (_ → AllSteps _ _ _ _)))
  | .query _ => inferInstanceAs (Decidable (AnswerOk _ _))
  | .delete _ => inferInstanceAs (Decidable (_ = _))
  | .store => inferInstanceAs (Decidable (StoreOk _ _))
  | .relay (.setTargetState ..) | .relay (.toggleState ..) | .relay (.netState ..)
  | .relay (.changeMode ..) | .relay .zeroSync | .relay .timerMatch | .relay (.clock ..)
  | .relay (.other ..) => isTrue trivial

instance (t : OnTimeTally b) (s : Device b ε) : Decidable (t.CleanOk s) :=
  inferInstanceAs (Decidable (_ ∧ (_ ∨ _)))

/-! ## The invariant -/

/-- Unless the device is to reboot, no total holds anything of before; and what is answered does
not either. -/
structure Inv (t : OnTimeTally b) (v : OnTimeView b) : Prop where
  sector : SectorOk b 0x37000 v.log t.erased
  part : t.erased = false → ∀ c, t.part c = 0
  blocks : t.blocks.Fresh 0x37000 v.log
  answers : ∀ c : b.Chn, v.answers c = (t.answers c).map Prod.fst ∧ ∀ p ∈ t.answers c, p.2 = 0

namespace Inv

variable {t t' : OnTimeTally b} {v v' : OnTimeView b} {s : Device b ε} {k k' : RelayCore b}

theorem final (h : t.Inv s.onTimeView) : t.Final s := ⟨h.answers, h.blocks⟩

/-- The totals themselves do not count. -/
theorem of_same (h : t.Inv v) (hlog : v'.log = v.log) (hans : v'.answers = v.answers) :
    t.Inv v' := by
  refine ⟨?_, h.part, ?_, ?_⟩
  · rw [hlog]
    exact h.sector
  · rw [hlog]
    exact h.blocks
  · rw [hans]
    exact h.answers

/-- **Count**: what has changed was set to 0, or was counted from a start behind the clearing. -/
theorem follow (h : t.Inv v) (hcount : t.erased = false → ∀ c,
      k'.total c = k.total c ∨ k'.total c = 0 ∨ (k.stretch c).toNat ≤ t.agedMs) :
    (t.follow k k').Inv v := by
  refine ⟨h.sector, fun herased c => ?_, h.blocks, h.answers⟩
  have hpart := h.part herased c
  rw [OnTimeTally.follow]
  dsimp only
  split
  · exact hpart
  · next hchanged =>
    split
    · rfl
    · next hzero =>
      rcases hcount herased c with hsame | hset | hle
      · exact absurd hsame hchanged
      · exact absurd hset hzero
      · rw [hpart]
        omega

/-- **Store**. -/
theorem store (h : t.Inv v) (hok : t.StoreOk v) : (t.stored v).Inv v.store := by
  rw [OnTimeTally.stored]
  by_cases hdue : v.StoreDue
  · obtain ⟨herased, hne⟩ := hok hdue
    have hsector := h.sector
    rw [herased] at hsector
    rw [if_pos hdue, OnTimeView.store_of_due hdue]
    exact ⟨herased ▸ (hsector.put _ hne).1, h.part,
      BlockOrigins.fresh_put h.blocks.clean hsector hne (h.part herased), h.answers⟩
  · rw [if_neg hdue, OnTimeView.store_of_not_due hdue]
    exact h

/-- **Answer**. -/
theorem answer (h : t.Inv v) (c : b.Chn) (hok : t.AnswerOk v) :
    (t.answered v c).Inv (v.answer c) := by
  have hsent : OnTimeTally.Inv
      { t with
        answers := Function.update t.answers c (t.answers c ++ [((v.total c).toNat, t.part c)]) }
      { v with answers := Function.update v.answers c (v.answers c ++ [(v.total c).toNat]) } := by
    refine ⟨h.sector, h.part, h.blocks, fun c' => ?_⟩
    obtain ⟨hans, hpart⟩ := h.answers c'
    dsimp only
    by_cases hc : c' = c
    · subst hc
      rw [Function.update_self, Function.update_self, List.map_append, hans]
      refine ⟨rfl, fun p hp => ?_⟩
      rcases List.mem_append.mp hp with hp | hp
      · exact hpart p hp
      · obtain rfl := List.mem_singleton.mp hp
        exact h.part hok.1 c'
    · rw [Function.update_of_ne (fun hx => hc (Fin.ext hx)), Function.update_of_ne hc]
      exact ⟨hans, hpart⟩
  exact hsent.store hok.2

/-- **Loop**: one iteration. -/
theorem iterate {p : Device b ε × OnTimeTally b} (h : p.2.Inv p.1.onTimeView)
    (hcounts : p.2.CountsOk p.1.core)
    (hexceed : clockTimeExceed p.1.core.timeMs 0 5000 = true) (rand : Nat → Nat) (c : b.Chn)
    (hok : p.1.Answers c → p.2.AnswerOk (p.1.countChannel c).onTimeView) :
    (OnTimeTally.iterate rand p c).2.Inv (OnTimeTally.iterate rand p c).1.onTimeView := by
  have hcore := Device.core_onTimeChannel rand p.1 c
  -- what the loop counts was due before the pass
  have hfollow : (p.2.follow p.1.core (Device.onTimeChannel rand p.1 c).core).Inv
      p.1.onTimeView := by
    refine h.follow fun herased c' => ?_
    rw [hcore]
    rcases (p.1.core.count_chn c c').1 with hsame | ⟨hpresent, hspan⟩
    · exact Or.inl hsame
    · rcases hcounts herased c' (Or.inl ⟨hpresent, hexceed, hspan⟩) with hle | hlt
      · exact Or.inr (Or.inr hle)
      · exact absurd (UInt32.lt_of_lt_of_le hlt (by decide)) (UInt32.not_lt.mpr hspan)
  have hview := Device.onTimeView_of_drive (p.1.besideDrive_countChannel c)
  have hlog : (p.1.countChannel c).onTimeView.log = p.1.onTimeView.log := by rw [hview]
  have hsent : (p.1.countChannel c).onTimeView.answers = p.1.onTimeView.answers := by rw [hview]
  have hcount := hfollow.of_same hlog hsent
  have hiter := p.1.onTimeView_onTimeChannel rand c
  rw [OnTimeTally.iterate]
  dsimp only
  by_cases hans : p.1.Answers c
  · rw [if_pos hans] at hiter ⊢
    rw [hiter]
    exact hcount.answer c (hok hans)
  · rw [if_neg hans] at hiter ⊢
    rw [hiter]
    exact hcount

/-- What is due behind an iteration is counted from a start behind the clearing, too. -/
theorem countsOk_iterate {p : Device b ε × OnTimeTally b} (hcounts : p.2.CountsOk p.1.core)
    (rand : Nat → Nat) (c : b.Chn) :
    (OnTimeTally.iterate rand p c).2.CountsOk (OnTimeTally.iterate rand p c).1.core ∧
      (OnTimeTally.iterate rand p c).2.erased = p.2.erased := by
  have hcore := Device.core_onTimeChannel rand p.1 c
  have hkeep : ∀ (t : OnTimeTally b) (v : OnTimeView b),
      (t.stored v).agedMs = t.agedMs ∧ (t.stored v).erased = t.erased := by
    intro t v
    rw [stored]
    split
    · exact ⟨rfl, rfl⟩
    · exact ⟨rfl, rfl⟩
  rw [OnTimeTally.iterate]
  dsimp only
  generalize ht : p.2.follow p.1.core (Device.onTimeChannel rand p.1 c).core = t
  have hfollow : t.agedMs = p.2.agedMs ∧ t.erased = p.2.erased := by
    rw [← ht]
    exact ⟨rfl, rfl⟩
  generalize ht' : (if p.1.Answers c then t.answered (p.1.countChannel c).onTimeView c else t) = t'
  have hsame : t'.agedMs = p.2.agedMs ∧ t'.erased = p.2.erased := by
    rw [← ht']
    split
    · rw [answered, (hkeep _ _).1, (hkeep _ _).2]
      exact hfollow
    · exact hfollow
  refine ⟨fun herased c' hdue => ?_, hsame.2⟩
  rw [hcore] at hdue ⊢
  rw [hsame.1]
  rcases RelayCore.countDue_count hdue with hzero | ⟨hstretch, hdue'⟩
  · right
    rw [hzero]
    decide
  · rw [hstretch]
    exact hcounts (hsame.2.symm.trans herased) c' hdue'

theorem loop (h : t.Inv s.onTimeView) (hcounts : t.CountsOk s.core) (rand : Nat → Nat)
    (hok : clockTimeExceed s.sh.timeMs 0 5000 = true →
      AllSteps (Device.onTimeChannel rand)
        (fun s c => s.Answers c → t.AnswerOk (s.countChannel c).onTimeView) s b.chns) :
    (t.loop rand s).Inv (s.onTimeProc rand).onTimeView ∧
      (t.loop rand s).CountsOk (s.onTimeProc rand).core := by
  rw [OnTimeTally.loop, Device.onTimeProc]
  split
  · next hexceed =>
    have hpairs : AllSteps (OnTimeTally.iterate rand)
        (fun p c => p.1.Answers c → t.AnswerOk (p.1.countChannel c).onTimeView) (s, t) b.chns :=
      (AllSteps.simulation (R := fun (s : Device b ε) (p : Device b ε × OnTimeTally b) => p.1 = s)
        (fun _ _ _ hp => congrArg (fun s => Device.onTimeChannel rand s _) hp)
        (fun _ _ _ hp => by rw [hp]) rfl b.chns).mp (hok hexceed)
    have hloop := AllSteps.invariant
      (I := fun p : Device b ε × OnTimeTally b => p.2.Inv p.1.onTimeView ∧
        p.2.CountsOk p.1.core ∧ p.2.erased = t.erased ∧
        clockTimeExceed p.1.core.timeMs 0 5000 = true)
      (fun p c hp hc => by
        obtain ⟨hinv, hcounts, herased, htime⟩ := hp
        obtain ⟨hcounts', herased'⟩ := countsOk_iterate hcounts rand c
        refine ⟨hinv.iterate hcounts htime rand c fun hans => ?_, hcounts',
          herased'.trans herased, ?_⟩
        · obtain ⟨hfree, hstore⟩ := hc hans
          exact ⟨herased.trans hfree, fun hdue => ⟨herased.trans hfree, (hstore hdue).2⟩⟩
        · rw [OnTimeTally.iterate, Device.core_onTimeChannel, (p.1.core.count_rest c).2.1]
          exact htime)
      (s := (s, t)) ⟨h, hcounts, rfl, hexceed⟩ hpairs
    have hfst : (runFrom (OnTimeTally.iterate rand) (s, t) b.chns).1 =
        runFrom (Device.onTimeChannel rand) s b.chns :=
      runFrom_map Prod.fst (fun _ _ => rfl) (s, t) b.chns
    rw [← hfst]
    exact ⟨hloop.1, hloop.2.1⟩
  · exact ⟨h, hcounts⟩

/-- **Pass**: behind the loop it only counts a finished OFF drive. -/
theorem proc (cb : StateChangeCallback b ε) (h : t.Inv s.onTimeView) (rand : Nat → Nat)
    (hok : t.EventOk s (.relay (.proc rand))) :
    (t.observe cb s (.relay (.proc rand))).Inv (s.proc cb rand).onTimeView := by
  obtain ⟨hinv, hcounts⟩ := h.loop hok.1 rand hok.2
  have hview := s.onTimeView_proc cb rand
  have hlog : (s.proc cb rand).onTimeView.log = (s.onTimeProc rand).onTimeView.log := by
    rw [hview]
  have hsent : (s.proc cb rand).onTimeView.answers = (s.onTimeProc rand).onTimeView.answers := by
    rw [hview]
  obtain ⟨k1, k2, h1, h2, hproc⟩ := Device.core_proc cb rand s
  rw [← Device.core_onTimeProc rand s] at h1
  refine Inv.of_same (hinv.follow fun herased c => ?_) hlog hsent
  rw [hproc]
  rcases RelayCore.proc_total h1 h2 c with hsame | ⟨hoff, htotal⟩
  · exact Or.inl hsame
  · rcases hcounts herased c (Or.inr hoff) with hle | hlt
    · exact Or.inr (Or.inr hle)
    · -- less than a second counts as nothing
      left
      have hzero : (s.onTimeProc rand).core.stretch c / 1000 = 0 := by
        refine UInt32.toNat_inj.mp ?_
        rw [UInt32.toNat_div]
        exact Nat.div_eq_of_lt hlt
      rw [htotal, hzero, UInt32.add_zero]

/-- **Delete**: the deleted total is 0, and all of them are stored. -/
theorem delete (h : t.Inv s.onTimeView) (c : b.Chn) (hok : t.erased = false) :
    (((t.follow s.core (s.handleDeleteRelayOnTime c).core).stored (s.onTimeView.clear c)).answered
      (s.onTimeView.clear c).store c).Inv (s.handleDeleteRelayOnTime c).onTimeView := by
  have hview : (s.handleDeleteRelayOnTime c).onTimeView = (s.onTimeView.clear c).store.answer c :=
    s.onTimeView_handleDeleteRelayOnTime c
  have htotal : (s.handleDeleteRelayOnTime c).core.total = (s.onTimeView.clear c).total := by
    have hkeep : (s.handleDeleteRelayOnTime c).onTimeView.total = (s.onTimeView.clear c).total := by
      rw [hview, OnTimeView.total_answer, OnTimeView.total_store]
    exact hkeep
  have hfollow : (t.follow s.core (s.handleDeleteRelayOnTime c).core).Inv s.onTimeView := by
    refine h.follow fun _ c' => ?_
    rw [htotal]
    by_cases hc : c' = c
    · subst hc
      exact Or.inr (Or.inl (Function.update_self ..))
    · exact Or.inl (Function.update_of_ne hc ..)
  have hclear : OnTimeTally.Inv _ (s.onTimeView.clear c) := hfollow.of_same rfl rfl
  have hstore := hclear.store fun _ => by
    refine ⟨hok, c, ?_⟩
    -- a record with a 0 can be told from erased flash
    have hzero : (s.onTimeView.clear c).total c = 0 := Function.update_self ..
    rw [hzero]
    decide
  generalize ht : (t.follow s.core (s.handleDeleteRelayOnTime c).core).stored
    (s.onTimeView.clear c) = t' at hstore ⊢
  have herased : t'.erased = false := by
    rw [← ht, stored]
    split
    · exact hok
    · exact hok
  -- the store has been made, so the answer stores nothing more
  have hdue := OnTimeView.not_storeDue_store (s.onTimeView.clear c)
  rw [hview]
  exact hstore.answer c ⟨herased, fun hx => absurd hx hdue⟩

/-- **Step lemma**. -/
theorem event (cb : StateChangeCallback b ε) (h : t.Inv s.onTimeView) (ev : OnTimeEvent b ε)
    (hok : t.EventOk s ev) : (t.observe cb s ev).Inv (s.onTimeStep cb ev).onTimeView := by
  have hsame : ∀ {s' : Device b ε}, s'.onTimeView = s.onTimeView → t.Inv s'.onTimeView := by
    intro s' hv
    rw [hv]
    exact h
  have hcommand : ∀ {s' : Device b ε}, s'.besideCommand = s.besideCommand →
      t.Inv s'.onTimeView :=
    fun hb => hsame (Device.onTimeView_of_command (congrArg Prod.fst hb))
  cases ev with
  | relay ev =>
    cases ev with
    | setTargetState idx st src store =>
      exact hcommand (s.besideCommand_setTargetState idx st src store)
    | toggleState idx src => exact hcommand (s.besideCommand_toggleState idx src)
    | netState idx st => exact hcommand (s.besideCommand_netState idx st)
    | changeMode c m => exact hsame (s.onTimeView_changeMode c m)
    | zeroSync => exact hsame s.onTimeView_handleZeroSync
    | timerMatch => exact hsame s.onTimeView_handleControlWhenTimerMatch
    | proc rand => exact h.proc cb rand hok
    | clock ms sec => exact ⟨h.sector, h.part, h.blocks, h.answers⟩
    | other env factActive lightness nwk => exact hsame rfl
  | query c =>
    show (t.answered s.onTimeView c).Inv (s.responseTotalRelayOnTime c).onTimeView
    rw [s.onTimeView_responseTotalRelayOnTime c]
    exact h.answer c hok
  | delete c => exact h.delete c hok
  | store =>
    show (t.stored s.onTimeView).Inv s.storeTotalRelayOnTime.onTimeView
    rw [s.onTimeView_storeTotalRelayOnTime]
    exact h.store hok

/-- Nothing has been sent in this step. -/
theorem answers_nil (hout : s.relay.out = []) (c : Nat) : s.onTimeView.answers c = [] := by
  rw [Device.onTimeView, hout]
  rfl

/-- **Passed factory test**. -/
theorem cleaned (h : t.Inv s.onTimeView) (hout : s.relay.out = []) (hok : t.CleanOk s) :
    (t.cleaned s).Inv s.cleanRelayOnTime.onTimeView := by
  obtain ⟨herased, hstored⟩ := hok
  have hsector := h.sector
  rw [herased] at hsector
  have hview : s.cleanRelayOnTime.onTimeView = s.onTimeView.clearAll.store :=
    s.onTimeView_cleanRelayOnTime
  have hzero : ∀ c, 1000 * (s.cleanRelayOnTime.relay.onTime c).totalSeconds.toNat = 0 := by
    intro c
    have htotal : s.cleanRelayOnTime.onTimeView.total c = 0 := by
      rw [hview, OnTimeView.total_store]
      rfl
    exact congrArg (fun x : UInt32 => 1000 * x.toNat) htotal
  have hans : ∀ c : b.Chn, s.onTimeView.answers c = ([] : List (Nat × Nat)).map Prod.fst ∧
      ∀ p ∈ ([] : List (Nat × Nat)), p.2 = 0 :=
    fun c => ⟨answers_nil hout c, List.forall_mem_nil _⟩
  rw [OnTimeTally.cleaned, stored, hview]
  by_cases hdue : s.onTimeView.clearAll.StoreDue
  · rw [if_pos hdue, OnTimeView.store_of_due hdue]
    have hne : ∃ _ : b.Chn, (0 : UInt32) ≠ 0xFFFFFFFF := ⟨b.chn0, by decide⟩
    exact ⟨herased ▸ (hsector.put (fun _ => 0) hne).1, fun _ => hzero,
      BlockOrigins.fresh_put BlockOrigins.clean_age hsector hne hzero, hans⟩
  · -- there is no record that a boot could read
    have hnone : t.blocks = [] := hstored.resolve_left hdue
    rw [if_neg hdue, OnTimeView.store_of_not_due hdue, clearing, hnone]
    exact ⟨h.sector, fun _ => hzero, BlockOrigins.fresh_nil, hans⟩

/-- **Forced reset**. -/
theorem forced {log : LogState} (hout : s.relay.out = [])
    (hsector : SectorOk b 0x37000 log true) :
    (OnTimeTally.forced s).Inv { s.onTimeView with log := log } where
  sector := hsector
  part herased := absurd (show true = false from herased) (by decide)
  blocks := BlockOrigins.fresh_nil
  answers c := ⟨answers_nil hout c, List.forall_mem_nil _⟩

/-- **Reboot** on a flash with the same sector. -/
theorem rebooted {log : LogState} (h : t.Inv s.onTimeView)
    (hsector : SectorOk b 0x37000 ((relayOnTimeLog b).reindex log) false)
    (hblocks : t.blocks.Fresh 0x37000 log) (rand : Nat → Nat) (stateLog : LogState) (sh : Shared b)
    (env : ε) : (t.rebooted s.relay.onTimeLog sh.timeMs).Inv
      (Device.boot rand stateLog log sh env).onTimeView where
  sector := hsector
  part _ c := h.blocks.bootPart_eq _ c
  blocks := hblocks.reindex
  answers _ := ⟨rfl, List.forall_mem_nil _⟩

end Inv

end OnTimeTally

end LumesSwitch
