import LumesSwitch.Relay.Events

/-!
# Relay on-time

`relay.c` counts the seconds a channel was ON from `RLS_PRESENT`: every minute
while the flag is set, and when the drive that switched the channel OFF is
consumed. The flag is also complemented to force a drive of a channel that is
OFF, and the start of counting is only set by a consumed ON drive.

- `OnTimeMeter` — an observer that adds up what is counted, and the real time the
  channel's target is ON;
- `RelayCore.ChnStep` — what an event can do to the on-time of one channel;
- `OnTimeInv` — the invariant: what was counted, and the ON time not counted yet,
  fit into the real ON time;
- `relay_onTime_le_of_countOk` — no over-count in runs that count no stale or
  forced interval;
- `relay_onTime_overCounts` — a forced drive of a relay that was never ON counts
  the time since boot.
-/

namespace LumesSwitch

open Runs

variable {b : Board}

namespace RelayCore

variable {k k' : RelayCore b}

/-! ## When a pass counts -/

/-- The periodic count of channel `c` is due. -/
def PeriodicDue (k : RelayCore b) (c : b.Chn) : Prop :=
  k.present c = true ∧ clockTimeExceed k.timeMs 0 5000 = true ∧
    k.timeMs - k.checkStart c ≥ 60000

/-- A finished OFF drive of channel `c` waits, and it is not the channel's first
drive. -/
def OffDue (k : RelayCore b) (c : b.Chn) : Prop :=
  k.busy = false ∧ k.done = true ∧ k.drive = some ⟨c, false⟩ ∧ k.powerOn c = false

/-- A pass counts the time since the start of counting for channel `c`. -/
def Due (k : RelayCore b) (c : b.Chn) : Prop := k.PeriodicDue c ∨ k.OffDue c

instance (k : RelayCore b) (c : b.Chn) : Decidable (k.PeriodicDue c) :=
  inferInstanceAs (Decidable (_ ∧ _ ∧ _))

instance (k : RelayCore b) (c : b.Chn) : Decidable (k.OffDue c) :=
  inferInstanceAs (Decidable (_ ∧ _ ∧ _ ∧ _))

instance (k : RelayCore b) (c : b.Chn) : Decidable (k.Due c) :=
  inferInstanceAs (Decidable (_ ∨ _))

/-- The time since the start of counting. -/
def span (k : RelayCore b) (c : b.Chn) : UInt32 := k.timeMs - k.checkStart c

/-! ## One channel across the operations -/

/-- What an event other than the clock does to the on-time of channel `c`: it
counts at most the span, and only when that is due; and a channel that comes out
with both flags ON either starts counting now or was counting before. -/
structure ChnStep (k k' : RelayCore b) (c : b.Chn) : Prop where
  time : k'.timeMs = k.timeMs
  start : k'.checkStart c = k.checkStart c ∨ k'.checkStart c = k.timeMs
  total : k'.total c = k.total c ∨ k.Due c ∧ k'.total c = k.total c + k.span c / 1000
  counting : k'.present c = true → k'.target c = true →
    k'.checkStart c = k.timeMs ∨
    k.present c = true ∧ k.target c = true ∧ k'.checkStart c = k.checkStart c ∧
      k'.total c = k.total c

/-- An event that leaves the on-time alone, and complements no present flag but to
force a drive. -/
theorem ChnStep.of_same {c : b.Chn} (htime : k'.timeMs = k.timeMs)
    (hstart : k'.checkStart c = k.checkStart c) (htotal : k'.total c = k.total c)
    (hflags : k'.target c = k.target c ∧ k'.present c = k.present c ∨
      k'.present c = !k'.target c) : ChnStep k k' c := by
  refine ⟨htime, Or.inl hstart, Or.inl htotal, fun hp ht => ?_⟩
  rcases hflags with ⟨htarget, hpresent⟩ | hne
  · exact Or.inr ⟨hpresent ▸ hp, htarget ▸ ht, hstart, htotal⟩
  · rw [hp, ht] at hne
    exact absurd hne (by decide)

/-- `k'` has the on-time and the drive of `k`; the flags of a channel are as before
or wait for a drive. -/
structure SameDrive (k k' : RelayCore b) : Prop where
  total : k'.total = k.total
  checkStart : k'.checkStart = k.checkStart
  powerOn : k'.powerOn = k.powerOn
  timeMs : k'.timeMs = k.timeMs
  busy : k'.busy = k.busy
  done : k'.done = k.done
  drive : k'.drive = k.drive
  flags : ∀ c, k'.target c = k.target c ∧ k'.present c = k.present c ∨
    k'.present c = !k'.target c

theorem SameDrive.refl (k : RelayCore b) : SameDrive k k :=
  ⟨rfl, rfl, rfl, rfl, rfl, rfl, rfl, fun _ => Or.inl ⟨rfl, rfl⟩⟩

theorem SameDrive.command {k0 : RelayCore b} (h : SameDrive k0 k) (c : b.Chn)
    (cmd : RelayCmd) : SameDrive k0 (k.command c cmd) := by
  unfold RelayCore.command
  obtain ⟨h1, h2, h3, h4, h5, h6, h7, h8⟩ := h
  cases cmd with
  | net st =>
    dsimp only
    split
    · exact ⟨h1, h2, h3, h4, h5, h6, h7, h8⟩
    · exact ⟨h1, h2, h3, h4, h5, h6, h7, h8⟩
  | toggle => exact ⟨h1, h2, h3, h4, h5, h6, h7, h8⟩
  | set st => exact ⟨h1, h2, h3, h4, h5, h6, h7, h8⟩

theorem SameDrive.map {k0 : RelayCore b} (h : SameDrive k0 k) (c : b.Chn) :
    SameDrive k0 (k.map c) := by
  rw [RelayCore.map]
  split
  · refine ⟨h.total, h.checkStart, h.powerOn, h.timeMs, h.busy, h.done, h.drive, fun c' => ?_⟩
    by_cases hc : c' = c
    · subst hc
      right
      show Function.update k.present c' _ c' = !Function.update k.target c' _ c'
      rw [Function.update_self, Function.update_self]
    · show Function.update k.target c _ c' = _ ∧ Function.update k.present c _ c' = _ ∨
        Function.update k.present c _ c' = !Function.update k.target c _ c'
      rw [Function.update_of_ne hc, Function.update_of_ne hc]
      exact h.flags c'
  · exact h

theorem SameDrive.sameState (k : RelayCore b) (c : b.Chn) : SameDrive k (k.sameState c) := by
  refine ⟨rfl, rfl, rfl, rfl, rfl, rfl, rfl, fun c' => ?_⟩
  by_cases hc : c' = c
  · subst hc
    exact Or.inr (Function.update_self ..)
  · exact Or.inl ⟨rfl, Function.update_of_ne hc ..⟩

theorem SameDrive.changeMode (k : RelayCore b) (c : b.Chn) (m : SwitchMode) :
    SameDrive k (k.changeMode c m) := by
  have hmode : SameDrive k (k.writeMode c m) :=
    ⟨rfl, rfl, rfl, rfl, rfl, rfl, rfl, fun _ => Or.inl ⟨rfl, rfl⟩⟩
  rw [RelayCore.changeMode]
  split
  · exact hmode
  · split
    · exact hmode.command c _
    · obtain ⟨h1, h2, h3, h4, h5, h6, h7, h8⟩ := SameDrive.sameState (k.writeMode c m) c
      exact ⟨h1, h2, h3, h4, h5, h6, h7, h8⟩

theorem SameDrive.chnStep (h : SameDrive k k') (c : b.Chn) : ChnStep k k' c :=
  .of_same h.timeMs (congrFun h.checkStart c) (congrFun h.total c) (h.flags c)

/-! ### The on-time loop -/

/-- Channel `c` was counted from `k` to `k'`, or was not due for it. -/
def CountedOnce (k k' : RelayCore b) (c : b.Chn) : Prop :=
  k'.total c = k.total c ∧ k'.checkStart c = k.checkStart c ∨
  (k.present c = true ∧ k.span c ≥ 60000) ∧
    k'.total c = k.total c + k.span c / 1000 ∧ k'.checkStart c = k.timeMs

theorem clamped_of_le {c : b.Chn} (h : k.checkStart c ≤ k.timeMs) :
    k.clamped c = k.checkStart c :=
  if_neg (UInt32.not_lt.mpr h)

theorem countedOnce_count {c : b.Chn} (h : k.checkStart c ≤ k.timeMs) :
    CountedOnce k (k.count c) c := by
  rw [count, clamped_of_le h]
  split
  · next hp =>
    split
    · next hspan =>
      right
      exact ⟨⟨hp, hspan⟩, Function.update_self .., Function.update_self ..⟩
    · left
      exact ⟨rfl, Function.update_self ..⟩
  · left
    exact ⟨rfl, rfl⟩

/-- Counting one channel leaves the on-time of the others alone. -/
theorem count_other (k : RelayCore b) {c c' : b.Chn} (h : c ≠ c') :
    (k.count c').total c = k.total c ∧ (k.count c').checkStart c = k.checkStart c ∧
      (k.count c').present = k.present ∧ (k.count c').timeMs = k.timeMs := by
  rw [count]
  split
  · split
    · exact ⟨Function.update_of_ne h .., Function.update_of_ne h .., rfl, rfl⟩
    · exact ⟨rfl, Function.update_of_ne h .., rfl, rfl⟩
  · exact ⟨rfl, rfl, rfl, rfl⟩

theorem counts_other {c : b.Chn} {cs : List b.Chn} (hc : c ∉ cs) (k : RelayCore b) :
    (runFrom count k cs).total c = k.total c ∧
      (runFrom count k cs).checkStart c = k.checkStart c := by
  induction cs generalizing k with
  | nil => exact ⟨rfl, rfl⟩
  | cons c' cs ih =>
    obtain ⟨hne, hcs⟩ := not_or.mp (List.mem_cons.not.mp hc)
    obtain ⟨htotal, hstart, -, -⟩ := k.count_other hne
    obtain ⟨ihtotal, ihstart⟩ := ih hcs (k.count c')
    exact ⟨ihtotal.trans htotal, ihstart.trans hstart⟩

theorem countedOnce_counts {c : b.Chn} {cs : List b.Chn} (hn : cs.Nodup) (hc : c ∈ cs)
    (h : k.checkStart c ≤ k.timeMs) : CountedOnce k (runFrom count k cs) c := by
  induction cs generalizing k with
  | nil => exact absurd hc List.not_mem_nil
  | cons c' cs ih =>
    obtain ⟨hnc, hns⟩ := List.nodup_cons.mp hn
    by_cases hcc : c = c'
    · subst hcc
      obtain ⟨htotal, hstart⟩ := counts_other hnc (k.count c)
      have hone := countedOnce_count h
      unfold CountedOnce at hone ⊢
      rw [runFrom_cons, htotal, hstart]
      exact hone
    · obtain ⟨htotal, hstart, hpresent, htime⟩ := k.count_other hcc
      have hrest := ih (k := k.count c') hns (List.mem_of_ne_of_mem hcc hc)
        (by rw [hstart, htime]; exact h)
      unfold CountedOnce span at hrest ⊢
      rw [htotal, hstart, hpresent, htime] at hrest
      exact hrest

/-- What the on-time loop does to one channel. -/
theorem onTime_chn (c : b.Chn) (h : k.checkStart c ≤ k.timeMs) :
    k.onTime.total c = k.total c ∧ k.onTime.checkStart c = k.checkStart c ∨
    k.PeriodicDue c ∧ k.onTime.total c = k.total c + k.span c / 1000 ∧
      k.onTime.checkStart c = k.timeMs := by
  rw [onTime]
  split
  · next hexceed =>
    rcases countedOnce_counts b.nodup_chns (b.mem_chns c) h with hsame | ⟨⟨hp, hs⟩, hcount⟩
    · exact Or.inl hsame
    · exact Or.inr ⟨⟨hp, hexceed, hs⟩, hcount⟩
  · exact Or.inl ⟨rfl, rfl⟩

/-! ### The pass of the idle driver -/

/-- A pass of the idle driver did one of three things to the on-time of channel `c`:
nothing; it consumed an ON drive, which starts the counting; or it consumed an OFF
drive, which counts unless it is the channel's first drive. -/
inductive PassChn (k k' : RelayCore b) (c : b.Chn) : Prop where
  | none (htotal : k'.total c = k.total c) (hstart : k'.checkStart c = k.checkStart c)
      (hpresent : k'.present c = k.present c)
  | on (htotal : k'.total c = k.total c) (hstart : k'.checkStart c = k.timeMs)
  | off (hdone : k.done = true) (hdrive : k.drive = some ⟨c, false⟩)
      (hstart : k'.checkStart c = k.checkStart c) (hpresent : k'.present c = false)
      (htotal : k'.total c = k.total c ∨
        k.powerOn c = false ∧ k'.total c = k.total c + k.span c / 1000)

theorem consume_chn (c : b.Chn) (hdone : k.done = true) (h : k.checkStart c ≤ k.timeMs) :
    PassChn k k.consume c := by
  rw [consume]
  cases hd : k.drive with
  | none => exact .none rfl rfl rfl
  | some d =>
    obtain ⟨dc, on⟩ := d
    dsimp only
    by_cases hc : c = dc
    · subst hc
      rw [clamped_of_le h]
      cases on with
      | true => exact .on rfl (Function.update_self ..)
      | false =>
        refine .off hdone hd (Function.update_self ..) (Function.update_self ..) ?_
        by_cases hp : k.powerOn c = false
        · right
          rw [if_pos ⟨rfl, hp⟩]
          exact ⟨hp, Function.update_self ..⟩
        · left
          rw [if_neg fun hx => hp hx.2]
    · refine .none ?_ (Function.update_of_ne hc ..) (Function.update_of_ne hc ..)
      dsimp only
      split
      · exact Function.update_of_ne hc ..
      · rfl

theorem pass_chn (c : b.Chn) (h : k.checkStart c ≤ k.timeMs) :
    PassChn k k.pass c ∧ k.pass.timeMs = k.timeMs := by
  have htime : k.consume.timeMs = k.timeMs := by
    rw [consume]
    split <;> rfl
  obtain ⟨busy, drive, heq⟩ := k.pass_eq
  rw [heq]
  split
  · next hdone =>
    refine ⟨?_, htime⟩
    cases consume_chn c hdone h with
    | none htotal hstart hpresent => exact .none htotal hstart hpresent
    | on htotal hstart => exact .on htotal hstart
    | off hdone hdrive hstart hpresent htotal => exact .off hdone hdrive hstart hpresent htotal
  · exact ⟨.none rfl rfl rfl, rfl⟩

/-! ### The whole pass -/

theorem SameDrive.mapLoop {cs : List b.Chn} (h : MapLoop cs k k') : SameDrive k k' :=
  h.invariant (fun _ c cmd hk => hk.command c cmd) (fun _ c hk => hk.map c) (.refl k)

theorem SameDrive.commands {k0 : RelayCore b} (h : SameDrive k0 k) (hc : k.Commands k') :
    SameDrive k0 k' :=
  hc.invariant (fun _ c cmd hk => hk.command c cmd) h

theorem proc_chn {k1 k2 : RelayCore b} (h1 : MapLoop b.chns k.onTime k1) (h2 : Commands k1 k2)
    (c : b.Chn) (h : k.checkStart c ≤ k.timeMs) :
    ChnStep k (if k2.busy then k2 else k2.pass) c := by
  have hsame : SameDrive k.onTime k2 := (SameDrive.mapLoop h1).commands h2
  have hon := onTime_chn c h
  obtain ⟨total, checkStart, heq⟩ := k.onTime_eq
  rw [heq] at hsame hon
  have htime : k2.timeMs = k.timeMs := hsame.timeMs
  have hflags : k2.target c = k.target c ∧ k2.present c = k.present c ∨
    k2.present c = !k2.target c := hsame.flags c
  -- what the on-time loop has done, seen from behind the mapping
  have hcount : k2.total c = k.total c ∧ k2.checkStart c = k.checkStart c ∨
      k.PeriodicDue c ∧ k2.total c = k.total c + k.span c / 1000 ∧
        k2.checkStart c = k.timeMs := by
    rw [hsame.total, hsame.checkStart]
    exact hon
  have hle : k2.checkStart c ≤ k2.timeMs := by
    rw [htime]
    rcases hcount with ⟨-, hs⟩ | ⟨-, -, hs⟩
    · rw [hs]
      exact h
    · rw [hs]
      exact UInt32.le_refl _
  have hmid : ChnStep k k2 c := by
    constructor
    case time => exact htime
    case start =>
      rcases hcount with ⟨-, hs⟩ | ⟨-, -, hs⟩
      · exact Or.inl hs
      · exact Or.inr hs
    case total =>
      rcases hcount with ⟨ht, -⟩ | ⟨hd, ht, -⟩
      · exact Or.inl ht
      · exact Or.inr ⟨Or.inl hd, ht⟩
    case counting =>
      intro hp ht
      rcases hcount with ⟨htot, hs⟩ | ⟨-, -, hs⟩
      · rcases hflags with ⟨htarget, hpresent⟩ | hne
        · exact Or.inr ⟨hpresent ▸ hp, htarget ▸ ht, hs, htot⟩
        · rw [hp, ht] at hne
          exact absurd hne (by decide)
      · exact Or.inl hs
  split
  · exact hmid
  · next hbusy =>
    obtain ⟨hpass, hptime⟩ := pass_chn c hle
    have hptarget : k2.pass.target = k2.target := k2.pass_flags.2.1
    cases hpass with
    | none htotal hstart hpresent =>
      constructor
      case time => exact hptime.trans htime
      case start =>
        rw [hstart]
        exact hmid.start
      case total =>
        rw [htotal]
        exact hmid.total
      case counting =>
        intro hp ht
        rw [hstart, htotal]
        exact hmid.counting (hpresent ▸ hp) (hptarget ▸ ht)
    | on htotal hstart =>
      refine ⟨hptime.trans htime, Or.inr (hstart.trans htime), ?_, fun _ _ => ?_⟩
      · rw [htotal]
        exact hmid.total
      · exact Or.inl (hstart.trans htime)
    | off hdone hdrive hstart hpresent htotal =>
      constructor
      case time => exact hptime.trans htime
      case start =>
        rw [hstart]
        exact hmid.start
      case total =>
        rcases htotal with ht | ⟨hpower, ht⟩
        · rw [ht]
          exact hmid.total
        · rcases hcount with ⟨htot, hs⟩ | ⟨hd, htot, hs⟩
          · -- the periodic count was not due: the drive counts the span
            refine Or.inr ⟨Or.inr ?_, ?_⟩
            · exact ⟨hsame.busy ▸ Bool.not_eq_true _ ▸ hbusy, hsame.done ▸ hdone,
                hsame.drive ▸ hdrive, hsame.powerOn ▸ hpower⟩
            · have hspan : k2.span c = k.span c := by rw [span, hs, htime, span]
              rw [ht, htot, hspan]
          · -- it was, and has left nothing to count
            refine Or.inr ⟨Or.inl hd, ?_⟩
            have hspan : k2.span c = 0 := by rw [span, hs, htime, UInt32.sub_self]
            have hnone : (0 : UInt32) / 1000 = 0 := rfl
            rw [ht, htot, hspan, hnone, UInt32.add_zero]
      case counting =>
        intro hp _
        rw [hpresent] at hp
        exact absurd hp (by decide)

end RelayCore

/-! ## The observer -/

/-- What an observer of the driver writes down for each channel: the seconds counted
and the real time with the target ON, since boot; and when the target last went ON,
last went OFF, and when seconds were last counted. -/
structure OnTimeMeter (b : Board) where
  added : b.Chn → Nat
  onMs : b.Chn → Nat
  onAt : b.Chn → Nat
  offAt : b.Chn → Nat
  countedAt : b.Chn → Nat

namespace OnTimeMeter

/-- The observer at boot. -/
def start (k : RelayCore b) : OnTimeMeter b where
  added _ := 0
  onMs _ := 0
  onAt _ := k.timeMs.toNat
  offAt _ := k.timeMs.toNat
  countedAt _ := k.timeMs.toNat

/-- The observer behind an event that takes `k` to `k'`. -/
def observe (m : OnTimeMeter b) (k k' : RelayCore b) : OnTimeMeter b where
  added c := m.added c + (k'.total c - k.total c).toNat
  onMs c := m.onMs c + if k.target c then (k'.timeMs - k.timeMs).toNat else 0
  onAt c := if k.target c = false ∧ k'.target c = true then k'.timeMs.toNat else m.onAt c
  offAt c := if k.target c = true ∧ k'.target c = false then k'.timeMs.toNat else m.offAt c
  countedAt c := if k'.total c ≠ k.total c then k'.timeMs.toNat else m.countedAt c

/-- The end of the last ON period: now, or when the target went OFF. -/
def onEnd (m : OnTimeMeter b) (k : RelayCore b) (c : b.Chn) : Nat :=
  if k.target c then k.timeMs.toNat else m.offAt c

variable {k k' : RelayCore b}

/-- An event other than the clock notes the present time, or nothing. -/
theorem observe_onAt (m : OnTimeMeter b) (htime : k'.timeMs = k.timeMs) (c : b.Chn) :
    (m.observe k k').onAt c = m.onAt c ∨ (m.observe k k').onAt c = k.timeMs.toNat := by
  rw [observe]
  dsimp only
  split
  · exact Or.inr (by rw [htime])
  · exact Or.inl rfl

theorem observe_offAt (m : OnTimeMeter b) (htime : k'.timeMs = k.timeMs) (c : b.Chn) :
    (m.observe k k').offAt c = m.offAt c ∨ (m.observe k k').offAt c = k.timeMs.toNat := by
  rw [observe]
  dsimp only
  split
  · exact Or.inr (by rw [htime])
  · exact Or.inl rfl

theorem observe_countedAt (m : OnTimeMeter b) (htime : k'.timeMs = k.timeMs) (c : b.Chn) :
    k'.total c = k.total c ∧ (m.observe k k').countedAt c = m.countedAt c ∨
    k'.total c ≠ k.total c ∧ (m.observe k k').countedAt c = k.timeMs.toNat := by
  rw [observe]
  dsimp only
  split
  · next hne => exact Or.inr ⟨hne, by rw [htime]⟩
  · next he => exact Or.inl ⟨Decidable.not_not.mp he, rfl⟩

/-- The end of the last ON period moves only when the target goes ON. -/
theorem observe_onEnd (m : OnTimeMeter b) (htime : k'.timeMs = k.timeMs) (c : b.Chn) :
    (m.observe k k').onEnd k' c = m.onEnd k c ∨ (m.observe k k').onAt c = k.timeMs.toNat := by
  unfold onEnd observe
  dsimp only
  rw [htime]
  cases k.target c <;> cases k'.target c <;> simp

theorem observe_onMs (m : OnTimeMeter b) (htime : k'.timeMs = k.timeMs) (c : b.Chn) :
    (m.observe k k').onMs c = m.onMs c := by
  rw [observe]
  dsimp only
  rw [htime, UInt32.sub_self]
  split <;> rfl

end OnTimeMeter

/-- The interval from the start of counting to now is fresh: it starts in the last ON
period, behind what was counted, and no whole second of it lies behind the end of
that period. -/
def FreshSpan (k : RelayCore b) (m : OnTimeMeter b) (c : b.Chn) : Prop :=
  m.onAt c ≤ (k.checkStart c).toNat ∧ m.countedAt c ≤ (k.checkStart c).toNat ∧
    (k.timeMs.toNat - (k.checkStart c).toNat) / 1000 ≤
      (m.onEnd k c - (k.checkStart c).toNat) / 1000

instance (k : RelayCore b) (m : OnTimeMeter b) (c : b.Chn) : Decidable (FreshSpan k m c) :=
  inferInstanceAs (Decidable (_ ∧ _ ∧ _))

/-- A pass that counts for a channel that is not plainly ON counts a fresh interval. -/
def CountOk (k : RelayCore b) (m : OnTimeMeter b) : Prop :=
  ∀ c, k.Due c → ¬ (k.present c = true ∧ k.target c = true) → FreshSpan k m c

instance (k : RelayCore b) (m : OnTimeMeter b) : Decidable (CountOk k m) :=
  inferInstanceAs (Decidable (∀ _, _ → ¬ (_ ∧ _) → _))

/-! ## The invariant -/

/-- What was counted, and the time of the last ON period not counted yet, fit into the
real ON time. -/
structure OnTimeInv (k : RelayCore b) (m : OnTimeMeter b) : Prop where
  start_le : ∀ c, k.checkStart c ≤ k.timeMs
  onAt_le : ∀ c, m.onAt c ≤ k.timeMs.toNat
  offAt_le : ∀ c, m.offAt c ≤ k.timeMs.toNat
  countedAt_le : ∀ c, m.countedAt c ≤ k.timeMs.toNat
  counting : ∀ c, k.present c = true → k.target c = true →
    m.onAt c ≤ (k.checkStart c).toNat ∧ m.countedAt c ≤ (k.checkStart c).toNat
  budget : ∀ c, 1000 * m.added c + (m.onEnd k c - max (m.onAt c) (m.countedAt c)) ≤ m.onMs c

namespace OnTimeInv

variable {k k' : RelayCore b} {m : OnTimeMeter b}

theorem onEnd_le (h : OnTimeInv k m) (c : b.Chn) : m.onEnd k c ≤ k.timeMs.toNat := by
  rw [OnTimeMeter.onEnd]
  split
  · exact Nat.le_refl _
  · exact h.offAt_le c

/-- A channel that is plainly ON has a fresh interval. -/
theorem freshSpan (h : OnTimeInv k m) {c : b.Chn} (hok : CountOk k m) (hdue : k.Due c) :
    FreshSpan k m c := by
  by_cases hon : k.present c = true ∧ k.target c = true
  · obtain ⟨h1, h2⟩ := h.counting c hon.1 hon.2
    refine ⟨h1, h2, ?_⟩
    rw [OnTimeMeter.onEnd, if_pos hon.2]
  · exact hok c hdue hon

/-- The seconds of a fresh interval fit into the uncounted ON time. -/
theorem span_le (h : OnTimeInv k m) {c : b.Chn} (hf : FreshSpan k m c) :
    1000 * (k.span c / 1000).toNat ≤ m.onEnd k c - max (m.onAt c) (m.countedAt c) := by
  obtain ⟨h1, h2, h3⟩ := hf
  have hspan : (k.span c / 1000).toNat
      = (k.timeMs.toNat - (k.checkStart c).toNat) / 1000 := by
    rw [UInt32.toNat_div, RelayCore.span, UInt32.toNat_sub_of_le _ _ (h.start_le c)]
    rfl
  rw [hspan]
  omega

theorem onAt_observe_le (h : OnTimeInv k m) (htime : k'.timeMs = k.timeMs) (c : b.Chn) :
    (m.observe k k').onAt c ≤ k.timeMs.toNat := by
  have hle := h.onAt_le c
  rcases m.observe_onAt htime c with he | he
  · exact he ▸ hle
  · exact Nat.le_of_eq he

theorem offAt_observe_le (h : OnTimeInv k m) (htime : k'.timeMs = k.timeMs) (c : b.Chn) :
    (m.observe k k').offAt c ≤ k.timeMs.toNat := by
  have hle := h.offAt_le c
  rcases m.observe_offAt htime c with he | he
  · exact he ▸ hle
  · exact Nat.le_of_eq he

theorem countedAt_observe_le (h : OnTimeInv k m) (htime : k'.timeMs = k.timeMs) (c : b.Chn) :
    (m.observe k k').countedAt c ≤ k.timeMs.toNat := by
  have hle := h.countedAt_le c
  rcases m.observe_countedAt htime c with ⟨-, he⟩ | ⟨-, he⟩
  · exact he ▸ hle
  · exact Nat.le_of_eq he

/-- A channel that comes out with both flags ON counts from its last ON, and from
what was counted. -/
theorem counting_step (h : OnTimeInv k m) {c : b.Chn} (hs : k.ChnStep k' c)
    (hp : k'.present c = true) (ht : k'.target c = true) :
    (m.observe k k').onAt c ≤ (k'.checkStart c).toNat ∧
      (m.observe k k').countedAt c ≤ (k'.checkStart c).toNat := by
  rcases hs.counting hp ht with he | ⟨hp0, ht0, he, htot⟩
  · rw [he]
    exact ⟨h.onAt_observe_le hs.time c, h.countedAt_observe_le hs.time c⟩
  · obtain ⟨h1, h2⟩ := h.counting c hp0 ht0
    rw [he]
    refine ⟨?_, ?_⟩
    · have hon : (m.observe k k').onAt c = m.onAt c := if_neg fun hx => by simp [ht0] at hx
      exact hon ▸ h1
    · have hcounted : (m.observe k k').countedAt c = m.countedAt c := if_neg fun hx => hx htot
      exact hcounted ▸ h2

/-- What an event counts is paid by the uncounted rest of the last ON period. -/
theorem budget_step (h : OnTimeInv k m) {c : b.Chn} (hs : k.ChnStep k' c)
    (hok : k'.total = k.total ∨ CountOk k m)
    (hend : (m.observe k k').onEnd k' c ≤ k.timeMs.toNat) :
    1000 * (m.observe k k').added c + ((m.observe k k').onEnd k' c -
      max ((m.observe k k').onAt c) ((m.observe k k').countedAt c)) ≤
      (m.observe k k').onMs c := by
  have hb := h.budget c
  have hadded : (m.observe k k').added c = m.added c + (k'.total c - k.total c).toNat := rfl
  rw [m.observe_onMs hs.time c, hadded]
  rcases m.observe_countedAt hs.time c with ⟨htot, hc⟩ | ⟨hne, hc⟩
  · -- nothing was counted: the rest is as before, or a new ON period begins
    have hnone : (k'.total c - k.total c).toNat = 0 := by
      rw [htot, UInt32.sub_self]
      rfl
    rw [hnone, hc]
    rcases m.observe_onEnd hs.time c with he | he
    · rw [he]
      have hu := h.onEnd_le c
      rcases m.observe_onAt hs.time c with ho | ho
      · rw [ho]
        exact hb
      · rw [ho]
        omega
    · rw [he]
      omega
  · rw [hc]
    rcases hs.total with he | ⟨hdue, he⟩
    · exact absurd he hne
    · have hok' : CountOk k m := hok.resolve_left fun hx => hne (congrFun hx c)
      have hspan := h.span_le (h.freshSpan hok' hdue)
      have hdiff : k'.total c - k.total c = k.span c / 1000 := by
        rw [he, UInt32.add_comm]
        exact UInt32.add_sub_cancel ..
      rw [hdiff]
      omega

/-- **Step lemma** for every event but the clock. -/
theorem step (h : OnTimeInv k m) (hs : ∀ c, k.ChnStep k' c)
    (hok : k'.total = k.total ∨ CountOk k m) : OnTimeInv k' (m.observe k k') := by
  have htime : k'.timeMs = k.timeMs := (hs b.chn0).time
  have hend : ∀ c, (m.observe k k').onEnd k' c ≤ k.timeMs.toNat := by
    intro c
    rw [OnTimeMeter.onEnd]
    split
    · rw [htime]
    · exact h.offAt_observe_le htime c
  constructor
  case start_le =>
    intro c
    rw [htime]
    rcases (hs c).start with he | he
    · exact he ▸ h.start_le c
    · exact he ▸ UInt32.le_refl _
  case onAt_le => exact fun c => htime ▸ h.onAt_observe_le htime c
  case offAt_le => exact fun c => htime ▸ h.offAt_observe_le htime c
  case countedAt_le => exact fun c => htime ▸ h.countedAt_observe_le htime c
  case counting => exact fun c hp ht => h.counting_step (hs c) hp ht
  case budget => exact fun c => h.budget_step (hs c) hok (hend c)

/-- **Step lemma** for the clock: real time passes, and counts as ON time for the
channels whose target is ON. -/
theorem clock (h : OnTimeInv k m) {ms : UInt32}
    (hwrap : k.timeMs.toNat + ms.toNat < 2 ^ 32) :
    OnTimeInv { k with timeMs := k.timeMs + ms }
      (m.observe k { k with timeMs := k.timeMs + ms }) := by
  have hnow : (k.timeMs + ms).toNat = k.timeMs.toNat + ms.toNat := by
    rw [UInt32.toNat_add]
    exact Nat.mod_eq_of_lt hwrap
  have hon : (m.observe k { k with timeMs := k.timeMs + ms }).onAt = m.onAt := by
    funext c
    exact if_neg fun hx => by simp [hx.1] at hx
  have hoff : (m.observe k { k with timeMs := k.timeMs + ms }).offAt = m.offAt := by
    funext c
    exact if_neg fun hx => by simp [hx.1] at hx
  have hcounted : (m.observe k { k with timeMs := k.timeMs + ms }).countedAt = m.countedAt :=
    funext fun c => if_neg fun hx => hx rfl
  have hadded : ∀ c, (m.observe k { k with timeMs := k.timeMs + ms }).added c = m.added c := by
    intro c
    show m.added c + (k.total c - k.total c).toNat = m.added c
    rw [UInt32.sub_self]
    rfl
  have hms : (k.timeMs + ms - k.timeMs).toNat = ms.toNat := by
    rw [UInt32.add_comm, UInt32.add_sub_cancel]
  constructor
  case start_le =>
    intro c
    have hs := UInt32.le_iff_toNat_le.mp (h.start_le c)
    refine UInt32.le_iff_toNat_le.mpr ?_
    show (k.checkStart c).toNat ≤ (k.timeMs + ms).toNat
    omega
  case onAt_le =>
    intro c
    have hle := h.onAt_le c
    rw [hon]
    show _ ≤ (k.timeMs + ms).toNat
    omega
  case offAt_le =>
    intro c
    have hle := h.offAt_le c
    rw [hoff]
    show _ ≤ (k.timeMs + ms).toNat
    omega
  case countedAt_le =>
    intro c
    have hle := h.countedAt_le c
    rw [hcounted]
    show _ ≤ (k.timeMs + ms).toNat
    omega
  case counting =>
    intro c hp ht
    rw [hon, hcounted]
    exact h.counting c hp ht
  case budget =>
    -- the ON period of a channel that is ON grows by `ms`, and so does its ON time
    intro c
    have hb := h.budget c
    rw [hon, hcounted, hadded]
    unfold OnTimeMeter.onEnd at hb ⊢
    rw [hoff]
    show _ + ((if k.target c then (k.timeMs + ms).toNat else m.offAt c) - _) ≤
      m.onMs c + if k.target c then (k.timeMs + ms - k.timeMs).toNat else 0
    rw [hnow, hms]
    split at hb
    · next ht =>
      rw [if_pos ht, if_pos ht]
      omega
    · next ht =>
      rw [if_neg ht, if_neg ht]
      omega

end OnTimeInv

/-! ## Runs -/

variable {ε : Type}

/-- The driver under observation. -/
def meteredStep (cb : StateChangeCallback b ε) (p : Device b ε × OnTimeMeter b)
    (ev : RelayEvent b ε) : Device b ε × OnTimeMeter b :=
  (p.1.step cb ev, p.2.observe p.1.core (p.1.step cb ev).core)

/-- The clock does not wrap. -/
def NoWrap (p : Device b ε × OnTimeMeter b) : RelayEvent b ε → Prop
  | .clock ms _ => p.1.sh.timeMs.toNat + ms.toNat < 2 ^ 32
  | _ => True

instance (p : Device b ε × OnTimeMeter b) (ev : RelayEvent b ε) : Decidable (NoWrap p ev) :=
  match ev with
  | .clock .. => inferInstanceAs (Decidable (_ < _))
  | .setTargetState .. | .toggleState .. | .netState .. | .changeMode .. | .zeroSync
  | .timerMatch | .proc _ | .other .. => isTrue trivial

/-- A pass counts fresh intervals only. -/
def PassCountOk (p : Device b ε × OnTimeMeter b) : RelayEvent b ε → Prop
  | .proc _ => CountOk p.1.core p.2
  | _ => True

instance (p : Device b ε × OnTimeMeter b) (ev : RelayEvent b ε) :
    Decidable (PassCountOk p ev) :=
  match ev with
  | .proc _ => inferInstanceAs (Decidable (CountOk p.1.core p.2))
  | .setTargetState .. | .toggleState .. | .netState .. | .changeMode .. | .zeroSync
  | .timerMatch | .clock .. | .other .. => isTrue trivial

theorem onTimeInv_boot (rand : Nat → Nat) (stateLog onTimeLog : LogState) (sh : Shared b)
    (env : ε) : OnTimeInv (Device.boot rand stateLog onTimeLog sh env).core
      (.start (Device.boot rand stateLog onTimeLog sh env).core) := by
  obtain ⟨t, total, heq⟩ := Device.core_boot rand stateLog onTimeLog sh env
  rw [heq]
  constructor
  case start_le => exact fun c => UInt32.le_iff_toNat_le.mpr (Nat.zero_le _)
  case onAt_le => exact fun c => Nat.le_refl _
  case offAt_le => exact fun c => Nat.le_refl _
  case countedAt_le => exact fun c => Nat.le_refl _
  case counting =>
    -- a channel that boots ON waits for its first drive
    intro c hp ht
    change (!t c) = true at hp
    change t c = true at ht
    rw [ht] at hp
    exact absurd hp (by decide)
  case budget =>
    intro c
    rw [OnTimeMeter.onEnd, OnTimeMeter.start]
    dsimp only
    split <;> simp

/-- **Step lemma** for the events of the driver. -/
theorem onTimeInv_step (cb : StateChangeCallback b ε) {p : Device b ε × OnTimeMeter b}
    {ev : RelayEvent b ε} (h : OnTimeInv p.1.core p.2) (hwrap : NoWrap p ev)
    (hok : PassCountOk p ev) :
    OnTimeInv (meteredStep cb p ev).1.core (meteredStep cb p ev).2 := by
  have hstep := p.1.core_step cb ev
  rw [meteredStep]
  dsimp only
  generalize (p.1.step cb ev).core = k' at hstep
  cases hstep with
  | commands hc =>
    have hsame := (RelayCore.SameDrive.refl p.1.core).commands hc
    exact h.step hsame.chnStep (Or.inl hsame.total)
  | changeMode c m =>
    have hsame := RelayCore.SameDrive.changeMode p.1.core c m
    exact h.step hsame.chnStep (Or.inl hsame.total)
  | timerMatch =>
    have hsame : p.1.core.timerMatch.timeMs = p.1.core.timeMs ∧
        p.1.core.timerMatch.checkStart = p.1.core.checkStart ∧
        p.1.core.timerMatch.total = p.1.core.total ∧
        p.1.core.timerMatch.target = p.1.core.target ∧
        p.1.core.timerMatch.present = p.1.core.present := by
      rw [RelayCore.timerMatch]
      split <;> exact ⟨rfl, rfl, rfl, rfl, rfl⟩
    obtain ⟨htime, hstart, htotal, htarget, hpresent⟩ := hsame
    refine h.step (fun c => ?_) (Or.inl htotal)
    exact .of_same htime (congrFun hstart c) (congrFun htotal c)
      (Or.inl ⟨congrFun htarget c, congrFun hpresent c⟩)
  | proc h1 h2 => exact h.step (fun c => RelayCore.proc_chn h1 h2 c (h.start_le c)) (Or.inr hok)
  | clock ms sec => exact h.clock hwrap

theorem metered_le {p : Device b ε × OnTimeMeter b} (h : OnTimeInv p.1.core p.2) (c : b.Chn) :
    1000 * p.2.added c ≤ p.2.onMs c :=
  Nat.le_trans (Nat.le_add_right _ _) (h.budget c)

/-- **On-time never over-counts.** In every run from `relay_init` without a clock wrap
whose passes count fresh intervals only, the seconds counted for a channel since boot
are at most the real time its target was ON. -/
theorem relay_onTime_le_of_countOk (cb : StateChangeCallback b ε) (rand : Nat → Nat)
    (stateLog onTimeLog : LogState) (sh : Shared b) (env : ε) (evs : List (RelayEvent b ε))
    (hwrap : AllSteps (meteredStep cb) NoWrap
      (Device.boot rand stateLog onTimeLog sh env,
        .start (Device.boot rand stateLog onTimeLog sh env).core) evs)
    (hok : AllSteps (meteredStep cb) PassCountOk
      (Device.boot rand stateLog onTimeLog sh env,
        .start (Device.boot rand stateLog onTimeLog sh env).core) evs)
    (c : b.Chn) :
    1000 * (runFrom (meteredStep cb) (Device.boot rand stateLog onTimeLog sh env,
        .start (Device.boot rand stateLog onTimeLog sh env).core) evs).2.added c ≤
      (runFrom (meteredStep cb) (Device.boot rand stateLog onTimeLog sh env,
        .start (Device.boot rand stateLog onTimeLog sh env).core) evs).2.onMs c := by
  refine metered_le ?_ c
  exact AllSteps.invariant (I := fun p : Device b ε × OnTimeMeter b => OnTimeInv p.1.core p.2)
    (fun p ev hp h => onTimeInv_step cb hp h.1 h.2)
    (onTimeInv_boot rand stateLog onTimeLog sh env) (hwrap.and hok)

/-! ## The forced drive of a relay that is OFF -/

/-- A drive, and the pass that consumes it. -/
def driveEvents : List (RelayEvent board1 Unit) :=
  [.proc fun _ => 0, .zeroSync, .timerMatch, .proc fun _ => 0]

/-- The first drive, then ten seconds ON. -/
def onTimeEvents : List (RelayEvent board1 Unit) :=
  driveEvents ++ [.setTargetState 0 gOn .device true] ++ driveEvents ++ [.clock 10000 10] ++
    [.setTargetState 0 gOff .device true] ++ driveEvents

theorem relay_onTime_le_tenSeconds :
    1000 * (runFrom (meteredStep (noCallback board1))
        (Device.boot (fun _ => 0) emptyLog emptyLog demoShared (),
          .start (Device.boot (fun _ => 0) emptyLog emptyLog demoShared ()).core)
        onTimeEvents).2.added board1.chn0 ≤
      (runFrom (meteredStep (noCallback board1))
        (Device.boot (fun _ => 0) emptyLog emptyLog demoShared (),
          .start (Device.boot (fun _ => 0) emptyLog emptyLog demoShared ()).core)
        onTimeEvents).2.onMs board1.chn0 :=
  relay_onTime_le_of_countOk (noCallback board1) (fun _ => 0) emptyLog emptyLog demoShared ()
    onTimeEvents (by decide +kernel) (by decide +kernel) board1.chn0

/-- Ten seconds after boot a relay that is OFF is taken into lighting mode: its forced
OFF drive counts ten seconds, and the relay was never ON. -/
theorem relay_onTime_overCounts :
    ¬ ∀ (b : Board) (ε : Type) (cb : StateChangeCallback b ε) (rand : Nat → Nat)
      (stateLog onTimeLog : LogState) (sh : Shared b) (env : ε) (evs : List (RelayEvent b ε))
      (c : b.Chn),
      AllSteps (meteredStep cb) NoWrap
        (Device.boot rand stateLog onTimeLog sh env,
          .start (Device.boot rand stateLog onTimeLog sh env).core) evs →
      1000 * (runFrom (meteredStep cb) (Device.boot rand stateLog onTimeLog sh env,
          .start (Device.boot rand stateLog onTimeLog sh env).core) evs).2.added c ≤
        (runFrom (meteredStep cb) (Device.boot rand stateLog onTimeLog sh env,
          .start (Device.boot rand stateLog onTimeLog sh env).core) evs).2.onMs c := by
  intro h
  have hrun := h board1 Unit (noCallback board1) (fun _ => 0) emptyLog emptyLog demoShared ()
    (driveEvents ++ [.clock 10000 10, .changeMode board1.chn0 .lighting] ++ driveEvents)
    board1.chn0 (by decide +kernel)
  revert hrun
  decide +kernel

end LumesSwitch
