import LumesSwitch.Scene.Model

/-!
# The dimming messages of a table entry

- `ParExecutionScene.Dims` — an entry holds a dimming message;
- `Scenes.dimmingLoop_spec` — a hold, a press or a release sends one message for each
  such entry, to the entry's destination, and no other.
-/

namespace LumesSwitch

open Bufs Runs Words

/-- Entry `j` of a slot is a dimming message. -/
def ParExecutionScene.Dims (p : ParExecutionScene) (j : Fin 5) : Prop :=
  p.destAddr j ≠ adrUnassigned ∧ p.area.get (17 * j + 3) = vdDimmingControlSet.toUInt8

instance (p : ParExecutionScene) (j : Fin 5) : Decidable (p.Dims j) :=
  inferInstanceAs (Decidable (_ ∧ _))

/-- `VD_DIMMING_CONTROL_SET` with direction `dir`, to `dst`. -/
def NetOut.IsDimming (dir : ControlDirection) (dst : UInt16) (o : NetOut) : Prop :=
  ∃ model rest adr, o = .cmd vdDimmingControlSet (model ++ dir.code :: rest) adr dst ∧
    model.length = 2

namespace Scenes

variable {b : Board} (adr : UInt16) {k : b.Btn} {p : ParExecutionScene} {dir : ControlDirection}
  {st : DimmingButton}

/-- One entry that dims sends its message; the direction is one that
`dimmingDirection` gives. -/
theorem executionDimmingControl_spec (hdir : ∀ u, (dimmingDirection dir u st).isSome = true)
    (s : Scenes b) (out : List NetOut) (i : Fin 5) :
    ∃ s' new u d, executionDimmingControl adr k p dir st (s, out) i = (s', out ++ new) ∧
      s'.table = s.table ∧ dimmingDirection dir u st = some d ∧
      ∃ o ∈ new, NetOut.IsDimming d (p.destAddr i) o := by
  obtain ⟨d, hd⟩ := Option.isSome_iff_exists.mp (hdir (s.dimDirecArr k i))
  rw [executionDimmingControl]
  dsimp only
  rw [hd]
  dsimp only
  rw [List.append_assoc]
  refine ⟨_, _, _, d, rfl, ?_, hd, _, List.mem_append_right _ (List.mem_singleton_self _),
    p.area.read (17 * i + 6) 2, p.area.read (17 * i + 9) 3, adr, rfl, Buf.read_length ..⟩
  split <;> rfl

/-- What the loop over the entries sends. -/
theorem dimmingLoop_spec (hdir : ∀ u, (dimmingDirection dir u st).isSome = true) (s : Scenes b)
    (out : List NetOut) (is : List (Fin 5)) :
    ∃ s' new, runFrom (dimmingEntry adr k p dir st) (s, out) is = (s', out ++ new) ∧
      s'.table = s.table ∧
      (∀ i ∈ is, p.Dims i → ∃ u d, dimmingDirection dir u st = some d ∧
        ∃ o ∈ new, NetOut.IsDimming d (p.destAddr i) o) ∧
      ((∀ i ∈ is, ¬ p.Dims i) → new = []) := by
  induction is generalizing s out with
  | nil =>
    refine ⟨s, [], ?_, rfl, fun i hi => absurd hi List.not_mem_nil, fun _ => rfl⟩
    rw [runFrom_nil, List.append_nil]
  | cons i is ih =>
    by_cases hi : p.Dims i
    · obtain ⟨s₁, new₁, u, d, heq, htable, hd, hsent⟩ :=
        executionDimmingControl_spec adr (k := k) (p := p) hdir s out i
      obtain ⟨s₂, new₂, hrest, htable', hall, -⟩ := ih s₁ (out ++ new₁)
      have hentry : dimmingEntry adr k p dir st (s, out) i = (s₁, out ++ new₁) :=
        (if_pos hi).trans heq
      refine ⟨s₂, new₁ ++ new₂, ?_, htable'.trans htable, ?_, fun hnone =>
        absurd hi (hnone i List.mem_cons_self)⟩
      · rw [runFrom_cons, hentry, hrest, List.append_assoc]
      · intro j hj hdims
        rcases List.mem_cons.mp hj with rfl | hj
        · obtain ⟨o, ho, hdim⟩ := hsent
          exact ⟨u, d, hd, o, List.mem_append_left _ ho, hdim⟩
        · obtain ⟨u', d', hd', o, ho, hdim⟩ := hall j hj hdims
          exact ⟨u', d', hd', o, List.mem_append_right _ ho, hdim⟩
    · obtain ⟨s₁, new, hrest, htable, hall, hnone⟩ := ih s out
      have hentry : dimmingEntry adr k p dir st (s, out) i = (s, out) := if_neg hi
      refine ⟨s₁, new, ?_, htable, ?_, fun hno =>
        hnone fun j hj => hno j (List.mem_cons_of_mem _ hj)⟩
      · rw [runFrom_cons, hentry, hrest]
      · intro j hj hdims
        rcases List.mem_cons.mp hj with rfl | hj
        · exact absurd hdims hi
        · exact hall j hj hdims

/-- The slot of the dimming event of a button. -/
def dimmingSlot (s : Scenes b) (k : b.Btn) : Option ParExecutionScene :=
  (s.executionDimmingIsExist k).bind fun evt => (getKeyEventIndex evt).map (s.table k)

/-- A dimming event is one of three. -/
theorem executionDimmingIsExist_cases {s : Scenes b} {evt : UInt8}
    (h : s.executionDimmingIsExist k = some evt) :
    evt = btnKeyHoldUp ∨ evt = btnKeyHoldDown ∨ evt = btnKeyHoldUpDown := by
  rw [executionDimmingIsExist] at h
  split_ifs at h
  · exact .inl (Option.some.inj h).symm
  · exact .inr (.inl (Option.some.inj h).symm)
  · exact .inr (.inr (Option.some.inj h).symm)

/-- A hold or a release of a smooth dimming sends something, and a release a stop. -/
theorem dimmingDirection_smooth
    (hdir : dir = .upSmooth ∨ dir = .downSmooth ∨ dir = .upDownSmooth) (hst : st ≠ .startPress)
    (u : Bool) : ∃ d, dimmingDirection dir u st = some d ∧ (st = .release → d = .stop) := by
  cases st with
  | startPress => exact absurd rfl hst
  | hold500MS =>
    have hne : DimmingButton.hold500MS ≠ .release := by decide
    rcases hdir with rfl | rfl | rfl
    · exact ⟨_, rfl, fun h => absurd h hne⟩
    · exact ⟨_, rfl, fun h => absurd h hne⟩
    · exact ⟨_, rfl, fun h => absurd h hne⟩
  | release =>
    rcases hdir with rfl | rfl | rfl
    · exact ⟨_, rfl, fun _ => rfl⟩
    · exact ⟨_, rfl, fun _ => rfl⟩
    · exact ⟨_, rfl, fun _ => rfl⟩

/-- What a hold or a release of a button with a dimming event sends. -/
theorem executionDimmingControlByKeyNumber_spec {s : Scenes b} {evt : UInt8}
    (h : s.executionDimmingIsExist k = some evt) (st : DimmingButton) (hst : st ≠ .startPress) :
    ∃ q s' new, s.dimmingSlot k = some q ∧
      s.executionDimmingControlByKeyNumber adr k evt st = (s', new) ∧ s'.table = s.table ∧
      (∀ i, q.Dims i → ∃ d, (st = .release → d = .stop) ∧
        ∃ o ∈ new, NetOut.IsDimming d (q.destAddr i) o) ∧
      ((∀ i, ¬ q.Dims i) → new = []) := by
  -- each of the three events has a slot and a smooth direction of its own
  have hrun : ∃ e dir, getKeyEventIndex evt = some e ∧
      (dir = .upSmooth ∨ dir = .downSmooth ∨ dir = .upDownSmooth) ∧
      s.executionDimmingControlByKeyNumber adr k evt st =
        runFrom (dimmingEntry adr k (s.table k e) dir st) (s, []) (List.finRange 5) := by
    rcases executionDimmingIsExist_cases h with rfl | rfl | rfl
    · exact ⟨5, .upSmooth, rfl, .inl rfl, rfl⟩
    · exact ⟨6, .downSmooth, rfl, .inr (.inl rfl), rfl⟩
    · exact ⟨7, .upDownSmooth, rfl, .inr (.inr rfl), rfl⟩
  obtain ⟨e, dir, he, hdir, hrun⟩ := hrun
  have hsome : ∀ u, (dimmingDirection dir u st).isSome = true := by
    intro u
    obtain ⟨d, hd, -⟩ := dimmingDirection_smooth hdir hst u
    rw [hd]
    rfl
  obtain ⟨s', new, hloop, htable, hall, hnone⟩ :=
    dimmingLoop_spec adr (k := k) (p := s.table k e) hsome s [] (List.finRange 5)
  refine ⟨s.table k e, s', new, ?_, hrun.trans hloop, htable, ?_, fun hno =>
    hnone fun i _ => hno i⟩
  · rw [dimmingSlot, h, Option.bind_some, he, Option.map_some]
  · intro i hi
    obtain ⟨u, d, hd, hsent⟩ := hall i (List.mem_finRange i) hi
    obtain ⟨d', hd', hstop⟩ := dimmingDirection_smooth hdir hst u
    obtain rfl : d' = d := Option.some.inj (hd'.symm.trans hd)
    exact ⟨d', hstop, hsent⟩

end Scenes

end LumesSwitch
