import LumesSwitch.Scene.Table

/-!
# The slots of the scene table

A slot holds the event it is for, or nothing, and a button has at most one dimming
event. Both survive every message. Which dimming event a button has is what the last
successful messages say, unless an ADD of a dimming event is answered without being
stored: such an ADD clears the other dimming events of its button all the same.

- `Scenes.SlotsOk` — the invariant of the slots;
- `Scenes.Stored` — an ADD that fills its slot;
- `Scenes.History` — the table with the dimming event that the answered messages leave
  set for each button.
-/

namespace LumesSwitch

open Bufs Nor Runs Words

variable {b : Board}

/-! ## Slot numbers -/

/-- `support_event_arr` -/
def supportEventArr (e : Fin 8) : UInt8 := [0, 1, 4, 5, 6, 8, 9, 10].get e

theorem getKeyEventIndex_supportEventArr (e : Fin 8) :
    getKeyEventIndex (supportEventArr e) = some e := by
  revert e
  decide +kernel

theorem getKeyEventIndex_eq_some {evt : UInt8} {e : Fin 8} :
    getKeyEventIndex evt = some e ↔ evt = supportEventArr e := by
  constructor
  · intro h
    exact Scenes.getKeyEventIndex_inj h (getKeyEventIndex_supportEventArr e)
  · rintro rfl
    exact getKeyEventIndex_supportEventArr e

/-- The slots of the dimming events. -/
def IsDimmingSlot (e : Fin 8) : Prop := isDimmingEvent (supportEventArr e) = true

instance (e : Fin 8) : Decidable (IsDimmingSlot e) := inferInstanceAs (Decidable (_ = true))

theorem isDimmingSlot_iff {e : Fin 8} : IsDimmingSlot e ↔ e = 5 ∨ e = 6 ∨ e = 7 := by
  revert e
  decide +kernel

theorem isDimmingEvent_ne_erased {evt : UInt8} (h : isDimmingEvent evt = true) : evt ≠ 0xFF := by
  rintro rfl
  exact absurd h (by decide)

theorem slotOf_eq_some {n evt : UInt8} {k : b.Btn} {e : Fin 8} (h : slotOf b n evt = some (k, e)) :
    evt = supportEventArr e := by
  rw [slotOf] at h
  split at h
  · obtain ⟨e', he', heq⟩ := Option.map_eq_some_iff.mp h
    obtain ⟨-, rfl⟩ := Prod.mk.inj heq
    exact getKeyEventIndex_eq_some.mp he'
  · cases h

/-- An answer with the status `EX_STATUS_SUCCESS`. -/
def SceneRsp.succeeded : SceneRsp → Bool
  | .sent (_ :: status :: _) => status = exStatusSuccess
  | _ => false

namespace Scenes

/-! ## What a message does to the events of the slots -/

/-- The event of a slot, `0xFF` for an empty one. -/
def slotEvent (s : Scenes b) (k : b.Btn) (e : Fin 8) : UInt8 := (s.table k e).btnEvent

/-- An ADD whose number of destinations, or of scenes, is in range. -/
def Stored (par : Nat → UInt8) : Prop :=
  if ofU16Bytes (par 2) (par 3) = sceneIdInvalid then (par 4).toNat ≤ maxSceneDestAdr
  else if ofU16Bytes (par 2) (par 3) ≠ lmSceneInInvalid then True
  else (par 4).toNat ≠ 0 ∧ (par 4).toNat ≤ maxSceneDestAdr

instance (par : Nat → UInt8) : Decidable (Stored par) := by
  unfold Stored
  infer_instance

@[simp] theorem slotEvent_save (s : Scenes b) (k : b.Btn) (e : Fin 8) :
    s.save.slotEvent k e = s.slotEvent k e := rfl

/-- The slot of an ADD. -/
theorem slotEvent_addSlot_same (s : Scenes b) (k : b.Btn) (e : Fin 8) (par : Nat → UInt8) :
    (s.addSlot k e par).1.slotEvent k e =
      if Stored par then keyEvent par else s.slotEvent k e := by
  unfold addSlot Stored slotEvent
  dsimp only
  split
  · split
    · next hn => rw [if_neg (Nat.not_le.mpr hn), table_updSlot_same]
    · next hn => rw [if_pos (Nat.not_lt.mp hn), table_updSlot_same]
  · split
    · rw [if_pos trivial, table_updSlot_same]
    · split
      · rw [table_updSlot_same]
      · rw [table_updSlot_same]

theorem slotEvent_addSlot_other (s : Scenes b) {k k' : b.Btn} {e e' : Fin 8}
    (par : Nat → UInt8) (h : (k', e') ≠ (k, e)) :
    (s.addSlot k e par).1.slotEvent k' e' = s.slotEvent k' e' := by
  rw [slotEvent, s.table_addSlot_other par h, slotEvent]

/-- An ADD fails exactly on a list of too many messages. -/
theorem addSlot_succeeds (s : Scenes b) (k : b.Btn) (e : Fin 8) (par : Nat → UInt8) :
    (s.addSlot k e par).2 = true ↔
      (ofU16Bytes (par 2) (par 3) = sceneIdInvalid → (par 4).toNat ≤ maxSceneDestAdr) := by
  rw [addSlot]
  dsimp only
  split
  · next hid => split <;> simp_all
  · next hid => split <;> [skip; split] <;> simp [hid]

/-- The dimming slots other than that of the event are cleared. -/
theorem clearOtherDimming_table (s : Scenes b) (k k' : b.Btn) (e' : Fin 8) (evt : UInt8) :
    (s.clearOtherDimming k evt).table k' e' =
      if k' = k ∧ IsDimmingSlot e' ∧ supportEventArr e' ≠ evt then .cleared
      else s.table k' e' := by
  -- a loop whose body clears the slot of its event, if that is not the new one
  have hloop : ∀ f : Scenes b → UInt8 → Scenes b,
      (∀ s d, (f s d).table k' e' =
        if k' = k ∧ supportEventArr e' = d ∧ d ≠ evt then .cleared else s.table k' e') →
      ∀ (ds : List UInt8) (s : Scenes b), (runFrom f s ds).table k' e' =
        if k' = k ∧ supportEventArr e' ∈ ds ∧ supportEventArr e' ≠ evt then .cleared
        else s.table k' e' := by
    intro f hbody ds
    induction ds with
    | nil => intro s; simp
    | cons d ds ih =>
      intro s
      rw [runFrom_cons, ih, hbody]
      by_cases hd : k' = k ∧ supportEventArr e' = d ∧ d ≠ evt
      · obtain ⟨hk, rfl, hne⟩ := hd
        have hclear : (if k' = k ∧ supportEventArr e' = supportEventArr e' ∧
            supportEventArr e' ≠ evt then .cleared else s.table k' e') = .cleared :=
          if_pos ⟨hk, rfl, hne⟩
        rw [hclear, ite_self]
        exact (if_pos ⟨hk, List.mem_cons_self, hne⟩).symm
      · rw [if_neg hd]
        refine if_congr ?_ rfl rfl
        constructor
        · rintro ⟨hk, hmem, hne⟩
          exact ⟨hk, List.mem_cons_of_mem _ hmem, hne⟩
        · rintro ⟨hk, hmem, hne⟩
          refine ⟨hk, (List.mem_cons.mp hmem).resolve_left fun heq => ?_, hne⟩
          exact hd ⟨hk, heq, heq ▸ hne⟩
  refine (hloop _ (fun s d => ?_) _ s).trans ?_
  · split
    · next hne =>
      split
      · next e he =>
        by_cases hslot : k' = k ∧ e' = e
        · obtain ⟨rfl, rfl⟩ := hslot
          rw [if_pos ⟨rfl, (getKeyEventIndex_eq_some.mp he).symm, hne⟩, table_updSlot_same]
        · have hother : ¬ (k' = k ∧ supportEventArr e' = d ∧ d ≠ evt) := by
            rintro ⟨hk, hd, -⟩
            rw [← hd, getKeyEventIndex_supportEventArr] at he
            exact hslot ⟨hk, Option.some.inj he⟩
          rw [if_neg hother, table_updSlot_other]
          intro heq
          exact hslot (Prod.mk.inj heq)
      · next hnone =>
        refine (if_neg ?_).symm
        rintro ⟨-, hd, -⟩
        rw [← hd, getKeyEventIndex_supportEventArr] at hnone
        cases hnone
    · next heq =>
      rw [if_neg fun h => heq h.2.2]
  · refine if_congr (and_congr_right fun _ => and_congr_left fun _ => ?_) rfl rfl
    simp [IsDimmingSlot, isDimmingEvent]

theorem slotEvent_clearOtherDimming (s : Scenes b) (k k' : b.Btn) (e' : Fin 8) (evt : UInt8) :
    (s.clearOtherDimming k evt).slotEvent k' e' =
      if k' = k ∧ IsDimmingSlot e' ∧ supportEventArr e' ≠ evt then 0xFF
      else s.slotEvent k' e' := by
  rw [slotEvent, clearOtherDimming_table]
  split <;> rfl

/-- What an event does to the events of the slots. -/
inductive SlotStep (s s' : Scenes b) : Event → Prop where
  | add {par : Nat → UInt8} {k : b.Btn} {e : Fin 8} (htype : msgType par = msgAdd)
      (hslot : slotOf b (keyNbr par) (keyEvent par) = some (k, e))
      (hkeep : ∀ k' e', (k', e') ≠ (k, e) → s'.slotEvent k' e' =
        if k' = k ∧ IsDimmingSlot e ∧ IsDimmingSlot e' then 0xFF else s.slotEvent k' e')
      (hnew : s'.slotEvent k e = if Stored par then supportEventArr e else s.slotEvent k e) :
      SlotStep s s' (.msg par)
  | delete {par : Nat → UInt8} {k : b.Btn} {e : Fin 8} (htype : msgType par = msgDelete)
      (hslot : slotOf b (keyNbr par) (keyEvent par) = some (k, e))
      (hkeep : ∀ k' e', (k', e') ≠ (k, e) → s'.slotEvent k' e' = s.slotEvent k' e')
      (hnew : s'.slotEvent k e = 0xFF) : SlotStep s s' (.msg par)
  | deleteAll {par : Nat → UInt8} (htype : msgType par = msgDeleteAll)
      (hnew : ∀ k e, s'.slotEvent k e = 0xFF) : SlotStep s s' (.msg par)
  | other {par : Nat → UInt8}
      (htype : (msgType par = msgAdd ∨ msgType par = msgDelete) ∧
          slotOf b (keyNbr par) (keyEvent par) = none ∨
        msgType par ≠ msgAdd ∧ msgType par ≠ msgDelete ∧ msgType par ≠ msgDeleteAll)
      (hkeep : s' = s) : SlotStep s s' (.msg par)
  | reboot (hkeep : s' = s) : SlotStep s s' .reboot

theorem slotStep_add (s : Scenes b) {par : Nat → UInt8} {k : b.Btn} {e : Fin 8}
    (htype : msgType par = msgAdd)
    (hslot : slotOf b (keyNbr par) (keyEvent par) = some (k, e)) :
    SlotStep s (s.add par).1 (.msg par) := by
  have hevt : keyEvent par = supportEventArr e := slotOf_eq_some hslot
  rw [add, hslot]
  dsimp only
  refine .add htype hslot (fun k' e' hne => ?_) ?_
  · rw [slotEvent_save]
    split
    · next hdim =>
      rw [slotEvent_clearOtherDimming, slotEvent_addSlot_other s par hne]
      refine if_congr (and_congr_right fun hk => ?_) rfl rfl
      have hd : IsDimmingSlot e := by rw [IsDimmingSlot, ← hevt]; exact hdim
      constructor
      · rintro ⟨hd', -⟩
        exact ⟨hd, hd'⟩
      · rintro ⟨-, hd'⟩
        refine ⟨hd', fun heq => hne ?_⟩
        have he : getKeyEventIndex (supportEventArr e') = some e := by
          rw [heq, hevt, getKeyEventIndex_supportEventArr]
        rw [getKeyEventIndex_supportEventArr] at he
        rw [hk, Option.some.inj he]
    · next hdim =>
      rw [slotEvent_addSlot_other s par hne, if_neg]
      rintro ⟨-, hd, -⟩
      exact hdim (by rw [hevt]; exact hd)
  · rw [slotEvent_save, ← hevt, ← slotEvent_addSlot_same]
    split
    · rw [slotEvent_clearOtherDimming, if_neg fun h => h.2.2 hevt.symm]
    · rfl

theorem slotStep_delete (s : Scenes b) {par : Nat → UInt8} {k : b.Btn} {e : Fin 8}
    (htype : msgType par = msgDelete)
    (hslot : slotOf b (keyNbr par) (keyEvent par) = some (k, e)) :
    SlotStep s (s.delete par).1 (.msg par) := by
  rw [delete, hslot]
  dsimp only
  refine .delete htype hslot (fun k' e' hne => ?_) ?_
  · rw [slotEvent, s.table_delete_other hne, slotEvent]
  · rw [slotEvent, deleteExecutionScene, table_save, table_updSlot_same]
    rfl

/-- **Step lemma**: the five things that can happen to the slots. -/
theorem slotStep (s : Scenes b) (hsync : s.Synced) (ev : Event) : SlotStep s (s.step ev) ev := by
  cases ev with
  | reboot => exact .reboot hsync.restore_eq
  | msg par =>
    show SlotStep s (s.handle par).1 (.msg par)
    rw [handle]
    split
    · next hadd =>
      cases hslot : slotOf b (keyNbr par) (keyEvent par) with
      | none => exact .other (.inl ⟨.inl hadd, hslot⟩) (by rw [add, hslot])
      | some ke => exact s.slotStep_add hadd hslot
    · next hadd =>
      split
      · next hdel =>
        cases hslot : slotOf b (keyNbr par) (keyEvent par) with
        | none => exact .other (.inl ⟨.inr hdel, hslot⟩) (by rw [delete, hslot])
        | some ke => exact s.slotStep_delete hdel hslot
      · next hdel =>
        split
        · next hget => exact .other (.inr ⟨hadd, hdel, by rw [hget]; decide⟩) rfl
        · split
          · next hall => exact .deleteAll hall fun k e => rfl
          · next hall => exact .other (.inr ⟨hadd, hdel, hall⟩) rfl

/-! ## The invariant -/

/-- A slot holds its own event or nothing; a button has one dimming event at most. -/
structure SlotsOk (s : Scenes b) : Prop where
  event : ∀ k e, s.slotEvent k e = 0xFF ∨ s.slotEvent k e = supportEventArr e
  dimming : ∀ k e e', IsDimmingSlot e → IsDimmingSlot e' → s.slotEvent k e ≠ 0xFF →
    s.slotEvent k e' ≠ 0xFF → e = e'

theorem SlotsOk.step {s s' : Scenes b} {ev : Event} (h : s.SlotsOk) (hstep : SlotStep s s' ev) :
    s'.SlotsOk := by
  cases hstep with
  | @add par k e htype hslot hkeep hnew =>
    constructor
    · intro k' e'
      by_cases hne : (k', e') = (k, e)
      · obtain ⟨rfl, rfl⟩ := Prod.mk.inj hne
        rw [hnew]
        split
        · exact .inr rfl
        · exact h.event k' e'
      · rw [hkeep k' e' hne]
        split
        · exact .inl rfl
        · exact h.event k' e'
    · intro k' e₁ e₂ hd₁ hd₂ ho₁ ho₂
      -- a dimming slot of `k` that is occupied is the one the message is for
      have hself : ∀ e', k' = k → IsDimmingSlot e → IsDimmingSlot e' →
          s'.slotEvent k' e' ≠ 0xFF → e' = e := by
        intro e' hk hd hd' ho
        by_contra hne
        refine ho ((hkeep k' e' fun heq => hne (Prod.mk.inj heq).2).trans ?_)
        exact if_pos ⟨hk, hd, hd'⟩
      by_cases hk : k' = k ∧ IsDimmingSlot e
      · rw [hself e₁ hk.1 hk.2 hd₁ ho₁, hself e₂ hk.1 hk.2 hd₂ ho₂]
      · have hsame : ∀ e', IsDimmingSlot e' → s'.slotEvent k' e' = s.slotEvent k' e' := by
          intro e' hd'
          rw [hkeep k' e' fun heq => hk ⟨(Prod.mk.inj heq).1, (Prod.mk.inj heq).2 ▸ hd'⟩]
          exact if_neg fun hc => hk ⟨hc.1, hc.2.1⟩
        rw [hsame e₁ hd₁] at ho₁
        rw [hsame e₂ hd₂] at ho₂
        exact h.dimming k' e₁ e₂ hd₁ hd₂ ho₁ ho₂
  | @delete par k e htype hslot hkeep hnew =>
    have hslots : ∀ k' e', s'.slotEvent k' e' = 0xFF ∨ s'.slotEvent k' e' = s.slotEvent k' e' := by
      intro k' e'
      by_cases hne : (k', e') = (k, e)
      · obtain ⟨rfl, rfl⟩ := Prod.mk.inj hne
        exact .inl hnew
      · exact .inr (hkeep k' e' hne)
    constructor
    · intro k' e'
      rcases hslots k' e' with hempty | hsame
      · exact .inl hempty
      · rw [hsame]
        exact h.event k' e'
    · intro k' e₁ e₂ hd₁ hd₂ ho₁ ho₂
      have h₁ := (hslots k' e₁).resolve_left ho₁
      have h₂ := (hslots k' e₂).resolve_left ho₂
      exact h.dimming k' e₁ e₂ hd₁ hd₂ (h₁ ▸ ho₁) (h₂ ▸ ho₂)
  | deleteAll htype hnew =>
    exact ⟨fun k e => .inl (hnew k e), fun k e _ _ _ ho _ => absurd (hnew k e) ho⟩
  | other htype hkeep => exact hkeep ▸ h
  | reboot hkeep => exact hkeep ▸ h


/-! ## The dimming event of a button -/

theorem executionEventIsAvailable_iff (s : Scenes b) (k : b.Btn) (evt : UInt8) :
    s.executionEventIsAvailable k evt = true ↔ ∃ e, s.slotEvent k e = evt :=
  decide_eq_true_iff

/-- `execution_dimming_is_exist` in terms of the slots. -/
theorem executionDimmingIsExist_eq (s : Scenes b) (k : b.Btn) :
    s.executionDimmingIsExist k =
      if s.executionEventIsAvailable k (supportEventArr 5) then some (supportEventArr 5)
      else if s.executionEventIsAvailable k (supportEventArr 6) then some (supportEventArr 6)
      else if s.executionEventIsAvailable k (supportEventArr 7) then some (supportEventArr 7)
      else none := rfl

theorem isDimmingEvent_of_exist {s : Scenes b} {k : b.Btn} {evt : UInt8}
    (h : s.executionDimmingIsExist k = some evt) : isDimmingEvent evt = true := by
  unfold executionDimmingIsExist at h
  split_ifs at h <;> (obtain rfl := Option.some.inj h; decide)

namespace SlotsOk

variable {s : Scenes b} {k : b.Btn}

/-- A dimming event is available if and only if its slot is occupied. -/
theorem available_iff (h : s.SlotsOk) {e : Fin 8} (hd : IsDimmingSlot e) :
    s.executionEventIsAvailable k (supportEventArr e) = true ↔ s.slotEvent k e ≠ 0xFF := by
  rw [executionEventIsAvailable_iff]
  constructor
  · rintro ⟨e', he'⟩ hempty
    have hne : supportEventArr e ≠ 0xFF := isDimmingEvent_ne_erased hd
    have heq : supportEventArr e' = supportEventArr e :=
      ((h.event k e').resolve_left (he' ▸ hne)).symm.trans he'
    have hee : e' = e := by
      have := getKeyEventIndex_supportEventArr e'
      rw [heq, getKeyEventIndex_supportEventArr] at this
      exact (Option.some.inj this).symm
    rw [hee, hempty] at he'
    exact hne he'.symm
  · intro ho
    exact ⟨e, (h.event k e).resolve_left ho⟩

/-- What is reported depends on the dimming slots of the button only. -/
theorem exist_congr {s' : Scenes b} (h : s.SlotsOk) (h' : s'.SlotsOk)
    (hsame : ∀ e, IsDimmingSlot e → s'.slotEvent k e = s.slotEvent k e) :
    s'.executionDimmingIsExist k = s.executionDimmingIsExist k := by
  have havail : ∀ e, IsDimmingSlot e →
      s'.executionEventIsAvailable k (supportEventArr e) =
        s.executionEventIsAvailable k (supportEventArr e) := by
    intro e hd
    rw [Bool.eq_iff_iff, h'.available_iff hd, h.available_iff hd, hsame e hd]
  rw [executionDimmingIsExist_eq, executionDimmingIsExist_eq, havail 5 (by decide),
    havail 6 (by decide), havail 7 (by decide)]

/-- The occupied dimming slot is the one that is reported. -/
theorem exist_eq_some (h : s.SlotsOk) {e : Fin 8} (hd : IsDimmingSlot e)
    (ho : s.slotEvent k e ≠ 0xFF) : s.executionDimmingIsExist k = some (supportEventArr e) := by
  have havail : ∀ e', IsDimmingSlot e' →
      (s.executionEventIsAvailable k (supportEventArr e') = true ↔ e' = e) := by
    intro e' hd'
    rw [h.available_iff hd']
    constructor
    · intro ho'
      exact h.dimming k e' e hd' hd ho' ho
    · rintro rfl
      exact ho
  have hup := havail 5 (by decide)
  have hdown := havail 6 (by decide)
  have hupdown := havail 7 (by decide)
  rw [executionDimmingIsExist_eq]
  rcases isDimmingSlot_iff.mp hd with rfl | rfl | rfl
  · rw [if_pos (hup.mpr rfl)]
  · rw [if_neg fun hc => absurd (hup.mp hc) (by decide), if_pos (hdown.mpr rfl)]
  · rw [if_neg fun hc => absurd (hup.mp hc) (by decide),
      if_neg fun hc => absurd (hdown.mp hc) (by decide), if_pos (hupdown.mpr rfl)]

/-- Nothing is reported where all dimming slots are empty. -/
theorem exist_eq_none (h : s.SlotsOk) (hempty : ∀ e, IsDimmingSlot e → s.slotEvent k e = 0xFF) :
    s.executionDimmingIsExist k = none := by
  have havail : ∀ e, IsDimmingSlot e → ¬ s.executionEventIsAvailable k (supportEventArr e) = true :=
    fun e hd hc => (h.available_iff hd).mp hc (hempty e hd)
  rw [executionDimmingIsExist_eq]
  rw [if_neg (havail 5 (by decide)), if_neg (havail 6 (by decide)), if_neg (havail 7 (by decide))]

theorem exist_eq_none_iff (h : s.SlotsOk) :
    s.executionDimmingIsExist k = none ↔ ∀ e, IsDimmingSlot e → s.slotEvent k e = 0xFF := by
  constructor
  · intro hnone e hd
    by_contra ho
    rw [h.exist_eq_some hd ho] at hnone
    cases hnone
  · exact h.exist_eq_none

/-- The event of a dimming slot is reported if and only if the slot holds it. -/
theorem exist_eq_some_iff (h : s.SlotsOk) {e : Fin 8} (hd : IsDimmingSlot e) :
    s.executionDimmingIsExist k = some (supportEventArr e) ↔ s.slotEvent k e ≠ 0xFF := by
  constructor
  · intro hsome hempty
    by_cases hall : ∀ e', IsDimmingSlot e' → s.slotEvent k e' = 0xFF
    · rw [h.exist_eq_none hall] at hsome
      cases hsome
    · push Not at hall
      obtain ⟨e', hd', ho'⟩ := hall
      rw [h.exist_eq_some hd' ho'] at hsome
      have he : getKeyEventIndex (supportEventArr e') = some e := by
        rw [Option.some.inj hsome, getKeyEventIndex_supportEventArr]
      rw [getKeyEventIndex_supportEventArr] at he
      exact ho' (Option.some.inj he ▸ hempty)
  · exact h.exist_eq_some hd

end SlotsOk

/-! ## What the answered messages say -/

/-- The table, and for each button the dimming event that the successful ADD, DELETE and
DELETE_ALL messages so far leave set. -/
structure History (b : Board) where
  scenes : Scenes b
  dimming : b.Btn → Option UInt8

/-- What a message that is answered with success says about the dimming events. -/
def recorded (dimming : b.Btn → Option UInt8) (par : Nat → UInt8) : b.Btn → Option UInt8 :=
  if msgType par = msgDeleteAll then fun _ => none
  else
    match slotOf b (keyNbr par) (keyEvent par) with
    | none => dimming
    | some (k, _) =>
      if msgType par = msgAdd ∧ isDimmingEvent (keyEvent par) = true then
        Function.update dimming k (some (keyEvent par))
      else if msgType par = msgDelete ∧ dimming k = some (keyEvent par) then
        Function.update dimming k none
      else dimming

def History.step (h : History b) : Event → History b
  | .msg par =>
    ⟨h.scenes.step (.msg par),
      if (h.scenes.handle par).2.succeeded then recorded h.dimming par else h.dimming⟩
  | .reboot => ⟨h.scenes.step .reboot, h.dimming⟩

theorem History.step_scenes (h : History b) (ev : Event) :
    (h.step ev).scenes = h.scenes.step ev := by
  cases ev <;> rfl

/-- The dimming event found for each button is the one in `d`. -/
def InStep (s : Scenes b) (d : b.Btn → Option UInt8) : Prop :=
  ∀ k, s.executionDimmingIsExist k = d k

/-- The slots are intact, the flash holds the table, and the dimming event found for
each button is the one that was set. -/
def History.Intact (h : History b) : Prop :=
  h.scenes.SlotsOk ∧ h.scenes.Synced ∧ InStep h.scenes h.dimming

/-- The table after a boot on a flash whose scene sector is erased. -/
def bootErased (b : Board) (m : Mem) : Scenes b :=
  restore { erased b with flash := erase flashAdrExecutionScene flashSectorSize m }

/-- Where an ADD of a dimming event is not stored: one that is refused finds no other
dimming event of its button set, one that is answered with success finds its own. -/
def AddOk (s : Scenes b) (par : Nat → UInt8) : Prop :=
  msgType par = msgAdd → isDimmingEvent (keyEvent par) = true → ¬ Stored par →
    ∀ k e, slotOf b (keyNbr par) (keyEvent par) = some (k, e) →
      if ofU16Bytes (par 2) (par 3) = sceneIdInvalid then
        ∀ e', IsDimmingSlot e' → e' ≠ e → s.slotEvent k e' = 0xFF
      else s.slotEvent k e = keyEvent par

/-- The condition on a step. -/
def StepOk (h : History b) : Event → Prop
  | .msg par => AddOk h.scenes par
  | .reboot => True

/-! ## Runs -/

theorem tableBytes_cleared :
    tableBytes (fun (_ : b.Btn) _ => ParExecutionScene.cleared) =
      List.replicate (712 * b.numberButton) erasedByte := by
  refine encodeRecords_replicate fun _ => ?_
  exact encodeRecords_replicate (w := 89) fun _ => by decide +kernel

theorem bootErased_flash (m : Mem) :
    read flashAdrExecutionScene (712 * b.numberButton) (bootErased b m).flash =
      tableBytes (fun (_ : b.Btn) _ => ParExecutionScene.cleared) := by
  have hle := tableBytes_le_sector (b := b) fun _ _ => .cleared
  rw [tableBytes_length] at hle
  have herased : ErasedOn flashAdrExecutionScene (712 * b.numberButton) (bootErased b m).flash :=
    (erasedOn_erase flashAdrExecutionScene flashSectorSize m).mono (Nat.le_refl _) (by omega)
  rw [herased.read_eq, tableBytes_cleared]

theorem bootErased_table (m : Mem) :
    (bootErased b m).table = fun _ _ => ParExecutionScene.cleared :=
  (congrArg tableOfBytes (bootErased_flash m)).trans (tableOfBytes_tableBytes _)

theorem bootErased_synced (m : Mem) : (bootErased b m).Synced := by
  rw [Synced, bootErased_table, bootErased_flash]

theorem slotsOk_of_empty {s : Scenes b} (h : ∀ k e, s.slotEvent k e = 0xFF) : s.SlotsOk :=
  ⟨fun k e => .inl (h k e), fun k e _ _ _ ho _ => absurd (h k e) ho⟩

theorem Synced.step {s : Scenes b} (h : s.Synced) (ev : Event) : (s.step ev).Synced := by
  cases ev with
  | msg par => exact h.handle par
  | reboot => exact (congrArg Synced h.restore_eq).mpr h

/-- The slots and the flash need no condition: whatever the messages are, they stay
intact. -/
theorem slotsOk_run {s : Scenes b} (hok : s.SlotsOk) (hsync : s.Synced) (evs : List Event) :
    (runFrom step s evs).SlotsOk ∧ (runFrom step s evs).Synced := by
  refine invariant_runFrom (I := fun s : Scenes b => s.SlotsOk ∧ s.Synced) ?_ ⟨hok, hsync⟩ evs
  rintro s ev ⟨hok, hsync⟩
  exact ⟨hok.step (s.slotStep hsync ev), hsync.step ev⟩

/-- An ADD to a slot of the table is answered with success unless it has too many
destinations. -/
theorem succeeded_add (s : Scenes b) {par : Nat → UInt8} {k : b.Btn} {e : Fin 8}
    (htype : msgType par = msgAdd) (hslot : slotOf b (keyNbr par) (keyEvent par) = some (k, e)) :
    (s.handle par).2.succeeded = true ↔
      (ofU16Bytes (par 2) (par 3) = sceneIdInvalid → (par 4).toNat ≤ maxSceneDestAdr) := by
  rw [← s.addSlot_succeeds k e par, handle, if_pos htype, add, hslot]
  dsimp only [SceneRsp.succeeded]
  cases (s.addSlot k e par).2 <;> decide

theorem succeeded_delete (s : Scenes b) {par : Nat → UInt8} {k : b.Btn} {e : Fin 8}
    (htype : msgType par = msgDelete)
    (hslot : slotOf b (keyNbr par) (keyEvent par) = some (k, e)) :
    (s.handle par).2.succeeded = true := by
  rw [handle, if_neg (by rw [htype]; decide), if_pos htype, delete, hslot]
  rfl

theorem succeeded_deleteAll (s : Scenes b) {par : Nat → UInt8}
    (htype : msgType par = msgDeleteAll) :
    (s.handle par).2.succeeded = true := by
  rw [handle, if_neg (by rw [htype]; decide), if_neg (by rw [htype]; decide),
    if_neg (by rw [htype]; decide), if_pos htype]
  rfl

theorem Stored.not_tooMany {par : Nat → UInt8} (h : Stored par)
    (hid : ofU16Bytes (par 2) (par 3) = sceneIdInvalid) : (par 4).toNat ≤ maxSceneDestAdr := by
  unfold Stored at h
  rwa [if_pos hid] at h

theorem tooMany_of_not_stored {par : Nat → UInt8} (h : ¬ Stored par)
    (hid : ofU16Bytes (par 2) (par 3) = sceneIdInvalid) : ¬ (par 4).toNat ≤ maxSceneDestAdr := by
  unfold Stored at h
  rwa [if_pos hid] at h

/-- What an ADD that is answered with success says. -/
theorem recorded_add {par : Nat → UInt8} {k : b.Btn} {e : Fin 8} (htype : msgType par = msgAdd)
    (hslot : slotOf b (keyNbr par) (keyEvent par) = some (k, e)) (d : b.Btn → Option UInt8) :
    recorded d par =
      if IsDimmingSlot e then Function.update d k (some (supportEventArr e)) else d := by
  rw [recorded, if_neg (by rw [htype]; decide), hslot]
  dsimp only
  rw [slotOf_eq_some hslot]
  split
  · next hd => rw [if_pos (c := IsDimmingSlot e) hd.2]
  · next hd =>
    rw [if_neg (c := IsDimmingSlot e) fun hc => hd ⟨htype, hc⟩, if_neg]
    rw [htype]
    exact fun hc => absurd hc.1 (by decide)

theorem recorded_delete {par : Nat → UInt8} {k : b.Btn} {e : Fin 8}
    (htype : msgType par = msgDelete)
    (hslot : slotOf b (keyNbr par) (keyEvent par) = some (k, e)) (d : b.Btn → Option UInt8) :
    recorded d par =
      if d k = some (supportEventArr e) then Function.update d k none else d := by
  rw [recorded, if_neg (by rw [htype]; decide), hslot]
  dsimp only
  rw [slotOf_eq_some hslot, htype, if_neg fun hc => absurd hc.1 (by decide)]
  exact if_congr (and_iff_right rfl) rfl rfl

/-- A message for one button keeps the others in step. -/
theorem InStep.update_iff {s s' : Scenes b} {d : b.Btn → Option UInt8} (h : InStep s d) {k : b.Btn}
    (hother : ∀ k', k' ≠ k → s'.executionDimmingIsExist k' = s.executionDimmingIsExist k')
    (o : Option UInt8) :
    InStep s' (Function.update d k o) ↔ s'.executionDimmingIsExist k = o := by
  constructor
  · intro hall
    rw [hall k, Function.update_self]
  · intro hk k'
    by_cases hkk : k' = k
    · rw [hkk, hk, Function.update_self]
    · rw [hother k' hkk, Function.update_of_ne hkk, h k']

section Add

variable {s s' : Scenes b} {par : Nat → UInt8} {k : b.Btn} {e : Fin 8}

/-- An ADD of a dimming event leaves its own event, or nothing. -/
theorem exist_add (hok' : s'.SlotsOk) (hd : IsDimmingSlot e)
    (hkeep : ∀ k' e', (k', e') ≠ (k, e) → s'.slotEvent k' e' =
      if k' = k ∧ IsDimmingSlot e ∧ IsDimmingSlot e' then 0xFF else s.slotEvent k' e') :
    s'.executionDimmingIsExist k =
      if s'.slotEvent k e = 0xFF then none else some (supportEventArr e) := by
  split
  · next hempty =>
    refine hok'.exist_eq_none fun e' hd' => ?_
    by_cases he : e' = e
    · rw [he, hempty]
    · rw [hkeep k e' fun heq => he (Prod.mk.inj heq).2, if_pos ⟨rfl, hd, hd'⟩]
  · next ho => exact hok'.exist_eq_some hd ho

theorem addOk_iff (htype : msgType par = msgAdd)
    (hslot : slotOf b (keyNbr par) (keyEvent par) = some (k, e)) (hd : IsDimmingSlot e)
    (hstored : ¬ Stored par) :
    AddOk s par ↔
      if ofU16Bytes (par 2) (par 3) = sceneIdInvalid then
        ∀ e', IsDimmingSlot e' → e' ≠ e → s.slotEvent k e' = 0xFF
      else s.slotEvent k e = supportEventArr e := by
  have hevt : keyEvent par = supportEventArr e := slotOf_eq_some hslot
  constructor
  · intro h
    have hself := h htype (by rw [hevt]; exact hd) hstored k e hslot
    rwa [hevt] at hself
  · intro h _ _ _ k' e' hslot'
    obtain ⟨rfl, rfl⟩ := Prod.mk.inj (Option.some.inj (hslot.symm.trans hslot'))
    rwa [hevt]

/-- After an ADD of a dimming event the button has the event it is told, or had, if and
only if the ADD meets the condition. -/
theorem exist_add_iff (hok : s.SlotsOk) (hok' : s'.SlotsOk) (htype : msgType par = msgAdd)
    (hslot : slotOf b (keyNbr par) (keyEvent par) = some (k, e)) (hd : IsDimmingSlot e)
    (hkeep : ∀ k' e', (k', e') ≠ (k, e) → s'.slotEvent k' e' =
      if k' = k ∧ IsDimmingSlot e ∧ IsDimmingSlot e' then 0xFF else s.slotEvent k' e')
    (hnew : s'.slotEvent k e = if Stored par then supportEventArr e else s.slotEvent k e) :
    s'.executionDimmingIsExist k =
        (if (s.handle par).2.succeeded then some (supportEventArr e)
        else s.executionDimmingIsExist k) ↔ AddOk s par := by
  have hsucc := s.succeeded_add htype hslot
  have hne : supportEventArr e ≠ 0xFF := isDimmingEvent_ne_erased hd
  rw [exist_add hok' hd hkeep, hnew]
  by_cases hstored : Stored par
  · rw [if_pos hstored, if_neg hne, if_pos (hsucc.mpr hstored.not_tooMany)]
    exact ⟨fun _ _ _ hns => absurd hstored hns, fun _ => rfl⟩
  · rw [if_neg hstored, addOk_iff htype hslot hd hstored]
    by_cases hid : ofU16Bytes (par 2) (par 3) = sceneIdInvalid
    · -- refused: what was set before must be what is left
      rw [if_pos hid, if_neg fun hs => tooMany_of_not_stored hstored hid (hsucc.mp hs hid)]
      by_cases hempty : s.slotEvent k e = 0xFF
      · rw [if_pos hempty, eq_comm, hok.exist_eq_none_iff]
        constructor
        · exact fun hall e' hd' _ => hall e' hd'
        · intro hall e' hd'
          by_cases he : e' = e
          · rw [he, hempty]
          · exact hall e' hd' he
      · rw [if_neg hempty, hok.exist_eq_some hd hempty]
        refine ⟨fun _ e' hd' he => ?_, fun _ => rfl⟩
        by_contra ho
        exact he (hok.dimming k e' e hd' hd ho hempty)
    · -- answered with success: the event must be set already
      rw [if_neg hid, if_pos (hsucc.mpr fun hc => absurd hc hid)]
      constructor
      · intro hsome
        refine (hok.event k e).resolve_left fun hempty => ?_
        rw [if_pos hempty] at hsome
        cases hsome
      · intro heq
        rw [if_neg (heq ▸ hne)]

end Add

/-- **Step lemma**: a step keeps the dimming events in step if and only if it meets the
condition. -/
theorem inStep_step_iff {h : History b} (hok : h.scenes.SlotsOk) (hsync : h.scenes.Synced)
    (hdim : InStep h.scenes h.dimming) (ev : Event) :
    InStep (h.step ev).scenes (h.step ev).dimming ↔ StepOk h ev := by
  have hstep := h.scenes.slotStep hsync ev
  have hok' := hok.step hstep
  cases hstep with
  | reboot hkeep =>
    refine ⟨fun _ => trivial, fun _ => ?_⟩
    show InStep (h.scenes.step .reboot) h.dimming
    rwa [hkeep]
  | @add par k e htype hslot hkeep hnew =>
    show InStep (h.scenes.step (.msg par)) (if _ then _ else _) ↔ AddOk h.scenes par
    have hother : ∀ k', k' ≠ k → (h.scenes.step (.msg par)).executionDimmingIsExist k' =
        h.scenes.executionDimmingIsExist k' := by
      intro k' hk
      refine hok.exist_congr hok' fun e' _ => ?_
      rw [hkeep k' e' fun heq => hk (Prod.mk.inj heq).1, if_neg fun hc => hk hc.1]
    rw [recorded_add htype hslot]
    by_cases hd : IsDimmingSlot e
    · rw [if_pos hd, ← exist_add_iff hok hok' htype hslot hd hkeep hnew,
        ← hdim.update_iff hother]
      by_cases hs : (h.scenes.handle par).2.succeeded = true
      · rw [if_pos hs, if_pos hs]
      · rw [if_neg hs, if_neg hs, hdim k, Function.update_eq_self]
    · rw [if_neg hd, ite_self]
      refine ⟨fun _ _ hc => ?_, fun _ k' => ?_⟩
      · rw [slotOf_eq_some hslot] at hc
        exact absurd hc hd
      · rw [← hdim k']
        refine hok.exist_congr hok' fun e' hd' => ?_
        rw [hkeep k' e' fun heq => hd ((Prod.mk.inj heq).2 ▸ hd'), if_neg fun hc => hd hc.2.1]
  | @delete par k e htype hslot hkeep hnew =>
    refine ⟨fun _ hc => absurd (htype.symm.trans hc) (by decide), fun _ => ?_⟩
    show InStep (h.scenes.step (.msg par)) (if _ then _ else _)
    rw [if_pos (h.scenes.succeeded_delete htype hslot), recorded_delete htype hslot]
    have hother : ∀ k', k' ≠ k → (h.scenes.step (.msg par)).executionDimmingIsExist k' =
        h.scenes.executionDimmingIsExist k' := by
      intro k' hk
      exact hok.exist_congr hok' fun e' _ => hkeep k' e' fun heq => hk (Prod.mk.inj heq).1
    by_cases hset : h.dimming k = some (supportEventArr e)
    · rw [if_pos hset, hdim.update_iff hother]
      have hd : IsDimmingSlot e := isDimmingEvent_of_exist ((hdim k).trans hset)
      refine hok'.exist_eq_none fun e' hd' => ?_
      by_cases he : e' = e
      · rw [he, hnew]
      · rw [hkeep k e' fun heq => he (Prod.mk.inj heq).2]
        by_contra ho
        rw [← hdim k] at hset
        exact he (hok.dimming k e' e hd' hd ho ((hok.exist_eq_some_iff hd).mp hset))
    · rw [if_neg hset]
      intro k'
      rw [← hdim k']
      refine hok.exist_congr hok' fun e' hd' => ?_
      by_cases heq : (k', e') = (k, e)
      · obtain ⟨rfl, rfl⟩ := Prod.mk.inj heq
        rw [hnew]
        by_contra ho
        exact hset ((hdim k').symm.trans (hok.exist_eq_some hd' (Ne.symm ho)))
      · exact hkeep k' e' heq
  | @deleteAll par htype hnew =>
    refine ⟨fun _ hc => absurd (htype.symm.trans hc) (by decide), fun _ k => ?_⟩
    show (h.scenes.step (.msg par)).executionDimmingIsExist k =
      (if _ then _ else _ : b.Btn → Option UInt8) k
    rw [if_pos (h.scenes.succeeded_deleteAll htype), recorded, if_pos htype]
    exact hok'.exist_eq_none fun e _ => hnew k e
  | @other par htype hkeep =>
    have hrec : recorded h.dimming par = h.dimming := by
      rw [recorded]
      rcases htype with ⟨htype, hnone⟩ | ⟨hadd, hdel, hall⟩
      · rw [hnone, if_neg]
        rcases htype with htype | htype <;> rw [htype] <;> decide
      · rw [if_neg hall]
        split
        · rfl
        · rw [if_neg fun hc => hadd hc.1, if_neg fun hc => hdel hc.1]
    constructor
    · rintro - htype' - - k e hslot
      rcases htype with ⟨-, hnone⟩ | ⟨hadd, -, -⟩
      · rw [hnone] at hslot
        cases hslot
      · exact absurd htype' hadd
    · intro _
      show InStep (h.scenes.step (.msg par)) (if _ then _ else _)
      rw [hrec, ite_self, hkeep]
      exact hdim

/-- The invariant of the slots, the flash in step with the table, and the dimming event
of every button hold in every state of a run from an erased sector if and only if every
message meets the condition. -/
theorem history_intact_iff (m : Mem) (evs : List Event) :
    AllStates History.step History.Intact ⟨bootErased b m, fun _ => none⟩ evs ↔
      AllSteps History.step StepOk ⟨bootErased b m, fun _ => none⟩ evs := by
  have hempty : ∀ k e, (bootErased b m).slotEvent k e = 0xFF := by
    intro k e
    rw [slotEvent, bootErased_table]
    rfl
  have hboot := slotsOk_of_empty hempty
  have hstep : ∀ (h : History b) ev, h.scenes.SlotsOk ∧ h.scenes.Synced →
      (h.step ev).scenes.SlotsOk ∧ (h.step ev).scenes.Synced := by
    rintro h ev ⟨hok, hsync⟩
    rw [h.step_scenes]
    exact ⟨hok.step (h.scenes.slotStep hsync ev), hsync.step ev⟩
  refine AllStates.iff_allSteps hstep ?_ ⟨hboot, bootErased_synced m⟩
    ⟨hboot, bootErased_synced m, fun k => hboot.exist_eq_none fun e _ => hempty k e⟩
  rintro h ev hI ⟨-, -, hdim⟩
  rw [← inStep_step_iff hI.1 hI.2 hdim ev]
  constructor
  · rintro ⟨-, -, hdim'⟩
    exact hdim'
  · intro hdim'
    obtain ⟨hok', hsync'⟩ := hstep h ev hI
    exact ⟨hok', hsync', hdim'⟩

/-- ADD of `HOLD_UP` for button 0, a list of one message; then ADD of `HOLD_DOWN` with
six messages. -/
def refusedHoldDown : List Event :=
  [.msg (received [0x00, 0x08, 0x00, 0x00, 1, 0x01, 0xC0, 1, 0xDD, 0]),
    .msg (received [0x00, 0x09, 0x00, 0x00, 6])]

/-- The refused ADD leaves the button without its dimming event. -/
theorem dimming_lost_by_refused_add :
    ¬ AllStates History.step History.Intact ⟨bootErased board1 (fun _ => 0), fun _ => none⟩
      refusedHoldDown := by
  intro h
  have hlast : History.Intact (runFrom History.step
      ⟨bootErased board1 (fun _ => 0), fun _ => none⟩ refusedHoldDown) := h.2.2
  have hfound : (runFrom History.step ⟨bootErased board1 (fun _ => 0), fun _ => none⟩
      refusedHoldDown).scenes.executionDimmingIsExist ⟨0, by decide⟩ = none := by decide +kernel
  have hset : (runFrom History.step ⟨bootErased board1 (fun _ => 0), fun _ => none⟩
      refusedHoldDown).dimming ⟨0, by decide⟩ = some btnKeyHoldUp := by decide +kernel
  cases (hset.symm.trans (hlast.2.2 _).symm).trans hfound

end Scenes

end LumesSwitch
