import LumesSwitch.Scene.Slots

/-!
# ADD messages that are refused

An ADD is refused for a button or an event that does not exist, and for a list of too many
messages. The second kind is found inside the branch that fills the slot: the transition
time, the clearing of the other dimming events and the save behind it are still done.

- `Scenes.bootFrom` — a boot on any flash;
- `Scenes.table_refused` — what an ADD of too many messages leaves;
- `Scenes.refused_unchanged_iff` — when a refused ADD leaves table and flash as they were.
-/

namespace LumesSwitch

open Bufs Nor Runs Words

variable {b : Board}

/-- An answer with the status `EX_STATUS_FAIL`. -/
def SceneRsp.failed : SceneRsp → Bool
  | .sent (_ :: status :: _) => status = exStatusFail
  | _ => false

/-- A list of more messages than a slot holds. -/
def TooMany (par : Nat → UInt8) : Prop :=
  ofU16Bytes (par 2) (par 3) = sceneIdInvalid ∧ maxSceneDestAdr < (par 4).toNat

instance (par : Nat → UInt8) : Decidable (TooMany par) := inferInstanceAs (Decidable (_ ∧ _))

namespace Scenes

/-- The table after a boot on the flash `m`. -/
def bootFrom (b : Board) (m : Mem) : Scenes b := restore { erased b with flash := m }

/-- The bytes of the flash that a boot reads the table from. -/
def flashCopy (s : Scenes b) : List UInt8 :=
  read flashAdrExecutionScene (712 * b.numberButton) s.flash

/-- An ADD of too many messages finds nothing to change: the transition time it carries is
the slot's, and no other dimming event of the button is set if it is for one. -/
def RefusalOk (s : Scenes b) (par : Nat → UInt8) : Prop :=
  TooMany par → ∀ k e, slotOf b (keyNbr par) (keyEvent par) = some (k, e) →
    (s.table k e).transTime = par 5 ∧
      (IsDimmingSlot e → ∀ e', IsDimmingSlot e' → e' ≠ e → s.table k e' = .cleared)

/-- What an ADD leaves alone if it fails. -/
def Unchanged (s : Scenes b) (par : Nat → UInt8) : Prop :=
  (s.handle par).1.table = s.table ∧ (s.handle par).1.flashCopy = s.flashCopy

/-! ## The answer -/

theorem addSlot_fails_iff (s : Scenes b) (k : b.Btn) (e : Fin 8) (par : Nat → UInt8) :
    (s.addSlot k e par).2 = false ↔ TooMany par := by
  rw [← Bool.not_eq_true, s.addSlot_succeeds k e par, TooMany, Classical.not_imp, Nat.not_le]

/-- An ADD fails for a slot that does not exist, and for too many messages. -/
theorem failed_add_iff (s : Scenes b) {par : Nat → UInt8} (htype : msgType par = msgAdd) :
    (s.handle par).2.failed = true ↔
      slotOf b (keyNbr par) (keyEvent par) = none ∨ TooMany par := by
  rw [handle, if_pos htype, add]
  cases hslot : slotOf b (keyNbr par) (keyEvent par) with
  | none => exact iff_of_true rfl (.inl rfl)
  | some ke =>
    rw [← s.addSlot_fails_iff ke.1 ke.2 par, or_iff_right (Option.some_ne_none ke)]
    dsimp only [SceneRsp.failed]
    cases (s.addSlot ke.1 ke.2 par).2 <;> decide

/-! ## What is left -/

/-- An ADD of too many messages writes the transition time of its slot, and clears the
other dimming events of its button if it is for one. -/
theorem table_refused (s : Scenes b) {par : Nat → UInt8} (htype : msgType par = msgAdd)
    (hmany : TooMany par) {k : b.Btn} {e : Fin 8}
    (hslot : slotOf b (keyNbr par) (keyEvent par) = some (k, e)) (k' : b.Btn) (e' : Fin 8) :
    (s.handle par).1.table k' e' =
      if (k', e') = (k, e) then { s.table k e with transTime := par 5 }
      else if k' = k ∧ IsDimmingSlot e ∧ IsDimmingSlot e' then .cleared
      else s.table k' e' := by
  have hevt : keyEvent par = supportEventArr e := slotOf_eq_some hslot
  have hfill : (s.addSlot k e par).1 = s.updSlot k e fun p => { p with transTime := par 5 } := by
    unfold addSlot
    dsimp only
    rw [if_pos hmany.1, if_pos hmany.2]
  rw [handle, if_pos htype, add, hslot]
  dsimp only
  rw [table_save, hfill]
  have hdim : isDimmingEvent (keyEvent par) = true ↔ IsDimmingSlot e := by rw [hevt, IsDimmingSlot]
  by_cases hself : (k', e') = (k, e)
  · obtain ⟨rfl, rfl⟩ := Prod.mk.inj hself
    rw [if_pos rfl]
    split
    · rw [clearOtherDimming_table, if_neg fun h => h.2.2 hevt.symm, table_updSlot_same]
    · exact s.table_updSlot_same k' e' _
  · rw [if_neg hself]
    split
    · next h =>
      rw [clearOtherDimming_table, s.table_updSlot_other _ hself, hevt]
      refine if_congr ?_ rfl rfl
      constructor
      · rintro ⟨hk, hd, -⟩
        exact ⟨hk, hdim.mp h, hd⟩
      · rintro ⟨hk, -, hd⟩
        refine ⟨hk, hd, fun heq => hself ?_⟩
        have he := congrArg getKeyEventIndex heq
        rw [getKeyEventIndex_supportEventArr, getKeyEventIndex_supportEventArr] at he
        rw [hk, Option.some.inj he]
    · next h =>
      rw [s.table_updSlot_other _ hself, if_neg]
      rintro ⟨-, hd, -⟩
      exact h (hdim.mpr hd)

/-- A slot with another transition time. -/
theorem transTime_eq_iff (p : ParExecutionScene) (t : UInt8) :
    { p with transTime := t } = p ↔ p.transTime = t := by
  constructor
  · intro h
    rw [← h]
  · rintro rfl
    rfl

theorem table_refused_eq_iff (s : Scenes b) {par : Nat → UInt8} (htype : msgType par = msgAdd)
    (hmany : TooMany par) {k : b.Btn} {e : Fin 8}
    (hslot : slotOf b (keyNbr par) (keyEvent par) = some (k, e)) :
    (s.handle par).1.table = s.table ↔ s.RefusalOk par := by
  have htable := s.table_refused htype hmany hslot
  constructor
  · intro heq _ k₁ e₁ hslot₁
    obtain ⟨rfl, rfl⟩ := Prod.mk.inj (Option.some.inj (hslot.symm.trans hslot₁))
    rw [heq] at htable
    constructor
    · have hself := htable k e
      rw [if_pos rfl] at hself
      exact (transTime_eq_iff _ _).mp hself.symm
    · intro hd e' hd' hne
      have hother := htable k e'
      rwa [if_neg fun h => hne (Prod.mk.inj h).2, if_pos ⟨rfl, hd, hd'⟩] at hother
  · intro hok
    obtain ⟨htrans, hclear⟩ := hok hmany k e hslot
    funext k' e'
    rw [htable]
    split
    · next hself =>
      obtain ⟨rfl, rfl⟩ := Prod.mk.inj hself
      exact (transTime_eq_iff _ _).mpr htrans
    · next hself =>
      split
      · next hd =>
        obtain ⟨rfl, hd, hd'⟩ := hd
        exact (hclear hd e' hd' fun he => hself (by rw [he])).symm
      · rfl

/-- Where the flash holds the table, it is the same exactly when the table is. -/
theorem Synced.unchanged_iff {s : Scenes b} (h : s.Synced) (par : Nat → UInt8) :
    s.Unchanged par ↔ (s.handle par).1.table = s.table := by
  have h' : (s.handle par).1.flashCopy = tableBytes (s.handle par).1.table := h.handle par
  have hcopy : s.flashCopy = tableBytes s.table := h
  rw [Unchanged, h', hcopy]
  exact and_iff_left_of_imp fun heq => by rw [heq]

/-- A refused ADD leaves the table and its copy in flash as they were if and only if it is
for no slot of the table, or finds nothing to change. -/
theorem refused_unchanged_iff (m : Mem) (evs : List Event) (par : Nat → UInt8) :
    (msgType par = msgAdd → ((runFrom step (bootFrom b m) evs).handle par).2.failed = true →
        (runFrom step (bootFrom b m) evs).Unchanged par) ↔
      (msgType par = msgAdd → (runFrom step (bootFrom b m) evs).RefusalOk par) := by
  have hsync : (runFrom step (bootFrom b m) evs).Synced :=
    invariant_runFrom (fun _ ev hs => hs.step ev) (synced_restore _) evs
  generalize runFrom step (bootFrom b m) evs = s at hsync
  refine forall_congr' fun htype => ?_
  rw [hsync.unchanged_iff, s.failed_add_iff htype]
  cases hslot : slotOf b (keyNbr par) (keyEvent par) with
  | none =>
    refine iff_of_true (fun _ => ?_) fun _ k e h => ?_
    · rw [handle, if_pos htype, add, hslot]
    · rw [hslot] at h
      cases h
  | some ke =>
    rw [or_iff_right (Option.some_ne_none ke)]
    constructor
    · exact fun h hmany => (s.table_refused_eq_iff htype hmany hslot).mp (h hmany) hmany
    · exact fun h hmany => (s.table_refused_eq_iff htype hmany hslot).mpr h

/-- ADD of the first press of button 0: six messages, transition time 9. -/
def sixMessages : Nat → UInt8 := received [0x08, 0x01, 0x00, 0x00, 6, 9]

/-- On a new device the refused ADD writes the transition time of the empty slot, in the
table and in flash. -/
theorem refused_changes_sixMessages :
    msgType sixMessages = msgAdd ∧
      ((runFrom step (bootFrom board1 fun _ => erasedByte) []).handle sixMessages).2 =
        .sent [0x08, exStatusFail, 0x01, 0x00, 0x00] ∧
      ¬ (runFrom step (bootFrom board1 fun _ => erasedByte) []).Unchanged sixMessages := by
  refine ⟨by decide, by decide +kernel, fun h => ?_⟩
  have hslot := congrFun (congrFun h.1 ⟨0, by decide⟩) 1
  have hnew : (((runFrom step (bootFrom board1 fun _ => erasedByte) []).handle
      sixMessages).1.table ⟨0, by decide⟩ 1).transTime = 9 := by decide +kernel
  have hold : ((runFrom step (bootFrom board1 fun _ => erasedByte) []).table
      ⟨0, by decide⟩ 1).transTime = 0xFF := by decide +kernel
  rw [hslot, hold] at hnew
  exact absurd hnew (by decide)

end Scenes

end LumesSwitch
