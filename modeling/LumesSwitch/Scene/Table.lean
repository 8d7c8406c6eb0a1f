import LumesSwitch.Scene.Model

/-!
# The scene table across messages and reboots

- `Scenes.Synced` — the flash holds the table; every message keeps it, so a reboot
  changes nothing (`Scenes.Synced.restore_eq`);
- `Scenes.handle_table_other` — a message leaves the slots alone that it is not for.
-/

namespace LumesSwitch

open Bufs Nor Runs Words

/-! ## Layout -/

namespace ParExecutionScene

@[simp] theorem toBytes_length (p : ParExecutionScene) : p.toBytes.length = 89 := by
  simp [toBytes, u16Bytes]

theorem ofBytes_toBytes (p : ParExecutionScene) : ofBytes p.toBytes = p := by
  have hid : ofU16Bytes (p.toBytes.getD 1 0) (p.toBytes.getD 2 0) = p.sceneId :=
    ofU16Bytes_u16Bytes p.sceneId
  have harea : Buf.ofBytes (p.toBytes.drop 3) = p.area := p.area.ofBytes_read [p.transTime]
  have htrans : p.toBytes.getD 88 0 = p.transTime := by
    show (p.btnEvent :: u16Bytes p.sceneId ++ (p.area.read 0 85 ++ [p.transTime])).getD 88 0 = _
    rw [← List.append_assoc, List.getD_append_right _ _ _ _ (by simp [u16Bytes])]
    simp [u16Bytes]
  rw [ofBytes, hid, harea, htrans]
  rfl

theorem toBytes_ofBytes {bs : List UInt8} (h : bs.length = 89) : (ofBytes bs).toBytes = bs := by
  obtain ⟨x, bs, rfl⟩ := List.exists_cons_of_length_eq_add_one h
  obtain ⟨lo, bs, rfl⟩ := List.exists_cons_of_length_eq_add_one (Nat.succ.inj h)
  obtain ⟨hi, bs, rfl⟩ := List.exists_cons_of_length_eq_add_one (Nat.succ.inj (Nat.succ.inj h))
  have hlen : bs.length = 85 + 1 := Nat.succ.inj (Nat.succ.inj (Nat.succ.inj h))
  have harea : (Buf.ofBytes bs : SceneArea).read 0 85 = bs.take 85 := Buf.read_ofBytes (by omega)
  have hlast : [bs.getD 85 0] = bs.drop 85 := by
    rw [List.getD_eq_getElem _ _ (by omega), List.drop_eq_getElem_cons (by omega),
      List.drop_eq_nil_of_le (by omega)]
  show x :: u16Bytes (ofU16Bytes lo hi) ++
    ((Buf.ofBytes bs : SceneArea).read 0 85 ++ [bs.getD 85 0]) = _
  rw [u16Bytes_ofU16Bytes, harea, hlast, List.take_append_drop]
  rfl

end ParExecutionScene

theorem rowBytes_length (row : Fin 8 → ParExecutionScene) :
    (encodeRecords ParExecutionScene.toBytes row).length = 712 :=
  encodeRecords_length (w := 89) ParExecutionScene.toBytes_length row

variable {b : Board}

theorem tableBytes_length (t : b.Btn → Fin 8 → ParExecutionScene) :
    (tableBytes t).length = 712 * b.numberButton :=
  encodeRecords_length rowBytes_length t

theorem tableOfBytes_tableBytes (t : b.Btn → Fin 8 → ParExecutionScene) :
    tableOfBytes (tableBytes t) = t :=
  decodeRecords_encodeRecords rowBytes_length
    (decodeRecords_encodeRecords ParExecutionScene.toBytes_length
      ParExecutionScene.ofBytes_toBytes) t

theorem tableBytes_tableOfBytes {bs : List UInt8} (h : bs.length = 712 * b.numberButton) :
    tableBytes (tableOfBytes bs : b.Btn → Fin 8 → ParExecutionScene) = bs := by
  refine encodeRecords_decodeRecords (fun r hr => ?_) h
  exact encodeRecords_decodeRecords (fun _ hp => ParExecutionScene.toBytes_ofBytes hp) hr

theorem tableBytes_le_sector (t : b.Btn → Fin 8 → ParExecutionScene) :
    (tableBytes t).length ≤ flashSectorSize := by
  have h := b.le_three
  have hbtn : b.numberButton = b.numberRl + 2 := rfl
  rw [tableBytes_length, flashSectorSize]
  omega

namespace Scenes

/-! ## The flash holds the table -/

def Synced (s : Scenes b) : Prop :=
  read flashAdrExecutionScene (712 * b.numberButton) s.flash = tableBytes s.table

theorem synced_save (s : Scenes b) : s.save.Synced := by
  have hle := tableBytes_le_sector s.table
  have herased : ErasedOn flashAdrExecutionScene (tableBytes s.table).length
      (erase flashAdrExecutionScene flashSectorSize s.flash) :=
    (erasedOn_erase flashAdrExecutionScene flashSectorSize s.flash).mono (Nat.le_refl _) (by omega)
  rw [Synced, ← tableBytes_length s.table]
  exact read_program herased

theorem Synced.restore_eq {s : Scenes b} (h : s.Synced) : s.restore = s := by
  rw [restore, h, tableOfBytes_tableBytes]

/-- Whatever the flash holds, a boot leaves the table in step with it. -/
theorem synced_restore (s : Scenes b) : s.restore.Synced := by
  have hlen := read_length flashAdrExecutionScene (712 * b.numberButton) s.flash
  rw [Synced, restore, tableBytes_tableOfBytes hlen]

/-! ## Slots -/

theorem table_updSlot_same (s : Scenes b) (k : b.Btn) (e : Fin 8)
    (f : ParExecutionScene → ParExecutionScene) :
    (s.updSlot k e f).table k e = f (s.table k e) := by
  simp [updSlot]

theorem table_updSlot_other (s : Scenes b) {k k' : b.Btn} {e e' : Fin 8}
    (f : ParExecutionScene → ParExecutionScene) (h : (k', e') ≠ (k, e)) :
    (s.updSlot k e f).table k' e' = s.table k' e' := by
  rw [updSlot]
  dsimp only
  by_cases hk : k' = k
  · subst hk
    have he : e' ≠ e := fun he => h (by rw [he])
    rw [Function.update_self, Function.update_of_ne he]
  · rw [Function.update_of_ne hk]

@[simp] theorem table_save (s : Scenes b) : s.save.table = s.table := rfl

theorem table_delete_other (s : Scenes b) {k k' : b.Btn} {e e' : Fin 8}
    (h : (k', e') ≠ (k, e)) : (s.deleteExecutionScene k e).table k' e' = s.table k' e' := by
  rw [deleteExecutionScene, table_save]
  exact s.table_updSlot_other _ h

/-- Filling a slot leaves the others alone. -/
theorem table_addSlot_other (s : Scenes b) {k k' : b.Btn} {e e' : Fin 8}
    (par : Nat → UInt8) (h : (k', e') ≠ (k, e)) :
    (s.addSlot k e par).1.table k' e' = s.table k' e' := by
  rw [addSlot]
  dsimp only
  split
  · split <;> rw [table_updSlot_other _ _ h]
  · split
    · rw [table_updSlot_other _ _ h, table_delete_other _ h]
    · split
      · rw [table_updSlot_other _ _ h, table_delete_other _ h]
      · rw [table_updSlot_other _ _ h]

/-- Clearing the other dimming events leaves a slot alone that is none of them. -/
theorem table_clearOtherDimming (s : Scenes b) {k k' : b.Btn} {e' : Fin 8} {evt : UInt8}
    (h : ∀ d, isDimmingEvent d = true → d ≠ evt → getKeyEventIndex d = some e' → k' ≠ k) :
    (s.clearOtherDimming k evt).table k' e' = s.table k' e' := by
  rw [clearOtherDimming]
  have hdim : ∀ d ∈ [btnKeyHoldUp, btnKeyHoldDown, btnKeyHoldUpDown],
      isDimmingEvent d = true := by decide +kernel
  generalize [btnKeyHoldUp, btnKeyHoldDown, btnKeyHoldUpDown] = ds at hdim
  induction ds generalizing s with
  | nil => rfl
  | cons d ds ih =>
    rw [runFrom_cons, ih _ fun x hx => hdim x (List.mem_cons_of_mem _ hx)]
    split
    · next hd =>
      split
      · next e he =>
        refine s.table_updSlot_other _ fun heq => ?_
        obtain ⟨hk, hee⟩ := Prod.mk.inj heq
        exact h d (hdim d List.mem_cons_self) hd (hee ▸ he) hk
      · rfl
    · rfl

/-! ## Messages and reboots -/

/-- What happens to the scene table. -/
inductive Event where
  | msg (par : Nat → UInt8)
  | reboot

def step (s : Scenes b) : Event → Scenes b
  | .msg par => (s.handle par).1
  | .reboot => s.restore

/-- A message that is not for the slot of button `k` and event `evt`: it adds or deletes
another slot, and a dimming event it adds does not clear this one. -/
def NotFor (k : b.Btn) (evt : UInt8) (par : Nat → UInt8) : Prop :=
  if msgType par = msgAdd then
    ∀ k' e', slotOf b (keyNbr par) (keyEvent par) = some (k', e') → k' = k →
      some e' ≠ getKeyEventIndex evt ∧
        ¬ (isDimmingEvent (keyEvent par) = true ∧ isDimmingEvent evt = true)
  else if msgType par = msgDelete then
    ∀ k' e', slotOf b (keyNbr par) (keyEvent par) = some (k', e') → k' = k →
      some e' ≠ getKeyEventIndex evt
  else msgType par ≠ msgDeleteAll

/-- An event that does not conflict with a slot: a reboot, or a message that is not for
it. -/
def NonConflicting (k : b.Btn) (evt : UInt8) (ev : Event) : Prop :=
  ∀ par, ev = .msg par → NotFor k evt par

/-- Every message keeps the flash in step with the table. -/
theorem Synced.handle {s : Scenes b} (h : s.Synced) (par : Nat → UInt8) :
    (s.handle par).1.Synced := by
  rw [Scenes.handle]
  split
  · rw [add]
    dsimp only
    split
    · exact h
    · exact synced_save _
  · split
    · rw [delete]
      dsimp only
      split
      · exact h
      · exact synced_save _
    · split
      · exact h
      · split
        · exact synced_save _
        · exact h

/-- The events of a slot number. -/
theorem getKeyEventIndex_inj {x y : UInt8} {e : Fin 8} (hx : getKeyEventIndex x = some e)
    (hy : getKeyEventIndex y = some e) : x = y := by
  have hval : ∀ (z : UInt8) (e : Fin 8), getKeyEventIndex z = some e →
      z = [0, 1, 4, 5, 6, 8, 9, 10].getD e.val 0 := by
    intro z e hz
    simp only [getKeyEventIndex] at hz
    split_ifs at hz with h0 h1 h4 h5 h6 h8 h9 h10
    all_goals
      obtain rfl := Option.some.inj hz
      assumption
  rw [hval x e hx, hval y e hy]

/-- A message that is not for a slot leaves it alone. -/
theorem handle_table_other (s : Scenes b) (par : Nat → UInt8) {k : b.Btn} {e : Fin 8}
    {evt : UInt8} (he : getKeyEventIndex evt = some e)
    (hnc : NotFor k evt par) : (s.handle par).1.table k e = s.table k e := by
  rw [NotFor] at hnc
  rw [handle]
  split
  · next hadd =>
    rw [if_pos hadd] at hnc
    rw [add]
    dsimp only
    split
    · rfl
    · next k' e' hslot =>
      have hother : (k, e) ≠ (k', e') := by
        intro heq
        obtain ⟨hk, hee⟩ := Prod.mk.inj heq
        exact (hnc k' e' hslot hk.symm).1 (by rw [he, hee])
      rw [table_save]
      split
      · next hdim =>
        refine (table_clearOtherDimming _ fun d hd _ hde hk => ?_).trans
          (s.table_addSlot_other par hother)
        have hevt : d = evt := getKeyEventIndex_inj hde he
        exact (hnc k' e' hslot hk.symm).2 ⟨hdim, hevt ▸ hd⟩
      · exact s.table_addSlot_other par hother
  · next hadd =>
    rw [if_neg hadd] at hnc
    split
    · next hdel =>
      rw [if_pos hdel] at hnc
      rw [delete]
      dsimp only
      split
      · rfl
      · next k' e' hslot =>
        refine s.table_delete_other fun heq => ?_
        obtain ⟨hk, hee⟩ := Prod.mk.inj heq
        exact hnc k' e' hslot hk.symm (by rw [he, hee])
    · next hdel =>
      rw [if_neg hdel] at hnc
      -- a message of no other type changes anything
      split <;> rfl

/-- **Run lemma**: events that are not for a slot leave it, and the flash in step. -/
theorem run_table_other {s : Scenes b} (h : s.Synced) {k : b.Btn} {e : Fin 8} {evt : UInt8}
    (he : getKeyEventIndex evt = some e) (evs : List Event)
    (hnc : ∀ ev ∈ evs, NonConflicting k evt ev) :
    (runFrom step s evs).Synced ∧ (runFrom step s evs).table k e = s.table k e := by
  induction evs generalizing s with
  | nil => exact ⟨h, rfl⟩
  | cons ev evs ih =>
    have hstep : (s.step ev).Synced ∧ (s.step ev).table k e = s.table k e := by
      cases ev with
      | msg par =>
        exact ⟨h.handle par, s.handle_table_other par he (hnc _ List.mem_cons_self par rfl)⟩
      | reboot =>
        show s.restore.Synced ∧ s.restore.table k e = s.table k e
        rw [h.restore_eq]
        exact ⟨h, rfl⟩
    obtain ⟨hsync, htable⟩ := ih hstep.1 fun x hx => hnc x (List.mem_cons_of_mem _ hx)
    exact ⟨hsync, htable.trans hstep.2⟩

end Scenes

end LumesSwitch
