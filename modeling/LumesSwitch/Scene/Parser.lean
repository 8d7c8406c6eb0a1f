import LumesSwitch.Scene.Refused
import LumesSwitch.Scene.RoundTrip

/-!
# How far the setup parser reads

The handler of the setup messages is given the length of a message and does not look at
it. Here its reads are partial: a message is a list of bytes, and a read behind its end
has no result.

- `Scenes.handlePar` — the handler with partial reads;
- `Scenes.handlePar_eq` — it is the handler of `Scenes.handle` on messages at least as long
  as `readEnd`, and has no result on shorter ones;
- `Scenes.parserSafe_iff` — when a message is handled inside its bounds, and a list that
  does not fit is refused.
-/

namespace LumesSwitch

open Bufs Nor Runs Words

/-! ## Partial reads -/

/-- `par[i]` of a message. -/
def readByte (par : List UInt8) (i : Nat) : Option UInt8 := par[i]?

/-- `memcpy` of `len` bytes of a message from position `off` on. -/
def readBytes (par : List UInt8) (off : Nat) : Nat → Option (List UInt8)
  | 0 => some []
  | len + 1 => do
    let x ← readByte par off
    let xs ← readBytes par (off + 1) len
    some (x :: xs)

/-- `addDest` with partial reads. -/
def addDestPar (par : List UInt8) (st : SceneArea × Nat) (i : Nat) : Option (SceneArea × Nat) := do
  let (a, index) := st
  let lo ← readByte par (index + 1)
  let hi ← readByte par (index + 2)
  let payloadLen := clampLen (← readByte par (index + 3))
  let payload ← readBytes par (index + 4) payloadLen
  let a := a.write (17 * i) [lo, hi]
  let a := a.write (17 * i + 3) payload
  some (a.write (17 * i + 2) [UInt8.ofNat payloadLen], index + 3 + payloadLen)

/-- `addScene` with partial reads. -/
def addScenePar (par : List UInt8) (st : SceneArea × Nat) (i : Nat) : Option (SceneArea × Nat) := do
  let (a, index) := st
  let x ← readBytes par (index + 1) 4
  some (a.write (4 * i) x, index + 4)

namespace Scenes

variable {b : Board}

/-- `addSlot` with partial reads; `hdr` is the copy of the first five bytes. -/
def addSlotPar (s : Scenes b) (k : b.Btn) (e : Fin 8) (hdr : Nat → UInt8) (par : List UInt8) :
    Option (Scenes b × Bool) :=
  let sceneId := ofU16Bytes (hdr 2) (hdr 3)
  let n := (hdr 4).toNat
  if sceneId = sceneIdInvalid then
    if n > maxSceneDestAdr then do
      let t ← readByte par 5
      some (s.updSlot k e fun p => { p with transTime := t }, false)
    else do
      let (area, index) ← (List.range' 0 n).foldlM (addDestPar par) (fun _ => 0xFF, 4)
      let t ← readByte par (index + 1)
      some (s.updSlot k e fun _ => ⟨keyEvent hdr, sceneId, area, t⟩, true)
  else if sceneId ≠ lmSceneInInvalid then do
    let t ← readByte par 5
    some ((s.deleteExecutionScene k e).updSlot k e fun p =>
      { p with btnEvent := keyEvent hdr, sceneId := sceneId, transTime := t }, true)
  else if n ≠ 0 ∧ n ≤ maxSceneDestAdr then do
    let s := s.deleteExecutionScene k e
    let (area, index) ← (List.range' 0 n).foldlM (addScenePar par) ((s.table k e).area, 4)
    let t ← readByte par (index + 1)
    some (s.updSlot k e fun _ => ⟨keyEvent hdr, sceneId, area, t⟩, true)
  else do
    let t ← readByte par 5
    some (s.updSlot k e fun p => { p with transTime := t }, true)

/-- MSG_ADD with partial reads. -/
def addPar (s : Scenes b) (hdr : Nat → UInt8) (par : List UInt8) : Option (Scenes b × SceneRsp) :=
  let rsp (status : UInt8) : SceneRsp :=
    .sent [rspTypeAndId hdr msgAdd, status, hdr 1, hdr 2, hdr 3]
  match slotOf b (keyNbr hdr) (keyEvent hdr) with
  | none => some (s, rsp exStatusFail)
  | some (k, e) => do
    let (s, ok) ← s.addSlotPar k e hdr par
    let s := if isDimmingEvent (keyEvent hdr) then s.clearOtherDimming k (keyEvent hdr) else s
    some (s.save, rsp (if ok then exStatusSuccess else exStatusFail))

/-- `handle_vendor_setup_execution_scene_set` with partial reads: five bytes are copied of
every message, and an ADD reads on. -/
def handlePar (s : Scenes b) (par : List UInt8) : Option (Scenes b × SceneRsp) := do
  let hdr ← readBytes par 0 5
  if msgType (received hdr) = msgAdd then s.addPar (received hdr) par
  else some (s.handle (received hdr))

end Scenes

/-- The GET that `execution_loop_task` builds: its third byte is not set. -/
def autoSendGet (btnKey : UInt8) (e : Fin 8) (unset : UInt8) : List UInt8 :=
  [msgGet, (btnKey <<< 4 &&& 0xF0) ||| (supportEventArr e &&& 0x0F), unset]

/-! ## What is read, and what is announced -/

/-- The position behind `n` destinations that start at `pos`, each with a payload as long as
`len` makes of the length it announces. -/
def destsEnd (len : UInt8 → Nat) (par : Nat → UInt8) : Nat → Nat → Nat
  | 0, pos => pos
  | n + 1, pos => destsEnd len par n (pos + 3 + len (par (pos + 2)))

/-- The number of bytes that are read of an ADD for a slot. -/
def addReadEnd (par : Nat → UInt8) : Nat :=
  if ofU16Bytes (par 2) (par 3) = sceneIdInvalid ∧ (par 4).toNat ≤ maxSceneDestAdr then
    destsEnd clampLen par (par 4).toNat 5 + 1
  else if ofU16Bytes (par 2) (par 3) = lmSceneInInvalid ∧ (par 4).toNat ≤ maxSceneDestAdr then
    4 * (par 4).toNat + 6
  else 6

/-- The number of bytes of a message that are read. -/
def readEnd (b : Board) (par : Nat → UInt8) : Nat :=
  if msgType par = msgAdd ∧ slotOf b (keyNbr par) (keyEvent par) ≠ none then addReadEnd par
  else 5

/-- The length that an ADD announces: its list, and the transition time behind it. -/
def announced (par : Nat → UInt8) : Nat :=
  if ofU16Bytes (par 2) (par 3) = sceneIdInvalid then
    destsEnd UInt8.toNat par (par 4).toNat 5 + 1
  else if ofU16Bytes (par 2) (par 3) ≠ lmSceneInInvalid then 6
  else 4 * (par 4).toNat + 6

namespace Scenes

variable {b : Board}

/-- A message is handled inside its bounds, and an ADD that announces more than there is
fails and leaves the table alone. -/
def ParserSafe (s : Scenes b) (par : List UInt8) : Prop :=
  ∃ r, s.handlePar par = some r ∧
    (msgType (received par) = msgAdd → ¬ announced (received par) ≤ par.length →
      r.2.failed = true ∧ r.1.table = s.table)

/-- The condition: no read is behind the end, and an ADD that announces more than there is
is for no slot of the table, or has too many messages and finds nothing to change. -/
def ParserOk (s : Scenes b) (par : List UInt8) : Prop :=
  readEnd b (received par) ≤ par.length ∧
    (msgType (received par) = msgAdd → ¬ announced (received par) ≤ par.length →
      slotOf b (keyNbr (received par)) (keyEvent (received par)) = none ∨
        (TooMany (received par) ∧ s.RefusalOk (received par)))

end Scenes

/-! ## Reads inside the message -/

section Reads

variable {par : List UInt8}

theorem readByte_eq (par : List UInt8) (i : Nat) :
    readByte par i = if i < par.length then some (received par i) else none := by
  rw [readByte]
  split
  · next h => rw [List.getElem?_eq_getElem h, received, List.getD_eq_getElem _ _ h]
  · next h => exact List.getElem?_eq_none (Nat.not_lt.mp h)

theorem readBytes_eq (par : List UInt8) (off len : Nat) :
    readBytes par off len =
      if len = 0 ∨ off + len ≤ par.length then some (bytesAt (received par) off len) else none := by
  induction len generalizing off with
  | zero => simp [readBytes, bytesAt]
  | succ len ih =>
    have hcons : bytesAt (received par) off (len + 1) =
        received par off :: bytesAt (received par) (off + 1) len := by
      rw [Nat.add_comm len 1, bytesAt_add]
      rfl
    rw [readBytes, readByte_eq, ih, hcons]
    by_cases hoff : off < par.length
    · rw [if_pos hoff]
      by_cases hlen : len = 0 ∨ off + 1 + len ≤ par.length
      · rw [if_pos hlen, if_pos (by omega)]
        rfl
      · rw [if_neg hlen, if_neg (by omega)]
        rfl
    · rw [if_neg hoff, if_neg (c := len + 1 = 0 ∨ _) (by omega)]
      rfl

/-- A step with partial reads does what the step does if its reads end inside the message,
and has no result otherwise. -/
theorem addDestPar_eq (st : SceneArea × Nat) (i : Nat) :
    addDestPar par st i =
      if (addDest (received par) st i).2 < par.length then some (addDest (received par) st i)
      else none := by
  obtain ⟨a, index⟩ := st
  rw [addDest_cursor, addDestPar]
  dsimp only
  rw [readByte_eq, readByte_eq, readByte_eq]
  by_cases hlen : index + 3 < par.length
  · rw [if_pos (by omega), if_pos (by omega), if_pos hlen]
    simp only [Option.bind_eq_bind, Option.bind_some]
    rw [readBytes_eq]
    generalize hc : clampLen (received par (index + 3)) = c
    by_cases hend : index + 3 + c < par.length
    · rw [if_pos (by omega), if_pos hend, Option.bind_some, addDest]
      rw [hc]
    · rw [if_neg (by omega), if_neg hend]
      rfl
  · rw [if_neg hlen, if_neg (c := index + 3 + _ < _) (by omega)]
    split <;> split <;> rfl

theorem addScene_cursor (f : Nat → UInt8) (a : SceneArea) (index i : Nat) :
    (addScene f (a, index) i).2 = index + 4 := rfl

theorem addScenePar_eq (st : SceneArea × Nat) (i : Nat) :
    addScenePar par st i =
      if (addScene (received par) st i).2 < par.length then some (addScene (received par) st i)
      else none := by
  obtain ⟨a, index⟩ := st
  rw [addScene_cursor, addScenePar, readBytes_eq]
  by_cases hlen : index + 4 < par.length
  · rw [if_pos (by omega), if_pos hlen]
    rfl
  · rw [if_neg (by omega), if_neg hlen]
    rfl

theorem addDest_mono (f : Nat → UInt8) (st : SceneArea × Nat) (i : Nat) :
    st.2 ≤ (addDest f st i).2 := by
  obtain ⟨a, index⟩ := st
  rw [addDest_cursor]
  dsimp only
  omega

theorem addScene_mono (f : Nat → UInt8) (st : SceneArea × Nat) (i : Nat) :
    st.2 ≤ (addScene f st i).2 := Nat.le_add_right _ 4

/-- A loop whose cursor never goes back ends inside the message if its last cursor does. -/
theorem foldlM_eq_runFrom {step : SceneArea × Nat → Nat → SceneArea × Nat}
    {stepPar : SceneArea × Nat → Nat → Option (SceneArea × Nat)}
    (hstep : ∀ st i, stepPar st i = if (step st i).2 < par.length then some (step st i) else none)
    (hmono : ∀ st i, st.2 ≤ (step st i).2) (is : List Nat) {st : SceneArea × Nat}
    (hst : st.2 < par.length) :
    is.foldlM stepPar st =
      if (runFrom step st is).2 < par.length then some (runFrom step st is) else none := by
  induction is generalizing st with
  | nil => exact (if_pos hst).symm
  | cons i is ih =>
    rw [List.foldlM_cons, hstep, runFrom_cons]
    by_cases hi : (step st i).2 < par.length
    · rw [if_pos hi]
      exact ih hi
    · have hend : (step st i).2 ≤ (runFrom step (step st i) is).2 :=
        invariant_runFrom (I := fun st' => (step st i).2 ≤ st'.2)
          (fun st' j h => Nat.le_trans h (hmono st' j)) (Nat.le_refl _) is
      rw [if_neg hi, if_neg (by omega)]
      rfl

theorem cursor_addScenes (f : Nat → UInt8) (a : SceneArea) (index i n : Nat) :
    (runFrom (addScene f) (a, index) (List.range' i n)).2 = index + 4 * n := by
  induction n generalizing a index i with
  | zero => rfl
  | succ n ih =>
    rw [List.range'_succ, runFrom_cons]
    exact (ih _ (index + 4) (i + 1)).trans (by omega)

/-- A list, and the transition time behind it. -/
theorem bind_list_eq {α : Type} {step : SceneArea × Nat → Nat → SceneArea × Nat}
    {stepPar : SceneArea × Nat → Nat → Option (SceneArea × Nat)}
    (hstep : ∀ st i, stepPar st i = if (step st i).2 < par.length then some (step st i) else none)
    (hmono : ∀ st i, st.2 ≤ (step st i).2) (is : List Nat) (st : SceneArea × Nat)
    (hst : st.2 < par.length) (g : SceneArea → UInt8 → α) :
    ((is.foldlM stepPar st).bind fun r => (readByte par (r.2 + 1)).bind fun t => some (g r.1 t)) =
      if (runFrom step st is).2 + 2 ≤ par.length then
        some (g (runFrom step st is).1 (received par ((runFrom step st is).2 + 1)))
      else none := by
  rw [foldlM_eq_runFrom hstep hmono is hst]
  by_cases hend : (runFrom step st is).2 < par.length
  · rw [if_pos hend, Option.bind_some, readByte_eq]
    by_cases ht : (runFrom step st is).2 + 1 < par.length
    · rw [if_pos ht, if_pos (by omega)]
      rfl
    · rw [if_neg ht, if_neg (by omega)]
      rfl
  · rw [if_neg hend, if_neg (by omega)]
    rfl

theorem received_bytesAt (f : Nat → UInt8) {n i : Nat} (hi : i < n) :
    received (bytesAt f 0 n) i = f i := by
  rw [received, List.getD_eq_getElem _ _ (by rwa [bytesAt_length])]
  simp [bytesAt]

/-- The transition time at the position after the header. -/
theorem bind_byte_eq {α : Type} (g : UInt8 → α) :
    ((readByte par 5).bind fun t => some (g t)) =
      if 6 ≤ par.length then some (g (received par 5)) else none := by
  rw [readByte_eq]
  split
  · next h => exact (if_pos h).symm
  · next h => exact (if_neg h).symm

end Reads

section ReadEnd

variable {f : Nat → UInt8}

theorem destsRead_cursor (f : Nat → UInt8) (n index : Nat) :
    (destsRead f n index).2 + 1 = destsEnd clampLen f n (index + 1) := by
  induction n generalizing index with
  | zero => rfl
  | succ n ih =>
    rw [destsRead, destsEnd]
    exact (ih _).trans (congrArg (destsEnd clampLen f n) (Nat.add_right_comm (index + 3) _ 1))

theorem destsEnd_ge (len : UInt8 → Nat) (f : Nat → UInt8) (n pos : Nat) :
    pos ≤ destsEnd len f n pos := by
  induction n generalizing pos with
  | zero => exact Nat.le_refl _
  | succ n ih =>
    have hrest := ih (pos + 3 + len (f (pos + 2)))
    rw [destsEnd]
    omega

theorem addReadEnd_dests (hid : ofU16Bytes (f 2) (f 3) = sceneIdInvalid)
    (hn : (f 4).toNat ≤ maxSceneDestAdr) :
    addReadEnd f = (destsRead f (f 4).toNat 4).2 + 2 := by
  rw [addReadEnd, if_pos ⟨hid, hn⟩, ← destsRead_cursor]

theorem addReadEnd_scenes (hid : ofU16Bytes (f 2) (f 3) = lmSceneInInvalid)
    (hn : (f 4).toNat ≤ maxSceneDestAdr) : addReadEnd f = 4 * (f 4).toNat + 6 := by
  have hne : lmSceneInInvalid ≠ sceneIdInvalid := by decide
  rw [addReadEnd, hid, if_neg fun h => hne h.1, if_pos ⟨rfl, hn⟩]

theorem addReadEnd_tooMany (hn : maxSceneDestAdr < (f 4).toNat) : addReadEnd f = 6 := by
  rw [addReadEnd, if_neg fun h => Nat.not_le.mpr hn h.2, if_neg fun h => Nat.not_le.mpr hn h.2]

theorem addReadEnd_single (hid : ofU16Bytes (f 2) (f 3) ≠ sceneIdInvalid)
    (hid' : ofU16Bytes (f 2) (f 3) ≠ lmSceneInInvalid) : addReadEnd f = 6 := by
  rw [addReadEnd, if_neg fun h => hid h.1, if_neg fun h => hid' h.1]

theorem readEnd_add {b : Board} (htype : msgType f = msgAdd)
    (hslot : slotOf b (keyNbr f) (keyEvent f) ≠ none) : readEnd b f = addReadEnd f :=
  if_pos ⟨htype, hslot⟩

theorem readEnd_other {b : Board}
    (h : ¬ (msgType f = msgAdd ∧ slotOf b (keyNbr f) (keyEvent f) ≠ none)) : readEnd b f = 5 :=
  if_neg h

end ReadEnd

/-! ## The handler -/

namespace Scenes

variable {b : Board} (s : Scenes b) {par : List UInt8} {hdr : Nat → UInt8}

/-- Only the first two bytes of a message other than ADD count. -/
theorem handle_of_header {f g : Nat → UInt8} (h0 : f 0 = g 0) (h1 : f 1 = g 1)
    (htype : msgType f ≠ msgAdd) : s.handle f = s.handle g := by
  have htype' : msgType g ≠ msgAdd := by rwa [msgType, ← h0]
  rw [handle, handle, if_neg htype, if_neg htype']
  unfold delete get msgType keyNbr keyEvent rspTypeAndId
  rw [h0, h1]

theorem addSlotPar_eq (k : b.Btn) (e : Fin 8) (hlen : 5 ≤ par.length)
    (hhdr : ∀ i < 5, hdr i = received par i) :
    s.addSlotPar k e hdr par =
      if addReadEnd (received par) ≤ par.length then some (s.addSlot k e (received par))
      else none := by
  have hevt : keyEvent hdr = keyEvent (received par) := by
    rw [keyEvent, hhdr 1 (by decide), keyEvent]
  have hne : lmSceneInInvalid ≠ sceneIdInvalid := by decide
  unfold addSlotPar addSlot
  rw [hhdr 2 (by decide), hhdr 3 (by decide), hhdr 4 (by decide), hevt]
  simp only [Option.bind_eq_bind]
  by_cases hdirect : ofU16Bytes (received par 2) (received par 3) = sceneIdInvalid
  · rw [if_pos hdirect, if_pos hdirect]
    by_cases hn : (received par 4).toNat > maxSceneDestAdr
    · rw [if_pos hn, if_pos hn, addReadEnd_tooMany hn]
      exact bind_byte_eq _
    · rw [if_neg hn, if_neg hn, addReadEnd_dests hdirect (Nat.not_lt.mp hn),
        ← (addDests_spec (received par) (fun _ => 0xFF) 4 0 _ (by omega)).1]
      exact bind_list_eq addDestPar_eq (addDest_mono _) _ (_, 4) hlen fun area t =>
        (s.updSlot k e fun _ => ⟨keyEvent (received par),
          ofU16Bytes (received par 2) (received par 3), area, t⟩, true)
  · rw [if_neg hdirect, if_neg hdirect]
    by_cases hsingle : ofU16Bytes (received par 2) (received par 3) = lmSceneInInvalid
    · rw [if_neg (not_not.mpr hsingle), if_neg (not_not.mpr hsingle)]
      by_cases hn : (received par 4).toNat ≠ 0 ∧ (received par 4).toNat ≤ maxSceneDestAdr
      · have hcur := cursor_addScenes (received par)
          ((s.deleteExecutionScene k e).table k e).area 4 0 (received par 4).toNat
        rw [if_pos hn, if_pos hn, addReadEnd_scenes hsingle hn.2,
          show 4 * (received par 4).toNat + 6 = 4 + 4 * (received par 4).toNat + 2 by omega, ← hcur]
        exact bind_list_eq addScenePar_eq (addScene_mono _) _ (_, 4) hlen fun area t =>
          ((s.deleteExecutionScene k e).updSlot k e fun _ => ⟨keyEvent (received par),
            ofU16Bytes (received par 2) (received par 3), area, t⟩, true)
      · rw [if_neg hn, if_neg hn]
        have hend : addReadEnd (received par) = 6 := by
          by_cases hle : (received par 4).toNat ≤ maxSceneDestAdr
          · have hzero : (received par 4).toNat = 0 := not_ne_iff.mp fun h => hn ⟨h, hle⟩
            rw [addReadEnd_scenes hsingle hle, hzero]
          · exact addReadEnd_tooMany (Nat.not_le.mp hle)
        rw [hend]
        exact bind_byte_eq _
    · rw [if_pos hsingle, if_pos hsingle, addReadEnd_single hdirect hsingle]
      exact bind_byte_eq _

theorem addPar_eq (hlen : 5 ≤ par.length) (hhdr : ∀ i < 5, hdr i = received par i) :
    s.addPar hdr par =
      if slotOf b (keyNbr (received par)) (keyEvent (received par)) = none ∨
          addReadEnd (received par) ≤ par.length then
        some (s.add (received par))
      else none := by
  have hevt : keyEvent hdr = keyEvent (received par) := by
    rw [keyEvent, hhdr 1 (by decide), keyEvent]
  have hkey : keyNbr hdr = keyNbr (received par) := by rw [keyNbr, hhdr 1 (by decide), keyNbr]
  unfold addPar add
  rw [hevt, hkey]
  cases slotOf b (keyNbr (received par)) (keyEvent (received par)) with
  | none =>
    unfold rspTypeAndId
    rw [if_pos (.inl rfl), hhdr 0 (by decide), hhdr 1 (by decide), hhdr 2 (by decide),
      hhdr 3 (by decide)]
  | some ke =>
    dsimp only
    rw [s.addSlotPar_eq ke.1 ke.2 hlen hhdr]
    unfold rspTypeAndId
    rw [hhdr 0 (by decide), hhdr 1 (by decide), hhdr 2 (by decide), hhdr 3 (by decide)]
    by_cases hend : addReadEnd (received par) ≤ par.length
    · rw [if_pos hend, if_pos (.inr hend)]
      rfl
    · rw [if_neg hend, if_neg (not_or.mpr ⟨Option.some_ne_none ke, hend⟩)]
      rfl

/-- The handler with partial reads is the handler on messages that are long enough, and has
no result on others. -/
theorem handlePar_eq (par : List UInt8) :
    s.handlePar par =
      if readEnd b (received par) ≤ par.length then some (s.handle (received par)) else none := by
  have hfive : 5 ≤ readEnd b (received par) := by
    have hmono : 5 ≤ destsEnd clampLen (received par) (received par 4).toNat 5 :=
      destsEnd_ge _ _ _ 5
    unfold readEnd addReadEnd
    split
    · split
      · omega
      · split <;> omega
    · exact Nat.le_refl 5
  rw [handlePar, readBytes_eq]
  by_cases hlen : 5 ≤ par.length
  · have hhdr : ∀ i < 5, received (bytesAt (received par) 0 5) i = received par i :=
      fun i hi => received_bytesAt (received par) hi
    have htype : msgType (received (bytesAt (received par) 0 5)) = msgType (received par) := by
      rw [msgType, hhdr 0 (by decide), msgType]
    rw [if_pos (.inr hlen)]
    simp only [Option.bind_eq_bind, Option.bind_some]
    rw [htype]
    by_cases hadd : msgType (received par) = msgAdd
    · rw [if_pos hadd, s.addPar_eq hlen hhdr, handle, if_pos hadd]
      by_cases hslot : slotOf b (keyNbr (received par)) (keyEvent (received par)) = none
      · rw [if_pos (.inl hslot), readEnd_other fun h => h.2 hslot, if_pos hlen]
      · rw [readEnd_add hadd hslot]
        exact if_congr (or_iff_right hslot) rfl rfl
    · rw [if_neg hadd, readEnd_other fun h => hadd h.1, if_pos hlen,
        s.handle_of_header (hhdr 0 (by decide)) (hhdr 1 (by decide)) (htype ▸ hadd)]
  · rw [if_neg (by omega), if_neg (by omega)]
    rfl

/-- A message is handled inside its bounds, and a list that does not fit is refused and
leaves the table alone, if and only if no read is behind the end and an ADD that announces
too much is for no slot, or has too many messages and finds nothing to change. -/
theorem parserSafe_iff (s : Scenes b) (par : List UInt8) : s.ParserSafe par ↔ s.ParserOk par := by
  rw [ParserSafe, ParserOk, handlePar_eq]
  by_cases hend : readEnd b (received par) ≤ par.length
  · rw [if_pos hend, and_iff_right hend]
    simp only [Option.some.injEq, exists_eq_left']
    refine forall_congr' fun hadd => forall_congr' fun _ => ?_
    rw [s.failed_add_iff hadd]
    cases hslot : slotOf b (keyNbr (received par)) (keyEvent (received par)) with
    | none =>
      refine iff_of_true ⟨.inl rfl, ?_⟩ (.inl rfl)
      rw [handle, if_pos hadd, add, hslot]
    | some ke =>
      rw [or_iff_right (Option.some_ne_none ke), or_iff_right (Option.some_ne_none ke)]
      exact and_congr_right fun hmany => s.table_refused_eq_iff hadd hmany hslot
  · rw [if_neg hend]
    refine iff_of_false ?_ fun h => hend h.1
    rintro ⟨r, hr, -⟩
    cases hr

/-- The GET that the device builds itself is never handled inside its bounds. -/
theorem not_parserSafe_of_autoSend (s : Scenes b) (btnKey : UInt8) (e : Fin 8) (unset : UInt8) :
    ¬ s.ParserSafe (autoSendGet btnKey e unset) := by
  have hget : msgType (received (autoSendGet btnKey e unset)) = msgGet := by
    change msgGet &&& 7 = msgGet
    decide
  have hne : msgGet ≠ msgAdd := by decide
  rintro ⟨r, hr, -⟩
  rw [handlePar_eq, readEnd_other fun h => hne (hget ▸ h.1)] at hr
  cases hr

/-- ADD of the first press of button 0: one message, with a payload of 20 bytes of which
there are 14. -/
def cutPayload : List UInt8 :=
  [0x08, 0x01, 0x00, 0x00, 1, 0x01, 0xC0, 20] ++ List.replicate 14 0xAA ++ [5]

/-- On a new device the GET that the device builds itself is read behind its end, and an ADD
that announces more than it holds succeeds. -/
theorem not_parserSafe_autoSend :
    ¬ (erased board1).ParserSafe (autoSendGet 0 1 0) ∧
      cutPayload.length < announced (received cutPayload) ∧
      ¬ (erased board1).ParserSafe cutPayload := by
  refine ⟨not_parserSafe_of_autoSend _ 0 1 0, by decide, ?_⟩
  rintro ⟨r, hr, h⟩
  rw [handlePar_eq, if_pos (by decide)] at hr
  obtain ⟨hfail, -⟩ := h (by decide) (by decide)
  rw [← Option.some.inj hr, failed_add_iff _ (by decide)] at hfail
  exact absurd hfail (by decide)

end Scenes

end LumesSwitch
