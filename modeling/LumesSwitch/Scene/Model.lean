import LumesSwitch.Lib.Buf
import LumesSwitch.Flash.FlashUser
import LumesSwitch.Net.Message

/-!
# Execution scenes (`execution_scene.c`)

A table holds, for each button and each of eight events, what the event sends: one
scene, up to five scenes, or up to five messages, laid out in a union. Setup messages
add, delete and read entries; every change writes the whole table to flash. The
dimming events of a button are driven by its hold and release.

- `Scenes.handle` — the setup messages;
- `Scenes.executionDimmingIsExist`, `Scenes.executionDimmingControlByKeyNumber` — the
  dimming events.
-/

namespace LumesSwitch

open Bufs Nor Runs Words

/-! ## Types -/

/-- `MAX_PAYLOAD_LEN`, `MAX_SCENE_DEST_ADR` -/
def maxPayloadLen : Nat := 14
def maxSceneDestAdr : Nat := 5

/-- `LM_SCENE_IN_INVALID`, and the `scene_id` of a list of scenes. -/
def lmSceneInInvalid : UInt16 := 0xFFFF

/-- `SCENE_ID_INVALID`: the `scene_id` of a list of messages. -/
def sceneIdInvalid : UInt16 := 0

/-- The union of `par_execution_scene_t`: five entries of `control_infor_t`, 17 bytes
each, or five of `scene_infor_t`, four bytes each. -/
abbrev SceneArea : Type := Buf 85

/-- `par_execution_scene_t` -/
structure ParExecutionScene where
  btnEvent : UInt8
  sceneId : UInt16
  area : SceneArea
  transTime : UInt8

/-- `msg_type_setup_execution_scene_enum` -/
def msgAdd : UInt8 := 0
def msgDelete : UInt8 := 1
def msgDeleteAll : UInt8 := 2
def msgGet : UInt8 := 3

/-- `EX_STATUS_SUCCESS`, `EX_STATUS_FAIL`, `EX_STATUS_NOT_SET_BEFORE` -/
def exStatusSuccess : UInt8 := 0
def exStatusFail : UInt8 := 1
def exStatusNotSetBefore : UInt8 := 2

/-- `BTN_KEY_HOLD_UP`, `BTN_KEY_HOLD_DOWN`, `BTN_KEY_HOLD_UP_DOWN` -/
def btnKeyHoldUp : UInt8 := 8
def btnKeyHoldDown : UInt8 := 9
def btnKeyHoldUpDown : UInt8 := 10

/-- `control_direction_t` -/
inductive ControlDirection where
  | up
  | down
  | upSmooth
  | downSmooth
  | stop
  | upDownSmooth
  | upSmoothLimit
  | downSmoothLimit
  deriving DecidableEq, Repr

def ControlDirection.code : ControlDirection → UInt8
  | .up => 0
  | .down => 1
  | .upSmooth => 2
  | .downSmooth => 3
  | .stop => 4
  | .upDownSmooth => 5
  | .upSmoothLimit => 6
  | .downSmoothLimit => 7

/-- `B_START_PRESS`, `B_HOLD_500MS`, `B_RELEASE` -/
inductive DimmingButton where
  | startPress
  | hold500MS
  | release
  deriving DecidableEq

/-- `VD_DIMMING_CONTROL_SET` -/
def vdDimmingControlSet : UInt16 := 0xDD

/-- The table, the flash, and the direction the next up-down hold of a message takes
(`dim_direc_arr`). -/
structure Scenes (b : Board) where
  table : b.Btn → Fin 8 → ParExecutionScene
  flash : Mem
  dimDirecArr : b.Btn → Fin 5 → Bool

/-! ## Events -/

/-- `get_key_event_index`: the slot of an event. -/
def getKeyEventIndex (evt : UInt8) : Option (Fin 8) :=
  if evt = 0 then some 0
  else if evt = 1 then some 1
  else if evt = 4 then some 2
  else if evt = 5 then some 3
  else if evt = 6 then some 4
  else if evt = 8 then some 5
  else if evt = 9 then some 6
  else if evt = 10 then some 7
  else none

/-- `is_dimming_event` -/
def isDimmingEvent (evt : UInt8) : Bool :=
  evt = btnKeyHoldUp ∨ evt = btnKeyHoldDown ∨ evt = btnKeyHoldUpDown

/-- `check_valid_event_and_key_number`: the slot of a button and an event. -/
def slotOf (b : Board) (keyNumber keyEv : UInt8) : Option (b.Btn × Fin 8) :=
  if h : keyNumber.toNat < b.numberButton then
    (getKeyEventIndex keyEv).map fun e => (⟨keyNumber.toNat, h⟩, e)
  else none

/-! ## Memory layout -/

namespace ParExecutionScene

/-- A slot of `0xFF` bytes. -/
def cleared : ParExecutionScene := ⟨0xFF, 0xFFFF, fun _ => 0xFF, 0xFF⟩

def toBytes (p : ParExecutionScene) : List UInt8 :=
  p.btnEvent :: u16Bytes p.sceneId ++ (p.area.read 0 85 ++ [p.transTime])

def ofBytes (bs : List UInt8) : ParExecutionScene where
  btnEvent := bs.getD 0 0
  sceneId := ofU16Bytes (bs.getD 1 0) (bs.getD 2 0)
  area := Buf.ofBytes (bs.drop 3)
  transTime := bs.getD 88 0

/-- `control_infor[i].dest_addr` -/
def destAddr (p : ParExecutionScene) (i : Nat) : UInt16 :=
  ofU16Bytes (p.area.get (17 * i)) (p.area.get (17 * i + 1))

/-- `control_infor[i].payload_len` -/
def payloadLen (p : ParExecutionScene) (i : Nat) : UInt8 := p.area.get (17 * i + 2)

/-- `scene_control[i].in_scene_id` -/
def inSceneId (p : ParExecutionScene) (i : Nat) : UInt16 :=
  ofU16Bytes (p.area.get (4 * i)) (p.area.get (4 * i + 1))

end ParExecutionScene

/-- The bytes of the table. -/
def tableBytes {b : Board} (t : b.Btn → Fin 8 → ParExecutionScene) : List UInt8 :=
  encodeRecords (encodeRecords ParExecutionScene.toBytes) t

/-- The table in the bytes. -/
def tableOfBytes {b : Board} (bs : List UInt8) : b.Btn → Fin 8 → ParExecutionScene :=
  decodeRecords 712 (decodeRecords 89 ParExecutionScene.ofBytes) bs

/-- `FLASH_ADR_EXECUTION_SCENE` -/
def flashAdrExecutionScene : Nat := 0x7B000

/-! ## Setup messages -/

/-- `len` bytes of a message from position `off` on. -/
def bytesAt (par : Nat → UInt8) (off len : Nat) : List UInt8 :=
  (List.range len).map fun j => par (off + j)

/-- A message that is `bs`. -/
def received (bs : List UInt8) (i : Nat) : UInt8 := bs.getD i 0

/-- A message: the type, the event and the button in its first two bytes. -/
def msgType (par : Nat → UInt8) : UInt8 := par 0 &&& 7
def keyEvent (par : Nat → UInt8) : UInt8 := par 1 &&& 0x0F
def keyNbr (par : Nat → UInt8) : UInt8 := par 1 >>> 4

/-- The first byte of an answer: the message's id with the answer's type. -/
def rspTypeAndId (par : Nat → UInt8) (type : UInt8) : UInt8 := (par 0 &&& 0xF8) ||| type

/-- `payload_len`, clamped. -/
def clampLen (len : UInt8) : Nat := min len.toNat maxPayloadLen

/-- The body of the loop over the destinations of a message list: the area, and the
cursor `index`. -/
def addDest (par : Nat → UInt8) (st : SceneArea × Nat) (i : Nat) : SceneArea × Nat :=
  let (a, index) := st
  let payloadLen := clampLen (par (index + 3))
  let a := a.write (17 * i) [par (index + 1), par (index + 2)]
  let a := a.write (17 * i + 3) (bytesAt par (index + 4) payloadLen)
  (a.write (17 * i + 2) [UInt8.ofNat payloadLen], index + 3 + payloadLen)

/-- The body of the loop over the scenes of a scene list. -/
def addScene (par : Nat → UInt8) (st : SceneArea × Nat) (i : Nat) : SceneArea × Nat :=
  let (a, index) := st
  (a.write (4 * i) (bytesAt par (index + 1) 4), index + 4)

/-- The answer to a setup message; `overrun` is an answer that runs over the end of
`rsp[84]`. -/
inductive SceneRsp where
  | sent (bytes : List UInt8)
  | nothing
  | overrun
  deriving DecidableEq

namespace Scenes

variable {b : Board}

/-- Change one slot. -/
def updSlot (s : Scenes b) (k : b.Btn) (e : Fin 8)
    (f : ParExecutionScene → ParExecutionScene) : Scenes b :=
  { s with table := Function.update s.table k (Function.update (s.table k) e (f (s.table k e))) }

/-- `save_execution_scene_to_flash` -/
def save (s : Scenes b) : Scenes b :=
  { s with
    flash := applyPrims [.eraseSector flashAdrExecutionScene,
      .writePage flashAdrExecutionScene (tableBytes s.table)] s.flash }

/-- `restore_execution_scene` -/
def restore (s : Scenes b) : Scenes b :=
  { s with table := tableOfBytes (read flashAdrExecutionScene (712 * b.numberButton) s.flash) }

/-- `delete_execution_scene` -/
def deleteExecutionScene (s : Scenes b) (k : b.Btn) (e : Fin 8) : Scenes b :=
  (s.updSlot k e fun _ => .cleared).save

/-- `delete_all_execution_scene` -/
def deleteAllExecutionScene (s : Scenes b) : Scenes b :=
  save { s with table := fun _ _ => .cleared }

/-- The part of MSG_ADD that fills the slot, and whether it succeeds. -/
def addSlot (s : Scenes b) (k : b.Btn) (e : Fin 8) (par : Nat → UInt8) : Scenes b × Bool :=
  let sceneId := ofU16Bytes (par 2) (par 3)
  let n := (par 4).toNat
  -- a list of messages
  if sceneId = sceneIdInvalid then
    if n > maxSceneDestAdr then (s.updSlot k e fun p => { p with transTime := par 5 }, false)
    else
      let (area, index) := runFrom (addDest par) (fun _ => 0xFF, 4) (List.range' 0 n)
      (s.updSlot k e fun _ => ⟨keyEvent par, sceneId, area, par (index + 1)⟩, true)
  -- a single scene
  else if sceneId ≠ lmSceneInInvalid then
    ((s.deleteExecutionScene k e).updSlot k e fun p =>
      { p with btnEvent := keyEvent par, sceneId := sceneId, transTime := par 5 }, true)
  -- a list of scenes; a number out of range leaves `err` alone
  else if n ≠ 0 ∧ n ≤ maxSceneDestAdr then
    let s := s.deleteExecutionScene k e
    let (area, index) := runFrom (addScene par) ((s.table k e).area, 4) (List.range' 0 n)
    (s.updSlot k e fun _ => ⟨keyEvent par, sceneId, area, par (index + 1)⟩, true)
  else (s.updSlot k e fun p => { p with transTime := par 5 }, true)

/-- A dimming event clears the other dimming events of its button. -/
def clearOtherDimming (s : Scenes b) (k : b.Btn) (evt : UInt8) : Scenes b :=
  runFrom (fun s d =>
    if d ≠ evt then
      match getKeyEventIndex d with
      | some e => s.updSlot k e fun _ => .cleared
      | none => s
    else s) s [btnKeyHoldUp, btnKeyHoldDown, btnKeyHoldUpDown]

/-- MSG_ADD -/
def add (s : Scenes b) (par : Nat → UInt8) : Scenes b × SceneRsp :=
  let rsp (status : UInt8) : SceneRsp :=
    .sent [rspTypeAndId par msgAdd, status, par 1, par 2, par 3]
  match slotOf b (keyNbr par) (keyEvent par) with
  | none => (s, rsp exStatusFail)
  | some (k, e) =>
    let (s, ok) := s.addSlot k e par
    let s := if isDimmingEvent (keyEvent par) then s.clearOtherDimming k (keyEvent par) else s
    (s.save, rsp (if ok then exStatusSuccess else exStatusFail))

/-- MSG_DELETE -/
def delete (s : Scenes b) (par : Nat → UInt8) : Scenes b × SceneRsp :=
  let rsp (status : UInt8) : SceneRsp := .sent [rspTypeAndId par msgDelete, status, par 1]
  match slotOf b (keyNbr par) (keyEvent par) with
  | none => (s, rsp exStatusFail)
  | some (k, e) => (s.deleteExecutionScene k e, rsp exStatusSuccess)

/-- The entries that MSG_GET finds in a slot: their number, and their bytes. -/
def entries (p : ParExecutionScene) : Nat × List UInt8 :=
  -- a single scene is read as a list of messages, of which it has none
  if p.sceneId ≠ lmSceneInInvalid then
    let n := (List.range maxSceneDestAdr).countP fun i => (p.payloadLen i).toNat ≤ maxPayloadLen
    (n, (List.range' 0 n).flatMap fun i =>
      p.area.read (17 * i) 3 ++ p.area.read (17 * i + 3) (p.payloadLen i).toNat)
  else
    let n := (List.range maxSceneDestAdr).countP fun i => p.inSceneId i ≠ lmSceneInInvalid
    (n, (List.range' 0 n).flatMap fun i => p.area.read (4 * i) 4)

/-- MSG_GET -/
def get (s : Scenes b) (par : Nat → UInt8) : SceneRsp :=
  match slotOf b (keyNbr par) (keyEvent par) with
  | none => .sent [rspTypeAndId par msgGet, exStatusFail, par 1]
  | some (k, e) =>
    let p := s.table k e
    if p.btnEvent = 0xFF then .sent [rspTypeAndId par msgGet, exStatusNotSetBefore, par 1]
    else
      let (n, bytes) := entries p
      let rsp := [rspTypeAndId par msgGet, exStatusSuccess, par 1] ++ u16Bytes p.sceneId ++
        UInt8.ofNat n :: bytes ++ [p.transTime]
      if rsp.length ≤ 84 then .sent rsp else .overrun

/-- `handle_vendor_setup_execution_scene_set` -/
def handle (s : Scenes b) (par : Nat → UInt8) : Scenes b × SceneRsp :=
  if msgType par = msgAdd then s.add par
  else if msgType par = msgDelete then s.delete par
  else if msgType par = msgGet then (s, s.get par)
  else if msgType par = msgDeleteAll then
    (s.deleteAllExecutionScene, .sent [rspTypeAndId par msgDeleteAll, exStatusSuccess])
  else (s, .nothing)

/-! ## Dimming -/

/-- `execution_event_is_available` -/
def executionEventIsAvailable (s : Scenes b) (k : b.Btn) (evt : UInt8) : Bool :=
  ∃ e, (s.table k e).btnEvent = evt

/-- `execution_dimming_is_exist`: the dimming event of a button. -/
def executionDimmingIsExist (s : Scenes b) (k : b.Btn) : Option UInt8 :=
  if s.executionEventIsAvailable k btnKeyHoldUp then some btnKeyHoldUp
  else if s.executionEventIsAvailable k btnKeyHoldDown then some btnKeyHoldDown
  else if s.executionEventIsAvailable k btnKeyHoldUpDown then some btnKeyHoldUpDown
  else none

/-- The direction that `execution_dimming_control` sends, for a dimming direction and
the direction of the next up-down hold (`true` for `UD_UP`). -/
def dimmingDirection (dir : ControlDirection) (udUp : Bool) :
    DimmingButton → Option ControlDirection
  | .startPress =>
    if dir = .up ∨ dir = .upSmooth then some .up
    else if dir = .down ∨ dir = .downSmooth then some .down
    else none
  | .hold500MS =>
    if dir = .up ∨ dir = .upSmooth then some .upSmooth
    else if dir = .down ∨ dir = .downSmooth then some .downSmooth
    else if dir = .upDownSmooth then some (if udUp then .upSmooth else .downSmooth)
    else none
  | .release =>
    if dir = .up ∨ dir = .upSmooth ∨ dir = .down ∨ dir = .downSmooth ∨ dir = .upDownSmooth then
      some .stop
    else none

/-- `execution_dimming_control`: entry `i` of slot `p` sends its dimming message, with
the direction put into its `vd_up_down_control_t`. -/
def executionDimmingControl (adr : UInt16) (k : b.Btn) (p : ParExecutionScene)
    (dir : ControlDirection) (st : DimmingButton) (r : Scenes b × List NetOut) (i : Fin 5) :
    Scenes b × List NetOut :=
  let (s, out) := r
  match dimmingDirection dir (s.dimDirecArr k i) st with
  | none => (s, out)
  | some d =>
    let s :=
      if st = .hold500MS ∧ dir = .upDownSmooth then
        { s with
          dimDirecArr := Function.update s.dimDirecArr k
            (Function.update (s.dimDirecArr k) i (!s.dimDirecArr k i)) }
      else s
    let led := if st = .hold500MS then [NetOut.led (1 <<< k.val) (if d = .downSmooth then 2 else 1)]
      else []
    let msg := p.area.read (17 * i + 6) 2 ++ d.code :: p.area.read (17 * i + 9) 3
    (s, out ++ led ++ [.cmd vdDimmingControlSet msg adr (p.destAddr i)])

/-- The body of the loop of `execution_dimming_control_by_key_number`. -/
def dimmingEntry (adr : UInt16) (k : b.Btn) (p : ParExecutionScene) (dir : ControlDirection)
    (st : DimmingButton) (r : Scenes b × List NetOut) (i : Fin 5) : Scenes b × List NetOut :=
  if p.destAddr i ≠ adrUnassigned ∧ p.area.get (17 * i + 3) = vdDimmingControlSet.toUInt8 then
    executionDimmingControl adr k p dir st r i
  else r

/-- `execution_dimming_control_by_key_number` -/
def executionDimmingControlByKeyNumber (s : Scenes b) (adr : UInt16) (k : b.Btn) (evt : UInt8)
    (st : DimmingButton) : Scenes b × List NetOut :=
  let run (dir : ControlDirection) : Scenes b × List NetOut :=
    match getKeyEventIndex evt with
    | some e => runFrom (dimmingEntry adr k (s.table k e) dir st) (s, []) (List.finRange 5)
    | none => (s, [])
  if evt = btnKeyHoldUp then run .upSmooth
  else if evt = btnKeyHoldDown then run .downSmooth
  else if evt = btnKeyHoldUpDown then run .upDownSmooth
  else (s, [])

/-- A new device: nothing in the table, nor in the flash. -/
def erased (b : Board) : Scenes b where
  table := fun _ _ => .cleared
  flash := fun _ => erasedByte
  dimDirecArr := fun _ _ => true

end Scenes

end LumesSwitch
