import LumesSwitch.Binding.Store

/-!
# Binding messages by address (`sw_binding.c`, `utilities.c`)

A binding message names its element by a mesh address. The difference to the primary address is
an `int`; the type of the element is asked for in a byte, and the range is checked from above.

- `AdrBindings.bindingHandleNwMessage` — the messages, with the indexes that are used;
- `AdrBindings.keepsTo_iff` — which addresses stay in the arrays;
- `AdrBindings.setup_refines`, `AdrBindings.get_refines` — for an element of the device the
  messages are those of the store.
-/

namespace LumesSwitch

open Bufs Nor Runs Words

/-! ## Addresses -/

/-- `ElementSupportType_Enum` -/
inductive ElementSupportType where
  | eleNotSupport
  | eleSupportScene
  | eleSupportRelay
  deriving DecidableEq

/-- `get_ele_support_type` -/
def getEleSupportType (b : Board) (idx : UInt8) : ElementSupportType :=
  if idx.toNat < Board.numberScene then .eleSupportScene
  else if Board.eleRelayOffset ≤ idx.toNat ∧ idx.toNat < Board.eleRelayOffset + b.numberRl then
    .eleSupportRelay
  else .eleNotSupport

/-- `ele_adr - ele_adr_primary` -/
def modelIdxOf (primary eleAdr : UInt16) : Int := eleAdr.toNat - primary.toNat

/-- An `int` taken as a `u8`. -/
def intToU8 (i : Int) : UInt8 := UInt8.ofNat (i % 256).toNat

/-- An access to `binding_para_st[i]`, or to `onoff_srv[i]`. -/
inductive BindingAccess where
  | bindingParaSt (i : Int)
  | onoffSrv (i : Int)
  deriving DecidableEq

def BindingAccess.index : BindingAccess → Int
  | .bindingParaSt i | .onoffSrv i => i

/-- `cfg_binding_format_t`, or `get_binding_format_t`. -/
inductive BindingMsg where
  | set (eleAdr : UInt16) (en : UInt8) (groupAdr : UInt16)
  | get (eleAdr : UInt16)

def BindingMsg.eleAdr : BindingMsg → UInt16
  | .set eleAdr _ _ | .get eleAdr => eleAdr

/-- What the module sends: `send_led_evt_to_mcu` for one bit, or `binding_msg_response_t`. -/
inductive AdrBindingOut where
  | led (enable : Bool) (bit : Int)
  | response (st : BindingStatus) (eleAdr : UInt16) (en : UInt8) (groupAdr : UInt16)
  deriving DecidableEq

/-- The module with its memory: `cells i` is what lies at `binding_para_st[i]`, inside the table
or outside. -/
structure AdrBindings (b : Board) where
  cells : Int → StoredBinding
  log : LogState
  out : List AdrBindingOut
  accesses : List BindingAccess

namespace AdrBindings

variable {b : Board}

/-- `binding_para_st` -/
def table (s : AdrBindings b) (m : b.Btn) : StoredBinding := s.cells m.val

/-- The LED commands that have been sent. -/
def leds (s : AdrBindings b) : List AdrBindingOut :=
  s.out.filter fun o => match o with
    | .led _ _ => true
    | .response _ _ _ _ => false

def send (s : AdrBindings b) (o : AdrBindingOut) : AdrBindings b := { s with out := s.out ++ [o] }

def touch (s : AdrBindings b) (a : BindingAccess) : AdrBindings b :=
  { s with accesses := s.accesses ++ [a] }

/-- `binding_para_st[i] = p` -/
def setCell (s : AdrBindings b) (i : Int) (p : StoredBinding) : AdrBindings b :=
  { s.touch (.bindingParaSt i) with cells := Function.update s.cells i p }

/-- `store_binding_para` -/
def storeBindingPara (s : AdrBindings b) : AdrBindings b :=
  { s with log := (bindingLog b).put s.log (encodeRecords StoredBinding.toBytes s.table) }

/-- `binding_enable` -/
def bindingEnable (s : AdrBindings b) (subList : Int → List UInt16) (modelIdx : Int)
    (groupAdr : UInt16) : AdrBindings b × BindingStatus :=
  if modelIdx < b.numberButton then
    let s := s.touch (.onoffSrv modelIdx)
    if Bindings.validGroup (subList modelIdx) groupAdr then
      ((s.setCell modelIdx ⟨1, groupAdr⟩).storeBindingPara, .bindingSuccess)
    else (s, .groupNotSet)
  else (s, .modelIdxInvalid)

/-- `binding_disable` -/
def bindingDisable (s : AdrBindings b) (modelIdx : Int) : AdrBindings b :=
  (s.setCell modelIdx { s.cells modelIdx with en := 0 }).storeBindingPara

/-- The answer to a message, read out of the table. -/
def respond (s : AdrBindings b) (st : BindingStatus) (eleAdr : UInt16) (modelIdx : Int)
    (en : UInt8) : AdrBindings b :=
  (s.touch (.bindingParaSt modelIdx)).send
    (.response st eleAdr en (s.cells modelIdx).groupDst)

/-- `binding_handle_setup_message` -/
def bindingHandleSetupMessage (s : AdrBindings b) (primary : UInt16) (subList : Int → List UInt16)
    (eleAdr : UInt16) (en : UInt8) (groupAdr : UInt16) : AdrBindings b :=
  let modelIdx := modelIdxOf primary eleAdr
  if getEleSupportType b (intToU8 modelIdx) ≠ .eleSupportRelay then s
  else if modelIdx < b.numberButton then
    let (s, st) :=
      if en = 1 then
        let (s, st) := s.bindingEnable subList modelIdx groupAdr
        (s.send (.led (st = .bindingSuccess) (modelIdx - Board.eleRelayOffset)), st)
      else if en = 0 then
        ((s.bindingDisable modelIdx).send (.led false (modelIdx - Board.eleRelayOffset)),
          .bindingDisable)
      else (s, .bindingErrUnknown)
    s.respond st eleAdr modelIdx (s.cells modelIdx).en
  else s

/-- `get_group_binding_adr`: the group, and the accesses. -/
def getGroupBindingAdr (s : AdrBindings b) (subList : Int → List UInt16) (idx : Int) :
    AdrBindings b × UInt16 :=
  let s := s.touch (.bindingParaSt idx)
  if (s.cells idx).en = 1 then
    let s := s.touch (.onoffSrv idx)
    if Bindings.validGroup (subList idx) (s.cells idx).groupDst then (s, (s.cells idx).groupDst)
    else (s, adrUnassigned)
  else (s, adrUnassigned)

/-- `binding_handle_get_message` -/
def bindingHandleGetMessage (s : AdrBindings b) (primary : UInt16) (subList : Int → List UInt16)
    (eleAdr : UInt16) : AdrBindings b :=
  let modelIdx := modelIdxOf primary eleAdr
  if modelIdx < b.numberButton then
    let s := s.touch (.bindingParaSt modelIdx)
    let (s, en) :=
      if (s.cells modelIdx).en = 1 then
        let (s, adr) := s.getGroupBindingAdr subList modelIdx
        (s, if adr = adrUnassigned then 0 else 1)
      else (s, 0)
    s.respond .bindingSuccess eleAdr modelIdx en
  else s

/-- `binding_handle_nw_message` -/
def bindingHandleNwMessage (s : AdrBindings b) (primary : UInt16) (subList : Int → List UInt16) :
    BindingMsg → AdrBindings b
  | .set eleAdr en groupAdr => s.bindingHandleSetupMessage primary subList eleAdr en groupAdr
  | .get eleAdr => s.bindingHandleGetMessage primary subList eleAdr

/-- Before a message no access has been made for it. -/
def fresh (s : AdrBindings b) : AdrBindings b := { s with accesses := [] }

/-! ## The law -/

/-- An index of the device's elements, and of its relay elements. -/
def IsElement (b : Board) (i : Int) : Prop := 0 ≤ i ∧ i < b.numberButton
def IsRelayElement (b : Board) (i : Int) : Prop := Board.eleRelayOffset ≤ i ∧ i < b.numberButton

/-- What a message for index `i` may do, which is handled in `s` and leaves `s'`. -/
structure KeepsTo (s s' : AdrBindings b) (i : Int) : Prop where
  inRange : ∀ a ∈ s'.accesses, IsElement b a.index
  foreign : ¬ IsRelayElement b i → s'.table = s.table ∧ s'.log = s.log ∧ s'.leds = s.leds
  outside : ¬ IsElement b i → s'.out = s.out

/-- The address lies below the primary address; for a set message, so that the difference is a
relay element when it is taken as a byte. -/
def Slips (b : Board) (primary : UInt16) : BindingMsg → Prop
  | .set eleAdr _ _ => eleAdr < primary ∧
      getEleSupportType b (intToU8 (modelIdxOf primary eleAdr)) = .eleSupportRelay
  | .get eleAdr => eleAdr < primary

/-! ## Indexes -/

theorem modelIdxOf_neg_iff (primary eleAdr : UInt16) :
    modelIdxOf primary eleAdr < 0 ↔ eleAdr < primary := by
  rw [UInt16.lt_iff_toNat_lt, modelIdxOf]
  omega

theorem intToU8_toNat (i : Int) : ((intToU8 i).toNat : Int) = i % 256 := by
  rw [intToU8, UInt8.toNat_ofNat']
  omega

/-- The type of an element is that of its index in a byte. -/
theorem relay_type_iff (i : Int) : getEleSupportType b (intToU8 i) = .eleSupportRelay ↔
    2 ≤ i % 256 ∧ i % 256 < b.numberButton := by
  have hval := intToU8_toNat i
  have hbtn : b.numberButton = b.numberRl + 2 := rfl
  rw [getEleSupportType, Board.numberScene, Board.eleRelayOffset]
  split
  · refine iff_of_false (by decide) ?_
    omega
  · split
    · refine iff_of_true rfl ?_
      omega
    · refine iff_of_false (by decide) ?_
      omega

/-- An index of the arrays has the type of its element. -/
theorem relay_type_of_isElement {i : Int} (h : IsElement b i) :
    getEleSupportType b (intToU8 i) = .eleSupportRelay ↔ IsRelayElement b i := by
  have hthree := b.le_three
  have hbtn : b.numberButton = b.numberRl + 2 := rfl
  obtain ⟨hlo, hhi⟩ := h
  rw [relay_type_iff, IsRelayElement, Board.eleRelayOffset]
  omega

theorem isElement_iff {i : Int} (h : i < b.numberButton) : IsElement b i ↔ ¬ i < 0 := by
  rw [IsElement]
  omega

/-! ## Accesses -/

/-- All accesses have been at index `i`. -/
def OnlyAt (s : AdrBindings b) (i : Int) : Prop := ∀ a ∈ s.accesses, a.index = i

theorem onlyAt_of_nil {s : AdrBindings b} (hs : s.accesses = []) (i : Int) : s.OnlyAt i := by
  rw [OnlyAt, hs]
  exact List.forall_mem_nil _

theorem OnlyAt.touch {s : AdrBindings b} {i : Int} (h : s.OnlyAt i) {a : BindingAccess}
    (ha : a.index = i) : (s.touch a).OnlyAt i :=
  List.forall_mem_append.mpr ⟨h, List.forall_mem_singleton.mpr ha⟩

theorem OnlyAt.congr {s s' : AdrBindings b} {i : Int} (h : s.OnlyAt i)
    (hacc : s'.accesses = s.accesses) : s'.OnlyAt i := by
  rw [OnlyAt, hacc]
  exact h

theorem OnlyAt.bindingEnable {s : AdrBindings b} {i : Int} (h : s.OnlyAt i)
    (subList : Int → List UInt16) (groupAdr : UInt16) :
    (s.bindingEnable subList i groupAdr).1.OnlyAt i := by
  have hsrv : (s.touch (.onoffSrv i)).OnlyAt i := h.touch rfl
  unfold AdrBindings.bindingEnable
  dsimp only
  split
  · split
    · exact (hsrv.touch (a := .bindingParaSt i) rfl).congr rfl
    · exact hsrv
  · exact h

/-- An answer is read at its index, behind the accesses before it. -/
theorem OnlyAt.respond {s : AdrBindings b} {i : Int} (h : s.OnlyAt i) (st : BindingStatus)
    (eleAdr : UInt16) (en : UInt8) :
    (s.respond st eleAdr i en).OnlyAt i ∧
      .bindingParaSt i ∈ (s.respond st eleAdr i en).accesses :=
  ⟨(h.touch (a := .bindingParaSt i) rfl).congr rfl,
    List.mem_append_right _ (List.mem_singleton_self _)⟩

theorem setup_accesses {s : AdrBindings b} {primary eleAdr groupAdr : UInt16} {en : UInt8}
    (subList : Int → List UInt16) (h : s.OnlyAt (modelIdxOf primary eleAdr))
    (htype : getEleSupportType b (intToU8 (modelIdxOf primary eleAdr)) = .eleSupportRelay)
    (hlt : modelIdxOf primary eleAdr < b.numberButton) :
    (s.bindingHandleSetupMessage primary subList eleAdr en groupAdr).OnlyAt
        (modelIdxOf primary eleAdr) ∧
      .bindingParaSt (modelIdxOf primary eleAdr) ∈
        (s.bindingHandleSetupMessage primary subList eleAdr en groupAdr).accesses := by
  rw [bindingHandleSetupMessage]
  dsimp only
  rw [if_neg (not_not.mpr htype), if_pos hlt]
  refine OnlyAt.respond ?_ _ _ _
  split
  · exact (h.bindingEnable subList groupAdr).congr rfl
  · split
    · exact (h.touch (a := .bindingParaSt _) rfl).congr rfl
    · exact h

theorem get_accesses {s : AdrBindings b} {primary eleAdr : UInt16} (subList : Int → List UInt16)
    (h : s.OnlyAt (modelIdxOf primary eleAdr))
    (hlt : modelIdxOf primary eleAdr < b.numberButton) :
    (s.bindingHandleGetMessage primary subList eleAdr).OnlyAt (modelIdxOf primary eleAdr) ∧
      .bindingParaSt (modelIdxOf primary eleAdr) ∈
        (s.bindingHandleGetMessage primary subList eleAdr).accesses := by
  have hpara := h.touch (a := .bindingParaSt (modelIdxOf primary eleAdr)) rfl
  have hagain := hpara.touch (a := .bindingParaSt (modelIdxOf primary eleAdr)) rfl
  have hsrv := hagain.touch (a := .onoffSrv (modelIdxOf primary eleAdr)) rfl
  rw [bindingHandleGetMessage]
  dsimp only
  rw [if_pos hlt]
  refine OnlyAt.respond ?_ _ _ _
  split
  · unfold getGroupBindingAdr
    dsimp only
    split
    · split
      · exact hsrv
      · exact hsrv
    · exact hagain
  · exact hpara

/-- A message that is handled at all accesses the arrays at its index, and there only. -/
theorem inRange_iff_of_handled {s' : AdrBindings b} {i : Int} (hlt : i < b.numberButton)
    (h : s'.OnlyAt i ∧ .bindingParaSt i ∈ s'.accesses) :
    (∀ a ∈ s'.accesses, IsElement b a.index) ↔ ¬ i < 0 := by
  rw [← isElement_iff hlt]
  constructor
  · intro hin
    exact hin _ h.2
  · intro hi a ha
    rw [h.1 a ha]
    exact hi

/-! ## The messages -/

theorem keepsTo_refl {s : AdrBindings b} (hs : s.accesses = []) (i : Int) : s.KeepsTo s i :=
  ⟨by rw [hs]; exact List.forall_mem_nil _, fun _ => ⟨rfl, rfl, rfl⟩, fun _ => rfl⟩

theorem keepsTo_setup_iff {s : AdrBindings b} (hs : s.accesses = []) (primary : UInt16)
    (subList : Int → List UInt16) (eleAdr : UInt16) (en : UInt8) (groupAdr : UInt16) :
    s.KeepsTo (s.bindingHandleSetupMessage primary subList eleAdr en groupAdr)
        (modelIdxOf primary eleAdr) ↔ ¬ Slips b primary (.set eleAdr en groupAdr) := by
  have hnil : s.OnlyAt (modelIdxOf primary eleAdr) := onlyAt_of_nil hs _
  rw [Slips, ← modelIdxOf_neg_iff]
  by_cases htype : getEleSupportType b (intToU8 (modelIdxOf primary eleAdr)) = .eleSupportRelay
  · by_cases hlt : modelIdxOf primary eleAdr < b.numberButton
    · have hacc : (s.bindingHandleSetupMessage primary subList eleAdr en groupAdr).OnlyAt _ ∧ _ :=
        setup_accesses subList hnil htype hlt
      rw [and_iff_left htype, ← inRange_iff_of_handled hlt hacc]
      refine ⟨fun h => h.inRange, fun h => ⟨h, fun hforeign => ?_, fun hout => ?_⟩⟩
      -- in the arrays the index is that of an element, and of a relay by its type
      · have hele := (isElement_iff hlt).mpr ((inRange_iff_of_handled hlt hacc).mp h)
        exact absurd ((relay_type_of_isElement hele).mp htype) hforeign
      · exact absurd ((isElement_iff hlt).mpr ((inRange_iff_of_handled hlt hacc).mp h)) hout
    -- an index above the elements is left alone
    · have hsame : s.bindingHandleSetupMessage primary subList eleAdr en groupAdr = s := by
        rw [bindingHandleSetupMessage]
        dsimp only
        rw [if_neg (not_not.mpr htype), if_neg hlt]
      rw [hsame]
      refine iff_of_true (keepsTo_refl hs _) ?_
      omega
  · have hsame : s.bindingHandleSetupMessage primary subList eleAdr en groupAdr = s :=
      -- so is one whose byte has the type of a button
      if_pos htype
    rw [hsame]
    exact iff_of_true (keepsTo_refl hs _) fun h => htype h.2

/-- A get message changes neither the table nor the flash, and sends no LED command. -/
theorem get_changes_nothing (s : AdrBindings b) (primary : UInt16) (subList : Int → List UInt16)
    (eleAdr : UInt16) :
    (s.bindingHandleGetMessage primary subList eleAdr).table = s.table ∧
      (s.bindingHandleGetMessage primary subList eleAdr).log = s.log ∧
      (s.bindingHandleGetMessage primary subList eleAdr).leds = s.leds := by
  have hrespond : ∀ (s' : AdrBindings b) (i : Int) (en : UInt8),
      s'.table = s.table ∧ s'.log = s.log ∧ s'.leds = s.leds →
        (s'.respond .bindingSuccess eleAdr i en).table = s.table ∧
        (s'.respond .bindingSuccess eleAdr i en).log = s.log ∧
        (s'.respond .bindingSuccess eleAdr i en).leds = s.leds := by
    rintro s' i en ⟨htable, hlog, hleds⟩
    refine ⟨htable, hlog, ?_⟩
    rw [← hleds]
    simp [leds, respond, send, touch]
  rw [bindingHandleGetMessage]
  dsimp only
  split
  · refine hrespond _ _ _ ?_
    split
    · unfold getGroupBindingAdr
      dsimp only
      split
      · split
        · exact ⟨rfl, rfl, rfl⟩
        · exact ⟨rfl, rfl, rfl⟩
      · exact ⟨rfl, rfl, rfl⟩
    · exact ⟨rfl, rfl, rfl⟩
  · exact ⟨rfl, rfl, rfl⟩

theorem keepsTo_get_iff {s : AdrBindings b} (hs : s.accesses = []) (primary : UInt16)
    (subList : Int → List UInt16) (eleAdr : UInt16) :
    s.KeepsTo (s.bindingHandleGetMessage primary subList eleAdr) (modelIdxOf primary eleAdr) ↔
      ¬ Slips b primary (.get eleAdr) := by
  have hnil : s.OnlyAt (modelIdxOf primary eleAdr) := onlyAt_of_nil hs _
  rw [Slips, ← modelIdxOf_neg_iff]
  by_cases hlt : modelIdxOf primary eleAdr < b.numberButton
  · have hacc := get_accesses subList hnil hlt
    rw [← inRange_iff_of_handled hlt hacc]
    refine ⟨fun h => h.inRange,
      fun h => ⟨h, fun _ => s.get_changes_nothing primary subList eleAdr, fun hout => ?_⟩⟩
    exact absurd ((isElement_iff hlt).mpr ((inRange_iff_of_handled hlt hacc).mp h)) hout
  · have hsame : s.bindingHandleGetMessage primary subList eleAdr = s := if_neg hlt
    rw [hsame]
    refine iff_of_true (keepsTo_refl hs _) ?_
    omega

/-- **Binding messages by address**: for every primary address, a message stays in the arrays,
changes nothing for an address that is none of a relay element of the device, and answers none
outside the device, if and only if its address does not slip through. -/
theorem keepsTo_iff (s : AdrBindings b) (primary : UInt16) (subList : Int → List UInt16)
    (msg : BindingMsg) :
    s.fresh.KeepsTo (s.fresh.bindingHandleNwMessage primary subList msg)
        (modelIdxOf primary msg.eleAdr) ↔ ¬ Slips b primary msg := by
  cases msg with
  | set eleAdr en groupAdr => exact keepsTo_setup_iff rfl primary subList eleAdr en groupAdr
  | get eleAdr => exact keepsTo_get_iff rfl primary subList eleAdr

/-- A device with two relays and no bindings. -/
def unbound : AdrBindings board2 := ⟨fun _ => .default, ⟨0, fun _ => erasedByte⟩, [], []⟩

/-- With the primary address `0x0100` a set message for `0x0002` disables the binding at index
-254, and stores the table; a get message for `0x0002` is answered from there. -/
theorem not_keepsTo_below :
    ¬ unbound.fresh.KeepsTo
        (unbound.fresh.bindingHandleNwMessage 0x0100 (fun _ => []) (.set 0x0002 0 0))
        (modelIdxOf 0x0100 0x0002) ∧
      ¬ unbound.fresh.KeepsTo
        (unbound.fresh.bindingHandleNwMessage 0x0100 (fun _ => []) (.get 0x0002))
        (modelIdxOf 0x0100 0x0002) := by
  have hset : .bindingParaSt (-254) ∈ (unbound.fresh.bindingHandleNwMessage 0x0100
      (fun _ => []) (.set 0x0002 0 0)).accesses := by decide
  have hget : .bindingParaSt (-254) ∈ (unbound.fresh.bindingHandleNwMessage 0x0100
      (fun _ => []) (.get 0x0002)).accesses := by decide
  exact ⟨fun h => absurd (h.inRange _ hset).1 (by decide),
    fun h => absurd (h.inRange _ hget).1 (by decide)⟩

/-! ## The messages of the store -/

/-- What the module sends, with the address of the element. -/
def ofStore (primary : UInt16) : BindingOut b → AdrBindingOut
  | .led enable i => .led enable i.val
  | .response st ele en groupAdr => .response st (primary + UInt16.ofNat ele.val) en groupAdr

/-- The table is that of the store, and so are its log and what has been sent. -/
structure Refines (primary : UInt16) (s : AdrBindings b) (t : Bindings b) : Prop where
  table : s.table = t.paraSt
  log : s.log = t.log
  out : s.out = t.out.map (ofStore primary)

namespace Refines

variable {primary eleAdr : UInt16} {s : AdrBindings b} {t : Bindings b} {m : b.Btn}

theorem touch (h : Refines primary s t) (a : BindingAccess) : Refines primary (s.touch a) t :=
  ⟨h.table, h.log, h.out⟩

theorem send (h : Refines primary s t) {o : AdrBindingOut} {o' : BindingOut b}
    (ho : o = ofStore primary o') : Refines primary (s.send o) (t.send o') := by
  refine ⟨h.table, h.log, ?_⟩
  show s.out ++ [o] = (t.out ++ [o']).map (ofStore primary)
  rw [List.map_append, h.out, ho]
  rfl

theorem cells (h : Refines primary s t) (m : b.Btn) : s.cells m.val = t.paraSt m :=
  congrFun h.table m

/-- An entry that is written and stored. -/
theorem stored (h : Refines primary s t) (m : b.Btn) (p : StoredBinding) :
    Refines primary (s.setCell m.val p).storeBindingPara (t.entered m p) := by
  have htable : (s.setCell m.val p).table = Function.update t.paraSt m p := by
    funext k
    show Function.update s.cells (m.val : Int) p k.val = _
    by_cases hk : k = m
    · subst hk
      rw [Function.update_self, Function.update_self]
    · have hval : (k.val : Int) ≠ m.val := fun heq => hk (Fin.ext (Int.ofNat_inj.mp heq))
      rw [Function.update_of_ne hk, Function.update_of_ne hval]
      exact h.cells k
  refine ⟨htable, ?_, h.out⟩
  show (bindingLog b).put s.log _ = (bindingLog b).put t.log _
  rw [htable, h.log]

/-- The address of the element with index `m`. -/
theorem eleAdr_eq (hm : modelIdxOf primary eleAdr = m.val) :
    eleAdr = primary + UInt16.ofNat m.val := by
  have hadr := eleAdr.toNat_lt
  have hmlt : m.val < 2 ^ 16 := by
    rw [modelIdxOf] at hm
    omega
  apply UInt16.toNat_inj.mp
  rw [modelIdxOf] at hm
  rw [UInt16.toNat_add, UInt16.toNat_ofNat', Nat.mod_eq_of_lt hmlt]
  omega

theorem respond (h : Refines primary s t) (hm : modelIdxOf primary eleAdr = m.val)
    (st : BindingStatus) {en en' : UInt8} (hen : en = en') :
    Refines primary (s.respond st eleAdr m.val en)
      (t.send (.response st m en' (t.paraSt m).groupDst)) := by
  refine (h.touch _).send ?_
  rw [ofStore, eleAdr_eq hm, hen, h.cells m]

theorem bindingEnable (h : Refines primary s t) (subList : Int → List UInt16) (groupAdr : UInt16) :
    Refines primary (s.bindingEnable subList m.val groupAdr).1
        (t.bindingEnable (subList m.val) m groupAdr).1 ∧
      (s.bindingEnable subList m.val groupAdr).2 =
        (t.bindingEnable (subList m.val) m groupAdr).2 := by
  have hlt : (m.val : Int) < b.numberButton := Int.ofNat_lt.mpr m.isLt
  rw [AdrBindings.bindingEnable, if_pos hlt, Bindings.bindingEnable]
  dsimp only
  split
  · exact ⟨(h.touch _).stored m _, rfl⟩
  · exact ⟨h.touch _, rfl⟩

end Refines

variable {primary eleAdr : UInt16} {s : AdrBindings b} {t : Bindings b} {m : b.Btn}

/-- The channel of an element, if it has the type of one. -/
theorem relay_type_of_relayIdx (m : b.Btn) :
    getEleSupportType b (intToU8 m.val) = .eleSupportRelay ↔
      (Board.relayIdx m : Option b.Chn) ≠ none := by
  have hele : IsElement b m.val := ⟨Int.natCast_nonneg _, Int.ofNat_lt.mpr m.isLt⟩
  have hlt := m.isLt
  rw [relay_type_of_isElement hele, IsRelayElement, Board.relayIdx]
  split
  · refine iff_of_true ?_ (Option.some_ne_none _)
    omega
  · refine iff_of_false ?_ fun hne => hne rfl
    omega

/-- **Refinement**: for an element of the device a set message is that of the store. -/
theorem setup_refines (h : Refines primary s t) (hm : modelIdxOf primary eleAdr = m.val)
    (subList : Int → List UInt16) (en : UInt8) (groupAdr : UInt16) :
    Refines primary (s.bindingHandleSetupMessage primary subList eleAdr en groupAdr)
      (t.bindingHandleSetupMessage (fun k => subList k.val) ⟨m, en, groupAdr⟩) := by
  have htype := relay_type_of_relayIdx m
  rw [bindingHandleSetupMessage, Bindings.bindingHandleSetupMessage]
  dsimp only
  rw [hm]
  cases hidx : (Board.relayIdx m : Option b.Chn) with
  | none =>
    rw [hidx] at htype
    rw [if_pos fun hrelay => htype.mp hrelay rfl]
    exact h
  | some i =>
    rw [hidx] at htype
    have hlt : (m.val : Int) < b.numberButton := Int.ofNat_lt.mpr m.isLt
    rw [if_neg (not_not.mpr (htype.mpr (Option.some_ne_none i))), if_pos hlt]
    have hbit : (m.val : Int) - Board.eleRelayOffset = i.val := by
      rw [Board.relayIdx] at hidx
      split at hidx
      · next hle =>
        rw [← Option.some.inj hidx]
        exact (Int.ofNat_sub hle).symm
      · cases hidx
    dsimp only
    rw [hbit]
    by_cases hen : en = 1
    · rw [if_pos hen, if_pos hen]
      obtain ⟨hrel, hst⟩ := h.bindingEnable (m := m) subList groupAdr
      rw [hst]
      have hled := hrel.send (show AdrBindingOut.led (decide
        ((t.bindingEnable (subList m.val) m groupAdr).2 = .bindingSuccess)) i.val =
          ofStore primary (.led _ i) from rfl)
      exact hled.respond hm _ (congrArg StoredBinding.en (hled.cells m))
    · rw [if_neg hen, if_neg hen]
      by_cases hdis : en = 0
      · rw [if_pos hdis, if_pos hdis]
        have hrel := h.stored m { s.cells m.val with en := 0 }
        rw [h.cells m] at hrel
        have hled := hrel.send
          (show AdrBindingOut.led false i.val = ofStore primary (.led false i) from rfl)
        rw [AdrBindings.bindingDisable, h.cells m]
        exact hled.respond hm _ (congrArg StoredBinding.en (hled.cells m))
      · rw [if_neg hdis, if_neg hdis]
        exact h.respond hm _ (congrArg StoredBinding.en (h.cells m))

/-- The group of an element is the one of the store. -/
theorem getGroupBindingAdr_refines (h : Refines primary s t) (subList : Int → List UInt16) :
    Refines primary (s.getGroupBindingAdr subList m.val).1 t ∧
      (s.getGroupBindingAdr subList m.val).2 =
        t.getGroupBindingAdr (fun k => subList k.val) m := by
  have hcell : ∀ a, (s.touch a).cells m.val = t.paraSt m := fun _ => h.cells m
  have htwo : ∀ a a', ((s.touch a).touch a').cells m.val = t.paraSt m := fun _ _ => h.cells m
  rw [AdrBindings.getGroupBindingAdr, Bindings.getGroupBindingAdr]
  dsimp only
  rw [hcell, htwo]
  by_cases hen : (t.paraSt m).en = 1
  · rw [if_pos hen]
    by_cases hgroup : Bindings.validGroup (subList m.val) (t.paraSt m).groupDst = true
    · rw [if_pos hgroup, if_pos ⟨hen, hgroup⟩]
      exact ⟨(h.touch _).touch _, rfl⟩
    · rw [if_neg hgroup, if_neg fun h' => hgroup h'.2]
      exact ⟨(h.touch _).touch _, rfl⟩
  · rw [if_neg hen, if_neg fun h' => hen h'.1]
    exact ⟨h.touch _, rfl⟩

/-- **Refinement**: so is a get message. -/
theorem get_refines (h : Refines primary s t) (hm : modelIdxOf primary eleAdr = m.val)
    (subList : Int → List UInt16) :
    Refines primary (s.bindingHandleGetMessage primary subList eleAdr)
      (t.bindingHandleGetMessage (fun k => subList k.val) m) := by
  have hlt : (m.val : Int) < b.numberButton := Int.ofNat_lt.mpr m.isLt
  have hread : Refines primary (s.touch (.bindingParaSt m.val)) t := h.touch _
  rw [bindingHandleGetMessage, Bindings.bindingHandleGetMessage]
  dsimp only
  rw [hm, if_pos hlt, hread.cells m]
  by_cases hen : (t.paraSt m).en = 1
  · obtain ⟨hrel, hadr⟩ := getGroupBindingAdr_refines hread (m := m) subList
    rw [if_pos hen, hadr]
    refine hrel.respond hm _ ?_
    by_cases hgroup : t.getGroupBindingAdr (fun k => subList k.val) m = adrUnassigned
    · rw [if_pos hgroup, if_neg fun h' => h'.2 hgroup]
    · rw [if_neg hgroup, if_pos ⟨hen, hgroup⟩]
  · rw [if_neg hen]
    refine hread.respond hm _ ?_
    rw [if_neg fun h' => hen h'.1]

end AdrBindings

end LumesSwitch
