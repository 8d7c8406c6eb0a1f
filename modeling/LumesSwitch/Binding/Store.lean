import LumesSwitch.Flash.FlashLog
import LumesSwitch.Lib.Flags
import LumesSwitch.Net.Message

/-!
# The binding store (`sw_binding.c`)

The group that each element is bound to is kept as one table in a sector of its own. A setup
message enables a binding to any group that the element subscribes to. The restore at boot asks
whether the group is in the range `ADR_GROUP_START_POINT` to `ADR_FIXED_GROUP_START`, and resets
the whole table if a single entry is not.

- `Bindings.bindingInit`, `Bindings.bindingHandleSetupMessage` — the functions;
- `Bindings.tableSurvives_iff` — a run survives a reboot at any point if and only if every group
  that is accepted is in the range of the restore.
-/

namespace LumesSwitch

open Bufs Nor Runs Words

/-! ## The table -/

/-- `binding_para_t`, with `en` as the byte that it is in flash. -/
@[ext] structure StoredBinding where
  en : UInt8
  groupDst : UInt16
  deriving DecidableEq

namespace StoredBinding

def toBytes (p : StoredBinding) : List UInt8 := p.en :: u16Bytes p.groupDst

def ofBytes (bs : List UInt8) : StoredBinding :=
  ⟨bs.getD 0 0, ofU16Bytes (bs.getD 1 0) (bs.getD 2 0)⟩

theorem toBytes_length (p : StoredBinding) : p.toBytes.length = 3 := rfl

theorem ofBytes_toBytes (p : StoredBinding) : ofBytes p.toBytes = p :=
  StoredBinding.ext rfl (ofU16Bytes_u16Bytes p.groupDst)

/-- The entry as the control messages use it. -/
def para (p : StoredBinding) : BindingPara := ⟨p.en = 1, p.groupDst⟩

/-- `store_default_binding_params`, for one element. -/
def default : StoredBinding := ⟨0, adrUnassigned⟩

/-- What `restore_binding_para` does not accept. -/
def Refused (p : StoredBinding) : Prop :=
  p.en = 0xFF ∨ p.groupDst ≥ adrFixedGroupStart ∨
    (p.groupDst < adrGroupStartPoint ∧ p.groupDst ≠ adrUnassigned)

instance (p : StoredBinding) : Decidable p.Refused := inferInstanceAs (Decidable (_ ∨ _ ∨ _))

theorem not_refused_default : ¬ default.Refused := by decide

end StoredBinding

theorem bindingBlock_pos (b : Board) : 1 ≤ 3 * b.numberButton := by
  have hone := b.one_le
  rw [Board.numberButton]
  omega

theorem bindingBlock_le (b : Board) : 3 * b.numberButton ≤ 15 := by
  have hthree := b.le_three
  rw [Board.numberButton, Board.numberScene]
  omega

/-- `FLASH_SIZE_BINDING_PARAMS` -/
def flashSizeBindingParams : Nat := 4050

/-- The log of the sector `FLASH_ADR_BINDING_PARAMS`. -/
def bindingLog (b : Board) : FlashLog where
  flashAdr := 0x7D000
  flashSize := flashSizeBindingParams
  blockSize := 3 * b.numberButton
  block_pos := bindingBlock_pos b
  block_le := Nat.le_trans (bindingBlock_le b) (by decide)
  block_le_size := Nat.le_trans (bindingBlock_le b) (by decide)
  size_le := Nat.le_trans (Nat.add_le_add_left (bindingBlock_le b) _) (by decide)

/-- `foreach_arr(i, binding_para_st)`: the elements in loop order. -/
def Board.btns (b : Board) : List b.Btn := List.finRange b.numberButton

/-! ## The module -/

/-- `BINDING_SUCCESS` and the codes behind it. -/
inductive BindingStatus where
  | bindingSuccess
  | groupNotSet
  | groupInvalid
  | modelIdxInvalid
  | bindingErrUnknown
  | bindingDisable
  deriving DecidableEq

/-- `cfg_binding_format_t`, for an element of the device. -/
structure CfgBindingFormat (b : Board) where
  ele : b.Btn
  en : UInt8
  groupAdr : UInt16

/-- What the module sends. -/
inductive BindingOut (b : Board) where
  /-- `send_led_evt_to_mcu` -/
  | led (enable : Bool) (i : b.Chn)
  /-- `binding_msg_response_t` -/
  | response (st : BindingStatus) (ele : b.Btn) (en : UInt8) (groupAdr : UInt16)

/-- The table, its log, and what has been sent. -/
structure Bindings (b : Board) where
  paraSt : b.Btn → StoredBinding
  log : LogState
  out : List (BindingOut b)

namespace Bindings

variable {b : Board}

def send (s : Bindings b) (o : BindingOut b) : Bindings b := { s with out := s.out ++ [o] }

/-- `store_binding_para` -/
def storeBindingPara (s : Bindings b) : Bindings b :=
  { s with log := (bindingLog b).put s.log (encodeRecords StoredBinding.toBytes s.paraSt) }

/-- `store_default_binding_params` -/
def storeDefaultBindingParams (s : Bindings b) : Bindings b :=
  storeBindingPara { s with paraSt := fun _ => .default }

/-- `restore_binding_para`: the first entry that is not accepted ends the loop. -/
def restoreBindingPara (s : Bindings b) : Bindings b :=
  let s := { s with
    paraSt := decodeRecords 3 StoredBinding.ofBytes ((bindingLog b).restore s.log) }
  if b.btns.any fun i => (s.paraSt i).Refused then s.storeDefaultBindingParams else s

/-- `binding_init` -/
def bindingInit (s : Bindings b) : Bindings b :=
  { s with log := (bindingLog b).reindex s.log }.restoreBindingPara

/-- Whether `binding_enable` finds the group in the subscription list of the element. -/
def validGroup (subList : List UInt16) (groupAdr : UInt16) : Bool :=
  subList.any fun a => a ≠ adrUnassigned ∧ a ≠ adrAllNodes ∧ groupAdr = a

/-- `binding_enable` -/
def bindingEnable (s : Bindings b) (subList : List UInt16) (m : b.Btn) (groupAdr : UInt16) :
    Bindings b × BindingStatus :=
  if validGroup subList groupAdr then
    (storeBindingPara { s with paraSt := Function.update s.paraSt m ⟨1, groupAdr⟩ },
      .bindingSuccess)
  else (s, .groupNotSet)

/-- `binding_disable` -/
def bindingDisable (s : Bindings b) (m : b.Btn) : Bindings b :=
  storeBindingPara
    { s with paraSt := Function.update s.paraSt m { s.paraSt m with en := 0 } }

/-- `binding_handle_setup_message` -/
def bindingHandleSetupMessage (s : Bindings b) (subList : b.Btn → List UInt16)
    (cfg : CfgBindingFormat b) : Bindings b :=
  match Board.relayIdx cfg.ele with
  | none => s
  | some i =>
    let (s, st) :=
      if cfg.en = 1 then
        let (s, st) := s.bindingEnable (subList cfg.ele) cfg.ele cfg.groupAdr
        (s.send (.led (st = .bindingSuccess) i), st)
      else if cfg.en = 0 then
        ((s.bindingDisable cfg.ele).send (.led false i), .bindingDisable)
      else (s, .bindingErrUnknown)
    s.send (.response st cfg.ele (s.paraSt cfg.ele).en (s.paraSt cfg.ele).groupDst)

/-- `get_group_binding_adr` -/
def getGroupBindingAdr (s : Bindings b) (subList : b.Btn → List UInt16) (m : b.Btn) : UInt16 :=
  if (s.paraSt m).en = 1 ∧ validGroup (subList m) (s.paraSt m).groupDst then (s.paraSt m).groupDst
  else adrUnassigned

/-- `binding_handle_get_message` -/
def bindingHandleGetMessage (s : Bindings b) (subList : b.Btn → List UInt16) (m : b.Btn) :
    Bindings b :=
  let en := if (s.paraSt m).en = 1 ∧ s.getGroupBindingAdr subList m ≠ adrUnassigned then 1 else 0
  s.send (.response .bindingSuccess m en (s.paraSt m).groupDst)

end Bindings

/-- What happens to the module. -/
inductive BindingEvent (b : Board) where
  | setup (subList : b.Btn → List UInt16) (cfg : CfgBindingFormat b)
  | get (subList : b.Btn → List UInt16) (m : b.Btn)
  | reboot

namespace Bindings

variable {b : Board}

/-- One event. -/
def step (s : Bindings b) : BindingEvent b → Bindings b
  | .setup subList cfg => s.bindingHandleSetupMessage subList cfg
  | .get subList m => s.bindingHandleGetMessage subList m
  | .reboot => s.bindingInit

/-- The boot on an erased sector. -/
def firstBoot (b : Board) (mem : Mem) : Bindings b :=
  bindingInit { paraSt := fun _ => .default
                log := ⟨0, erase (bindingLog b).flashAdr flashSectorSize mem⟩
                out := [] }

/-- A reboot would bring the table back. -/
def Survives (s : Bindings b) : Prop := s.bindingInit.paraSt = s.paraSt

/-- The message binds a relay element to a group that it subscribes to. -/
def Enables (subList : b.Btn → List UInt16) (cfg : CfgBindingFormat b) : Prop :=
  (Board.relayIdx cfg.ele : Option b.Chn) ≠ none ∧ cfg.en = 1 ∧
    validGroup (subList cfg.ele) cfg.groupAdr = true

/-- A group that the event binds an element to is one that the restore accepts. -/
def InRange (_ : Bindings b) : BindingEvent b → Prop
  | .setup subList cfg => Enables subList cfg →
      adrGroupStartPoint ≤ cfg.groupAdr ∧ cfg.groupAdr < adrFixedGroupStart
  | .get _ _ | .reboot => True

/-! ## Boot -/

/-- No entry of a table is one that the restore does not accept. -/
def Accepted (f : b.Btn → StoredBinding) : Prop := ∀ i, ¬ (f i).Refused

def tableBytes (f : b.Btn → StoredBinding) : List UInt8 := encodeRecords StoredBinding.toBytes f

/-- A table with an entry of its own can be told from erased flash. -/
theorem tableBytes_not_blank {f : b.Btn → StoredBinding} (h : ∃ i, (f i).en ≠ 0xFF) :
    ¬ Blank (tableBytes f) := by
  intro hblank
  obtain ⟨i, hi⟩ := h
  exact hi (hblank _ (List.mem_flatMap.mpr ⟨i, List.mem_finRange _, List.mem_cons_self⟩))

/-- The table as a block of its log. -/
def tableBlock (f : b.Btn → StoredBinding) (h : ∃ i, (f i).en ≠ 0xFF) : (bindingLog b).Block :=
  ⟨tableBytes f, encodeRecords_length StoredBinding.toBytes_length f, tableBytes_not_blank h⟩

theorem Accepted.exists_ne {f : b.Btn → StoredBinding} (h : Accepted f) : ∃ i, (f i).en ≠ 0xFF :=
  ⟨Board.buttonScene0Idx, fun hen => h Board.buttonScene0Idx (.inl hen)⟩

/-- The table is accepted, and the log holds it. -/
def Stored (s : Bindings b) : Prop :=
  ∃ h : Accepted s.paraSt, LogRel (bindingLog b) s.log (some (tableBlock s.paraSt h.exists_ne))

theorem Stored.congr {s s' : Bindings b} (h : s.Stored) (hpara : s'.paraSt = s.paraSt)
    (hlog : s'.log = s.log) : s'.Stored := by
  obtain ⟨paraSt, log, out⟩ := s
  obtain ⟨paraSt', log', out'⟩ := s'
  obtain rfl : paraSt' = paraSt := hpara
  obtain rfl : log' = log := hlog
  exact h

theorem stored_storeBindingPara {s : Bindings b} (h : Accepted s.paraSt)
    {v : Option (bindingLog b).Block} (hlog : LogRel (bindingLog b) s.log v) :
    s.storeBindingPara.Stored :=
  ⟨h, hlog.put (tableBlock s.paraSt h.exists_ne)⟩

theorem accepted_default : Accepted fun _ : b.Btn => StoredBinding.default :=
  fun _ => StoredBinding.not_refused_default

theorem mem_btns (m : b.Btn) : m ∈ b.btns := List.mem_finRange m

/-- What a boot makes of the bytes that the log gives. -/
theorem bindingInit_paraSt (s : Bindings b) (f : b.Btn → StoredBinding)
    (hread : decodeRecords 3 StoredBinding.ofBytes
      ((bindingLog b).restore ((bindingLog b).reindex s.log)) = f) :
    (Accepted f → s.bindingInit = { s with
      paraSt := f, log := (bindingLog b).reindex s.log }) ∧
    (¬ Accepted f → s.bindingInit = storeDefaultBindingParams { s with
      paraSt := f, log := (bindingLog b).reindex s.log }) := by
  rw [bindingInit, restoreBindingPara]
  dsimp only
  rw [hread]
  constructor
  · intro h
    refine if_neg fun hany => ?_
    obtain ⟨i, -, hi⟩ := List.any_eq_true.mp hany
    exact h i (of_decide_eq_true hi)
  · intro h
    obtain ⟨i, hi⟩ := not_forall.mp h
    exact if_pos (List.any_eq_true.mpr ⟨i, mem_btns i, decide_eq_true (not_not.mp hi)⟩)

/-- A log that holds the bytes of a table gives the table. -/
theorem decode_tableBytes (f : b.Btn → StoredBinding) :
    decodeRecords 3 StoredBinding.ofBytes (tableBytes f) = f :=
  decodeRecords_encodeRecords StoredBinding.toBytes_length StoredBinding.ofBytes_toBytes f

/-- A boot brings a stored table back. -/
theorem bindingInit_of_stored {s : Bindings b} (h : s.Stored) :
    s.bindingInit.paraSt = s.paraSt ∧ s.bindingInit.Stored := by
  obtain ⟨hacc, hlog⟩ := h
  have hread : decodeRecords 3 StoredBinding.ofBytes
      ((bindingLog b).restore ((bindingLog b).reindex s.log)) = s.paraSt := by
    rw [hlog.reindex.restore_eq]
    exact decode_tableBytes s.paraSt
  rw [(s.bindingInit_paraSt _ hread).1 hacc]
  exact ⟨rfl, hacc, hlog.reindex⟩

/-- A boot on an erased sector gives the default table, and stores it. -/
theorem bindingInit_erased {s : Bindings b}
    (h : LogRel (bindingLog b) ((bindingLog b).reindex s.log) none) :
    s.bindingInit.paraSt = (fun _ => .default) ∧ s.bindingInit.Stored := by
  have hbytes : (bindingLog b).erasedBlock = tableBytes fun _ : b.Btn => ⟨0xFF, 0xFFFF⟩ := by
    have hall : ∀ _ : b.Btn, StoredBinding.toBytes ⟨0xFF, 0xFFFF⟩ = List.replicate 3 erasedByte :=
      fun _ => rfl
    exact (encodeRecords_replicate hall).symm
  have hread : decodeRecords 3 StoredBinding.ofBytes
      ((bindingLog b).restore ((bindingLog b).reindex s.log)) =
        fun _ : b.Btn => ⟨0xFF, 0xFFFF⟩ := by
    rw [h.restore_eq]
    exact (congrArg _ hbytes).trans (decode_tableBytes _)
  rw [(s.bindingInit_paraSt _ hread).2 fun hacc => hacc Board.buttonScene0Idx (.inl rfl)]
  exact ⟨rfl, stored_storeBindingPara accepted_default h⟩

theorem stored_firstBoot (mem : Mem) : (firstBoot b mem).Stored := by
  have herased := erasedOn_erase (bindingLog b).flashAdr flashSectorSize mem
  have hlog : LogRel (bindingLog b) ((bindingLog b).reindex ⟨0, _⟩) none := LogRel.erased herased 0
  exact (bindingInit_erased (s := ⟨_, ⟨0, _⟩, []⟩) hlog).2

theorem Stored.survives {s : Bindings b} (h : s.Stored) : s.Survives := (bindingInit_of_stored h).1

/-! ## Setup messages -/

/-- The table and the log are those of `s`. -/
def Like (s s' : Bindings b) : Prop := s'.paraSt = s.paraSt ∧ s'.log = s.log

/-- The table with an entry for `m`, stored. -/
def entered (s : Bindings b) (m : b.Btn) (p : StoredBinding) : Bindings b :=
  storeBindingPara { s with paraSt := Function.update s.paraSt m p }

theorem setup_enables (s : Bindings b) {subList : b.Btn → List UInt16} {cfg : CfgBindingFormat b}
    (h : Enables subList cfg) :
    Like (s.entered cfg.ele ⟨1, cfg.groupAdr⟩) (s.bindingHandleSetupMessage subList cfg) := by
  obtain ⟨hele, hen, hgroup⟩ := h
  obtain ⟨i, hi⟩ := Option.ne_none_iff_exists'.mp hele
  rw [bindingHandleSetupMessage, hi]
  dsimp only
  rw [if_pos hen, bindingEnable, if_pos hgroup]
  exact ⟨rfl, rfl⟩

theorem setup_other (s : Bindings b) {subList : b.Btn → List UInt16} {cfg : CfgBindingFormat b}
    (h : ¬ Enables subList cfg) :
    Like (s.bindingDisable cfg.ele) (s.bindingHandleSetupMessage subList cfg) ∨
      Like s (s.bindingHandleSetupMessage subList cfg) := by
  rw [bindingHandleSetupMessage]
  cases hi : (Board.relayIdx cfg.ele : Option b.Chn) with
  | none => exact .inr ⟨rfl, rfl⟩
  | some i =>
    dsimp only
    by_cases hen : cfg.en = 1
    · have hgroup : ¬ validGroup (subList cfg.ele) cfg.groupAdr = true := fun hgroup =>
        h ⟨by rw [hi]; exact Option.some_ne_none i, hen, hgroup⟩
      rw [if_pos hen, bindingEnable, if_neg hgroup]
      exact .inr ⟨rfl, rfl⟩
    · rw [if_neg hen]
      by_cases hdis : cfg.en = 0
      · rw [if_pos hdis]
        exact .inl ⟨rfl, rfl⟩
      · rw [if_neg hdis]
        exact .inr ⟨rfl, rfl⟩

theorem Stored.like {s s' : Bindings b} (h : s.Stored) (hlike : Like s s') : s'.Stored :=
  h.congr hlike.1 hlike.2

theorem Stored.entered {s : Bindings b} (h : s.Stored) {m : b.Btn} {p : StoredBinding}
    (hp : ¬ p.Refused) : (s.entered m p).Stored := by
  obtain ⟨hacc, hlog⟩ := h
  have hupd : Accepted (Function.update s.paraSt m p) :=
    (Function.forall_update_iff _ fun _ q => ¬ StoredBinding.Refused q).mpr
      ⟨hp, fun i _ => hacc i⟩
  exact stored_storeBindingPara (s := { s with paraSt := Function.update s.paraSt m p }) hupd hlog

theorem entered_paraSt (s : Bindings b) (m : b.Btn) (p : StoredBinding) :
    (s.entered m p).paraSt = Function.update s.paraSt m p := rfl

/-- A boot looks at the log only. -/
theorem bindingInit_like {s s' : Bindings b} (h : Like s s') :
    s'.bindingInit.paraSt = s.bindingInit.paraSt := by
  obtain ⟨hpara, hlog⟩ := h
  rw [bindingInit, restoreBindingPara, bindingInit, restoreBindingPara, hlog]
  dsimp only
  split <;> rfl

/-- A single entry that is refused makes the boot reset the whole table. -/
theorem Stored.bindingInit_refused {s : Bindings b} (h : s.Stored) {m : b.Btn} {groupAdr : UInt16}
    (hp : StoredBinding.Refused ⟨1, groupAdr⟩) :
    (s.entered m ⟨1, groupAdr⟩).bindingInit.paraSt = fun _ => .default := by
  obtain ⟨_, hlog⟩ := h
  have hne : ∃ i, (Function.update s.paraSt m ⟨1, groupAdr⟩ i).en ≠ 0xFF :=
    ⟨m, by rw [Function.update_self]; exact show (1 : UInt8) ≠ 0xFF by decide⟩
  have hput : LogRel (bindingLog b) (s.entered m ⟨1, groupAdr⟩).log
      (some (tableBlock (Function.update s.paraSt m ⟨1, groupAdr⟩) hne)) :=
    LogRel.put hlog (tableBlock _ hne)
  have hread : decodeRecords 3 StoredBinding.ofBytes ((bindingLog b).restore
      ((bindingLog b).reindex (s.entered m ⟨1, groupAdr⟩).log)) =
        Function.update s.paraSt m ⟨1, groupAdr⟩ := by
    rw [hput.reindex.restore_eq]
    exact decode_tableBytes _
  have hnot : ¬ Accepted (Function.update s.paraSt m ⟨1, groupAdr⟩) := fun hacc => by
    have hm := hacc m
    rw [Function.update_self] at hm
    exact hm hp
  rw [((s.entered m ⟨1, groupAdr⟩).bindingInit_paraSt _ hread).2 hnot]
  rfl

/-- A group of a subscription list is refused by the restore unless it is in its range. -/
theorem not_refused_iff {subList : List UInt16} {groupAdr : UInt16}
    (h : validGroup subList groupAdr = true) :
    ¬ StoredBinding.Refused ⟨1, groupAdr⟩ ↔
      adrGroupStartPoint ≤ groupAdr ∧ groupAdr < adrFixedGroupStart := by
  obtain ⟨a, -, ha⟩ := List.any_eq_true.mp h
  obtain ⟨hne, -, rfl⟩ := of_decide_eq_true ha
  have hen : ¬ (1 : UInt8) = 0xFF := by decide
  rw [StoredBinding.Refused, not_or, not_or, not_and, and_iff_right hen, not_not, and_comm]
  refine and_congr ⟨fun hlt => ?_, fun hle hlt => ?_⟩ UInt16.not_le
  · exact UInt16.not_lt.mp fun hlow => hne (hlt hlow)
  · exact absurd hlt (UInt16.not_lt.mpr hle)

/-- An entry that is disabled keeps its group. -/
theorem not_refused_disabled {p : StoredBinding} (h : ¬ p.Refused) :
    ¬ StoredBinding.Refused { p with en := 0 } := by
  rintro (hen | hgroup)
  · exact absurd hen (show ¬ (0 : UInt8) = 0xFF by decide)
  · exact h (.inr hgroup)

/-- **Step lemma.** -/
theorem Stored.step {s : Bindings b} (h : s.Stored) (ev : BindingEvent b) (hok : s.InRange ev) :
    (s.step ev).Stored := by
  cases ev with
  | setup subList cfg =>
    by_cases hen : Enables subList cfg
    · have hp := (not_refused_iff hen.2.2).mpr (hok hen)
      exact (h.entered hp).like (s.setup_enables hen)
    · rcases s.setup_other hen with hlike | hlike
      · exact (h.entered (not_refused_disabled (h.1 cfg.ele))).like hlike
      · exact h.like hlike
  | get subList m => exact h.congr rfl rfl
  | reboot => exact (bindingInit_of_stored h).2

/-- A group outside the range is not brought back. -/
theorem Stored.inRange {s : Bindings b} (h : s.Stored) (ev : BindingEvent b)
    (hsurvives : (s.step ev).Survives) : s.InRange ev := by
  cases ev with
  | get subList m => trivial
  | reboot => trivial
  | setup subList cfg =>
    intro hen
    refine (not_refused_iff hen.2.2).mp fun hrefused => ?_
    have hboot := (h.bindingInit_refused hrefused).symm.trans
      ((bindingInit_like (s.setup_enables hen)).symm.trans hsurvives)
    have hpara : (s.step (.setup subList cfg)).paraSt =
        (s.entered cfg.ele ⟨1, cfg.groupAdr⟩).paraSt := (s.setup_enables hen).1
    rw [hpara] at hboot
    have hentry := congrArg StoredBinding.en (congrFun hboot cfg.ele)
    rw [entered_paraSt, Function.update_self] at hentry
    exact absurd hentry (show ¬ (0 : UInt8) = 1 by decide)

/-- **Every run**: the table survives a reboot at any point if and only if every group that an
element has been bound to is in the range of the restore. -/
theorem tableSurvives_iff (mem : Mem) (evs : List (BindingEvent b)) :
    AllStates step Survives (firstBoot b mem) evs ↔ AllSteps step InRange (firstBoot b mem) evs :=
  AllStates.iff_allSteps_of_breaks (fun _ h => h.survives) (fun _ ev h => h.step ev)
    (fun _ ev h => h.inRange ev) (stored_firstBoot mem)

/-- The first relay of a two-relay switch is bound to group `0xC001`, the second one to the
fixed group `0xFF00`. -/
theorem not_survives_fixedGroup :
    ¬ AllStates step Survives (firstBoot board2 fun _ => erasedByte)
      [.setup (fun _ => [0xC001, 0xFF00]) ⟨Board.relayEle board2.chn0, 1, 0xC001⟩,
        .setup (fun _ => [0xC001, 0xFF00]) ⟨Board.relayEle ⟨1, by decide⟩, 1, 0xFF00⟩] := by
  intro h
  have hfirst := (stored_firstBoot (b := board2) fun _ => erasedByte).step
    (.setup (fun _ => [0xC001, 0xFF00]) ⟨Board.relayEle board2.chn0, 1, 0xC001⟩)
    fun _ => ⟨by decide, by decide⟩
  have hsecond := hfirst.inRange _ h.2.2.head ⟨by decide, rfl, by decide⟩
  exact absurd hsecond.2 (by decide)

/-! ## The group that is used -/

/-- The control messages find the group of an element in the table. -/
theorem getGroupBindingAdr_eq (s : Bindings b) (x : NetState b) (m : b.Btn)
    (hpara : x.bindingParaSt = fun i => (s.paraSt i).para) :
    x.getGroupBindingAdr m = s.getGroupBindingAdr x.onoffSubList m := by
  rw [NetState.getGroupBindingAdr, getGroupBindingAdr, hpara]
  exact if_congr (and_congr_left' decide_eq_true_iff) rfl rfl

/-- A group that has been accepted is used, whether or not it is in the range of the restore. -/
theorem getGroupBindingAdr_setup (s : Bindings b) {subList : b.Btn → List UInt16}
    {cfg : CfgBindingFormat b} (h : Enables subList cfg) :
    (s.bindingHandleSetupMessage subList cfg).getGroupBindingAdr subList cfg.ele =
      cfg.groupAdr := by
  have hentry : (s.bindingHandleSetupMessage subList cfg).paraSt cfg.ele = ⟨1, cfg.groupAdr⟩ := by
    rw [(s.setup_enables h).1, entered_paraSt, Function.update_self]
  rw [getGroupBindingAdr, hentry]
  exact if_pos ⟨rfl, h.2.2⟩

end Bindings

end LumesSwitch
