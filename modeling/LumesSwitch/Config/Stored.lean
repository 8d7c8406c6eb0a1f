import LumesSwitch.Config.Model

/-!
# The configuration survives a boot

A valid structure can be told from erased flash, and the check at boot leaves it alone. So
where the log holds the structure in memory, a boot reads that structure back.

- `SwCfg.Stored` — the structure is valid, and the log holds it;
- `SwCfg.swConfigInit_of_stored`, `SwCfg.stored_firstBoot` — the boot;
- `SwCfg.switchModeOpt_cases`, `SwCfg.storePowerOnState_stored` — what the settings do to
  the structure and its log.
-/

namespace LumesSwitch

open Bufs Nor Runs Words

variable {b : Board}

namespace SwConfig

/-- No entry is one that `sw_check_valid_params` replaces. -/
def Valid (c : SwConfig b) : Prop := ∀ i, ¬ c.NeedsCheck i

/-- The entries for a channel need no check. -/
structure EntryOk (c : SwConfig b) (i : b.Chn) : Prop where
  switchMode : c.switchMode i < switchTypeUnknown
  toggleType : (c.extendedParamSt i).toggleType ≠ maxU8
  linkUnlink : c.linkUnlink i < linkUnknown.toUInt16
  mapInput : (c.mapInput i).toNat ≤ b.numberRl
  enGroupDefault : c.enGroupDefault i ≠ maxU8
  powerOnState : c.powerOnState i < powerUpUnknown

theorem entryOk_iff {c : SwConfig b} {i : b.Chn} : c.EntryOk i ↔ ¬ c.NeedsCheck i := by
  simp only [NeedsCheck, not_or, ge_iff_le, gt_iff_lt, UInt8.not_le, UInt16.not_le, not_lt]
  constructor
  · rintro ⟨hmode, htoggle, hlink, hmap, hgroup, hpower⟩
    exact ⟨hmode, htoggle, hlink, hmap, hgroup, hpower⟩
  · rintro ⟨hmode, htoggle, hlink, hmap, hgroup, hpower⟩
    exact ⟨hmode, htoggle, hlink, hmap, hgroup, hpower⟩

theorem Valid.entryOk {c : SwConfig b} (h : c.Valid) (i : b.Chn) : c.EntryOk i :=
  entryOk_iff.mpr (h i)

theorem valid_of_entryOk {c : SwConfig b} (h : ∀ i, c.EntryOk i) : c.Valid :=
  fun i => entryOk_iff.mp (h i)

/-- A replacement that needs none itself leaves no need behind. -/
theorem not_replaced {α : Type*} {P : α → Prop} [DecidablePred P] {d : α} (hd : ¬ P d) (x : α) :
    ¬ P (if P x then d else x) := by
  split
  · exact hd
  · assumption

theorem valid_checked (c : SwConfig b) : c.checked.Valid := by
  rintro i (h | h | h | h | h | h)
  · exact not_replaced (P := (· ≥ switchTypeUnknown)) (by decide) _ h
  · exact not_replaced (P := fun p : ExtendedParam => p.toggleType = maxU8) (by decide) _ h
  · exact not_replaced (P := (· ≥ linkUnknown.toUInt16)) (by decide) _ h
  · refine not_replaced (P := fun x : UInt8 => x.toNat > b.numberRl) ?_ _ h
    have hi := i.isLt
    have hthree := b.le_three
    rw [UInt8.toNat_ofNat']
    omega
  · exact not_replaced (P := (· = maxU8)) (by decide) _ h
  · exact not_replaced (P := (· ≥ powerUpUnknown)) (by decide) _ h

theorem Valid.checked {c : SwConfig b} (h : c.Valid) : c.checked = c := by
  refine SwConfig.ext ?_ ?_ ?_ ?_ ?_ ?_ rfl
  · exact funext fun i => if_neg (UInt8.not_le.mpr (h.entryOk i).switchMode)
  · exact funext fun i => if_neg (h.entryOk i).toggleType
  · exact funext fun i => if_neg (UInt16.not_le.mpr (h.entryOk i).linkUnlink)
  · exact funext fun i => if_neg (Nat.not_lt.mpr (h.entryOk i).mapInput)
  · exact funext fun i => if_neg (h.entryOk i).enGroupDefault
  · exact funext fun i => if_neg (UInt8.not_le.mpr (h.entryOk i).powerOnState)

/-- A valid structure can be told from erased flash by its first switch mode. -/
theorem Valid.not_blank {c : SwConfig b} (h : c.Valid) : ¬ Blank c.toBytes := by
  intro hblank
  have hmem : c.switchMode b.chn0 ∈ c.toBytes :=
    List.mem_append_left _
      (List.mem_flatMap.mpr ⟨b.chn0, List.mem_finRange _, List.mem_singleton_self _⟩)
  have hmode := (h.entryOk b.chn0).switchMode
  rw [hblank _ hmem] at hmode
  exact absurd hmode (by decide)

/-- The structure as a block of its log. -/
def block (c : SwConfig b) (h : c.Valid) : (swConfigLog b).Block :=
  ⟨c.toBytes, c.toBytes_length, h.not_blank⟩

end SwConfig

namespace SwCfg

/-- The structure is valid, and the log holds it. -/
def Stored (s : SwCfg b) : Prop :=
  ∃ h : s.st.Valid, LogRel (swConfigLog b) s.log (some (s.st.block h))

theorem Stored.congr {s s' : SwCfg b} (h : s.Stored) (hst : s'.st = s.st) (hlog : s'.log = s.log) :
    s'.Stored := by
  rw [Stored, hst, hlog]
  exact h

theorem stored_swConfigStore {s : SwCfg b} (hv : s.st.Valid) {v : Option (swConfigLog b).Block}
    (h : LogRel (swConfigLog b) s.log v) : s.swConfigStore.Stored :=
  ⟨hv, h.put (s.st.block hv)⟩

/-! ## Boot -/

theorem swCheckValidParams_of_valid {s : SwCfg b} (h : s.st.Valid) : s.swCheckValidParams = s := by
  have hany : ¬ (b.chns.any fun i => s.st.NeedsCheck i) = true := by
    rw [List.any_eq_true]
    rintro ⟨i, -, hi⟩
    exact h i (of_decide_eq_true hi)
  rw [swCheckValidParams, if_neg hany, h.checked]

/-- A boot reads back what the log holds. -/
theorem swConfigInit_of_stored {s : SwCfg b} (h : s.Stored) :
    s.swConfigInit.st = s.st ∧ s.swConfigInit.Stored := by
  obtain ⟨hv, hlog⟩ := h
  have hread : SwConfig.ofBytes b
      ((swConfigLog b).restore ((swConfigLog b).reindex s.log)) = s.st := by
    rw [hlog.reindex.restore_eq]
    exact s.st.ofBytes_toBytes
  have hcheck : s.swConfigInit = { s with log := (swConfigLog b).reindex s.log } := by
    rw [swConfigInit, hread]
    exact swCheckValidParams_of_valid hv
  rw [hcheck]
  exact ⟨rfl, hv, hlog.reindex⟩

/-- The sector in a memory where it is erased. -/
def erasedLog (mem : Mem) : LogState := ⟨0, erase 0x78000 flashSectorSize mem⟩

/-- A first boot, on an erased sector. -/
def firstBoot (b : Board) (mem : Mem) : SwCfg b :=
  swConfigInit { st := SwConfig.ofBytes b [], log := erasedLog mem, out := [] }

/-- Where an erased sector was read, the check replaces entries and stores the structure. -/
theorem stored_firstBoot (mem : Mem) : (firstBoot b mem).Stored := by
  have hlog : LogRel (swConfigLog b) ((swConfigLog b).reindex (erasedLog mem)) none :=
    LogRel.firstBoot (swConfigLog b) mem 0
  have hneeds : ∀ bs : List UInt8, (bs.take 1) = [0xFF] →
      (SwConfig.ofBytes b bs).NeedsCheck b.chn0 := by
    intro bs hbs
    refine Or.inl ?_
    show (((bs.drop (1 * 0)).take 1).getD 0 0) ≥ switchTypeUnknown
    rw [Nat.mul_zero, List.drop_zero, hbs]
    decide
  have hany : (b.chns.any fun i => (SwConfig.ofBytes b ((swConfigLog b).restore
      ((swConfigLog b).reindex (erasedLog mem)))).NeedsCheck i) = true := by
    refine List.any_eq_true.mpr ⟨b.chn0, b.mem_chns _, decide_eq_true (hneeds _ ?_)⟩
    rw [hlog.restore_eq]
    show ((List.replicate (9 * b.numberRl + 64) erasedByte).take 1) = [0xFF]
    rw [List.take_replicate, Nat.min_eq_left (by omega)]
    rfl
  rw [firstBoot, swConfigInit, swCheckValidParams, if_pos hany]
  exact stored_swConfigStore (SwConfig.valid_checked _) hlog

/-! ## Settings -/

theorem kept_responseSwitchMode (s : SwCfg b) (idx : Nat) :
    (s.responseSwitchMode idx).st = s.st ∧ (s.responseSwitchMode idx).log = s.log := by
  refine invariant_runFrom (I := fun s' : SwCfg b => s'.st = s.st ∧ s'.log = s.log)
    (fun s' i hs' => ?_) ⟨rfl, rfl⟩ b.chns
  dsimp only
  split
  · exact hs'
  · exact hs'

/-- The toggle parameters are all that `setExtended` changes, and they stay valid. -/
theorem setExtended_eq (c : SwConfig b) (id : b.Chn) (par : Nat → UInt8) (parLen : Nat) :
    ∃ ext, setExtended c id par parLen = { c with extendedParamSt := ext } ∧
      ∀ i, (ext i).toggleType = maxU8 → (c.extendedParamSt i).toggleType = maxU8 := by
  have hupd := fun (j : b.Chn) {x : ExtendedParam} =>
    Function.forall_update_iff (a := j) (b := x) c.extendedParamSt fun i (p : ExtendedParam) =>
      p.toggleType = maxU8 → (c.extendedParamSt i).toggleType = maxU8
  rw [setExtended]
  split
  · dsimp only
    split
    · next h =>
      refine ⟨_, rfl, (hupd id).mpr ⟨fun hmax => ?_, fun i _ hi => hi⟩⟩
      exact absurd (Or.inl (by rw [show par 2 = maxU8 from hmax]; decide)) h.2.1
    · exact ⟨c.extendedParamSt, rfl, fun _ hi => hi⟩
  · split
    · exact ⟨c.extendedParamSt, rfl, fun _ hi => hi⟩
    · next btnIdx _ =>
      split
      · refine ⟨_, rfl, (hupd btnIdx).mpr ⟨fun hmax => ?_, fun i _ hi => hi⟩⟩
        exact absurd hmax (show toggleDefault ≠ maxU8 by decide)
      · exact ⟨c.extendedParamSt, rfl, fun _ hi => hi⟩

/-- What is valid stays so under other switch modes, toggle parameters and power-on states
that are valid. -/
theorem valid_update {c : SwConfig b} (h : c.Valid) {modes states : b.Chn → UInt8}
    {ext : b.Chn → ExtendedParam} (hm : ∀ i, modes i < switchTypeUnknown)
    (hext : ∀ i, (ext i).toggleType = maxU8 → (c.extendedParamSt i).toggleType = maxU8)
    (hp : ∀ i, states i < powerUpUnknown) :
    SwConfig.Valid
      { c with switchMode := modes, extendedParamSt := ext, powerOnState := states } := by
  refine SwConfig.valid_of_entryOk fun i => ?_
  have hi := h.entryOk i
  exact { switchMode := hm i, toggleType := fun hx => hi.toggleType (hext i hx)
          linkUnlink := hi.linkUnlink, mapInput := hi.mapInput
          enGroupDefault := hi.enGroupDefault, powerOnState := hp i }

/-- What a switch-mode message can do: nothing but answer, or set and store the mode of the
channel it addresses, with its toggle parameters. -/
theorem switchModeOpt_cases (s : SwCfg b) (par : Nat → UInt8) (parLen : Nat) :
    ((s.switchModeOpt par parLen).1.st = s.st ∧ (s.switchModeOpt par parLen).1.log = s.log ∧
      (s.switchModeOpt par parLen).2 = none ∧
      ∀ id : b.Chn, switchModeId par parLen = some id → ¬ par 1 < switchTypeUnknown) ∨
    ∃ (id : b.Chn) (ext : b.Chn → ExtendedParam),
      switchModeId par parLen = some id ∧ par 1 < switchTypeUnknown ∧
      (s.switchModeOpt par parLen).1.st =
        { s.st with
          switchMode := Function.update s.st.switchMode id (par 1), extendedParamSt := ext } ∧
      (∀ i, (ext i).toggleType = maxU8 → (s.st.extendedParamSt i).toggleType = maxU8) ∧
      (s.switchModeOpt par parLen).1.log =
        (swConfigLog b).put s.log (s.switchModeOpt par parLen).1.st.toBytes ∧
      (s.switchModeOpt par parLen).2 =
        if s.st.switchMode id ≠ par 1 then some id else none := by
  rw [switchModeOpt]
  cases hid : (switchModeId par parLen : Option b.Chn) with
  | none => exact .inl ⟨rfl, rfl, rfl, fun id h => nomatch h⟩
  | some id =>
    dsimp only
    by_cases hmode : par 1 < switchTypeUnknown
    · right
      rw [decide_eq_true hmode, if_pos rfl]
      generalize hc : ({ s.st with
        switchMode := Function.update s.st.switchMode id (par 1) } : SwConfig b) = c
      obtain ⟨ext, heq, hext⟩ := setExtended_eq c id par parLen
      rw [heq]
      generalize hs1 : swConfigStore _ = s1
      obtain ⟨hst, hlog⟩ := s1.kept_responseSwitchMode id
      have hst1 : s1.st = { c with extendedParamSt := ext } := by rw [← hs1]; rfl
      have hlog1 : s1.log = (swConfigLog b).put s.log s1.st.toBytes := by rw [← hs1]; rfl
      refine ⟨id, ext, rfl, hmode, ?_, ?_, ?_, ?_⟩
      · exact (hst.trans hst1).trans (by rw [← hc])
      · rw [← hc] at hext
        exact hext
      · show (s1.responseSwitchMode id).log =
          (swConfigLog b).put s.log (s1.responseSwitchMode id).st.toBytes
        rw [hst, hlog]
        exact hlog1
      · have hnew : (s1.responseSwitchMode id).st.switchMode id = par 1 := by
          rw [hst, hst1, ← hc]
          exact Function.update_self ..
        show (if s.st.switchMode id ≠ (s1.responseSwitchMode id).st.switchMode id then some id
          else none) = _
        rw [hnew]
    · left
      obtain ⟨hst, hlog⟩ := s.kept_responseSwitchMode id
      rw [decide_eq_false hmode, if_neg Bool.false_ne_true]
      refine ⟨hst, hlog, ?_, fun _ _ => hmode⟩
      show (if s.st.switchMode id ≠ (s.responseSwitchMode id).st.switchMode id then some id
        else none) = none
      rw [hst]
      exact if_neg fun hne => hne rfl

/-- A switch-mode message leaves a valid structure. -/
theorem valid_switchModeOpt {s : SwCfg b} (hv : s.st.Valid) (par : Nat → UInt8) (parLen : Nat) :
    (s.switchModeOpt par parLen).1.st.Valid := by
  rcases s.switchModeOpt_cases par parLen with
    ⟨hst, -⟩ | ⟨id, ext, -, hmode, hst, hext, -⟩
  · rwa [hst]
  · have hmodes : ∀ i, Function.update s.st.switchMode id (par 1) i < switchTypeUnknown :=
      (Function.forall_update_iff _ fun _ x => x < switchTypeUnknown).mpr
        ⟨hmode, fun i _ => (hv.entryOk i).switchMode⟩
    rw [hst]
    exact valid_update hv hmodes hext fun i => (hv.entryOk i).powerOnState

/-- An accepted switch-mode message leaves a valid structure, stored. -/
theorem Stored.switchModeOpt {s : SwCfg b} (h : s.Stored) (par : Nat → UInt8) (parLen : Nat) :
    (s.switchModeOpt par parLen).1.Stored := by
  rcases s.switchModeOpt_cases par parLen with ⟨hst, hlog, -⟩ | ⟨id, ext, -, -, -, -, hlog, -⟩
  · exact h.congr hst hlog
  · obtain ⟨hv, hrel⟩ := h
    exact (stored_swConfigStore (s := { (s.switchModeOpt par parLen).1 with log := s.log })
      (valid_switchModeOpt hv par parLen) hrel).congr rfl hlog

/-- A new power-on state leaves a valid structure. -/
theorem valid_storePowerOnState {s : SwCfg b} (hv : s.st.Valid) (i : b.Chn) {v : UInt8}
    (hlt : v < powerUpUnknown) : (s.storePowerOnState i v).st.Valid := by
  refine valid_update hv (fun i' => (hv.entryOk i').switchMode) (fun _ hi => hi) ?_
  exact (Function.forall_update_iff _ fun _ x => x < powerUpUnknown).mpr
    ⟨hlt, fun i' _ => (hv.entryOk i').powerOnState⟩

/-- A new power-on state leaves a valid structure, stored. -/
theorem Stored.storePowerOnState {s : SwCfg b} (h : s.Stored) (i : b.Chn) {v : UInt8}
    (hlt : v < powerUpUnknown) : (s.storePowerOnState i v).Stored := by
  obtain ⟨hv, hrel⟩ := h
  exact stored_swConfigStore (valid_storePowerOnState hv i hlt) hrel

end SwCfg

end LumesSwitch
