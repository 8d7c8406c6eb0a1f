import LumesSwitch.Net.Mesh

/-!
# Group commands for a state that is already targeted

A lightness, CTL or HSL command to the group of an element asks for ON or OFF. Commands that
ask for the state the element targets already are counted, and carried out no more from the
third one on, until one asks for the other state. The counter is a byte.

- `Node.funcHandleControlMessage_eq` — a command as what it asks for;
- `SameWatch.step` — any run of commands and of everything else, with the number of commands
  for the same state kept beside it;
- `SameWatch.suppresses_iff` — the runs in which they stay suppressed.
-/

namespace LumesSwitch

open Flags Runs Words

variable {b : Board}

namespace Node

/-- The state that an element targets, if it is not between its levels. -/
def targets (x : Node b) (m : b.Btn) : Option UInt8 :=
  let target := (x.panel.dev.sh.lightness m).target
  if target = levelOff then some gOff
  else if target = levelMax then some gOn
  else none

/-- The state that a command asks element `m` for, if it is for the group of the element and
not from a relay element of the device itself. -/
def asks (x : Node b) (par : List UInt8) (m : b.Btn) (src dst op : UInt16) : Option UInt8 :=
  let d := x.panel.dev
  let adr := d.env.getGroupBindingAdr m
  let own := b.chns.any fun c =>
    src.toNat = d.sh.eleAdrPrimary.toNat + Board.eleRelayOffset + c.val
  if adr = adrUnassigned ∨ dst ≠ adr then none
  else if op = lightnessSet ∧ own = true then none
  else if op = lightnessSet ∨ op = lightCtlSet ∨ op = lightHslSet then
    some (if ofU16Bytes (par.getD 0 0) (par.getD 1 0) = 0 then gOff else gOn)
  else none

/-- Whether the command is carried out. -/
def carriesOut (x : Node b) (par : List UInt8) (m : b.Btn) (src dst op : UInt16) : Bool :=
  match x.asks par m src dst op with
  | none => false
  | some st => (x.countSame m st).2 && x.panel.dev.checkEnControl m dst

/-- What is counted of a command. -/
def counted (x : Node b) (par : List UInt8) (m : b.Btn) (src dst op : UInt16) : Node b :=
  match x.asks par m src dst op with
  | none => x
  | some st => (x.countSame m st).1

/-- A command is counted, and commands its element if it is carried out. -/
theorem funcHandleControlMessage_eq (x : Node b) (par : List UInt8) (m : b.Btn)
    (src dst op : UInt16) :
    x.funcHandleControlMessage par m src dst op =
      if x.carriesOut par m src dst op = true then
        (x.counted par m src dst op).onDev fun d =>
          (d.sendControlDevManualToMcu m (x.asks par m src dst op = some gOn)
            true).updateControlMessageParams m src dst gOnoffSet
      else x.counted par m src dst op := by
  unfold funcHandleControlMessage carriesOut counted asks
  dsimp only
  split
  · exact (if_neg Bool.false_ne_true).symm
  · split
    · exact (if_neg Bool.false_ne_true).symm
    · split
      · simp only [Bool.and_eq_true, Option.some.injEq]
      · exact (if_neg Bool.false_ne_true).symm

/-- The counter of a command that asks for `st`. -/
theorem counted_cntSame (x : Node b) {par : List UInt8} {m : b.Btn} {src dst op : UInt16}
    {st : UInt8} (hasks : x.asks par m src dst op = some st) :
    (x.counted par m src dst op).cntSame =
      match x.targets m with
      | none => x.cntSame
      | some t => Function.update x.cntSame m (if st = t then x.cntSame m + 1 else 0) := by
  rw [counted, hasks, targets]
  unfold countSame
  dsimp only
  by_cases hoff : (x.panel.dev.sh.lightness m).target = levelOff
  · rw [if_pos hoff, if_pos hoff]
    by_cases hst : st = gOff
    · simp [hst]
    · simp [hst]
  · rw [if_neg hoff, if_neg hoff]
    by_cases hmax : (x.panel.dev.sh.lightness m).target = levelMax
    · rw [if_pos hmax, if_pos hmax]
      by_cases hst : st = gOn
      · simp [hst]
      · simp [hst]
    · rw [if_neg hmax, if_neg hmax]

/-- A command for the state that is targeted is carried out while the counter behind it is
small. -/
theorem countSame_same (x : Node b) {m : b.Btn} {st : UInt8} (h : x.targets m = some st) :
    (x.countSame m st).2 = !decide (x.cntSame m + 1 ≥ controlBdgSameStCntMax) := by
  rw [targets] at h
  unfold countSame
  dsimp only
  by_cases hoff : (x.panel.dev.sh.lightness m).target = levelOff
  · rw [if_pos hoff] at h ⊢
    rw [← Option.some.inj h, decide_eq_true rfl]
  · rw [if_neg hoff] at h ⊢
    by_cases hmax : (x.panel.dev.sh.lightness m).target = levelMax
    · rw [if_pos hmax] at h ⊢
      rw [← Option.some.inj h, decide_eq_true rfl]
    · rw [if_neg hmax] at h
      cases h

/-- What is counted leaves the panel alone. -/
theorem counted_panel (x : Node b) (par : List UInt8) (m : b.Btn) (src dst op : UInt16) :
    (x.counted par m src dst op).panel = x.panel := by
  unfold counted
  split
  · rfl
  · next st _ =>
    unfold countSame
    dsimp only
    split <;> rfl

/-- A command that is not carried out leaves the panel alone. -/
theorem panel_of_not_carriesOut {x : Node b} {par : List UInt8} {m : b.Btn} {src dst op : UInt16}
    (h : x.carriesOut par m src dst op = false) :
    (x.funcHandleControlMessage par m src dst op).panel = x.panel := by
  rw [funcHandleControlMessage_eq, if_neg (Bool.eq_false_iff.mp h), counted_panel]

/-- A command that is suppressed controls nothing, and nothing is published. -/
structure Suppressed (x : Node b) (par : List UInt8) (m : b.Btn) (src dst op : UInt16) : Prop where
  control : x.carriesOut par m src dst op = false
  panel : (x.funcHandleControlMessage par m src dst op).panel = x.panel

theorem suppressed_iff (x : Node b) (par : List UInt8) (m : b.Btn) (src dst op : UInt16) :
    x.Suppressed par m src dst op ↔ x.carriesOut par m src dst op = false :=
  ⟨fun h => h.control, fun h => ⟨h, panel_of_not_carriesOut h⟩⟩

instance (x : Node b) (par : List UInt8) (m : b.Btn) (src dst op : UInt16) :
    Decidable (x.Suppressed par m src dst op) := decidable_of_iff' _ (x.suppressed_iff ..)

theorem funcHandleControlMessage_cntSame (x : Node b) (par : List UInt8) (m : b.Btn)
    (src dst op : UInt16) :
    (x.funcHandleControlMessage par m src dst op).cntSame =
      (x.counted par m src dst op).cntSame := by
  rw [funcHandleControlMessage_eq]
  split <;> rfl

end Node

/-! ## Runs -/

/-- A command to element `m`, or anything else that happens to the switch. -/
inductive SameEvent (b : Board) where
  | command (par : List UInt8) (m : b.Btn) (src dst op : UInt16)
  | panel (ev : PanelEvent b)

/-- The switch, and for each element the number of commands for the state that it targeted when
they came, since the last one for the other state. -/
structure SameWatch (b : Board) where
  node : Node b
  streak : b.Btn → Nat

namespace SameWatch

/-- The number behind a command for `st` where `t` is targeted. -/
def nextStreak (t : Option UInt8) (st : UInt8) (k : Nat) : Nat :=
  match t with
  | none => k
  | some t => if st = t then k + 1 else 0

/-- One event. -/
def step (w : SameWatch b) : SameEvent b → SameWatch b
  | .command par m src dst op =>
    { node := w.node.funcHandleControlMessage par m src dst op
      streak := match w.node.asks par m src dst op with
        | none => w.streak
        | some st => Function.update w.streak m (nextStreak (w.node.targets m) st (w.streak m)) }
  | .panel ev => { w with node := { w.node with panel := w.node.panel.step ev } }

/-- `control_binding_init`, on any panel. -/
def boot (p : Panel b) : SameWatch b := ⟨⟨p, fun _ => 0⟩, fun _ => 0⟩

/-- The command asks for the state that its element targets. -/
def AsksSame (w : SameWatch b) (par : List UInt8) (m : b.Btn) (src dst op : UInt16) : Prop :=
  ∃ st, w.node.asks par m src dst op = some st ∧ w.node.targets m = some st

/-- A further command for the same state is suppressed. -/
def Suppresses (w : SameWatch b) : SameEvent b → Prop
  | .command par m src dst op => w.AsksSame par m src dst op →
      controlBdgSameStCntMax.toNat ≤ w.streak m → w.node.Suppressed par m src dst op
  | .panel _ => True

/-- A further command for the same state, if it may control its element, does not find the
number of those before it at 255, 256 or 257, or one that is the same in a byte. -/
def NoWrap (w : SameWatch b) : SameEvent b → Prop
  | .command par m src dst op => w.AsksSame par m src dst op →
      w.node.panel.dev.checkEnControl m dst = true →
        controlBdgSameStCntMax.toNat ≤ w.streak m →
          controlBdgSameStCntMax.toNat ≤ (w.streak m + 1) % 256
  | .panel _ => True

/-- The counters are the numbers in a byte. -/
def Counts (w : SameWatch b) : Prop := ∀ m, w.node.cntSame m = UInt8.ofNat (w.streak m)

theorem counts_boot (p : Panel b) : (boot p).Counts := fun _ => rfl

/-- **Step lemma.** -/
theorem Counts.step {w : SameWatch b} (h : w.Counts) (ev : SameEvent b) : (w.step ev).Counts := by
  cases ev with
  | panel ev => exact h
  | command par m src dst op =>
    intro m'
    show (w.node.funcHandleControlMessage par m src dst op).cntSame m' = _
    rw [Node.funcHandleControlMessage_cntSame]
    cases hasks : w.node.asks par m src dst op with
    | none =>
      rw [Node.counted, SameWatch.step, hasks]
      exact h m'
    | some st =>
      rw [w.node.counted_cntSame hasks, SameWatch.step, hasks]
      dsimp only
      by_cases hm : m' = m
      -- the counter and the number stay or go on together, the counter in a byte
      · subst hm
        rw [Function.update_self]
        cases htarget : w.node.targets m' with
        | none => exact h m'
        | some t =>
          dsimp only
          rw [Function.update_self, nextStreak, h m']
          split
          · exact (UInt8.ofNat_add _ _).symm
          · rfl
      · rw [Function.update_of_ne hm]
        cases w.node.targets m with
        | none => exact h m'
        | some t =>
          dsimp only
          rw [Function.update_of_ne hm]
          exact h m'

/-- A counter behind one more command. -/
theorem le_succ_iff (k : Nat) : UInt8.ofNat k + 1 ≥ controlBdgSameStCntMax ↔
    controlBdgSameStCntMax.toNat ≤ (k + 1) % 256 := by
  rw [ge_iff_le, UInt8.le_iff_toNat_le, UInt8.toNat_add, UInt8.toNat_ofNat', UInt8.toNat_one]
  omega

/-- One command, where the counters count. -/
theorem Counts.suppresses_step_iff {w : SameWatch b} (h : w.Counts) (ev : SameEvent b) :
    w.Suppresses ev ↔ w.NoWrap ev := by
  cases ev with
  | panel ev => exact Iff.rfl
  | command par m src dst op =>
    refine forall_congr' fun hsame => ?_
    obtain ⟨st, hasks, htarget⟩ := hsame
    have hout : w.node.Suppressed par m src dst op ↔
        (w.node.panel.dev.checkEnControl m dst = true →
          controlBdgSameStCntMax.toNat ≤ (w.streak m + 1) % 256) := by
      rw [Node.suppressed_iff, Node.carriesOut, hasks]
      dsimp only
      rw [w.node.countSame_same htarget, h m, ← le_succ_iff]
      by_cases hcnt : UInt8.ofNat (w.streak m) + 1 ≥ controlBdgSameStCntMax
      · simp [hcnt]
      · simp [hcnt]
    rw [hout]
    exact ⟨fun hle hen hmax => hle hmax hen, fun hle hmax hen => hle hen hmax⟩

instance (w : SameWatch b) (par : List UInt8) (m : b.Btn) (src dst op : UInt16) :
    Decidable (w.AsksSame par m src dst op) :=
  decidable_of_iff ((w.node.asks par m src dst op).isSome = true ∧
      w.node.asks par m src dst op = w.node.targets m) (by
    rw [AsksSame, Option.isSome_iff_exists]
    constructor
    · rintro ⟨⟨st, hst⟩, heq⟩
      exact ⟨st, hst, heq ▸ hst⟩
    · rintro ⟨st, hst, htarget⟩
      exact ⟨⟨st, hst⟩, hst.trans htarget.symm⟩)

instance (w : SameWatch b) : ∀ ev, Decidable (w.Suppresses ev)
  | .command _ _ _ _ _ => inferInstanceAs (Decidable (_ → _ → _))
  | .panel _ => inferInstanceAs (Decidable True)

/-- **Every run**: from the boot on, commands for the state that is targeted stay suppressed
if and only if their number does not wrap at one that may control its element. -/
theorem suppresses_iff (p : Panel b) (evs : List (SameEvent b)) :
    AllSteps step Suppresses (boot p) evs ↔ AllSteps step NoWrap (boot p) evs := by
  refine AllSteps.simulation (R := fun w w' => w = w' ∧ w.Counts) ?_ ?_ ⟨rfl, counts_boot p⟩ evs
  · rintro w _ ev ⟨rfl, h⟩
    exact ⟨rfl, h.step ev⟩
  · rintro w _ ev ⟨rfl, h⟩
    exact h.suppresses_step_iff ev

/-- A CTL command for OFF to the group of the relay. -/
def ctlOff : SameEvent board1 :=
  .command [0, 0, 0, 0, 0] (Board.relayEle board1.chn0) 1 0xC001 lightCtlSet

/-- The 256th of them is carried out by a relay that is off. -/
theorem not_suppresses_ctlOff :
    ¬ AllSteps step Suppresses (boot (Mesh.momentaryNode 0x10).panel)
      (List.replicate 256 ctlOff) := by
  decide +kernel

end SameWatch

end LumesSwitch
