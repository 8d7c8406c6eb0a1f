import LumesSwitch.Scene.Slots
import LumesSwitch.Button.Panel

/-!
# The report of the scenes (`execution_loop_task`)

Ten presses of the second scene button make the switch report its scenes: a task that is called
again and again answers, every two seconds, a GET that it builds itself, for one slot after the
other. Messages go on changing the table meanwhile.

- `SceneReport.executionSetUpAutoSend`, `SceneReport.executionLoopTask` — the code;
- `ReportWatch.reported` — the report has one answer for each slot, in order, that to a GET at that
  pass, which for a slot that is left alone is that to a GET before the report.
-/

namespace LumesSwitch

open Bufs Nor Runs

variable {b : Board}

/-- `auto_send_arr`, which is also `support_event_arr`. -/
def autoSendArr : List UInt8 := [0, 1, 4, 5, 6, 8, 9, 10]

/-- `msg_get_execution_scene_t` for an entry of `auto_send_arr`, and what lies behind it: two of its
three bytes are set, and the handler copies five. -/
def msgGetExecutionScene (btnKey sendEvIdx : UInt8) (stack : Nat → UInt8) : Nat → UInt8
  | 0 => msgGet
  | 1 => ((btnKey <<< 4) &&& 0xF0) ||| (autoSendArr.getD sendEvIdx.toNat 0 &&& 0x0F)
  | n + 2 => stack n

/-- The scenes, and `send_exe_scene_delay_st`. -/
structure SceneReport (b : Board) where
  scenes : Scenes b
  delay : SendExeSceneDelay

namespace SceneReport

/-- `send_exe_scene_delay_st` behind a boot. -/
def bootDelay (b : Board) : SendExeSceneDelay := ⟨0, false, UInt8.ofNat b.numberButton, 0xFF⟩

/-- `execution_set_up_auto_send` -/
def executionSetUpAutoSend (r : SceneReport b) (now : UInt32) : SceneReport b :=
  { r with delay := ⟨now - 2000, true, 0, 0⟩ }

/-- The part of the switch that the report is about. -/
def ofPanel (s : Panel b) : SceneReport b := ⟨s.scenes, s.sendExeSceneDelay⟩

/-- The ten presses set up this report. -/
theorem ofPanel_executionSetUpAutoSend (s : Panel b) :
    ofPanel s.executionSetUpAutoSend = (ofPanel s).executionSetUpAutoSend s.now :=
  rfl

/-- A pass of the task has something to do. -/
def Due (r : SceneReport b) (now : UInt32) : Prop :=
  r.delay.enSend = true ∧ clockTimeExceed now r.delay.sendLastTMs 2000 = true

instance (r : SceneReport b) (now : UInt32) : Decidable (r.Due now) :=
  inferInstanceAs (Decidable (_ ∧ _))

/-- `execution_loop_task`, with its answer. -/
def executionLoopTask (r : SceneReport b) (now : UInt32) (stack : Nat → UInt8) :
    SceneReport b × Option SceneRsp :=
  if r.Due now then
    let d := { r.delay with sendLastTMs := now }
    if d.btnKey.toNat < b.numberButton ∧ d.sendEvIdx.toNat < autoSendArr.length then
      let (scenes, rsp) := r.scenes.handle (msgGetExecutionScene d.btnKey d.sendEvIdx stack)
      let d := { d with sendEvIdx := d.sendEvIdx + 1 }
      let d :=
        if d.sendEvIdx.toNat ≥ autoSendArr.length then
          { d with sendEvIdx := 0, btnKey := d.btnKey + 1 }
        else d
      (⟨scenes, d⟩, some rsp)
    else (⟨r.scenes, { d with enSend := false }⟩, none)
  else (r, none)

end SceneReport

/-! ## Runs -/

/-- What happens to the report. -/
inductive ReportEvent where
  | task (now : UInt32) (stack : Nat → UInt8)
  | msg (par : Nat → UInt8)
  | setUp (now : UInt32)
  | reboot

/-- The report, its answers since it was set up, and the number of passes that had something to
do. -/
structure ReportWatch (b : Board) where
  report : SceneReport b
  answers : List SceneRsp
  due : Nat

namespace ReportWatch

def step (w : ReportWatch b) : ReportEvent → ReportWatch b
  | .task now stack =>
    let (report, rsp) := w.report.executionLoopTask now stack
    ⟨report, w.answers ++ rsp.toList, if w.report.Due now then w.due + 1 else w.due⟩
  | .msg par => { w with report := { w.report with scenes := (w.report.scenes.handle par).1 } }
  | .setUp now => ⟨w.report.executionSetUpAutoSend now, [], 0⟩
  | .reboot => ⟨⟨w.report.scenes.restore, SceneReport.bootDelay b⟩, [], 0⟩

/-- An event that the report goes on behind. -/
def GoesOn : ReportEvent → Prop
  | .task .. | .msg _ => True
  | .setUp _ | .reboot => False

/-- A message that leaves the slot of button `k` and entry `e` alone, and any other event. -/
def LeavesAlone (k : b.Btn) (e : Fin 8) : ReportEvent → Prop
  | .msg par => Scenes.NotFor k (supportEventArr e) par
  | _ => True

/-- The GET for a slot. -/
def getOf (k : b.Btn) (e : Fin 8) (stack : Nat → UInt8) : Nat → UInt8 :=
  msgGetExecutionScene (UInt8.ofNat k) (UInt8.ofNat e) stack

/-- A pass that has something to do when there is an answer for each slot before this one, and what
a GET for the slot is answered by then. -/
def Answers (w : ReportWatch b) (k : b.Btn) (e : Fin 8) (rsp : SceneRsp) : ReportEvent → Prop
  | .task now stack => w.report.Due now ∧ w.answers.length = 8 * k.val + e.val ∧
      rsp = w.report.scenes.get (getOf k e stack)
  | _ => False

end ReportWatch

/-! ## The messages of the task -/

theorem slotOf_getOf (k : b.Btn) (e : Fin 8) (stack : Nat → UInt8) :
    slotOf b (keyNbr (ReportWatch.getOf k e stack)) (keyEvent (ReportWatch.getOf k e stack)) =
      some (k, e) := by
  have hbyte : ∀ (k : Fin 5) (e : Fin 8),
      let x : UInt8 := (((UInt8.ofNat k) <<< 4) &&& 0xF0) |||
        (autoSendArr.getD (UInt8.ofNat e).toNat 0 &&& 0x0F)
      (x >>> 4).toNat = k ∧ getKeyEventIndex (x &&& 0x0F) = some e := by
    decide
  have hfive : b.numberButton ≤ 5 := Nat.add_le_add_right b.le_three 2
  obtain ⟨hkey, hevent⟩ := hbyte ⟨k, Nat.lt_of_lt_of_le k.isLt hfive⟩ e
  have hkey' : (keyNbr (ReportWatch.getOf k e stack)).toNat = k := hkey
  rw [slotOf, dif_pos (by rw [hkey']; exact k.isLt)]
  have hevent' : getKeyEventIndex (keyEvent (ReportWatch.getOf k e stack)) = some e := hevent
  rw [hevent']
  exact congrArg some (Prod.ext (Fin.ext hkey') rfl)

/-- The answer of the task is that to a GET. -/
theorem handle_getOf (s : Scenes b) (btnKey sendEvIdx : UInt8) (stack : Nat → UInt8) :
    s.handle (msgGetExecutionScene btnKey sendEvIdx stack) =
      (s, s.get (msgGetExecutionScene btnKey sendEvIdx stack)) := by
  have htype : msgType (msgGetExecutionScene btnKey sendEvIdx stack) = msgGet :=
    show msgGet &&& 7 = msgGet by decide
  rw [Scenes.handle, htype, if_neg (by decide), if_neg (by decide), if_pos rfl]

/-- A GET looks at the slot only, and at the first two bytes of the message. -/
theorem get_getOf_congr {s s' : Scenes b} {k : b.Btn} {e : Fin 8}
    (h : s.table k e = s'.table k e) (stack stack' : Nat → UInt8) :
    s.get (ReportWatch.getOf k e stack) = s'.get (ReportWatch.getOf k e stack') := by
  rw [Scenes.get, Scenes.get, slotOf_getOf, slotOf_getOf]
  dsimp only
  rw [h]
  rfl

/-! ## The report -/

namespace SceneReport

/-- The cursor of the report: the number of the slot that comes next. -/
def cursor (r : SceneReport b) : Nat :=
  autoSendArr.length * r.delay.btnKey.toNat + r.delay.sendEvIdx.toNat

/-- A pass that answers: the slot at the cursor, which goes on by one. -/
theorem executionLoopTask_answer {r : SceneReport b} {now : UInt32} (hdue : r.Due now)
    (hidx : r.delay.sendEvIdx.toNat < 8) (hcursor : r.cursor < 8 * b.numberButton)
    (stack : Nat → UInt8) :
    ∃ (k : b.Btn) (e : Fin 8), r.cursor = 8 * k.val + e.val ∧
      (r.executionLoopTask now stack).2 = some (r.scenes.get (ReportWatch.getOf k e stack)) ∧
      let r' := (r.executionLoopTask now stack).1
      r'.scenes = r.scenes ∧ r'.delay.enSend = true ∧ r'.cursor = r.cursor + 1 ∧
        r'.delay.sendEvIdx.toNat < 8 := by
  have hfive : b.numberButton ≤ 5 := Nat.add_le_add_right b.le_three 2
  have hlen : autoSendArr.length = 8 := rfl
  rw [cursor, hlen] at hcursor
  have hkey : r.delay.btnKey.toNat < b.numberButton := by omega
  refine ⟨⟨r.delay.btnKey.toNat, hkey⟩, ⟨r.delay.sendEvIdx.toNat, hidx⟩, rfl, ?_⟩
  have hget : ReportWatch.getOf (⟨r.delay.btnKey.toNat, hkey⟩ : b.Btn)
      ⟨r.delay.sendEvIdx.toNat, hidx⟩ stack =
      msgGetExecutionScene r.delay.btnKey r.delay.sendEvIdx stack := by
    rw [ReportWatch.getOf, UInt8.ofNat_toNat, UInt8.ofNat_toNat]
  have hnext : (r.delay.sendEvIdx + 1).toNat = r.delay.sendEvIdx.toNat + 1 := by
    rw [UInt8.toNat_add, Nat.mod_eq_of_lt (by show _ + 1 < _; omega)]
    rfl
  have hnextKey : (r.delay.btnKey + 1).toNat = r.delay.btnKey.toNat + 1 := by
    rw [UInt8.toNat_add, Nat.mod_eq_of_lt (by show _ + 1 < _; omega)]
    rfl
  rw [executionLoopTask, if_pos hdue, hget]
  dsimp only
  rw [if_pos ⟨hkey, hidx⟩, handle_getOf]
  refine ⟨rfl, rfl, ?_⟩
  dsimp only
  by_cases hlast : (r.delay.sendEvIdx + 1).toNat ≥ autoSendArr.length
  · rw [if_pos hlast]
    rw [hlen] at hlast
    refine ⟨hdue.1, ?_, by show (0 : UInt8).toNat < 8; decide⟩
    show 8 * (r.delay.btnKey + 1).toNat + 0 = 8 * r.delay.btnKey.toNat + r.delay.sendEvIdx.toNat + 1
    rw [hnextKey]
    omega
  · rw [if_neg hlast]
    rw [hlen] at hlast
    refine ⟨hdue.1, ?_, by show (r.delay.sendEvIdx + 1).toNat < 8; omega⟩
    show 8 * r.delay.btnKey.toNat + (r.delay.sendEvIdx + 1).toNat =
      8 * r.delay.btnKey.toNat + r.delay.sendEvIdx.toNat + 1
    rw [hnext]
    rfl

/-- The pass behind the last slot ends the report. -/
theorem executionLoopTask_end {r : SceneReport b} {now : UInt32} (hdue : r.Due now)
    (hkey : r.delay.btnKey.toNat = b.numberButton) (stack : Nat → UInt8) :
    r.executionLoopTask now stack =
      (⟨r.scenes, { r.delay with sendLastTMs := now, enSend := false }⟩, none) := by
  rw [executionLoopTask, if_pos hdue]
  exact if_neg fun h => absurd h.1 (by rw [hkey]; exact Nat.lt_irrefl _)

end SceneReport

namespace ReportWatch

variable {w : ReportWatch b} {s : Scenes b} {k : b.Btn} {e : Fin 8}

/-- Where a report stands: it has an answer for each of the passes, but for the one that has ended
it. -/
structure Inv (w : ReportWatch b) : Prop where
  length : w.answers.length = min w.due (8 * b.numberButton)
  goesOn : w.due ≤ 8 * b.numberButton → w.report.delay.enSend = true ∧
    w.report.cursor = w.due ∧ w.report.delay.sendEvIdx.toNat < 8
  ended : 8 * b.numberButton < w.due → w.report.delay.enSend = false

/-- A slot that is as in `s`, and reported so. -/
structure Right (s : Scenes b) (k : b.Btn) (e : Fin 8) (w : ReportWatch b) : Prop where
  table : w.report.scenes.table k e = s.table k e
  answer : ∀ rsp ∈ w.answers[8 * k.val + e.val]?, ∀ stack, rsp = s.get (getOf k e stack)

theorem inv_setUp (w : ReportWatch b) (now : UInt32) : Inv (w.step (.setUp now)) where
  length := (Nat.zero_min _).symm
  goesOn _ := ⟨rfl, rfl, by show 0 < 8; decide⟩
  ended h := absurd h (Nat.not_lt_zero _)

/-- What a pass does that has something to do: it answers for the slot whose turn it is, or ends the
report. -/
theorem Inv.task (h : Inv w) {now : UInt32} (hdue : w.report.Due now) (stack : Nat → UInt8) :
    Inv (w.step (.task now stack)) ∧
      (w.step (.task now stack)).report.scenes = w.report.scenes ∧
      ((∃ (k : b.Btn) (e : Fin 8), w.answers.length = 8 * k.val + e.val ∧
          (w.step (.task now stack)).answers =
            w.answers ++ [w.report.scenes.get (getOf k e stack)]) ∨
        (w.step (.task now stack)).answers = w.answers) := by
  obtain ⟨report, answers, due⟩ := w
  have hlength : answers.length = min due (8 * b.numberButton) := h.length
  have hle : due ≤ 8 * b.numberButton := by
    by_contra hover
    exact Bool.false_ne_true ((h.ended (Nat.lt_of_not_le hover)).symm.trans hdue.1)
  obtain ⟨-, hcursor, hidx⟩ := h.goesOn hle
  dsimp only at hcursor hidx
  rw [step]
  dsimp only
  rw [if_pos hdue]
  by_cases hlast : due < 8 * b.numberButton
  · obtain ⟨k, e, hslot, hrsp, hscenes, hgoes, hnext, hidx'⟩ :=
      SceneReport.executionLoopTask_answer hdue hidx (hcursor ▸ hlast) stack
    rw [hrsp]
    refine ⟨⟨?_, fun _ => ⟨hgoes, by rw [hnext, hcursor], hidx'⟩, fun hover => ?_⟩, hscenes,
      .inl ⟨k, e, ?_, rfl⟩⟩
    · rw [List.length_append, hlength, Option.toList_some, List.length_singleton]
      show min due _ + 1 = min (due + 1) _
      omega
    · exact absurd hover (by show ¬ _ < due + 1; omega)
    · dsimp only at hslot
      omega
  · have hend : due = 8 * b.numberButton := by omega
    have hkey : report.delay.btnKey.toNat = b.numberButton := by
      rw [SceneReport.cursor, show autoSendArr.length = 8 from rfl] at hcursor
      omega
    rw [SceneReport.executionLoopTask_end hdue hkey]
    refine ⟨⟨?_, fun hover => ?_, fun _ => rfl⟩, rfl, .inr ?_⟩
    · rw [Option.toList_none, List.append_nil, hlength]
      show min due _ = min (due + 1) _
      omega
    · exact absurd hover (by show ¬ due + 1 ≤ _; omega)
    · exact List.append_nil _

/-- A pass that has nothing to do. -/
theorem step_task_of_not_due {now : UInt32} (hdue : ¬ w.report.Due now) (stack : Nat → UInt8) :
    w.step (.task now stack) = w := by
  rw [ReportWatch.step, SceneReport.executionLoopTask, if_neg hdue]
  dsimp only
  rw [if_neg hdue, Option.toList_none, List.append_nil]

/-- **Step lemma.** -/
theorem Inv.step (h : Inv w) {ev : ReportEvent} (hgoes : GoesOn ev) : Inv (w.step ev) := by
  cases ev with
  | task now stack =>
    by_cases hdue : w.report.Due now
    · exact (h.task hdue stack).1
    · rw [step_task_of_not_due hdue stack]
      exact h
  | msg par => exact ⟨h.length, h.goesOn, h.ended⟩
  | setUp now => exact hgoes.elim
  | reboot => exact hgoes.elim

/-- What a list holds that has grown by one. -/
theorem mem_getElem?_concat {rsps : List SceneRsp} {rsp new : SceneRsp} {i : Nat}
    (h : rsp ∈ (rsps ++ [new])[i]?) : rsp ∈ rsps[i]? ∨ i = rsps.length ∧ rsp = new := by
  by_cases hold : i < rsps.length
  · rw [List.getElem?_append_left hold] at h
    exact .inl h
  · have hlt := (List.getElem?_eq_some_iff.mp h).1
    rw [List.length_append, List.length_singleton] at hlt
    obtain rfl : i = rsps.length := by omega
    rw [List.getElem?_concat_length] at h
    exact .inr ⟨rfl, (Option.some.inj h).symm⟩

/-- **An answer** is an old one, or that of this pass for the slot. -/
theorem Inv.answered (h : Inv w) {ev : ReportEvent} (hgoes : GoesOn ev) {rsp : SceneRsp}
    (hmem : rsp ∈ (w.step ev).answers[8 * k.val + e.val]?) :
    rsp ∈ w.answers[8 * k.val + e.val]? ∨ w.Answers k e rsp ev := by
  cases ev with
  | task now stack =>
    by_cases hdue : w.report.Due now
    · obtain ⟨-, -, ⟨k', e', hturn, hnew⟩ | hsame⟩ := h.task hdue stack
      · rw [hnew] at hmem
        rcases mem_getElem?_concat hmem with hold | ⟨hindex, hrsp⟩
        · exact .inl hold
        · obtain rfl : k' = k := Fin.ext (by omega)
          obtain rfl : e' = e := Fin.ext (by omega)
          exact .inr ⟨hdue, hturn, hrsp⟩
      · rw [hsame] at hmem
        exact .inl hmem
    · rw [step_task_of_not_due hdue stack] at hmem
      exact .inl hmem
  | msg par => exact .inl hmem
  | setUp now => exact hgoes.elim
  | reboot => exact hgoes.elim

theorem Right.step (h : Right s k e w) (hinv : Inv w) {ev : ReportEvent} (hgoes : GoesOn ev)
    (halone : LeavesAlone k e ev) : Right s k e (w.step ev) := by
  refine ⟨?_, fun rsp hmem stack => ?_⟩
  · cases ev with
    | task now stack =>
      by_cases hdue : w.report.Due now
      · rw [(hinv.task hdue stack).2.1]
        exact h.table
      · rw [step_task_of_not_due hdue stack]
        exact h.table
    | msg par =>
      exact (Scenes.handle_table_other _ par (getKeyEventIndex_supportEventArr e) halone).trans
        h.table
    | setUp now => exact hgoes.elim
    | reboot => exact hgoes.elim
  · rcases hinv.answered hgoes hmem with hold | hnew
    · exact h.answer rsp hold stack
    · cases ev with
      | task now stack' =>
        obtain ⟨-, -, rfl⟩ := hnew
        exact get_getOf_congr h.table stack' stack
      | msg par => exact hnew.elim
      | setUp now => exact hnew.elim
      | reboot => exact hnew.elim

/-- **Every answer** of a run, if it was not there before, was given by a pass of it. -/
theorem Inv.answered_runFrom (h : Inv w) {evs : List ReportEvent} (hgoes : ∀ ev ∈ evs, GoesOn ev)
    {rsp : SceneRsp} (hmem : rsp ∈ (runFrom ReportWatch.step w evs).answers[8 * k.val + e.val]?) :
    rsp ∈ w.answers[8 * k.val + e.val]? ∨
      ∃ before ev behind, evs = before ++ ev :: behind ∧
        (runFrom ReportWatch.step w before).Answers k e rsp ev := by
  induction evs generalizing w with
  | nil => exact .inl hmem
  | cons ev evs ih =>
    have hev := hgoes ev List.mem_cons_self
    rw [runFrom_cons] at hmem
    rcases ih (h.step hev) (fun ev' hmem' => hgoes ev' (List.mem_cons_of_mem _ hmem')) hmem with
      hfirst | ⟨before, ev', behind, rfl, hanswers⟩
    · exact (h.answered hev hfirst).imp_right fun hanswers => ⟨[], ev, evs, rfl, hanswers⟩
    · exact .inr ⟨ev :: before, ev', behind, rfl, hanswers⟩

/-- **A report**, whatever was before it, and among any messages: the passes that find two seconds
gone by answer for one slot after the other, as the table is then, and the one behind the last slot
ends it; the answer for a slot that the messages leave alone is that to a GET before the report. -/
theorem reported (w : ReportWatch b) (start : UInt32) (evs : List ReportEvent)
    (hgoes : ∀ ev ∈ evs, GoesOn ev) :
    let s := w.report.scenes
    let w' := runFrom step (w.step (.setUp start)) evs
    w'.answers.length = min w'.due (8 * b.numberButton) ∧
      (w'.report.delay.enSend = true ↔ w'.due ≤ 8 * b.numberButton) ∧
      ∀ (k : b.Btn) (e : Fin 8), ∀ rsp ∈ w'.answers[8 * k.val + e.val]?,
        (∃ before ev behind, evs = before ++ ev :: behind ∧
          (runFrom step (w.step (.setUp start)) before).Answers k e rsp ev) ∧
        ((∀ ev ∈ evs, LeavesAlone k e ev) → ∀ stack, rsp = s.get (getOf k e stack)) := by
  intro s
  have hrun : ∀ (evs : List ReportEvent) (w : ReportWatch b), Inv w → (∀ ev ∈ evs, GoesOn ev) →
      Inv (runFrom step w evs) ∧ ∀ k e, Right s k e w → (∀ ev ∈ evs, LeavesAlone k e ev) →
        Right s k e (runFrom step w evs) := by
    intro evs
    induction evs with
    | nil => exact fun w h _ => ⟨h, fun _ _ hright _ => hright⟩
    | cons ev evs ih =>
      intro w h hgoes
      have hev := hgoes ev List.mem_cons_self
      obtain ⟨hinv, hright⟩ := ih (w.step ev) (h.step hev)
        fun ev' hmem => hgoes ev' (List.mem_cons_of_mem _ hmem)
      refine ⟨hinv, fun k e hr halone => hright k e ?_ ?_⟩
      · exact hr.step h hev (halone ev List.mem_cons_self)
      · exact fun ev' hmem => halone ev' (List.mem_cons_of_mem _ hmem)
  obtain ⟨hinv, hright⟩ := hrun evs _ (inv_setUp w start) hgoes
  refine ⟨hinv.length, ⟨fun hon => ?_, fun hle => (hinv.goesOn hle).1⟩,
    fun k e rsp hmem => ⟨?_, fun halone => ?_⟩⟩
  · by_contra hover
    exact Bool.false_ne_true ((hinv.ended (Nat.lt_of_not_le hover)).symm.trans hon)
  · exact ((inv_setUp w start).answered_runFrom hgoes hmem).resolve_left fun hmem => nomatch hmem
  · exact (hright k e ⟨rfl, fun rsp hmem => nomatch hmem⟩ halone).answer rsp hmem

/-- Two passes with something to do, one that comes early, and a DELETE for the next button. -/
def twoPasses : List ReportEvent :=
  [.task 1 fun _ => 0xAA, .task 900 fun _ => 0xAA, .msg (received [0x01, 0x11]),
    .task 2002 fun _ => 0xAA]

/-- An erased table answers that it has nothing, for the first two slots. -/
theorem reported_twoPasses :
    let r : ReportWatch board1 := ⟨⟨Scenes.erased board1, SceneReport.bootDelay board1⟩, [], 0⟩
    let w := runFrom step (r.step (.setUp 0)) twoPasses
    w.answers.length = 2 ∧ w.report.delay.enSend = true ∧
      ∀ rsp ∈ w.answers[1]?, rsp = .sent [0x03, 0x02, 0x01] := by
  intro r
  have hgoes : ∀ ev ∈ twoPasses, GoesOn ev := by simp [twoPasses, GoesOn]
  have halone : ∀ ev ∈ twoPasses, LeavesAlone (⟨0, by decide⟩ : board1.Btn) 1 ev := by
    have hother : slotOf board1 (keyNbr (received [0x01, 0x11]))
        (keyEvent (received [0x01, 0x11])) = some (⟨1, by decide⟩, 1) := by decide +kernel
    simp only [twoPasses, List.forall_mem_cons, LeavesAlone, true_and, Scenes.NotFor]
    refine ⟨?_, List.forall_mem_nil _⟩
    rw [if_neg (by decide), if_pos (by decide), hother]
    rintro k' e' heq rfl
    exact absurd (Prod.mk.inj (Option.some.inj heq)).1 (by decide)
  have hdue : (runFrom step (r.step (.setUp 0)) twoPasses).due = 2 := by decide +kernel
  obtain ⟨hlength, hon, hright⟩ := reported r 0 twoPasses hgoes
  rw [hdue] at hlength hon
  refine ⟨hlength, hon.mpr (by decide), fun rsp hmem => ?_⟩
  exact ((hright ⟨0, by decide⟩ 1 rsp hmem).2 halone fun _ => 0xAA).trans (by decide +kernel)

end ReportWatch

end LumesSwitch
