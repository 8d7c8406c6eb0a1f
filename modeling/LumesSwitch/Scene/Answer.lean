import LumesSwitch.Scene.RoundTrip

/-!
# How long the answer to a GET gets

A GET answers with the entries of a slot: it counts those that look used, and copies as many
from the front, each with the payload length that it finds there. The two counters of the
answer are bytes, and the buffer behind them has 84.

- `Scenes.answer` — the branch MSG_GET, write by write;
- `Scenes.get_eq_answer` — it sends what `Scenes.get` does for slots that an ADD has filled;
- `Scenes.answer_fits_iff` — when the answer stays inside its buffer.
-/

namespace LumesSwitch

open Bufs Nor Runs Words

/-! ## The buffer and its counters -/

/-- An answer while it is written: the writes to `rsp` with their index, the counters `idx`
and `len`, and the indexes of `control_infor` or `scene_control` that are read. -/
structure GetAnswer where
  rsp : List (UInt8 × Nat)
  idx : UInt8
  len : UInt8
  reads : List Nat

namespace GetAnswer

/-- The bytes that are written. -/
def written (a : GetAnswer) : List UInt8 := a.rsp.map Prod.fst

/-- `memcpy` of a header of `bs.length` bytes, and the two counters set behind it. -/
def start (bs : List UInt8) (reads : List Nat) : GetAnswer :=
  ⟨bs.zipIdx, UInt8.ofNat bs.length, UInt8.ofNat bs.length, reads⟩

/-- `rsp[idx++] = x` -/
def put (a : GetAnswer) (x : UInt8) : GetAnswer :=
  { a with rsp := a.rsp ++ [(x, a.idx.toNat)], idx := a.idx + 1 }

/-- `bs` put one after the other, and `len` advanced. -/
def putAll (a : GetAnswer) (bs : List UInt8) : GetAnswer :=
  let a := runFrom put a bs
  { a with len := a.len + UInt8.ofNat bs.length }

/-- `rsp[len++] = x` -/
def putLast (a : GetAnswer) (x : UInt8) : GetAnswer :=
  { a with rsp := a.rsp ++ [(x, a.len.toNat)], len := a.len + 1 }

/-- The entry `i` is read. -/
def reading (a : GetAnswer) (i : Nat) : GetAnswer := { a with reads := a.reads ++ [i] }

/-- The answer stays inside its buffer, with its length counted right, and reads entries that
exist. -/
def Fits (a : GetAnswer) : Prop :=
  a.rsp.length ≤ 84 ∧ a.len.toNat = a.rsp.length ∧ ∀ i ∈ a.reads, i < maxSceneDestAdr

/-- `len` is the number of bytes written, as far as a byte can count. -/
def Counted (a : GetAnswer) : Prop := a.len = UInt8.ofNat a.rsp.length

end GetAnswer

/-! ## MSG_GET -/

namespace ParExecutionScene

/-- The memory from the union of a slot on; `behind` is what comes after the slot. -/
def unionMem (p : ParExecutionScene) (behind : Nat → UInt8) (off : Nat) : UInt8 :=
  if off < 85 then p.area.get off else if off = 85 then p.transTime else behind (off - 86)

/-- The number of destinations that look used. -/
def nbrOfDest (p : ParExecutionScene) : Nat :=
  (List.range maxSceneDestAdr).countP fun i => (p.payloadLen i).toNat ≤ maxPayloadLen

/-- The number of scenes that look used. -/
def nbrOfScene (p : ParExecutionScene) : Nat :=
  (List.range maxSceneDestAdr).countP fun i => p.inSceneId i ≠ lmSceneInInvalid

/-- The number of bytes of the destinations that are copied. -/
def destsLength (p : ParExecutionScene) : Nat :=
  ((List.range' 0 p.nbrOfDest).map fun i => 3 + (p.payloadLen i).toNat).sum

end ParExecutionScene

/-- The body of the loop over the destinations of an answer. -/
def putDest (p : ParExecutionScene) (behind : Nat → UInt8) (a : GetAnswer) (i : Nat) : GetAnswer :=
  let a := (a.reading i).putAll [p.area.get (17 * i), p.area.get (17 * i + 1), p.payloadLen i]
  runFrom (fun a j => a.putAll [p.unionMem behind (17 * i + 3 + j)]) a
    (List.range (p.payloadLen i).toNat)

/-- The body of the loop over the scenes of an answer. -/
def putScene (p : ParExecutionScene) (a : GetAnswer) (i : Nat) : GetAnswer :=
  (a.reading i).putAll
    [p.area.get (4 * i), p.area.get (4 * i + 1), p.area.get (4 * i + 2), p.area.get (4 * i + 3)]

namespace Scenes

variable {b : Board}

/-- The branch MSG_GET. -/
def answer (s : Scenes b) (behind : Nat → UInt8) (par : Nat → UInt8) : GetAnswer :=
  match slotOf b (keyNbr par) (keyEvent par) with
  | none => .start [rspTypeAndId par msgGet, exStatusFail, par 1] []
  | some (k, e) =>
    let p := s.table k e
    if p.btnEvent = 0xFF then .start [rspTypeAndId par msgGet, exStatusNotSetBefore, par 1] []
    else
      -- every entry is looked at to count
      let header (n : Nat) : GetAnswer :=
        .start ([rspTypeAndId par msgGet, exStatusSuccess, par 1] ++ u16Bytes p.sceneId ++
          [UInt8.ofNat n]) (List.range maxSceneDestAdr)
      let a :=
        if p.sceneId ≠ lmSceneInInvalid then
          runFrom (putDest p behind) (header p.nbrOfDest) (List.range' 0 p.nbrOfDest)
        else runFrom (putScene p) (header p.nbrOfScene) (List.range' 0 p.nbrOfScene)
      a.putLast p.transTime

/-- The condition: a list of messages to be copied takes up at most 77 bytes. -/
def AnswerFits (s : Scenes b) (par : Nat → UInt8) : Prop :=
  ∀ k e, slotOf b (keyNbr par) (keyEvent par) = some (k, e) →
    (s.table k e).btnEvent ≠ 0xFF → (s.table k e).sceneId ≠ lmSceneInInvalid →
      (s.table k e).destsLength ≤ 77

end Scenes

/-! ## What is written -/

namespace GetAnswer

variable (a : GetAnswer)

theorem length_written : a.written.length = a.rsp.length := List.length_map _

@[simp] theorem written_start (bs : List UInt8) (reads : List Nat) :
    (start bs reads).written = bs := by
  simp [written, start]

theorem counted_start (bs : List UInt8) (reads : List Nat) : (start bs reads).Counted := by
  simp [Counted, start]

/-- Putting bytes one after the other. -/
theorem runFrom_put (bs : List UInt8) :
    (runFrom put a bs).written = a.written ++ bs ∧ (runFrom put a bs).len = a.len ∧
      (runFrom put a bs).reads = a.reads := by
  induction bs generalizing a with
  | nil => exact ⟨(List.append_nil _).symm, rfl, rfl⟩
  | cons x bs ih =>
    obtain ⟨hw, hl, hr⟩ := ih (a.put x)
    refine ⟨?_, hl, hr⟩
    rw [runFrom_cons, hw]
    simp [written, put]

@[simp] theorem written_putAll (bs : List UInt8) : (a.putAll bs).written = a.written ++ bs :=
  (a.runFrom_put bs).1

@[simp] theorem reads_putAll (bs : List UInt8) : (a.putAll bs).reads = a.reads :=
  (a.runFrom_put bs).2.2

variable {a}

theorem Counted.putAll (h : a.Counted) (bs : List UInt8) : (a.putAll bs).Counted := by
  have hlen : (a.putAll bs).rsp.length = a.rsp.length + bs.length := by
    rw [← length_written, written_putAll, List.length_append, length_written]
  have hcount : (a.putAll bs).len = a.len + UInt8.ofNat bs.length :=
    congrArg (· + UInt8.ofNat bs.length) (a.runFrom_put bs).2.1
  rw [Counted, hlen, hcount, UInt8.ofNat_add, h]

theorem Counted.putLast (h : a.Counted) (x : UInt8) : (a.putLast x).Counted := by
  have hlen : (a.putLast x).rsp.length = a.rsp.length + 1 := by simp [GetAnswer.putLast]
  rw [Counted, hlen, UInt8.ofNat_add, ← h]
  rfl

theorem written_putLast (a : GetAnswer) (x : UInt8) :
    (a.putLast x).written = a.written ++ [x] := by
  simp [written, GetAnswer.putLast]

/-- An answer that counts right and reads entries that exist fits if it is short enough. -/
theorem Counted.fits_iff (h : a.Counted) (hreads : ∀ i ∈ a.reads, i < maxSceneDestAdr) :
    a.Fits ↔ a.written.length ≤ 84 := by
  rw [length_written, Fits, and_iff_left hreads]
  refine and_iff_left_of_imp fun hlen => ?_
  rw [h, UInt8.toNat_ofNat']
  omega

end GetAnswer

/-- A step of writing: it appends the bytes `g i`, and reads the entries `r i`. -/
structure Writes {ι : Type} (step : GetAnswer → ι → GetAnswer) (g : ι → List UInt8)
    (r : ι → List Nat) : Prop where
  written : ∀ a i, (step a i).written = a.written ++ g i
  reads : ∀ a i, (step a i).reads = a.reads ++ r i
  counted : ∀ a i, a.Counted → (step a i).Counted

/-- A loop of such steps is one. -/
theorem Writes.run {ι : Type} {step : GetAnswer → ι → GetAnswer} {g : ι → List UInt8}
    {r : ι → List Nat} (h : Writes step g r) :
    Writes (runFrom step) (List.flatMap g) (List.flatMap r) where
  written a is := by
    induction is generalizing a with
    | nil => exact (List.append_nil _).symm
    | cons i is ih => rw [runFrom_cons, ih, h.written, List.flatMap_cons, List.append_assoc]
  reads a is := by
    induction is generalizing a with
    | nil => exact (List.append_nil _).symm
    | cons i is ih => rw [runFrom_cons, ih, h.reads, List.flatMap_cons, List.append_assoc]
  counted a is hc := invariant_runFrom h.counted hc is

theorem writes_putAll {ι : Type} (g : ι → List UInt8) :
    Writes (fun a i => a.putAll (g i)) g fun _ => [] where
  written a i := a.written_putAll (g i)
  reads a i := (a.reads_putAll (g i)).trans (List.append_nil _).symm
  counted _ i hc := hc.putAll (g i)

/-- The bytes that an answer copies of destination `i`. -/
def destAnswer (p : ParExecutionScene) (behind : Nat → UInt8) (i : Nat) : List UInt8 :=
  [p.area.get (17 * i), p.area.get (17 * i + 1), p.payloadLen i] ++
    (List.range (p.payloadLen i).toNat).map fun j => p.unionMem behind (17 * i + 3 + j)

theorem writes_putDest (p : ParExecutionScene) (behind : Nat → UInt8) :
    Writes (putDest p behind) (destAnswer p behind) fun i => [i] := by
  have hpayload := fun i => (writes_putAll fun j => [p.unionMem behind (17 * i + 3 + j)]).run
  constructor
  · intro a i
    rw [putDest, (hpayload i).written, GetAnswer.written_putAll, destAnswer, List.append_assoc,
      List.map_eq_flatMap]
    rfl
  · intro a i
    rw [putDest, (hpayload i).reads, GetAnswer.reads_putAll]
    simp [GetAnswer.reading]
  · intro a i hc
    exact (hpayload i).counted _ _ (GetAnswer.Counted.putAll (a := a.reading i) hc _)

theorem writes_putScene (p : ParExecutionScene) :
    Writes (putScene p) (fun i => p.area.read (4 * i) 4) fun i => [i] where
  written a i := (a.reading i).written_putAll _
  reads a i := (a.reading i).reads_putAll _
  counted a i hc := GetAnswer.Counted.putAll (a := a.reading i) hc _

/-! ## The length of the answer -/

section Length

variable (p : ParExecutionScene) (behind : Nat → UInt8)

theorem nbrOfDest_le : p.nbrOfDest ≤ maxSceneDestAdr :=
  Nat.le_trans List.countP_le_length (Nat.le_of_eq List.length_range)

theorem nbrOfScene_le : p.nbrOfScene ≤ maxSceneDestAdr :=
  Nat.le_trans List.countP_le_length (Nat.le_of_eq List.length_range)

theorem length_destAnswer (i : Nat) :
    (destAnswer p behind i).length = 3 + (p.payloadLen i).toNat := by
  simp [destAnswer]
  omega

theorem length_destAnswers :
    ((List.range' 0 p.nbrOfDest).flatMap (destAnswer p behind)).length = p.destsLength := by
  simp [List.length_flatMap, length_destAnswer, ParExecutionScene.destsLength]

theorem length_sceneAnswers :
    ((List.range' 0 p.nbrOfScene).flatMap fun i => p.area.read (4 * i) 4).length =
      4 * p.nbrOfScene := by
  simp [List.length_flatMap, Nat.mul_comm]

/-- The entries read are those that are counted, and a number of them from the front. -/
theorem reads_lt {n : Nat} (hn : n ≤ maxSceneDestAdr) :
    ∀ i ∈ List.range maxSceneDestAdr ++ (List.range' 0 n).flatMap fun i => [i],
      i < maxSceneDestAdr := by
  intro i hi
  rcases List.mem_append.mp hi with hi | hi
  · exact List.mem_range.mp hi
  · rw [List.flatMap_singleton', List.mem_range'_1] at hi
    omega

end Length

namespace Scenes

variable {b : Board} (s : Scenes b) (behind : Nat → UInt8) (par : Nat → UInt8)

/-- What comes between the header of an answer and its transition time. -/
def answerList (p : ParExecutionScene) (behind : Nat → UInt8) : Nat × List UInt8 :=
  if p.sceneId ≠ lmSceneInInvalid then
    (p.nbrOfDest, (List.range' 0 p.nbrOfDest).flatMap (destAnswer p behind))
  else (p.nbrOfScene, (List.range' 0 p.nbrOfScene).flatMap fun i => p.area.read (4 * i) 4)

/-- The answer for a slot that is set. -/
theorem answer_set {k : b.Btn} {e : Fin 8}
    (hslot : slotOf b (keyNbr par) (keyEvent par) = some (k, e))
    (hset : (s.table k e).btnEvent ≠ 0xFF) :
    (s.answer behind par).written =
        [rspTypeAndId par msgGet, exStatusSuccess, par 1] ++ u16Bytes (s.table k e).sceneId ++
          [UInt8.ofNat (answerList (s.table k e) behind).1] ++
          (answerList (s.table k e) behind).2 ++ [(s.table k e).transTime] ∧
      (s.answer behind par).Counted ∧ ∀ i ∈ (s.answer behind par).reads, i < maxSceneDestAdr := by
  rw [answer, hslot]
  dsimp only
  rw [if_neg hset]
  generalize s.table k e = p
  unfold answerList
  by_cases hdirect : p.sceneId ≠ lmSceneInInvalid
  · rw [if_pos hdirect, if_pos hdirect]
    have hw := (writes_putDest p behind).run
    refine ⟨?_, (hw.counted _ _ (GetAnswer.counted_start _ _)).putLast _, ?_⟩
    · rw [GetAnswer.written_putLast, hw.written, GetAnswer.written_start]
    · rw [show (GetAnswer.putLast _ p.transTime).reads = _ from hw.reads _ _]
      exact reads_lt (nbrOfDest_le p)
  · rw [if_neg hdirect, if_neg hdirect]
    have hw := (writes_putScene p).run
    refine ⟨?_, (hw.counted _ _ (GetAnswer.counted_start _ _)).putLast _, ?_⟩
    · rw [GetAnswer.written_putLast, hw.written, GetAnswer.written_start]
    · rw [show (GetAnswer.putLast _ p.transTime).reads = _ from hw.reads _ _]
      exact reads_lt (nbrOfScene_le p)

/-- The answer for a slot that is not set. -/
theorem answer_unset {k : b.Btn} {e : Fin 8}
    (hslot : slotOf b (keyNbr par) (keyEvent par) = some (k, e))
    (hunset : (s.table k e).btnEvent = 0xFF) :
    s.answer behind par =
      .start [rspTypeAndId par msgGet, exStatusNotSetBefore, par 1] [] := by
  rw [answer, hslot]
  exact if_pos hunset

/-- An answer of a status alone fits. -/
theorem fits_status (x y z : UInt8) : (GetAnswer.start [x, y, z] []).Fits :=
  ((GetAnswer.counted_start _ _).fits_iff fun i hi => absurd hi List.not_mem_nil).mpr (by simp)

/-- The answer to a GET stays inside its buffer if and only if it is not for a slot that is set
to messages of more than 77 bytes. -/
theorem answer_fits_iff : (s.answer behind par).Fits ↔ s.AnswerFits par := by
  cases hslot : slotOf b (keyNbr par) (keyEvent par) with
  | none =>
    rw [answer, hslot]
    refine iff_of_true (fits_status _ _ _) fun k e h => ?_
    rw [hslot] at h
    cases h
  | some ke =>
    obtain ⟨k, e⟩ := ke
    have hcond : s.AnswerFits par ↔ ((s.table k e).btnEvent ≠ 0xFF →
        (s.table k e).sceneId ≠ lmSceneInInvalid → (s.table k e).destsLength ≤ 77) := by
      constructor
      · exact fun h => h k e hslot
      · intro h k' e' hslot'
        obtain ⟨rfl, rfl⟩ := Prod.mk.inj (Option.some.inj (hslot.symm.trans hslot'))
        exact h
    rw [hcond]
    by_cases hset : (s.table k e).btnEvent = 0xFF
    · rw [s.answer_unset behind par hslot hset]
      exact iff_of_true (fits_status _ _ _) fun h => absurd hset h
    · obtain ⟨hwritten, hcounted, hreads⟩ := s.answer_set behind par hslot hset
      have hlen : (s.answer behind par).written.length =
          7 + (answerList (s.table k e) behind).2.length := by
        rw [hwritten]
        simp [u16Bytes]
        omega
      rw [hcounted.fits_iff hreads, hlen, forall_prop_of_true hset]
      unfold answerList
      by_cases hdirect : (s.table k e).sceneId ≠ lmSceneInInvalid
      · rw [if_pos hdirect, length_destAnswers, forall_prop_of_true hdirect]
        omega
      · have hfive : maxSceneDestAdr = 5 := rfl
        have hle := nbrOfScene_le (s.table k e)
        rw [if_neg hdirect, length_sceneAnswers]
        exact iff_of_true (by omega) fun h => absurd h hdirect

/-- ADD of the first press of button 0: five messages with payloads of 14 bytes. -/
def fiveFullPayloads : List UInt8 :=
  [0x08, 0x01, 0x00, 0x00, 5] ++
    (List.replicate 5 ([0x01, 0xC0, 14] ++ List.replicate 14 0xAA)).flatten ++ [5]

/-- On a new device with that ADD, the GET of the first press of button 0 writes 92 bytes. -/
theorem not_fits_fiveFullPayloads :
    ((erased board1).handle (received fiveFullPayloads)).2 =
        .sent [0x08, exStatusSuccess, 0x01, 0x00, 0x00] ∧
      (((erased board1).handle (received fiveFullPayloads)).1.answer (fun _ => 0)
        (received [0x0B, 0x01, 0, 0, 0])).rsp.length = 92 ∧
      ¬ (((erased board1).handle (received fiveFullPayloads)).1.answer (fun _ => 0)
        (received [0x0B, 0x01, 0, 0, 0])).Fits := by
  have hlen : (((erased board1).handle (received fiveFullPayloads)).1.answer (fun _ => 0)
      (received [0x0B, 0x01, 0, 0, 0])).rsp.length = 92 := by decide +kernel
  refine ⟨by decide +kernel, hlen, fun hfits => ?_⟩
  have hle := hfits.1
  rw [hlen] at hle
  omega

/-- The payload of an entry is read out of the union if it is no longer than a payload. -/
theorem destAnswer_eq (p : ParExecutionScene) {i : Nat} (hi : i < maxSceneDestAdr)
    (h : (p.payloadLen i).toNat ≤ maxPayloadLen) :
    destAnswer p behind i =
      p.area.read (17 * i) 3 ++ p.area.read (17 * i + 3) (p.payloadLen i).toNat := by
  have hfive : maxSceneDestAdr = 5 := rfl
  have hmax : maxPayloadLen = 14 := rfl
  refine congrArg₂ (· ++ ·) rfl (List.map_congr_left fun j hj => ?_)
  have hj' := List.mem_range.mp hj
  exact if_pos (by omega)

/-- Where no payload length that is copied is longer than a payload, the bytes of the answer
are those that `get` sends. -/
theorem get_eq_answer (h : ∀ k e, slotOf b (keyNbr par) (keyEvent par) = some (k, e) →
      ∀ i < (s.table k e).nbrOfDest, ((s.table k e).payloadLen i).toNat ≤ maxPayloadLen) :
    s.get par =
      if (s.answer behind par).rsp.length ≤ 84 then .sent (s.answer behind par).written
      else .overrun := by
  rw [← GetAnswer.length_written]
  cases hslot : slotOf b (keyNbr par) (keyEvent par) with
  | none =>
    rw [get, answer, hslot]
    rfl
  | some ke =>
    obtain ⟨k, e⟩ := ke
    by_cases hset : (s.table k e).btnEvent = 0xFF
    · rw [s.answer_unset behind par hslot hset, get, hslot]
      exact if_pos hset
    · have hentries : entries (s.table k e) = answerList (s.table k e) behind := by
        unfold entries answerList
        split
        · refine congrArg (Prod.mk (s.table k e).nbrOfDest) (List.flatMap_congr fun i hi => ?_)
          have hlt : i < (s.table k e).nbrOfDest := by
            have hlt := (List.mem_range'_1.mp hi).2
            rw [Nat.zero_add] at hlt
            exact hlt
          exact (destAnswer_eq behind _ (Nat.lt_of_lt_of_le hlt (nbrOfDest_le _))
            (h k e hslot i hlt)).symm
        · rfl
      rw [(s.answer_set behind par hslot hset).1, get, hslot]
      dsimp only
      rw [if_neg hset, hentries]
      simp

end Scenes

end LumesSwitch
