import Mathlib.Data.List.Count
import LumesSwitch.Scene.Table

/-!
# What an ADD stores, a GET answers

The setup messages as their sender builds them, and when a GET answers what an ADD
carried, with other messages and reboots in between.

- `AddMsg` — an ADD message, with its three layouts, and its bytes;
- `destsRead` — what the loop over the destinations reads, as a recursion over the
  message: the loop stores it, and GET reports it;
- `AddBody.Fits` — the condition under which the two agree;
- `Scenes.get_after_add_iff` — GET answers what ADD carried exactly then.
-/

namespace LumesSwitch

open Bufs Nor Runs Words

/-! ## Messages -/

/-- A destination of a list of messages. -/
structure SceneDest where
  addr : UInt16
  payload : List UInt8
  length_le : payload.length ≤ 255

def SceneDest.bytes (d : SceneDest) : List UInt8 :=
  u16Bytes d.addr ++ UInt8.ofNat d.payload.length :: d.payload

/-- An entry of a list of scenes. -/
structure SceneInfor where
  id : UInt16
  transT : UInt8
  delayT : UInt8

def SceneInfor.bytes (x : SceneInfor) : List UInt8 := u16Bytes x.id ++ [x.transT, x.delayT]

/-- The three layouts of an ADD. Of a single scene the number of entries is not used. -/
inductive AddBody where
  | direct (dests : List SceneDest) (h : dests.length ≤ 255)
  | single (id : UInt16) (nums : UInt8) (hne : id ≠ sceneIdInvalid) (hne' : id ≠ lmSceneInInvalid)
  | multi (infos : List SceneInfor) (h : infos.length ≤ 255)

namespace AddBody

def sceneId : AddBody → UInt16
  | direct .. => sceneIdInvalid
  | single id .. => id
  | multi .. => lmSceneInInvalid

/-- The byte that holds the number of entries. -/
def nums : AddBody → UInt8
  | direct dests _ => UInt8.ofNat dests.length
  | single _ nums .. => nums
  | multi infos _ => UInt8.ofNat infos.length

/-- The entries that the message carries: their number, and their bytes. -/
def entries : AddBody → Nat × List UInt8
  | direct dests _ => (dests.length, dests.flatMap SceneDest.bytes)
  | single .. => (0, [])
  | multi infos _ => (infos.length, infos.flatMap SceneInfor.bytes)

end AddBody

/-- An ADD message. -/
structure AddMsg where
  typeAndId : UInt8
  event : UInt8
  body : AddBody
  transTime : UInt8
  isAdd : typeAndId &&& 7 = msgAdd

namespace AddMsg

/-- The message on the wire. -/
def bytes (m : AddMsg) : List UInt8 :=
  [m.typeAndId, m.event] ++ (u16Bytes m.body.sceneId ++
    m.body.nums :: (m.body.entries.2 ++ [m.transTime]))

/-- The answer to the GET `par` that reports what the ADD carried. -/
def report (m : AddMsg) (par : Nat → UInt8) : SceneRsp :=
  .sent ([rspTypeAndId par msgGet, exStatusSuccess, par 1] ++ u16Bytes m.body.sceneId ++
    UInt8.ofNat m.body.entries.1 :: m.body.entries.2 ++ [m.transTime])

end AddMsg

/-! ## Reading a message -/

section Carries

variable {par : Nat → UInt8} {off : Nat}

/-- `par` holds `bs` from position `off` on. -/
def CarriesAt (par : Nat → UInt8) (off : Nat) (bs : List UInt8) : Prop :=
  bytesAt par off bs.length = bs

instance {bs : List UInt8} : Decidable (CarriesAt par off bs) := inferInstanceAs (Decidable (_ = _))

@[simp] theorem bytesAt_length (par : Nat → UInt8) (off len : Nat) :
    (bytesAt par off len).length = len := by
  simp [bytesAt]

theorem bytesAt_add (par : Nat → UInt8) (off len len' : Nat) :
    bytesAt par off (len + len') = bytesAt par off len ++ bytesAt par (off + len) len' := by
  rw [bytesAt, List.range_add, List.map_append, List.map_map]
  simp [bytesAt, Function.comp_def, Nat.add_assoc]

theorem carriesAt_append {bs cs : List UInt8} :
    CarriesAt par off (bs ++ cs) ↔ CarriesAt par off bs ∧ CarriesAt par (off + bs.length) cs := by
  rw [CarriesAt, List.length_append, bytesAt_add]
  constructor
  · intro h
    exact List.append_inj h (bytesAt_length par off bs.length)
  · rintro ⟨h, h'⟩
    rw [h, h']

theorem carriesAt_cons {x : UInt8} {bs : List UInt8} :
    CarriesAt par off (x :: bs) ↔ par off = x ∧ CarriesAt par (off + 1) bs := by
  have hone : CarriesAt par off [x] ↔ par off = x := by simp [CarriesAt, bytesAt]
  rw [← hone]
  exact @carriesAt_append par off [x] bs

/-- The bytes of one layout do not run into each other. -/
theorem u16Bytes_inj {x y : UInt16} (h : u16Bytes x = u16Bytes y) : x = y := by
  rw [← ofU16Bytes_u16Bytes x, ← ofU16Bytes_u16Bytes y]
  injection h with hlo hrest
  injection hrest with hhi
  rw [hlo, hhi]

end Carries

/-! ## The loop over the destinations -/

/-- The bytes of `n` destinations read from cursor `index` on, and the cursor behind
them. -/
def destsRead (par : Nat → UInt8) : Nat → Nat → List UInt8 × Nat
  | 0, index => ([], index)
  | n + 1, index =>
    let len := clampLen (par (index + 3))
    let (bs, index') := destsRead par n (index + 3 + len)
    ([par (index + 1), par (index + 2), UInt8.ofNat len] ++ bytesAt par (index + 4) len ++ bs,
      index')

/-- The bytes that GET reports of destination `i`. -/
def destBytes (a : SceneArea) (i : Nat) : List UInt8 :=
  a.read (17 * i) 3 ++ a.read (17 * i + 3) (a.get (17 * i + 2)).toNat

theorem clampLen_le (x : UInt8) : clampLen x ≤ maxPayloadLen := Nat.min_le_right _ _

theorem toNat_ofNat_clampLen (x : UInt8) : (UInt8.ofNat (clampLen x)).toNat = clampLen x := by
  have h := clampLen_le x
  have hmax : maxPayloadLen = 14 := rfl
  rw [UInt8.toNat_ofNat']
  omega

section AddDest

variable (par : Nat → UInt8) (a : SceneArea) (index : Nat)

theorem addDest_cursor (i : Nat) :
    (addDest par (a, index) i).2 = index + 3 + clampLen (par (index + 3)) := rfl

/-- One turn writes its own destination only. -/
theorem addDest_frame (i : Nat) {off len : Nat} (h : off + len ≤ 17 * i ∨ 17 * (i + 1) ≤ off) :
    (addDest par (a, index) i).1.read off len = a.read off len := by
  have hclamp := clampLen_le (par (index + 3))
  have hmax : maxPayloadLen = 14 := rfl
  rw [addDest]
  dsimp only
  rw [Buf.read_write_outside _ (by simp only [List.length_singleton]; omega),
    Buf.read_write_outside _ (by rw [bytesAt_length]; omega),
    Buf.read_write_outside _ (by simp only [List.length_cons, List.length_nil]; omega)]

/-- One turn stores what it reads. -/
theorem addDest_stores {i : Nat} (hi : i < maxSceneDestAdr) :
    ((addDest par (a, index) i).1.get (17 * i + 2)).toNat = clampLen (par (index + 3)) ∧
      destBytes (addDest par (a, index) i).1 i =
        [par (index + 1), par (index + 2), UInt8.ofNat (clampLen (par (index + 3)))] ++
          bytesAt par (index + 4) (clampLen (par (index + 3))) := by
  have hclamp := clampLen_le (par (index + 3))
  have hmax : maxPayloadLen = 14 := rfl
  have hfive : maxSceneDestAdr = 5 := rfl
  rw [addDest]
  dsimp only
  generalize hlen : clampLen (par (index + 3)) = len at hclamp ⊢
  have htoNat : (UInt8.ofNat len).toNat = len := hlen ▸ toNat_ofNat_clampLen _
  generalize ha₁ : a.write (17 * i) [par (index + 1), par (index + 2)] = a₁
  generalize ha₂ : a₁.write (17 * i + 3) (bytesAt par (index + 4) len) = a₂
  generalize ha₃ : a₂.write (17 * i + 2) [UInt8.ofNat len] = a₃
  have hadr : a₃.read (17 * i) 2 = [par (index + 1), par (index + 2)] := by
    rw [← ha₃, Buf.read_write_outside _ (by omega), ← ha₂, Buf.read_write_outside _ (by omega),
      ← ha₁]
    exact a.read_write (by simp only [List.length_cons, List.length_nil]; omega)
  have hnum : a₃.read (17 * i + 2) 1 = [UInt8.ofNat len] := by
    rw [← ha₃]
    exact a₂.read_write (by simp only [List.length_singleton]; omega)
  have hpay : a₃.read (17 * i + 3) len = bytesAt par (index + 4) len := by
    rw [← ha₃, Buf.read_write_outside _ (by simp only [List.length_singleton]; omega), ← ha₂]
    have hread : (a₁.write (17 * i + 3) (bytesAt par (index + 4) len)).read (17 * i + 3) _ = _ :=
      a₁.read_write (by rw [bytesAt_length]; omega)
    rwa [bytesAt_length] at hread
  have hget : a₃.get (17 * i + 2) = UInt8.ofNat len := List.head_eq_of_cons_eq hnum
  refine ⟨by rw [hget, htoNat], ?_⟩
  rw [destBytes, hget, htoNat, hpay, Buf.read_add a₃ (17 * i) 2 1, hadr, hnum]
  rfl

end AddDest

/-- What the loop over the destinations leaves: `destsRead`, with the lengths clamped, in
its own entries and nothing elsewhere. -/
theorem addDests_spec (par : Nat → UInt8) (a : SceneArea) (index i n : Nat)
    (hn : i + n ≤ maxSceneDestAdr) :
    let r := runFrom (addDest par) (a, index) (List.range' i n)
    r.2 = (destsRead par n index).2 ∧
      (List.range' i n).flatMap (destBytes r.1) = (destsRead par n index).1 ∧
      (∀ j, i ≤ j → j < i + n → (r.1.get (17 * j + 2)).toNat ≤ maxPayloadLen) ∧
      ∀ off len, off + len ≤ 17 * i ∨ 17 * (i + n) ≤ off → r.1.read off len = a.read off len := by
  induction n generalizing a index i with
  | zero => exact ⟨rfl, rfl, fun j hj hj' => by omega, fun off len _ => rfl⟩
  | succ n ih =>
    obtain ⟨hlen, hstored⟩ := addDest_stores par a index (i := i) (by omega)
    have hcursor := addDest_cursor par a index i
    have hframe : ∀ off len, off + len ≤ 17 * i ∨ 17 * (i + 1) ≤ off →
        (addDest par (a, index) i).1.read off len = a.read off len :=
      fun _ _ h => addDest_frame par a index i h
    simp only [List.range'_succ, runFrom_cons]
    generalize addDest par (a, index) i = st at hlen hstored hcursor hframe
    obtain ⟨a', index'⟩ := st
    dsimp only at hlen hstored hcursor hframe
    obtain ⟨hcur, hbytes, hle, hout⟩ := ih a' index' (i + 1) (by omega)
    generalize runFrom (addDest par) (a', index') (List.range' (i + 1) n) = r at *
    -- the rest of the loop leaves entry `i` alone
    have hget : r.1.get (17 * i + 2) = a'.get (17 * i + 2) :=
      List.head_eq_of_cons_eq (hout (17 * i + 2) 1 (by omega))
    have hfirst : destBytes r.1 i = destBytes a' i := by
      have hclamp := clampLen_le (par (index + 3))
      have hmax : maxPayloadLen = 14 := rfl
      rw [destBytes, hget, hout _ _ (by omega), hout _ _ (by omega), destBytes]
    refine ⟨by rw [hcur, hcursor]; rfl, ?_, fun j hj hj' => ?_, fun off len h => ?_⟩
    · rw [List.flatMap_cons, hbytes, hfirst, hstored, hcursor]
      rfl
    · rcases Nat.eq_or_lt_of_le hj with rfl | hlt
      · rw [hget, hlen]
        exact clampLen_le _
      · exact hle j hlt (by omega)
    · rw [hout off len (by omega), hframe off len (by omega)]

/-! ## The destinations of a message -/

theorem toNat_ofNat_of_le {n : Nat} (h : n ≤ 255) : (UInt8.ofNat n).toNat = n := by
  rw [UInt8.toNat_ofNat']
  omega

/-- Where a destination lies in a message that carries it. -/
theorem carriesAt_dest {par : Nat → UInt8} {index : Nat} {d : SceneDest} {rest : List UInt8}
    (h : CarriesAt par (index + 1) (d.bytes ++ rest)) :
    [par (index + 1), par (index + 2)] = u16Bytes d.addr ∧
      par (index + 3) = UInt8.ofNat d.payload.length ∧
      bytesAt par (index + 4) d.payload.length = d.payload ∧
      CarriesAt par (index + 3 + d.payload.length + 1) rest := by
  obtain ⟨hdest, hrest⟩ := carriesAt_append.mp h
  obtain ⟨hadr, hbody⟩ := carriesAt_append.mp hdest
  obtain ⟨hnum, hpay⟩ := carriesAt_cons.mp hbody
  refine ⟨hadr, hnum, hpay, ?_⟩
  have hlen : d.bytes.length = 3 + d.payload.length := by
    simp only [SceneDest.bytes, u16Bytes, List.length_append, List.length_cons, List.length_nil]
    omega
  rw [hlen] at hrest
  have hoff : index + 3 + d.payload.length + 1 = index + 1 + (3 + d.payload.length) := by omega
  rwa [hoff]

/-- **Reading destinations back**: the destinations and the byte behind them are read as
the message carries them exactly when no payload is longer than an entry holds. -/
theorem destsRead_eq_iff {par : Nat → UInt8} {t : UInt8} (dests : List SceneDest) {index : Nat}
    (h : CarriesAt par (index + 1) (dests.flatMap SceneDest.bytes ++ [t])) :
    ((destsRead par dests.length index).1 = dests.flatMap SceneDest.bytes ∧
        par ((destsRead par dests.length index).2 + 1) = t) ↔
      ∀ d ∈ dests, d.payload.length ≤ maxPayloadLen := by
  induction dests generalizing index with
  | nil =>
    have ht : par (index + 1) = t := (carriesAt_cons.mp h).1
    simp [destsRead, ht]
  | cons d dests ih =>
    rw [List.flatMap_cons, List.append_assoc] at h
    obtain ⟨hadr, hnum, hpay, hrest⟩ := carriesAt_dest h
    have htoNat := toNat_ofNat_of_le d.length_le
    simp only [List.length_cons, destsRead, hnum, clampLen, htoNat]
    by_cases hd : d.payload.length ≤ maxPayloadLen
    · -- the cursor goes on where the next destination starts
      rw [Nat.min_eq_left hd, hpay, List.forall_mem_cons, ← ih hrest, and_iff_right hd,
        List.flatMap_cons, SceneDest.bytes, ← hadr]
      simp
    · -- the length that is stored is not the one the message carries
      have hmax : maxPayloadLen = 14 := rfl
      rw [Nat.min_eq_right (by omega)]
      refine iff_of_false ?_ fun hall => hd (hall d List.mem_cons_self)
      rintro ⟨heq, -⟩
      rw [List.flatMap_cons, SceneDest.bytes, ← hadr] at heq
      have hlen : UInt8.ofNat maxPayloadLen = UInt8.ofNat d.payload.length := by
        injection heq with _ heq
        injection heq with _ heq
        injection heq
      have hval := congrArg UInt8.toNat hlen
      rw [htoNat, toNat_ofNat_of_le (by omega)] at hval
      omega

/-! ## The loop over the scenes -/

/-- What the loop over the scenes leaves: the entries of the message, in their order. -/
theorem addScenes_spec {par : Nat → UInt8} {t : UInt8} (infos : List SceneInfor) (a : SceneArea)
    (index i : Nat) (hn : i + infos.length ≤ maxSceneDestAdr)
    (h : CarriesAt par (index + 1) (infos.flatMap SceneInfor.bytes ++ [t])) :
    let r := runFrom (addScene par) (a, index) (List.range' i infos.length)
    par (r.2 + 1) = t ∧
      (List.range' i infos.length).map (fun j => r.1.read (4 * j) 4) = infos.map SceneInfor.bytes ∧
      ∀ off len, off + len ≤ 4 * i ∨ 4 * (i + infos.length) ≤ off →
        r.1.read off len = a.read off len := by
  induction infos generalizing a index i with
  | nil => exact ⟨(carriesAt_cons.mp h).1, rfl, fun off len _ => rfl⟩
  | cons x infos ih =>
    have hfive : maxSceneDestAdr = 5 := rfl
    rw [List.length_cons] at hn
    rw [List.flatMap_cons, List.append_assoc] at h
    obtain ⟨hx, hrest⟩ := carriesAt_append.mp h
    have hx : bytesAt par (index + 1) 4 = x.bytes := hx
    obtain ⟨htrans, hmap, hout⟩ := ih (a.write (4 * i) (bytesAt par (index + 1) 4))
      (index + 4) (i + 1) (by omega) hrest
    simp only [List.length_cons, List.range'_succ, runFrom_cons, addScene]
    generalize runFrom (addScene par) (_, index + 4) _ = r at htrans hmap hout ⊢
    refine ⟨htrans, ?_, fun off len hoff => ?_⟩
    · have hfirst : r.1.read (4 * i) 4 = x.bytes := by
        rw [hout _ _ (by omega), hx]
        exact @Buf.read_write 85 a (4 * i) x.bytes (show 4 * i + 4 ≤ 85 by omega)
      rw [List.map_cons, List.map_cons, hfirst, hmap]
    · rw [hout _ _ (by omega), Buf.read_write_outside _ (by rw [bytesAt_length]; omega)]

/-! ## What a GET counts and answers -/

/-- A count of the entries in use is `n` exactly when each of the first `n` is, where none
behind them is. -/
theorem countP_range_eq_iff {p : Nat → Bool} {n m : Nat} (hn : n ≤ m)
    (h : ∀ j, n ≤ j → j < m → p j = false) :
    (List.range m).countP p = n ↔ ∀ j, j < n → p j = true := by
  obtain ⟨d, rfl⟩ := Nat.exists_eq_add_of_le hn
  have hbehind : ((List.range d).map (n + ·)).countP p = 0 := by
    rw [List.countP_eq_zero]
    intro j hj
    obtain ⟨i, hi, rfl⟩ := List.mem_map.mp hj
    have hi := List.mem_range.mp hi
    rw [h (n + i) (Nat.le_add_right n i) (by omega)]
    exact Bool.false_ne_true
  rw [List.range_add, List.countP_append, hbehind, Nat.add_zero]
  have hall := List.countP_eq_length (p := p) (l := List.range n)
  rw [List.length_range] at hall
  simpa only [List.mem_range] using hall

theorem AddBody.entries_le (body : AddBody) : body.entries.1 ≤ 255 := by
  cases body with
  | direct dests h => exact h
  | single id nums => exact Nat.zero_le 255
  | multi infos h => exact h

namespace Scenes

variable {b : Board}

theorem entries_le (p : ParExecutionScene) : (entries p).1 ≤ maxSceneDestAdr := by
  rw [entries]
  split
  · exact List.countP_le_length
  · exact List.countP_le_length

/-- An answer determines what it reports. -/
theorem report_inj {x y z t t' : UInt8} {id id' : UInt16} {n n' : Nat} {bs bs' : List UInt8}
    (hn : n ≤ 255) (hn' : n' ≤ 255)
    (h : [x, y, z] ++ u16Bytes id ++ UInt8.ofNat n :: bs ++ [t] =
      [x, y, z] ++ u16Bytes id' ++ UInt8.ofNat n' :: bs' ++ [t']) :
    id = id' ∧ n = n' ∧ bs = bs' ∧ t = t' := by
  obtain ⟨hfront, ht⟩ := List.append_inj' h rfl
  obtain ⟨hhead, hrest⟩ := List.append_inj hfront rfl
  obtain ⟨hnum, hbs⟩ := List.cons.inj hrest
  have hcount := congrArg UInt8.toNat hnum
  rw [toNat_ofNat_of_le hn, toNat_ofNat_of_le hn'] at hcount
  exact ⟨u16Bytes_inj (List.append_cancel_left hhead), hcount, hbs, List.head_eq_of_cons_eq ht⟩

/-- A slot that a GET reports as what the ADD carried. -/
def Held (m : AddMsg) (p : ParExecutionScene) : Prop :=
  p.btnEvent ≠ 0xFF ∧ p.sceneId = m.body.sceneId ∧ entries p = m.body.entries ∧
    p.transTime = m.transTime ∧ 7 + m.body.entries.2.length ≤ 84

/-- When a GET reports what an ADD carried, by what its slot holds. -/
theorem get_eq_report_iff (s : Scenes b) (m : AddMsg) {par : Nat → UInt8} {k : b.Btn} {e : Fin 8}
    (hslot : slotOf b (keyNbr par) (keyEvent par) = some (k, e)) :
    s.get par = m.report par ↔ Held m (s.table k e) := by
  have hfive : maxSceneDestAdr = 5 := rfl
  have hcount := entries_le (s.table k e)
  have hcount' := m.body.entries_le
  rw [get, hslot, AddMsg.report, Held]
  dsimp only
  generalize s.table k e = p at hcount ⊢
  generalize entries p = found at hcount ⊢
  generalize m.body.entries = carried at hcount' ⊢
  obtain ⟨n, bs⟩ := found
  obtain ⟨n', bs'⟩ := carried
  dsimp only at hcount hcount' ⊢
  have hlen : ∀ (id : UInt16) (c t : UInt8) (xs : List UInt8),
      ([rspTypeAndId par msgGet, exStatusSuccess, par 1] ++ u16Bytes id ++ c :: xs ++ [t]).length =
        7 + xs.length := by
    intro id c t xs
    simp [u16Bytes]
    omega
  split
  · next hunset =>
    -- no answer without entries is a report
    refine iff_of_false (fun h => ?_) fun h => h.1 hunset
    have hlens := congrArg List.length (SceneRsp.sent.inj h)
    rw [hlen] at hlens
    simp only [List.length_cons, List.length_nil] at hlens
    omega
  · next hset =>
    split
    · next hle =>
      rw [hlen] at hle
      constructor
      · intro h
        obtain ⟨hid, hn, hbs, ht⟩ := report_inj (by omega) hcount' (SceneRsp.sent.inj h)
        exact ⟨hset, hid, by rw [hn, hbs], ht, hbs ▸ hle⟩
      · rintro ⟨-, hid, heq, ht, -⟩
        obtain ⟨hn, hbs⟩ := Prod.mk.inj heq
        rw [hid, hn, hbs, ht]
    · next hle =>
      refine iff_of_false SceneRsp.noConfusion ?_
      rintro ⟨-, -, heq, -, hle'⟩
      rw [hlen, (Prod.mk.inj heq).2] at hle
      exact hle hle'

/-! ## What an ADD leaves in its slot -/

/-- A dimming event that is added leaves its own slot alone. -/
theorem table_clearOtherDimming_self (s : Scenes b) {k : b.Btn} {e : Fin 8} {evt : UInt8}
    (he : getKeyEventIndex evt = some e) :
    (s.clearOtherDimming k evt).table k e = s.table k e :=
  s.table_clearOtherDimming fun _ _ hne hd => absurd (getKeyEventIndex_inj hd he) hne

theorem getKeyEventIndex_of_slotOf {key evt : UInt8} {k : b.Btn} {e : Fin 8}
    (h : slotOf b key evt = some (k, e)) : getKeyEventIndex evt = some e := by
  rw [slotOf] at h
  split at h
  · obtain ⟨e', he', heq⟩ := Option.map_eq_some_iff.mp h
    rw [he', (Prod.mk.inj heq).2]
  · cases h

/-- An ADD: what its slot holds afterwards, and its answer. -/
theorem handle_add_slot (s : Scenes b) {par : Nat → UInt8} {k : b.Btn} {e : Fin 8}
    (hadd : msgType par = msgAdd) (hslot : slotOf b (keyNbr par) (keyEvent par) = some (k, e)) :
    (s.handle par).1.Synced ∧
      (s.handle par).1.table k e = (s.addSlot k e par).1.table k e ∧
      (s.handle par).2 = .sent [rspTypeAndId par msgAdd,
        if (s.addSlot k e par).2 then exStatusSuccess else exStatusFail, par 1, par 2, par 3] := by
  have he := getKeyEventIndex_of_slotOf hslot
  rw [handle, if_pos hadd, add, hslot]
  dsimp only
  refine ⟨synced_save _, ?_, rfl⟩
  rw [table_save]
  split
  · exact table_clearOtherDimming_self _ he
  · rfl

/-! ## The condition -/

end Scenes

/-- What an ADD may carry for a GET to report it. The answer has to fit `rsp[84]`, no
payload may be longer than an entry of the table, and no scene of a list may have the id
that marks an unused entry. A list of no scene, or of too many, is answered with success
and not stored: it is reported if it is empty and the slot `old` held such a list. -/
def AddBody.Fits (old : ParExecutionScene) : AddBody → Prop
  | .direct dests _ =>
    (∀ d ∈ dests, d.payload.length ≤ maxPayloadLen) ∧
      7 + (dests.flatMap SceneDest.bytes).length ≤ 84
  | .single .. => True
  | .multi infos _ =>
    (infos ≠ [] ∧ infos.length ≤ maxSceneDestAdr ∧ ∀ x ∈ infos, x.id ≠ lmSceneInInvalid) ∨
      (infos = [] ∧ old.btnEvent ≠ 0xFF ∧ old.sceneId = lmSceneInInvalid ∧
        ∀ i, i < maxSceneDestAdr → old.inSceneId i = lmSceneInInvalid)

instance (old : ParExecutionScene) : (body : AddBody) → Decidable (body.Fits old)
  | .direct .. => inferInstanceAs (Decidable (_ ∧ _))
  | .single .. => inferInstanceAs (Decidable True)
  | .multi .. => inferInstanceAs (Decidable (_ ∨ _))

/-- What a message carries in its fixed part, and where its entries start. -/
theorem AddMsg.carries {m : AddMsg} {par : Nat → UInt8} (h : CarriesAt par 0 m.bytes) :
    msgType par = msgAdd ∧ par 1 = m.event ∧ ofU16Bytes (par 2) (par 3) = m.body.sceneId ∧
      par 4 = m.body.nums ∧ CarriesAt par 5 (m.body.entries.2 ++ [m.transTime]) := by
  obtain ⟨htype, h⟩ := carriesAt_cons.mp h
  obtain ⟨hevent, h⟩ := carriesAt_cons.mp h
  obtain ⟨hlo, h⟩ := carriesAt_cons.mp h
  obtain ⟨hhi, h⟩ := carriesAt_cons.mp h
  obtain ⟨hnums, hbody⟩ := carriesAt_cons.mp h
  refine ⟨?_, hevent, ?_, hnums, hbody⟩
  · rw [msgType, htype]
    exact m.isAdd
  · rw [hlo, hhi]
    exact ofU16Bytes_u16Bytes m.body.sceneId

namespace Scenes

/-! ## The three layouts -/

/-- A slot whose first `n` entries are messages. -/
theorem entries_of_dests {p : ParExecutionScene} (hid : p.sceneId ≠ lmSceneInInvalid) {n : Nat}
    (hn : n ≤ maxSceneDestAdr)
    (hused : ∀ j, j < n → (p.area.get (17 * j + 2)).toNat ≤ maxPayloadLen)
    (hfree : ∀ j, n ≤ j → j < maxSceneDestAdr → p.area.get (17 * j + 2) = 0xFF) :
    entries p = (n, (List.range' 0 n).flatMap (destBytes p.area)) := by
  have hcount : ((List.range maxSceneDestAdr).countP fun i =>
      decide ((p.payloadLen i).toNat ≤ maxPayloadLen)) = n := by
    refine (countP_range_eq_iff hn fun j hj hj' => ?_).mpr fun j hj => decide_eq_true (hused j hj)
    rw [ParExecutionScene.payloadLen, hfree j hj hj']
    rfl
  rw [entries, if_pos hid]
  dsimp only
  rw [hcount]
  rfl

/-- A slot that holds a list of scenes, of which the first `n` are those of a message. -/
theorem entries_of_scenes {p : ParExecutionScene} (hid : p.sceneId = lmSceneInInvalid)
    {infos : List SceneInfor} (hn : infos.length ≤ maxSceneDestAdr)
    (hmap : (List.range' 0 infos.length).map (fun j => p.area.read (4 * j) 4) =
      infos.map SceneInfor.bytes)
    (hfree : ∀ j, infos.length ≤ j → j < maxSceneDestAdr → p.inSceneId j = lmSceneInInvalid) :
    entries p = (infos.length, infos.flatMap SceneInfor.bytes) ↔
      ∀ x ∈ infos, x.id ≠ lmSceneInInvalid := by
  have hids : (List.range' 0 infos.length).map p.inSceneId = infos.map SceneInfor.id := by
    have h := congrArg (List.map fun l => ofU16Bytes (l.getD 0 0) (l.getD 1 0)) hmap
    rw [List.map_map, List.map_map] at h
    refine h.trans (List.map_congr_left fun x _ => ?_)
    exact ofU16Bytes_u16Bytes x.id
  have hvalid : (∀ j, j < infos.length → decide (p.inSceneId j ≠ lmSceneInInvalid) = true) ↔
      ∀ x ∈ infos, x.id ≠ lmSceneInInvalid := by
    rw [← List.forall_mem_map (f := SceneInfor.id) (P := (· ≠ lmSceneInInvalid)), ← hids,
      List.forall_mem_map]
    simp
  have hcount := countP_range_eq_iff (p := fun j => decide (p.inSceneId j ≠ lmSceneInInvalid)) hn
    fun j hj hj' => decide_eq_false (not_not.mpr (hfree j hj hj'))
  rw [← hvalid, ← hcount, entries, if_neg (not_not.mpr hid)]
  dsimp only
  constructor
  · intro h
    exact (Prod.mk.inj h).1
  · intro h
    rw [h, List.flatMap_def, hmap, ← List.flatMap_def]

/-- A slot that holds a list of no scenes. -/
theorem entries_of_no_scenes {p : ParExecutionScene} (hid : p.sceneId = lmSceneInInvalid) :
    entries p = (0, []) ↔ ∀ i, i < maxSceneDestAdr → p.inSceneId i = lmSceneInInvalid := by
  rw [entries, if_neg (not_not.mpr hid)]
  dsimp only
  have hzero := List.countP_eq_zero (l := List.range maxSceneDestAdr)
    (p := fun i => decide (p.inSceneId i ≠ lmSceneInInvalid))
  simp only [List.mem_range, decide_eq_true_eq, not_not] at hzero
  rw [← hzero]
  constructor
  · intro h
    exact (Prod.mk.inj h).1
  · intro h
    rw [h]
    rfl

/-- The bytes of a cleared slot. -/
theorem get_cleared {k : Nat} (hk : k < 85) : Buf.get ParExecutionScene.cleared.area k = 0xFF :=
  dif_pos hk

theorem table_delete_same (s : Scenes b) (k : b.Btn) (e : Fin 8) :
    (s.deleteExecutionScene k e).table k e = .cleared := by
  rw [deleteExecutionScene, table_save]
  exact s.table_updSlot_same k e _

section AddSlot

variable (s : Scenes b) {par : Nat → UInt8} {k : b.Btn} {e : Fin 8}

theorem addSlot_direct (hid : ofU16Bytes (par 2) (par 3) = sceneIdInvalid)
    (hok : (s.addSlot k e par).2 = true) :
    (par 4).toNat ≤ maxSceneDestAdr ∧
      let r := runFrom (addDest par) (ParExecutionScene.cleared.area, 4)
        (List.range' 0 (par 4).toNat)
      (s.addSlot k e par).1.table k e = ⟨keyEvent par, sceneIdInvalid, r.1, par (r.2 + 1)⟩ := by
  unfold addSlot at hok ⊢
  dsimp only at hok ⊢
  rw [if_pos hid] at hok ⊢
  split at hok
  · cases hok
  · next hle =>
    rw [if_neg hle, table_updSlot_same, hid]
    exact ⟨Nat.le_of_not_lt hle, rfl⟩

theorem addSlot_single (hid : ofU16Bytes (par 2) (par 3) ≠ sceneIdInvalid)
    (hid' : ofU16Bytes (par 2) (par 3) ≠ lmSceneInInvalid) :
    (s.addSlot k e par).1.table k e = ⟨keyEvent par, ofU16Bytes (par 2) (par 3),
      ParExecutionScene.cleared.area, par 5⟩ := by
  rw [addSlot]
  dsimp only
  rw [if_neg hid, if_pos hid', table_updSlot_same, table_delete_same]

theorem addSlot_multi (hid : ofU16Bytes (par 2) (par 3) = lmSceneInInvalid)
    (hn : (par 4).toNat ≠ 0 ∧ (par 4).toNat ≤ maxSceneDestAdr) :
    let r := runFrom (addScene par) (ParExecutionScene.cleared.area, 4)
      (List.range' 0 (par 4).toNat)
    (s.addSlot k e par).1.table k e = ⟨keyEvent par, lmSceneInInvalid, r.1, par (r.2 + 1)⟩ := by
  have hne : lmSceneInInvalid ≠ sceneIdInvalid := by decide
  rw [addSlot]
  dsimp only
  rw [hid, if_neg hne, if_neg (not_not.mpr rfl), if_pos hn, table_updSlot_same, table_delete_same]

/-- A list of no scene, or of too many, changes the transition time alone. -/
theorem addSlot_multi_skipped (hid : ofU16Bytes (par 2) (par 3) = lmSceneInInvalid)
    (hn : ¬ ((par 4).toNat ≠ 0 ∧ (par 4).toNat ≤ maxSceneDestAdr)) :
    (s.addSlot k e par).1.table k e = { s.table k e with transTime := par 5 } := by
  have hne : lmSceneInInvalid ≠ sceneIdInvalid := by decide
  rw [addSlot]
  dsimp only
  rw [hid, if_neg hne, if_neg (not_not.mpr rfl), if_neg hn, table_updSlot_same]

variable {m : AddMsg}

/-- A list of messages. -/
theorem held_direct {dests : List SceneDest} {h : dests.length ≤ 255}
    (hbody : m.body = .direct dests h) (hpar : CarriesAt par 0 m.bytes)
    (hevt : keyEvent par ≠ 0xFF) (hok : (s.addSlot k e par).2 = true) :
    Held m ((s.addSlot k e par).1.table k e) ↔ m.body.Fits (s.table k e) := by
  obtain ⟨-, -, hid, hnums, hentries⟩ := AddMsg.carries hpar
  rw [hbody] at hid hnums hentries
  have hn : (par 4).toNat = dests.length := by rw [hnums]; exact toNat_ofNat_of_le h
  obtain ⟨hle, hslot⟩ := s.addSlot_direct hid hok
  rw [hn] at hle
  obtain ⟨hcur, hbytes, hused, hframe⟩ := addDests_spec par ParExecutionScene.cleared.area 4 0
    dests.length (by omega)
  dsimp only at hslot
  rw [hn] at hslot
  generalize runFrom (addDest par) (ParExecutionScene.cleared.area, 4) _ = r at *
  have hfree : ∀ j, dests.length ≤ j → j < maxSceneDestAdr → r.1.get (17 * j + 2) = 0xFF := by
    intro j hj hj'
    have hfive : maxSceneDestAdr = 5 := rfl
    have hread : r.1.get (17 * j + 2) = ParExecutionScene.cleared.area.get (17 * j + 2) :=
      List.head_eq_of_cons_eq (hframe (17 * j + 2) 1 (by omega))
    exact hread.trans (get_cleared (by omega))
  have hne : sceneIdInvalid ≠ lmSceneInInvalid := by decide
  have hfound := entries_of_dests (p := ⟨keyEvent par, sceneIdInvalid, r.1, par (r.2 + 1)⟩)
    hne hle (fun j hj => hused j (Nat.zero_le j) (by omega)) hfree
  rw [hslot, Held, hfound, hbody, hbytes, hcur, AddBody.Fits, ← destsRead_eq_iff dests hentries]
  constructor
  · rintro ⟨-, -, heq, ht, hlen⟩
    exact ⟨⟨(Prod.mk.inj heq).2, ht⟩, hlen⟩
  · rintro ⟨⟨heq, ht⟩, hlen⟩
    exact ⟨hevt, rfl, Prod.ext rfl heq, ht, hlen⟩

/-- A single scene. -/
theorem held_single {id : UInt16} {nums : UInt8} {hne : id ≠ sceneIdInvalid}
    {hne' : id ≠ lmSceneInInvalid} (hbody : m.body = .single id nums hne hne')
    (hpar : CarriesAt par 0 m.bytes) (hevt : keyEvent par ≠ 0xFF) :
    Held m ((s.addSlot k e par).1.table k e) := by
  obtain ⟨-, -, hid, -, hentries⟩ := AddMsg.carries hpar
  rw [hbody] at hid hentries
  have hid : ofU16Bytes (par 2) (par 3) = id := hid
  rw [s.addSlot_single (by rwa [hid]) (by rwa [hid]), hid, Held, hbody]
  refine ⟨hevt, rfl, ?_, (carriesAt_cons.mp hentries).1, Nat.le_add_right 7 77⟩
  refine entries_of_dests hne' (Nat.zero_le _) (fun j hj => absurd hj (Nat.not_lt_zero j)) ?_
  intro j _ hj
  have hfive : maxSceneDestAdr = 5 := rfl
  exact get_cleared (by omega)

/-- A list of scenes. -/
theorem held_multi {infos : List SceneInfor} {h : infos.length ≤ 255}
    (hbody : m.body = .multi infos h) (hpar : CarriesAt par 0 m.bytes)
    (hevt : keyEvent par ≠ 0xFF) :
    Held m ((s.addSlot k e par).1.table k e) ↔ m.body.Fits (s.table k e) := by
  obtain ⟨-, -, hid, hnums, hentries⟩ := AddMsg.carries hpar
  rw [hbody] at hid hnums hentries
  have hid : ofU16Bytes (par 2) (par 3) = lmSceneInInvalid := hid
  have hn : (par 4).toNat = infos.length := by rw [hnums]; exact toNat_ofNat_of_le h
  have hfive : maxSceneDestAdr = 5 := rfl
  by_cases hcount : infos.length ≠ 0 ∧ infos.length ≤ maxSceneDestAdr
  · -- the list is stored over a cleared slot
    have hslot := s.addSlot_multi (k := k) (e := e) hid (by rwa [hn])
    dsimp only at hslot
    rw [hn] at hslot
    obtain ⟨ht, hmap, hframe⟩ := addScenes_spec infos ParExecutionScene.cleared.area 4 0
      (by omega) hentries
    generalize runFrom (addScene par) (ParExecutionScene.cleared.area, 4) _ = r at *
    have hfree : ∀ j, infos.length ≤ j → j < maxSceneDestAdr →
        ofU16Bytes (r.1.get (4 * j)) (r.1.get (4 * j + 1)) = lmSceneInInvalid := by
      intro j hj hj'
      have hlo : r.1.get (4 * j) = ParExecutionScene.cleared.area.get (4 * j) :=
        List.head_eq_of_cons_eq (hframe (4 * j) 1 (by omega))
      have hhi : r.1.get (4 * j + 1) = ParExecutionScene.cleared.area.get (4 * j + 1) :=
        List.head_eq_of_cons_eq (hframe (4 * j + 1) 1 (by omega))
      rw [hlo, hhi, get_cleared (by omega), get_cleared (by omega)]
      rfl
    have hfound := entries_of_scenes (p := ⟨keyEvent par, lmSceneInInvalid, r.1, par (r.2 + 1)⟩)
      rfl hcount.2 hmap hfree
    have hlen : 7 + (infos.flatMap SceneInfor.bytes).length ≤ 84 := by
      have hbytes : (infos.flatMap SceneInfor.bytes).length = infos.length * 4 := by
        simp [List.length_flatMap, SceneInfor.bytes, u16Bytes]
      omega
    rw [hslot, Held, hbody, AddBody.Fits, ← hfound]
    constructor
    · rintro ⟨-, -, heq, -, -⟩
      exact .inl ⟨fun hnil => hcount.1 (by rw [hnil]; rfl), hcount.2, heq⟩
    · rintro (⟨-, -, heq⟩ | ⟨hnil, -⟩)
      · exact ⟨hevt, rfl, heq, ht, hlen⟩
      · exact absurd (by rw [hnil]; rfl) hcount.1
  · -- the slot is what it was
    rw [s.addSlot_multi_skipped hid (by rwa [hn]), Held, hbody, AddBody.Fits]
    generalize s.table k e = old
    have hsame : entries { old with transTime := par 5 } = entries old := rfl
    rw [hsame]
    rcases Nat.eq_zero_or_pos infos.length with hzero | hpos
    · obtain rfl := List.length_eq_zero_iff.mp hzero
      have ht : par 5 = m.transTime := (carriesAt_cons.mp hentries).1
      constructor
      · rintro ⟨hset, hold, heq, -, -⟩
        exact .inr ⟨rfl, hset, hold, (entries_of_no_scenes hold).mp heq⟩
      · rintro (⟨hnil, -⟩ | ⟨-, hset, hold, hall⟩)
        · exact absurd rfl hnil
        · exact ⟨hset, hold, (entries_of_no_scenes hold).mpr hall, ht, Nat.le_add_right 7 77⟩
    · -- no slot holds that many scenes
      have hmany : ¬ infos.length ≤ maxSceneDestAdr := fun hle => hcount ⟨by omega, hle⟩
      refine iff_of_false ?_ ?_
      · rintro ⟨-, -, heq, -⟩
        have hle := entries_le old
        rw [heq] at hle
        exact hmany hle
      · rintro (⟨-, hle, -⟩ | ⟨hnil, -⟩)
        · exact hmany hle
        · rw [hnil] at hpos
          exact Nat.lt_irrefl 0 hpos

/-- What an ADD leaves in its slot is what a GET should report, exactly when it fits. -/
theorem held_iff (hpar : CarriesAt par 0 m.bytes) (hevt : keyEvent par ≠ 0xFF)
    (hok : (s.addSlot k e par).2 = true) :
    Held m ((s.addSlot k e par).1.table k e) ↔ m.body.Fits (s.table k e) := by
  cases hbody : m.body with
  | direct dests h => rw [← hbody]; exact s.held_direct hbody hpar hevt hok
  | single id nums hne hne' => exact iff_of_true (s.held_single hbody hpar hevt) trivial
  | multi infos h => rw [← hbody]; exact s.held_multi hbody hpar hevt

end AddSlot

/-! ## The round trip -/

/-- **Round trip**: after an ADD that is answered with success, and any messages and
reboots that are not for its slot, a GET for the same button and event reports what the
ADD carried exactly when it fits. -/
theorem get_after_add_iff (s : Scenes b) (m : AddMsg) {par : Nat → UInt8}
    (hpar : CarriesAt par 0 m.bytes) {k : b.Btn} {e : Fin 8}
    (hslot : slotOf b (keyNbr par) (keyEvent par) = some (k, e))
    (hok : (s.handle par).2 =
      .sent [rspTypeAndId par msgAdd, exStatusSuccess, par 1, par 2, par 3])
    (evs : List Event) (hevs : ∀ ev ∈ evs, NonConflicting k (keyEvent par) ev)
    {parGet : Nat → UInt8} (hget : msgType parGet = msgGet) (hsame : parGet 1 = m.event) :
    ((runFrom step (s.handle par).1 evs).handle parGet).2 = m.report parGet ↔
      m.body.Fits (s.table k e) := by
  obtain ⟨hadd, hevent, -⟩ := AddMsg.carries hpar
  have he := getKeyEventIndex_of_slotOf hslot
  have hevt : keyEvent par ≠ 0xFF := by
    intro h
    rw [h] at he
    cases he
  obtain ⟨hsync, hheld, hrsp⟩ := s.handle_add_slot hadd hslot
  -- the status of the answer is that of filling the slot
  have hsucc : (s.addSlot k e par).2 = true := by
    rw [hok] at hrsp
    have hstatus := (List.cons.inj (List.cons.inj (SceneRsp.sent.inj hrsp)).2).1
    by_contra hfail
    rw [if_neg hfail] at hstatus
    exact absurd hstatus (by decide)
  -- the slot is the same when the GET comes
  have hrun := (run_table_other hsync he evs hevs).2
  have hslotGet : slotOf b (keyNbr parGet) (keyEvent parGet) = some (k, e) := by
    rw [← hslot, keyNbr, keyEvent, keyNbr, keyEvent, hsame, hevent]
  have hanswer : ∀ s' : Scenes b, (s'.handle parGet).2 = s'.get parGet := by
    intro s'
    rw [handle, hget]
    rfl
  rw [hanswer, get_eq_report_iff _ m hslotGet, hrun, hheld]
  exact s.held_iff hpar hevt hsucc

/-- Two messages for the first press of button 0. -/
def twoDests : AddMsg where
  typeAndId := 8
  event := 0x01
  body := .direct [⟨0x0012, [0x82, 0x02, 1, 0], by decide⟩, ⟨0xC001, [], by decide⟩] (by decide)
  transTime := 7
  isAdd := by decide

/-- One scene for button 1. -/
def otherScene : AddMsg where
  typeAndId := 16
  event := 0x11
  body := .single 3 0 (by decide) (by decide)
  transTime := 0
  isAdd := by decide

/-- The two messages are reported after an ADD for another button and a reboot. -/
theorem get_after_add_twoDests :
    ((runFrom step ((erased board1).handle (received twoDests.bytes)).1
        [.msg (received otherScene.bytes), .reboot]).handle (received [0x0B, 0x01])).2 =
      twoDests.report (received [0x0B, 0x01]) := by
  refine (get_after_add_iff (erased board1) twoDests (k := ⟨0, by decide⟩)
    (e := 1) (by decide +kernel) (by decide +kernel) (by decide +kernel) _ ?_ (by decide)
    (by decide)).mpr (by decide +kernel)
  rintro ev hev par rfl
  obtain hmsg | hmsg := List.mem_pair.mp hev
  · obtain rfl := Event.msg.inj hmsg
    have hother : slotOf board1 (keyNbr (received otherScene.bytes))
        (keyEvent (received otherScene.bytes)) = some (⟨1, by decide⟩, 1) := by decide +kernel
    rw [NotFor, if_pos (by decide +kernel), hother]
    rintro k' e' heq rfl
    exact absurd (Prod.mk.inj (Option.some.inj heq)).1 (by decide)
  · cases hmsg

/-- Six scenes for the first press of button 0. -/
def sixScenes : AddMsg where
  typeAndId := 8
  event := 0x01
  body := .multi (List.replicate 6 ⟨1, 0, 0⟩) (by decide)
  transTime := 0
  isAdd := by decide

/-- Six scenes are answered with success, and the next GET finds nothing. -/
theorem get_after_add_sixScenes :
    CarriesAt (received sixScenes.bytes) 0 sixScenes.bytes ∧
      ((erased board1).handle (received sixScenes.bytes)).2 =
        .sent [8, exStatusSuccess, 0x01, 0xFF, 0xFF] ∧
      (((erased board1).handle (received sixScenes.bytes)).1.handle (received [0x0B, 0x01])).2 =
        .sent [0x0B, exStatusNotSetBefore, 0x01] ∧
      (((erased board1).handle (received sixScenes.bytes)).1.handle (received [0x0B, 0x01])).2 ≠
        sixScenes.report (received [0x0B, 0x01]) := by
  decide +kernel

end Scenes

end LumesSwitch
