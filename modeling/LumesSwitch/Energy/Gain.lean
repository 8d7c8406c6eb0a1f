import Mathlib.Data.Fin.VecNotation
import LumesSwitch.Lib.Link
import LumesSwitch.Energy.Answers
import LumesSwitch.Energy.Pulses

/-!
# The gain of the meter chip (`bl0906.c`)

The chip forgets its gain without power, so the driver writes it, between a message that takes the
write protection away and one that gives it back, and reads the register, every five seconds until
the answer is the gain. The messages and the answers go over a serial line, among the requests for
what is measured.

- `MeterDriver.bl0906SetGainProc`, `bl0906WriteRegister` — the functions;
- `MeterChip` — the chip, as far as the driver uses it;
- `MeterLink` — the driver and the chip with the line between them;
- `MeterLink.gained_of_confirmed` — a gain that the driver has read is the gain of the chip;
- `MeterLink.confirmed_of_rounds` — the gain is read when the line is undisturbed for a while.
-/

namespace LumesSwitch

open Runs Rings Bufs Links

/-! ## The driver -/

/-- `GAIN_1_DEFAULT_VALUE`, `SET_GAIN_INTERVAL_MS`, `BL0906_WRITE_COMMAND`, `USR_WRPROT` -/
def gain1DefaultValue : UInt32 := 0x333300
def setGainIntervalMs : UInt32 := 5000
def bl0906WriteCommand : UInt8 := 0xCA
def regUsrWrprot : UInt8 := 0x9E

/-- `_culcCheckSum` of one string. -/
def culcCheckSum (txData : List UInt8) : UInt8 := txData.foldl (· + ·) 0 ^^^ 0xFF

/-- The three messages of `bl0906_write_register`. -/
def bl0906WriteRegister (address : UInt8) (data : UInt32) : List (List UInt8) :=
  let txData := [address, data.toUInt8, (data >>> 8).toUInt8, (data >>> 16).toUInt8]
  [[bl0906WriteCommand, 0x9e, 0x55, 0x55, 0x00, 0xb7],
    [bl0906WriteCommand] ++ txData ++ [culcCheckSum txData],
    [bl0906WriteCommand, 0x9e, 0x00, 0x00, 0x00, 0x61]]

/-- `gain_par_t` -/
structure GainPar where
  value : UInt32
  setGainStTMs : UInt32

/-- The queue of the driver, and `gain_par`. -/
structure MeterDriver where
  core : Bl0906
  gainPar : GainPar

namespace MeterDriver

/-- The driver after `bl0906_init`. -/
def init : MeterDriver := ⟨.init, ⟨0, 0⟩⟩

/-- `bl0906_set_gain_proc`, with what it sends. `Gain_i` is 16. -/
def bl0906SetGainProc (d : MeterDriver) (now : UInt32) (stack : Nat → UInt8) :
    MeterDriver × List (List UInt8) :=
  if d.gainPar.value ≠ gain1DefaultValue ∧
      clockTimeExceed now d.gainPar.setGainStTMs setGainIntervalMs then
    ({ core := d.core.bl0906ReadRegister regGain1 stack
       gainPar := { d.gainPar with setGainStTMs := now } },
      bl0906WriteRegister regGain1 gain1DefaultValue)
  else (d, [])

/-- `bl0906_proc`, with what it sends. -/
def bl0906Proc (d : MeterDriver) (now : UInt32) (stack : Nat → UInt8) :
    MeterDriver × List (List UInt8) :=
  let (d, outs) := d.bl0906SetGainProc now stack
  let core := d.core.bl0906FifoProc now
  ({ d with core }, outs ++ core.sent.drop d.core.sent.length)

/-- `bl0906_handle_serial_rx_message`, and `bl0906_handle_gain_rsp` if it is the handler. -/
def receive (d : MeterDriver) (r : RxString) : MeterDriver :=
  let core := d.core.bl0906HandleSerialRxMessage r
  match core.booked.drop d.core.booked.length with
  | [(.gain, _, par)] =>
    ⟨core, { d.gainPar with value := arrayToU24 fun i => par.getD i 0 }⟩
  | _ => ⟨core, d.gainPar⟩

end MeterDriver

/-! ## The chip -/

/-- The registers of the chip, and whether they can be written. `dipped` is no part of it: whether
it has been without power since the last start of the switch. -/
structure MeterChip where
  reg : UInt8 → Fin 3 → UInt8
  writable : Bool
  dipped : Bool

namespace MeterChip

/-- A register is written. -/
def write (c : MeterChip) (address : UInt8) (data : Fin 3 → UInt8) : MeterChip :=
  if address = regUsrWrprot then { c with writable := decide (arrayToU24 data = 0x5555) }
  else if c.writable then { c with reg := Function.update c.reg address data }
  else c

/-- The answer to a request, with the checksum that is made with the register. -/
def answer (c : MeterChip) (address : UInt8) : Fin 4 → UInt8 := fun i =>
  if h : i.val < 3 then c.reg address ⟨i.val, h⟩
  else culcCheckSum (address :: List.ofFn (c.reg address))

/-- What the chip does with a message. -/
def handle : Handler MeterChip (List UInt8) (Fin 4 → UInt8)
  | c, [cmd, address] =>
    (c, if cmd = bl0906ReadCommand then some (c.answer address) else none)
  | c, [cmd, address, d0, d1, d2, checkSum] =>
    (if cmd = bl0906WriteCommand ∧ checkSum = culcCheckSum [address, d0, d1, d2] then
      c.write address ![d0, d1, d2] else c, none)
  | c, _ => (c, none)

end MeterChip

/-! ## The two of them -/

/-- The driver, and the chip behind the line. -/
structure MeterLink where
  driver : MeterDriver
  net : Net MeterChip (List UInt8) (Fin 4 → UInt8)

/-- The string that an answer is, with the memory around it. -/
def rxOf (a : Fin 4 → UInt8) (before : UInt8) (behind : Nat → UInt8) : RxString :=
  ⟨List.ofFn a, by rw [List.length_ofFn]; decide, before, behind⟩

/-- What happens: requests of the energy module, passes of the main loop, messages and answers that
come or are lost, noise on the line, a restart of the switch, with which all in flight is gone, and
a chip that loses its power. -/
inductive GainEvent where
  | read (address : UInt8) (stack : Nat → UInt8)
  | proc (now : UInt32) (stack : Nat → UInt8)
  | deliver (i : Nat)
  | lose (i : Nat)
  | receive (i : Nat) (before : UInt8) (behind : Nat → UInt8)
  | loseReply (i : Nat)
  | noise (r : RxString)
  | restart
  | dip (reg : UInt8 → Fin 3 → UInt8)

namespace MeterLink

def step (s : MeterLink) : GainEvent → MeterLink
  | .read address stack =>
    { s with driver := { s.driver with core := s.driver.core.bl0906ReadRegister address stack } }
  | .proc now stack =>
    let (driver, outs) := s.driver.bl0906Proc now stack
    ⟨driver, s.net.send outs⟩
  | .deliver i => { s with net := s.net.deliver MeterChip.handle i }
  | .lose i => { s with net := s.net.lose i }
  | .receive i before behind =>
    match s.net.toHost[i]? with
    | none => s
    | some a => ⟨s.driver.receive (rxOf a before behind), s.net.reply i⟩
  | .loseReply i => { s with net := s.net.reply i }
  | .noise r => { s with driver := s.driver.receive r }
  | .restart => ⟨.init, ⟨{ s.net.device with dipped := false }, [], []⟩⟩
  | .dip reg => { s with net := { s.net with device := ⟨reg, false, true⟩ } }

/-- The switch and the chip are switched on. -/
def init (reg : UInt8 → Fin 3 → UInt8) : MeterLink := ⟨.init, ⟨⟨reg, false, false⟩, [], []⟩⟩

/-- The driver takes the gain as set. -/
def Confirmed (s : MeterLink) : Prop := s.driver.gainPar.value = gain1DefaultValue

instance (s : MeterLink) : Decidable s.Confirmed := inferInstanceAs (Decidable (_ = _))

/-- The gain of the chip is set. -/
def GainSet (c : MeterChip) : Prop := arrayToU24 (c.reg regGain1) = gain1DefaultValue

/-- The gain of the chip is set, or the chip has been without power since the last start. -/
def Gained (c : MeterChip) : Prop := GainSet c ∨ c.dipped = true

/-- Noise has no right checksum for the register that is outstanding. -/
def NoiseOk (s : MeterLink) : GainEvent → Prop
  | .noise r => ∀ reg, s.driver.core.Outstanding reg → ¬ r.Right reg
  | _ => True

/-! ## Messages -/

/-- The messages of the driver. -/
def Sent (m : List UInt8) : Prop :=
  (∃ address, m = [bl0906ReadCommand, address]) ∨
    m ∈ bl0906WriteRegister regGain1 gain1DefaultValue

/-- The answer is right for the gain, and it is the gain. -/
def Confirms (a : Fin 4 → UInt8) : Prop :=
  a 3 = culcCheckSum [regGain1, a 0, a 1, a 2] ∧
    arrayToU24 (fun i => a i.castSucc) = gain1DefaultValue

/-- The chip takes the three messages for what they are. -/
theorem handle_gain (c : MeterChip) :
    ∀ m ∈ bl0906WriteRegister regGain1 gain1DefaultValue,
      ((MeterChip.handle c m).1 = { c with writable := true } ∨
        (MeterChip.handle c m).1 = { c with writable := false } ∨
        (MeterChip.handle c m).1 = c.write regGain1 ![0x00, 0x33, 0x33]) ∧
      (MeterChip.handle c m).2 = none := by
  intro m hm
  rcases List.mem_cons.mp hm with rfl | hm
  · exact ⟨.inl rfl, rfl⟩
  rcases List.mem_cons.mp hm with rfl | hm
  · exact ⟨.inr (.inr rfl), rfl⟩
  · obtain rfl := List.mem_singleton.mp hm
    exact ⟨.inr (.inl rfl), rfl⟩

/-- The gain is only ever written with its value. -/
theorem gained_write {c : MeterChip} (h : Gained c) :
    Gained (c.write regGain1 ![0x00, 0x33, 0x33]) := by
  rw [MeterChip.write, if_neg (by decide)]
  split
  · refine .inl ?_
    have hreg : Function.update c.reg regGain1 ![0x00, 0x33, 0x33] regGain1 = ![0x00, 0x33, 0x33] :=
      Function.update_self ..
    exact (congrArg arrayToU24 hreg).trans (by decide)
  · exact h

/-- Two checksums over the same data are made with the same register. -/
theorem culcCheckSum_inj {x y : UInt8} {bs : List UInt8}
    (h : culcCheckSum (x :: bs) = culcCheckSum (y :: bs)) : x = y := by
  rw [culcCheckSum, culcCheckSum, UInt8.xor_left_inj, List.foldl_cons, List.foldl_cons,
    RxString.foldl_add, RxString.foldl_add _ (0 + y), UInt8.add_left_inj, UInt8.zero_add,
    UInt8.zero_add] at h
  exact h

/-- **The chip** keeps the gain, and an answer that confirms it is true. -/
theorem readBack : ReadBack MeterChip.handle Sent Gained Confirms where
  stable {c m} hsent hgood := by
    rcases hsent with ⟨address, rfl⟩ | hwrite
    · exact hgood
    · rcases (handle_gain c m hwrite).1 with heq | heq | heq
      · rw [heq]
        exact hgood
      · rw [heq]
        exact hgood
      · rw [heq]
        exact gained_write hgood
  sound {c m a} hsent hreply hconf := by
    rcases hsent with ⟨address, rfl⟩ | hwrite
    · have hanswer : some (c.answer address) = some a := hreply
      obtain rfl := Option.some.inj hanswer
      -- the checksum tells the register
      obtain rfl : address = regGain1 := culcCheckSum_inj hconf.1
      refine .inl (Eq.trans ?_ hconf.2)
      refine congrArg arrayToU24 (funext fun i => ?_)
      match i with
      | 0 => rfl
      | 1 => rfl
      | 2 => rfl
    · rw [(handle_gain c m hwrite).2] at hreply
      exact nomatch hreply

/-! ## Answers -/

theorem right_rxOf_iff {a : Fin 4 → UInt8} {before : UInt8} {behind : Nat → UInt8} {reg : UInt8} :
    (rxOf a before behind).Right reg ↔ a 3 = culcCheckSum [reg, a 0, a 1, a 2] := by
  have hsum : (rxOf a before behind).checksum reg = culcCheckSum [reg, a 0, a 1, a 2] := by
    show [a 0, a 1, a 2].foldl (· + ·) reg ^^^ 0xFF = [reg, a 0, a 1, a 2].foldl (· + ·) 0 ^^^ 0xFF
    rw [List.foldl_cons (a := reg), UInt8.zero_add]
  rw [RxString.Right, hsum]
  exact eq_comm

/-- The only handler that keeps the gain is that of its register. -/
theorem eq_regGain1_of_handlerOf {reg : UInt8} (h : handlerOf reg = some .gain) :
    reg = regGain1 := by
  unfold handlerOf at h
  split at h; · exact nomatch h
  split at h; · exact nomatch h
  split at h; · exact nomatch h
  split at h; · exact nomatch h
  split at h; · exact nomatch h
  split at h; · exact nomatch h
  split at h
  · next hreg => exact hreg
  · exact nomatch h

end MeterLink

namespace MeterDriver

variable {d : MeterDriver}

/-- The gain is written and asked for, or left as it is. -/
theorem bl0906SetGainProc_cases (d : MeterDriver) (now : UInt32) (stack : Nat → UInt8) :
    d.bl0906SetGainProc now stack =
        (⟨d.core.bl0906ReadRegister regGain1 stack, { d.gainPar with setGainStTMs := now }⟩,
          bl0906WriteRegister regGain1 gain1DefaultValue) ∨
      d.bl0906SetGainProc now stack = (d, []) := by
  rw [bl0906SetGainProc]
  split
  · exact .inl rfl
  · exact .inr rfl

/-- **A string that is received** changes the gain that has been read, if it is a right answer for
it. -/
theorem receive_cases (h : d.core.Assigned) (r : RxString) :
    (d.receive r).core = d.core.bl0906HandleSerialRxMessage r ∧
      ((d.receive r).gainPar = d.gainPar ∨
        d.core.Outstanding regGain1 ∧ r.Right regGain1 ∧
          (d.receive r).gainPar = { d.gainPar with value := arrayToU24 fun i => r.byteAt i }) := by
  rw [receive]
  rcases d.core.receive_eq r with hsame | ⟨reg, f, hout, hf, hright, heq⟩
  · rw [hsame, List.drop_length]
    exact ⟨rfl, .inl rfl⟩
  · obtain ⟨f', hreg, hf'⟩ := h reg hout
    obtain rfl : f' = f := Option.some.inj (hf'.symm.trans hf)
    rw [heq]
    dsimp only
    rw [List.drop_left]
    cases f' with
    | gain =>
      obtain rfl := MeterLink.eq_regGain1_of_handlerOf hreg
      refine ⟨rfl, .inr ⟨hout, hright, ?_⟩⟩
      refine congrArg (fun v => GainPar.mk v d.gainPar.setGainStTMs) ?_
      refine congrArg arrayToU24 (funext fun i => ?_)
      match i with
      | 0 => rfl
      | 1 => rfl
      | 2 => rfl
    | _ => exact ⟨rfl, .inl rfl⟩

end MeterDriver

namespace MeterLink

/-! ## A gain that has been read is set -/

/-- The handler that is set is the register's, what is in flight to the chip is of the driver, and
what the driver has read or may still read is true. -/
structure Inv (s : MeterLink) : Prop where
  assigned : s.driver.core.Assigned
  sound : s.net.Sound Sent Gained Confirms
  gained : s.Confirmed → Gained s.net.device

variable {s : MeterLink}

/-- A driver that has just been started has not read the gain. -/
theorem zero_ne_gain : (0 : UInt32) ≠ gain1DefaultValue := by decide

/-- What a pass of the FIFO sends is a request. -/
theorem fifoProc_sent (c : Bl0906) (now : UInt32) :
    ∀ m ∈ (c.bl0906FifoProc now).sent.drop c.sent.length, Sent m := by
  have hnone : ∀ m ∈ c.sent.drop c.sent.length, Sent m := by
    rw [List.drop_length]
    exact fun m hm => nomatch hm
  unfold Bl0906.bl0906FifoProc
  dsimp only
  split
  · split
    · exact hnone
    · exact hnone
  · split
    · split
      · rw [List.drop_left]
        exact fun m hm => .inl ⟨_, List.mem_singleton.mp hm⟩
      · exact hnone
    · exact hnone

/-- **A pass of the driver** sends what it may, and does not change the gain that it has read. -/
theorem Inv.proc (h : Inv s) (now : UInt32) (stack : Nat → UInt8) :
    Inv (s.step (.proc now stack)) := by
  have hset : (s.driver.bl0906SetGainProc now stack).1.core.Assigned ∧
      (s.driver.bl0906SetGainProc now stack).1.gainPar.value = s.driver.gainPar.value ∧
      ∀ m ∈ (s.driver.bl0906SetGainProc now stack).2, Sent m := by
    rcases s.driver.bl0906SetGainProc_cases now stack with hset | hset
    · rw [hset]
      exact ⟨h.assigned.step (.read regGain1 stack), rfl, fun m hm => .inr hm⟩
    · rw [hset]
      exact ⟨h.assigned, rfl, fun m hm => nomatch hm⟩
  obtain ⟨hassigned, hvalue, hsent⟩ := hset
  refine ⟨hassigned.step (.proc now), ?_, fun hconf => h.gained (hvalue.symm.trans hconf)⟩
  exact h.sound.send (List.forall_mem_append.mpr ⟨hsent, fifoProc_sent _ now⟩)

/-- **A string that is received** confirms the gain only if it is an answer in flight. -/
theorem Inv.receive (h : Inv s) (r : RxString)
    (hr : s.driver.core.Outstanding regGain1 → r.Right regGain1 →
      arrayToU24 (fun i => r.byteAt i) = gain1DefaultValue → Gained s.net.device) :
    Inv { s with driver := s.driver.receive r } := by
  obtain ⟨hcore, hpar⟩ := MeterDriver.receive_cases h.assigned r
  refine ⟨?_, h.sound, fun hconf => ?_⟩
  · dsimp only
    rw [hcore]
    exact h.assigned.step (.receive r)
  · rcases hpar with hsame | ⟨hout, hright, hvalue⟩
    · exact h.gained ((congrArg GainPar.value hsame).symm.trans hconf)
    · exact hr hout hright ((congrArg GainPar.value hvalue).symm.trans hconf)

/-- **Step lemma.** -/
theorem Inv.step (h : Inv s) (ev : GainEvent) (hok : s.NoiseOk ev) : Inv (s.step ev) := by
  cases ev with
  | read address stack => exact ⟨h.assigned.step (.read address stack), h.sound, h.gained⟩
  | proc now stack => exact h.proc now stack
  | deliver i =>
    exact ⟨h.assigned, h.sound.deliver readBack i, fun hconf =>
      h.sound.good_deliver readBack (h.gained hconf) i⟩
  | lose i => exact ⟨h.assigned, h.sound.lose i, h.gained⟩
  | receive i before behind =>
    rw [MeterLink.step]
    cases ha : s.net.toHost[i]? with
    | none => exact h
    | some a =>
      have hreceive := h.receive (rxOf a before behind) fun _ hright hvalue =>
        h.sound.confirmed a (List.mem_of_getElem? ha) ⟨right_rxOf_iff.mp hright, by
          rw [← hvalue]
          refine congrArg arrayToU24 (funext fun i => ?_)
          match i with
          | 0 => rfl
          | 1 => rfl
          | 2 => rfl⟩
      exact ⟨hreceive.assigned, h.sound.reply i, hreceive.gained⟩
  | loseReply i => exact ⟨h.assigned, h.sound.reply i, h.gained⟩
  | noise r =>
    exact h.receive r fun hout hright => absurd hright (hok regGain1 hout)
  | restart =>
    exact ⟨Bl0906.assigned_init, ⟨fun _ hm => (nomatch hm), fun _ hr => (nomatch hr)⟩,
      fun hconf => absurd hconf zero_ne_gain⟩
  | dip reg => exact ⟨h.assigned, h.sound.setDevice (.inr rfl), fun _ => .inr rfl⟩

theorem inv_init (reg : UInt8 → Fin 3 → UInt8) : Inv (init reg) :=
  ⟨Bl0906.assigned_init, ⟨fun _ hm => (nomatch hm), fun _ hr => (nomatch hr)⟩,
    fun hconf => absurd hconf zero_ne_gain⟩

/-- **A gain that has been read is set**, in every order of requests, passes of the main loop,
messages and answers that come late or not at all, restarts of the switch and losses of power of
the chip, with noise that no checksum fits: when the driver stops writing the gain, the chip has
it, unless it has been without power since the switch was started. -/
theorem gained_of_confirmed (reg : UInt8 → Fin 3 → UInt8) (evs : List GainEvent)
    (hok : AllSteps step NoiseOk (init reg) evs)
    (hconf : (runFrom step (init reg) evs).Confirmed) :
    GainSet (runFrom step (init reg) evs).net.device ∨
      (runFrom step (init reg) evs).net.device.dipped = true :=
  (hok.invariant (I := Inv) (fun _ ev h hev => h.step ev hev) (inv_init reg)).gained hconf

/-- Six seconds behind the start, with a noise of one byte before the answer. -/
theorem gained_of_confirmed_sixSeconds :
    let evs : List GainEvent := [.proc 6000 fun _ => 0, .deliver 0, .deliver 0, .deliver 0,
      .deliver 0, .noise ⟨[0], by decide, 0, fun _ => 0⟩, .receive 0 0 fun _ => 0]
    GainSet (runFrom step (init fun _ _ => 0) evs).net.device ∨
      (runFrom step (init fun _ _ => 0) evs).net.device.dipped = true :=
  gained_of_confirmed (fun _ _ => 0) _
    ⟨trivial, trivial, trivial, trivial, trivial, fun reg hout => by
      obtain rfl : regGain1 = reg := hout.1
      decide, trivial, trivial⟩ (by decide)

/-! ## The requests that wait -/

/-- The FIFO holds requests for the registers. -/
def Queued (f : Fifo) (regs : List UInt8) : Prop :=
  ∃ (r : Ring 16 (Buf 10)) (items : List (Buf 10)),
    f.Views r ∧ r.Holds items ∧ items.map (fun x => x 0) = regs

variable {f : Fifo} {x : UInt8} {regs : List UInt8}

/-- A FIFO looks at the bytes of one item only. -/
theorem fifoPush_congr {data data' : Nat → UInt8} (h : ∀ k < f.itemSize.toNat, data k = data' k) :
    f.fifoPush data = f.fifoPush data' := by
  rw [Fifo.fifoPush, Fifo.fifoPush]
  refine congrArg (fun buffer => ({ f with buffer, tail := f.fifoNext f.tail }, true)) ?_
  funext k
  rw [copyVoidPointerItem_apply, copyVoidPointerItem_apply]
  split
  · exact h _ (by omega)
  · rfl

theorem Queued.push (h : Queued f regs) (hroom : regs.length < 15) (address : UInt8)
    (stack : Nat → UInt8) :
    Queued (f.fifoPush fun k => if k = 0 then address else stack k).1 (regs ++ [address]) := by
  obtain ⟨r, items, hviews, hholds, hmap⟩ := h
  let item : Buf 10 := fun k => if k.val = 0 then address else stack k
  have hdata : f.fifoPush (fun k => if k = 0 then address else stack k) = f.fifoPush item.get :=
    fifoPush_congr fun k hk => by
      rw [hviews.itemSize] at hk
      have hget : item.get k = item ⟨k, hk⟩ := dif_pos hk
      exact hget.symm
  have hlen : items.length < 16 - 1 := by
    rw [← hmap, List.length_map] at hroom
    exact hroom
  rw [hdata]
  refine ⟨r.push item, items ++ [item], hviews.push item, hholds.push hlen item, ?_⟩
  rw [List.map_append, hmap]
  rfl

theorem Queued.pop (h : Queued f (x :: regs)) :
    f.fifoIsEmpty = false ∧ (f.fifoPop fun _ => 0).2.1 0 = x ∧ (f.fifoPop fun _ => 0).2.2 = true ∧
      Queued (f.fifoPop fun _ => 0).1 regs := by
  obtain ⟨r, items, hviews, hholds, hmap⟩ := h
  match items, hmap with
  | item :: items, hmap =>
    obtain ⟨hhead, htail⟩ := List.cons.inj hmap
    obtain ⟨hdrop, hslot⟩ := hholds.drop
    have hempty : f.fifoIsEmpty = false := by
      rw [hviews.isEmpty, hholds.isEmpty_eq]
      rfl
    rw [Fifo.fifoPop, if_neg (by rw [hempty]; exact Bool.false_ne_true)]
    refine ⟨hempty, ?_, rfl, r.drop, items, hviews.drop, hdrop, htail⟩
    have hitem := hviews.item (fun _ => 0) (0 : Fin 10)
    rw [hslot] at hitem
    exact hitem.trans hhead

/-! ## An undisturbed line -/

/-- The register that a request is sent for. -/
def asked (x : UInt8) : UInt8 := if (handlerOf x).isSome then x else regUnknown

/-- **A pass of the FIFO** that waits for nothing sends the oldest request. -/
theorem fifoProc_queued {c : Bl0906} (hfree : c.cmdIsRunning.idRegister = regUnknown)
    (hqueue : Queued c.fifo (x :: regs)) (now : UInt32) :
    (c.bl0906FifoProc now).cmdIsRunning = ⟨asked x, now, handlerOf x⟩ ∧
      (c.bl0906FifoProc now).sent = c.sent ++ [[bl0906ReadCommand, asked x]] ∧
      Queued (c.bl0906FifoProc now).fifo regs := by
  obtain ⟨hempty, hdata, hok, hrest⟩ := hqueue.pop
  unfold Bl0906.bl0906FifoProc
  dsimp only
  rw [if_neg (not_not.mpr hfree), if_pos hempty, if_pos hok, hdata]
  exact ⟨rfl, rfl, hrest⟩

/-- **The answer** of the chip ends the request, and is kept if it is the gain. -/
theorem receive_answer {d : MeterDriver} {t : UInt32}
    (hrun : d.core.cmdIsRunning = ⟨asked x, t, handlerOf x⟩) (c : MeterChip) (before : UInt8)
    (behind : Nat → UInt8) :
    let d' := d.receive (rxOf (c.answer (asked x)) before behind)
    d'.core.cmdIsRunning.idRegister = regUnknown ∧ d'.core.fifo = d.core.fifo ∧
      d'.gainPar = if x = regGain1 then
        { d.gainPar with value := arrayToU24 (c.reg regGain1) } else d.gainPar := by
  have hright : (rxOf (c.answer (asked x)) before behind).Right (asked x) :=
    right_rxOf_iff.mpr rfl
  cases hf : handlerOf x with
  | none =>
    have hask : asked x = regUnknown := by
      rw [asked, hf]
      rfl
    have hsame : d.core.bl0906HandleSerialRxMessage (rxOf (c.answer (asked x)) before behind) =
        d.core := by
      unfold Bl0906.bl0906HandleSerialRxMessage
      dsimp only
      rw [hrun, if_neg (not_not.mpr hask)]
    rw [MeterDriver.receive, hsame, List.drop_length]
    refine ⟨?_, rfl, ?_⟩
    · exact (congrArg ReadCmd.idRegister hrun).trans hask
    · rw [if_neg]
      rintro rfl
      exact absurd hf (by decide)
  | some f =>
    have hask : asked x = x := by
      rw [asked, hf]
      rfl
    have hne : x ≠ regUnknown := by
      rintro rfl
      have hnone : handlerOf regUnknown = none := by decide
      exact nomatch hnone.symm.trans hf
    rw [hask] at hright hrun ⊢
    have hbooked : d.core.bl0906HandleSerialRxMessage (rxOf (c.answer x) before behind) =
        { d.core with
          booked := d.core.booked ++ [(f, x, List.ofFn (c.reg x))]
          cmdIsRunning := ⟨regUnknown, t, none⟩ } := by
      unfold Bl0906.bl0906HandleSerialRxMessage
      dsimp only
      rw [hrun, if_pos hne, hf]
      exact if_pos hright
    rw [MeterDriver.receive, hbooked]
    dsimp only
    rw [List.drop_left]
    cases f with
    | gain =>
      obtain rfl := eq_regGain1_of_handlerOf hf
      refine ⟨rfl, rfl, ?_⟩
      rw [if_pos rfl]
      refine congrArg (fun v => GainPar.mk v d.gainPar.setGainStTMs) ?_
      refine congrArg arrayToU24 (funext fun i => ?_)
      match i with
      | 0 => rfl
      | 1 => rfl
      | 2 => rfl
    | _ =>
      refine ⟨rfl, rfl, ?_⟩
      rw [if_neg]
      rintro rfl
      exact absurd hf (by decide)

/-- A pass of the main loop, and time enough for the line to become free again. -/
structure Round where
  now : UInt32
  stack : Nat → UInt8
  before : UInt8
  behind : Nat → UInt8

def Round.events (r : Round) : List GainEvent :=
  [.proc r.now r.stack, .deliver 0, .deliver 0, .deliver 0, .deliver 0,
    .receive 0 r.before r.behind]

/-- Nothing is in flight or waited for, and requests for the registers wait. -/
structure Idle (s : MeterLink) (regs : List UInt8) : Prop where
  free : s.driver.core.cmdIsRunning.idRegister = regUnknown
  queue : Queued s.driver.core.fifo regs
  toDevice : s.net.toDevice = []
  toHost : s.net.toHost = []

/-- The chip takes the messages of a round, and answers the request. -/
theorem deliver_round (c : MeterChip) (x : UInt8) {ws : List (List UInt8)}
    (hws : ws = [] ∨ ws = bl0906WriteRegister regGain1 gain1DefaultValue) :
    let c' := ws.foldl (fun c m => (MeterChip.handle c m).1) c
    let n : Net MeterChip (List UInt8) (Fin 4 → UInt8) :=
      ⟨c, ws ++ [[bl0906ReadCommand, asked x]], []⟩
    (((n.deliver MeterChip.handle 0).deliver MeterChip.handle 0).deliver
      MeterChip.handle 0).deliver MeterChip.handle 0 = ⟨c', [], [c'.answer (asked x)]⟩ := by
  have hread : ∀ c : MeterChip,
      (⟨c, [[bl0906ReadCommand, asked x]], []⟩ : Net _ _ _).deliver MeterChip.handle 0 =
        ⟨c, [], [c.answer (asked x)]⟩ := by
    intro c
    have hhandle : MeterChip.handle c [bl0906ReadCommand, asked x] =
        (c, some (c.answer (asked x))) := congrArg (Prod.mk c) (if_pos rfl)
    rw [Net.deliver_cons rfl, hhandle]
    rfl
  rcases hws with rfl | rfl
  · dsimp only [List.nil_append, List.foldl_nil]
    rw [hread]
    rfl
  · have hsilent : ∀ m ∈ bl0906WriteRegister regGain1 gain1DefaultValue, ∀ c,
        (MeterChip.handle c m).2 = none := fun m hm c => (handle_gain c m hm).2
    rw [bl0906WriteRegister] at hsilent
    rw [List.forall_mem_cons, List.forall_mem_cons, List.forall_mem_singleton] at hsilent
    dsimp only [bl0906WriteRegister, List.cons_append, List.nil_append, List.foldl_cons,
      List.foldl_nil] at hsilent ⊢
    rw [Net.deliver_silent (hsilent.1 _), Net.deliver_silent (hsilent.2.1 _),
      Net.deliver_silent (hsilent.2.2 _), hread]

/-- **One round** of an undisturbed line, for the oldest request. -/
theorem round_spec {s : MeterLink} (r : Round) {d : MeterDriver} {ws : List (List UInt8)}
    (hset : s.driver.bl0906SetGainProc r.now r.stack = (d, ws))
    (hws : ws = [] ∨ ws = bl0906WriteRegister regGain1 gain1DefaultValue)
    (hfree : d.core.cmdIsRunning.idRegister = regUnknown)
    (hqueue : Queued d.core.fifo (x :: regs)) (hdev : s.net.toDevice = [])
    (hhost : s.net.toHost = []) :
    let c' := ws.foldl (fun c m => (MeterChip.handle c m).1) s.net.device
    let s' := runFrom step s r.events
    Idle s' regs ∧ s'.net.device = c' ∧
      s'.driver.gainPar = if x = regGain1 then
        { d.gainPar with value := arrayToU24 (c'.reg regGain1) } else d.gainPar := by
  obtain ⟨hrun, hsent, hrest⟩ := fifoProc_queued hfree hqueue r.now
  have hproc : s.step (.proc r.now r.stack) =
      ⟨{ d with core := d.core.bl0906FifoProc r.now },
        ⟨s.net.device, ws ++ [[bl0906ReadCommand, asked x]], []⟩⟩ := by
    rw [step, MeterDriver.bl0906Proc, hset]
    dsimp only
    rw [hsent, List.drop_left, Net.send, hdev, hhost]
    rfl
  have hdeliver := deliver_round s.net.device x hws
  have hanswer := receive_answer (d := { d with core := d.core.bl0906FifoProc r.now }) hrun
    (ws.foldl (fun c m => (MeterChip.handle c m).1) s.net.device) r.before r.behind
  dsimp only at hdeliver hanswer ⊢
  have hrunFrom : runFrom step s r.events =
      ⟨({ d with core := d.core.bl0906FifoProc r.now } : MeterDriver).receive
        (rxOf ((ws.foldl (fun c m => (MeterChip.handle c m).1) s.net.device).answer (asked x))
          r.before r.behind),
        ⟨ws.foldl (fun c m => (MeterChip.handle c m).1) s.net.device, [], []⟩⟩ := by
    rw [Round.events, runFrom_cons, hproc, runFrom_cons, runFrom_cons, runFrom_cons, runFrom_cons,
      runFrom_cons, runFrom_nil, step, step, step, step]
    dsimp only
    rw [hdeliver]
    rfl
  rw [hrunFrom]
  obtain ⟨hfree', hfifo, hpar⟩ := hanswer
  refine ⟨⟨hfree', ?_, rfl, rfl⟩, rfl, hpar⟩
  dsimp only
  rw [hfifo]
  exact hrest

/-- The three messages set the gain of any chip. -/
theorem gainSet_written (c : MeterChip) :
    GainSet ((bl0906WriteRegister regGain1 gain1DefaultValue).foldl
      (fun c m => (MeterChip.handle c m).1) c) := by
  have hreg : Function.update c.reg regGain1 ![0x00, 0x33, 0x33] regGain1 = ![0x00, 0x33, 0x33] :=
    Function.update_self ..
  exact (congrArg arrayToU24 hreg).trans (by decide)

/-- **A round with a chip that has the gain** answers the oldest request, and leaves a request for
the gain behind if the gain is due again. -/
theorem round_gainSet {s : MeterLink} (h : Idle s (x :: regs)) (hroom : regs.length < 14)
    (hset : GainSet s.net.device) (r : Round) :
    let s' := runFrom step s r.events
    (∃ again, again.length ≤ 1 ∧ Idle s' (regs ++ again)) ∧ GainSet s'.net.device ∧
      (x = regGain1 → s'.Confirmed) := by
  rcases s.driver.bl0906SetGainProc_cases r.now r.stack with hproc | hproc
  · -- the gain is written again, which does not change it
    have hqueue := h.queue.push (Nat.succ_lt_succ hroom) regGain1 r.stack
    obtain ⟨hidle, hchip, hpar⟩ :=
      round_spec r hproc (.inr rfl) h.free hqueue h.toDevice h.toHost
    have hwritten := gainSet_written s.net.device
    refine ⟨⟨[regGain1], le_rfl, hidle⟩, hchip ▸ hwritten, fun hx => ?_⟩
    rw [Confirmed, hpar, if_pos hx]
    exact hwritten
  · obtain ⟨hidle, hchip, hpar⟩ :=
      round_spec r hproc (.inl rfl) h.free h.queue h.toDevice h.toHost
    refine ⟨⟨[], Nat.zero_le 1, (List.append_nil regs).symm ▸ hidle⟩, hchip ▸ hset, fun hx => ?_⟩
    rw [Confirmed, hpar, if_pos hx]
    exact hset

/-- The requests before the one for the gain are answered one by one, however long the rounds
take: a round that asks for the gain once more asks behind it. -/
theorem confirmed_of_queued (regs again : List UInt8) {s : MeterLink} {rs : List Round}
    (h : Idle s (regs ++ regGain1 :: again)) (hroom : regs.length + again.length < 14)
    (hset : GainSet s.net.device) (hlen : rs.length = regs.length + 1) :
    (runFrom step s (rs.flatMap Round.events)).Confirmed ∧
      GainSet (runFrom step s (rs.flatMap Round.events)).net.device := by
  induction regs generalizing s rs again with
  | nil =>
    match rs, hlen with
    | [r], _ =>
      have hagain : again.length < 14 := by
        rw [List.length_nil, Nat.zero_add] at hroom
        exact hroom
      obtain ⟨-, hchip, hconf⟩ := round_gainSet h hagain hset r
      rw [List.flatMap_singleton]
      exact ⟨hconf rfl, hchip⟩
  | cons x regs ih =>
    match rs, hlen with
    | r :: rs, hlen =>
      have hbehind : (regs ++ regGain1 :: again).length < 14 := by
        rw [List.length_append, List.length_cons]
        rw [List.length_cons] at hroom
        omega
      obtain ⟨⟨more, hmore, hidle⟩, hchip, -⟩ := round_gainSet h hbehind hset r
      have hrest : Idle (runFrom step s r.events) (regs ++ regGain1 :: (again ++ more)) := by
        rw [← List.cons_append, ← List.append_assoc]
        exact hidle
      rw [List.flatMap_cons, runFrom_append]
      refine ih (again ++ more) hrest ?_ hchip (Nat.succ.inj hlen)
      rw [List.length_append]
      rw [List.length_cons] at hroom
      omega

/-- **The gain is set and read** when the line is undisturbed, whatever the chip holds: from any
state in which nothing is in flight and the gain is due, with up to fourteen requests that wait, one
round for each of them and one more are enough, whatever time they take. -/
theorem confirmed_of_rounds {s : MeterLink} {regs : List UInt8} (h : Idle s regs)
    (hroom : regs.length < 15) (hnot : ¬ s.Confirmed) (r : Round)
    (hdue : clockTimeExceed r.now s.driver.gainPar.setGainStTMs setGainIntervalMs = true)
    (rs : List Round) (hlen : rs.length = regs.length) :
    (runFrom step s ((r :: rs).flatMap Round.events)).Confirmed ∧
      GainSet (runFrom step s ((r :: rs).flatMap Round.events)).net.device := by
  have hset : s.driver.bl0906SetGainProc r.now r.stack =
      (⟨s.driver.core.bl0906ReadRegister regGain1 r.stack,
        { s.driver.gainPar with setGainStTMs := r.now }⟩,
        bl0906WriteRegister regGain1 gain1DefaultValue) := if_pos ⟨hnot, hdue⟩
  have hqueue := h.queue.push hroom regGain1 r.stack
  have hwritten := gainSet_written s.net.device
  rw [List.flatMap_cons, runFrom_append]
  match regs, rs, hlen with
  | [], [], _ =>
    obtain ⟨-, hchip, hpar⟩ := round_spec r hset (.inr rfl) h.free hqueue h.toDevice h.toHost
    rw [List.flatMap_nil, runFrom_nil, Confirmed, hpar, hchip, if_pos rfl]
    exact ⟨hwritten, hwritten⟩
  | x :: regs, rs, hlen =>
    obtain ⟨hidle, hchip, -⟩ := round_spec r hset (.inr rfl) h.free hqueue h.toDevice h.toHost
    exact confirmed_of_queued regs [] hidle (Nat.lt_of_succ_lt_succ hroom) (hchip ▸ hwritten) hlen

/-- Nothing waits after a start. -/
theorem idle_init (reg : UInt8 → Fin 3 → UInt8) : Idle (init reg) [] where
  free := rfl
  queue := ⟨Fifo.initRing (fun _ => 0) 10 (by decide), [],
    Fifo.views_fifoInit _ readCmdSize (by decide), Fifo.holds_initRing _ (by decide), rfl⟩
  toDevice := rfl
  toHost := rfl

/-- A request of the energy module waits behind the others. -/
theorem Idle.read {s : MeterLink} (h : Idle s regs) (hroom : regs.length < 15) (address : UInt8)
    (stack : Nat → UInt8) : Idle (s.step (.read address stack)) (regs ++ [address]) where
  free := h.free
  queue := h.queue.push hroom address stack
  toDevice := h.toDevice
  toHost := h.toHost

/-- A driver of which a current and a voltage have been asked for, and rounds of three seconds: the
gain is written a second time in the third. -/
theorem confirmed_of_rounds_threeRounds :
    let s := ((init fun _ _ => 0).step (.read regI1Rms fun _ => 0)).step
      (.read regVRms fun _ => 0)
    let rs : List Round := [⟨6000, fun _ => 0, 0, fun _ => 0⟩, ⟨9000, fun _ => 0, 0, fun _ => 0⟩,
      ⟨12000, fun _ => 0, 0, fun _ => 0⟩]
    (runFrom step s (rs.flatMap Round.events)).Confirmed ∧
      GainSet (runFrom step s (rs.flatMap Round.events)).net.device :=
  confirmed_of_rounds
    (((idle_init fun _ _ => 0).read (by decide) _ fun _ => 0).read (by decide) _ fun _ => 0)
    (by decide) (by decide) ⟨6000, fun _ => 0, 0, fun _ => 0⟩ (by decide)
    [⟨9000, fun _ => 0, 0, fun _ => 0⟩, ⟨12000, fun _ => 0, 0, fun _ => 0⟩] rfl

end MeterLink

end LumesSwitch
