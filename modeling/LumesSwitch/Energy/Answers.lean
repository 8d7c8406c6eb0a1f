import LumesSwitch.Fifo
import LumesSwitch.Board

/-!
# Requests to the meter chip (`bl0906.c`)

Registers are read one after the other. An answer does not name its register: its checksum is
made with it. It is made over the string that has been received, of any length, while the data
is copied from the first four bytes.

- `Bl0906.bl0906FifoProc`, `Bl0906.bl0906HandleSerialRxMessage` — the functions;
- `RxString.right_unique` — a string is a right answer for one register only;
- `Bl0906.answersOk_iff` — the runs in which every answer is booked to its register.
-/

namespace LumesSwitch

open Bufs Runs

/-! ## Registers -/

/-- `I1_RMS`, `I2_RMS`, `I3_RMS`, `V_RMS`, `WATT_1`, `WATT_2`, `WATT_3` -/
def regI1Rms : UInt8 := 0x0D
def regI2Rms : UInt8 := 0x0E
def regI3Rms : UInt8 := 0x0F
def regVRms : UInt8 := 0x16
def regWatt1 : UInt8 := 0x23
def regWatt2 : UInt8 := 0x24
def regWatt3 : UInt8 := 0x25

/-- `CF1_CNT`, `CF2_CNT`, `CF3_CNT`, `TPS`, `GAIN_1` -/
def regCf1Cnt : UInt8 := 0x30
def regCf2Cnt : UInt8 := 0x31
def regCf3Cnt : UInt8 := 0x32
def regTps : UInt8 := 0x5E
def regGain1 : UInt8 := 0x60

/-- `RMSOS_1`, `RMSOS_2`, `RMSOS_3`, `REG_UNKNOWN` -/
def regRmsos1 : UInt8 := 0x78
def regRmsos2 : UInt8 := 0x79
def regRmsos3 : UInt8 := 0x7A
def regUnknown : UInt8 := 0xFF

/-- `BL0906_RX_LEN`, `BL0906_READ_TIMEOUT`, `BL0906_BUF_CMD_SIZE`, `BL0906_READ_COMMAND` -/
def bl0906RxLen : Nat := 4
def bl0906ReadTimeout : UInt32 := 100
def bl0906BufCmdSize : UInt16 := 16
def bl0906ReadCommand : UInt8 := 0x35

/-- The handlers of the answers. -/
inductive MeterHandler where
  | current
  | rmsos
  | voltage
  | activePower
  | activeEnergy
  | temperature
  | gain
  deriving DecidableEq

/-- The handler of a register, if it has one. -/
def handlerOf (reg : UInt8) : Option MeterHandler :=
  if reg = regI1Rms ∨ reg = regI2Rms ∨ reg = regI3Rms then some .current
  else if reg = regRmsos1 ∨ reg = regRmsos2 ∨ reg = regRmsos3 then some .rmsos
  else if reg = regVRms then some .voltage
  else if reg = regWatt1 ∨ reg = regWatt2 ∨ reg = regWatt3 then some .activePower
  else if reg = regCf1Cnt ∨ reg = regCf2Cnt ∨ reg = regCf3Cnt then some .activeEnergy
  else if reg = regTps then some .temperature
  else if reg = regGain1 then some .gain
  else none

/-! ## The module -/

/-- `bl0906_read_cmd_t`, without its unused header. -/
structure ReadCmd where
  idRegister : UInt8
  activeStTime : UInt32
  pFunc : Option MeterHandler
  deriving DecidableEq

/-- The number of bytes of a `bl0906_read_cmd_t`. -/
def readCmdSize : UInt8 := 10

/-- A string in the receive buffer, with the memory around it. -/
structure RxString where
  bytes : List UInt8
  le : bytes.length ≤ 255
  before : UInt8
  behind : Nat → UInt8

namespace RxString

/-- `buff[k]` -/
def byteAt (r : RxString) (k : Nat) : UInt8 := r.bytes.getD k (r.behind (k - r.bytes.length))

/-- `buff[len-1]` -/
def last (r : RxString) : UInt8 :=
  if r.bytes.length = 0 then r.before else r.byteAt (r.bytes.length - 1)

/-- The checksum that is made of the string for a register. -/
def checksum (r : RxString) (reg : UInt8) : UInt8 :=
  (r.bytes.take (r.bytes.length - 1)).foldl (· + ·) reg ^^^ 0xFF

/-- The string has the right checksum for the register. -/
def Right (r : RxString) (reg : UInt8) : Prop := r.checksum reg = r.last

instance (r : RxString) (reg : UInt8) : Decidable (r.Right reg) :=
  inferInstanceAs (Decidable (_ = _))

end RxString

/-- `cmd_is_running`, `fifo_bl0906_cmd`, the calls of handlers with the register and the data
that they have got, and what has been sent to the chip. -/
structure Bl0906 where
  cmdIsRunning : ReadCmd
  fifo : Fifo
  booked : List (MeterHandler × UInt8 × List UInt8)
  sent : List (List UInt8)

namespace Bl0906

/-- `bl0906_read_register`, with the bytes of the request that are not set. -/
def bl0906ReadRegister (s : Bl0906) (address : UInt8) (stack : Nat → UInt8) : Bl0906 :=
  { s with fifo := (s.fifo.fifoPush fun k => if k = 0 then address else stack k).1 }

/-- `bl0906_fifo_proc` -/
def bl0906FifoProc (s : Bl0906) (now : UInt32) : Bl0906 :=
  let c := s.cmdIsRunning
  if c.idRegister ≠ regUnknown then
    if clockTimeExceed now c.activeStTime bl0906ReadTimeout then
      { s with cmdIsRunning := { c with idRegister := regUnknown } }
    else s
  else if s.fifo.fifoIsEmpty = false then
    let (fifo, data, ok) := s.fifo.fifoPop fun _ => 0
    if ok then
      let id := if (handlerOf (data 0)).isSome then data 0 else regUnknown
      { s with
        fifo
        cmdIsRunning := ⟨id, now, handlerOf (data 0)⟩
        sent := s.sent ++ [[bl0906ReadCommand, id]] }
    else s
  else s

/-- `bl0906_handle_serial_rx_message` -/
def bl0906HandleSerialRxMessage (s : Bl0906) (r : RxString) : Bl0906 :=
  let rxData := (List.range bl0906RxLen).map r.byteAt
  let c := s.cmdIsRunning
  if c.idRegister ≠ regUnknown then
    match c.pFunc with
    | none => s
    | some f =>
      if r.checksum c.idRegister = r.last then
        { s with
          booked := s.booked ++ [(f, c.idRegister, rxData.take (bl0906RxLen - 1))]
          cmdIsRunning := { c with idRegister := regUnknown, pFunc := none } }
      else s
  else s

end Bl0906

/-- What happens between the modules and the chip. A read that a handler asks for in turn is a
read of its own. -/
inductive Bl0906Event where
  | read (address : UInt8) (stack : Nat → UInt8)
  | proc (now : UInt32)
  | receive (r : RxString)

/-! ## Checksums -/

namespace RxString

variable {r : RxString} {reg reg' : UInt8}

theorem foldl_add (bs : List UInt8) (x : UInt8) :
    bs.foldl (· + ·) x = x + bs.foldl (· + ·) 0 := by
  induction bs generalizing x with
  | nil => exact (UInt8.add_zero x).symm
  | cons y bs ih =>
    rw [List.foldl_cons, List.foldl_cons, ih, ih (0 + y), UInt8.zero_add, UInt8.add_assoc]

/-- **One register only**: a string is a right answer for one register at most. -/
theorem right_unique (h : r.Right reg) (h' : r.Right reg') : reg = reg' := by
  have heq : r.checksum reg = r.checksum reg' := h.trans h'.symm
  rw [checksum, checksum, UInt8.xor_left_inj, foldl_add, foldl_add _ reg',
    UInt8.add_left_inj] at heq
  exact heq

end RxString

/-! ## Runs -/

namespace Bl0906

variable {s : Bl0906}

/-- One event. -/
def step (s : Bl0906) : Bl0906Event → Bl0906
  | .read address stack => s.bl0906ReadRegister address stack
  | .proc now => s.bl0906FifoProc now
  | .receive r => s.bl0906HandleSerialRxMessage r

/-- The module after `bl0906_init`. -/
def init : Bl0906 where
  cmdIsRunning := ⟨regUnknown, 0, none⟩
  fifo := .fifoInit (fun _ => 0) readCmdSize bl0906BufCmdSize
  booked := []
  sent := []

/-- A register has been asked for, and the answer is awaited. -/
def Outstanding (s : Bl0906) (reg : UInt8) : Prop :=
  s.cmdIsRunning.idRegister = reg ∧ reg ≠ regUnknown

/-- An answer of the right length with the right checksum. -/
def WellFormed (r : RxString) (reg : UInt8) : Prop :=
  r.bytes.length = bl0906RxLen ∧ r.Right reg

/-- What a received string may do. -/
structure ReceiveOk (s : Bl0906) (r : RxString) (s' : Bl0906) : Prop where
  booked : s'.booked = s.booked ∨ ∃ reg f, s.Outstanding reg ∧ WellFormed r reg ∧
    handlerOf reg = some f ∧ s'.booked = s.booked ++ [(f, reg, r.bytes.take 3)]
  late : ∀ reg, WellFormed r reg → ¬ s.Outstanding reg → s' = s

/-- Only a received string books anything, and it does so as it may. -/
def StepOk (s : Bl0906) : Bl0906Event → Prop
  | .receive r => ReceiveOk s r (s.bl0906HandleSerialRxMessage r)
  | .read address stack => (s.bl0906ReadRegister address stack).booked = s.booked
  | .proc now => (s.bl0906FifoProc now).booked = s.booked

/-- A string of another length has no right checksum for the register that is outstanding. -/
def LengthOk (s : Bl0906) : Bl0906Event → Prop
  | .receive r => r.bytes.length ≠ bl0906RxLen → ∀ reg, s.Outstanding reg → ¬ r.Right reg
  | .read _ _ | .proc _ => True

/-- The handler that is set for an outstanding register is the register's. -/
def Assigned (s : Bl0906) : Prop :=
  ∀ reg, s.Outstanding reg → ∃ f, handlerOf reg = some f ∧ s.cmdIsRunning.pFunc = some f

theorem assigned_unknown (h : s.cmdIsRunning.idRegister = regUnknown) : s.Assigned := by
  rintro reg ⟨hreg, hne⟩
  exact absurd (hreg.symm.trans h) hne

theorem assigned_init : init.Assigned := assigned_unknown rfl

/-- A received string is booked with the handler and the register that are set, or does
nothing. -/
theorem receive_eq (s : Bl0906) (r : RxString) :
    s.bl0906HandleSerialRxMessage r = s ∨ ∃ reg f, s.Outstanding reg ∧
      s.cmdIsRunning.pFunc = some f ∧ r.Right reg ∧
      s.bl0906HandleSerialRxMessage r =
        { s with
          booked := s.booked ++ [(f, reg, ((List.range bl0906RxLen).map r.byteAt).take 3)]
          cmdIsRunning := { s.cmdIsRunning with idRegister := regUnknown, pFunc := none } } := by
  unfold bl0906HandleSerialRxMessage
  dsimp only
  split
  · next hid =>
    split
    · exact .inl rfl
    · next f hf =>
      split
      · next hright => exact .inr ⟨_, f, ⟨rfl, hid⟩, hf, hright, rfl⟩
      · exact .inl rfl
  · exact .inl rfl

/-- A right answer for the outstanding register is booked. -/
theorem receive_right {r : RxString} {reg : UInt8} {f : MeterHandler} (hout : s.Outstanding reg)
    (hf : s.cmdIsRunning.pFunc = some f) (hright : r.Right reg) :
    (s.bl0906HandleSerialRxMessage r).booked =
      s.booked ++ [(f, reg, ((List.range bl0906RxLen).map r.byteAt).take 3)] := by
  obtain ⟨rfl, hne⟩ := hout
  unfold bl0906HandleSerialRxMessage
  dsimp only
  rw [if_pos hne, hf]
  exact congrArg booked (if_pos hright)

/-- The data of a string of the right length is the first three bytes of it. -/
theorem data_eq {r : RxString} (h : r.bytes.length = bl0906RxLen) :
    ((List.range bl0906RxLen).map r.byteAt).take 3 = r.bytes.take 3 := by
  obtain ⟨bytes, le, before, behind⟩ := r
  match bytes, le, h with
  | [_, _, _, _], _, _ => rfl

/-- A pass of the FIFO calls no handler, and takes the handler of the register that it asks
for. -/
theorem fifoProc_cases (s : Bl0906) (now : UInt32) :
    (s.bl0906FifoProc now).booked = s.booked ∧
      (s.bl0906FifoProc now = s ∨
        (s.bl0906FifoProc now).cmdIsRunning.idRegister = regUnknown ∨
        ∃ f, handlerOf (s.bl0906FifoProc now).cmdIsRunning.idRegister = some f ∧
          (s.bl0906FifoProc now).cmdIsRunning.pFunc = some f) := by
  unfold bl0906FifoProc
  dsimp only
  split
  · split
    · exact ⟨rfl, .inr (.inl rfl)⟩
    · exact ⟨rfl, .inl rfl⟩
  · split
    · split
      · refine ⟨rfl, .inr ?_⟩
        dsimp only
        -- a register without a handler is not waited for
        cases hf : handlerOf ((s.fifo.fifoPop fun _ => 0).2.1 0) with
        | none => exact .inl rfl
        | some f => exact .inr ⟨f, hf, rfl⟩
      · exact ⟨rfl, .inl rfl⟩
    · exact ⟨rfl, .inl rfl⟩

/-- **Step lemma.** -/
theorem Assigned.step (h : s.Assigned) (ev : Bl0906Event) : (s.step ev).Assigned := by
  cases ev with
  | read address stack => exact h
  | proc now =>
    rcases (s.fifoProc_cases now).2 with hsame | hunknown | ⟨f, hid, hf⟩
    · rw [Bl0906.step, hsame]
      exact h
    · exact assigned_unknown hunknown
    · rintro reg ⟨rfl, -⟩
      exact ⟨f, hid, hf⟩
  | receive r =>
    rcases s.receive_eq r with hsame | ⟨reg, f, -, -, -, heq⟩
    · rw [Bl0906.step, hsame]
      exact h
    · rw [Bl0906.step, heq]
      exact assigned_unknown rfl

/-- A received string, where the handler that is set is the register's. -/
theorem Assigned.receiveOk_iff (h : s.Assigned) (r : RxString) :
    ReceiveOk s r (s.bl0906HandleSerialRxMessage r) ↔ s.LengthOk (.receive r) := by
  constructor
  · intro hok hlen reg hout hright
    obtain ⟨f, -, hf⟩ := h reg hout
    rcases hok.booked with hsame | ⟨reg', f', -, hwell, -⟩
    -- it has been booked, so not as nothing, but as an answer of the right length
    · rw [receive_right hout hf hright] at hsame
      have hlength := congrArg List.length hsame
      rw [List.length_append, List.length_singleton] at hlength
      omega
    · exact hlen hwell.1
  · intro hok
    rcases s.receive_eq r with hsame | ⟨reg, f, hout, hf, hright, heq⟩
    · exact ⟨.inl (congrArg booked hsame), fun _ _ _ => hsame⟩
    -- a string that is right for the outstanding register has the length, and is no late one
    · have hlen : r.bytes.length = bl0906RxLen := by
        by_contra hne
        exact hok hne reg hout hright
      obtain ⟨f', hreg, hf'⟩ := h reg hout
      obtain rfl : f' = f := Option.some.inj (hf'.symm.trans hf)
      refine ⟨.inr ⟨reg, f', hout, ⟨hlen, hright⟩, hreg, ?_⟩, fun reg' hwell hnot => ?_⟩
      · rw [heq, ← data_eq hlen]
      · exact absurd (RxString.right_unique hright hwell.2 ▸ hout) hnot

/-- One event. -/
theorem Assigned.stepOk_iff (h : s.Assigned) (ev : Bl0906Event) : s.StepOk ev ↔ s.LengthOk ev := by
  cases ev with
  | read address stack => exact iff_of_true rfl trivial
  | proc now => exact iff_of_true (s.fifoProc_cases now).1 trivial
  | receive r => exact h.receiveOk_iff r

/-- **Every interleaving** of reads, passes of the FIFO, timeouts and received strings: answers
are booked to the register that was asked, and late ones do nothing, if and only if no string of
another length has the right checksum for the register that is outstanding when it comes. -/
theorem answersOk_iff (evs : List Bl0906Event) :
    AllSteps step StepOk init evs ↔ AllSteps step LengthOk init evs := by
  -- both sides run over the same states
  refine AllSteps.simulation (R := fun s s' => s = s' ∧ s.Assigned) ?_ ?_ ⟨rfl, assigned_init⟩ evs
  · rintro s _ ev ⟨rfl, h⟩
    exact ⟨rfl, h.step ev⟩
  · rintro s _ ev ⟨rfl, h⟩
    exact h.stepOk_iff ev

/-- A string of one byte, the right checksum for `CF1_CNT`, with the last answer still behind
it in the buffer. -/
def oneByte : RxString :=
  ⟨[regCf1Cnt ^^^ 0xFF], by decide, 0, fun k => [(0x00 : UInt8), 0x10, 0x00].getD k 0⟩

/-- While `CF1_CNT` is outstanding it is taken for an answer. -/
theorem not_answersOk_oneByte :
    ¬ AllSteps step StepOk init [.read regCf1Cnt fun _ => 0, .proc 0, .receive oneByte] := by
  intro h
  have hassigned : ((init.step (.read regCf1Cnt fun _ => 0)).step (.proc 0)).Assigned :=
    (assigned_init.step _).step _
  have hlen := (hassigned.receiveOk_iff oneByte).mp h.2.2.1
  exact hlen (by decide) regCf1Cnt ⟨by decide, by decide⟩ (by decide)

end Bl0906

end LumesSwitch
