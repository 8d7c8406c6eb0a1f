import LumesSwitch.Lib.I2c

/-!
# The two-wire bus by hand (`soft_i2c.c`)

The two lines are set pin by pin. What a transfer does to a chip on them is, byte by byte, what
the functions are called for.

- `softI2cStart`, `softI2cStop`, `softI2cWrite`, `softI2cRead` — the functions;
- `atByte_softI2cStart`, `softI2cWrite_spec`, `softI2cRead_spec` — what each is for a chip.
-/

namespace LumesSwitch

open I2c

/-- `I2C_ACK`, `I2C_NACK`, `I2C_TIMEOUT_DEFAULT` -/
def i2cAck : UInt8 := 0xFF
def i2cNack : UInt8 := 0x00
def i2cTimeoutDefault : Nat := 1000

/-- `I2cStatus_Enum` -/
inductive I2cStatus where
  | success
  | timeout
  deriving DecidableEq

section Driver

variable {σ : Type*} (d : Slave σ)

/-- `SDA_HIGH`, `SDA_LOW`, `SCL_HIGH`, `SCL_LOW` -/
def sdaHigh (b : Bus σ) : Bus σ := b.setSda d b.out true
def sdaLow (b : Bus σ) : Bus σ := b.setSda d b.out false
def sclHigh (b : Bus σ) : Bus σ := b.setScl d true
def sclLow (b : Bus σ) : Bus σ := b.setScl d false

/-- `soft_i2c_in`, `soft_i2c_out` -/
def softI2cIn (b : Bus σ) : Bus σ := b.setSda d false b.latch
def softI2cOut (b : Bus σ) : Bus σ := b.setSda d true b.latch

/-- `soft_i2c_init` -/
def softI2cInit (b : Bus σ) : Bus σ := sclHigh d (sdaHigh d (softI2cOut d b))

/-- `soft_i2c_start` -/
def softI2cStart (b : Bus σ) : Bus σ :=
  let b := softI2cOut d b
  let b := sdaHigh d b
  let b := sclHigh d b
  let b := sdaLow d b
  sclLow d b

/-- `soft_i2c_stop` -/
def softI2cStop (b : Bus σ) : Bus σ :=
  let b := softI2cOut d b
  let b := sdaLow d b
  let b := sclHigh d b
  sdaHigh d b

/-- The loop of `soft_i2c_wait_ack`, with the polls that are left. -/
def waitAckLoop : Nat → Bus σ → I2cStatus × Bus σ
  | 0, b => (.timeout, softI2cStop d b)
  | n + 1, b => if b.sda d then waitAckLoop n b else (.success, sclLow d b)

/-- `soft_i2c_wait_ack` -/
def softI2cWaitAck (b : Bus σ) : I2cStatus × Bus σ :=
  let b := softI2cIn d b
  let b := sclHigh d b
  -- the counter is compared behind the increment
  waitAckLoop d (i2cTimeoutDefault + 1) b

/-- The loop of `soft_i2c_write`, `i` bits to go. -/
def softI2cWriteLoop : Nat → UInt8 → Bus σ → Bus σ
  | 0, _, b => b
  | i + 1, value, b =>
    let b := if (value &&& 0x80) >>> 7 ≠ 0 then sdaHigh d b else sdaLow d b
    let b := sclHigh d b
    let b := sclLow d b
    softI2cWriteLoop i (value <<< 1) b

/-- `soft_i2c_write` -/
def softI2cWrite (value : UInt8) (b : Bus σ) : I2cStatus × Bus σ :=
  let b := softI2cOut d b
  let b := sclLow d b
  let b := softI2cWriteLoop d 8 value b
  softI2cWaitAck d b

/-- `soft_i2c_ack_nack` -/
def softI2cAckNack (mode : UInt8) (b : Bus σ) : Bus σ :=
  let b := sclLow d b
  let b := softI2cOut d b
  let b := if mode = i2cAck then sdaLow d b else sdaHigh d b
  let b := sclHigh d b
  sclLow d b

/-- The loop of `soft_i2c_read`, `i` bits to go. -/
def softI2cReadLoop : Nat → UInt8 → Bus σ → UInt8 × Bus σ
  | 0, j, b => (j, b)
  | i + 1, j, b =>
    let b := sclLow d b
    let b := sclHigh d b
    let j := if b.sda d then j <<< 1 + 1 else j <<< 1
    softI2cReadLoop i j b

/-- `soft_i2c_read` -/
def softI2cRead (ack : UInt8) (b : Bus σ) : UInt8 × Bus σ :=
  let b := softI2cIn d b
  let (j, b) := softI2cReadLoop d 8 0 b
  if ack = i2cAck then (j, softI2cAckNack d i2cAck b)
  else if ack = i2cNack then (j, softI2cAckNack d i2cNack b)
  else (j, b)

end Driver

variable {δ : Type*} {dev : Chip δ} {s : δ} {b : Bus (Phase × δ)}

/-! ## Start and stop -/

/-- A rising clock does not make the chip hold the line. -/
theorem pull_rise {c : Phase × δ} (h : Chip.pull c = false) (sda : Bool) :
    Chip.pull (Chip.rise c sda) = false := by
  obtain ⟨p, s⟩ := c
  cases p <;> first | rfl | exact h

theorem rise_snd (c : Phase × δ) (sda : Bool) : (Chip.rise c sda).2 = c.2 := by
  obtain ⟨p, s⟩ := c
  cases p <;> rfl

variable (dev) in
/-- Both lines are high behind the first half of a start. -/
theorem sclHigh_of_free (h : Free s b) :
    ∃ c, sclHigh dev.slave (sdaHigh dev.slave (softI2cOut dev.slave b)) = ⟨true, true, true, c⟩ ∧
      Chip.pull c = false ∧ c.2 = s := by
  obtain ⟨scl, out, latch, c⟩ := b
  have hpull : Chip.pull c = false := h.pull
  cases scl with
  | true =>
    obtain ⟨hout, hlatch⟩ := h.high rfl
    obtain rfl : out = true := hout
    obtain rfl : latch = true := hlatch
    refine ⟨c, ?_, hpull, h.chip⟩
    rw [softI2cOut, Bus.setSda_same rfl, sdaHigh, Bus.setSda_same rfl, sclHigh, Bus.setScl_same rfl]
  | false =>
    refine ⟨Chip.rise c true, ?_, pull_rise hpull true, (rise_snd c true).trans h.chip⟩
    rw [softI2cOut, Bus.setSda_low rfl, sdaHigh, Bus.setSda_low rfl, sclHigh, Bus.setScl_rise rfl]
    have hsda : (⟨false, true, true, c⟩ : Bus (Phase × δ)).sda dev.slave = true := by
      show (true && !Chip.pull c) = true
      rw [hpull]
      rfl
    dsimp only
    rw [hsda]
    rfl

variable (dev) in
/-- **A start**: the chip waits for its address. -/
theorem atByte_softI2cStart (h : Free s b) :
    AtByte dev .addressing (dev.start s) (softI2cStart dev.slave b) := by
  obtain ⟨c, hhigh, hpull, rfl⟩ := sclHigh_of_free dev h
  have hsda : (⟨true, true, true, c⟩ : Bus (Phase × δ)).sda dev.slave = true := by
    show (true && !Chip.pull c) = true
    rw [hpull]
    rfl
  rw [softI2cStart]
  rw [hhigh, sdaLow, Bus.setSda_start rfl hsda rfl, sclLow, Bus.setScl_fall rfl]
  exact ⟨rfl, rfl⟩

/-- **A stop** between two bytes. -/
theorem released_softI2cStop (h : Free s b) (hscl : b.scl = false) :
    Released (dev.stop s) (softI2cStop dev.slave b) := by
  obtain ⟨scl, out, latch, c⟩ := b
  obtain rfl : scl = false := hscl
  have hpull : Chip.pull (Chip.rise c false) = false := pull_rise h.pull false
  have hlow : sclHigh dev.slave (sdaLow dev.slave (softI2cOut dev.slave ⟨false, out, latch, c⟩)) =
      ⟨true, true, false, Chip.rise c false⟩ := by
    rw [softI2cOut, Bus.setSda_low rfl, sdaLow, Bus.setSda_low rfl, sclHigh, Bus.setScl_rise rfl]
    rfl
  have hsda : (⟨true, true, true, Chip.rise c false⟩ : Bus (Phase × δ)).sda dev.slave = true := by
    show (true && !Chip.pull (Chip.rise c false)) = true
    rw [hpull]
    rfl
  rw [softI2cStop]
  rw [hlow, sdaHigh, Bus.setSda_stop rfl rfl hsda]
  refine ⟨rfl, rfl, rfl, ?_⟩
  show (Phase.idle, dev.stop (Chip.rise c false).2) = _
  rw [rise_snd]
  exact congrArg (fun s => (Phase.idle, dev.stop s)) h.chip

/-- A stop with the clock high and nobody on the line is a start and a stop for the chip,
whatever the pin drove last. -/
theorem released_softI2cStop_of_high {out latch : Bool} (h : out = true → latch = true) :
    Released (dev.abort s) (softI2cStop dev.slave ⟨true, out, latch, (.idle, s)⟩) := by
  have hlow : sdaLow dev.slave (softI2cOut dev.slave ⟨true, out, latch, (.idle, s)⟩) =
      ⟨true, true, false, (.receive true [], dev.start s)⟩ := by
    cases latch with
    | true =>
      rw [softI2cOut, Bus.setSda_same (by cases out <;> rfl), sdaLow, Bus.setSda_start rfl rfl rfl]
      rfl
    | false =>
      -- the pin drives the line low as soon as it is an output
      obtain rfl : out = false := by
        cases out with
        | true => exact absurd (h rfl) (by decide)
        | false => rfl
      rw [softI2cOut, Bus.setSda_start rfl rfl rfl, sdaLow, Bus.setSda_same rfl]
      rfl
  rw [softI2cStop]
  rw [hlow, sclHigh, Bus.setScl_same rfl, sdaHigh, Bus.setSda_stop rfl rfl rfl]
  exact ⟨rfl, rfl, rfl, rfl⟩

/-! ## A byte to the chip -/

/-- One pulse of the clock, with the bit on a line that the chip does not hold. -/
theorem clock_bit {c : Phase × δ} (h : Chip.pull c = false) (bit : Bool) :
    sclLow dev.slave (sclHigh dev.slave ⟨false, true, bit, c⟩) =
      ⟨false, true, bit, dev.fall (Chip.rise c bit)⟩ := by
  have hsda : (⟨false, true, bit, c⟩ : Bus (Phase × δ)).sda dev.slave = bit := by
    show (bit && !Chip.pull c) = bit
    rw [h]
    exact Bool.and_true bit
  rw [sclHigh, Bus.setScl_rise rfl, sclLow, Bus.setScl_fall rfl, hsda]
  rfl

/-- One round of the loop. -/
theorem softI2cWriteLoop_succ {c : Phase × δ} (h : Chip.pull c = false) (n : Nat) (v : UInt8)
    (latch : Bool) :
    softI2cWriteLoop dev.slave (n + 1) v ⟨false, true, latch, c⟩ =
      softI2cWriteLoop dev.slave n (v <<< 1) ⟨false, true, decide ((v &&& 0x80) >>> 7 ≠ 0),
        dev.fall (Chip.rise c (decide ((v &&& 0x80) >>> 7 ≠ 0)))⟩ := by
  have hpin : (if (v &&& 0x80) >>> 7 ≠ 0 then sdaHigh dev.slave ⟨false, true, latch, c⟩
      else sdaLow dev.slave ⟨false, true, latch, c⟩) =
        ⟨false, true, decide ((v &&& 0x80) >>> 7 ≠ 0), c⟩ := by
    split
    · next hbit =>
      rw [sdaHigh, Bus.setSda_low rfl, decide_eq_true hbit]
    · next hbit =>
      rw [sdaLow, Bus.setSda_low rfl, decide_eq_false hbit]
  rw [softI2cWriteLoop, hpin, clock_bit h]

variable (dev) in
/-- The bits that are left of a byte come to the chip, and it takes the byte with the last. -/
theorem softI2cWriteLoop_receive (first : Bool) (n : Nat) :
    ∀ (v : UInt8) (bits : List Bool) (latch : Bool), bits.length + (n + 1) = 8 →
      ∃ latch', softI2cWriteLoop dev.slave (n + 1) v ⟨false, true, latch, (.receive first bits, s)⟩ =
        ⟨false, true, latch', dev.taken first (ofBits (bits ++ topBits (n + 1) v)) s⟩ := by
  induction n with
  | zero =>
    intro v bits latch hlen
    refine ⟨decide ((v &&& 0x80) >>> 7 ≠ 0), (softI2cWriteLoop_succ rfl 0 v latch).trans ?_⟩
    have hfull : (bits ++ [decide ((v &&& 0x80) >>> 7 ≠ 0)]).length = 8 := by
      rw [List.length_append]
      exact hlen
    exact congrArg (Bus.mk false true _) (if_pos hfull)
  | succ n ih =>
    intro v bits latch hlen
    have hmore : (bits ++ [decide ((v &&& 0x80) >>> 7 ≠ 0)]).length + (n + 1) = 8 := by
      rw [List.length_append, List.length_singleton]
      omega
    obtain ⟨latch', hrest⟩ := ih (v <<< 1) _ (decide ((v &&& 0x80) >>> 7 ≠ 0)) hmore
    refine ⟨latch', (softI2cWriteLoop_succ rfl (n + 1) v latch).trans ?_⟩
    have hkeep : dev.fall (Chip.rise (.receive first bits, s)
          (decide ((v &&& 0x80) >>> 7 ≠ 0))) =
        (.receive first (bits ++ [decide ((v &&& 0x80) >>> 7 ≠ 0)]), s) :=
      if_neg (by omega)
    rw [hkeep, hrest, List.append_assoc]
    rfl

variable (dev) in
/-- A chip that waits for a start lets the byte go by. -/
theorem softI2cWriteLoop_idle (n : Nat) : ∀ (v : UInt8) (latch : Bool),
    ∃ latch', softI2cWriteLoop dev.slave n v ⟨false, true, latch, (.idle, s)⟩ =
      ⟨false, true, latch', (.idle, s)⟩ := by
  induction n with
  | zero => exact fun v latch => ⟨latch, rfl⟩
  | succ n ih =>
    intro v latch
    obtain ⟨latch', hrest⟩ := ih (v <<< 1) (decide ((v &&& 0x80) >>> 7 ≠ 0))
    exact ⟨latch', (softI2cWriteLoop_succ rfl n v latch).trans hrest⟩

/-- Polls of a line that stays high. -/
theorem waitAckLoop_high {σ : Type*} {d : Slave σ} {b : Bus σ} (h : b.sda d = true) (n : Nat) :
    waitAckLoop d n b = (.timeout, softI2cStop d b) := by
  induction n with
  | zero => rfl
  | succ n ih => rw [waitAckLoop, if_pos h, ih]

/-- The ninth pulse for a chip that acknowledges. -/
theorem softI2cWaitAck_ack (reading latch : Bool) :
    softI2cWaitAck dev.slave ⟨false, true, latch, (.ack reading, s)⟩ =
      (.success, ⟨false, false, latch, dev.fall (.ack reading, s)⟩) := by
  rw [softI2cWaitAck, softI2cIn, Bus.setSda_low rfl, sclHigh, Bus.setScl_rise rfl]
  show waitAckLoop dev.slave (i2cTimeoutDefault + 1) ⟨true, false, latch, (.ack reading, s)⟩ = _
  have hlow : (⟨true, false, latch, (.ack reading, s)⟩ : Bus (Phase × δ)).sda dev.slave = false :=
    rfl
  rw [waitAckLoop, hlow, if_neg (by decide), sclLow, Bus.setScl_fall rfl]
  rfl

/-- The ninth pulse with no chip to acknowledge: the polls run out, and the master stops. -/
theorem softI2cWaitAck_idle (latch : Bool) :
    (softI2cWaitAck dev.slave ⟨false, true, latch, (.idle, s)⟩).1 = .timeout ∧
      Released (dev.abort s) (softI2cWaitAck dev.slave ⟨false, true, latch, (.idle, s)⟩).2 := by
  have hwait : softI2cWaitAck dev.slave ⟨false, true, latch, (.idle, s)⟩ =
      (.timeout, softI2cStop dev.slave ⟨true, false, latch, (.idle, s)⟩) := by
    rw [softI2cWaitAck, softI2cIn, Bus.setSda_low rfl, sclHigh, Bus.setScl_rise rfl]
    exact waitAckLoop_high rfl _
  rw [hwait]
  exact ⟨rfl, released_softI2cStop_of_high (fun h => absurd h (by decide))⟩

/-- What a written byte is for the chip. -/
structure WriteSpec (dev : Chip δ) (l : Link) (s : δ) (v : UInt8)
    (r : I2cStatus × Bus (Phase × δ)) : Prop where
  acked : ∀ l' s', l.write dev s v = some (l', s') → r.1 = .success ∧ AtByte dev l' s' r.2
  refused : l.write dev s v = none → r.1 = .timeout ∧ Released (dev.abort s) r.2

theorem WriteSpec.cases {l : Link} {v : UInt8} {r : I2cStatus × Bus (Phase × δ)}
    (h : WriteSpec dev l s v r) :
    (∃ l' s' b', l.write dev s v = some (l', s') ∧ r = (.success, b') ∧ AtByte dev l' s' b') ∨
      ∃ b', l.write dev s v = none ∧ r = (.timeout, b') ∧ Released (dev.abort s) b' := by
  obtain ⟨status, b'⟩ := r
  cases hw : l.write dev s v with
  | none =>
    obtain ⟨hstatus, hb'⟩ := h.refused hw
    exact .inr ⟨b', rfl, congrArg (·, b') hstatus, hb'⟩
  | some p =>
    obtain ⟨hstatus, hb'⟩ := h.acked p.1 p.2 hw
    exact .inl ⟨p.1, p.2, b', rfl, congrArg (·, b') hstatus, hb'⟩

/-- The chip behind the eight bits, by what it says to the byte. -/
theorem writeSpec_of_taken {l : Link} {first : Bool} (hl : l.phase dev s = .receive first [])
    (v : UInt8) (latch : Bool) :
    WriteSpec dev l s v
      (softI2cWaitAck dev.slave ⟨false, true, latch, dev.taken first v s⟩) := by
  have hlink : l.write dev s v = (if first then dev.address s v else dev.write s v).map fun s' =>
      (if first && decide (v &&& 1 ≠ 0) then .reading else .writing, s') := by
    cases l with
    | idle => injection hl
    | reading => injection hl
    | addressing =>
      obtain rfl : true = first := by injection hl
      rw [Link.write]
      simp only [if_pos, Bool.true_and, decide_eq_true_eq]
    | writing =>
      obtain rfl : false = first := by injection hl
      rfl
  rw [Chip.taken]
  generalize (if first then dev.address s v else dev.write s v) = answer at hlink
  cases answer with
  | none =>
    refine ⟨fun l' s' h => ?_, fun _ => softI2cWaitAck_idle latch⟩
    rw [hlink] at h
    injection h
  | some s' =>
    refine ⟨fun l' s'' h => ?_, fun h => ?_⟩
    · rw [hlink] at h
      injection h with h
      obtain ⟨rfl, rfl⟩ := Prod.mk.inj h
      dsimp only
      rw [softI2cWaitAck_ack]
      refine ⟨rfl, rfl, ?_⟩
      cases (first && decide (v &&& 1 ≠ 0)) <;> rfl
    · rw [hlink] at h
      injection h

/-- A byte with no chip to take it. -/
theorem softI2cWrite_idle (h : Free s b) (hidle : b.chip = (.idle, s)) (v : UInt8) :
    (softI2cWrite dev.slave v b).1 = .timeout ∧
      Released (dev.abort s) (softI2cWrite dev.slave v b).2 := by
  obtain ⟨scl, out, latch, c⟩ := b
  obtain rfl : c = (.idle, s) := hidle
  have hlow : ∃ latch', sclLow dev.slave (softI2cOut dev.slave ⟨scl, out, latch, (.idle, s)⟩) =
      ⟨false, true, latch', (.idle, s)⟩ := by
    cases scl with
    | false =>
      rw [softI2cOut, Bus.setSda_low rfl, sclLow, Bus.setScl_same rfl]
      exact ⟨latch, rfl⟩
    | true =>
      obtain ⟨hout, hlatch⟩ := h.high rfl
      obtain rfl : out = true := hout
      obtain rfl : latch = true := hlatch
      rw [softI2cOut, Bus.setSda_same rfl, sclLow, Bus.setScl_fall rfl]
      exact ⟨true, rfl⟩
  obtain ⟨latch', hlow⟩ := hlow
  obtain ⟨latch'', hloop⟩ := softI2cWriteLoop_idle dev (s := s) 8 v latch'
  rw [softI2cWrite, hlow, hloop]
  exact softI2cWaitAck_idle latch''

/-- **A byte to the chip**, between two bytes. -/
theorem softI2cWrite_spec {l : Link} (hl : l ≠ .reading) (h : AtByte dev l s b) (v : UInt8) :
    WriteSpec dev l s v (softI2cWrite dev.slave v b) := by
  have hreceive : ∀ first, l.phase dev s = .receive first [] →
      WriteSpec dev l s v (softI2cWrite dev.slave v b) := by
    intro first hfirst
    obtain ⟨scl, out, latch, c⟩ := b
    obtain rfl : scl = false := h.scl
    obtain rfl : c = (l.phase dev s, s) := h.chip
    rw [softI2cWrite, softI2cOut, Bus.setSda_low rfl, sclLow, Bus.setScl_same rfl]
    dsimp only
    rw [hfirst]
    obtain ⟨latch', hloop⟩ := softI2cWriteLoop_receive dev (s := s) first 7 v [] latch rfl
    rw [hloop, List.nil_append, ofBits_topBits]
    exact writeSpec_of_taken hfirst v latch'
  cases l with
  | reading => exact absurd rfl hl
  | addressing => exact hreceive true rfl
  | writing => exact hreceive false rfl
  | idle => exact ⟨fun _ _ h' => (nomatch h'), fun _ => softI2cWrite_idle (h.free hl) h.chip v⟩

/-! ## A byte from the chip -/

variable (dev) in
/-- The loop behind its first pulse, with the bits that are left on the chip. -/
theorem softI2cReadLoop_send (latch : Bool) (bits : List Bool) : ∀ (x : Bool) (j : UInt8),
    ∃ y, softI2cReadLoop dev.slave bits.length j ⟨true, false, latch, (.send (x :: bits), s)⟩ =
      (bits.foldl shiftIn j, ⟨true, false, latch, (.send [y], s)⟩) := by
  induction bits with
  | nil => exact fun x j => ⟨x, rfl⟩
  | cons bit bits ih =>
    intro x j
    obtain ⟨y, hrest⟩ := ih bit (shiftIn j bit)
    refine ⟨y, ?_⟩
    rw [List.length_cons, softI2cReadLoop, sclLow, Bus.setScl_fall rfl, sclHigh,
      Bus.setScl_rise rfl]
    have hbit : (⟨true, false, latch, (.send (bit :: bits), s)⟩ : Bus (Phase × δ)).sda dev.slave =
        bit := Bool.not_not bit
    show softI2cReadLoop dev.slave bits.length
      (if (⟨true, false, latch, (.send (bit :: bits), s)⟩ : Bus (Phase × δ)).sda dev.slave then _
        else _) ⟨true, false, latch, (.send (bit :: bits), s)⟩ = _
    rw [hbit]
    exact hrest

variable (dev) in
/-- All eight bits. -/
theorem softI2cReadLoop_byte (v : UInt8) (latch : Bool) :
    ∃ y, softI2cReadLoop dev.slave 8 0 ⟨false, false, latch, (.send (topBits 8 v), s)⟩ =
      (v, ⟨true, false, latch, (.send [y], s)⟩) := by
  have hbits : topBits 8 v = decide ((v &&& 0x80) >>> 7 ≠ 0) :: topBits 7 (v <<< 1) := rfl
  generalize hx : decide ((v &&& 0x80) >>> 7 ≠ 0) = x at hbits
  obtain ⟨y, hrest⟩ := softI2cReadLoop_send dev (s := s) latch (topBits 7 (v <<< 1)) x
    (shiftIn 0 x)
  refine ⟨y, ?_⟩
  rw [softI2cReadLoop, sclLow, Bus.setScl_same rfl, sclHigh, Bus.setScl_rise rfl, hbits]
  have hbit : (⟨true, false, latch, (.send (x :: topBits 7 (v <<< 1)), s)⟩ :
      Bus (Phase × δ)).sda dev.slave = x := Bool.not_not x
  show softI2cReadLoop dev.slave 7 (if (⟨true, false, latch, (.send (x :: topBits 7 (v <<< 1)), s)⟩ :
      Bus (Phase × δ)).sda dev.slave then _ else _)
    ⟨true, false, latch, (.send (x :: topBits 7 (v <<< 1)), s)⟩ = _
  rw [hbit]
  rw [topBits_length] at hrest
  refine hrest.trans ?_
  have hall : (topBits 7 (v <<< 1)).foldl shiftIn (shiftIn 0 x) = ofBits (topBits 8 v) := by
    rw [hbits]
    rfl
  rw [hall, ofBits_topBits]

/-- The ninth pulse, where the master acknowledges. -/
theorem softI2cAckNack_spec (mode : UInt8) (y latch : Bool) :
    AtByte dev (if mode = i2cAck then .reading else .idle) (dev.sent s)
      (softI2cAckNack dev.slave mode ⟨true, false, latch, (.send [y], s)⟩) := by
  rw [softI2cAckNack]
  -- the chip reads the level of the pin at the pulse
  by_cases hmode : mode = i2cAck
  · rw [if_pos hmode, if_pos hmode]
    exact ⟨rfl, rfl⟩
  · rw [if_neg hmode, if_neg hmode]
    exact ⟨rfl, rfl⟩

/-- **A byte from the chip**: the next one, and the chip goes on if it is acknowledged. -/
theorem softI2cRead_spec (h : AtByte dev .reading s b) {ack : UInt8}
    (hack : ack = i2cAck ∨ ack = i2cNack) :
    (softI2cRead dev.slave ack b).1 = dev.out s ∧
      AtByte dev (if ack = i2cAck then .reading else .idle) (dev.sent s)
        (softI2cRead dev.slave ack b).2 := by
  obtain ⟨scl, out, latch, c⟩ := b
  obtain rfl : scl = false := h.scl
  obtain rfl : c = (.send (topBits 8 (dev.out s)), s) := h.chip
  obtain ⟨y, hloop⟩ := softI2cReadLoop_byte dev (s := s) (dev.out s) latch
  rw [softI2cRead, softI2cIn, Bus.setSda_low rfl]
  dsimp only
  rw [hloop]
  obtain rfl | rfl := hack
  · exact ⟨rfl, softI2cAckNack_spec i2cAck y latch⟩
  · exact ⟨rfl, softI2cAckNack_spec i2cNack y latch⟩

end LumesSwitch
