import Mathlib.Data.List.GetD
import Mathlib.Data.List.Induction
import Mathlib.Logic.Function.Basic

/-!
# Two-wire serial buses

A master drives the clock, and drives or releases the data line, which is low when anyone holds
it low. A chip sees the edges of the clock, and the data line change while the clock is high.
This file has the bus, the chip that answers on it bit by bit, and what it comes to byte by byte.

- `Slave`, `Bus` — a chip on the wires, and what the master does to them;
- `Chip` — what a chip does with whole bytes, `Chip.slave` the chip bit by bit;
- `AtByte` — the state of the wires between two bytes;
- `Link.write`, `Link.read` — a transfer byte by byte;
- `SerialMemory` — a memory of this kind, with pages.
-/

namespace I2c

universe u

/-! ## The wires -/

/-- A chip on the two wires. -/
structure Slave (σ : Type u) where
  /-- It holds the data line low. -/
  pull : σ → Bool
  /-- The clock rises, the data line has this level. -/
  rise : σ → Bool → σ
  fall : σ → σ
  start : σ → σ
  stop : σ → σ

/-- The clock, the pin of the data line (whether it is an output, and what it then drives), and
the chip. -/
@[ext] structure Bus (σ : Type u) where
  scl : Bool
  out : Bool
  latch : Bool
  chip : σ

namespace Bus

variable {σ : Type u} (d : Slave σ) (b : Bus σ)

/-- The level of the data line. -/
def sda : Bool := (!b.out || b.latch) && !d.pull b.chip

/-- The clock is driven to `v`. -/
def setScl (v : Bool) : Bus σ :=
  if b.scl = v then b
  else if v then { b with scl := true, chip := d.rise b.chip (b.sda d) }
  else { b with scl := false, chip := d.fall b.chip }

/-- The pin of the data line is set. -/
def setSda (out latch : Bool) : Bus σ :=
  let b' : Bus σ := { b with out := out, latch := latch }
  if b.scl then
    match b.sda d, b'.sda d with
    | true, false => { b' with chip := d.start b.chip }
    | false, true => { b' with chip := d.stop b.chip }
    | _, _ => b'
  else b'

variable {d b}

theorem setScl_same {v : Bool} (h : b.scl = v) : b.setScl d v = b := if_pos h

theorem setScl_rise (h : b.scl = false) :
    b.setScl d true = { b with scl := true, chip := d.rise b.chip (b.sda d) } := by
  rw [setScl, if_neg (by rw [h]; decide), if_pos rfl]

theorem setScl_fall (h : b.scl = true) :
    b.setScl d false = { b with scl := false, chip := d.fall b.chip } := by
  rw [setScl, if_neg (by rw [h]; decide), if_neg (by decide)]

/-- While the clock is low the chip does not look at the data line. -/
theorem setSda_low (h : b.scl = false) (out latch : Bool) :
    b.setSda d out latch = { b with out := out, latch := latch } := by
  rw [setSda, h]
  rfl

/-- The data line does not change. -/
theorem setSda_same {out latch : Bool}
    (h : ({ b with out := out, latch := latch } : Bus σ).sda d = b.sda d) :
    b.setSda d out latch = { b with out := out, latch := latch } := by
  rw [setSda]
  dsimp only
  rw [h]
  cases b.scl <;> cases b.sda d <;> rfl

/-- It falls while the clock is high. -/
theorem setSda_start {out latch : Bool} (hscl : b.scl = true) (h : b.sda d = true)
    (h' : ({ b with out := out, latch := latch } : Bus σ).sda d = false) :
    b.setSda d out latch = { b with out := out, latch := latch, chip := d.start b.chip } := by
  rw [setSda]
  dsimp only
  rw [h', h, hscl]
  rfl

/-- It rises while the clock is high. -/
theorem setSda_stop {out latch : Bool} (hscl : b.scl = true) (h : b.sda d = false)
    (h' : ({ b with out := out, latch := latch } : Bus σ).sda d = true) :
    b.setSda d out latch = { b with out := out, latch := latch, chip := d.stop b.chip } := by
  rw [setSda]
  dsimp only
  rw [h', h, hscl]
  rfl

end Bus

/-! ## Bytes as bits -/

/-- The highest `n` bits of a byte, the highest first. -/
def topBits : Nat → UInt8 → List Bool
  | 0, _ => []
  | n + 1, v => decide ((v &&& 0x80) >>> 7 ≠ 0) :: topBits n (v <<< 1)

/-- One more bit at the low end of a byte. -/
def shiftIn (v : UInt8) (bit : Bool) : UInt8 := if bit then v <<< 1 + 1 else v <<< 1

/-- The byte of these bits. -/
def ofBits (bits : List Bool) : UInt8 := bits.foldl shiftIn 0

theorem topBits_length (n : Nat) : ∀ v, (topBits n v).length = n := by
  induction n with
  | zero => exact fun _ => rfl
  | succ n ih => exact fun v => congrArg (· + 1) (ih (v <<< 1))

/-- All eight bits are the byte. -/
theorem ofBits_topBits (v : UInt8) : ofBits (topBits 8 v) = v := by
  have hall : ∀ n : Fin 256, ofBits (topBits 8 (UInt8.ofNat n.val)) = UInt8.ofNat n.val := by
    decide +kernel
  have h := hall ⟨v.toNat, v.toNat_lt⟩
  rwa [UInt8.ofNat_toNat] at h

/-! ## A chip that takes and gives bytes -/

/-- What a chip does with whole bytes. `none` stands for a byte that is not acknowledged. -/
structure Chip (δ : Type u) where
  /-- The first byte behind a start. -/
  address : δ → UInt8 → Option δ
  write : δ → UInt8 → Option δ
  /-- The byte that it sends next, and the state behind it. -/
  out : δ → UInt8
  sent : δ → δ
  start : δ → δ
  stop : δ → δ

/-- Where a chip is within a transfer. -/
inductive Phase where
  | idle
  /-- It has these bits of a byte, the first behind a start or another one. -/
  | receive (first : Bool) (bits : List Bool)
  /-- It acknowledges a byte, and is going to send or to receive. -/
  | ack (reading : Bool)
  /-- It sends these bits; the first is on the line. -/
  | send (bits : List Bool)
  /-- It waits for the master to acknowledge. -/
  | listen
  | answered (more : Bool)
  deriving DecidableEq

namespace Chip

variable {δ : Type u} (dev : Chip δ)

/-- What is done with a byte. -/
def taken (first : Bool) (v : UInt8) (s : δ) : Phase × δ :=
  match if first then dev.address s v else dev.write s v with
  | some s' => (.ack (first && decide (v &&& 1 ≠ 0)), s')
  | none => (.idle, s)

/-- The next byte is put on the line. -/
def load (s : δ) : Phase × δ := (.send (topBits 8 (dev.out s)), s)

/-- The clock falls. -/
def fall : Phase × δ → Phase × δ
  | (.receive first bits, s) =>
    if bits.length = 8 then dev.taken first (ofBits bits) s else (.receive first bits, s)
  | (.ack reading, s) => if reading then dev.load s else (.receive false [], s)
  | (.send (_ :: bit :: bits), s) => (.send (bit :: bits), s)
  | (.send _, s) => (.listen, dev.sent s)
  | (.answered more, s) => if more then dev.load s else (.idle, s)
  | (p, s) => (p, s)

/-- The clock rises. -/
def rise : Phase × δ → Bool → Phase × δ
  | (.receive first bits, s), sda => (.receive first (bits ++ [sda]), s)
  | (.listen, s), sda => (.answered (!sda), s)
  | (p, s), _ => (p, s)

/-- The bit is on the line as long as it is sent. -/
def pull : Phase × δ → Bool
  | (.ack _, _) => true
  | (.send (bit :: _), _) => !bit
  | _ => false

/-- The chip on the wires. -/
def slave : Slave (Phase × δ) where
  pull := pull
  rise := rise
  fall := dev.fall
  start c := (.receive true [], dev.start c.2)
  stop c := (.idle, dev.stop c.2)

end Chip

/-! ## Byte by byte -/

/-- Where a transfer is between two bytes. -/
inductive Link where
  | idle
  | addressing
  | writing
  | reading
  deriving DecidableEq

variable {δ : Type u} {dev : Chip δ}

/-- The phase of the chip between two bytes. -/
def Link.phase (dev : Chip δ) (s : δ) : Link → Phase
  | .idle => .idle
  | .addressing => .receive true []
  | .writing => .receive false []
  | .reading => .send (topBits 8 (dev.out s))

/-- The master has a byte acknowledged, and the transfer goes on. -/
def Link.write (dev : Chip δ) : Link → δ → UInt8 → Option (Link × δ)
  | .addressing, s, v =>
    (dev.address s v).map fun s' => (if v &&& 1 ≠ 0 then .reading else .writing, s')
  | .writing, s, v => (dev.write s v).map fun s' => (.writing, s')
  | _, _, _ => none

/-- Behind an address the lowest bit says which way the bytes go. -/
theorem Link.of_write_addressing {s s' : δ} {v : UInt8} {l : Link}
    (h : Link.addressing.write dev s v = some (l, s')) :
    l = if v &&& 1 ≠ 0 then .reading else .writing := by
  rw [Link.write, Option.map_eq_some_iff] at h
  obtain ⟨t, -, ht⟩ := h
  exact (Prod.mk.inj ht).1.symm

theorem Link.of_write_writing {s s' : δ} {v : UInt8} {l : Link}
    (h : Link.writing.write dev s v = some (l, s')) : l = .writing := by
  rw [Link.write, Option.map_eq_some_iff] at h
  obtain ⟨t, -, ht⟩ := h
  exact (Prod.mk.inj ht).1.symm

/-- Between two bytes: the clock is low, and the chip is there. -/
structure AtByte (dev : Chip δ) (l : Link) (s : δ) (b : Bus (Phase × δ)) : Prop where
  scl : b.scl = false
  chip : b.chip = (l.phase dev s, s)

/-- The lines are free for a start: the chip does not hold the data line, and the master has it
high where the clock is. -/
structure Free (s : δ) (b : Bus (Phase × δ)) : Prop where
  pull : Chip.pull b.chip = false
  high : b.scl = true → b.out = true ∧ b.latch = true
  chip : b.chip.2 = s

/-- Behind a transfer: both lines are driven high, and the chip waits for a start. -/
structure Released (s : δ) (b : Bus (Phase × δ)) : Prop where
  scl : b.scl = true
  out : b.out = true
  latch : b.latch = true
  chip : b.chip = (.idle, s)

/-- The bus at rest. -/
def Bus.rest (s : δ) : Bus (Phase × δ) := ⟨true, true, true, (.idle, s)⟩

theorem released_rest (s : δ) : Released s (Bus.rest s) := ⟨rfl, rfl, rfl, rfl⟩

theorem Released.free {s : δ} {b : Bus (Phase × δ)} (h : Released s b) : Free s b where
  pull := by rw [h.chip]; rfl
  high _ := ⟨h.out, h.latch⟩
  chip := by rw [h.chip]

theorem Released.bus_eq {s : δ} {b : Bus (Phase × δ)} (h : Released s b) :
    b = Bus.rest s :=
  Bus.ext h.scl h.out h.latch h.chip

/-- The chip does not hold the line between two bytes, unless it sends. -/
theorem AtByte.free {l : Link} {s : δ} {b : Bus (Phase × δ)} (h : AtByte dev l s b)
    (hl : l ≠ .reading) : Free s b where
  pull := by
    rw [h.chip]
    cases l with
    | reading => exact absurd rfl hl
    | idle => rfl
    | addressing => rfl
    | writing => rfl
  high hscl := by rw [h.scl] at hscl; exact absurd hscl (by decide)
  chip := by rw [h.chip]

/-- What the next `n` bytes are, and the state behind them. -/
def Chip.readBytes (dev : Chip δ) : Nat → δ → List UInt8 × δ
  | 0, s => ([], s)
  | n + 1, s =>
    let (vs, s') := dev.readBytes n (dev.sent s)
    (dev.out s :: vs, s')

theorem Chip.readBytes_length (dev : Chip δ) (n : Nat) :
    ∀ s, (dev.readBytes n s).1.length = n := by
  induction n with
  | zero => exact fun _ => rfl
  | succ n ih => exact fun s => congrArg (· + 1) (ih (dev.sent s))

/-- One more byte at the end. -/
theorem Chip.readBytes_concat (dev : Chip δ) (n : Nat) : ∀ s, dev.readBytes (n + 1) s =
    ((dev.readBytes n s).1 ++ [dev.out (dev.readBytes n s).2],
      dev.sent (dev.readBytes n s).2) := by
  induction n with
  | zero => exact fun _ => rfl
  | succ n ih =>
    intro s
    rw [Chip.readBytes, ih]
    rfl

/-- A refused byte ends a transfer with a start and a stop. -/
def Chip.abort (dev : Chip δ) (s : δ) : δ := dev.stop (dev.start s)

/-- **A random read**, byte by byte: the address is written, and `n` bytes are read behind a
second start. After a refused byte the master stops twice. -/
def Chip.randomRead (dev : Chip δ) (wr rd address : UInt8) (n : Nat) (s : δ) :
    Option (List UInt8) × δ :=
  let refused (s : δ) : Option (List UInt8) × δ := (none, dev.abort (dev.abort s))
  match Link.addressing.write dev (dev.start s) wr with
  | none => refused (dev.start s)
  | some (l, s) =>
    match l.write dev s address with
    | none => refused s
    | some (_, s) =>
      match Link.addressing.write dev (dev.start s) rd with
      | none => refused (dev.start s)
      | some (_, s) =>
        let (vs, s) := dev.readBytes n s
        (some vs, dev.stop s)

/-! ## Serial memories -/

/-- A memory on the bus: its cells, the page that is being written, the address counter, and
whether the next byte is an address. -/
structure SerialMemory where
  cells : Nat → UInt8
  shadow : Nat → UInt8
  counter : Nat
  word : Bool

namespace SerialMemory

/-- The counter behind a written byte stays in its page. -/
def nextInPage (page c : Nat) : Nat := c / page * page + (c % page + 1) % page

/-- A byte is written to the page. -/
def put (page : Nat) (s : SerialMemory) (v : UInt8) : SerialMemory :=
  { s with shadow := Function.update s.shadow s.counter v, counter := nextInPage page s.counter }

/-- A memory of `size` bytes at the address `wr`. What is written comes to the cells at the
stop. -/
def device (size page : Nat) (wr : UInt8) : Chip SerialMemory where
  address s v := if v &&& 0xFE = wr then some { s with word := decide (v &&& 1 = 0) } else none
  write s v :=
    some (if s.word then { s with counter := v.toNat % size, word := false } else s.put page v)
  out s := s.cells s.counter
  sent s := { s with counter := (s.counter + 1) % size }
  start s := { s with shadow := s.cells }
  stop s := { s with cells := s.shadow }

variable {size page : Nat} {wr : UInt8}

variable (size page wr) in
/-- Sequential reads go round the memory. -/
theorem readBytes_eq (n : Nat) : ∀ s : SerialMemory, s.counter < size →
    ((device size page wr).readBytes n s).1 =
        (List.range n).map (fun i => s.cells ((s.counter + i) % size)) ∧
      ((device size page wr).readBytes n s).2 =
        { s with counter := (s.counter + n) % size } := by
  induction n with
  | zero =>
    intro s hs
    refine ⟨rfl, ?_⟩
    rw [Nat.add_zero, Nat.mod_eq_of_lt hs]
    rfl
  | succ n ih =>
    intro s hs
    obtain ⟨hbytes, hstate⟩ := ih ((device size page wr).sent s) (Nat.mod_lt _ (by omega))
    have hshift : ∀ i, ((s.counter + 1) % size + i) % size = (s.counter + (i + 1)) % size := by
      intro i
      rw [Nat.mod_add_mod]
      congr 1
      omega
    constructor
    · rw [Chip.readBytes, List.range_succ_eq_map, List.map_cons, List.map_map]
      refine congrArg₂ List.cons ?_ ?_
      · show s.cells s.counter = _
        rw [Nat.add_zero, Nat.mod_eq_of_lt hs]
      · rw [hbytes]
        exact List.map_congr_left fun i _ => congrArg s.cells (hshift i)
    · rw [Chip.readBytes]
      dsimp only
      rw [hstate]
      exact congrArg (fun c => { s with counter := c }) (hshift n)

/-- A memory that nothing has been written to. -/
def blank : SerialMemory := ⟨fun _ => 0xFF, fun _ => 0xFF, 0, false⟩

/-- A byte behind the address. -/
theorem write_data {s : SerialMemory} (h : s.word = false) (v : UInt8) :
    Link.writing.write (device size page wr) s v = some (.writing, s.put page v) := by
  show some (Link.writing, if s.word then _ else s.put page v) = _
  rw [h]
  rfl

theorem foldl_put_word (bs : List UInt8) :
    ∀ s : SerialMemory, (bs.foldl (put page) s).word = s.word := by
  induction bs with
  | nil => exact fun _ => rfl
  | cons v bs ih => exact fun s => ih (s.put page v)

/-- A page is written from its first cell on. -/
theorem foldl_put (bs : List UInt8) {s : SerialMemory} (haligned : s.counter % page = 0)
    (hlen : bs.length ≤ page) :
    (bs.length < page → (bs.foldl (put page) s).counter = s.counter + bs.length) ∧
      ∀ x, (bs.foldl (put page) s).shadow x =
        if s.counter ≤ x ∧ x < s.counter + bs.length then bs.getD (x - s.counter) 0
        else s.shadow x := by
  induction bs using List.reverseRecOn with
  | nil =>
    refine ⟨fun _ => rfl, fun x => ?_⟩
    rw [if_neg (by rw [List.length_nil]; omega)]
    rfl
  | append_singleton bs v ih =>
    rw [List.length_append, List.length_singleton] at hlen
    obtain ⟨hcounter, hshadow⟩ := ih (by omega)
    have hc := hcounter (by omega)
    rw [List.foldl_append]
    generalize bs.foldl (put page) s = t at hc hshadow
    refine ⟨fun hlt => ?_, fun x => ?_⟩
    · rw [List.length_append, List.length_singleton] at hlt ⊢
      show nextInPage page t.counter = _
      have hmod : (s.counter + bs.length) % page = bs.length := by
        rw [Nat.add_mod, haligned, Nat.zero_add, Nat.mod_mod, Nat.mod_eq_of_lt (by omega)]
      have hdiv := Nat.div_add_mod' (s.counter + bs.length) page
      rw [nextInPage, hc, hmod, Nat.mod_eq_of_lt hlt]
      rw [hmod] at hdiv
      omega
    · show Function.update t.shadow t.counter v x = _
      rw [hc, List.length_append, List.length_singleton]
      by_cases hx : x = s.counter + bs.length
      · rw [hx, Function.update_self, if_pos (by omega), Nat.add_sub_cancel_left,
          List.getD_append_right _ _ _ _ (Nat.le_refl _), Nat.sub_self]
        rfl
      · rw [Function.update_of_ne hx, hshadow]
        by_cases hin : s.counter ≤ x ∧ x < s.counter + bs.length
        · rw [if_pos hin, if_pos (by omega), List.getD_append _ _ _ _ (by omega)]
        · rw [if_neg hin, if_neg (by omega)]

/-- The two address bytes of a chip, to write and to read. -/
structure AddressPair (wr rd : UInt8) : Prop where
  wr_addr : wr &&& 0xFE = wr
  wr_bit : wr &&& 1 = 0
  rd_addr : rd &&& 0xFE = wr
  rd_bit : rd &&& 1 ≠ 0

variable {rd : UInt8}

/-- The memory is addressed to be written: its address comes next. -/
theorem write_wr (h : AddressPair wr rd) (s : SerialMemory) :
    Link.addressing.write (device size page wr) s wr = some (.writing, { s with word := true }) := by
  have haddress : (device size page wr).address s wr = some { s with word := true } := by
    show (if wr &&& 0xFE = wr then some { s with word := decide (wr &&& 1 = 0) } else none) = _
    rw [if_pos h.wr_addr, decide_eq_true h.wr_bit]
  rw [Link.write, haddress, Option.map_some, if_neg (fun hne => hne h.wr_bit)]

/-- The memory is addressed to be read. -/
theorem write_rd (h : AddressPair wr rd) (s : SerialMemory) :
    Link.addressing.write (device size page wr) s rd =
      some (.reading, { s with word := false }) := by
  have haddress : (device size page wr).address s rd = some { s with word := false } := by
    show (if rd &&& 0xFE = wr then some { s with word := decide (rd &&& 1 = 0) } else none) = _
    rw [if_pos h.rd_addr, decide_eq_false h.rd_bit]
  rw [Link.write, haddress, Option.map_some, if_pos h.rd_bit]

variable (size page) in
/-- **A random read** of the memory gives its cells, from the address on and round its end, and
leaves them as they are. -/
theorem randomRead_eq (h : AddressPair wr rd) (hsize : 0 < size) (address : UInt8) (n : Nat)
    (s : SerialMemory) :
    ((device size page wr).randomRead wr rd address n s).1 =
        some ((List.range n).map fun i => s.cells ((address.toNat + i) % size)) ∧
      ((device size page wr).randomRead wr rd address n s).2.cells = s.cells := by
  have hword : Link.writing.write (device size page wr)
      { (device size page wr).start s with word := true } address =
      some (.writing, { (device size page wr).start s with
        counter := address.toNat % size, word := false }) := rfl
  obtain ⟨hbytes, hstate⟩ := readBytes_eq size page wr n
    { (device size page wr).start s with counter := address.toNat % size, word := false }
    (Nat.mod_lt _ hsize)
  rw [Chip.randomRead]
  dsimp only
  rw [write_wr h]
  dsimp only
  rw [hword]
  dsimp only
  rw [write_rd h]
  dsimp only
  constructor
  · refine (congrArg some hbytes).trans (congrArg some (List.map_congr_left fun i _ => ?_))
    rw [Nat.mod_add_mod]
    rfl
  · exact congrArg (fun t => ((device size page wr).stop t).cells) hstate

end SerialMemory

end I2c
