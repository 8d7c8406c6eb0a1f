import LumesSwitch.Lib.Run
import LumesSwitch.Periph.SoftI2c
import LumesSwitch.Reset.Calibration

/-!
# The memory of the calibration factors (`at24c01.c`, `bl0906.c`)

A read writes the address and reads on behind a second start. A write goes page by page, always
whole pages, and does not look whether the memory acknowledges.

- `at24c01ReadMultiByte`, `at24c01WriteMultiByte` — the functions;
- `at24c01ReadMultiByte_spec` — the first is a random read, whatever chip is on the wires;
- `at24c01Write_read` — what is written is read back;
- `CalibBoot.wired_boot` — the boot with the memory on the wires.
-/

namespace LumesSwitch

open I2c Runs

/-- `AT24C01_ADDR_MAX`, `AT24C01_WR`, `AT24C01_RD`, `AT24C01_PAGE_SIZE` -/
def at24c01AddrMax : UInt8 := 0xFF
def at24c01Wr : UInt8 := 0xA0
def at24c01Rd : UInt8 := 0xA1
def at24c01PageSize : Nat := 8

section Driver

variable {σ : Type*} (d : Slave σ)

/-- `at24c01_read_multi_byte`; a buffer is the memory around it. -/
def at24c01ReadMultiByte (address : UInt8) (rdBuff : Int → UInt8) (len : UInt8) (b : Bus σ) :
    Int × (Int → UInt8) × Bus σ :=
  if address > at24c01AddrMax then (-1, rdBuff, b)
  else
    let b := softI2cStart d b
    match softI2cWrite d at24c01Wr b with
    | (.timeout, b) => (-1, rdBuff, softI2cStop d b)
    | (.success, b) =>
      match softI2cWrite d address b with
      | (.timeout, b) => (-1, rdBuff, softI2cStop d b)
      | (.success, b) =>
        let b := softI2cStart d b
        match softI2cWrite d at24c01Rd b with
        | (.timeout, b) => (-1, rdBuff, softI2cStop d b)
        | (.success, b) =>
          let (rdBuff, b) := runFrom (fun (p : (Int → UInt8) × Bus σ) (i : Nat) =>
              let (v, b) := softI2cRead d i2cAck p.2
              (Function.update p.1 i v, b))
            (rdBuff, b) (List.range (len.toNat - 1))
          let (v, b) := softI2cRead d i2cNack b
          (0, Function.update rdBuff (len.toNat - 1) v, softI2cStop d b)

/-- `at24c01_write_multi_byte` -/
def at24c01WriteMultiByte (address : UInt8) (wrBuff : Nat → UInt8) (len : UInt8) (b : Bus σ) :
    Int × Bus σ :=
  if address > at24c01AddrMax then (-1, b)
  else
    let totalPage : Nat :=
      if len.toNat % at24c01PageSize = 0 then len.toNat / at24c01PageSize
      else len.toNat / at24c01PageSize + 1
    (0, runFrom (fun b i =>
        let b := softI2cStart d b
        let b := (softI2cWrite d at24c01Wr b).2
        let b := (softI2cWrite d (address + UInt8.ofNat (i * at24c01PageSize)) b).2
        let b := runFrom (fun b j => (softI2cWrite d (wrBuff (i * at24c01PageSize + j)) b).2) b
          (List.range at24c01PageSize)
        softI2cStop d b)
      b (List.range totalPage))

end Driver

variable {δ : Type*} {dev : Chip δ} {s : δ} {b : Bus (Phase × δ)}

/-! ## Reading -/

/-- A buffer with these bytes from its beginning on. -/
def fill (rdBuff : Int → UInt8) (vs : List UInt8) : Int → UInt8 := fun k =>
  if 0 ≤ k ∧ k < vs.length then vs.getD k.toNat 0 else rdBuff k

theorem fill_concat (rdBuff : Int → UInt8) (vs : List UInt8) (v : UInt8) :
    fill rdBuff (vs ++ [v]) = Function.update (fill rdBuff vs) vs.length v := by
  funext k
  rw [fill, List.length_append, List.length_singleton]
  by_cases hk : k = vs.length
  · rw [hk, Function.update_self, if_pos (by omega), Int.toNat_natCast,
      List.getD_append_right _ _ _ _ (Nat.le_refl _), Nat.sub_self]
    rfl
  · rw [Function.update_of_ne hk, fill]
    by_cases hin : 0 ≤ k ∧ k < vs.length
    · rw [if_pos hin, if_pos (by omega), List.getD_append _ _ _ _ (by omega)]
    · rw [if_neg hin, if_neg (by omega)]

/-- The loop over the bytes that are acknowledged. -/
theorem readLoop_spec (rdBuff : Int → UInt8) (h : AtByte dev .reading s b) (n : Nat) :
    ∃ b', runFrom (fun (p : (Int → UInt8) × Bus (Phase × δ)) (i : Nat) =>
        let (v, b) := softI2cRead dev.slave i2cAck p.2
        (Function.update p.1 i v, b)) (rdBuff, b) (List.range n) =
          (fill rdBuff (dev.readBytes n s).1, b') ∧
      AtByte dev .reading (dev.readBytes n s).2 b' := by
  induction n with
  | zero =>
    refine ⟨b, congrArg (·, b) (funext fun k => ?_), h⟩
    exact (if_neg (fun hk => absurd hk.2 (Int.not_lt.mpr hk.1))).symm
  | succ n ih =>
    obtain ⟨b', hloop, hb'⟩ := ih
    obtain ⟨hv, hnext⟩ := softI2cRead_spec hb' (.inl rfl)
    refine ⟨(softI2cRead dev.slave i2cAck b').2, ?_, ?_⟩
    · rw [List.range_succ, runFrom_append, hloop, dev.readBytes_concat, fill_concat,
        dev.readBytes_length, ← hv]
      rfl
    · rw [dev.readBytes_concat]
      exact hnext

/-- What a read comes to, for what the chip does at a random read. -/
structure ReadSpec (rdBuff : Int → UInt8) (random : Option (List UInt8) × δ)
    (r : Int × (Int → UInt8) × Bus (Phase × δ)) : Prop where
  released : Released random.2 r.2.2
  answer : match random.1 with
    | none => r.1 = -1 ∧ r.2.1 = rdBuff
    | some vs => r.1 = 0 ∧ r.2.1 = fill rdBuff vs

/-- A refused byte: the driver stops again, and gives up. -/
theorem ReadSpec.refused (h : Released (dev.abort s) b) (rdBuff : Int → UInt8) :
    ReadSpec rdBuff (none, dev.abort (dev.abort s)) (-1, rdBuff, softI2cStop dev.slave b) := by
  have hstop : Released (dev.abort (dev.abort s))
      (softI2cStop dev.slave (Bus.rest (dev.abort s))) :=
    released_softI2cStop_of_high fun _ => rfl
  rw [h.bus_eq]
  exact ⟨hstop, rfl, rfl⟩

/-- The bytes behind the second start. -/
theorem ReadSpec.bytes (h : AtByte dev .reading s b) (rdBuff : Int → UInt8) (n : Nat) :
    ReadSpec rdBuff (some (dev.readBytes (n + 1) s).1, dev.stop (dev.readBytes (n + 1) s).2)
      (let (rdBuff, b) := runFrom (fun (p : (Int → UInt8) × Bus (Phase × δ)) (i : Nat) =>
            let (v, b) := softI2cRead dev.slave i2cAck p.2
            (Function.update p.1 i v, b))
          (rdBuff, b) (List.range n)
        let (v, b) := softI2cRead dev.slave i2cNack b
        (0, Function.update rdBuff n v, softI2cStop dev.slave b)) := by
  obtain ⟨b', hloop, hb'⟩ := readLoop_spec rdBuff h n
  obtain ⟨hv, hlast⟩ := softI2cRead_spec hb' (.inr rfl)
  rw [if_neg (by decide)] at hlast
  rw [hloop, dev.readBytes_concat]
  refine ⟨released_softI2cStop (hlast.free (by decide)) hlast.scl, rfl, ?_⟩
  rw [fill_concat, dev.readBytes_length, ← hv]

variable (dev) in
/-- **Reading**: a random read of the chip on the wires, whatever it answers, and the wires are
free behind it. -/
theorem at24c01ReadMultiByte_spec (h : Free s b) (address : UInt8) (rdBuff : Int → UInt8)
    {len : UInt8} (hlen : 0 < len.toNat) :
    ReadSpec rdBuff (dev.randomRead at24c01Wr at24c01Rd address len.toNat s)
      (at24c01ReadMultiByte dev.slave address rdBuff len b) := by
  have haddress : ¬ address > at24c01AddrMax := by
    have hlt := address.toNat_lt
    rw [gt_iff_lt, UInt8.lt_iff_toNat_lt]
    show ¬ 255 < address.toNat
    omega
  obtain ⟨n, hn⟩ : ∃ n, len.toNat = n + 1 := ⟨len.toNat - 1, by omega⟩
  have hstart := atByte_softI2cStart dev h
  rw [at24c01ReadMultiByte, if_neg haddress, Chip.randomRead, hn, Nat.add_sub_cancel]
  dsimp only
  obtain ⟨l, s₁, b₁, hw, hr, h₁⟩ | ⟨b₁, hw, hr, h₁⟩ :=
    (softI2cWrite_spec (by decide) hstart at24c01Wr).cases
  case inr =>
    rw [hw, hr]
    exact .refused h₁ rdBuff
  rw [hw, hr]
  dsimp only
  obtain rfl : l = .writing := Link.of_write_addressing hw
  obtain ⟨l, s₂, b₂, hw, hr, h₂⟩ | ⟨b₂, hw, hr, h₂⟩ :=
    (softI2cWrite_spec (by decide) h₁ address).cases
  case inr =>
    rw [hw, hr]
    exact .refused h₂ rdBuff
  rw [hw, hr]
  dsimp only
  obtain rfl : l = .writing := Link.of_write_writing hw
  have hrestart := atByte_softI2cStart dev (h₂.free (by decide))
  obtain ⟨l, s₃, b₃, hw, hr, h₃⟩ | ⟨b₃, hw, hr, h₃⟩ :=
    (softI2cWrite_spec (by decide) hrestart at24c01Rd).cases
  case inr =>
    rw [hw, hr]
    exact .refused h₃ rdBuff
  rw [hw, hr]
  dsimp only
  obtain rfl : l = .reading := Link.of_write_addressing hw
  have hlast : ((n + 1 : Nat) : Int) - 1 = n := by omega
  rw [hlast]
  exact .bytes h₃ rdBuff n

/-- A call of the driver. The length is not 0, for which the loop over `len - 1` bytes would not end
before `2 ^ 32 - 1` of them. -/
structure ReadCall where
  address : UInt8
  rdBuff : Int → UInt8
  len : UInt8
  len_pos : 0 < len.toNat

/-- The call on the wires, with what it returns and the buffer behind it. -/
def ReadCall.wired (dev : Chip δ) (b : Bus (Phase × δ)) (c : ReadCall) :
    Bus (Phase × δ) × Int × (Int → UInt8) :=
  let (ret, buff, b) := at24c01ReadMultiByte dev.slave c.address c.rdBuff c.len b
  (b, ret, buff)

/-- The random read that it is for. -/
def ReadCall.random (dev : Chip δ) (s : δ) (c : ReadCall) : δ × Int × (Int → UInt8) :=
  match dev.randomRead at24c01Wr at24c01Rd c.address c.len.toNat s with
  | (none, s) => (s, -1, c.rdBuff)
  | (some vs, s) => (s, 0, fill c.rdBuff vs)

/-- **Refinement**: a run of calls, bit by bit on the wires, answers as the random reads do on the
chip, whatever chip it is and whatever it refuses. -/
theorem at24c01_refines (h : Free s b) (calls : List ReadCall) :
    answers (ReadCall.wired dev) b calls = answers (ReadCall.random dev) s calls := by
  refine answers_simulation (R := fun b s => Free s b) (fun b s c hfree => ?_) h calls
  have hspec := at24c01ReadMultiByte_spec dev hfree c.address c.rdBuff c.len_pos
  rw [ReadCall.wired, ReadCall.random]
  obtain ⟨hreleased, hanswer⟩ := hspec
  generalize dev.randomRead at24c01Wr at24c01Rd c.address c.len.toNat s = r at hreleased hanswer
  generalize at24c01ReadMultiByte dev.slave c.address c.rdBuff c.len b = q at hreleased hanswer
  obtain ⟨bytes, s'⟩ := r
  obtain ⟨ret, buff, b'⟩ := q
  cases bytes with
  | none => exact ⟨hreleased.free, Prod.ext hanswer.1 hanswer.2⟩
  | some vs => exact ⟨hreleased.free, Prod.ext hanswer.1 hanswer.2⟩

/-! ## A memory on the wires -/

/-- The AT24C01: 128 bytes, in pages of 8. -/
def at24c01 : Chip SerialMemory := SerialMemory.device 128 8 at24c01Wr

theorem at24c01_pair : SerialMemory.AddressPair at24c01Wr at24c01Rd where
  wr_addr := by decide
  wr_bit := by decide
  rd_addr := by decide
  rd_bit := by decide

/-- For example, two reads of a blank memory. -/
theorem at24c01_refines_blank :
    let calls : List ReadCall :=
      [⟨0, fun _ => 0, 14, by decide⟩, ⟨126, fun _ => 0, 3, by decide⟩]
    answers (ReadCall.wired at24c01) (Bus.rest .blank) calls =
      answers (ReadCall.random at24c01) .blank calls :=
  at24c01_refines (released_rest _).free _

section Memory

variable {m : SerialMemory} {w : Bus (Phase × SerialMemory)}

/-- Reading the memory: the bytes from the address on, and round its end. -/
theorem at24c01ReadMultiByte_memory (h : Free m w) (address : UInt8) (rdBuff : Int → UInt8)
    {len : UInt8} (hlen : 0 < len.toNat) :
    let r := at24c01ReadMultiByte at24c01.slave address rdBuff len w
    r.1 = 0 ∧
      r.2.1 = fill rdBuff ((List.range len.toNat).map fun i => m.cells ((address.toNat + i) % 128)) ∧
      ∃ m', Released m' r.2.2 ∧ m'.cells = m.cells := by
  obtain ⟨hbytes, hcells⟩ := SerialMemory.randomRead_eq 128 8 at24c01_pair
    (by decide) address len.toNat m
  have hspec := at24c01ReadMultiByte_spec at24c01 h address rdBuff hlen
  have hanswer := hspec.answer
  rw [show (at24c01.randomRead at24c01Wr at24c01Rd address len.toNat m).1 = _ from hbytes] at hanswer
  exact ⟨hanswer.1, hanswer.2, _, hspec.released, hcells⟩

/-- The bytes of a page come to the memory one after the other. -/
theorem atByte_writeData (f : Nat → UInt8) (h : AtByte at24c01 .writing m w) (hword : m.word = false)
    (n : Nat) :
    AtByte at24c01 .writing (((List.range n).map f).foldl (SerialMemory.put 8) m)
      (runFrom (fun b j => (softI2cWrite at24c01.slave (f j) b).2) w (List.range n)) := by
  induction n with
  | zero => exact h
  | succ n ih =>
    rw [List.range_succ, List.map_append, List.foldl_append, runFrom_append]
    exact ((softI2cWrite_spec (by decide) ih (f n)).acked _ _
      (SerialMemory.write_data ((SerialMemory.foldl_put_word _ m).trans hword) (f n))).2

/-- One round of `at24c01_write_multi_byte`. -/
def writePage (address : UInt8) (f : Nat → UInt8) (w : Bus (Phase × SerialMemory)) :
    Bus (Phase × SerialMemory) :=
  let b := softI2cStart at24c01.slave w
  let b := (softI2cWrite at24c01.slave at24c01Wr b).2
  let b := (softI2cWrite at24c01.slave address b).2
  let b := runFrom (fun b j => (softI2cWrite at24c01.slave (f j) b).2) b (List.range at24c01PageSize)
  softI2cStop at24c01.slave b

/-- A page of the memory is written, and nothing else. -/
theorem writePage_spec (h : Free m w) {address : UInt8} (haligned : address.toNat % 8 = 0)
    (hfits : address.toNat + 8 ≤ 128) (f : Nat → UInt8) :
    ∃ m', Released m' (writePage address f w) ∧ ∀ x, m'.cells x =
      if address.toNat ≤ x ∧ x < address.toNat + 8 then f (x - address.toNat) else m.cells x := by
  have hstart := atByte_softI2cStart at24c01 h
  have hwr := ((softI2cWrite_spec (by decide) hstart at24c01Wr).acked _ _
    (SerialMemory.write_wr at24c01_pair _)).2
  obtain ⟨m₀, hm₀, hstart₀⟩ : ∃ m₀ : SerialMemory, m₀ =
      { at24c01.start m with counter := address.toNat % 128, word := false } ∧
      AtByte at24c01 .writing m₀ (softI2cWrite at24c01.slave address _).2 :=
    ⟨_, rfl, ((softI2cWrite_spec (by decide) hwr address).acked _ _ rfl).2⟩
  have hcounter : m₀.counter = address.toNat := by
    rw [hm₀]
    exact Nat.mod_eq_of_lt (by omega)
  have hword : m₀.word = false := by rw [hm₀]
  have hcells : m₀.shadow = m.cells := by
    rw [hm₀]
    rfl
  have hdata := atByte_writeData f hstart₀ hword at24c01PageSize
  have hlen : ((List.range at24c01PageSize).map f).length = 8 := by
    rw [List.length_map, List.length_range]
    rfl
  refine ⟨at24c01.stop (((List.range at24c01PageSize).map f).foldl (SerialMemory.put 8) m₀),
    released_softI2cStop (hdata.free (by decide)) hdata.scl, fun x => ?_⟩
  have hshadow := (SerialMemory.foldl_put ((List.range at24c01PageSize).map f)
    (by rw [hcounter]; exact haligned) (Nat.le_of_eq hlen)).2 x
  refine hshadow.trans ?_
  rw [hlen, hcounter, hcells]
  split
  · rw [List.getD_eq_getElem _ _ (by rw [hlen]; omega), List.getElem_map, List.getElem_range]
  · rfl

/-- How many pages a write comes to. -/
def totalPage (len : UInt8) : Nat :=
  if len.toNat % at24c01PageSize = 0 then len.toNat / at24c01PageSize
  else len.toNat / at24c01PageSize + 1

theorem le_totalPage (len : UInt8) : len.toNat ≤ 8 * totalPage len := by
  rw [totalPage, at24c01PageSize]
  split <;> omega

/-- The loop over the pages. -/
theorem writePages_spec (h : Free m w) {address : UInt8} (haligned : address.toNat % 8 = 0)
    (wrBuff : Nat → UInt8) (n : Nat) (hfits : address.toNat + 8 * n ≤ 128) :
    ∃ m', Free m' (runFrom (fun b i => writePage (address + UInt8.ofNat (i * at24c01PageSize))
        (fun j => wrBuff (i * at24c01PageSize + j)) b) w (List.range n)) ∧
      ∀ x, m'.cells x = if address.toNat ≤ x ∧ x < address.toNat + 8 * n
        then wrBuff (x - address.toNat) else m.cells x := by
  induction n with
  | zero => exact ⟨m, h, fun x => (if_neg (by omega)).symm⟩
  | succ n ih =>
    obtain ⟨m₁, hfree, hcells⟩ := ih (by omega)
    have haddress : (address + UInt8.ofNat (n * at24c01PageSize)).toNat = address.toNat + 8 * n := by
      rw [UInt8.toNat_add, UInt8.toNat_ofNat', at24c01PageSize]
      omega
    obtain ⟨m₂, hreleased, hpage⟩ := writePage_spec hfree (by rw [haddress]; omega)
      (by rw [haddress]; omega) (fun j => wrBuff (n * at24c01PageSize + j))
    rw [List.range_succ, runFrom_append]
    refine ⟨m₂, hreleased.free, fun x => ?_⟩
    rw [hpage, haddress, hcells, at24c01PageSize]
    by_cases hx : address.toNat + 8 * n ≤ x ∧ x < address.toNat + 8 * n + 8
    · rw [if_pos hx, if_pos (by omega)]
      congr 1
      omega
    · rw [if_neg hx]
      by_cases hbefore : address.toNat ≤ x ∧ x < address.toNat + 8 * n
      · rw [if_pos hbefore, if_pos (by omega)]
      · rw [if_neg hbefore, if_neg (by omega)]

/-- **Writing**: whole pages, with the bytes behind the buffer in the last one. -/
theorem at24c01WriteMultiByte_memory (h : Free m w) {address : UInt8}
    (haligned : address.toNat % 8 = 0) (wrBuff : Nat → UInt8) {len : UInt8}
    (hfits : address.toNat + 8 * totalPage len ≤ 128) :
    let r := at24c01WriteMultiByte at24c01.slave address wrBuff len w
    r.1 = 0 ∧ ∃ m', Free m' r.2 ∧ ∀ x, m'.cells x =
      if address.toNat ≤ x ∧ x < address.toNat + 8 * totalPage len
        then wrBuff (x - address.toNat) else m.cells x := by
  have haddress : ¬ address > at24c01AddrMax := by
    have hlt := address.toNat_lt
    rw [gt_iff_lt, UInt8.lt_iff_toNat_lt]
    show ¬ 255 < address.toNat
    omega
  dsimp only
  rw [at24c01WriteMultiByte, if_neg haddress]
  exact ⟨rfl, writePages_spec h haligned wrBuff (totalPage len) hfits⟩

/-- **Round trip**: what is written from the beginning of a page on is read back, and the cells
behind the pages are left alone. -/
theorem at24c01Write_read (h : Free m w) {address : UInt8} (haligned : address.toNat % 8 = 0)
    (wrBuff : Nat → UInt8) (rdBuff : Int → UInt8) {len : UInt8} (hlen : 0 < len.toNat)
    (hfits : address.toNat + 8 * totalPage len ≤ 128) :
    let w' := (at24c01WriteMultiByte at24c01.slave address wrBuff len w).2
    let r := at24c01ReadMultiByte at24c01.slave address rdBuff len w'
    r.1 = 0 ∧ (∀ k : Int, r.2.1 k =
        if 0 ≤ k ∧ k < len.toNat then wrBuff k.toNat else rdBuff k) ∧
      ∃ m', Released m' r.2.2 ∧ ∀ x, x < address.toNat ∨ address.toNat + 8 * totalPage len ≤ x →
        m'.cells x = m.cells x := by
  obtain ⟨-, m₁, hfree, hwritten⟩ := at24c01WriteMultiByte_memory h haligned wrBuff hfits
  obtain ⟨hret, hbuff, m₂, hreleased, hcells⟩ :=
    at24c01ReadMultiByte_memory hfree address rdBuff hlen
  have hpages := le_totalPage len
  refine ⟨hret, fun k => ?_, m₂, hreleased, fun x hx => ?_⟩
  · rw [hbuff, fill, List.length_map, List.length_range]
    split
    · next hk =>
      obtain ⟨i, rfl⟩ := Int.eq_ofNat_of_zero_le hk.1
      have hi : i < len.toNat := Int.ofNat_lt.mp hk.2
      rw [Int.toNat_natCast, List.getD_eq_getElem _ _ (by
          rw [List.length_map, List.length_range]; exact hi),
        List.getElem_map, List.getElem_range, Nat.mod_eq_of_lt (by omega), hwritten,
        if_pos (by omega), Nat.add_sub_cancel_left]
    · rfl
  · rw [hcells, hwritten, if_neg (by omega)]

/-- For example, ten bytes on the second page of a blank memory. -/
theorem at24c01Write_read_blank :
    let wrBuff (i : Nat) := UInt8.ofNat i
    let w' := (at24c01WriteMultiByte at24c01.slave 8 wrBuff 10 (Bus.rest .blank)).2
    let r := at24c01ReadMultiByte at24c01.slave 8 (fun _ => 0) 10 w'
    r.1 = 0 ∧ (∀ k : Int, r.2.1 k =
        if 0 ≤ k ∧ k < (10 : UInt8).toNat then wrBuff k.toNat else (fun _ => 0) k) ∧
      ∃ m', Released m' r.2.2 ∧ ∀ x, x < (8 : UInt8).toNat ∨
        (8 : UInt8).toNat + 8 * totalPage 10 ≤ x → m'.cells x = SerialMemory.blank.cells x :=
  at24c01Write_read (released_rest _).free (by decide) _ _ (by decide) (by decide)

end Memory

/-! ## The boot with the wires -/

theorem free_softI2cInit (h : Free s b) : Free s (softI2cInit dev.slave b) := by
  obtain ⟨c, hhigh, hpull, hc⟩ := sclHigh_of_free dev h
  rw [softI2cInit, hhigh]
  exact ⟨hpull, fun _ => ⟨rfl, rfl⟩, hc⟩

/-- What an attempt leaves in the buffer. -/
def ReadAttempt.left : ReadAttempt → CalibVal
  | .success v => v
  | .failure v => v

namespace CalibBoot

open Bufs CalibVal Nor

/-- `EEPROM_CALIB_REG_ADDRESS` -/
def eepromCalibRegAddress : UInt8 := 0x00

/-- `calib_val` as a buffer of bytes. -/
def buffer (v : CalibVal) : Int → UInt8 := fill (fun _ => 0) v.toBytes
def ofBuffer (f : Int → UInt8) : CalibVal := CalibVal.ofBytes ((List.range 14).map fun i : Nat => f i)

section Wires

variable {σ : Type*} (d : Slave σ)

/-- An attempt, over what the one before has left. -/
def wiredAttempt (v : CalibVal) (w : Bus σ) : ReadAttempt × Bus σ :=
  let (ret, buff, w) := at24c01ReadMultiByte d eepromCalibRegAddress (buffer v) 14 w
  (if ret = 0 then .success (ofBuffer buff) else .failure (ofBuffer buff), w)

/-- The attempts in order. Those behind a success are not made, and the boot does not look at
them. -/
def attemptAt (w : Bus σ) : Nat → ReadAttempt × Bus σ
  | 0 => wiredAttempt d ⟨0xFFFF, fun _ => 0xFFFF, fun _ => 0xFFFF⟩ w
  | i + 1 => wiredAttempt d (attemptAt w i).1.left (attemptAt w i).2

/-- `bl0906_restore_calib_val_from_eeprom_and_flash` with a chip on the wires. -/
def wiredBoot (b : Board) (m : Mem) (w : Bus σ) : CalibBoot :=
  boot b m fun i => (attemptAt d (softI2cInit d w) i).1

end Wires

variable {w : Bus (Phase × δ)}

/-- A chip that is not there fails every attempt. -/
theorem attemptAt_absent (habsent : ∀ s, dev.address s at24c01Wr = none) (h : Free s w) (i : Nat) :
    (attemptAt dev.slave w i).1.value = none ∧
      ∃ s', Free s' (attemptAt dev.slave w i).2 := by
  have hattempt : ∀ (v : CalibVal) {s : δ} {w : Bus (Phase × δ)}, Free s w →
      (wiredAttempt dev.slave v w).1.value = none ∧
        ∃ s', Free s' (wiredAttempt dev.slave v w).2 := by
    intro v s w h
    have hspec := at24c01ReadMultiByte_spec dev h eepromCalibRegAddress (buffer v)
      (show 0 < (14 : UInt8).toNat by decide)
    have hnone : (dev.randomRead at24c01Wr at24c01Rd eepromCalibRegAddress
        (14 : UInt8).toNat s).1 = none := by
      have hwr : Link.addressing.write dev (dev.start s) at24c01Wr = none := by
        rw [Link.write, habsent]
        rfl
      rw [Chip.randomRead, hwr]
    have hanswer := hspec.answer
    rw [hnone] at hanswer
    refine ⟨?_, _, hspec.released.free⟩
    rw [wiredAttempt]
    dsimp only
    rw [hanswer.1, if_neg (by decide)]
    rfl
  induction i with
  | zero => exact hattempt _ h
  | succ i ih =>
    obtain ⟨-, s', hfree⟩ := ih
    exact hattempt _ hfree

/-- Without the chip the boot takes the factors from the flash. -/
theorem wiredBoot_absent (habsent : ∀ s, dev.address s at24c01Wr = none) (h : Free s w)
    (b : Board) (m : Mem) :
    (wiredBoot dev.slave b m w).calibVal = (checkValidAndModify b (restoreFromFlash m)).1 := by
  refine (History.boot_none m ?_).1
  rw [eepromValue, List.findSome?_eq_none_iff]
  intro a ha
  obtain ⟨i, rfl⟩ := (List.mem_ofFn' ..).mp ha
  exact (attemptAt_absent habsent (free_softI2cInit h) i).1

/-- The first attempt reads the factors that the memory holds. -/
theorem attemptAt_memory {s : SerialMemory} {w : Bus (Phase × SerialMemory)} (h : Free s w)
    {v : CalibVal} (hv : ∀ x < 14, s.cells x = v.toBytes.getD x 0) :
    (attemptAt at24c01.slave w 0).1 = .success v := by
  obtain ⟨hret, hbuff, -⟩ := at24c01ReadMultiByte_memory h eepromCalibRegAddress
    (buffer ⟨0xFFFF, fun _ => 0xFFFF, fun _ => 0xFFFF⟩) (show 0 < (14 : UInt8).toNat by decide)
  have hlen : ((List.range (14 : UInt8).toNat).map fun i =>
      s.cells ((eepromCalibRegAddress.toNat + i) % 128)).length = 14 := by
    rw [List.length_map, List.length_range]
    rfl
  have hbytes : ∀ f : Int → UInt8, ofBuffer (fill f ((List.range (14 : UInt8).toNat).map fun i =>
      s.cells ((eepromCalibRegAddress.toNat + i) % 128))) = v := by
    intro f
    rw [ofBuffer]
    refine (congrArg CalibVal.ofBytes (List.ext_getElem ?_ fun i hi hi' => ?_)).trans
      (ofBytes_toBytes v)
    · rw [List.length_map, List.length_range, toBytes_length]
    · rw [toBytes_length] at hi'
      have haddress : (eepromCalibRegAddress.toNat + i) % 128 = i := by
        rw [show eepromCalibRegAddress.toNat = 0 from rfl, Nat.zero_add, Nat.mod_eq_of_lt (by omega)]
      rw [List.getElem_map, List.getElem_range, fill, hlen, if_pos (by omega), Int.toNat_natCast,
        List.getD_eq_getElem _ _ (by rw [hlen]; exact hi'), List.getElem_map, List.getElem_range,
        haddress, hv i hi', List.getD_eq_getElem]
  rw [attemptAt, wiredAttempt]
  dsimp only
  rw [hret, if_pos rfl, hbuff, hbytes]

/-- With the memory the boot takes the factors that it holds, and keeps a copy of them. -/
theorem wiredBoot_memory {s : SerialMemory} {w : Bus (Phase × SerialMemory)} (h : Free s w)
    {v : CalibVal} (hv : ∀ x < 14, s.cells x = v.toBytes.getD x 0) {b : Board} (hin : InRange b v)
    (m : Mem) :
    (wiredBoot at24c01.slave b m w).calibVal = v ∧
      read flashAdrCalibPowerValue 14 (wiredBoot at24c01.slave b m w).flash = v.toBytes := by
  have hfirst : eepromValue
      (fun i => (attemptAt at24c01.slave (softI2cInit at24c01.slave w) i).1) = some v := by
    have hattempts : List.ofFn (n := readEepromRetryTime)
        (fun i => (attemptAt at24c01.slave (softI2cInit at24c01.slave w) i).1) =
        .success v :: List.ofFn (n := 4)
          (fun i => (attemptAt at24c01.slave (softI2cInit at24c01.slave w) i.succ).1) := by
      rw [← attemptAt_memory (free_softI2cInit h) hv]
      exact List.ofFn_succ
    rw [eepromValue, hattempts]
    rfl
  obtain ⟨hcalib, -, hread⟩ := History.boot_good m hfirst hin
  exact ⟨hcalib, hread⟩

/-- Nobody on the wires. -/
def noChip : Chip Unit where
  address _ _ := none
  write _ _ := none
  out _ := 0xFF
  sent := id
  start := id
  stop := id

/-- **From the calibration to the boots**: factors that have been written to the memory are in use
behind the next boot, and behind a boot after that at which no chip answers. -/
theorem calibrated {s : SerialMemory} {w : Bus (Phase × SerialMemory)} (h : Free s w) {b : Board}
    {v : CalibVal} (hin : InRange b v) (m : Mem) {s' : δ} {w' : Bus (Phase × δ)} (h' : Free s' w')
    (habsent : ∀ s, dev.address s at24c01Wr = none) :
    let written := (at24c01WriteMultiByte at24c01.slave eepromCalibRegAddress
      (fun i => buffer v i) 14 w).2
    let first := wiredBoot at24c01.slave b m written
    first.calibVal = v ∧ (wiredBoot dev.slave b first.flash w').calibVal = v := by
  obtain ⟨-, s₁, hfree, hcells⟩ := at24c01WriteMultiByte_memory h
    (show eepromCalibRegAddress.toNat % 8 = 0 by decide) (fun i => buffer v i)
    (show eepromCalibRegAddress.toNat + 8 * totalPage 14 ≤ 128 by decide)
  have hv : ∀ x < 14, s₁.cells x = v.toBytes.getD x 0 := by
    intro x hx
    have hpages : 8 * totalPage 14 = 16 := rfl
    have hzero : eepromCalibRegAddress.toNat = 0 := rfl
    rw [hcells, if_pos (by omega), hzero, Nat.sub_zero, buffer, fill, toBytes_length,
      if_pos (by omega), Int.toNat_natCast]
  obtain ⟨hcalib, hbackup⟩ := wiredBoot_memory hfree hv hin m
  refine ⟨hcalib, ?_⟩
  rw [wiredBoot_absent habsent h', restoreFromFlash, hbackup, ofBytes_toBytes,
    checkValidAndModify_of_valid ((valid_iff v).mpr hin)]

/-- For example, with the chip taken off the board. -/
theorem calibrated_chipRemoved :
    let b := board3
    let v : CalibVal := ⟨1013, fun i => 987 + UInt16.ofNat i, fun i => 1008 - UInt16.ofNat i⟩
    let written := (at24c01WriteMultiByte at24c01.slave eepromCalibRegAddress
      (fun i => buffer v i) 14 (Bus.rest .blank)).2
    let first := wiredBoot at24c01.slave b (fun _ => 0xFF) written
    first.calibVal = v ∧
      (wiredBoot noChip.slave b first.flash (Bus.rest ())).calibVal = v :=
  calibrated (released_rest _).free (by decide) _ (released_rest _).free fun _ => rfl

end CalibBoot

end LumesSwitch
