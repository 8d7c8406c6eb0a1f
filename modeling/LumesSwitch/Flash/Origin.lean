import LumesSwitch.Flash.WordLog

/-!
# Where the records of a log come from

The meters are cleared while their logs run on. `BlockOrigins` keeps, for each index that a record
of the log was written at, whether that was before the last clearing, and how much of what the
record holds was measured before it. A record that was written since may well be one of totals
from before.

- `BlockOrigins.put`, `BlockOrigins.age` — a store and a clearing;
- `BlockOrigins.found` — the record that a boot would read;
- `BlockOrigins.Fresh` — every record written since the clearing holds nothing of before it, and
  none from before it would be read;
- `BlockOrigins.Fresh.put` — a store of fresh totals keeps that.
-/

namespace LumesSwitch

open Nor Words

/-! ## The index of a store -/

namespace FlashLog

/-- Where a store writes, and where the index of the RAM points behind it. -/
def nextIndex (g : FlashLog) (log : LogState) : Nat :=
  if g.Wraps log then 0 else log.index + g.blockSize

theorem index_put (g : FlashLog) (log : LogState) (data : List UInt8) :
    (g.put log data).index = g.nextIndex log := by
  have hwraps : log.index + g.blockSize ≥ g.flashSize ↔ g.Wraps log := Iff.rfl
  unfold put flashUserStore nextIndex
  dsimp only
  by_cases hw : g.Wraps log
  · rw [if_pos (hwraps.mpr hw), if_pos hw]
  · rw [if_neg fun hx => hw (hwraps.mp hx), if_neg hw]

end FlashLog

variable {b : Board} {adr : Nat} {log : LogState}

/-- A boot reads the record that was stored last. -/
theorem SectorOk.index_reindex_put (h : SectorOk b adr log false) {tmp : b.Chn → UInt32}
    (hne : ∃ c, tmp c ≠ 0xFFFFFFFF) :
    ((wordLog b adr).reindex ((wordLog b adr).put log (encodeWords tmp))).index =
      (wordLog b adr).nextIndex log := by
  obtain ⟨v, hv⟩ := h.live rfl
  obtain ⟨⟨v', hput⟩, -⟩ := hv.put_words hne
  have hindex : ((wordLog b adr).reindex ((wordLog b adr).put log (encodeWords tmp))).index =
      ((wordLog b adr).put log (encodeWords tmp)).index := hput.reboot_index
  rw [hindex, FlashLog.index_put]

/-! ## The records -/

/-- When a record was written and, if that was since the last clearing, how much of what it holds
for each channel was measured before it. -/
inductive BlockOrigin (b : Board) (α : Type) where
  | before
  | since (part : b.Chn → α)

/-- The records of a log by the index they were written at, the newest first. -/
abbrev BlockOrigins (b : Board) (α : Type) := List (Nat × BlockOrigin b α)

variable {α : Type}

/-- A record was written before the clearing, or holds nothing of before. -/
def BlockOrigin.Clean [Zero α] : BlockOrigin b α → Prop
  | .before => True
  | .since part => ∀ c, part c = 0

instance [Zero α] [DecidableEq α] (o : BlockOrigin b α) : Decidable o.Clean :=
  match o with
  | .before => isTrue trivial
  | .since _ => inferInstanceAs (Decidable (∀ _, _ = _))

/-- The record was written before the clearing. -/
def BlockOrigin.IsBefore : BlockOrigin b α → Prop
  | .before => True
  | .since _ => False

instance (o : BlockOrigin b α) : Decidable o.IsBefore :=
  match o with
  | .before => isTrue trivial
  | .since _ => isFalse id

/-- How much of what a record holds is of before, if all of it is `all`. -/
def BlockOrigin.part (all : b.Chn → α) : BlockOrigin b α → b.Chn → α
  | .before => all
  | .since part => part

namespace BlockOrigins

variable {o : BlockOrigins b α}

/-- A record is stored, of which `part` was measured before the clearing. A store that wraps
erases the sector first. -/
def put (o : BlockOrigins b α) (adr : Nat) (log : LogState) (part : b.Chn → α) :
    BlockOrigins b α :=
  ((wordLog b adr).nextIndex log, .since part) :: if (wordLog b adr).Wraps log then [] else o

/-- A clearing: all there is was written before it. -/
def age (o : BlockOrigins b α) : BlockOrigins b α := o.map fun p => (p.1, .before)

/-- The record that a boot would read, if one was written there. -/
def found (o : BlockOrigins b α) (adr : Nat) (log : LogState) : Option (BlockOrigin b α) :=
  o.lookup ((wordLog b adr).reindex log).index

section Zero

variable [Zero α]

/-- How much of what a boot takes for channel `c` is of before, if all of it is `all c`. -/
def bootPart (o : BlockOrigins b α) (adr : Nat) (log : LogState) (all : b.Chn → α) (c : b.Chn) :
    α :=
  (o.found adr log).elim 0 fun block => block.part all c

/-- What was stored since the clearing holds nothing of before it, and a boot would read no
record from before. -/
structure Fresh (o : BlockOrigins b α) (adr : Nat) (log : LogState) : Prop where
  clean : ∀ p ∈ o, p.2.Clean
  found : ∀ block ∈ o.found adr log, ¬ block.IsBefore

instance [DecidableEq α] (o : BlockOrigins b α) (adr : Nat) (log : LogState) :
    Decidable (o.Fresh adr log) :=
  decidable_of_iff ((∀ p ∈ o, p.2.Clean) ∧ ∀ block ∈ o.found adr log, ¬ block.IsBefore)
    ⟨fun h => ⟨h.1, h.2⟩, fun h => ⟨h.1, h.2⟩⟩

/-- Nothing is stored. -/
theorem fresh_nil : Fresh ([] : BlockOrigins b α) adr log := by
  constructor
  · intro p hp
    cases hp
  · intro block hblock
    cases hblock

theorem clean_age : ∀ p ∈ o.age, p.2.Clean := by
  intro p hp
  obtain ⟨q, -, rfl⟩ := List.mem_map.mp hp
  exact trivial

/-- **Store** of totals that hold nothing of before, whatever is stored already. -/
theorem fresh_put (ho : ∀ p ∈ o, p.2.Clean) (hsector : SectorOk b adr log false)
    {tmp : b.Chn → UInt32} (hne : ∃ c, tmp c ≠ 0xFFFFFFFF) {part : b.Chn → α}
    (hpart : ∀ c, part c = 0) :
    (o.put adr log part).Fresh adr ((wordLog b adr).put log (encodeWords tmp)) := by
  constructor
  case clean =>
    intro p hp
    rcases List.mem_cons.mp hp with rfl | hp
    · exact hpart
    · -- an older record is left if the store does not wrap
      split at hp
      · cases hp
      · exact ho p hp
  case found =>
    -- the boot reads the record that has just been stored
    intro block hblock
    rw [BlockOrigins.found, hsector.index_reindex_put hne, put, List.lookup_cons_self] at hblock
    cases hblock
    exact id

namespace Fresh

/-- A boot leaves the sector as it is. -/
theorem reindex (h : o.Fresh adr log) : o.Fresh adr ((wordLog b adr).reindex log) :=
  ⟨h.clean, h.found⟩

/-- The sector is the same, and nothing else of the flash counts. -/
theorem congr (h : o.Fresh adr log) {m : Mem} (hm : AgreeOn adr flashSectorSize log.mem m)
    (i : Nat) : o.Fresh adr ⟨i, m⟩ := by
  have hindex : ((wordLog b adr).reindex ⟨i, m⟩).index = ((wordLog b adr).reindex log).index :=
    (wordLog b adr).getFlashIndex_congr hm
  refine ⟨h.clean, fun block hblock => h.found block ?_⟩
  rwa [BlockOrigins.found, hindex] at hblock

/-- What a boot takes from the log holds nothing of before. -/
theorem bootPart_eq (h : o.Fresh adr log) (all : b.Chn → α) (c : b.Chn) :
    o.bootPart adr log all c = 0 := by
  rw [bootPart]
  cases hfound : o.found adr log with
  | none => rfl
  | some block =>
    cases block with
    | before => exact absurd trivial (h.found _ hfound)
    | since part =>
      -- the record found is one of those that are stored
      obtain ⟨l₁, l₂, heq, -⟩ := List.lookup_eq_some_iff.mp hfound
      have hmem : (((wordLog b adr).reindex log).index, BlockOrigin.since part) ∈ o := by
        rw [heq]
        exact List.mem_append_right _ List.mem_cons_self
      exact h.clean _ hmem c

end Fresh

end Zero

end BlockOrigins

end LumesSwitch
