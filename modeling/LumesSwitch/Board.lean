import Mathlib.Data.List.FinRange
import Mathlib.Logic.Function.Basic

/-!
# The board (`config_board.h`)

The switch is built with one, two or three relays. A relay has a button of its
own and an element of its own; two scene buttons, and their elements, come
before them.
-/

namespace LumesSwitch

/-- `NUMBER_RL` for the boards there are. -/
structure Board where
  numberRl : Nat
  one_le : 1 ≤ numberRl
  le_three : numberRl ≤ 3

namespace Board

/-- `NUMBER_SCENE` -/
def numberScene : Nat := 2

/-- `ELE_RELAY_OFFSET`: the first relay element, behind the scene elements. -/
def eleRelayOffset : Nat := 2

variable (b : Board)

/-- The index of a relay channel. -/
abbrev Chn : Type := Fin b.numberRl

/-- `NUMBER_BUTTON`, which is also the number of elements. -/
def numberButton : Nat := b.numberRl + numberScene

/-- The index of a button, or of an element. -/
abbrev Btn : Type := Fin b.numberButton

/-- The first channel. -/
def chn0 : b.Chn := ⟨0, b.one_le⟩

/-- `foreach(i, NUMBER_RL)`: the channels in loop order. -/
def chns : List b.Chn := List.finRange b.numberRl

/-- A word for each channel fits a flash block. -/
theorem chnWords_pos : 1 ≤ 4 * b.numberRl := by
  have hone := b.one_le
  omega

theorem chnWords_le : 4 * b.numberRl ≤ 255 := by
  have hthree := b.le_three
  omega

theorem mem_chns (c : b.Chn) : c ∈ b.chns := List.mem_finRange c

theorem nodup_chns : b.chns.Nodup := List.nodup_finRange b.numberRl

end Board

namespace Board

variable {b : Board}

/-- The relay element of channel `c`, which is also its button. -/
def relayEle (c : b.Chn) : b.Btn := ⟨c.val + eleRelayOffset, Nat.add_lt_add_right c.isLt _⟩

/-- `get_relay_idx_follow_model_index`: the channel of a relay element. The
difference is taken in a byte, so a scene element has none. -/
def relayIdx (m : b.Btn) : Option b.Chn :=
  if h : eleRelayOffset ≤ m.val then
    some ⟨m.val - eleRelayOffset, Nat.sub_lt_right_of_lt_add h m.isLt⟩
  else none

@[simp] theorem relayIdx_relayEle (c : b.Chn) : relayIdx (relayEle c) = some c := by
  simp [relayIdx, relayEle]

/-- `BUTTON_SCENE_0_IDX`, `BUTTON_SCENE_1_IDX`, `BUTTON_SWITCH_0_IDX` -/
def buttonScene0Idx : b.Btn := ⟨0, Nat.succ_pos _⟩
def buttonScene1Idx : b.Btn := ⟨1, Nat.lt_add_left b.numberRl (by decide)⟩
def buttonSwitch0Idx : b.Btn := relayEle b.chn0

/-- Channel number `c`, read as an element number. -/
def eleOfChn (c : b.Chn) : b.Btn := ⟨c.val, Nat.lt_of_lt_of_le c.isLt (Nat.le_add_right _ _)⟩

end Board

/-- The two-relay board. -/
def board2 : Board := ⟨2, by decide, by decide⟩

/-- The three-relay board. -/
def board3 : Board := ⟨3, by decide, by decide⟩

/-- The one-relay board. -/
def board1 : Board := ⟨1, by decide, by decide⟩

/-! ## Button events (`utilities.h`) -/

/-- `ButtonState_enum`, without its aliases. -/
inductive ButtonState where
  | release
  | hold3S
  | hold5S
  | hold10S
  | pressTwoTime
  | pressThreeTime
  | pressFourTime
  | pressFiveTime
  | pressTenTime
  | hold15S
  | hold7S
  | hold9S
  | hold12S
  | pressSixTime
  | pressEightTime
  | hold50MS
  | hold500MS
  | pressTwelveTime
  | pressOneTime
  | hold2S
  | hold4S
  | startPress
  | noPress
  deriving DecidableEq, Repr

/-- `btn_evt_t`: the last event of a button, its time, and whether a 500 ms hold
is on. -/
structure BtnEvt where
  evt : ButtonState
  updateStT : UInt32
  hold500msFlag : Bool

/-! ## Clock -/

/-- `clock_time_exceed_ms`, `clock_time_exceed_s`: more than `span` since `ref`,
modulo the wrap of the 32-bit counter. -/
def clockTimeExceed (now ref span : UInt32) : Bool := now - ref > span

end LumesSwitch
