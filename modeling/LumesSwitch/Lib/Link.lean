import Mathlib.Data.List.Basic

/-!
# A device behind a lossy link

A host writes to a device and reads back what it has written. Messages wait in flight on both
ways, where they may be lost, overtake each other and arrive late.

- `Net` — the device and what is in flight;
- `ReadBack` — what the device and the messages of the host must be like, for an answer to confirm
  a property of the device;
- `Net.Sound` — every confirming answer in flight is true;
- `Net.Sound.deliver`, `Net.Sound.lose`, `Net.Sound.reply` — the rules.
-/

namespace Links

variable {δ μ ρ : Type*}

/-- A device, and the messages in flight to it and from it. -/
structure Net (δ μ ρ : Type*) where
  device : δ
  toDevice : List μ
  toHost : List ρ

/-- What the device does with a message, and what it answers. -/
abbrev Handler (δ μ ρ : Type*) : Type _ := δ → μ → δ × Option ρ

namespace Net

/-- The host sends messages. -/
def send (n : Net δ μ ρ) (ms : List μ) : Net δ μ ρ := { n with toDevice := n.toDevice ++ ms }

/-- A message comes to the device. -/
def deliver (f : Handler δ μ ρ) (n : Net δ μ ρ) (i : Nat) : Net δ μ ρ :=
  match n.toDevice[i]? with
  | none => n
  | some m =>
    let (device, reply) := f n.device m
    ⟨device, n.toDevice.eraseIdx i, n.toHost ++ reply.toList⟩

/-- A message to the device is lost. -/
def lose (n : Net δ μ ρ) (i : Nat) : Net δ μ ρ := { n with toDevice := n.toDevice.eraseIdx i }

/-- An answer comes to the host, or is lost. -/
def reply (n : Net δ μ ρ) (i : Nat) : Net δ μ ρ := { n with toHost := n.toHost.eraseIdx i }

end Net

/-- The messages that are sent keep the property, and an answer that confirms it is given by a
device that has it. -/
structure ReadBack (f : Handler δ μ ρ) (Sent : μ → Prop) (Good : δ → Prop) (Confirms : ρ → Prop) :
    Prop where
  stable : ∀ {d m}, Sent m → Good d → Good (f d m).1
  sound : ∀ {d m r}, Sent m → (f d m).2 = some r → Confirms r → Good (f d m).1

namespace Net

variable {f : Handler δ μ ρ} {Sent : μ → Prop} {Good : δ → Prop} {Confirms : ρ → Prop}
  {n : Net δ μ ρ}

/-- The oldest message comes to the device. -/
theorem deliver_cons {m : μ} {ms : List μ} (h : n.toDevice = m :: ms) :
    n.deliver f 0 = ⟨(f n.device m).1, ms, n.toHost ++ (f n.device m).2.toList⟩ := by
  rw [deliver, h]
  rfl

/-- The oldest message comes to the device, which does not answer. -/
theorem deliver_silent {d : δ} {m : μ} {ms : List μ} {rs : List ρ} (h : (f d m).2 = none) :
    (⟨d, m :: ms, rs⟩ : Net δ μ ρ).deliver f 0 = ⟨(f d m).1, ms, rs⟩ := by
  rw [deliver_cons rfl, h]
  exact congrArg (Net.mk _ _) (List.append_nil rs)

/-- What holds of every answer that the device gives holds of all in flight. -/
theorem forall_mem_toHost_deliver {P : ρ → Prop} (h : ∀ r ∈ n.toHost, P r)
    (hf : ∀ m r, (f n.device m).2 = some r → P r) (i : Nat) :
    ∀ r ∈ (n.deliver f i).toHost, P r := by
  rw [deliver]
  cases n.toDevice[i]? with
  | none => exact h
  | some m => exact List.forall_mem_append.mpr ⟨h, fun r hr => hf m r (Option.mem_toList.mp hr)⟩

theorem forall_mem_toHost_reply {P : ρ → Prop} (h : ∀ r ∈ n.toHost, P r) (i : Nat) :
    ∀ r ∈ (n.reply i).toHost, P r :=
  fun r hr => h r ((List.eraseIdx_sublist ..).subset hr)

/-- Only messages that may be sent are in flight, and the answers in flight are true. -/
structure Sound (Sent : μ → Prop) (Good : δ → Prop) (Confirms : ρ → Prop) (n : Net δ μ ρ) :
    Prop where
  sent : ∀ m ∈ n.toDevice, Sent m
  confirmed : ∀ r ∈ n.toHost, Confirms r → Good n.device

namespace Sound

theorem send (h : n.Sound Sent Good Confirms) {ms : List μ} (hms : ∀ m ∈ ms, Sent m) :
    (n.send ms).Sound Sent Good Confirms where
  sent := List.forall_mem_append.mpr ⟨h.sent, hms⟩
  confirmed := h.confirmed

theorem lose (h : n.Sound Sent Good Confirms) (i : Nat) :
    (n.lose i).Sound Sent Good Confirms where
  sent m hm := h.sent m ((List.eraseIdx_sublist ..).subset hm)
  confirmed := h.confirmed

theorem reply (h : n.Sound Sent Good Confirms) (i : Nat) :
    (n.reply i).Sound Sent Good Confirms where
  sent := h.sent
  confirmed r hr := h.confirmed r ((List.eraseIdx_sublist ..).subset hr)

/-- A device that gets the property some other way. -/
theorem setDevice (h : n.Sound Sent Good Confirms) {d : δ} (hd : Good d) :
    ({ n with device := d } : Net δ μ ρ).Sound Sent Good Confirms where
  sent := h.sent
  confirmed _ _ _ := hd

/-- **A message comes to the device**: an answer from before it stays true. -/
theorem deliver (hf : ReadBack f Sent Good Confirms) (h : n.Sound Sent Good Confirms) (i : Nat) :
    (n.deliver f i).Sound Sent Good Confirms := by
  rw [Net.deliver]
  cases hm : n.toDevice[i]? with
  | none => exact h
  | some m =>
    have hsent : Sent m := h.sent m (List.mem_of_getElem? hm)
    refine ⟨fun m' hm' => h.sent m' ((List.eraseIdx_sublist ..).subset hm'), fun r hr hconf => ?_⟩
    rcases List.mem_append.mp hr with hold | hnew
    · exact hf.stable hsent (h.confirmed r hold hconf)
    · exact hf.sound hsent (Option.mem_toList.mp hnew) hconf

/-- The property is kept by what comes to the device. -/
theorem good_deliver (hf : ReadBack f Sent Good Confirms) (h : n.Sound Sent Good Confirms)
    (hgood : Good n.device) (i : Nat) : Good (n.deliver f i).device := by
  rw [Net.deliver]
  cases hm : n.toDevice[i]? with
  | none => exact hgood
  | some m => exact hf.stable (h.sent m (List.mem_of_getElem? hm)) hgood

end Sound

end Net

end Links
