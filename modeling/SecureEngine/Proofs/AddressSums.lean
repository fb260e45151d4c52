import SecureEngine.Proofs.Registrations

/-! # Sums that wrap around

Whether bytes lie in a registration is asked by adding lengths to addresses in 64 bits. Where a sum does
not fit, an engine that does not check it goes on with what is left of it, and grants nothing by that.

* **`SharedMemory.Reachable`** — the memories that come of staging, resetting and storing; every
  registration in them lies in one area (`Reachable.inArea`), and so does what it covers
  (`Registration.InArea.position?_of_covers`).
* **`Registration.coversWrapping`** — whether a registration covers some bytes, by sums that wrap around.
* **`Reachable.loadBy_coversWrapping`**, **`Reachable.storeBy_coversWrapping`** — sums that wrap around
  grant nothing more and nothing less. -/

namespace SecureEngine

/-! ## (1) Registrations in their areas -/

/-- **A `Registration` lies in one area.** -/
def Registration.InArea (r : Registration) : Prop :=
  ∃ (region : Region) (i : Nat), region.position? r.address r.length = some i

namespace SharedMemory

/-- **The memories that can come about**, by whatever a client stages and resets and an engine stores. -/
inductive Reachable : SharedMemory → Prop
  | start : Reachable {}
  | setWindow {m after : SharedMemory} {offset size : UInt32} (h : Reachable m)
      (hset : m.setWindow offset size = some after) : Reachable after
  | register {m after : SharedMemory} {data : Bytes} {use : BufferUse} {a : Address}
      (h : Reachable m) (hregister : m.register data use = some (a, after)) : Reachable after
  | store {m after : SharedMemory} {a : Address} {data : Bytes} (h : Reachable m)
      (hstore : m.store a data = .ok after) : Reachable after
  | reset {m : SharedMemory} (h : Reachable m) : Reachable m.reset

variable {m after : SharedMemory}

/-- Setting the window with `setWindow` registers nothing. -/
theorem registrations_of_setWindow {offset size : UInt32} (h : m.setWindow offset size = some after) :
    after.registrations = m.registrations := by
  unfold setWindow at h
  dsimp only at h
  split at h
  · cases h
  · cases h
    rfl

/-- Storing with `store` registers nothing. -/
theorem registrations_of_store {a : Address} {data : Bytes} (h : m.store a data = .ok after) :
    after.registrations = m.registrations := by
  rw [store_exact] at h
  split at h
  · cases h
    rfl
  split at h
  · split at h
    · split at h
      · cases h
        exact registrations_withArea _ _ _
      · cases h
    · cases h
  · cases h

/-- **Every registration lies in one area**, because its buffer was written there before
`SharedMemory.register` recorded it. -/
theorem Reachable.inArea (h : m.Reachable) : ∀ r ∈ m.registrations, r.InArea := by
  -- By induction on the calls: only `register` adds a registration, at a position that it has found.
  induction h with
  | start => nofun
  | setWindow _ hset ih => rwa [registrations_of_setWindow hset]
  | store _ hstore ih => rwa [registrations_of_store hstore]
  | reset => nofun
  | register _ hregister ih =>
    have hregisters := registers_of_register hregister
    intro r hr
    rw [hregisters.registrations_eq] at hr
    rcases List.mem_append.mp hr with hr | hr
    · exact ih r hr
    · obtain rfl := List.mem_singleton.mp hr
      obtain ⟨i, hi, -⟩ := hregisters.written
      exact ⟨_, i, hi⟩

end SharedMemory

namespace Registration.InArea

variable {r : Registration}

/-- The end of a registration fits 64 bits, so that the sum `Registration.covers?` takes of its address
and its length does not overflow. -/
theorem end_lt (h : r.InArea) : r.address.toNat + r.length < UInt64.size := by
  obtain ⟨region, i, hi⟩ := h
  exact Region.end_lt_of_position? hi

/-- A registration begins below the addresses of two words, as both areas of `Region` lie in the lower 4
GiB. -/
theorem address_lt (h : r.InArea) : r.address.toNat < UInt32.size := by
  obtain ⟨region, i, hi⟩ := h
  exact Region.toNat_lt_of_position? hi

/-- **What a registration covers lies in its area**, so an access that is granted is carried out. -/
theorem position?_of_covers (h : r.InArea) {a : Address} {n : Nat} (hc : r.covers a n = true) :
    ∃ (region : Region) (i : Nat), Region.ofAddress? a = some region ∧
      region.position? a n = some i := by
  obtain ⟨region, i, hi⟩ := h
  simp only [covers, Bool.and_eq_true, decide_eq_true_eq] at hc
  obtain ⟨hle, hend⟩ := hc
  rw [UInt64.le_iff_toNat_le] at hle
  obtain ⟨hbase, hfits, hposition⟩ := Region.position?_eq_some_iff.mp hi
  have hcovered : region.position? a n = some (a.toNat - region.base.toNat) := by
    rw [Region.position?_eq_some_iff]
    omega
  exact ⟨region, _, Region.ofAddress?_of_position? hcovered, hcovered⟩

end Registration.InArea

/-- **Offsets are added to the base of the secure RAM**: no bit of the base lies within an offset. -/
theorem SharedMemory.toNat_ofShort (offset : UInt16) :
    (ofShort offset).toNat = Region.secure.base.toNat + offset.toNat := by
  have hbase : Region.secure.base.toNat = 0x2000 <<< 16 := by decide
  rw [ofShort, UInt64.toNat_or, UInt16.toNat_toUInt64, hbase]
  exact (Nat.shiftLeft_add_eq_or_of_lt offset.toNat_lt 0x2000).symm

/-! ## (2) Sums that wrap around -/

namespace SharedMemory

/-- A load that asks in some way whether a `Registration` covers the bytes. -/
def loadBy (covers : Registration → Address → Nat → Bool) (m : SharedMemory) (a : Address) (n : Nat) :
    Except EngineError Bytes :=
  if n = 0 then .ok []
  else if m.registrations.any (covers · a n) then
    match m.bytesAt? a n with
    | some bytes => .ok bytes
    | none => .error Reason.invalidAddress.toError
  else .error Reason.invalidAddress.toError

/-- A store that asks in some way whether a `Registration` covers the bytes. -/
def storeBy (covers : Registration → Address → Nat → Bool) (m : SharedMemory) (a : Address)
    (data : Bytes) : Except EngineError SharedMemory :=
  if data.isEmpty then .ok m
  else if m.registrations.any fun r => r.use.output && covers r a data.length then
    match Region.ofAddress? a with
    | some region =>
      match region.position? a data.length with
      | some position => .ok (m.withArea ((m.area region).write position data) region)
      | none => .error Reason.invalidAddress.toError
    | none => .error Reason.invalidAddress.toError
  else .error Reason.invalidAddress.toError

/-- `loadBy` with exact sums is `SharedMemory.load`. -/
theorem loadBy_covers (m : SharedMemory) (a : Address) (n : Nat) :
    m.loadBy Registration.covers a n = m.load a n :=
  (m.load_exact a n).symm

/-- `storeBy` with exact sums is `SharedMemory.store`. -/
theorem storeBy_covers (m : SharedMemory) (a : Address) (data : Bytes) :
    m.storeBy Registration.covers a data = m.store a data :=
  (m.store_exact a data).symm

end SharedMemory

/-- **Whether bytes lie in a `Registration`, by sums of 64 bits** that wrap around. -/
def Registration.coversWrapping (r : Registration) (a : Address) (n : Nat) : Bool :=
  r.address ≤ a && a + UInt64.ofNat n ≤ r.address + UInt64.ofNat r.length

/-- Sums that fit are the same in 64 bits: on such an access `coversWrapping` gives what the exact
`covers` gives. -/
theorem Registration.InArea.coversWrapping_eq {r : Registration} (h : r.InArea) {a : Address} {n : Nat}
    (hfits : a.toNat + n < UInt64.size) : r.coversWrapping a n = r.covers a n := by
  have hadd {b : Address} {k : Nat} (hk : b.toNat + k < UInt64.size) :
      (b + UInt64.ofNat k).toNat = b.toNat + k := by
    rw [UInt64.toNat_add, UInt64.toNat_ofNat_of_lt' (Nat.lt_of_le_of_lt (Nat.le_add_left _ _) hk)]
    exact Nat.mod_eq_of_lt hk
  unfold coversWrapping covers
  simp only [UInt64.le_iff_toNat_le, hadd hfits, hadd h.end_lt]

/-- Bytes that end behind the last address lie in no area, so `Region.position?` finds nothing for
them. -/
theorem Region.position?_eq_none {region : Region} {a : Address} {n : Nat}
    (h : UInt64.size ≤ a.toNat + n) : region.position? a n = none := by
  refine Option.eq_none_iff_forall_ne_some.mpr fun i hi => ?_
  exact absurd (end_lt_of_position? hi) (Nat.not_lt.mpr h)

namespace SharedMemory.Reachable

variable {m : SharedMemory}

/-- A search among some registrations finds one in 64 bits just if it finds one exactly. -/
theorem any_coversWrapping_eq (h : m.Reachable) (counts : Registration → Bool) {a : Address} {n : Nat}
    (hfits : a.toNat + n < UInt64.size) :
    (m.registrations.any fun r => counts r && r.coversWrapping a n) =
      m.registrations.any fun r => counts r && r.covers a n := by
  have hinArea := h.inArea
  generalize m.registrations = rs at hinArea ⊢
  induction rs with
  | nil => rfl
  | cons r rest ih =>
    rw [List.forall_mem_cons] at hinArea
    rw [List.any_cons, List.any_cons, hinArea.1.coversWrapping_eq hfits, ih hinArea.2]

/-- **Loads are the same with sums that wrap around**: what is covered by accident lies in no area. -/
theorem loadBy_coversWrapping (h : m.Reachable) (a : Address) (n : Nat) :
    m.loadBy Registration.coversWrapping a n = m.load a n := by
  rw [← loadBy_covers]
  unfold loadBy
  by_cases hfits : a.toNat + n < UInt64.size
  · have hany := h.any_coversWrapping_eq (fun _ => true) hfits
    simp only [Bool.true_and] at hany
    rw [hany]
  · -- Whatever is covered by accident, the bytes lie in no area.
    have hnone : m.bytesAt? a n = none := by
      unfold bytesAt?
      cases Region.ofAddress? a with
      | none => rfl
      | some region =>
        have hposition : region.position? a n = none :=
          Region.position?_eq_none (Nat.not_lt.mp hfits)
        simp only [Option.bind_eq_bind, Option.bind_some, hposition, Option.bind_none]
    rw [hnone]
    simp only [ite_self]

/-- **Stores are the same with sums that wrap around**: bytes whose end wraps lie in no `Region`, so there
the registrations are not what decides. -/
theorem storeBy_coversWrapping (h : m.Reachable) (a : Address) (data : Bytes) :
    m.storeBy Registration.coversWrapping a data = m.store a data := by
  rw [← storeBy_covers]
  unfold storeBy
  -- A sum that wraps reaches beyond every region, so the registrations are not what decides.
  by_cases hfits : a.toNat + data.length < UInt64.size
  · rw [h.any_coversWrapping_eq (·.use.output) hfits]
  · cases Region.ofAddress? a with
    | none => simp only [ite_self]
    | some region =>
      have hposition : region.position? a data.length = none :=
        Region.position?_eq_none (Nat.not_lt.mp hfits)
      simp only [hposition, ite_self]

end SharedMemory.Reachable

end SecureEngine
