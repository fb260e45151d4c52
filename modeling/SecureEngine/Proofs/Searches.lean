import SecureEngine.Emulator.SharedMemory

/-! # Searches for a registration

An engine asks whether bytes lie in a registration by adding lengths to addresses in 64 bits. A sum that
does not fit ends the search; otherwise it comes to what exact sums come to.

* **`Registration.covers`** — whether a registration covers some bytes, by exact sums.
* **`Registration.covered?_of_lt`**, **`Registration.covered?_of_le`** — what a search comes to for
  bytes that end before addresses do, and for others.
* **`SharedMemory.load_exact`**, **`SharedMemory.store_exact`** — loads and stores by exact sums.
* **`SharedMemory.load?_eq_none_iff`**, **`SharedMemory.store?_eq_none_iff`** — when they take a sum that
  does not fit. -/

namespace SecureEngine

/-! ## (1) Sums -/

namespace Address

variable {a b : Address} {n : Nat}

/-- **`a.add? n` is the exact sum** of `a` and `n`, where that is an address. -/
theorem add?_eq_some_iff : a.add? n = some b ↔ b.toNat = a.toNat + n := by
  unfold add?
  split
  · -- The sum fits, so wrapping around does not come into it.
    rename_i hfits
    have hsum : (a + UInt64.ofNat n).toNat = a.toNat + n := by
      rw [UInt64.toNat_add, UInt64.toNat_ofNat_of_lt' (Nat.lt_of_le_of_lt (Nat.le_add_left _ _) hfits)]
      exact Nat.mod_eq_of_lt hfits
    rw [Option.some_inj, ← UInt64.toNat_inj, hsum, eq_comm]
  · rename_i hlarge
    have hb : b.toNat < UInt64.size := b.toNat_lt
    constructor
    · intro h
      cases h
    · intro h
      exact absurd (h ▸ hb) hlarge

/-- `a.add? n` is missing just if the exact sum is no address. -/
theorem add?_eq_none_iff : a.add? n = none ↔ UInt64.size ≤ a.toNat + n := by
  unfold add?
  split
  · rename_i hfits
    exact ⟨nofun, fun hlarge => absurd hfits (Nat.not_lt.mpr hlarge)⟩
  · rename_i hlarge
    exact ⟨fun _ => Nat.not_lt.mp hlarge, fun _ => rfl⟩

end Address

/-! ## (2) Searches -/

namespace Registration

/-- **Whether `n` bytes at an address all lie in a registration**, by exact sums. -/
def covers (r : Registration) (a : Address) (n : Nat) : Bool :=
  r.address ≤ a && a.toNat + n ≤ r.address.toNat + r.length

variable {r : Registration} {rs : List Registration} {a : Address} {n : Nat}

/-- `covers` in numbers: the bytes begin and end within the registration. -/
theorem covers_eq_true_iff : r.covers a n = true ↔
    r.address.toNat ≤ a.toNat ∧ a.toNat + n ≤ r.address.toNat + r.length := by
  simp only [covers, Bool.and_eq_true, decide_eq_true_eq, UInt64.le_iff_toNat_le]

/-- Bytes that end behind the last address are covered by no registration that `Ends`. -/
theorem Ends.covers_eq_false (h : r.Ends) (hlarge : UInt64.size ≤ a.toNat + n) :
    r.covers a n = false := by
  rw [Bool.eq_false_iff]
  intro hcovers
  have hends : r.address.toNat + r.length < UInt64.size := h
  have hend := (covers_eq_true_iff.mp hcovers).2
  omega

/-- **`covers?` answers what `covers` does** for bytes that end before addresses do. -/
theorem Ends.covers?_of_lt (h : r.Ends) (hfits : a.toNat + n < UInt64.size) :
    r.covers? a n = some (r.covers a n) := by
  obtain ⟨last, hlast⟩ : ∃ last, a.add? n = some last := ⟨_, if_pos hfits⟩
  obtain ⟨limit, hlimit⟩ : ∃ limit, r.address.add? r.length = some limit := ⟨_, if_pos h⟩
  unfold covers? covers
  -- Both sums fit, so the comparison is of the numbers.
  by_cases hle : r.address ≤ a
  · rw [if_pos hle, hlast, hlimit, decide_eq_true hle, Bool.true_and]
    simp only [Option.bind_eq_bind, Option.bind_some, UInt64.le_iff_toNat_le,
      Address.add?_eq_some_iff.mp hlast, Address.add?_eq_some_iff.mp hlimit]
    rfl
  · rw [if_neg hle, decide_eq_false hle, Bool.false_and]

/-- **`covers?` does not answer** for bytes that end behind the last address, but where the registration
begins behind them. -/
theorem covers?_of_le (hlarge : UInt64.size ≤ a.toNat + n) :
    r.covers? a n = if r.address ≤ a then none else some false := by
  unfold covers?
  split
  · rw [Address.add?_eq_none_iff.mpr hlarge]
    rfl
  · rfl

/-- `covered?` asks one registration after the other. -/
theorem covered?_cons (r : Registration) (rs : List Registration) (a : Address) (n : Nat) :
    covered? (r :: rs) a n = (r.covers? a n).bind fun covers =>
      if covers then some true else covered? rs a n := by
  unfold covered?
  rw [List.anyM, Option.bind_eq_bind]
  congr 1
  funext covers
  cases covers <;> rfl

/-- **A search answers what exact sums do** for bytes that end before addresses do. -/
theorem covered?_of_lt (h : ∀ r ∈ rs, r.Ends) (hfits : a.toNat + n < UInt64.size) :
    covered? rs a n = some (rs.any (·.covers a n)) := by
  induction rs with
  | nil => rfl
  | cons r rest ih =>
    rw [List.forall_mem_cons] at h
    rw [covered?_cons, h.1.covers?_of_lt hfits, Option.bind_some, List.any_cons]
    cases r.covers a n with
    | true => rfl
    | false => exact ih h.2

/-- **A search does not answer** for bytes that end behind the last address, if there is a registration
to ask: one that begins at or before them. -/
theorem covered?_of_le (hlarge : UInt64.size ≤ a.toNat + n) :
    covered? rs a n = if rs.any (·.address ≤ a) then none else some false := by
  -- By induction on the registrations: the first one that does not start behind `a` has its sum taken.
  induction rs with
  | nil => rfl
  | cons r rest ih =>
    rw [covered?_cons, covers?_of_le hlarge, List.any_cons]
    by_cases hle : r.address ≤ a
    · rw [if_pos hle, decide_eq_true hle]
      rfl
    · rw [if_neg hle, decide_eq_false hle, Bool.false_or]
      exact ih

/-- `covered?` does not answer just if the bytes end behind the last address and there is a registration
to ask. -/
theorem covered?_eq_none_iff (h : ∀ r ∈ rs, r.Ends) :
    covered? rs a n = none ↔ UInt64.size ≤ a.toNat + n ∧ ∃ r ∈ rs, r.address ≤ a := by
  -- The sum is the same for every registration: it fits for all of them or for none.
  rcases Nat.lt_or_ge (a.toNat + n) UInt64.size with hfits | hlarge
  · rw [covered?_of_lt h hfits]
    exact ⟨nofun, fun hover => absurd hfits (Nat.not_lt.mpr hover.1)⟩
  · have hasked : rs.any (·.address ≤ a) = true ↔ ∃ r ∈ rs, r.address ≤ a := by
      simp only [List.any_eq_true, decide_eq_true_eq]
    rw [covered?_of_le hlarge, ← hasked]
    split
    · rename_i h
      exact ⟨fun _ => ⟨hlarge, h⟩, fun _ => rfl⟩
    · rename_i h
      exact ⟨nofun, fun hover => absurd hover.2 h⟩

/-- **Where a search does not answer, exact sums find nothing**: `covered?` fails only for a range that
`covers` finds in no registration. -/
theorem getD_covered? (h : ∀ r ∈ rs, r.Ends) (a : Address) (n : Nat) :
    (covered? rs a n).getD false = rs.any (·.covers a n) := by
  -- Where the sum does not fit, no registration covers the bytes either.
  rcases Nat.lt_or_ge (a.toNat + n) UInt64.size with hfits | hlarge
  · rw [covered?_of_lt h hfits, Option.getD_some]
  · have hnone : rs.any (·.covers a n) = false := by
      rw [List.any_eq_false]
      intro r hr
      rw [(h r hr).covers_eq_false hlarge]
      exact Bool.false_ne_true
    rw [covered?_of_le hlarge, hnone]
    split <;> rfl

end Registration

/-! ## (3) Loads and stores -/

namespace SharedMemory

variable {m : SharedMemory} {a : Address} {n : Nat} {data : Bytes}

/-- Whether the engine may write `n` bytes at an address, by exact sums. -/
def writable (m : SharedMemory) (a : Address) (n : Nat) : Bool :=
  m.registrations.any fun r => r.use.output && r.covers a n

/-- The outputs among the registrations end before addresses do, as all of them: each of them `Ends`. -/
theorem ends_outputs (m : SharedMemory) : ∀ r ∈ m.registrations.filter (·.use.output), r.Ends :=
  fun r hr => m.ends r (List.mem_filter.mp hr).1

/-- `writable?` has no other answer than `writable` where its sums fit, and `writable` is false where they
do not. -/
theorem getD_writable? (m : SharedMemory) (a : Address) (n : Nat) :
    (m.writable? a n).getD false = m.writable a n := by
  rw [writable?, Registration.getD_covered? m.ends_outputs, writable, List.any_filter]

/-- **A load by exact sums**: where a sum does not fit, they find nothing either. -/
theorem load_exact (m : SharedMemory) (a : Address) (n : Nat) :
    m.load a n = if n = 0 then .ok []
      else if m.registrations.any (·.covers a n) then
        match m.bytesAt? a n with
        | some bytes => .ok bytes
        | none => .error Reason.invalidAddress.toError
      else .error Reason.invalidAddress.toError := by
  unfold load load?
  split
  · rfl
  · rw [← Registration.getD_covered? m.ends]
    exact Option.getD_map _ false _

/-- **A store by exact sums**: where a sum does not fit, they find nothing either. -/
theorem store_exact (m : SharedMemory) (a : Address) (data : Bytes) :
    m.store a data = if data.isEmpty then .ok m
      else if m.writable a data.length then
        match Region.ofAddress? a with
        | some region =>
          match region.position? a data.length with
          | some position => .ok (m.withArea ((m.area region).write position data) region)
          | none => .error Reason.invalidAddress.toError
        | none => .error Reason.invalidAddress.toError
      else .error Reason.invalidAddress.toError := by
  unfold store store?
  split
  · rfl
  · rw [← getD_writable?]
    exact Option.getD_map _ false _

/-- A store fails in one way: the error of `SharedMemory.store` is `invalidAddress`. -/
theorem store_error {e : EngineError} (h : m.store a data = .error e) :
    e = Reason.invalidAddress.toError := by
  rw [store_exact] at h
  split at h
  · cases h
  split at h
  · split at h
    · split at h <;> cases h
      rfl
    · cases h
      rfl
  · cases h
    rfl

/-- **A load takes a sum that does not fit** just if it is of some bytes that end behind the last address,
and there is a registration to ask. -/
theorem load?_eq_none_iff : m.load? a n = none ↔
    n ≠ 0 ∧ UInt64.size ≤ a.toNat + n ∧ ∃ r ∈ m.registrations, r.address ≤ a := by
  unfold load?
  split
  · rename_i hzero
    exact ⟨nofun, fun hover => absurd hzero hover.1⟩
  · rename_i hne
    rw [Option.map_eq_none_iff, Registration.covered?_eq_none_iff m.ends]
    exact ⟨fun hover => ⟨hne, hover⟩, And.right⟩

/-- **A store takes a sum that does not fit** just if it is of some bytes that end behind the last
address, and there is an output to ask. -/
theorem store?_eq_none_iff : m.store? a data = none ↔ data.length ≠ 0 ∧
    UInt64.size ≤ a.toNat + data.length ∧
      ∃ r ∈ m.registrations, r.use.output = true ∧ r.address ≤ a := by
  unfold store?
  split
  · rename_i hempty
    exact ⟨nofun, fun hover => absurd (congrArg List.length (List.isEmpty_iff.mp hempty)) hover.1⟩
  · -- An empty store is answered before any sum is taken.
    rename_i hne
    rw [Option.map_eq_none_iff, writable?, Registration.covered?_eq_none_iff m.ends_outputs]
    simp only [List.mem_filter, and_assoc]
    refine ⟨fun hover => ⟨fun hzero => hne ?_, hover⟩, And.right⟩
    rw [List.length_eq_zero_iff.mp hzero, List.isEmpty_nil]

/-- A load that succeeds takes no sum that does not fit, so `load?` has the outcome of `load`. -/
theorem load?_of_load {bytes : Bytes} (h : m.load a n = .ok bytes) :
    m.load? a n = some (.ok bytes) := by
  unfold load at h
  cases hload : m.load? a n with
  | none =>
    rw [hload] at h
    cases h
  | some outcome =>
    rw [hload] at h
    exact congrArg some h

/-- A store that succeeds takes no sum that does not fit, so `store?` has the outcome of `store`. -/
theorem store?_of_store {after : SharedMemory} (h : m.store a data = .ok after) :
    m.store? a data = some (.ok after) := by
  unfold store at h
  cases hstore : m.store? a data with
  | none =>
    rw [hstore] at h
    cases h
  | some outcome =>
    rw [hstore] at h
    exact congrArg some h

/-- A load that has an outcome comes to it: where `load?` answers, `load` gives the same. -/
theorem load_of_load? {outcome : Except EngineError Bytes} (h : m.load? a n = some outcome) :
    m.load a n = outcome := by
  rw [load, h, Option.getD_some]

/-- A store that has an outcome comes to it: where `store?` answers, `store` gives the same. -/
theorem store_of_store? {outcome : Except EngineError SharedMemory}
    (h : m.store? a data = some outcome) : m.store a data = outcome := by
  rw [store, h, Option.getD_some]

end SharedMemory

end SecureEngine
