import SecureEngine.Proofs.Accesses
import SecureEngine.Proofs.AddressSums

/-! # Requests that overrun

A handler touches the shared memory only where its request says so. What it adds to an address fits 64
bits, but for the three requests of the secure hardware extension that name a buffer by both words of its
address.

* **`Access.Named`** — an access is to a buffer that a request names, and not to more of it than there is.
* **`Access.Overruns`**, **`Command.Overruns`** — an access takes a sum that does not fit; a request asks
  for such an access. **`Handling.Performs.overflowed_iff`** — the engine remembers it.
* **`Handling.Makes`** — a computation makes some accesses, whatever its result.
* **`Engine.exists_accesses`** — the accesses of every handler are named, and one of them overruns just if
  the request does. -/

namespace SecureEngine

/-! ## (1) Accesses -/

namespace Access

/-- **An access takes a sum that does not fit 64 bits**, so `load?` or `store?` has no outcome. -/
def Overruns (m : SharedMemory) : Access → Prop
  | load a n _ => m.load? a n = none
  | store a data => m.store? a data = none

/-- Whether an access overruns depends on the registrations alone: neither bytes nor cursors are looked at
before the sums are taken. -/
theorem overruns_congr {m other : SharedMemory} (h : other.registrations = m.registrations)
    (access : Access) : access.Overruns other ↔ access.Overruns m := by
  cases access with
  | load a n result =>
    change other.load? a n = none ↔ m.load? a n = none
    rw [SharedMemory.load?_eq_none_iff, SharedMemory.load?_eq_none_iff, h]
  | store a data =>
    change other.store? a data = none ↔ m.store? a data = none
    rw [SharedMemory.store?_eq_none_iff, SharedMemory.store?_eq_none_iff, h]

/-- **An access is to a buffer that a request names.** A load is of the whole buffer; a store is of an
output that has its length and fits the buffer. -/
inductive Named {flavor : Flavor} (memory : SharedMemory) (c : Command) (m : c.Request flavor) :
    Access → Prop
  | load {r : BufferReference} (hr : r ∈ c.references m) :
      Named memory c m (.load r.address r.size (memory.load r.address r.size))
  | store {r : BufferReference} {data : Bytes} (hr : r ∈ c.references m) (hout : r.output = true)
      (hlength : c.outputLength? m = some data.length) (hfits : data.length ≤ r.size) :
      Named memory c m (.store r.address data)

/-- **What is granted lies in one area**: a load that is covered, or a store that is covered by an
output. -/
def Inside (m : SharedMemory) : Access → Prop
  | load a n _ => (∃ r ∈ m.registrations, r.covers a n = true) →
      ∃ (region : Region) (i : Nat), Region.ofAddress? a = some region ∧ region.position? a n = some i
  | store a data => m.writable a data.length = true →
      ∃ (region : Region) (i : Nat), Region.ofAddress? a = some region ∧
        region.position? a data.length = some i

/-- **Sums that wrap around grant nothing else** than exact ones: the `Access` has the same result with
`coversWrapping`. -/
def SafelyWraps (m : SharedMemory) : Access → Prop
  | load a n _ => m.loadBy Registration.coversWrapping a n = m.load a n
  | store a data => m.storeBy Registration.coversWrapping a data = m.store a data

/-- Where every registration lies in an area, every access is inside: what it covers has a position. -/
theorem inside_of_inArea {m : SharedMemory} (h : ∀ r ∈ m.registrations, r.InArea) (access : Access) :
    access.Inside m := by
  cases access with
  | load a n result =>
    rintro ⟨r, hr, hcovers⟩
    exact (h r hr).position?_of_covers hcovers
  | store a data =>
    intro hwritable
    obtain ⟨r, hr, hcovers⟩ := List.any_eq_true.mp hwritable
    exact (h r hr).position?_of_covers (Bool.and_eq_true_iff.mp hcovers).2

/-- Sums that wrap around are safe in every memory that a client can come to: its registrations lie in
areas. -/
theorem safelyWraps_of_reachable {m : SharedMemory} (h : m.Reachable) (access : Access) :
    access.SafelyWraps m := by
  cases access with
  | load a n result => exact h.loadBy_coversWrapping a n
  | store a data => exact h.storeBy_coversWrapping a data

end Access

/-- What keeps to the buffers of a request makes accesses to them only, each of them `Named`. -/
theorem Handling.Conducted.named {α : Type} {flavor : Flavor} {c : Command} {m : c.Request flavor}
    {machine after : Machine} {loads stores : List Access} {result : Except EngineError α}
    (h : Conducted (c.outputLength? m) (c.references m) machine loads stores result after) :
    ∀ access ∈ loads ++ stores, access.Named machine.memory c m := by
  intro access haccess
  rcases List.mem_append.mp haccess with haccess | haccess
  · obtain ⟨r, hr, rfl⟩ := h.loaded access haccess
    exact .load hr
  · -- There is one store at most, to an output of the request.
    rcases h.stored with ⟨rfl, -⟩ | ⟨r, hr, hout, data, rfl, ⟨hlength, hfits⟩, -⟩
    · exact absurd haccess List.not_mem_nil
    · obtain rfl := List.mem_singleton.mp haccess
      exact .store hr hout hlength hfits

namespace Handling.Performs

variable {α : Type} {x : Handling α} {m after : Machine} {accesses : List Access}
  {result : Except EngineError α}

/-- Handlers register nothing and drop no registration, so all accesses of a run see the same ones. -/
theorem registrations_eq (h : Performs x m accesses result after) :
    after.memory.registrations = m.memory.registrations := by
  -- By induction on the accesses: a store writes an area, and no access registers anything.
  induction h with
  | blind => rfl
  | load address n m => rw [m.memory_noting]
  | store address data m =>
    rw [run_store]
    cases hstore : m.memory.store address data with
    | error e =>
      dsimp only
      rw [m.memory_noting]
    | ok memory => exact SharedMemory.registrations_of_store hstore
  | bind_error _ ih => exact ih
  | bind_ok _ _ ihx ihf => exact ihf.trans ihx

/-- **`overflowed` tells whether an access has overrun**, in this run or before it. -/
theorem overflowed_iff (h : Performs x m accesses result after) :
    after.engine.overflowed = true ↔
      m.engine.overflowed = true ∨ ∃ access ∈ accesses, access.Overruns m.memory := by
  induction h with
  | blind _ hsums => simp [hsums]
  | load address n m =>
    rw [m.overflowed_noting, Bool.or_eq_true, Option.isNone_iff_eq_none]
    simp only [List.mem_singleton, exists_eq_left]
    exact Iff.rfl
  | store address data m =>
    simp only [List.mem_singleton, exists_eq_left]
    change _ ↔ _ ∨ m.memory.store? address data = none
    rw [run_store]
    cases hstore : m.memory.store address data with
    | error e =>
      dsimp only
      rw [m.overflowed_noting, Bool.or_eq_true, Option.isNone_iff_eq_none]
    | ok memory =>
      -- A store that succeeds has an outcome.
      rw [SharedMemory.store?_of_store hstore]
      simp
  | bind_error _ ih => exact ih
  | @bind_ok α β x f m t u first rest a result hx hf ihx ihf =>
    -- The second part sees the registrations that the first one saw.
    have hsame (access : Access) : access.Overruns t.memory ↔ access.Overruns m.memory :=
      Access.overruns_congr hx.registrations_eq access
    rw [ihf, ihx, or_assoc]
    simp only [hsame, List.mem_append, or_and_right, exists_or]

end Handling.Performs

/-! ## (2) Requests that overrun -/

/-- **A SHE buffer overruns**: it ends behind the last address, and there is a `Registration` to ask
for. -/
def SharedMemory.Overruns (m : SharedMemory) (counts : Registration → Bool) (a : Address) : Prop :=
  UInt64.size ≤ a.toNat + Engine.sheSize ∧ ∃ r ∈ m.registrations, counts r = true

/-- **A request has the engine add beyond 64 bits.** Entropy and random values are looked for if the
generator has been started and the size is theirs, the identity always; what is stored needs an
output. -/
def Command.Overruns (machine : Machine) {flavor : Flavor} : (c : Command) → c.Request flavor → Prop
  | .sheExtendSeed, m => (machine.engine.sheStarted = true ∧ m.size.toNat = Engine.sheSize) ∧
      machine.memory.Overruns (fun _ => true) (.join m.high m.low)
  | .sheRandom, m => (machine.engine.sheStarted = true ∧ m.size.toNat = Engine.sheSize) ∧
      machine.memory.Overruns (·.use.output) (.join m.high m.low)
  | .sheIdentity, m => machine.memory.Overruns (·.use.output) (.join m.high m.low)
  | _, _ => False

/-- The commands whose requests name a buffer by both words of its address: the three of SHE with an
`Address` of 64 bits. -/
def Command.namesLong : Command → Bool
  | sheExtendSeed | sheRandom | sheIdentity => true
  | _ => false

/-- Short forms name addresses of a single word: `SharedMemory.ofShort` is less than `UInt32.size`. -/
theorem SharedMemory.toNat_ofShort_lt (offset : UInt16) : (ofShort offset).toNat < UInt32.size := by
  have hend := Region.secure.end_lt
  have hoffset : offset.toNat < areaSize := offset.toNat_lt
  rw [toNat_ofShort]
  omega

/-- **Buffers that are named otherwise end before addresses do**: one word is enough for their address,
and one for their size. -/
theorem Command.end_lt {flavor : Flavor} {c : Command} (hc : c.namesLong = false)
    (m : c.Request flavor) : ∀ r ∈ c.references m, r.address.toNat + r.size < UInt64.size := by
  have hword (w : UInt32) : w.toNat < UInt32.size := w.toNat_lt
  have hhalf (w : UInt16) : w.toNat < UInt32.size := Nat.lt_trans w.toNat_lt (by decide)
  have hbyte (b : UInt8) : b.toNat < UInt32.size := Nat.lt_trans b.toNat_lt (by decide)
  have hshort := SharedMemory.toNat_ofShort_lt
  have hshe : Engine.sheSize < UInt32.size := by decide
  -- A short address and a size are both below `2 ^ 32`, so their sum is far below `2 ^ 64`.
  have hwords : ∀ r ∈ c.references m, r.address.toNat < UInt32.size ∧ r.size < UInt32.size := by
    cases c with
    | sheExtendSeed | sheRandom | sheIdentity => cases hc
    | sign => cases flavor <;> simp [hword, hhalf]
    | _ => simp [hword, hhalf, hbyte, hshort, hshe]
  intro r hr
  obtain ⟨haddress, hsize⟩ := hwords r hr
  have hdouble : UInt32.size + UInt32.size ≤ UInt64.size := by decide
  omega

namespace Access

variable {m : SharedMemory}

/-- An access to a buffer that is not `Named` by both words of its address does not overrun. -/
theorem Named.not_overruns {flavor : Flavor} {c : Command} {request : c.Request flavor}
    {access : Access} (hnamed : access.Named m c request) (hc : c.namesLong = false) :
    ¬access.Overruns m := by
  intro hoverruns
  -- A store writes no more than the size of its reference.
  cases hnamed with
  | load hr =>
    obtain ⟨-, hlarge, -⟩ := SharedMemory.load?_eq_none_iff.mp hoverruns
    exact absurd (Command.end_lt hc request _ hr) (Nat.not_lt.mpr hlarge)
  | store hr _ _ hfits =>
    obtain ⟨-, hlarge, -⟩ := SharedMemory.store?_eq_none_iff.mp hoverruns
    have hend := Command.end_lt hc request _ hr
    omega

variable (h : ∀ r ∈ m.registrations, r.InArea)

include h

/-- A buffer that ends behind the last address begins behind every `Registration`, as those lie in the two
areas. -/
theorem address_le_of_large {a : Address} (hlarge : UInt64.size ≤ a.toNat + Engine.sheSize) :
    ∀ r ∈ m.registrations, r.address ≤ a := by
  intro r hr
  have hlow := (h r hr).address_lt
  have hsizes : UInt32.size + Engine.sheSize ≤ UInt64.size := by decide
  rw [UInt64.le_iff_toNat_le]
  omega

/-- A load of sixteen bytes overruns just as `SharedMemory.Overruns` tells for any use. -/
theorem overruns_sheLoad_iff {a : Address} {result : Except EngineError Bytes} :
    (load a Engine.sheSize result).Overruns m ↔ m.Overruns (fun _ => true) a := by
  change m.load? a Engine.sheSize = none ↔ _
  rw [SharedMemory.load?_eq_none_iff]
  constructor
  · rintro ⟨-, hlarge, r, hr, -⟩
    exact ⟨hlarge, r, hr, rfl⟩
  · rintro ⟨hlarge, r, hr, -⟩
    exact ⟨by decide, hlarge, r, hr, address_le_of_large h hlarge r hr⟩

/-- A store of sixteen bytes overruns just as `SharedMemory.Overruns` tells for outputs. -/
theorem overruns_sheStore_iff {a : Address} {data : Bytes} (hlength : data.length = Engine.sheSize) :
    (store a data).Overruns m ↔ m.Overruns (·.use.output) a := by
  change m.store? a data = none ↔ _
  rw [SharedMemory.store?_eq_none_iff, hlength]
  constructor
  · rintro ⟨-, hlarge, r, hr, hout, -⟩
    exact ⟨hlarge, r, hr, hout⟩
  · rintro ⟨hlarge, r, hr, hout⟩
    exact ⟨by decide, hlarge, r, hr, hout, address_le_of_large h hlarge r hr⟩

end Access

/-- Only requests that name a buffer by both words of its address overrun: what `Overruns` is one of
`namesLong`. -/
theorem Command.namesLong_of_overruns {machine : Machine} {flavor : Flavor} {c : Command}
    {m : c.Request flavor} (h : c.Overruns machine m) : c.namesLong = true := by
  cases c with
  | sheExtendSeed | sheRandom | sheIdentity => rfl
  | _ => exact h.elim

/-! ## (3) The accesses of handlers -/

namespace Handling

variable {α β : Type}

/-- **A computation makes some accesses**, whatever its result: `Performs` lists just these, in their
order. -/
def Makes (x : Handling α) (machine : Machine) (accesses : List Access) : Prop :=
  ∃ result after, Performs x machine accesses result after

variable {machine : Machine} {accesses : List Access}

/-- A computation that does the same whatever the memory holds makes no access, so `Makes` has the empty
list. -/
theorem makes_nil {x : Handling α} {result : Except EngineError α} {engine : Engine}
    (hx : ∀ memory, x.run ⟨machine.engine, memory⟩ = (result, ⟨engine, memory⟩))
    (hsums : engine.overflowed = machine.engine.overflowed) : Makes x machine [] :=
  ⟨_, _, .blind hx hsums machine.memory⟩

/-- Loading with `load` makes the one access that it is. -/
theorem makes_load (a : Address) (n : Nat) (machine : Machine) :
    Makes (load a n) machine [.load a n (machine.memory.load a n)] :=
  ⟨_, _, .load a n machine⟩

/-- Storing with `store` makes the one access that it is, whether it succeeds or not. -/
theorem makes_store (a : Address) (data : Bytes) (machine : Machine) :
    Makes (store a data) machine [.store a data] :=
  ⟨_, _, .store a data machine⟩

/-- What follows a part that succeeds whatever the memory holds makes all the accesses. -/
theorem Makes.blind_bind {x : Handling α} {f : α → Handling β} {a : α} {engine : Engine}
    (hx : ∀ memory, x.run ⟨machine.engine, memory⟩ = (.ok a, ⟨engine, memory⟩))
    (hsums : engine.overflowed = machine.engine.overflowed)
    (hf : Makes (f a) ⟨engine, machine.memory⟩ accesses) : Makes (x >>= f) machine accesses := by
  obtain ⟨result, after, hperforms⟩ := hf
  have hbind := Performs.bind_ok (.blind hx hsums machine.memory) hperforms
  exact ⟨result, after, hbind⟩

/-- After a part that fails whatever the memory holds, no access is made: `Makes` has the empty list for
the whole. -/
theorem makes_bind_error {x : Handling α} {f : α → Handling β} {e : EngineError} {engine : Engine}
    (hx : ∀ memory, x.run ⟨machine.engine, memory⟩ = (.error e, ⟨engine, memory⟩))
    (hsums : engine.overflowed = machine.engine.overflowed) : Makes (x >>= f) machine [] :=
  ⟨_, _, .bind_error (.blind hx hsums machine.memory)⟩

/-- A computation may go on without an access, and those before it are all there are. -/
theorem Makes.bind_blind {x : Handling α} {f : α → Handling β} (hx : Makes x machine accesses)
    (hf : ∀ a engine, ∃ result after,
      (∀ memory, (f a).run ⟨engine, memory⟩ = (result, ⟨after, memory⟩)) ∧
        after.overflowed = engine.overflowed) :
    Makes (x >>= f) machine accesses := by
  obtain ⟨result, after, hperforms⟩ := hx
  -- What comes after `x` makes no access, whether it is reached or not.
  cases result with
  | error e => exact ⟨_, _, .bind_error hperforms⟩
  | ok a =>
    obtain ⟨result, engine, hrun, hsums⟩ := hf a after.engine
    have hbind := Performs.bind_ok hperforms (.blind hrun hsums after.memory)
    rw [List.append_nil] at hbind
    exact ⟨_, _, hbind⟩

end Handling

namespace Engine

open Handling

/-- Drawing into a buffer makes the access of storing there, by `drawInto_eq`. -/
theorem makes_drawInto (a : Address) (n : Nat) (machine : Machine) :
    Makes (drawInto a n) machine [.store a (machine.engine.generator.bytes n)] := by
  have hdraw (memory : SharedMemory) : (modifyEngine fun now =>
      { now with generator := machine.engine.generator.advance n }).run ⟨machine.engine, memory⟩ =
      (.ok (), ⟨{ machine.engine with generator := machine.engine.generator.advance n }, memory⟩) := rfl
  rw [drawInto_eq]
  refine .blind_bind (fun _ => rfl) rfl ?_
  exact .blind_bind hdraw rfl (makes_store a _ _)

/-- **Requests for the generator** get to their access if it has been started and their size is right;
otherwise they are refused before it. -/
theorem makes_started {α : Type} {f : Unit → Handling α} {size : Nat} {machine : Machine}
    {accesses : List Access} (hf : Makes (f ()) machine accesses) :
    Makes (checkStarted >>= fun _ => demand (size == sheSize) .invalidParam >>= f) machine
      (if machine.engine.sheStarted = true ∧ size = sheSize then accesses else []) := by
  have hchecked (memory : SharedMemory) : checkStarted.run ⟨machine.engine, memory⟩ =
      (demand machine.engine.sheStarted .rngNotStarted).run ⟨machine.engine, memory⟩ := rfl
  -- Both checks come before the first access, so a request that fails one makes none.
  by_cases hstarted : machine.engine.sheStarted = true
  · rw [hstarted] at hchecked
    apply Makes.blind_bind hchecked rfl
    by_cases hsize : size = sheSize
    · rw [if_pos ⟨hstarted, hsize⟩, beq_iff_eq.mpr hsize]
      exact hf
    · rw [if_neg fun h => hsize h.2, beq_eq_false_iff_ne.mpr hsize]
      exact makes_bind_error (fun _ => rfl) rfl
  · rw [if_neg fun h => hstarted h.1]
    rw [Bool.not_eq_true] at hstarted
    rw [hstarted] at hchecked
    exact makes_bind_error hchecked rfl

/-- **The access of a request that extends the seed**: a load of sixteen bytes, once the generator of SHE
is running. -/
theorem makes_sheExtendSeed (m : Wire.SplitBuffer) (machine : Machine) :
    Makes (sheExtendSeed m) machine
      (if machine.engine.sheStarted = true ∧ m.size.toNat = sheSize then
        [.load (.join m.high m.low) sheSize (machine.memory.load (.join m.high m.low) sheSize)]
      else []) := by
  apply makes_started
  apply (makes_load _ _ _).bind_blind
  intro entropy engine
  exact ⟨.ok (), { engine with generator := reseeded (engine.generator.bytes 32) entropy },
    fun _ => rfl, rfl⟩

/-- **The access of a request for a random value**: a store of sixteen bytes, once the generator of SHE is
running. -/
theorem makes_sheRandom (m : Wire.SplitBuffer) (machine : Machine) :
    Makes (sheRandom m) machine (if machine.engine.sheStarted = true ∧ m.size.toNat = sheSize then
      [.store (.join m.high m.low) (machine.engine.generator.bytes sheSize)] else []) := by
  apply makes_started
  exact makes_drawInto _ _ machine

/-- **The access of a request for the identity**: a store of sixteen bytes, always. -/
theorem makes_sheIdentity (m : Wire.SheIdentity) (machine : Machine) :
    ∃ data : Bytes, data.length = sheSize ∧
      Makes (sheIdentity m) machine [.store (.join m.high m.low) data] := by
  refine ⟨_, ?_, .blind_bind (fun _ => rfl) rfl (.bind_blind (makes_store _ _ _) fun _ engine => ?_)⟩
  · split
    · exact length_sheMac _ _
    · exact Bytes.length_blank _
  · exact ⟨_, engine, fun _ => rfl, rfl⟩

/-- **Every handler makes accesses to the buffers of its request**, and one of them overruns just if the
request does. -/
theorem exists_accesses {flavor : Flavor} (c : Command) (m : c.Request flavor) {machine : Machine}
    (h : ∀ r ∈ machine.memory.registrations, r.InArea) :
    ∃ accesses, Makes (handle flavor c m) machine accesses ∧
      (∀ access ∈ accesses, access.Named machine.memory c m) ∧
      ((∃ access ∈ accesses, access.Overruns machine.memory) ↔ c.Overruns machine m) := by
  cases hlong : c.namesLong with
  | false =>
    -- Neither the accesses nor the request overrun.
    obtain ⟨loads, stores, result, after, hperforms, hconducted⟩ := conducts_handle c m machine
    refine ⟨loads ++ stores, ⟨result, after, hperforms⟩, hconducted.named, ?_, fun hoverruns => ?_⟩
    · rintro ⟨access, haccess, hoverruns⟩
      exact absurd hoverruns ((hconducted.named access haccess).not_overruns hlong)
    · rw [Command.namesLong_of_overruns hoverruns] at hlong
      cases hlong
  | true =>
    -- The three requests have one access at most, and it is known which.
    cases c with
    | sheExtendSeed =>
      refine ⟨_, makes_sheExtendSeed m machine, fun access haccess => ?_, ?_⟩
      · rw [List.mem_ite_nil_right, List.mem_singleton] at haccess
        obtain ⟨hready, rfl⟩ := haccess
        rw [← hready.2]
        exact .load (r := ⟨.join m.high m.low, m.size.toNat, false⟩) (.head _)
      · simp only [List.mem_ite_nil_right, List.mem_singleton]
        constructor
        · rintro ⟨access, ⟨hready, rfl⟩, hoverruns⟩
          exact ⟨hready, (Access.overruns_sheLoad_iff h).mp hoverruns⟩
        · rintro ⟨hready, hoverruns⟩
          exact ⟨_, ⟨hready, rfl⟩, (Access.overruns_sheLoad_iff h).mpr hoverruns⟩
    | sheRandom =>
      have hlength := machine.engine.generator.length_bytes sheSize
      refine ⟨_, makes_sheRandom m machine, fun access haccess => ?_, ?_⟩
      · rw [List.mem_ite_nil_right, List.mem_singleton] at haccess
        obtain ⟨hready, rfl⟩ := haccess
        exact .store (r := ⟨.join m.high m.low, m.size.toNat, true⟩) (.head _) rfl
          (congrArg some hlength.symm) (Nat.le_of_eq (hlength.trans hready.2.symm))
      · simp only [List.mem_ite_nil_right, List.mem_singleton]
        constructor
        · rintro ⟨access, ⟨hready, rfl⟩, hoverruns⟩
          exact ⟨hready, (Access.overruns_sheStore_iff h hlength).mp hoverruns⟩
        · rintro ⟨hready, hoverruns⟩
          exact ⟨_, ⟨hready, rfl⟩, (Access.overruns_sheStore_iff h hlength).mpr hoverruns⟩
    | sheIdentity =>
      obtain ⟨data, hlength, hmakes⟩ := makes_sheIdentity m machine
      refine ⟨_, hmakes, fun access haccess => ?_, ?_⟩
      · obtain rfl := List.mem_singleton.mp haccess
        exact .store (r := ⟨.join m.high m.low, sheSize, true⟩) (.head _) rfl
          (congrArg some hlength.symm) (Nat.le_of_eq hlength)
      · simp only [List.mem_singleton, exists_eq_left, Access.overruns_sheStore_iff h hlength]
        exact Iff.rfl
    | _ => cases hlong

end Engine

end SecureEngine
