import SecureEngine.Proofs.Handlers
import SecureEngine.Proofs.OutputLengths
import SecureEngine.Proofs.PreparedRequests

/-! # What handlers do with the memory of a client

* **`Access`**, **`Handling.Performs`** — a run of a handler, with the loads and stores it makes in the
  shared memory; whatever else it does neither depends on the memory nor changes it.
* **`Handling.Conducts`** — a computation loads buffers that a request names, in full, then stores at
  most once, where the request has its output and as much as that has.
* **`Engine.conducts_handle`** — so does every handler, and it never complains about messages. -/

namespace SecureEngine

/-- **An access to the memory of a client**: a `load` with its result, or a `store` with what is stored.
Neither says more than the engine could tell. -/
inductive Access
  | load (address : Address) (n : Nat) (result : Except EngineError Bytes)
  | store (address : Address) (data : Bytes)

/-! ## (1) Machines that note their sums -/

namespace Machine

variable (m : Machine) (overflows : Bool)

/-- `Machine.noting` leaves the shared memory as it is: only the engine remembers that a sum did not
fit. -/
@[simp] theorem memory_noting : (m.noting overflows).memory = m.memory := by
  cases overflows <;> rfl

/-- `Machine.noting` does not touch the object table, so every handle names what it named. -/
@[simp] theorem objects_noting : (m.noting overflows).engine.objects = m.engine.objects := by
  cases overflows <;> rfl

/-- `Machine.noting` does not touch the key stores either. -/
@[simp] theorem keyStores_noting :
    (m.noting overflows).engine.keyStores = m.engine.keyStores := by
  cases overflows <;> rfl

/-- The settings of an engine are those it was started with, whatever `Machine.noting` notes. -/
@[simp] theorem settings_noting :
    (m.noting overflows).engine.settings = m.engine.settings := by
  cases overflows <;> rfl

/-- Whether the random number generator of SHE is running does not depend on what `Machine.noting`
notes. -/
@[simp] theorem sheStarted_noting :
    (m.noting overflows).engine.sheStarted = m.engine.sheStarted := by
  cases overflows <;> rfl

/-- `overflowed` is set by `noting` and never taken back. -/
theorem overflowed_noting :
    (m.noting overflows).engine.overflowed = (m.engine.overflowed || overflows) := by
  cases overflows with
  | true => exact (Bool.or_true _).symm
  | false => exact (Bool.or_false _).symm

end Machine

namespace Handling

open Engine

variable {α β : Type}

/-! ## (2) Runs with their accesses -/

/-- **A run of a computation with its accesses**, its result and the machine afterwards. Whatever happens
between the accesses is `blind`. -/
inductive Performs : {α : Type} → Handling α → Machine → List Access → Except EngineError α →
    Machine → Prop
  /-- A part that does the same to the engine whatever the memory holds, and takes no sums. -/
  | blind {α : Type} {x : Handling α} {engine after : Engine} {result : Except EngineError α}
      (h : ∀ memory, x.run ⟨engine, memory⟩ = (result, ⟨after, memory⟩))
      (hsums : after.overflowed = engine.overflowed) (memory : SharedMemory) :
      Performs x ⟨engine, memory⟩ [] result ⟨after, memory⟩
  | load (address : Address) (n : Nat) (m : Machine) :
      Performs (load address n) m [.load address n (m.memory.load address n)]
        (m.memory.load address n) (m.noting (m.memory.load? address n).isNone)
  | store (address : Address) (data : Bytes) (m : Machine) :
      Performs (store address data) m [.store address data] ((store address data).run m).1
        ((store address data).run m).2
  | bind_error {α β : Type} {x : Handling α} {f : α → Handling β} {m t : Machine}
      {first : List Access} {e : EngineError} (hx : Performs x m first (.error e) t) :
      Performs (x >>= f) m first (.error e) t
  | bind_ok {α β : Type} {x : Handling α} {f : α → Handling β} {m t u : Machine}
      {first rest : List Access} {a : α} {result : Except EngineError β}
      (hx : Performs x m first (.ok a) t) (hf : Performs (f a) t rest result u) :
      Performs (x >>= f) m (first ++ rest) result u

/-- What `known` hands on is what was there: a computation goes on after it only with the value of the
option. -/
theorem eq_some_of_run_known {α : Type} {a : Option α} {r : Reason} {m after : Machine} {b : α}
    (h : (known a r).run m = (.ok b, after)) : a = some b := by
  cases a with
  | none => cases h
  | some a =>
    cases h
    rfl

/-- Loading tells what `SharedMemory.load` comes to, and leaves the machine alone but for `Engine.overflow`
where a sum does not fit. -/
theorem run_load (address : Address) (n : Nat) (m : Machine) :
    (load address n).run m =
      (m.memory.load address n, m.noting (m.memory.load? address n).isNone) := by
  rw [load, run_bind_ok (run_get m), SharedMemory.load]
  cases m.memory.load? address n <;> rfl

/-- Storing replaces the memory by what `SharedMemory.store` comes to, if it succeeds; otherwise the machine
is left alone but for `Engine.overflow` where a sum does not fit. -/
theorem run_store (address : Address) (data : Bytes) (m : Machine) :
    (store address data).run m = match m.memory.store address data with
      | .ok memory => (.ok (), { m with memory })
      | .error e => (.error e, m.noting (m.memory.store? address data).isNone) := by
  rw [store, run_bind_ok (run_get m), SharedMemory.store]
  cases hstore : m.memory.store? address data with
  | none => rfl
  | some outcome => cases outcome <;> rfl

/-- A `load` that succeeds leaves the machine alone: all its sums fit. -/
theorem run_load_ok {address : Address} {n : Nat} {m : Machine} {bytes : Bytes}
    (h : m.memory.load address n = .ok bytes) : (load address n).run m = (.ok bytes, m) := by
  rw [run_load, SharedMemory.load?_of_load h, h]
  rfl

/-- A `store` that succeeds leaves the engine alone, so that only the memory of the machine is a new
one. -/
theorem run_store_ok {address : Address} {data : Bytes} {m : Machine} {after : SharedMemory}
    (h : m.memory.store address data = .ok after) :
    (store address data).run m = (.ok (), { m with memory := after }) := by
  rw [run_store, h]

/-- **A run with its accesses is the run**: `Performs` determines the result and the machine
afterwards. -/
theorem Performs.run_eq {x : Handling α} {m after : Machine} {accesses : List Access}
    {result : Except EngineError α} (h : Performs x m accesses result after) :
    x.run m = (result, after) := by
  induction h with
  | blind h _ memory => exact h memory
  | load address n m => exact run_load address n m
  | store => rfl
  | bind_error _ ih => exact run_bind_error ih
  | bind_ok _ _ ihx ihf => rw [run_bind_ok ihx, ihf]

/-! ## (3) Conduct -/

/-- **A run has kept to the buffers of a request**: it loads buffers among its `references`, then stores
at most once, an output of the given length where that fits; a failure is not about messages. -/
structure Conducted (length : Option Nat) (references : List BufferReference) (m : Machine)
    (loads stores : List Access) (result : Except EngineError α) (after : Machine) : Prop where
  loaded : ∀ access ∈ loads, ∃ r ∈ references,
    access = .load r.address r.size (m.memory.load r.address r.size)
  stored : (stores = [] ∧ after.memory = m.memory) ∨
    ∃ r ∈ references, r.output = true ∧ ∃ data, stores = [.store r.address data] ∧
      (length = some data.length ∧ data.length ≤ r.size) ∧
      ∀ a, result = .ok a → m.memory.store r.address data = .ok after.memory
  failed : Raises (·.isFraming = false) result

/-- **A computation keeps to the buffers of a request**, whatever machine it starts with: its run is
`Conducted`, and stores only if there is an output. -/
def Conducts (length : Option Nat) (references : List BufferReference) (x : Handling α) : Prop :=
  ∀ m, ∃ loads stores result after, Performs x m (loads ++ stores) result after ∧
    Conducted length references m loads stores result after

variable {length : Option Nat} {references : List BufferReference}

/-- A computation that does not look at the memory keeps to any buffers: `Performs.blind` is its run,
without a single access. -/
theorem conducts_blind {x : Handling α} (h : ∀ engine, ∃ result after,
      (∀ memory, x.run ⟨engine, memory⟩ = (result, ⟨after, memory⟩)) ∧
        after.overflowed = engine.overflowed ∧ Raises (·.isFraming = false) result) :
    Conducts length references x := by
  intro m
  obtain ⟨result, after, hrun, hsums, hfailed⟩ := h m.engine
  exact ⟨[], [], result, ⟨after, m.memory⟩, .blind hrun hsums m.memory, nofun, Or.inl ⟨rfl, rfl⟩,
    hfailed⟩

/-- A value that is just returned with `pure` keeps to any buffers. -/
theorem conducts_pure (a : α) : Conducts length references (pure a) :=
  conducts_blind fun engine => ⟨.ok a, engine, fun _ => rfl, rfl, raises_ok a⟩

/-- A look-up taken into a handler by `lift` keeps to any buffers, if it does not complain about
messages. -/
theorem conducts_lift {r : Except EngineError α} (h : Raises (·.isFraming = false) r) :
    Conducts length references (lift r) :=
  conducts_blind fun engine => ⟨r, engine, fun _ => rfl, rfl, h⟩

/-- Reading the `engine` is no access to the memory of a client. -/
theorem conducts_engine : Conducts length references engine :=
  conducts_blind fun engine => ⟨.ok engine, engine, fun _ => rfl, rfl, raises_ok engine⟩

/-- `modifyEngine` does not look at the memory. Handlers use it for anything but `Engine.overflowed`. -/
theorem conducts_modifyEngine (f : Engine → Engine) (h : ∀ e, (f e).overflowed = e.overflowed) :
    Conducts length references (modifyEngine f) :=
  conducts_blind fun engine => ⟨.ok (), f engine, fun _ => rfl, h engine, raises_ok ()⟩

/-- A `fail` keeps to any buffers, unless its reason is one about messages. -/
theorem conducts_fail {r : Reason} (h : r.isFraming = false) :
    Conducts length references (fail r : Handling α) :=
  conducts_lift (raises_error h)

/-- A `demand` keeps to any buffers, whether it is met or not. -/
theorem conducts_check (condition : Bool) {r : Reason} (h : r.isFraming = false) :
    Conducts length references (demand condition r) := by
  unfold demand
  split
  · exact conducts_pure ()
  · exact conducts_fail h

/-- A `known` keeps to any buffers, whether there is a value or not. -/
theorem conducts_known {a : Option α} {r : Reason} (h : r.isFraming = false) :
    Conducts length references (known a r) := by
  cases a with
  | some a => exact conducts_pure a
  | none => exact conducts_fail h

/-- What follows a `known` may rely on the value having been there, and is the only part that accesses
buffers. -/
theorem conducts_known_bind {a : Option α} {r : Reason} {f : α → Handling β} (h : r.isFraming = false)
    (hf : ∀ b, a = some b → Conducts length references (f b)) :
    Conducts length references (known a r >>= f) := by
  cases a with
  | some b => exact hf b rfl
  | none =>
    exact conducts_blind fun engine => ⟨.error r.toError, engine, fun _ => rfl, rfl, raises_error h⟩

/-- A `load` of a buffer that the request names, from its address and in its full length, keeps to the
buffers. -/
theorem conducts_load {address : Address} {n : Nat} {output : Bool}
    (h : ⟨address, n, output⟩ ∈ references) : Conducts length references (load address n) := by
  refine fun m => ⟨[_], [], _, _, .load address n m, ?_, Or.inl ⟨rfl, m.memory_noting _⟩,
    (raises_load m.memory address n).unframed⟩
  intro access haccess
  exact ⟨_, h, List.mem_singleton.mp haccess⟩

/-- **What is done before a store may load, and no more**: `none` is the length it may store. What follows
knows of its result. -/
theorem conducts_bind_of {x : Handling α} {f : α → Handling β} {p : α → Prop}
    (hx : Conducts none references x) (hp : ∀ m a, (x.run m).1 = .ok a → p a)
    (hf : ∀ a, p a → Conducts length references (f a)) : Conducts length references (x >>= f) := by
  intro m
  obtain ⟨first, stores, result, t, hperforms, hconducted⟩ := hx m
  obtain ⟨rfl, hmemory⟩ : stores = [] ∧ t.memory = m.memory := by
    rcases hconducted.stored with h | ⟨r, -, -, data, -, ⟨hlength, -⟩, -⟩
    · exact h
    · cases hlength
  rw [List.append_nil] at hperforms
  cases result with
  | error e =>
    refine ⟨first, [], .error e, t, ?_, hconducted.loaded, Or.inl ⟨rfl, hmemory⟩,
      fun e' he => hconducted.failed e' (by cases he; rfl)⟩
    rw [List.append_nil]
    exact .bind_error hperforms
  | ok a =>
    have ha : p a := hp m a (congrArg Prod.fst hperforms.run_eq)
    obtain ⟨rest, stores, result, u, hrest, hconducted'⟩ := hf a ha t
    -- The memory is still that of the beginning.
    rcases t with ⟨engine, memory⟩
    obtain rfl : memory = m.memory := hmemory
    refine ⟨first ++ rest, stores, result, u, ?_, ?_, hconducted'.stored, hconducted'.failed⟩
    · rw [List.append_assoc]
      exact .bind_ok hperforms hrest
    · intro access haccess
      rcases List.mem_append.mp haccess with h | h
      · exact hconducted.loaded access h
      · exact hconducted'.loaded access h

/-- Two computations in a row keep to the buffers of a request if the first one does not store:
`conducts_bind_of` without a word on the result. -/
theorem conducts_bind {x : Handling α} {f : α → Handling β} (hx : Conducts none references x)
    (hf : ∀ a, Conducts length references (f a)) : Conducts length references (x >>= f) :=
  conducts_bind_of (p := fun _ => True) hx (fun _ _ _ => trivial) fun a _ => hf a

/-- What follows a look-up taken in by `lift` may rely on its having succeeded. -/
theorem conducts_lift_bind {r : Except EngineError α} {f : α → Handling β}
    (h : Raises (·.isFraming = false) r) (hf : ∀ a, r = .ok a → Conducts length references (f a)) :
    Conducts length references (lift r >>= f) :=
  conducts_bind_of (conducts_lift h) (fun _ _ ha => ha) hf

/-- What follows a `load` knows how many bytes it has brought. -/
theorem conducts_load_bind {address : Address} {n : Nat} {output : Bool} {f : Bytes → Handling β}
    (h : ⟨address, n, output⟩ ∈ references)
    (hf : ∀ data, data.length = n → Conducts length references (f data)) :
    Conducts length references (load address n >>= f) := by
  refine conducts_bind_of (conducts_load h) (fun m data hdata => ?_) hf
  rw [run_load] at hdata
  exact SharedMemory.length_of_load hdata

/-- What follows a `demand` may rely on the condition. -/
theorem conducts_demand {condition : Bool} {r : Reason} {f : Unit → Handling β}
    (h : r.isFraming = false) (hf : condition = true → Conducts length references (f ())) :
    Conducts length references (demand condition r >>= f) := by
  cases condition with
  | true => exact hf rfl
  | false =>
    exact conducts_blind fun engine => ⟨.error r.toError, engine, fun _ => rfl, rfl, raises_error h⟩

/-- **The store of an output** keeps to the buffers of a request if its `k` bytes fit the `n` bytes of an
output buffer there. -/
theorem conducts_store {address : Address} {n k : Nat} {data : Bytes}
    (h : ⟨address, n, true⟩ ∈ references) (hk : data.length = k) (hn : k ≤ n) :
    Conducts (some k) references (store address data) := by
  subst hk
  intro m
  have hperforms := Performs.store address data m
  rw [run_store] at hperforms
  -- A store that fails is one of the stores all the same: it names its reference, and writes nothing.
  cases hstore : m.memory.store address data with
  | error e =>
    rw [hstore] at hperforms
    exact ⟨[], _, _, _, hperforms, nofun, Or.inr ⟨_, h, rfl, data, rfl, ⟨rfl, hn⟩, nofun⟩,
      fun e' he => (raises_store m.memory address data).unframed e' (hstore.trans (by cases he; rfl))⟩
  | ok memory =>
    rw [hstore] at hperforms
    exact ⟨[], _, _, _, hperforms, nofun,
      Or.inr ⟨_, h, rfl, data, rfl, ⟨rfl, hn⟩, fun _ _ => hstore⟩, raises_ok ()⟩

/-- A result may be made of what was computed. Unlike in `conducts_bind`, the computation may have stored
already. -/
theorem conducts_bind_pure {x : Handling α} (g : α → β) (h : Conducts length references x) :
    Conducts length references (x >>= fun a => pure (g a)) := by
  intro m
  -- Nothing is accessed after `x`; only what is returned changes.
  obtain ⟨loads, stores, result, t, hperforms, hconducted⟩ := h m
  cases result with
  | error e =>
    refine ⟨loads, stores, .error e, t, .bind_error hperforms, hconducted.loaded, ?_,
      fun e' he => hconducted.failed e' (by cases he; rfl)⟩
    exact hconducted.stored.imp id fun ⟨r, hr, hout, data, hs, hfits, _⟩ =>
      ⟨r, hr, hout, data, hs, hfits, nofun⟩
  | ok a =>
    refine ⟨loads, stores, .ok (g a), t, ?_, hconducted.loaded, ?_, raises_ok (g a)⟩
    · rw [← List.append_nil (loads ++ stores)]
      exact .bind_ok hperforms (.blind (fun _ => rfl) rfl t.memory)
    · exact hconducted.stored.imp id fun ⟨r, hr, hout, data, hs, hfits, hstore⟩ =>
        ⟨r, hr, hout, data, hs, hfits, fun _ _ => hstore a rfl⟩

end Handling

/-! ## (4) Look-ups -/

namespace Engine

open Handling

variable {length : Option Nat} {references : List BufferReference}

/-- `Engine.checkSession` never fails with an error about messages. -/
theorem unframed_checkSession (engine : Engine) (handle : UInt32) :
    Raises (·.isFraming = false) (engine.checkSession handle) := by
  unfold checkSession
  split
  · exact raises_ok ()
  · exact raises_error rfl

/-- `Engine.keyStoreAt` never fails with an error about messages. -/
theorem unframed_keyStoreAt (engine : Engine) (handle : UInt32) :
    Raises (·.isFraming = false) (engine.keyStoreAt handle) := by
  unfold keyStoreAt
  split
  · exact raises_ok _
  · exact raises_error rfl

/-- `Engine.serviceParent` never fails with an error about messages, whether the handle or its kind is
wrong. -/
theorem unframed_serviceParent (engine : Engine) (handle : UInt32) (kind : Service) :
    Raises (·.isFraming = false) (engine.serviceParent handle kind) := by
  unfold serviceParent
  split
  · split
    · exact raises_ok _
    · exact raises_error rfl
  · exact raises_error rfl

/-- `Engine.serviceStore` never fails with an error about messages: the failures are those of
`serviceParent`, of `keyStoreAt`, and of a store that is gone. -/
theorem unframed_serviceStore (engine : Engine) (handle : UInt32) (kind : Service) :
    Raises (·.isFraming = false) (engine.serviceStore handle kind) := by
  unfold serviceStore
  refine raises_bind (unframed_serviceParent engine handle kind) fun parent _ => ?_
  refine raises_bind (unframed_keyStoreAt engine parent) fun identifier _ => ?_
  split
  · exact raises_ok _
  · exact raises_error rfl

/-- `Engine.allocate` never fails with an error about messages, when the table is full as little as when
handles run out. -/
theorem unframed_allocate (engine : Engine) (object : EngineObject) :
    Raises (·.isFraming = false) (engine.allocate object) := by
  unfold allocate
  split
  · exact raises_error rfl
  split
  · exact raises_ok _
  · exact raises_error rfl

/-! ## (5) Handlers -/

/-- Recording an object with `record` has nothing to do with the memory: it allocates a handle or fails,
whatever the memory holds. -/
theorem conducts_record (object : EngineObject) : Conducts length references (record object) := by
  refine conducts_blind fun engine => ?_
  have hraises := unframed_allocate engine object
  cases hallocate : engine.allocate object with
  | error e =>
    refine ⟨.error e, engine, fun memory => ?_, rfl, fun e' he => hraises e' ?_⟩
    · rw [run_record, hallocate]
    · cases he
      exact hallocate
  | ok allocated =>
    obtain ⟨handle, after⟩ := allocated
    obtain ⟨-, -, rfl⟩ := allocate_ok hallocate
    refine ⟨.ok handle, { engine with objects := engine.objects.insert handle object },
      fun memory => ?_, rfl, raises_ok handle⟩
    rw [run_record, hallocate]

/-- The random bytes of `draw` come out of the generator of the engine, without an access to the
memory. -/
theorem conducts_draw (n : Nat) : Conducts length references (draw n) := by
  refine conducts_bind conducts_engine fun e => ?_
  exact conducts_bind (conducts_modifyEngine _ fun _ => rfl) fun _ => conducts_pure _

/-- **Drawing into a buffer with `drawInto` is drawing and storing**: the store refuses the same buffers,
and takes the same sums. -/
theorem drawInto_eq (address : Address) (n : Nat) :
    drawInto address n = (Handling.engine >>= fun e =>
      modifyEngine (fun now => { now with generator := e.generator.advance n }) >>= fun _ =>
        Handling.store address (e.generator.bytes n)) := by
  funext m
  let t : Machine :=
    { m with engine := { m.engine with generator := m.engine.generator.advance n } }
  have hrun : (drawInto address n).run m =
      (checked (if n = 0 then some true else t.memory.writable? address n) >>= fun writable =>
        demand writable .invalidAddress >>= fun _ =>
          store address (m.engine.generator.bytes n)).run t := rfl
  have hlength := m.engine.generator.length_bytes n
  change (drawInto address n).run m = (store address (m.engine.generator.bytes n)).run t
  rw [hrun]
  by_cases hzero : n = 0
  · rw [if_pos hzero]
    rfl
  · have hsome : ¬(m.engine.generator.bytes n).isEmpty = true := by
      intro hempty
      rw [List.isEmpty_iff.mp hempty] at hlength
      exact hzero hlength.symm
    rw [if_neg hzero]
    -- The store takes the same sums and comes to the same answer.
    cases hwritable : t.memory.writable? address n with
    | none =>
      have hstore : t.memory.store? address (m.engine.generator.bytes n) = none := by
        rw [SharedMemory.store?, if_neg hsome, hlength, hwritable, Option.map_none]
      rw [run_store, SharedMemory.store, hstore]
      rfl
    | some writable =>
      cases writable with
      | true => rfl
      | false =>
        have hstore : t.memory.store? address (m.engine.generator.bytes n) =
            some (.error Reason.invalidAddress.toError) := by
          rw [SharedMemory.store?, if_neg hsome, hlength, hwritable, Option.map_some,
            if_neg Bool.false_ne_true]
        rw [run_store, SharedMemory.store, hstore]
        rfl

/-- Drawing into an output buffer of `n` bytes stores `n` bytes there: by `drawInto_eq` it is a `store`
after all. -/
theorem conducts_drawInto {address : Address} {n : Nat} (h : ⟨address, n, true⟩ ∈ references) :
    Conducts (some n) references (drawInto address n) := by
  rw [drawInto_eq]
  refine conducts_bind conducts_engine fun e => ?_
  refine conducts_bind (conducts_modifyEngine _ fun _ => rfl) fun _ => ?_
  exact conducts_store h (e.generator.length_bytes n) (Nat.le_refl n)

/-- An `openKeyStore` request, whether it creates one or not, makes no accesses. -/
theorem conducts_openKeyStore (m : Wire.OpenKeyStore) :
    Conducts length references (openKeyStore m) := by
  refine conducts_bind conducts_engine fun e => ?_
  refine conducts_bind (conducts_lift (unframed_checkSession e m.session)) fun _ => ?_
  refine conducts_bind conducts_engine fun e => conducts_demand rfl fun _ => ?_
  refine conducts_bind conducts_engine fun e => ?_
  split
  · exact conducts_demand rfl fun _ => conducts_record _
  · refine conducts_demand rfl fun _ => ?_
    exact conducts_bind (conducts_modifyEngine _ fun _ => rfl) fun _ => conducts_record _

/-- An `openService` request makes no accesses, whether its parent is a session or a key store. -/
theorem conducts_openService (kind : Service) (parent : UInt32) :
    Conducts length references (openService kind parent) := by
  unfold openService
  split
  · refine conducts_bind conducts_engine fun e => ?_
    exact conducts_bind (conducts_lift (unframed_checkSession e parent)) fun _ => conducts_record _
  · refine conducts_bind conducts_engine fun e => ?_
    exact conducts_bind (conducts_lift (unframed_keyStoreAt e parent)) fun _ => conducts_record _

/-- A `closeSession` request makes no accesses. -/
theorem conducts_closeSession (handle : UInt32) :
    Conducts length references (closeSession handle) := by
  refine conducts_bind conducts_engine fun e => ?_
  exact conducts_bind (conducts_lift (unframed_checkSession e handle)) fun _ =>
    conducts_modifyEngine _ fun _ => rfl

/-- A `sharedBuffer` request tells the place of the window without an access. -/
theorem conducts_sharedBuffer (handle : UInt32) :
    Conducts length references (sharedBuffer handle) := by
  refine conducts_bind conducts_engine fun e => ?_
  refine conducts_bind (conducts_lift (unframed_checkSession e handle)) fun _ => ?_
  exact conducts_bind conducts_engine fun e => conducts_pure _

/-- A `closeKeyStore` request makes no accesses. -/
theorem conducts_closeKeyStore (handle : UInt32) :
    Conducts length references (closeKeyStore handle) := by
  refine conducts_bind conducts_engine fun e => ?_
  exact conducts_bind (conducts_lift (unframed_keyStoreAt e handle)) fun _ =>
    conducts_modifyEngine _ fun _ => rfl

/-- A `closeService` request makes no accesses, whatever the kind of its service. -/
theorem conducts_closeService (kind : Service) (handle : UInt32) :
    Conducts length references (closeService kind handle) := by
  refine conducts_bind conducts_engine fun e => ?_
  exact conducts_bind (conducts_lift (unframed_serviceParent e handle kind)) fun _ =>
    conducts_modifyEngine _ fun _ => rfl

/-- A `random` request fills its output buffer, all of it, and accesses no other. -/
theorem conducts_random {m : Wire.Random}
    (h : ⟨m.outputAddress.toUInt64, m.size.toNat, true⟩ ∈ references) :
    Conducts (some m.size.toNat) references (random m) := by
  refine conducts_bind conducts_engine fun e => ?_
  exact conducts_bind (conducts_lift (unframed_checkSession e m.session)) fun _ =>
    conducts_drawInto h

/-- Finding the key of a service with `serviceKey` makes no accesses to the memory of a client. -/
theorem conducts_serviceKey (service : UInt32) (kind : Service) (key : UInt32) :
    Conducts length references (serviceKey service kind key) := by
  refine conducts_bind conducts_engine fun e => ?_
  refine conducts_bind (conducts_lift (unframed_serviceStore e service kind)) fun found => ?_
  exact conducts_lift (raises_get _ _).unframed

/-- Storing a key with `storeKey` changes the key stores of the engine, and not the memory of a client. -/
theorem conducts_storeKey (service identifier : UInt32) (flags : UInt8) (entry : KeyEntry) :
    Conducts length references (storeKey service identifier flags entry) := by
  refine conducts_bind conducts_engine fun e => ?_
  refine conducts_bind (conducts_lift (unframed_serviceStore e service _)) fun found => ?_
  refine conducts_bind (conducts_lift (raises_insert _ _ _ _).unframed) fun stored => ?_
  exact conducts_bind (conducts_modifyEngine _ fun _ => rfl) fun _ => conducts_pure _

/-- New key material from `generateMaterial` comes from the generator alone, a key pair as well as the
bytes of a symmetric key. -/
theorem conducts_generateMaterial (keyType : KeyType) :
    Conducts length references (generateMaterial keyType) := by
  unfold generateMaterial
  split
  · refine conducts_bind conducts_engine fun e => ?_
    exact conducts_bind (conducts_modifyEngine _ fun _ => rfl) fun _ => conducts_pure _
  · exact conducts_bind (conducts_draw _) fun _ => conducts_pure _

/-- The public key that goes with new material has the length of its type, `KeyType.publicLength`; for
symmetric keys there is none. -/
theorem length_of_generateMaterial {keyType : KeyType} {m : Machine} {keys : Bytes × Bytes}
    (h : ((generateMaterial keyType).run m).1 = .ok keys) : keys.2.length = keyType.publicLength := by
  cases keyType with
  | ecdsa curve =>
    cases h
    exact curve.length_publicKey _
  | _ =>
    cases h
    rfl

/-- A `generateKey` request stores the public key, where it was asked for, and only after the store has
the new key. -/
theorem conducts_generateKey {m : Wire.GenerateKey} (minMacLength : UInt8)
    (h : ⟨m.outputAddress.toUInt64, m.outputSize.toNat, true⟩ ∈ references) :
    Conducts ((KeyType.ofCode? m.keyType).map KeyType.publicLength) references
      (generateKey m minMacLength) := by
  refine conducts_known_bind rfl fun keyType htype => ?_
  rw [htype]
  -- The public key has the length of its type, which is what the output was asked to hold.
  refine conducts_bind_of (conducts_generateMaterial keyType)
    (fun _ _ => length_of_generateMaterial) fun keys hlength => ?_
  refine conducts_demand rfl fun hfits => ?_
  refine conducts_bind (conducts_storeKey _ _ _ _) fun identifier => ?_
  exact conducts_bind_pure _ (conducts_store h hlength (hlength ▸ of_decide_eq_true hfits))

/-- Checking the type and the size of some material with `checkedEntry` makes no accesses: it has been
loaded before. -/
theorem conducts_checkedEntry (keyType : UInt8) (group info : UInt16) (material : Bytes) :
    Conducts length references (checkedEntry keyType group info material) := by
  refine conducts_bind (conducts_known rfl) fun keyType => ?_
  exact conducts_demand rfl fun _ => conducts_pure _

/-- An `importKey` request loads its material, and nothing else. -/
theorem conducts_importKey {m : Wire.ImportKey}
    (h : ⟨m.inputAddress.toUInt64, m.inputSize.toNat, false⟩ ∈ references) :
    Conducts length references (importKey m) := by
  refine conducts_bind (conducts_load h) fun material => ?_
  exact conducts_bind (conducts_checkedEntry _ _ _ _) fun entry => conducts_storeKey _ _ _ _

/-- A `deleteKey` request makes no accesses. -/
theorem conducts_deleteKey (m : Wire.DeleteKey) : Conducts length references (deleteKey m) := by
  refine conducts_bind conducts_engine fun e => ?_
  refine conducts_bind (conducts_lift (unframed_serviceStore e m.service _)) fun found => ?_
  refine conducts_bind (conducts_lift (raises_remove _ _).unframed) fun store => ?_
  exact conducts_modifyEngine _ fun _ => rfl

/-- Decrypting a wrapped key with `unwrapMaterial` works on bytes that have been loaded before, and makes
no accesses of its own. -/
theorem conducts_unwrapMaterial (store : KeyStore) (wrappingKey : UInt32) (material : Bytes) :
    Conducts length references (unwrapMaterial store wrappingKey material) := by
  unfold unwrapMaterial
  split
  · exact conducts_pure _
  · refine conducts_bind (conducts_lift (raises_get _ _).unframed) fun key => ?_
    exact conducts_demand rfl fun _ => conducts_lift (raises_apply _ _ _ _ _).unframed

/-- A `manageKey` request loads what is wrapped, and nothing else. -/
theorem conducts_manageKey {m : Wire.ManageKey}
    (h : ⟨m.inputAddress.toUInt64, m.inputSize.toNat, false⟩ ∈ references) :
    Conducts length references (manageKey m) := by
  refine conducts_bind (conducts_load h) fun wrapped => ?_
  refine conducts_bind conducts_engine fun e => ?_
  refine conducts_bind (conducts_lift (unframed_serviceStore e m.service _)) fun found => ?_
  refine conducts_bind (conducts_unwrapMaterial _ _ _) fun material => ?_
  exact conducts_bind (conducts_checkedEntry _ _ _ _) fun entry => conducts_storeKey _ _ _ _

/-- In a `mac` request the MAC is stored when it is generated and loaded when it is verified, as the
lowest bit of the flags tells; the payload is loaded in either case. -/
theorem conducts_mac (m : Wire.Mac) :
    Conducts (some m.macSize.toNat) [⟨m.payloadAddress.toUInt64, m.payloadSize.toNat, false⟩,
      ⟨m.macAddress.toUInt64, m.macSize.toNat, m.flags &&& 1 != 0⟩] (mac m) := by
  refine conducts_bind (conducts_serviceKey _ _ _) fun key => ?_
  refine conducts_demand rfl fun _ => ?_
  refine conducts_bind (conducts_load (.head _)) fun payload => ?_
  dsimp only
  split
  · rename_i hflag
    rw [bne_iff_ne.mpr hflag]
    refine conducts_bind (conducts_known rfl) fun hash => conducts_demand rfl fun hsize => ?_
    -- The code is as long as the buffer, so it can be cut.
    have hcut : ((hash.hmac key.material payload).take m.macSize.toNat).length = m.macSize.toNat := by
      rw [List.length_take, HashAlgorithm.length_hmac]
      exact Nat.min_eq_left (of_decide_eq_true (Bool.and_eq_true_iff.mp hsize).2)
    exact conducts_bind_pure _ (conducts_store (.tail _ (.head _)) hcut (Nat.le_refl _))
  · refine conducts_demand rfl fun _ => ?_
    refine conducts_bind (conducts_load (.tail _ (.head _))) fun tag => ?_
    refine conducts_demand rfl fun _ => ?_
    exact conducts_bind (conducts_known rfl) fun hash => conducts_pure _

/-- A `cipher` request loads its input and, to chain blocks, its initial block, and stores as much as it
has loaded. -/
theorem conducts_cipher (m : Wire.Cipher) :
    Conducts (some m.inputSize.toNat) [⟨m.ivAddress.toUInt64, m.ivSize.toNat, false⟩,
      ⟨m.inputAddress.toUInt64, m.inputSize.toNat, false⟩,
      ⟨m.outputAddress.toUInt64, m.outputSize.toNat, true⟩] (cipher m) := by
  refine conducts_bind (conducts_serviceKey _ _ _) fun key => ?_
  refine conducts_demand rfl fun _ => ?_
  refine conducts_bind (conducts_known rfl) fun direction => conducts_demand rfl fun hsize => ?_
  refine conducts_load_bind (.tail _ (.head _)) fun data hdata => ?_
  refine conducts_bind (conducts_known rfl) fun mode => ?_
  -- What follows the initial vector is the same for both modes.
  have hrest (iv : Bytes) : Conducts (some m.inputSize.toNat)
      [⟨m.ivAddress.toUInt64, m.ivSize.toNat, false⟩,
      ⟨m.inputAddress.toUInt64, m.inputSize.toNat, false⟩,
      ⟨m.outputAddress.toUInt64, m.outputSize.toNat, true⟩] (do
        let result ← lift (mode.apply direction key.material iv data)
        store m.outputAddress.toUInt64 result
        return m.inputSize) := by
    refine conducts_lift_bind (raises_apply _ _ _ _ _).unframed fun result hresult => ?_
    have hlength := (CipherMode.length_of_apply hresult).trans hdata
    have hfits := UInt32.le_iff_toNat_le.mp (of_decide_eq_true hsize)
    exact conducts_bind_pure _ (conducts_store (.tail _ (.tail _ (.head _))) hlength hfits)
  cases mode with
  | ecb => exact conducts_bind (conducts_pure _) hrest
  | cbc => exact conducts_bind (conducts_load (.head _)) hrest

/-- A `hash` request loads its message and stores `digestSize` bytes, if it names an algorithm. -/
theorem conducts_hash (m : Wire.Hash) :
    Conducts ((HashAlgorithm.ofCode? m.algorithm).map HashAlgorithm.digestSize)
      [⟨m.inputAddress.toUInt64, m.inputSize.toNat, false⟩,
      ⟨m.outputAddress.toUInt64, m.outputSize.toNat, true⟩] (hash m) := by
  refine conducts_bind conducts_engine fun e => ?_
  refine conducts_bind (conducts_lift (unframed_serviceParent e m.service _)) fun _ => ?_
  refine conducts_demand rfl fun _ => ?_
  refine conducts_bind (conducts_load (.head _)) fun message => ?_
  refine conducts_known_bind rfl fun algorithm halgorithm => conducts_demand rfl fun hsize => ?_
  rw [halgorithm]
  exact conducts_store (.tail _ (.head _)) (algorithm.length_digest message) (of_decide_eq_true hsize)

/-- A `SignTask` loads its message and stores a signature of the size of its scheme, whichever firmware it
came from. -/
theorem conducts_sign (task : SignTask) :
    Conducts (some task.scheme.signatureSize)
      [⟨task.messageAddress.toUInt64, task.messageSize.toNat, false⟩,
      ⟨task.signatureAddress.toUInt64, task.signatureSize.toNat, true⟩] (sign task) := by
  refine conducts_bind (conducts_serviceKey _ _ _) fun key => ?_
  refine conducts_demand rfl fun _ => conducts_demand rfl fun hsize => ?_
  refine conducts_bind (conducts_load (.head _)) fun message => ?_
  refine conducts_known_bind rfl fun signature hsignature => ?_
  have hlength := Curve.length_of_sign? hsignature
  exact conducts_bind_pure _ (conducts_store (.tail _ (.head _)) hlength (of_decide_eq_true hsize))

/-- A `signLegacy` request with a scheme becomes a task with its buffers. -/
theorem conducts_signLegacy (m : Wire.SignLegacy) :
    Conducts ((SignatureScheme.ofLegacyId? m.scheme).map SignatureScheme.signatureSize)
      [⟨m.messageAddress.toUInt64, m.messageSize.toNat, false⟩,
      ⟨m.signatureAddress.toUInt64, m.signatureSize.toNat, true⟩] (signLegacy m) := by
  refine conducts_known_bind rfl fun task h => ?_
  obtain ⟨scheme, hscheme, rfl⟩ := Option.map_eq_some_iff.mp h
  rw [hscheme]
  exact conducts_bind_pure _ (conducts_sign _)

/-- A PSA signing request with a scheme becomes a task with its buffers just as well: `conducts_sign` does
for both. -/
theorem conducts_signPsa (m : Wire.SignPsa) :
    Conducts ((SignatureScheme.ofPsaId? m.scheme).map SignatureScheme.signatureSize)
      [⟨m.messageAddress.toUInt64, m.messageSize.toNat, false⟩,
      ⟨m.signatureAddress.toUInt64, m.signatureSize.toNat, true⟩] (signPsa m) := by
  refine conducts_known_bind rfl fun task h => ?_
  obtain ⟨scheme, hscheme, rfl⟩ := Option.map_eq_some_iff.mp h
  rw [hscheme]
  exact conducts_bind_pure _ (conducts_sign _)

/-- A `prepareSign` request is looked at and accepted, without an access. -/
theorem conducts_prepareSign (m : Wire.PrepareSign) :
    Conducts length references (prepareSign m) := by
  refine conducts_bind conducts_engine fun e => ?_
  refine conducts_bind (conducts_lift (unframed_serviceParent e m.service _)) fun _ => ?_
  exact conducts_bind (conducts_known rfl) fun _ => conducts_pure _

/-- A `verify` request loads the key, the message and the signature, in this order, and stores nothing. -/
theorem conducts_verify (m : Wire.Verify) :
    Conducts length [⟨m.keyAddress.toUInt64, m.keySize.toNat, false⟩,
      ⟨m.messageAddress.toUInt64, m.messageSize.toNat, false⟩,
      ⟨m.signatureAddress.toUInt64, m.signatureSize.toNat, false⟩] (verify m) := by
  refine conducts_bind conducts_engine fun e => ?_
  refine conducts_bind (conducts_lift (unframed_serviceParent e m.service _)) fun _ => ?_
  refine conducts_bind (conducts_known rfl) fun scheme => ?_
  refine conducts_bind (conducts_load (.head _)) fun key => ?_
  refine conducts_bind (conducts_load (.tail _ (.head _))) fun message => ?_
  refine conducts_bind (conducts_load (.tail _ (.tail _ (.head _)))) fun signature => ?_
  exact conducts_bind (conducts_known rfl) fun _ => conducts_pure _

/-- A `sheGenerateMac` request loads its message and stores sixteen bytes at its short address. -/
theorem conducts_sheGenerateMac (m : Wire.SheGenerateMac) :
    Conducts (some sheSize) [⟨SharedMemory.ofShort m.messageOffset, m.messageSize.toNat, false⟩,
      ⟨SharedMemory.ofShort m.macOffset, sheSize, true⟩] (sheGenerateMac m) := by
  refine conducts_bind conducts_engine fun e => ?_
  refine conducts_bind (conducts_known rfl) fun key => ?_
  refine conducts_bind (conducts_load (.head _)) fun message => ?_
  exact conducts_store (.tail _ (.head _)) (length_sheMac key message) (Nat.le_refl _)

/-- A `sheVerifyMac` request loads its message and the tag, and stores nothing. -/
theorem conducts_sheVerifyMac (m : Wire.SheVerifyMac) :
    Conducts length [⟨SharedMemory.ofShort m.messageOffset, m.messageSize.toNat, false⟩,
      ⟨SharedMemory.ofShort m.macOffset, m.macLength.toNat, false⟩] (sheVerifyMac m) := by
  refine conducts_bind conducts_engine fun e => ?_
  refine conducts_bind (conducts_known rfl) fun key => ?_
  refine conducts_bind (conducts_load (.head _)) fun message => ?_
  refine conducts_bind (conducts_load (.tail _ (.head _))) fun tag => ?_
  exact conducts_demand rfl fun _ => conducts_pure _

/-- `checkStarted` looks at the engine only: whether the generator of SHE is running can be told without
an access. -/
theorem conducts_checkStarted : Conducts length references checkStarted :=
  conducts_bind conducts_engine fun _ => conducts_check _ rfl

/-- A `sheExtendSeed` request loads sixteen bytes: the size that the request tells has been checked by
then. -/
theorem conducts_sheExtendSeed (m : Wire.SplitBuffer) :
    Conducts length [⟨.join m.high m.low, m.size.toNat, false⟩] (sheExtendSeed m) := by
  refine conducts_bind conducts_checkStarted fun _ => conducts_demand rfl fun hsize => ?_
  rw [eq_of_beq hsize]
  refine conducts_bind (conducts_load (.head _)) fun entropy => ?_
  exact conducts_bind (conducts_draw _) fun drawn => conducts_modifyEngine _ fun _ => rfl

/-- A `sheRandom` request fills the sixteen bytes of its buffer. -/
theorem conducts_sheRandom (m : Wire.SplitBuffer) :
    Conducts (some sheSize) [⟨.join m.high m.low, m.size.toNat, true⟩] (sheRandom m) := by
  refine conducts_bind conducts_checkStarted fun _ => conducts_demand rfl fun hsize => ?_
  rw [eq_of_beq hsize]
  exact conducts_drawInto (.head _)

/-- A `sheIdentity` request stores the MAC of the identity, or zeros where there is no key to make one
with. -/
theorem conducts_sheIdentity (m : Wire.SheIdentity) :
    Conducts (some sheSize) [⟨.join m.high m.low, sheSize, true⟩] (sheIdentity m) := by
  refine conducts_bind conducts_engine fun e => ?_
  refine conducts_bind_pure _ (conducts_store (.head _) ?_ (Nat.le_refl _))
  split
  · exact length_sheMac _ _
  · exact Bytes.length_blank _

/-- **Every handler keeps to the buffers of its request**, the ones in `Command.references`, stores what
`Command.outputLength?` tells, and no failure is about messages. -/
theorem conducts_handle {flavor : Flavor} (c : Command) (m : c.Request flavor) :
    Conducts (c.outputLength? m) (c.references m) (handle flavor c m) := by
  -- What stands at the head of the references is where a handler with one buffer stores or loads.
  cases c with
  | openSession => exact conducts_record _
  | closeSession => exact conducts_closeSession m
  | sharedBuffer => exact conducts_sharedBuffer m
  | openKeyStore => exact conducts_openKeyStore m
  | closeKeyStore => exact conducts_closeKeyStore m
  | openService kind => exact conducts_openService kind m.parent
  | closeService kind => exact conducts_closeService kind m
  | generateKey => exact conducts_generateKey 0 (.head _)
  | generateKeyExt => exact conducts_generateKey m.minMacLength (.head _)
  | importKey => exact conducts_importKey (.head _)
  | deleteKey => exact conducts_deleteKey m
  | manageKey => exact conducts_manageKey (.head _)
  | mac => exact conducts_mac m
  | cipher => exact conducts_cipher m
  | hash => exact conducts_hash m
  | sign =>
    cases flavor with
    | legacy => exact conducts_signLegacy m
    | psa => exact conducts_signPsa m
  | prepareSign => exact conducts_prepareSign m
  | verify => exact conducts_verify m
  | random => exact conducts_random (.head _)
  | sheGenerateMac => exact conducts_sheGenerateMac m
  | sheVerifyMac => exact conducts_sheVerifyMac m
  | sheInitRng => exact conducts_modifyEngine (fun e => { e with sheStarted := true }) fun _ => rfl
  | sheExtendSeed => exact conducts_sheExtendSeed m
  | sheRandom => exact conducts_sheRandom m
  | sheStatus => exact conducts_bind conducts_engine fun _ => conducts_pure _
  | sheIdentity => exact conducts_sheIdentity m

end Engine

end SecureEngine
