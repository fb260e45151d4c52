import SecureEngine.Proofs.Accesses

/-! # Handlers that act last

A handler first looks things up, loads what it needs and draws random bytes; what it does to objects,
key stores or the memory of the client comes after everything that can fail.

* **`Engine.Drew`** — an engine that has drawn random bytes and checked sums since, and is otherwise the
  same.
* **`Handling.Prepares`** — computations that draw and load, and no more.
* **`Handling.Commits`** — computations with an effect on the engine when they succeed, and with none
  on engine and memory when they fail.
* The data services, the requests of a session and those of the secure hardware extension commit, and
  leave objects and key stores alone. -/

namespace SecureEngine

/-! ## (1) Engines that have drawn -/

/-- **An engine has drawn random bytes and checked sums**: its generator may have moved on, it may have
noted a sum that does not fit, and all else is the same. -/
def Engine.Drew (before after : Engine) : Prop :=
  ∃ (generator : Generator) (overflowed : Bool), after = { before with generator, overflowed }

namespace Engine.Drew

variable {e f g : Engine}

/-- An engine that has done nothing has drawn at most: `Drew` allows for nothing at all. -/
theorem refl (e : Engine) : e.Drew e := ⟨e.generator, e.overflowed, rfl⟩

/-- `Machine.noting` changes nothing but whether a sum has not fitted, which `Engine.Drew` allows for. -/
theorem noting (m : Machine) (overflows : Bool) : m.engine.Drew (m.noting overflows).engine := by
  cases overflows with
  | false => exact refl m.engine
  | true => exact ⟨m.engine.generator, true, rfl⟩

/-- An engine that has drawn at most, twice in a row, has drawn at most, so `Drew` can be followed step by
step. -/
theorem trans (h : e.Drew f) (h' : f.Drew g) : e.Drew g := by
  obtain ⟨first, noted, rfl⟩ := h
  obtain ⟨second, noted', rfl⟩ := h'
  exact ⟨second, noted', rfl⟩

/-- `Drew` keeps the `settings` of an engine. -/
theorem settings_eq (h : e.Drew f) : f.settings = e.settings := by
  obtain ⟨generator, overflowed, rfl⟩ := h
  rfl

/-- `Drew` keeps the object table, so every handle stands for what it stood for. -/
theorem objects_eq (h : e.Drew f) : f.objects = e.objects := by
  obtain ⟨generator, overflowed, rfl⟩ := h
  rfl

/-- `Drew` keeps the key stores with all their keys. -/
theorem keyStores_eq (h : e.Drew f) : f.keyStores = e.keyStores := by
  obtain ⟨generator, overflowed, rfl⟩ := h
  rfl

/-- `Drew` does not start the generator of SHE. -/
theorem sheStarted_eq (h : e.Drew f) : f.sheStarted = e.sheStarted := by
  obtain ⟨generator, overflowed, rfl⟩ := h
  rfl

/-- `Engine.serviceStore` looks at objects and key stores only, so it finds the same after
`Engine.Drew`. -/
theorem serviceStore_eq (h : e.Drew f) (handle : UInt32) (kind : Service) :
    f.serviceStore handle kind = e.serviceStore handle kind := by
  obtain ⟨generator, overflowed, rfl⟩ := h
  rfl

end Engine.Drew

namespace Handling

variable {α β : Type} {start : Engine}

/-! ## (2) Computations that prepare -/

/-- **A computation prepares**: whether it fails or not, its engine has `Drew` at most, and the memory is
as before. -/
def Prepares (x : Handling α) : Prop :=
  ∀ m : Machine, m.engine.Drew (x.run m).2.engine ∧ (x.run m).2.memory = m.memory

/-- What leaves the machine alone prepares: `Engine.Drew.refl` is what it does to the engine. -/
theorem prepares_still {x : Handling α} (h : ∀ m, (x.run m).2 = m) : Prepares x := by
  intro m
  rw [h m]
  exact ⟨.refl _, rfl⟩

/-- A value that is just returned with `pure` prepares whatever comes next. -/
theorem prepares_pure (a : α) : Prepares (pure a) := prepares_still fun _ => rfl

/-- A look-up taken into a handler by `lift` prepares, whether it succeeds or not. -/
theorem prepares_lift (r : Except EngineError α) : Prepares (lift r) := prepares_still fun _ => rfl

/-- Reading the `engine` prepares. -/
theorem prepares_engine : Prepares engine := prepares_still fun _ => rfl

/-- A `demand` prepares, whether it is met or not. -/
theorem prepares_demand (condition : Bool) (r : Reason) : Prepares (demand condition r) := by
  cases condition with
  | true => exact prepares_pure ()
  | false => exact prepares_still fun _ => rfl

/-- A `known` prepares, whether there is a value or not. -/
theorem prepares_known (a : Option α) (r : Reason) : Prepares (known a r) := by
  cases a with
  | some a => exact prepares_pure a
  | none => exact prepares_still fun _ => rfl

/-- Sums are checked before anything is done with what they come to; `checked` at most notes that one did
not fit. -/
theorem prepares_checked (outcome : Option α) : Prepares (checked outcome) := by
  intro m
  have hrun : (checked outcome).run m =
      (known outcome .invalidAddress).run (m.noting outcome.isNone) := rfl
  obtain ⟨hdrew, hmemory⟩ := prepares_known outcome .invalidAddress (m.noting outcome.isNone)
  rw [hrun]
  exact ⟨(Engine.Drew.noting m _).trans hdrew, hmemory.trans (m.memory_noting _)⟩

/-- A `load` changes nothing at the client, and nothing at the engine that `Engine.Drew` does not
allow. -/
theorem prepares_load (address : Address) (n : Nat) : Prepares (load address n) := by
  intro m
  rw [run_load]
  exact ⟨.noting m _, m.memory_noting _⟩

/-- A change with `modifyEngine` that only draws prepares. -/
theorem prepares_modifyEngine {f : Engine → Engine} (h : ∀ e : Engine, e.Drew (f e)) :
    Prepares (modifyEngine f) :=
  fun m => ⟨h m.engine, rfl⟩

/-- Preparations may follow each other: neither changes more than `Engine.Drew` allows, and nor do
both. -/
theorem prepares_bind {x : Handling α} {f : α → Handling β} (hx : Prepares x)
    (hf : ∀ a, Prepares (f a)) : Prepares (x >>= f) := by
  intro m
  have hfirst := hx m
  rw [run_bind]
  rcases hrun : x.run m with ⟨e | a, t⟩
  · rw [hrun] at hfirst
    exact hfirst
  · rw [hrun] at hfirst
    obtain ⟨hdrew, hmemory⟩ := hf a t
    exact ⟨hfirst.1.trans hdrew, hmemory.trans hfirst.2⟩

/-- Drawing random bytes with `draw` prepares: the generator moves on, and the rest of the engine does
not. -/
theorem prepares_draw (n : Nat) : Prepares (draw n) := by
  refine prepares_bind prepares_engine fun e => ?_
  exact prepares_bind (prepares_modifyEngine fun _ => ⟨_, _, rfl⟩) fun _ => prepares_pure _

/-! ## (3) Computations that commit -/

/-- **A computation commits at its end**: started with an engine that has drawn at most, it has an
effect when it succeeds; when it fails, the engine has drawn at most, and the memory is as before. -/
def Commits (start : Engine) (effect : α → Engine → Prop) (x : Handling α) : Prop :=
  ∀ m : Machine, start.Drew m.engine →
    (∀ e, (x.run m).1 = .error e → start.Drew (x.run m).2.engine ∧ (x.run m).2.memory = m.memory) ∧
      ∀ a, (x.run m).1 = .ok a → effect a (x.run m).2.engine

section

variable {effect : β → Engine → Prop}

/-- **What comes before a commitment may prepare it**, and no more: a failure of `x` leaves an engine that
has drawn at most. -/
theorem commits_bind {x : Handling α} {f : α → Handling β} (hx : Prepares x)
    (hf : ∀ a, Commits start effect (f a)) : Commits start effect (x >>= f) := by
  intro m hm
  -- Whatever `x` draws, it comes before the effect.
  obtain ⟨hdrew, hmemory⟩ := hx m
  rw [run_bind]
  rcases hrun : x.run m with ⟨e | a, t⟩
  · rw [hrun] at hdrew hmemory
    exact ⟨fun _ _ => ⟨hm.trans hdrew, hmemory⟩, nofun⟩
  · rw [hrun] at hdrew hmemory
    obtain ⟨hfailed, hok⟩ := hf a t (hm.trans hdrew)
    refine ⟨fun e he => ?_, hok⟩
    obtain ⟨hdrew', hmemory'⟩ := hfailed e he
    exact ⟨hdrew', hmemory'.trans hmemory⟩

/-- What follows a look at the `engine` sees an engine that has drawn at most. -/
theorem commits_engine {f : Engine → Handling β}
    (hf : ∀ e : Engine, start.Drew e → Commits start effect (f e)) :
    Commits start effect (engine >>= f) :=
  fun m hm => hf m.engine hm m hm

/-- What follows a `get` commits to the effect as it would without. -/
theorem commits_get {f : Machine → Handling β} (hf : ∀ m, Commits start effect (f m)) :
    Commits start effect (get >>= f) :=
  fun m hm => hf m m hm

/-- What follows a look-up knows what was found, and commits after it: `Commits` passes through a `lift`
in front. -/
theorem commits_lift {r : Except EngineError α} {f : α → Handling β}
    (hf : ∀ a, r = .ok a → Commits start effect (f a)) : Commits start effect (lift r >>= f) := by
  cases r with
  | error e => exact fun m hm => ⟨fun _ _ => ⟨hm, rfl⟩, nofun⟩
  | ok a => exact hf a rfl

/-- What follows a `demand` may rely on the condition, and commits after it. -/
theorem commits_demand {condition : Bool} {r : Reason} {f : Unit → Handling β}
    (hf : condition = true → Commits start effect (f ())) :
    Commits start effect (demand condition r >>= f) := by
  cases condition with
  | true => exact hf rfl
  | false => exact fun m hm => ⟨fun _ _ => ⟨hm, rfl⟩, nofun⟩

/-- What follows a `known` may rely on the value having been there, and commits after it. -/
theorem commits_known {a : Option α} {r : Reason} {f : α → Handling β}
    (hf : ∀ b, a = some b → Commits start effect (f b)) :
    Commits start effect (known a r >>= f) := by
  cases a with
  | some b => exact hf b rfl
  | none => exact fun m hm => ⟨fun _ _ => ⟨hm, rfl⟩, nofun⟩

/-- A change to an engine that has drawn at most commits to what it makes of it; it cannot fail. -/
theorem commits_modifyEngine {effect : Unit → Engine → Prop} {f : Engine → Engine}
    (h : ∀ e : Engine, start.Drew e → effect () (f e)) : Commits start effect (modifyEngine f) :=
  fun m hm => ⟨nofun, fun _ _ => h m.engine hm⟩

/-- A result may be made of what was computed, and the effect be told by the new result. -/
theorem commits_map {x : Handling α} (g : α → β) {effect : α → Engine → Prop}
    {effect' : β → Engine → Prop} (h : Commits start effect x)
    (he : ∀ a e, effect a e → effect' (g a) e) :
    Commits start effect' (x >>= fun a => pure (g a)) := by
  intro m hm
  obtain ⟨hfailed, hok⟩ := h m hm
  rw [run_bind]
  rcases hrun : x.run m with ⟨e | a, t⟩
  · rw [hrun] at hfailed
    exact ⟨fun _ _ => hfailed e rfl, nofun⟩
  · rw [hrun] at hok
    refine ⟨nofun, fun b hb => ?_⟩
    cases hb
    exact he a t.engine (hok a rfl)

/-- A commitment may be to less: the effect is only weakened, the failures are the same. -/
theorem Commits.imp {x : Handling β} {effect' : β → Engine → Prop} (h : Commits start effect x)
    (he : ∀ b e, effect b e → effect' b e) : Commits start effect' x := by
  intro m hm
  obtain ⟨hfailed, hok⟩ := h m hm
  exact ⟨hfailed, fun b hb => he b _ (hok b hb)⟩

end

/-- **A computation of the engine for the client**: it `Commits` to no effect but on the generator and,
when it succeeds, on the memory of the client. -/
def Serves (start : Engine) (x : Handling α) : Prop := Commits start (fun _ => start.Drew) x

/-- What prepares has served, if nothing comes after it: the client's memory is as it was. -/
theorem serves_of_prepares {x : Handling α} (h : Prepares x) : Serves start x := by
  intro m hm
  obtain ⟨hdrew, hmemory⟩ := h m
  exact ⟨fun _ _ => ⟨hm.trans hdrew, hmemory⟩, fun _ _ => hm.trans hdrew⟩

/-- **A store that fails has written nothing**, so `store` serves whether the address is right or
wrong. -/
theorem serves_store (address : Address) (data : Bytes) : Serves start (store address data) := by
  intro m hm
  rw [run_store]
  cases m.memory.store address data with
  | error e => exact ⟨fun _ _ => ⟨hm.trans (.noting m _), m.memory_noting _⟩, nofun⟩
  | ok memory => exact ⟨nofun, fun _ _ => hm⟩

/-- A result may be made of what has been served, since `pure` adds nothing. -/
theorem serves_map {x : Handling α} (g : α → β) (h : Serves start x) :
    Serves start (x >>= fun a => pure (g a)) :=
  commits_map g h fun _ _ => id

end Handling

/-! ## (4) Data services -/

namespace Engine

open Handling

variable {start : Engine}

/-- Finding the key of a service with `serviceKey` changes nothing. -/
theorem prepares_serviceKey (service : UInt32) (kind : Service) (key : UInt32) :
    Prepares (serviceKey service kind key) := by
  refine prepares_bind prepares_engine fun e => ?_
  exact prepares_bind (prepares_lift _) fun found => prepares_lift _

/-- A `mac` request stores the MAC when it is generated; verifying one stores nothing. Neither touches
objects or keys. -/
theorem serves_mac (m : Wire.Mac) : Serves start (mac m) := by
  refine commits_bind (prepares_serviceKey _ _ _) fun key => ?_
  refine commits_bind (prepares_demand _ _) fun _ => ?_
  refine commits_bind (prepares_load _ _) fun payload => ?_
  dsimp only
  split
  · -- Generating ends with a store, verifying with nothing.
    refine commits_bind (prepares_known _ _) fun hash => ?_
    refine commits_bind (prepares_demand _ _) fun _ => ?_
    exact serves_map _ (serves_store _ _)
  · refine commits_bind (prepares_demand _ _) fun _ => ?_
    refine commits_bind (prepares_load _ _) fun tag => ?_
    refine commits_bind (prepares_demand _ _) fun _ => ?_
    refine commits_bind (prepares_known _ _) fun hash => ?_
    exact serves_of_prepares (prepares_pure _)

/-- A `cipher` request writes the output of the client last, when nothing can fail but the store
itself. -/
theorem serves_cipher (m : Wire.Cipher) : Serves start (cipher m) := by
  refine commits_bind (prepares_serviceKey _ _ _) fun key => ?_
  refine commits_bind (prepares_demand _ _) fun _ => ?_
  refine commits_bind (prepares_known _ _) fun direction => ?_
  refine commits_bind (prepares_demand _ _) fun _ => ?_
  refine commits_bind (prepares_load _ _) fun data => ?_
  refine commits_bind (prepares_known _ _) fun mode => ?_
  -- What remains once the initialization vector is there, if the mode needs one.
  have hrest (iv : Bytes) : Serves start (do
      let result ← lift (mode.apply direction key.material iv data)
      store m.outputAddress.toUInt64 result
      return m.inputSize) :=
    commits_bind (prepares_lift _) fun result => serves_map _ (serves_store _ _)
  cases mode with
  | ecb => exact commits_bind (prepares_pure _) hrest
  | cbc => exact commits_bind (prepares_load _ _) hrest

/-- A `hash` request writes its digest last, after all that is checked. -/
theorem serves_hash (m : Wire.Hash) : Serves start (hash m) := by
  refine commits_bind prepares_engine fun e => ?_
  refine commits_bind (prepares_lift _) fun parent => ?_
  refine commits_bind (prepares_demand _ _) fun _ => ?_
  refine commits_bind (prepares_load _ _) fun message => ?_
  refine commits_bind (prepares_known _ _) fun algorithm => ?_
  exact commits_bind (prepares_demand _ _) fun _ => serves_store _ _

/-- A `SignTask` writes the signature last: nonces are derived from the key, so not even the generator
moves. -/
theorem serves_sign (task : SignTask) : Serves start (sign task) := by
  refine commits_bind (prepares_serviceKey _ _ _) fun key => ?_
  refine commits_bind (prepares_demand _ _) fun _ => ?_
  refine commits_bind (prepares_demand _ _) fun _ => ?_
  refine commits_bind (prepares_load _ _) fun message => ?_
  refine commits_bind (prepares_known _ _) fun signature => ?_
  exact serves_map _ (serves_store _ _)

/-- A `signLegacy` request serves as its task does. -/
theorem serves_signLegacy (m : Wire.SignLegacy) : Serves start (signLegacy m) :=
  commits_bind (prepares_known _ _) fun task => serves_map _ (serves_sign task)

/-- A `signPsa` request serves as its task does. -/
theorem serves_signPsa (m : Wire.SignPsa) : Serves start (signPsa m) :=
  commits_bind (prepares_known _ _) fun task => serves_map _ (serves_sign task)

/-- A `prepareSign` request changes nothing, accepted or not. -/
theorem prepares_prepareSign (m : Wire.PrepareSign) : Prepares (prepareSign m) := by
  refine prepares_bind prepares_engine fun e => ?_
  refine prepares_bind (prepares_lift _) fun parent => ?_
  exact prepares_bind (prepares_known _ _) fun scheme => prepares_pure _

/-- Checking a signature with `verify` changes nothing, whether it turns out right or wrong. -/
theorem prepares_verify (m : Wire.Verify) : Prepares (verify m) := by
  refine prepares_bind prepares_engine fun e => ?_
  refine prepares_bind (prepares_lift _) fun parent => ?_
  refine prepares_bind (prepares_known _ _) fun scheme => ?_
  refine prepares_bind (prepares_load _ _) fun key => ?_
  refine prepares_bind (prepares_load _ _) fun message => ?_
  refine prepares_bind (prepares_load _ _) fun signature => ?_
  exact prepares_bind (prepares_known _ _) fun key => prepares_pure _

/-! ## (5) Requests of a session and of the secure hardware extension -/

/-- A `sharedBuffer` request changes nothing: it tells the window of shared memory. -/
theorem prepares_sharedBuffer (handle : UInt32) : Prepares (sharedBuffer handle) := by
  refine prepares_bind prepares_engine fun e => ?_
  refine prepares_bind (prepares_lift _) fun _ => ?_
  exact prepares_bind prepares_engine fun e => prepares_pure _

/-- The bytes are drawn before anything is known of their buffer, and stored last; a buffer that is
refused costs the bytes. -/
theorem serves_drawInto (address : Address) (n : Nat) : Serves start (drawInto address n) := by
  refine commits_bind prepares_engine fun e => ?_
  refine commits_bind (prepares_modifyEngine fun _ => ⟨_, _, rfl⟩) fun _ => commits_get fun m => ?_
  refine commits_bind (prepares_checked _) fun writable => ?_
  exact commits_bind (prepares_demand _ _) fun _ => serves_store _ _

/-- A `random` request has no effect but on the generator and the output of the client. -/
theorem serves_random (m : Wire.Random) : Serves start (random m) := by
  refine commits_bind prepares_engine fun e => ?_
  exact commits_bind (prepares_lift _) fun _ => serves_drawInto _ _

/-- A `sheGenerateMac` request has no effect but on the output of the client. -/
theorem serves_sheGenerateMac (m : Wire.SheGenerateMac) : Serves start (sheGenerateMac m) := by
  refine commits_bind prepares_engine fun e => ?_
  refine commits_bind (prepares_known _ _) fun key => ?_
  exact commits_bind (prepares_load _ _) fun message => serves_store _ _

/-- Checking a SHE MAC with `sheVerifyMac` changes nothing, whatever the verdict. -/
theorem prepares_sheVerifyMac (m : Wire.SheVerifyMac) : Prepares (sheVerifyMac m) := by
  refine prepares_bind prepares_engine fun e => ?_
  refine prepares_bind (prepares_known _ _) fun key => ?_
  refine prepares_bind (prepares_load _ _) fun message => ?_
  refine prepares_bind (prepares_load _ _) fun tag => ?_
  exact prepares_bind (prepares_demand _ _) fun _ => prepares_pure _

/-- `checkStarted` asks whether the generator of SHE is running, and does not start it. -/
theorem prepares_checkStarted : Prepares checkStarted :=
  prepares_bind prepares_engine fun _ => prepares_demand _ _

/-- Extending the seed of SHE only changes the generator, which `Engine.Drew` leaves open. -/
theorem prepares_sheExtendSeed (m : Wire.SplitBuffer) : Prepares (sheExtendSeed m) := by
  refine prepares_bind prepares_checkStarted fun _ => ?_
  refine prepares_bind (prepares_demand _ _) fun _ => ?_
  refine prepares_bind (prepares_load _ _) fun entropy => ?_
  refine prepares_bind (prepares_draw _) fun drawn => ?_
  exact prepares_modifyEngine fun _ => ⟨_, _, rfl⟩

/-- A `sheRandom` request has no effect but on the generator and the output of the client. -/
theorem serves_sheRandom (m : Wire.SplitBuffer) : Serves start (sheRandom m) := by
  refine commits_bind prepares_checkStarted fun _ => ?_
  exact commits_bind (prepares_demand _ _) fun _ => serves_drawInto _ _

/-- A `sheStatus` request tells the status of SHE, and changes nothing. -/
theorem prepares_sheStatus : Prepares sheStatus :=
  prepares_bind prepares_engine fun _ => prepares_pure _

/-- A `sheIdentity` request has no effect but on the output of the client. -/
theorem serves_sheIdentity (m : Wire.SheIdentity) : Serves start (sheIdentity m) :=
  commits_bind prepares_engine fun _ => serves_map _ (serves_store _ _)

end Engine

end SecureEngine
