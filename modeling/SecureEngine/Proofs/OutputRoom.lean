import SecureEngine.Proofs.Outcomes

/-! # Room for outputs

Some requests have an output whose size the engine judges.

* **`Command.Lacks`** — a request tells of less room than its output takes.
* **`Handling.Avoids`**, **`Handling.Fails`** — a handler never fails for a reason, or always fails.
* **`Engine.avoids_handle`**, **`Engine.fails_handle`** — the engine finds fault with the size of an output
  only where a request lacks room, and refuses all such requests. -/

namespace SecureEngine

/-! ## (1) Requests that lack room -/

/-- **The commands with an output whose size the engine judges**, before it stores anything: those that
can fail with `outTooSmall`. -/
def Command.judgesRoom : Command → Bool
  | generateKey | generateKeyExt | cipher | hash | sign => true
  | _ => false

/-- **A request lacks room** for its output: the buffer that it names is smaller. -/
def Command.Lacks {flavor : Flavor} (c : Command) (m : c.Request flavor) : Prop :=
  ∃ length, c.outputLength? m = some length ∧
    ∃ buffer ∈ c.references m, buffer.output = true ∧ buffer.size < length

/-- With one output among its `references`, it is the size of this one that counts: `Command.Lacks` is a
comparison with `outputLength?`. -/
theorem Command.lacks_iff_lt {flavor : Flavor} {c : Command} {m : c.Request flavor} {room : Nat}
    (h : ((c.references m).filter (·.output)).map (·.size) = [room]) :
    c.Lacks m ↔ ∃ length, c.outputLength? m = some length ∧ room < length := by
  -- The request names one output, so lacking room is a matter of that one.
  have hbuffer (length : Nat) : (∃ buffer ∈ c.references m, buffer.output = true ∧ buffer.size < length) ↔
      room < length := by
    have hmem (n : Nat) : (∃ buffer ∈ c.references m, buffer.output = true ∧ buffer.size = n) ↔
        n = room := by
      rw [← List.mem_singleton, ← h]
      simp only [List.mem_map, List.mem_filter, and_assoc]
    constructor
    · rintro ⟨buffer, hmember, houtput, hsmall⟩
      rwa [← (hmem _).mp ⟨buffer, hmember, houtput, rfl⟩]
    · intro hsmall
      obtain ⟨buffer, hmember, houtput, rfl⟩ := (hmem room).mpr rfl
      exact ⟨buffer, hmember, houtput, hsmall⟩
  simp only [Lacks, hbuffer]

namespace Handling

open Engine

variable {α β : Type} {r : Reason}

/-! ## (2) Failures -/

/-- **A computation never fails for a reason**: no machine leads it to the error of that `Reason`. -/
def Avoids (r : Reason) (x : Handling α) : Prop := ∀ m after, x.run m ≠ (.error r.toError, after)

/-- A value that is just returned with `pure` is no failure, for whatever reason. -/
theorem avoids_pure (a : α) : Avoids r (pure a : Handling α) := nofun

/-- A look-up taken into a handler by `lift` avoids what the look-up avoids. -/
theorem avoids_lift {x : Except EngineError α} (h : Raises (· ≠ r) x) : Avoids r (lift x) := by
  intro m after hrun
  obtain ⟨other, he, hne⟩ := h _ (congrArg Prod.fst hrun)
  exact hne (Reason.toError_inj.mp he).symm

/-- Two computations in a row avoid a failure if both do; the second one may rely on the first having come
out as it did. -/
theorem avoids_bind_of {x : Handling α} {f : α → Handling β} (hx : Avoids r x)
    (hf : ∀ m a after, x.run m = (.ok a, after) → Avoids r (f a)) : Avoids r (x >>= f) := by
  intro m after hrun
  rw [run_bind] at hrun
  rcases h : x.run m with ⟨e | a, t⟩
  · rw [h] at hrun
    cases hrun
    exact hx m _ h
  · rw [h] at hrun
    exact hf m a t h t after hrun

/-- Two computations in a row avoid a failure if both do: `avoids_bind_of` without a word on the
result. -/
theorem avoids_bind {x : Handling α} {f : α → Handling β} (hx : Avoids r x)
    (hf : ∀ a, Avoids r (f a)) : Avoids r (x >>= f) :=
  avoids_bind_of hx fun _ a _ _ => hf a

/-- Reading the engine does not fail, so only what follows has to avoid the failure. -/
theorem avoids_engine {f : Engine → Handling β} (hf : ∀ e, Avoids r (f e)) :
    Avoids r (engine >>= f) :=
  avoids_bind nofun hf

/-- What is demanded for another reason, or holds, is no such failure: `demand` throws the error of its
own `Reason` only. -/
theorem avoids_demand {condition : Bool} {other : Reason} (h : condition = false → other ≠ r) :
    Avoids r (demand condition other) := by
  cases condition with
  | true => exact avoids_pure ()
  | false =>
    intro m after hrun
    exact h rfl (Reason.toError_inj.mp (Except.error.inj (congrArg Prod.fst hrun)))

/-- What is looked for with `known` and another reason is no such failure, and what follows may rely on
it. -/
theorem avoids_known_bind {a : Option α} {other : Reason} {f : α → Handling β} (h : other ≠ r)
    (hf : ∀ b, a = some b → Avoids r (f b)) : Avoids r (known a other >>= f) := by
  cases a with
  | some b => exact hf b rfl
  | none =>
    intro m after hrun
    exact h (Reason.toError_inj.mp (Except.error.inj (congrArg Prod.fst hrun)))

/-- **A computation always fails**, on every `Machine` and whatever it does before. -/
def Fails (x : Handling α) : Prop := ∀ m, ∃ e after, x.run m = (.error e, after)

/-- What comes before a failure may fail as well; only where it succeeds has the rest to fail. -/
theorem fails_bind_of {x : Handling α} {f : α → Handling β}
    (hf : ∀ m a after, x.run m = (.ok a, after) → Fails (f a)) : Fails (x >>= f) := by
  intro m
  rw [run_bind]
  rcases h : x.run m with ⟨e | a, t⟩
  · exact ⟨e, t, rfl⟩
  · exact hf m a t h t

/-- A computation whose second part always `Fails` always fails itself. -/
theorem fails_bind {x : Handling α} {f : α → Handling β} (hf : ∀ a, Fails (f a)) : Fails (x >>= f) :=
  fails_bind_of fun _ a _ _ => hf a

/-- What follows a failure is not reached, so a computation whose first part always fails always fails. -/
theorem Fails.bind {x : Handling α} (h : Fails x) (f : α → Handling β) : Fails (x >>= f) := by
  intro m
  obtain ⟨e, after, hrun⟩ := h m
  exact ⟨e, after, run_bind_error hrun⟩

/-- A `demand` that is not met fails, for whatever reason. -/
theorem fails_demand {condition : Bool} (h : condition = false) (r : Reason) :
    Fails (demand condition r) := by
  subst h
  exact fun m => ⟨_, _, rfl⟩

end Handling

/-! ## (3) Handlers -/

namespace Engine

open Handling

variable {α : Type}

/-- Plain reasons are not about the size of an output: `isPlain` leaves `outTooSmall` out. -/
theorem Raises.ne_outTooSmall {x : Except EngineError α} (h : Raises (isPlain · = true) x) :
    Raises (· ≠ .outTooSmall) x :=
  h.imp fun _ hplain hsmall => by
    subst hsmall
    cases hplain

/-- `Engine.serviceParent` fails because of its handle and for no other reason. -/
theorem raises_serviceParent (engine : Engine) (handle : UInt32) (kind : Service) :
    Raises (· = .unknownHandle) (engine.serviceParent handle kind) := by
  unfold serviceParent
  split
  · split
    · exact raises_ok _
    · exact raises_error rfl
  · exact raises_error rfl

/-- So looking for the parent of a service never fails for the size of an output. -/
theorem avoids_serviceParent (engine : Engine) (handle : UInt32) (kind : Service) :
    Avoids .outTooSmall (lift (engine.serviceParent handle kind)) :=
  avoids_lift ((raises_serviceParent engine handle kind).imp fun _ h => h ▸ nofun)

/-- Looking for the key store of a service never fails for the size of an output either. -/
theorem avoids_serviceStore (engine : Engine) (handle : UInt32) (kind : Service) :
    Avoids .outTooSmall (lift (engine.serviceStore handle kind)) := by
  refine avoids_lift (raises_bind ?_ fun parent _ => raises_bind ?_ fun name _ => ?_)
  · exact (raises_serviceParent engine handle kind).imp fun _ h => h ▸ nofun
  · unfold keyStoreAt
    split
    · exact raises_ok _
    · exact raises_error nofun
  · split
    · exact raises_ok _
    · exact raises_error nofun

/-- Loading with `load` complains about addresses only, so it avoids every other reason. -/
theorem avoids_load_of_ne {r : Reason} (h : r ≠ .invalidAddress) (address : Address) (n : Nat) :
    Avoids r (load address n) := by
  intro m after hrun
  rw [run_load] at hrun
  obtain ⟨other, he, rfl⟩ :=
    raises_invalidAddress_load m.memory address n _ (congrArg Prod.fst hrun)
  exact h (Reason.toError_inj.mp he)

/-- Storing with `store` complains about addresses only, just as loading does. -/
theorem avoids_store_of_ne {r : Reason} (h : r ≠ .invalidAddress) (address : Address) (data : Bytes) :
    Avoids r (store address data) := by
  intro m after hrun
  rw [run_store] at hrun
  cases hstore : m.memory.store address data with
  | ok memory =>
    rw [hstore] at hrun
    cases hrun
  | error e =>
    rw [hstore] at hrun
    obtain ⟨other, he, rfl⟩ := raises_invalidAddress_store m.memory address data e hstore
    cases hrun
    exact h (Reason.toError_inj.mp he)

/-- In particular a buffer that cannot be loaded is not refused for the size of an output. -/
theorem avoids_load (address : Address) (n : Nat) : Avoids .outTooSmall (load address n) :=
  avoids_load_of_ne (by decide) address n

/-- In particular a buffer that cannot be written is not refused for the size of an output. -/
theorem avoids_store (address : Address) (data : Bytes) : Avoids .outTooSmall (store address data) :=
  avoids_store_of_ne (by decide) address data

/-- Finding the key of a service with `serviceKey` never fails for the size of an output. -/
theorem avoids_serviceKey (service : UInt32) (kind : Service) (key : UInt32) :
    Avoids .outTooSmall (serviceKey service kind key) :=
  avoids_engine fun e => avoids_bind (avoids_serviceStore e service kind) fun found =>
    avoids_lift (raises_get found.2 key).ne_outTooSmall

/-- Storing a key with `storeKey` never fails for the size of an output, although it may for the room in a
group. -/
theorem avoids_storeKey (service identifier : UInt32) (flags : UInt8) (entry : KeyEntry) :
    Avoids .outTooSmall (storeKey service identifier flags entry) :=
  avoids_engine fun e => avoids_bind (avoids_serviceStore e service .keyManagement) fun found =>
    avoids_bind (avoids_lift (raises_insert found.2 identifier _ entry).ne_outTooSmall) fun _ =>
      avoids_bind nofun fun _ => avoids_pure _

/-- **Generating a key with `generateKey` is not refused for its size** where the public key of its type
fits the buffer. -/
theorem avoids_generateKey {m : Wire.GenerateKey} (minMacLength : UInt8)
    (h : ∀ keyType, KeyType.ofCode? m.keyType = some keyType →
      keyType.publicLength ≤ m.outputSize.toNat) :
    Avoids .outTooSmall (generateKey m minMacLength) := by
  refine avoids_known_bind nofun fun keyType htype => ?_
  refine avoids_bind_of ?_ fun machine keys after hrun => ?_
  · intro machine after hrun
    rw [run_generateMaterial] at hrun
    cases hrun
  · -- The public key that was made has the length of its type, which the output has room for.
    have hlength := length_of_generateMaterial (congrArg Prod.fst hrun)
    refine avoids_bind (avoids_demand fun hsmall => ?_) fun _ => ?_
    · rw [hlength] at hsmall
      exact absurd (h keyType htype) (of_decide_eq_false hsmall)
    · exact avoids_bind (avoids_storeKey _ _ _ _) fun _ =>
        avoids_bind (avoids_store _ _) fun _ => avoids_pure _

/-- Generating a key always fails where the public key does not fit, if not with `outTooSmall`, then
because something before was wrong. -/
theorem fails_generateKey {m : Wire.GenerateKey} (minMacLength : UInt8) {keyType : KeyType}
    (htype : KeyType.ofCode? m.keyType = some keyType) (h : m.outputSize.toNat < keyType.publicLength) :
    Fails (generateKey m minMacLength) := by
  unfold generateKey
  rw [htype]
  refine fails_bind_of fun _ found _ hfound => ?_
  cases hfound
  refine fails_bind_of fun machine keys after hrun => ?_
  have hlength := length_of_generateMaterial (congrArg Prod.fst hrun)
  exact (fails_demand (decide_eq_false (by rw [hlength]; exact Nat.not_le.mpr h)) _).bind _

/-- A `Cipher` request whose output is as large as its input is not refused for its size. -/
theorem avoids_cipher {m : Wire.Cipher} (h : m.inputSize ≤ m.outputSize) :
    Avoids .outTooSmall (cipher m) := by
  refine avoids_bind (avoids_serviceKey _ _ _) fun key => ?_
  refine avoids_bind (avoids_demand nofun) fun _ => avoids_known_bind nofun fun direction _ => ?_
  refine avoids_bind (avoids_demand fun hsmall => absurd h (of_decide_eq_false hsmall)) fun _ => ?_
  refine avoids_bind (avoids_load _ _) fun data => avoids_known_bind nofun fun mode _ => ?_
  have hrest (iv : Bytes) : Avoids .outTooSmall (do
      let result ← lift (mode.apply direction key.material iv data)
      store m.outputAddress.toUInt64 result
      return m.inputSize) :=
    avoids_bind (avoids_lift (raises_apply _ _ _ _ _).ne_outTooSmall) fun result =>
      avoids_bind (avoids_store _ _) fun _ => avoids_pure _
  cases mode with
  | ecb => exact avoids_bind (avoids_pure _) hrest
  | cbc => exact avoids_bind (avoids_load _ _) hrest

/-- A `Cipher` request whose output is smaller than its input always fails. -/
theorem fails_cipher {m : Wire.Cipher} (h : ¬m.inputSize ≤ m.outputSize) : Fails (cipher m) :=
  fails_bind fun _ => fails_bind fun _ => fails_bind fun _ => (fails_demand (decide_eq_false h) _).bind _

/-- A `hash` request is not refused for its size where the digest of its algorithm fits; unknown
algorithms are refused as such. -/
theorem avoids_hash {m : Wire.Hash} (h : ∀ algorithm, HashAlgorithm.ofCode? m.algorithm = some algorithm →
    algorithm.digestSize ≤ m.outputSize.toNat) : Avoids .outTooSmall (hash m) := by
  refine avoids_engine fun e => avoids_bind (avoids_serviceParent e _ _) fun _ => ?_
  refine avoids_bind (avoids_demand nofun) fun _ => avoids_bind (avoids_load _ _) fun message => ?_
  refine avoids_known_bind nofun fun algorithm halgorithm => ?_
  refine avoids_bind (avoids_demand fun hsmall => ?_) fun _ => avoids_store _ _
  exact absurd (h algorithm halgorithm) (of_decide_eq_false hsmall)

/-- A `hash` request that does not fit always fails. -/
theorem fails_hash {m : Wire.Hash} {algorithm : HashAlgorithm}
    (halgorithm : HashAlgorithm.ofCode? m.algorithm = some algorithm)
    (h : m.outputSize.toNat < algorithm.digestSize) : Fails (hash m) := by
  unfold hash
  rw [halgorithm]
  refine fails_bind fun e => fails_bind fun _ => fails_bind fun _ => fails_bind fun message => ?_
  refine fails_bind_of fun _ found _ hfound => ?_
  cases hfound
  exact (fails_demand (decide_eq_false (Nat.not_le.mpr h)) _).bind _

/-- A `SignTask` whose buffer takes a signature of its scheme is not refused for its size. -/
theorem avoids_sign {task : SignTask} (h : task.scheme.signatureSize ≤ task.signatureSize.toNat) :
    Avoids .outTooSmall (sign task) := by
  refine avoids_bind (avoids_serviceKey _ _ _) fun key => avoids_bind (avoids_demand nofun) fun _ => ?_
  refine avoids_bind (avoids_demand fun hsmall => absurd h (of_decide_eq_false hsmall)) fun _ => ?_
  refine avoids_bind (avoids_load _ _) fun message => avoids_known_bind nofun fun signature _ => ?_
  exact avoids_bind (avoids_store _ _) fun _ => avoids_pure _

/-- A `SignTask` whose buffer is too small for its scheme always fails. -/
theorem fails_sign {task : SignTask} (h : task.signatureSize.toNat < task.scheme.signatureSize) :
    Fails (sign task) :=
  fails_bind fun _ => fails_bind fun _ => (fails_demand (decide_eq_false (Nat.not_le.mpr h)) _).bind _

/-- The task of a legacy request has the scheme that the request names, and the size that it tells. -/
theorem SignTask.ofLegacy?_eq_some {m : Wire.SignLegacy} {task : SignTask}
    (h : SignTask.ofLegacy? m = some task) :
    SignatureScheme.ofLegacyId? m.scheme = some task.scheme ∧ task.signatureSize = m.signatureSize := by
  obtain ⟨scheme, hscheme, rfl⟩ := Option.map_eq_some_iff.mp h
  exact ⟨hscheme, rfl⟩

/-- The task of a PSA request has the scheme that the request names, and the size that it tells. -/
theorem SignTask.ofPsa?_eq_some {m : Wire.SignPsa} {task : SignTask}
    (h : SignTask.ofPsa? m = some task) :
    SignatureScheme.ofPsaId? m.scheme = some task.scheme ∧ task.signatureSize = m.signatureSize := by
  obtain ⟨scheme, hscheme, rfl⟩ := Option.map_eq_some_iff.mp h
  exact ⟨hscheme, rfl⟩

variable {flavor : Flavor} {c : Command}

/-- **A request that does not lack room is not refused for its size**: `outTooSmall` always has to do with
`Command.Lacks`. -/
theorem avoids_handle (hc : c.judgesRoom = true) {m : c.Request flavor} (h : ¬c.Lacks m) :
    Avoids .outTooSmall (handle flavor c m) := by
  -- The same cases as in `fails_handle`, the other way round: with enough room the check is passed, and
  -- nothing behind it reports a small output.
  cases c with
  | generateKey | generateKeyExt =>
    refine avoids_generateKey _ fun keyType htype => Nat.le_of_not_lt fun hsmall => h ?_
    exact ⟨_, congrArg (Option.map _) htype, _, List.mem_singleton_self _, rfl, hsmall⟩
  | cipher =>
    refine avoids_cipher (UInt32.le_iff_toNat_le.mpr (Nat.le_of_not_lt fun hsmall => h ?_))
    exact ⟨_, rfl, _, List.mem_cons_of_mem _ (List.mem_cons_of_mem _ (List.mem_singleton_self _)), rfl,
      hsmall⟩
  | hash =>
    refine avoids_hash fun algorithm halgorithm => Nat.le_of_not_lt fun hsmall => h ?_
    exact ⟨_, congrArg (Option.map _) halgorithm, _, List.mem_cons_of_mem _ (List.mem_singleton_self _),
      rfl, hsmall⟩
  | sign =>
    cases flavor with
    | legacy =>
      refine avoids_known_bind nofun fun task htask => ?_
      obtain ⟨hscheme, hsize⟩ := SignTask.ofLegacy?_eq_some htask
      refine avoids_bind (avoids_sign (Nat.le_of_not_lt fun hsmall => h ?_)) fun _ => avoids_pure _
      exact ⟨_, congrArg (Option.map _) hscheme, _, List.mem_cons_of_mem _ (List.mem_singleton_self _),
        rfl, hsize ▸ hsmall⟩
    | psa =>
      refine avoids_known_bind nofun fun task htask => ?_
      obtain ⟨hscheme, hsize⟩ := SignTask.ofPsa?_eq_some htask
      refine avoids_bind (avoids_sign (Nat.le_of_not_lt fun hsmall => h ?_)) fun _ => avoids_pure _
      exact ⟨_, congrArg (Option.map _) hscheme, _, List.mem_cons_of_mem _ (List.mem_singleton_self _),
        rfl, hsize ▸ hsmall⟩
  | _ => cases hc

/-- **A request that `Lacks` room is always refused**, whatever else may be wrong with it. -/
theorem fails_handle (hc : c.judgesRoom = true) {m : c.Request flavor} (h : c.Lacks m) :
    Fails (handle flavor c m) := by
  obtain ⟨length, hlength, buffer, hbuffer, houtput, hsmall⟩ := h
  -- One case for each command that declares an output room; the others are excluded by `judgesRoom`.
  cases c with
  | generateKey | generateKeyExt =>
    obtain ⟨keyType, htype, rfl⟩ := Option.map_eq_some_iff.mp hlength
    obtain rfl := List.mem_singleton.mp hbuffer
    exact fails_generateKey _ htype hsmall
  | cipher =>
    cases hlength
    simp only [Command.references, List.mem_cons, List.not_mem_nil, or_false] at hbuffer
    obtain rfl | rfl | rfl := hbuffer
    · cases houtput
    · cases houtput
    · exact fails_cipher fun hle => absurd hsmall (Nat.not_lt.mpr (UInt32.le_iff_toNat_le.mp hle))
  | hash =>
    obtain ⟨algorithm, halgorithm, rfl⟩ := Option.map_eq_some_iff.mp hlength
    simp only [Command.references, List.mem_cons, List.not_mem_nil, or_false] at hbuffer
    obtain rfl | rfl := hbuffer
    · cases houtput
    · exact fails_hash halgorithm hsmall
  | sign =>
    cases flavor with
    | legacy =>
      obtain ⟨scheme, hscheme, rfl⟩ := Option.map_eq_some_iff.mp hlength
      simp only [Command.references, List.mem_cons, List.not_mem_nil, or_false] at hbuffer
      obtain rfl | rfl := hbuffer
      · cases houtput
      refine fails_bind_of fun _ task _ hrun => (fails_sign ?_).bind _
      obtain ⟨htask, hsize⟩ := SignTask.ofLegacy?_eq_some (eq_some_of_run_known hrun)
      rw [hsize, ← Option.some.inj (hscheme.symm.trans htask)]
      exact hsmall
    | psa =>
      obtain ⟨scheme, hscheme, rfl⟩ := Option.map_eq_some_iff.mp hlength
      simp only [Command.references, List.mem_cons, List.not_mem_nil, or_false] at hbuffer
      obtain rfl | rfl := hbuffer
      · cases houtput
      refine fails_bind_of fun _ task _ hrun => (fails_sign ?_).bind _
      obtain ⟨htask, hsize⟩ := SignTask.ofPsa?_eq_some (eq_some_of_run_known hrun)
      rw [hsize, ← Option.some.inj (hscheme.symm.trans htask)]
      exact hsmall
  | _ => cases hc

end Engine

end SecureEngine
