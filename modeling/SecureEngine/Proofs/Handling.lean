import SecureEngine.Emulator.Execution
import SecureEngine.Proofs.Framing
import SecureEngine.Proofs.ObjectTree
import SecureEngine.Proofs.Searches

/-! # Effects on the objects of an engine

* **`Command.Finds`** — whether what a command is addressed to is open.
* **`Engine.Effect`** — what a command that succeeds does to the objects.
* **`Engine.Blames`** — an unknown handle is reported only if something is not open.
* **`Handling.Quiet`** — computations that leave the objects alone; **`Handling.Acts`** — computations
  with an effect on them, and with none when they fail. -/

namespace SecureEngine

/-! ## (1) What commands find -/

namespace Engine

variable {objects : IdMap EngineObject} {handle : UInt32}

/-- **A key store is open under a handle**, on whatever session and with whatever identifier its
`EngineObject` has. -/
def IsKeyStore (objects : IdMap EngineObject) (handle : UInt32) : Prop :=
  ∃ parent identifier, objects.find? handle = some (.keyStore parent identifier)

/-- **A service of a kind is open under a handle**, and so is the key store it works on, if it works
on one. -/
def IsService (objects : IdMap EngineObject) (kind : Service) (handle : UInt32) : Prop :=
  ∃ parent, objects.find? handle = some (.service kind parent) ∧
    (kind.scope = .keyStore → IsKeyStore objects parent)

/-- Services of a kind can be opened on a handle: a session or a key store is open under it, whichever the
`scope` of the kind asks for. -/
def IsParent (objects : IdMap EngineObject) (kind : Service) (handle : UInt32) : Prop :=
  match kind.scope with
  | .session => objects.find? handle = some .session
  | .keyStore => IsKeyStore objects handle

end Engine

open Engine in
/-- **What a command is addressed to is open**, and of the kind that the handler of this `Command` looks
for. -/
def Command.Finds (objects : IdMap EngineObject) : Command → UInt32 → Prop
  | .closeSession, a | .sharedBuffer, a | .openKeyStore, a | .random, a =>
    objects.find? a = some .session
  | .closeKeyStore, a => IsKeyStore objects a
  | .openService kind, a => IsParent objects kind a
  | .closeService kind, a => IsService objects kind a
  | .generateKey, a | .generateKeyExt, a | .importKey, a | .deleteKey, a | .manageKey, a =>
    IsService objects .keyManagement a
  | .mac, a => IsService objects .mac a
  | .cipher, a => IsService objects .cipher a
  | .hash, a => IsService objects .hash a
  | .sign, a | .prepareSign, a => IsService objects .signatureGeneration a
  | .verify, a => IsService objects .signatureVerification a
  | .openSession, _ | .sheGenerateMac, _ | .sheVerifyMac, _ | .sheInitRng, _ | .sheExtendSeed, _
  | .sheRandom, _ | .sheStatus, _ | .sheIdentity, _ => True

/-- Commands of a service find what they are addressed to where `Engine.IsService` says it is open. -/
theorem Command.finds_of_worker {objects : IdMap EngineObject} {c : Command} {kind : Service}
    {a : UInt32} (hc : c.worker? = some kind) (h : Engine.IsService objects kind a) :
    c.Finds objects a := by
  cases c with
  | openService | closeService => cases hc
  | _ => first | (cases hc; exact h) | cases hc

/-- Commands asked of the session find it where an `EngineObject.session` is open. -/
theorem Command.finds_of_isGlobal {objects : IdMap EngineObject} {c : Command} {a : UInt32}
    (hc : c.isGlobal) (h : objects.find? a = some .session) : c.Finds objects a := by
  cases c with
  | random => exact h
  | sheGenerateMac | sheVerifyMac | sheInitRng | sheExtendSeed | sheRandom | sheStatus
  | sheIdentity => exact trivial
  | _ => cases hc

/-! ## (2) What commands do -/

namespace Engine

/-- **An object is opened** under a handle that stood for nothing and is not null, and `IdMap.insert` adds
just that. -/
def Opens (objects : IdMap EngineObject) (handle : UInt32) (object : EngineObject)
    (after : IdMap EngineObject) : Prop :=
  objects.find? handle = none ∧ handle ≠ 0 ∧ after = objects.insert handle object

section

variable {objects after : IdMap EngineObject} {handle a : UInt32} {object o : EngineObject}

/-- A handle that stood for something is not the one that `Opens` hands out. -/
theorem Opens.ne (h : Opens objects handle object after) (ha : objects.find? a = some o) :
    a ≠ handle := by
  rintro rfl
  rw [h.1] at ha
  cases ha

/-- The new object is open under the handle it was opened under, as `IdMap.find?` of what was inserted. -/
theorem Opens.found (h : Opens objects handle object after) : after.find? handle = some object := by
  rw [h.2.2, IdMap.find?_insert, if_pos rfl]

/-- What was open stays open, under the handle it had: `Opens` only adds to the objects. -/
theorem Opens.kept (h : Opens objects handle object after) (ha : objects.find? a = some o) :
    after.find? a = some o := by
  rw [h.2.2, IdMap.find?_insert, if_neg (h.ne ha), ha]

/-- What is open after `Opens` is the new object, or was open before under the same handle. -/
theorem Opens.eq_or_find? (h : Opens objects handle object after) (ha : after.find? a = some o) :
    a = handle ∧ o = object ∨ objects.find? a = some o := by
  rw [h.2.2, IdMap.find?_insert] at ha
  split at ha
  · rename_i he
    exact Or.inl ⟨he, (Option.some.inj ha).symm⟩
  · exact Or.inr ha

end

/-- **An open object is removed** with everything below it: what `find?` gives afterwards is what it gave
before, for whatever is not `Below` the root. -/
def Removes (objects : IdMap EngineObject) (root : UInt32) (after : IdMap EngineObject) : Prop :=
  ∀ h object, after.find? h = some object ↔
    objects.find? h = some object ∧ ¬Below objects root h

/-- **What a command that succeeds does to the objects**: an opening `Opens` one, a closing `Removes` a
tree, and any other leaves them all. -/
def Effect {flavor : Flavor} (objects after : IdMap EngineObject) :
    (c : Command) → c.Request flavor → c.Response flavor → Prop
  | .openSession, _, handle => Opens objects handle .session after
  | .openKeyStore, m, handle =>
    objects.find? m.session = some .session ∧
      Opens objects handle (.keyStore m.session m.identifier) after
  | .openService kind, m, handle =>
    IsParent objects kind m.parent ∧ Opens objects handle (.service kind m.parent) after
  | .closeSession, root, _ => objects.find? root = some .session ∧ Removes objects root after
  | .closeKeyStore, root, _ => IsKeyStore objects root ∧ Removes objects root after
  | .closeService kind, root, _ =>
    (∃ parent, objects.find? root = some (.service kind parent)) ∧ Removes objects root after
  | _, _, _ => after = objects

/-- **An error blames an unknown handle** only if something was not found. Engines only report errors
of the catalogue. -/
def Blames (found : Prop) (e : EngineError) : Prop :=
  ∃ r : Reason, e = r.toError ∧ (r = .unknownHandle → ¬found)

/-- **What a command does to an engine**: a failure changes no object and `Blames` an unknown handle only
if the addressee was not found; a success has its `Effect`. -/
structure Handled {flavor : Flavor} {c : Command} (m : c.Request flavor) (before : Engine)
    (result : Except EngineError (c.Response flavor)) (after : Engine) : Prop where
  settings_eq : after.settings = before.settings
  failed : ∀ e, result = .error e → after.objects = before.objects ∧
    Blames (∀ a, c.addressee? m = some a → c.Finds before.objects a) e
  succeeded : ∀ response, result = .ok response →
    Effect before.objects after.objects c m response

/-- An error of the catalogue that is not `unknownHandle` blames nothing, whatever was found. -/
theorem blames_of_ne {found : Prop} {r : Reason} (h : r ≠ .unknownHandle) :
    Blames found r.toError :=
  ⟨r, rfl, fun hr => absurd hr h⟩

/-- An error that blames a handle where less was found may do so where more was needed: `Blames` is
antitone in what counts as found. -/
theorem Blames.imp {found found' : Prop} {e : EngineError} (h : Blames found e)
    (hf : found' → found) : Blames found' e := by
  obtain ⟨r, he, hr⟩ := h
  exact ⟨r, he, fun hu hfound => hr hu (hf hfound)⟩

/-! ## (3) Looking up -/

/-- **A look-up fails for reasons of some kind only**: whatever error it gives is that of a `Reason` with
the property. -/
def Raises {α : Type} (p : Reason → Prop) (r : Except EngineError α) : Prop :=
  ∀ e, r = .error e → ∃ reason : Reason, e = reason.toError ∧ p reason

/-- The reasons that are about neither handles nor the room for an output nor messages. -/
def isPlain (r : Reason) : Bool := r != .unknownHandle && r != .outTooSmall && !r.isFraming

section

variable {α β : Type} {p q : Reason → Prop}

/-- A look-up that succeeds fails for no reason, so for reasons of any kind. -/
theorem raises_ok (a : α) : Raises p (.ok a : Except EngineError α) := nofun

/-- A look-up that fails for one reason fails for reasons of any kind this one is of. -/
theorem raises_error {r : Reason} (h : p r) :
    Raises p (.error r.toError : Except EngineError α) := by
  intro e he
  cases he
  exact ⟨r, rfl, h⟩

/-- Two look-ups in a row fail for reasons of one kind if both do; the second may rely on the result of
the first. -/
theorem raises_bind {x : Except EngineError α} {f : α → Except EngineError β} (hx : Raises p x)
    (hf : ∀ a, x = .ok a → Raises p (f a)) : Raises p (x >>= f) := by
  -- The failure is that of the first part, or of the second.
  cases x with
  | error e =>
    intro e' he
    cases he
    exact hx e rfl
  | ok a => exact hf a rfl

/-- Reasons of one kind may be taken for reasons of a wider one, so `Raises` is monotone in the
property. -/
theorem Raises.imp {r : Except EngineError α} (h : Raises p r) (hpq : ∀ r, p r → q r) :
    Raises q r := by
  intro e he
  obtain ⟨reason, hreason, hp⟩ := h e he
  exact ⟨reason, hreason, hpq reason hp⟩

/-- A plain reason is not one about messages: of the reasons in `Reason.isFraming`, `isPlain` has none. -/
theorem Raises.unframed {r : Except EngineError α} (h : Raises (isPlain · = true) r) :
    Raises (·.isFraming = false) r :=
  h.imp fun _ hplain => by simpa using (Bool.and_eq_true_iff.mp hplain).2

/-- Key stores know nothing of handles: `KeyStore.get` fails for plain reasons only. -/
theorem raises_get (store : KeyStore) (id : UInt32) : Raises (isPlain · = true) (store.get id) := by
  unfold KeyStore.get
  split
  · exact raises_ok _
  · exact raises_error rfl

/-- `KeyStore.insert` fails for plain reasons only, in whichever of its checks. -/
theorem raises_insert (store : KeyStore) (id : UInt32) (flags : StorageFlags) (entry : KeyEntry) :
    Raises (isPlain · = true) (store.insert id flags entry) := by
  unfold KeyStore.insert
  refine raises_bind ?_ fun id _ => ?_
  · unfold KeyStore.choose
    split
    · split
      · split
        · exact raises_ok _
        · exact raises_error rfl
      · split
        · exact raises_error rfl
        · exact raises_ok _
    · split
      · refine raises_bind (raises_get _ _) fun held _ => ?_
        split
        · exact raises_ok _
        · exact raises_error rfl
      · exact raises_error rfl
  · split
    · exact raises_error rfl
    · exact raises_ok _

/-- `KeyStore.remove` fails for plain reasons only, for a key that is not there as well as for a permanent
one. -/
theorem raises_remove (store : KeyStore) (id : UInt32) :
    Raises (isPlain · = true) (store.remove id) := by
  unfold KeyStore.remove
  refine raises_bind (raises_get _ _) fun entry _ => ?_
  split
  · exact raises_error rfl
  · exact raises_ok _

/-- A mode of block encryption fails for plain reasons only: about the key, the initial block or the size
of the data. -/
theorem raises_apply (mode : CipherMode) (direction : Direction) (material iv data : Bytes) :
    Raises (isPlain · = true) (mode.apply direction material iv data) := by
  unfold CipherMode.apply
  dsimp only
  split
  · exact raises_error rfl
  split
  · exact raises_error rfl
  split
  · exact raises_error rfl
  · exact raises_ok _

/-- `SharedMemory.load` complains about addresses only, in the search as well as in the area. -/
theorem raises_invalidAddress_load (memory : SharedMemory) (address : Address) (n : Nat) :
    Raises (· = .invalidAddress) (memory.load address n) := by
  rw [SharedMemory.load_exact]
  split
  · exact raises_ok _
  split
  · split
    · exact raises_ok _
    · exact raises_error rfl
  · exact raises_error rfl

/-- `SharedMemory.store` complains about addresses only, just as `SharedMemory.load` does. -/
theorem raises_invalidAddress_store (memory : SharedMemory) (address : Address) (data : Bytes) :
    Raises (· = .invalidAddress) (memory.store address data) :=
  fun _ he => ⟨_, SharedMemory.store_error he, rfl⟩

/-- In particular `SharedMemory.load` fails for plain reasons only. -/
theorem raises_load (memory : SharedMemory) (address : Address) (n : Nat) :
    Raises (isPlain · = true) (memory.load address n) :=
  (raises_invalidAddress_load memory address n).imp fun _ hr => hr ▸ rfl

/-- In particular `SharedMemory.store` fails for plain reasons only. -/
theorem raises_store (memory : SharedMemory) (address : Address) (data : Bytes) :
    Raises (isPlain · = true) (memory.store address data) :=
  (raises_invalidAddress_store memory address data).imp fun _ hr => hr ▸ rfl

end

/-- **A look-up blames an unknown handle** only if something was not found: it `Raises` the reason
`unknownHandle` under that condition only. -/
def Blaming {α : Type} (found : Prop) (r : Except EngineError α) : Prop :=
  Raises (fun reason => reason = .unknownHandle → ¬found) r

section

variable {α : Type} {found : Prop} {engine : Engine} {kind : Service}

/-- A look-up that fails for plain reasons never blames a handle, for none of the `isPlain` ones is
`unknownHandle`. -/
theorem Raises.blaming {r : Except EngineError α} (h : Raises (isPlain · = true) r) :
    Blaming found r :=
  h.imp fun _ hplain hunknown => by
    subst hunknown
    cases hplain

/-- `Engine.checkSession` blames the handle only if no session is open under it. -/
theorem blaming_checkSession (engine : Engine) (handle : UInt32) :
    Blaming (engine.objects.find? handle = some .session) (engine.checkSession handle) := by
  unfold checkSession
  split
  · exact raises_ok ()
  · rename_i hne
    exact raises_error fun _ => hne

/-- `Engine.keyStoreAt` blames the handle only if no key store is open under it. -/
theorem blaming_keyStoreAt (engine : Engine) (handle : UInt32) :
    Blaming (IsKeyStore engine.objects handle) (engine.keyStoreAt handle) := by
  unfold keyStoreAt
  split
  · exact raises_ok _
  · rename_i hne
    exact raises_error fun _ ⟨parent, identifier, hfound⟩ => hne parent identifier hfound

/-- `Engine.serviceParent` blames the handle only if no service of the kind is open under it. -/
theorem blaming_serviceParent (engine : Engine) (handle : UInt32) (kind : Service) :
    Blaming (IsService engine.objects kind handle) (engine.serviceParent handle kind) := by
  unfold serviceParent
  split
  · rename_i k p hfound
    split
    · exact raises_ok p
    · rename_i hne
      refine raises_error fun _ ⟨parent, hservice, _⟩ => hne ?_
      rw [hfound] at hservice
      cases hservice
      rfl
  · rename_i hne
    exact raises_error fun _ ⟨parent, hservice, _⟩ => hne kind parent hservice

/-- A handle that `Engine.checkSession` lets through is that of an open session. -/
theorem checkSession_eq_ok {handle : UInt32} (h : engine.checkSession handle = .ok ()) :
    engine.objects.find? handle = some .session := by
  unfold checkSession at h
  split at h
  · assumption
  · cases h

/-- The identifier that `Engine.keyStoreAt` finds is that of the key store open under the handle, in some
session. -/
theorem keyStoreAt_ok {handle identifier : UInt32} (h : engine.keyStoreAt handle = .ok identifier) :
    ∃ session, engine.objects.find? handle = some (.keyStore session identifier) := by
  unfold keyStoreAt at h
  split at h
  · rename_i session _ hfound
    cases h
    exact ⟨session, hfound⟩
  · cases h

/-- In particular a key store is open where `Engine.keyStoreAt` finds one. -/
theorem keyStoreAt_eq_ok {handle identifier : UInt32}
    (h : engine.keyStoreAt handle = .ok identifier) : IsKeyStore engine.objects handle := by
  obtain ⟨session, hfound⟩ := keyStoreAt_ok h
  exact ⟨session, identifier, hfound⟩

/-- What `Engine.serviceParent` finds is the parent of the service of that kind under the handle. -/
theorem serviceParent_eq_ok {handle parent : UInt32}
    (h : engine.serviceParent handle kind = .ok parent) :
    engine.objects.find? handle = some (.service kind parent) := by
  unfold serviceParent at h
  split at h
  · rename_i k p hfound
    split at h
    · rename_i hk
      cases h
      rw [hfound, hk]
    · cases h
  · cases h

/-- Looking for the key store of a service blames the handle only if the service or its key store is
not open. -/
theorem blaming_serviceStore (engine : Engine) (handle : UInt32) (hkind : kind.scope = .keyStore) :
    Blaming (IsService engine.objects kind handle) (engine.serviceStore handle kind) := by
  unfold serviceStore
  refine raises_bind (blaming_serviceParent engine handle kind) fun parent hparent => ?_
  refine raises_bind (fun e he => ?_) fun identifier _ => ?_
  · -- The service is open, so it is the key store that is not.
    obtain ⟨r, her, hr⟩ := blaming_keyStoreAt engine parent e he
    refine ⟨r, her, fun hunknown ⟨other, hservice, hopen⟩ => hr hunknown ?_⟩
    rw [serviceParent_eq_ok hparent] at hservice
    cases hservice
    exact hopen hkind
  · split
    · exact raises_ok _
    · exact raises_error nofun

end

end Engine

/-! ## (4) Handlers that leave the objects alone -/

namespace Handling

open Engine

variable {α β : Type} {objects : IdMap EngineObject} {found : Prop}

/-- Reading the engine with `engine` changes nothing. -/
theorem run_engine (m : Machine) : engine.run m = (.ok m.engine, m) := rfl

/-- A `demand` that is met changes nothing, and the handler goes on. -/
theorem run_demand_of_true {condition : Bool} (h : condition = true) (r : Reason) (m : Machine) :
    (demand condition r).run m = (.ok (), m) := by
  rw [h]
  rfl

/-- A `demand` that is not met ends a handler with its reason, and changes nothing. -/
theorem run_demand_of_false {condition : Bool} (h : condition = false) (r : Reason) (m : Machine) :
    (demand condition r).run m = (.error r.toError, m) := by
  rw [h]
  rfl

/-- `known` hands on a value that is there, and changes nothing. -/
theorem run_known_ok {x : Option α} {a : α} (h : x = some a) (r : Reason) (m : Machine) :
    (known x r).run m = (.ok a, m) := by
  rw [h]
  rfl

/-- `lift` hands on the value of a computation that succeeds, and changes nothing. -/
theorem run_lift_ok {r : Except EngineError α} {a : α} (h : r = .ok a) (m : Machine) :
    (lift r).run m = (.ok a, m) := by
  rw [h]
  rfl

/-- `lift` fails with the error of a computation that fails, and changes nothing. -/
theorem run_lift_error {r : Except EngineError α} {e : EngineError} (h : r = .error e) (m : Machine) :
    (lift r).run m = (.error e, m) := by
  rw [h]
  rfl

/-- **A computation leaves the objects alone** when it starts with given ones, and blames a handle only
if something was not found. -/
def Quiet (objects : IdMap EngineObject) (found : Prop) (x : Handling α) : Prop :=
  ∀ m : Machine, m.engine.objects = objects →
    (x.run m).2.engine.objects = objects ∧ (x.run m).2.engine.settings = m.engine.settings ∧
      ∀ e, (x.run m).1 = .error e → Blames found e

/-- A value that is just returned with `pure` leaves the objects alone. -/
theorem quiet_pure (a : α) : Quiet objects found (pure a : Handling α) :=
  fun _ h => ⟨h, rfl, nofun⟩

/-- A failure leaves the objects alone, and blames no handle unless its reason is `unknownHandle`. -/
theorem quiet_fail {r : Reason} (h : r ≠ .unknownHandle) :
    Quiet objects found (fail r : Handling α) := by
  intro m hm
  refine ⟨hm, rfl, fun e he => ?_⟩
  cases he
  exact blames_of_ne h

/-- A `demand` leaves the objects alone, whether it is met or not. -/
theorem quiet_demand (condition : Bool) {r : Reason} (h : r ≠ .unknownHandle) :
    Quiet objects found (demand condition r) := by
  unfold demand
  split
  · exact quiet_pure ()
  · exact quiet_fail h

/-- A `known` leaves the objects alone, whether there is a value or not. -/
theorem quiet_known (a : Option α) {r : Reason} (h : r ≠ .unknownHandle) :
    Quiet objects found (known a r) := by
  cases a with
  | some a => exact quiet_pure a
  | none => exact quiet_fail h

/-- A look-up taken into a handler leaves the objects alone, and blames what it blames. -/
theorem quiet_lift {r : Except EngineError α} (h : Blaming found r) : Quiet objects found (lift r) :=
  fun _ hm => ⟨hm, rfl, h⟩

/-- Two `Quiet` computations in a row are quiet: the second one starts with the objects that the first one
has left alone. -/
theorem quiet_bind {x : Handling α} {f : α → Handling β} (hx : Quiet objects found x)
    (hf : ∀ a, Quiet objects found (f a)) : Quiet objects found (x >>= f) := by
  intro m hm
  obtain ⟨hobjects, hsettings, herror⟩ := hx m hm
  rw [run_bind]
  -- Whether the first part fails or not, it has left the objects alone.
  rcases hrun : x.run m with ⟨e | a, t⟩
  · rw [hrun] at hobjects hsettings herror
    refine ⟨hobjects, hsettings, fun e' he => herror e' ?_⟩
    cases he
    rfl
  · rw [hrun] at hobjects hsettings
    obtain ⟨hobjects', hsettings', herror'⟩ := hf a t hobjects
    exact ⟨hobjects', hsettings'.trans hsettings, herror'⟩

/-- What follows a look at the machine sees the objects as they are, and may take them for the given
ones. -/
theorem quiet_get {f : Machine → Handling α}
    (hf : ∀ m, m.engine.objects = objects → Quiet objects found (f m)) :
    Quiet objects found (get >>= f) :=
  fun m hm => hf m hm m hm

/-- What follows a look at the engine sees the objects as they are, just as with `quiet_get`. -/
theorem quiet_engine {f : Engine → Handling α}
    (hf : ∀ e : Engine, e.objects = objects → Quiet objects found (f e)) :
    Quiet objects found (engine >>= f) :=
  fun m hm => hf m.engine hm m hm

/-- A change to the engine that keeps `objects` and `settings` leaves the objects alone. -/
theorem quiet_modifyEngine {f : Engine → Engine}
    (hf : ∀ e, (f e).objects = e.objects ∧ (f e).settings = e.settings) :
    Quiet objects found (modifyEngine f) :=
  fun m hm => ⟨(hf m.engine).1.trans hm, (hf m.engine).2, nofun⟩

/-- Drawing random bytes with `draw` only moves the generator on. -/
theorem quiet_draw (n : Nat) : Quiet objects found (draw n) :=
  quiet_engine fun _ _ => quiet_bind (quiet_modifyEngine fun _ => ⟨rfl, rfl⟩) fun _ => quiet_pure _

/-- Sums are checked without a look at the objects, whatever they come to; `Engine.overflow` is not about
them either. -/
theorem quiet_checked_bind {outcome : Option α} {f : α → Handling β}
    (hf : ∀ a, outcome = some a → Quiet objects found (f a)) :
    Quiet objects found (checked outcome >>= f) := by
  cases outcome with
  | some a => exact hf a rfl
  | none =>
    intro m hm
    refine ⟨hm, rfl, fun e he => ?_⟩
    cases he
    exact blames_of_ne (by decide)

/-- Loading with `load` leaves the objects alone, and blames addresses if anything. -/
theorem quiet_load (address : Address) (n : Nat) : Quiet objects found (load address n) := by
  refine quiet_get fun m _ => quiet_checked_bind fun outcome houtcome => quiet_lift ?_
  rw [← SharedMemory.load_of_load? houtcome]
  exact (raises_load m.memory address n).blaming

/-- Storing with `store` leaves the objects alone, and blames addresses if anything. -/
theorem quiet_store (address : Address) (data : Bytes) :
    Quiet objects found (store address data) := by
  refine quiet_get fun m _ => quiet_checked_bind fun outcome houtcome => ?_
  rw [← SharedMemory.store_of_store? houtcome]
  exact quiet_bind (quiet_lift (raises_store m.memory address data).blaming)
    fun _ _ hm => ⟨hm, rfl, nofun⟩

/-! ## (5) Computations with an effect on the objects -/

/-- **A computation has an effect on the objects** when it succeeds, and none when it fails; it blames a
handle only if something was not found. -/
def Acts (objects : IdMap EngineObject) (found : Prop)
    (effect : α → IdMap EngineObject → Prop) (x : Handling α) : Prop :=
  ∀ m : Machine, m.engine.objects = objects →
    (x.run m).2.engine.settings = m.engine.settings ∧
      (∀ e, (x.run m).1 = .error e → (x.run m).2.engine.objects = objects ∧ Blames found e) ∧
      ∀ a, (x.run m).1 = .ok a → effect a (x.run m).2.engine.objects

section

variable {effect : β → IdMap EngineObject → Prop}

/-- A computation that leaves the objects alone has any effect that they have already. -/
theorem acts_of_quiet {x : Handling β} (hx : Quiet objects found x)
    (h : ∀ a, effect a objects) : Acts objects found effect x := by
  intro m hm
  obtain ⟨hobjects, hsettings, herror⟩ := hx m hm
  exact ⟨hsettings, fun e he => ⟨hobjects, herror e he⟩, fun a _ => hobjects ▸ h a⟩

/-- What comes before an action may look things up: a `Quiet` part in front of what `Acts` gives something
that acts in the same way. -/
theorem acts_bind {x : Handling α} {f : α → Handling β} (hx : Quiet objects found x)
    (hf : ∀ a, Acts objects found effect (f a)) : Acts objects found effect (x >>= f) := by
  intro m hm
  obtain ⟨hobjects, hsettings, herror⟩ := hx m hm
  rw [run_bind]
  -- A quiet computation hands the same objects on, so the effect of `f` is the effect of all.
  rcases hrun : x.run m with ⟨e | a, t⟩
  · rw [hrun] at hobjects hsettings herror
    refine ⟨hsettings, fun e' he => ⟨hobjects, herror e' ?_⟩, nofun⟩
    cases he
    rfl
  · rw [hrun] at hobjects hsettings
    obtain ⟨hsettings', hrest⟩ := hf a t hobjects
    exact ⟨hsettings'.trans hsettings, hrest⟩

/-- What follows a look at the engine may take its objects for the given ones before it acts. -/
theorem acts_engine {f : Engine → Handling β}
    (hf : ∀ e : Engine, e.objects = objects → Acts objects found effect (f e)) :
    Acts objects found effect (engine >>= f) :=
  fun m hm => hf m.engine hm m hm

/-- What follows a look-up may rely on its having succeeded before it `Acts`, and the look-up itself is
`Blaming`. -/
theorem acts_lift {r : Except EngineError α} {f : α → Handling β} (hr : Blaming found r)
    (hf : ∀ a, r = .ok a → Acts objects found effect (f a)) :
    Acts objects found effect (lift r >>= f) := by
  cases r with
  | error e =>
    intro m hm
    refine ⟨rfl, fun e' he => ⟨hm, hr e' ?_⟩, nofun⟩
    cases he
    rfl
  | ok a => exact hf a rfl

end

/-- The course of `record`: the handle that `Engine.allocate` hands out with the engine it leaves, or its
error with the machine as it was. -/
theorem run_record (object : EngineObject) (m : Machine) :
    (record object).run m = match m.engine.allocate object with
      | .ok (handle, engine) => (.ok handle, { m with engine })
      | .error e => (.error e, m) := by
  unfold record
  rw [run_bind_ok (run_engine m)]
  rcases m.engine.allocate object with e | ⟨handle, engine⟩ <;> rfl

/-- Recording an object opens it, under a handle that stood for nothing: `Handling.record` has the effect
`Opens`. -/
theorem acts_record (object : EngineObject) :
    Acts objects found (fun handle after => Opens objects handle object after) (record object) := by
  intro m hm
  rw [run_record]
  -- Without a free handle the engine is full, which blames nothing.
  cases halloc : m.engine.allocate object with
  | error e =>
    refine ⟨rfl, fun e' he => ?_, nofun⟩
    cases he
    exact ⟨hm, allocate_error halloc ▸ blames_of_ne (by decide)⟩
  | ok allocated =>
    obtain ⟨handle, engine⟩ := allocated
    obtain ⟨hfree, hne, rfl⟩ := allocate_ok halloc
    subst hm
    refine ⟨rfl, nofun, fun h hok => ?_⟩
    cases hok
    exact ⟨hfree, hne, rfl⟩

/-- `Engine.removeTree` removes an open object together with everything below it. -/
theorem acts_removeTree {root : UInt32} {r : EngineObject} (hroot : objects.find? root = some r) :
    Acts objects found (fun _ after => Removes objects root after)
      (modifyEngine (·.removeTree root)) := by
  intro m hm
  subst hm
  exact ⟨rfl, nofun, fun _ _ _ _ => find?_removeTree hroot⟩

/-- An effect may be put in other words, if these say no more about the objects. -/
theorem Acts.imp {effect effect' : α → IdMap EngineObject → Prop} {x : Handling α}
    (h : Acts objects found effect x) (he : ∀ a after, effect a after → effect' a after) :
    Acts objects found effect' x := by
  intro m hm
  obtain ⟨hsettings, herror, hok⟩ := h m hm
  exact ⟨hsettings, herror, fun a ha => he a _ (hok a ha)⟩

end Handling

end SecureEngine
