import SecureEngine.Proofs.KeyStores

/-! # The objects of an engine in order

Handles are reused, so a handle that an object keeps as its parent must never stand for something else.

* **`Engine.Fits`** — what an object needs of the others: a live parent of the right kind, and for a key
  store that there is one of its name.
* **`Engine.Orderly`** — the objects fit each other, there is room for them, their handles are not below
  the lowest one, and no key store is open twice.
* **`Engine.orderly_step`** — every request keeps the objects in order.
* **`Engine.orderly_afterAll`** — they are in order after any run of requests to a new engine. -/

namespace SecureEngine.Engine

/-! ## (1) Objects that fit -/

/-- **What an object needs**: a `KeyStore` its session, and a key store of its name; a service what
services of its kind are opened on. -/
def Fits (objects : IdMap EngineObject) (keyStores : IdMap KeyStore) : EngineObject → Prop
  | .session => True
  | .keyStore session name =>
    objects.find? session = some .session ∧ ∃ store, keyStores.find? name = some store
  | .service kind parent => IsParent objects kind parent

/-- What was a parent is one while it is open: `IsParent` looks at the one object under its handle. -/
theorem IsParent.kept {objects others : IdMap EngineObject} {kind : Service} {parent : UInt32}
    (h : IsParent objects kind parent)
    (hparent : ∀ o, objects.find? parent = some o → others.find? parent = some o) :
    IsParent others kind parent := by
  unfold IsParent at h ⊢
  split at h
  · exact hparent _ h
  · obtain ⟨session, name, hfound⟩ := h
    exact ⟨session, name, hparent _ hfound⟩

/-- **An object fits while its parent stays open** and no `KeyStore` goes. -/
theorem Fits.kept {objects others : IdMap EngineObject} {keyStores after : IdMap KeyStore}
    {object : EngineObject} (h : Fits objects keyStores object)
    (hparent : ∀ parent o, object.parent? = some parent → objects.find? parent = some o →
      others.find? parent = some o)
    (hstores : ∀ name store, keyStores.find? name = some store →
      ∃ store, after.find? name = some store) :
    Fits others after object := by
  -- Each object looks at its parent alone, and a key store at its store as well.
  cases object with
  | session => exact trivial
  | keyStore session name =>
    obtain ⟨hsession, store, hstore⟩ := h
    exact ⟨hparent session _ rfl hsession, hstores name store hstore⟩
  | service kind parent => exact IsParent.kept h fun o => hparent parent o rfl

/-- **The objects of an engine are in order**: not too many, each on a parent of the right kind that is
open, and no key store open twice. -/
structure Orderly (engine : Engine) : Prop where
  size_le : engine.objects.size ≤ engine.settings.maxObjects
  handleBase_le : ∀ handle object, engine.objects.find? handle = some object → handleBase ≤ handle
  /-- What an object was opened on is open, and of the right kind; a key store that is open exists. -/
  fits : ∀ handle object, engine.objects.find? handle = some object →
    Fits engine.objects engine.keyStores object
  /-- No key store is open twice. -/
  eq_of_keyStore : ∀ handle other session session' name,
    engine.objects.find? handle = some (.keyStore session name) →
    engine.objects.find? other = some (.keyStore session' name) → handle = other

/-- Nothing is open at the start, so `Engine.start` is `Orderly` with any settings. -/
theorem orderly_start (settings : EngineSettings) : (start settings).Orderly where
  size_le := Nat.zero_le _
  handleBase_le := nofun
  fits := nofun
  eq_of_keyStore := nofun

/-! ## (2) Steps -/

/-- **An engine goes on from another one**: its settings are the same, and no key store is gone. -/
structure Continues (before after : Engine) : Prop where
  settings_eq : after.settings = before.settings
  exists_store : ∀ name store, before.keyStores.find? name = some store →
    ∃ store, after.keyStores.find? name = some store

namespace Orderly

variable {before after : Engine}

/-- **Recording an object that `Fits`** keeps the objects in order, if it is no second handle of a key
store. -/
theorem records {object : EngineObject} (h : before.Orderly) (hcontinues : Continues before after)
    (hrecords : Records before object after.objects)
    (hfits : Fits before.objects after.keyStores object)
    (hnew : ∀ session name, object = .keyStore session name → ∀ handle session',
      before.objects.find? handle ≠ some (.keyStore session' name)) :
    after.Orderly := by
  obtain ⟨free, hbase, hroom, hopens⟩ := hrecords.exists_opens
  -- Parents stay open, because the new handle stood for nothing.
  have hkept (parent : UInt32) (o : EngineObject) (ho : before.objects.find? parent = some o) :
      after.objects.find? parent = some o := hopens.kept ho
  constructor
  case size_le =>
    have hsize := IdMap.size_insert_le before.objects free object
    rw [hopens.2.2, hcontinues.settings_eq]
    omega
  case handleBase_le =>
    intro handle o ho
    rcases hopens.eq_or_find? ho with ⟨rfl, -⟩ | ho
    · exact hbase
    · exact h.handleBase_le handle o ho
  case fits =>
    intro handle o ho
    rcases hopens.eq_or_find? ho with ⟨-, rfl⟩ | ho
    · exact hfits.kept (fun parent p _ => hkept parent p) fun name store hstore => ⟨store, hstore⟩
    · exact (h.fits handle o ho).kept (fun parent p _ => hkept parent p) hcontinues.exists_store
  case eq_of_keyStore =>
    intro handle other session session' name ho ho'
    rcases hopens.eq_or_find? ho with ⟨hhandle, hobject⟩ | ho
    · rcases hopens.eq_or_find? ho' with ⟨hother, -⟩ | ho'
      · rw [hhandle, hother]
      · exact absurd ho' (hnew session name hobject.symm other session')
    · rcases hopens.eq_or_find? ho' with ⟨-, hobject⟩ | ho'
      · exact absurd ho (hnew session' name hobject.symm handle session)
      · exact h.eq_of_keyStore handle other session session' name ho ho'

/-- **Removing a tree** keeps the objects in order: what stays is not below the root, so its parent
stays too. -/
theorem closes {root : UInt32} (h : before.Orderly) (hcontinues : Continues before after)
    (hcloses : Closes before after root) : after.Orderly := by
  have hremoves := hcloses.removes
  constructor
  case size_le =>
    obtain ⟨-, hobjects, -⟩ := hcloses
    calc after.objects.size = (before.removeTree root).objects.size := by rw [hobjects]
      _ ≤ before.objects.size := IdMap.size_filter_le _ _
      _ ≤ before.settings.maxObjects := h.size_le
      _ = after.settings.maxObjects := by rw [hcontinues.settings_eq]
  case handleBase_le =>
    intro handle o ho
    exact h.handleBase_le handle o ((hremoves handle o).mp ho).1
  case fits =>
    intro handle o ho
    obtain ⟨ho, hbelow⟩ := (hremoves handle o).mp ho
    refine (h.fits handle o ho).kept (fun parent p hparent hp => ?_) hcontinues.exists_store
    -- The parent of what stays is not below the root either, so it stays too.
    have hstays : ¬Below before.objects root parent := by
      intro hbelow'
      exact hbelow (.step ((parentOf?_of_find? ho).trans hparent) hbelow')
    exact (hremoves parent p).mpr ⟨hp, hstays⟩
  case eq_of_keyStore =>
    intro handle other session session' name ho ho'
    have hhandle := ((hremoves handle _).mp ho).1
    have hother := ((hremoves other _).mp ho').1
    exact h.eq_of_keyStore handle other session session' name hhandle hother

/-- What changes no object keeps them in order: `Orderly` carries over to an engine that `Continues` with
the same objects. -/
theorem rests (h : before.Orderly) (hcontinues : Continues before after)
    (hobjects : after.objects = before.objects) : after.Orderly := by
  constructor
  case size_le =>
    rw [hobjects, hcontinues.settings_eq]
    exact h.size_le
  case handleBase_le =>
    rw [hobjects]
    exact h.handleBase_le
  case fits =>
    intro handle o ho
    rw [hobjects] at ho ⊢
    exact (h.fits handle o ho).kept (fun _ _ _ hp => hp) hcontinues.exists_store
  case eq_of_keyStore =>
    rw [hobjects]
    exact h.eq_of_keyStore

/-- **Every command that succeeds** keeps the objects in order: one case for each kind of change in
`Completes`. -/
theorem completes {c : Command} {m : c.Request before.settings.flavor} (h : before.Orderly)
    (hcontinues : Continues before after) (hcompletes : Completes before after c m) :
    after.Orderly := by
  cases c with
  | openSession => exact h.records hcontinues hcompletes.1 trivial nofun
  | openKeyStore =>
    obtain ⟨hunlock, hrecords⟩ := hcompletes
    obtain ⟨hsession, hclosed, hstore⟩ := unlock_ok hunlock
    -- The key store that is opened is there by then: found, or made for it.
    have hexists : ∃ store, after.keyStores.find? m.identifier = some store := by
      rcases hstore with ⟨store, hfound, -, hafter⟩ | ⟨-, hafter⟩
      · exact ⟨store, hafter ▸ hfound⟩
      · exact ⟨{ password := m.password }, hafter ▸ IdMap.find?_insert_self _ _ _⟩
    refine h.records hcontinues hrecords ⟨hsession, hexists⟩ fun session name hobject => ?_
    cases hobject
    exact find?_ne_of_isOpen hclosed
  | openService kind => exact h.records hcontinues hcompletes.2.1 hcompletes.1 nofun
  | closeSession | closeKeyStore | closeService kind => exact h.closes hcontinues hcompletes
  | _ => exact h.rests hcontinues hcompletes.1

end Orderly

/-- **No request lets a key store go**: a key store has a password, and passwords stay. -/
theorem continues_step (engine : Engine) (memory : SharedMemory) (request : Bytes) :
    Continues engine (engine.step memory request) where
  settings_eq := settings_step engine memory request
  exists_store name store hstore := by
    have hpassword := (stores request ⟨engine, memory⟩).passwordOf_eq (passwordOf_of_find? hstore)
    obtain ⟨kept, hkept, -⟩ := Option.map_eq_some_iff.mp hpassword
    exact ⟨kept, hkept⟩

/-- **Every request keeps the objects of an engine in order**, whatever bytes it is made of. -/
theorem orderly_step (engine : Engine) (memory : SharedMemory) (request : Bytes)
    (h : engine.Orderly) : (engine.step memory request).Orderly := by
  have hcontinues := continues_step engine memory request
  cases execute_ends request ⟨engine, memory⟩ with
  | failed _ hspares => exact h.rests hcontinues hspares.objects_eq
  | succeeded _ _ hcompletes => exact h.completes hcontinues hcompletes

/-- **The objects of an engine are always in order**: after any run of requests to a new engine there
are no more objects than the settings allow and no handles below the lowest one; every key store that is
open exists, and its session is open; what every service was opened on is open, a session for hashing
and checking signatures and a key store for all else; and no key store is open twice. -/
theorem orderly_afterAll (settings : EngineSettings) (requests : List (SharedMemory × Bytes)) :
    ((start settings).afterAll requests).settings = settings ∧
      ((start settings).afterAll requests).Orderly :=
  ⟨settings_afterAll _ _, afterAll_induction orderly_step (orderly_start settings) requests⟩

end SecureEngine.Engine
