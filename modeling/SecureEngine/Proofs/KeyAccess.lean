import SecureEngine.Proofs.Orderly

/-! # Access to key stores

Whoever works on the keys of a key store has come by its password: a password never changes, a key store
is opened by a request that carries it, and keys are changed through a service on the open key store.

* **`Engine.Guarded`** — these three rules for one key store.
* **`Engine.guarded_afterAll`** — they hold for every key store after any run of requests. -/

namespace SecureEngine.Engine

/-- **The rules of access to a key store**, with whatever requests of whatever clients follow. -/
structure Guarded (engine : Engine) (name : UInt32) : Prop where
  /-- The password stays. -/
  passwordOf_eq : ∀ password, passwordOf engine.keyStores name = some password →
    ∀ requests : List (SharedMemory × Bytes),
      passwordOf (engine.afterAll requests).keyStores name = some password
  /-- A handle for the key store comes from a request to open it that carries the password, if there
  was one already, and makes it the password otherwise; no handle for the key store was open before. -/
  exists_opening : ∀ (memory : SharedMemory) (request : Bytes) (handle session : UInt32),
    (engine.step memory request).objects.find? handle = some (.keyStore session name) →
    engine.objects.find? handle ≠ some (.keyStore session name) →
    ∃ m : Wire.OpenKeyStore, engine.Reads request .openKeyStore m ∧ m.session = session ∧
      m.identifier = name ∧
      (∀ password, passwordOf engine.keyStores name = some password → m.password = password) ∧
      passwordOf (engine.step memory request).keyStores name = some m.password ∧
      ∀ other session', engine.objects.find? other ≠ some (.keyStore session' name)
  /-- The keys change by a request that is addressed to a key management service on the handle of the
  key store, of which there is only one; every other key store is left as it was. -/
  exists_writing : ∀ (memory : SharedMemory) (request : Bytes),
    keysOf (engine.step memory request).keyStores name ≠ keysOf engine.keyStores name →
    ∃ (c : Command) (m : c.Request engine.settings.flavor) (service parent session : UInt32),
      engine.Reads request c m ∧ c ∈ Command.keyWriters ∧ c.addressee? m = some service ∧
        engine.objects.find? service = some (.service .keyManagement parent) ∧
        engine.objects.find? parent = some (.keyStore session name) ∧
        (∀ other session', engine.objects.find? other = some (.keyStore session' name) →
          other = parent) ∧
        ∀ other, other ≠ name →
          (engine.step memory request).keyStores.find? other = engine.keyStores.find? other

/-- What is unlocked was unlocked with its password, and was not open: `Engine.unlock` compares with
`passwordOf`, or sets it where there was none. -/
theorem passwordOf_unlock {engine : Engine} {m : Wire.OpenKeyStore} {keyStores : IdMap KeyStore}
    (h : engine.unlock m = .ok keyStores) :
    (∀ password, passwordOf engine.keyStores m.identifier = some password → m.password = password) ∧
      passwordOf keyStores m.identifier = some m.password ∧
      ∀ other session, engine.objects.find? other ≠ some (.keyStore session m.identifier) := by
  obtain ⟨-, hclosed, hstore⟩ := unlock_ok h
  have hopen := find?_ne_of_isOpen hclosed
  -- The store was there with that password, or it has just been made with it.
  rcases hstore with ⟨store, hfound, hpassword, rfl⟩ | ⟨hnone, rfl⟩
  · have hstored := passwordOf_of_find? hfound
    rw [hpassword] at hstored
    refine ⟨fun password h => ?_, hstored, hopen⟩
    rw [hstored] at h
    exact Option.some.inj h
  · refine ⟨fun password h => ?_, passwordOf_insert_self _ _ _, hopen⟩
    rw [passwordOf, hnone] at h
    cases h

/-- **The rules hold while the objects are in order**: every `Orderly` engine is `Guarded` under each name
of a key store. -/
theorem Orderly.guarded {engine : Engine} (h : engine.Orderly) (name : UInt32) :
    engine.Guarded name where
  passwordOf_eq password hpassword requests :=
    afterAll_induction (p := fun e => passwordOf e.keyStores name = some password)
      (fun e memory request he => (stores request ⟨e, memory⟩).passwordOf_eq he) hpassword requests
  exists_opening memory request handle session hafter hnew := by
    obtain ⟨m, hreads, hsession, hname, hunlock⟩ :=
      exists_unlock ⟨engine, memory⟩ hafter hnew
    subst hname
    exact ⟨m, hreads, hsession, rfl, passwordOf_unlock hunlock⟩
  exists_writing memory request hchanged := by
    obtain ⟨c, m, service, parent, session, hreads, hc, haddressee, hservice, hparent, hothers⟩ :=
      (stores request ⟨engine, memory⟩).exists_service hchanged
    refine ⟨c, m, service, parent, session, hreads, hc, haddressee, hservice, hparent, ?_, hothers⟩
    -- An orderly engine has each store open once at most.
    intro other session' hother
    exact h.eq_of_keyStore other parent session' session name hother hparent

/-- **Access to every key store is ruled by its password**, after any run of requests to a new
engine. -/
theorem guarded_afterAll (settings : EngineSettings) (requests : List (SharedMemory × Bytes))
    (name : UInt32) : ((start settings).afterAll requests).Guarded name := by
  have horderly : ((start settings).afterAll requests).Orderly :=
    afterAll_induction orderly_step (orderly_start settings) requests
  exact horderly.guarded name

/-- Requests for a session, for a new key store on it, and for key management on that. -/
def preludeRequests : List (SharedMemory × Bytes) :=
  [({}, (start {}).requestFor .openSession (⟨1, 0, 0, 0, 0, 0⟩ : Wire.OpenSession)),
    ({}, (start {}).requestFor .openKeyStore (⟨0x100, 0x1234, 0x5678, 1⟩ : Wire.OpenKeyStore)),
    ({}, (start {}).requestFor (.openService .keyManagement) (⟨0x101, 0⟩ : Wire.OpenService))]

/-- A request to generate an AES key, which has no public part, addressed to the service that the prelude
opens. -/
def generatingRequest : Bytes :=
  (start {}).requestFor .generateKey (⟨0x102, 7, 0, 2, 0x30, 0, 0, 0⟩ : Wire.GenerateKey)

/-- A key store has a password and gets a key: the premises hold of the engine after `preludeRequests`. -/
theorem guarded_afterAll_prelude :
    let engine := (start {}).afterAll preludeRequests
    passwordOf engine.keyStores 0x1234 = some 0x5678 ∧
      keysOf (engine.step {} generatingRequest).keyStores 0x1234 ≠ keysOf engine.keyStores 0x1234 ∧
      engine.Guarded 0x1234 := by
  intro engine
  -- Key 7 is there after the request and was not before.
  have hkeys : (keysOf (engine.step {} generatingRequest).keyStores 0x1234).contains 7 = true := by
    decide +kernel
  have hnone : (keysOf engine.keyStores 0x1234).contains 7 = false := by decide +kernel
  refine ⟨by decide +kernel, fun hsame => ?_, guarded_afterAll {} preludeRequests 0x1234⟩
  rw [hsame, hnone] at hkeys
  cases hkeys

end SecureEngine.Engine
