import SecureEngine.Proofs.Commitment

/-! # What commands do to an engine

* **`Engine.unlock`**, **`Engine.placeKey`**, **`Engine.newKey`** — what opening a key store and storing
  a key come to, with the runs of their handlers (`run_openKeyStore`, `run_generateKey`).
* **`Engine.Completes`** — what a command that succeeds does to objects and key stores.
* **`Engine.Strands`** — the two ways in which a command that fails has changed the key stores already.
* **`Engine.outcome`** — every handler completes its command, or fails and changes nothing, unless it
  strands something. -/

namespace SecureEngine.Engine

open Handling

/-! ## (1) Recording and removing objects -/

/-- **An object is recorded**: there was room for it, and it got a free handle, none below the lowest
one. -/
def Records (before : Engine) (object : EngineObject) (after : IdMap EngineObject) : Prop :=
  ∃ handle, before.objects.find? handle = none ∧ handleBase ≤ handle ∧
    before.objects.size < before.settings.maxObjects ∧ after = before.objects.insert handle object

/-- What `Engine.allocate` does to the objects is to record one. -/
theorem records_of_allocate {before after : Engine} {object : EngineObject} {handle : UInt32}
    (h : before.allocate object = .ok (handle, after)) : Records before object after.objects := by
  obtain ⟨hfree, -, rfl⟩ := allocate_ok h
  unfold allocate at h
  -- There is room for one more object, and the handle is the least one free.
  by_cases hfull : before.settings.maxObjects ≤ before.objects.size
  · rw [if_pos hfull] at h
    cases h
  · rw [if_neg hfull] at h
    cases hleast : before.objects.firstFree? handleBase with
    | none =>
      rw [hleast] at h
      cases h
    | some least =>
      rw [hleast] at h
      cases h
      exact ⟨_, hfree, (IdMap.firstFree?_spec hleast).2, Nat.lt_of_not_le hfull, rfl⟩

/-- **An object is closed** with everything below it, as `Engine.removeTree` does, and the key stores
stay. -/
def Closes (before after : Engine) (root : UInt32) : Prop :=
  (∃ object, before.objects.find? root = some object) ∧
    after.objects = (before.removeTree root).objects ∧ after.keyStores = before.keyStores

/-- **Objects and key stores are as they were**, and only generator, flags and memory may differ. -/
def Rests (before after : Engine) : Prop :=
  after.objects = before.objects ∧ after.keyStores = before.keyStores

/-- An engine that has drawn at most has its objects and key stores as they were: `Drew` implies
`Rests`. -/
theorem Drew.rests {before after : Engine} (h : before.Drew after) : Rests before after :=
  ⟨h.objects_eq, h.keyStores_eq⟩

variable {start : Engine}

/-- A failure to record leaves no object behind, so `record` commits to recording one. -/
theorem commits_record (object : EngineObject) :
    Commits start (fun _ after => Records start object after.objects ∧
      after.keyStores = start.keyStores) (record object) := by
  rintro ⟨engine, memory⟩ hm
  rw [run_record]
  -- Recording an object does not look at what drawing changes.
  obtain ⟨generator, overflowed, rfl⟩ : start.Drew engine := hm
  dsimp only
  cases hallocate : ({ start with generator, overflowed } : Engine).allocate object with
  | error e => exact ⟨fun _ _ => ⟨⟨generator, overflowed, rfl⟩, rfl⟩, nofun⟩
  | ok allocated =>
    obtain ⟨handle, after⟩ := allocated
    have hrecords : Records { start with generator, overflowed } object after.objects :=
      records_of_allocate hallocate
    obtain ⟨-, -, rfl⟩ := allocate_ok hallocate
    exact ⟨nofun, fun _ _ => ⟨hrecords, rfl⟩⟩

/-- Opening a service with `openService` commits to recording it below its parent, with the key stores as
they are. -/
theorem commits_openService (kind : Service) (parent : UInt32) :
    Commits start (fun _ after => IsParent start.objects kind parent ∧
      Records start (.service kind parent) after.objects ∧ after.keyStores = start.keyStores)
      (openService kind parent) := by
  have hrecord (h : IsParent start.objects kind parent) :
      Commits start (fun _ after => IsParent start.objects kind parent ∧
        Records start (.service kind parent) after.objects ∧ after.keyStores = start.keyStores)
        (record (.service kind parent)) :=
    (commits_record _).imp fun _ _ hrecords => ⟨h, hrecords⟩
  unfold openService
  cases hscope : kind.scope with
  | session =>
    simp only [IsParent, hscope] at hrecord ⊢
    refine commits_engine fun e he => commits_lift fun _ hsession => hrecord ?_
    rw [← he.objects_eq]
    exact checkSession_eq_ok hsession
  | keyStore =>
    simp only [IsParent, hscope] at hrecord ⊢
    refine commits_engine fun e he => commits_lift fun _ hopen => hrecord ?_
    rw [← he.objects_eq]
    exact keyStoreAt_eq_ok hopen

/-- `Engine.removeTree` closes the root it is given, if that is open: `Closes` is what `find?_removeTree`
tells of it. -/
theorem commits_removeTree {root : UInt32} {object : EngineObject}
    (hroot : start.objects.find? root = some object) :
    Commits start (fun _ after => Closes start after root) (modifyEngine (·.removeTree root)) := by
  refine commits_modifyEngine fun e he => ⟨⟨object, hroot⟩, ?_, he.keyStores_eq⟩
  obtain ⟨generator, overflowed, rfl⟩ := he
  rfl

/-- Closing a session with `closeSession` commits to closing it with everything below it. -/
theorem commits_closeSession (root : UInt32) :
    Commits start (fun _ after => Closes start after root) (closeSession root) := by
  refine commits_engine fun e he => commits_lift fun _ h => ?_
  have hroot := checkSession_eq_ok h
  exact commits_removeTree (he.objects_eq ▸ hroot)

/-- Closing a key store with `closeKeyStore` commits to closing it with its services; its keys stay for
the next opening. -/
theorem commits_closeKeyStore (root : UInt32) :
    Commits start (fun _ after => Closes start after root) (closeKeyStore root) := by
  refine commits_engine fun e he => commits_lift fun _ h => ?_
  obtain ⟨session, identifier, hroot⟩ := keyStoreAt_eq_ok h
  exact commits_removeTree (he.objects_eq ▸ hroot)

/-- Closing a service with `closeService` commits to closing it. -/
theorem commits_closeService (kind : Service) (root : UInt32) :
    Commits start (fun _ after => Closes start after root) (closeService kind root) := by
  refine commits_engine fun e he => commits_lift fun parent h => ?_
  have hroot := serviceParent_eq_ok h
  exact commits_removeTree (he.objects_eq ▸ hroot)

/-! ## (2) Opening key stores -/

/-- **The key stores after one has been unlocked** for a session: the password is right, or there was
no such key store and it is created. -/
def unlock (engine : Engine) (m : Wire.OpenKeyStore) : Except EngineError (IdMap KeyStore) := do
  engine.checkSession m.session
  if engine.isOpen m.identifier then throw Reason.keyStoreConflict.toError
  match engine.keyStores.find? m.identifier with
  | some store =>
    if store.password == m.password then return engine.keyStores
    else throw Reason.keyStoreAuth.toError
  | none =>
    if allowsCreation m then return engine.keyStores.insert m.identifier { password := m.password }
    else throw Reason.unknownKeyStore.toError

/-- **What an unlocked key store was unlocked with**: an open session, and the password of the store
unless that is new. The store was not open elsewhere. -/
theorem unlock_ok {engine : Engine} {m : Wire.OpenKeyStore} {keyStores : IdMap KeyStore}
    (h : engine.unlock m = .ok keyStores) :
    engine.objects.find? m.session = some .session ∧ engine.isOpen m.identifier = false ∧
      ((∃ store, engine.keyStores.find? m.identifier = some store ∧ store.password = m.password ∧
          keyStores = engine.keyStores) ∨
        (engine.keyStores.find? m.identifier = none ∧
          keyStores = engine.keyStores.insert m.identifier { password := m.password })) := by
  simp only [unlock, bind_eq_ok_iff, throw_bind_ite_eq_ok_iff, Bool.not_eq_true] at h
  obtain ⟨u, hsession, hclosed, h⟩ := h
  refine ⟨checkSession_eq_ok hsession, hclosed, ?_⟩
  -- A store that is there must have the password; one that is not is made, if the flags allow it.
  cases hfound : engine.keyStores.find? m.identifier with
  | some store =>
    rw [hfound] at h
    obtain ⟨hpassword, hkept⟩ := ite_throw_eq_ok_iff.mp h
    exact Or.inl ⟨store, rfl, beq_iff_eq.mp hpassword, (Except.ok.inj hkept).symm⟩
  | none =>
    rw [hfound] at h
    obtain ⟨-, hcreated⟩ := ite_throw_eq_ok_iff.mp h
    exact Or.inr ⟨rfl, (Except.ok.inj hcreated).symm⟩

/-- **Opening a key store** is `Engine.unlock`, and then `record`: a new key store is there before there
is room for its handle. -/
theorem run_openKeyStore (m : Wire.OpenKeyStore) (machine : Machine) :
    (openKeyStore m).run machine = match machine.engine.unlock m with
      | .error e => (.error e, machine)
      | .ok keyStores => (record (.keyStore m.session m.identifier)).run
          { machine with engine := { machine.engine with keyStores } } := by
  unfold openKeyStore unlock
  -- Check by check, the handler goes along with `unlock`; what remains is to record the handle.
  rw [run_bind_ok (run_engine machine)]
  cases hsession : machine.engine.checkSession m.session with
  | error e => rfl
  | ok u =>
    rw [run_bind_ok (run_lift_ok rfl machine), run_bind_ok (run_engine machine)]
    cases hopen : machine.engine.isOpen m.identifier with
    | true => rfl
    | false =>
      have hdemand : (demand (!false) .keyStoreConflict).run machine = (.ok (), machine) := rfl
      rw [run_bind_ok hdemand, run_bind_ok (run_engine machine)]
      cases hfound : machine.engine.keyStores.find? m.identifier with
      | some store =>
        dsimp only
        cases store.password == m.password <;> rfl
      | none =>
        dsimp only
        cases allowsCreation m <;> rfl

/-! ## (3) Storing keys -/

/-- **The key stores after an entry has been stored** for a key management service, and the identifier
it was stored under. -/
def placeKey (engine : Engine) (service identifier : UInt32) (flags : UInt8) (entry : KeyEntry) :
    Except EngineError (UInt32 × IdMap KeyStore) := do
  let (name, store) ← engine.serviceStore service .keyManagement
  let (identifier, store) ← store.insert identifier (.ofByte flags) entry
  return (identifier, engine.keyStores.insert name store)

/-- **The keys of one `KeyStore` are changed**, the one that a key management service works on. -/
def Writes (before : Engine) (service : UInt32) (after : IdMap KeyStore) : Prop :=
  ∃ name store keys, before.serviceStore service .keyManagement = .ok (name, store) ∧
    after = before.keyStores.insert name { store with keys }

/-- **A key is placed** in the `KeyStore` of a service, with material of the size of its type. -/
def Places (before : Engine) (service identifier : UInt32) (flags : UInt8)
    (after : IdMap KeyStore) : Prop :=
  ∃ chosen entry, entry.material.length = entry.keyType.size ∧
    before.placeKey service identifier flags entry = .ok (chosen, after)

/-- **A key is deleted** from the `KeyStore` of a service. -/
def Deletes (before : Engine) (service identifier : UInt32) (after : IdMap KeyStore) : Prop :=
  ∃ name store rest, before.serviceStore service .keyManagement = .ok (name, store) ∧
    store.remove identifier = .ok rest ∧ after = before.keyStores.insert name rest

/-- The course of `storeKey` in terms of `Engine.placeKey`: an error with the machine as it was, or new
key stores and nothing else. -/
theorem run_storeKey (service identifier : UInt32) (flags : UInt8) (entry : KeyEntry)
    (machine : Machine) :
    (storeKey service identifier flags entry).run machine =
      match machine.engine.placeKey service identifier flags entry with
      | .error e => (.error e, machine)
      | .ok (identifier, keyStores) =>
        (.ok identifier, { machine with engine := { machine.engine with keyStores } }) := by
  unfold storeKey placeKey
  -- Check by check, the handler goes along with `placeKey`.
  rw [run_bind_ok (run_engine machine)]
  cases machine.engine.serviceStore service .keyManagement with
  | error e => rfl
  | ok found =>
    obtain ⟨name, store⟩ := found
    rw [run_bind_ok (run_lift_ok rfl machine)]
    simp only [bind, Except.bind]
    cases store.insert identifier (.ofByte flags) entry <;> rfl

/-- `KeyStore.insert` changes the keys of a store and keeps its password. -/
theorem insert_keys {store after : KeyStore} {id chosen : UInt32} {flags : StorageFlags}
    {entry : KeyEntry} (h : store.insert id flags entry = .ok (chosen, after)) :
    after = { store with keys := after.keys } := by
  simp only [KeyStore.insert, bind_eq_ok_iff, throw_bind_ite_eq_ok_iff] at h
  obtain ⟨id, -, -, hinserted⟩ := h
  cases hinserted
  rfl

/-- `KeyStore.remove` changes the keys of a store and keeps its password. -/
theorem remove_keys {store after : KeyStore} {id : UInt32} (h : store.remove id = .ok after) :
    after = { store with keys := after.keys } := by
  simp only [KeyStore.remove, bind_eq_ok_iff, throw_bind_ite_eq_ok_iff] at h
  obtain ⟨entry, -, -, hremoved⟩ := h
  cases hremoved
  rfl

/-- Placing a key changes the keys of one `KeyStore`. -/
theorem Places.writes {before : Engine} {service identifier : UInt32} {flags : UInt8}
    {after : IdMap KeyStore} (h : Places before service identifier flags after) :
    Writes before service after := by
  obtain ⟨chosen, entry, -, hplace⟩ := h
  simp only [placeKey, bind_eq_ok_iff] at hplace
  obtain ⟨⟨name, store⟩, hstore, ⟨chosen', stored⟩, hinsert, hplaced⟩ := hplace
  cases hplaced
  refine ⟨name, store, stored.keys, hstore, ?_⟩
  rw [← insert_keys hinsert]

/-- Deleting a key changes the keys of one `KeyStore`. -/
theorem Deletes.writes {before : Engine} {service identifier : UInt32} {after : IdMap KeyStore}
    (h : Deletes before service identifier after) : Writes before service after := by
  obtain ⟨name, store, rest, hstore, hremove, rfl⟩ := h
  refine ⟨name, store, rest.keys, hstore, ?_⟩
  rw [← remove_keys hremove]

/-- Storing an entry with material of the size of its type commits to placing it. -/
theorem commits_storeKey (service identifier : UInt32) (flags : UInt8) {entry : KeyEntry}
    (hsize : entry.material.length = entry.keyType.size) :
    Commits start (fun _ after => after.objects = start.objects ∧
      Places start service identifier flags after.keyStores)
      (storeKey service identifier flags entry) := by
  rintro ⟨engine, memory⟩ hm
  rw [run_storeKey]
  -- Placing a key does not look at what drawing changes.
  obtain ⟨generator, overflowed, rfl⟩ : start.Drew engine := hm
  dsimp only
  cases hplace : ({ start with generator, overflowed } : Engine).placeKey service identifier flags entry with
  | error e => exact ⟨fun _ _ => ⟨⟨generator, overflowed, rfl⟩, rfl⟩, nofun⟩
  | ok placed =>
    obtain ⟨chosen, keyStores⟩ := placed
    have hplaces : Places { start with generator, overflowed } service identifier flags keyStores :=
      ⟨chosen, entry, hsize, hplace⟩
    exact ⟨nofun, fun _ _ => ⟨rfl, hplaces⟩⟩

/-- **What is stored of given material** has the size of its type: `checkedEntry` refuses everything
else. -/
theorem commits_checkedEntry {effect : UInt32 → Engine → Prop} {f : KeyEntry → Handling UInt32}
    (keyType : UInt8) (group info : UInt16) (material : Bytes)
    (hf : ∀ entry : KeyEntry, entry.material.length = entry.keyType.size →
      Commits start effect (f entry)) :
    Commits start effect (checkedEntry keyType group info material >>= f) := by
  simp only [checkedEntry, bind_assoc, pure_bind]
  refine commits_known fun keyType _ => commits_demand fun hsize => ?_
  exact hf _ (beq_iff_eq.mp hsize)

/-- Decrypting a wrapped key with `unwrapMaterial` changes nothing, whether there is a wrapping key or
not. -/
theorem prepares_unwrapMaterial (store : KeyStore) (wrappingKey : UInt32) (material : Bytes) :
    Prepares (unwrapMaterial store wrappingKey material) := by
  unfold unwrapMaterial
  split
  · exact prepares_pure _
  · refine prepares_bind (prepares_lift _) fun key => ?_
    exact prepares_bind (prepares_demand _ _) fun _ => prepares_lift _

/-- Importing a key with `importKey` commits to placing it under the identifier and with the flags of the
request. -/
theorem commits_importKey (m : Wire.ImportKey) :
    Commits start (fun _ after => after.objects = start.objects ∧
      Places start m.service m.identifier m.flags after.keyStores) (importKey m) := by
  refine commits_bind (prepares_load _ _) fun material => ?_
  exact commits_checkedEntry _ _ _ _ fun entry hsize => commits_storeKey _ _ _ hsize

/-- Installing a wrapped key with `manageKey` commits to placing it under its destination. -/
theorem commits_manageKey (m : Wire.ManageKey) :
    Commits start (fun _ after => after.objects = start.objects ∧
      Places start m.service m.destination m.flags after.keyStores) (manageKey m) := by
  refine commits_bind (prepares_load _ _) fun wrapped => ?_
  refine commits_bind prepares_engine fun e => ?_
  refine commits_bind (prepares_lift _) fun found => ?_
  refine commits_bind (prepares_unwrapMaterial _ _ _) fun material => ?_
  exact commits_checkedEntry _ _ _ _ fun entry hsize => commits_storeKey _ _ _ hsize

/-- Deleting a key with `deleteKey` commits to `Deletes`, in the key store of the service. -/
theorem commits_deleteKey (m : Wire.DeleteKey) :
    Commits start (fun _ after => after.objects = start.objects ∧
      Deletes start m.service m.identifier after.keyStores) (deleteKey m) := by
  refine commits_engine fun e he => commits_lift fun found hfound => ?_
  obtain ⟨name, store⟩ := found
  refine commits_lift fun rest hremove => ?_
  refine commits_modifyEngine fun f hf => ⟨hf.objects_eq, name, store, rest, ?_, hremove, ?_⟩
  · rw [← he.serviceStore_eq, hfound]
  · rw [← hf.keyStores_eq]

/-! ## (4) Generating keys -/

/-- **New material and the public key that goes with it**, and the `Generator` after they are drawn. -/
def newKey (generator : Generator) (keyType : KeyType) : (Bytes × Bytes) × Generator :=
  match keyType.curve? with
  | some curve => curve.generateKey generator
  | none => ((generator.bytes keyType.size, []), generator.advance keyType.size)

/-- The material of `newKey` has the size of its type, a private key as well as symmetric bytes. -/
theorem length_newKey (generator : Generator) (keyType : KeyType) :
    (newKey generator keyType).1.1.length = keyType.size := by
  cases keyType with
  | ecdsa curve => exact Bytes.length_ofNatBE _ _
  | _ => exact Generator.length_bytes _ _

/-- The course of `generateMaterial` in terms of `newKey`: it succeeds, and moves the generator on. -/
theorem run_generateMaterial (keyType : KeyType) (machine : Machine) :
    (generateMaterial keyType).run machine = (.ok (newKey machine.engine.generator keyType).1,
      { machine with engine :=
        { machine.engine with generator := (newKey machine.engine.generator keyType).2 } }) := by
  unfold generateMaterial newKey
  cases keyType.curve? <;> rfl

/-- The entry that a request generates from new material, with the group and the flags that the request
tells. -/
def generatedEntry (m : Wire.GenerateKey) (minMacLength : UInt8) (keyType : KeyType)
    (material : Bytes) : KeyEntry :=
  { keyType, group := m.group, info := m.info, minMacLength, material }

/-- **Generating a key** stores the key with `Engine.placeKey`, and then its public key for the client:
the last step may fail when the first is done. -/
theorem run_generateKey (m : Wire.GenerateKey) (minMacLength : UInt8) (machine : Machine) :
    (generateKey m minMacLength).run machine = match KeyType.ofCode? m.keyType with
      | none => (.error Reason.keyNotSupported.toError, machine)
      | some keyType =>
        let ((material, publicKey), generator) := newKey machine.engine.generator keyType
        let drawn : Machine := { machine with engine := { machine.engine with generator } }
        if publicKey.length ≤ m.outputSize.toNat then
          match machine.engine.placeKey m.service m.identifier m.flags
            (generatedEntry m minMacLength keyType material) with
          | .error e => (.error e, drawn)
          | .ok (identifier, keyStores) =>
            match machine.memory.store m.outputAddress.toUInt64 publicKey with
            | .error e => (.error e, { drawn with engine := { drawn.engine with keyStores } }.noting
              (machine.memory.store? m.outputAddress.toUInt64 publicKey).isNone)
            | .ok memory => (.ok identifier, ⟨{ drawn.engine with keyStores }, memory⟩)
        else (.error Reason.outTooSmall.toError, drawn) := by
  unfold generateKey
  cases KeyType.ofCode? m.keyType with
  | none => rfl
  | some keyType =>
    have hknown : (known (some keyType) .keyNotSupported).run machine = (.ok keyType, machine) := rfl
    rw [run_bind_ok hknown, run_bind_ok (run_generateMaterial keyType machine)]
    dsimp only
    generalize newKey machine.engine.generator keyType = key
    obtain ⟨⟨material, publicKey⟩, generator⟩ := key
    dsimp only
    by_cases hfits : publicKey.length ≤ m.outputSize.toNat
    · rw [if_pos hfits, decide_eq_true hfits]
      have hdemand (t : Machine) : (demand true .outTooSmall).run t = (.ok (), t) := rfl
      rw [run_bind_ok (hdemand _), run_bind, run_storeKey]
      -- Where a key goes does not depend on the generator.
      have hplace : ({ machine.engine with generator } : Engine).placeKey m.service m.identifier
          m.flags (generatedEntry m minMacLength keyType material) =
          machine.engine.placeKey m.service m.identifier m.flags
            (generatedEntry m minMacLength keyType material) := rfl
      rw [generatedEntry] at hplace ⊢
      rw [hplace]
      cases machine.engine.placeKey m.service m.identifier m.flags _ with
      | error e => rfl
      | ok placed =>
        obtain ⟨identifier, keyStores⟩ := placed
        dsimp only
        rw [run_bind, run_store]
        cases machine.memory.store m.outputAddress.toUInt64 publicKey <;> rfl
    · rw [if_neg hfits, decide_eq_false hfits]
      rfl

/-! ## (5) Success and failure -/

/-- **What a command that succeeds does** to objects and key stores: it `Records` an object, `Closes` one,
`Writes` to a key store, or `Rests`. -/
def Completes {flavor : Flavor} (before after : Engine) : (c : Command) → c.Request flavor → Prop
  | .openSession, _ => Records before .session after.objects ∧ after.keyStores = before.keyStores
  | .openKeyStore, m => before.unlock m = .ok after.keyStores ∧
      Records before (.keyStore m.session m.identifier) after.objects
  | .openService kind, m => IsParent before.objects kind m.parent ∧
      Records before (.service kind m.parent) after.objects ∧ after.keyStores = before.keyStores
  | .closeSession, root => Closes before after root
  | .closeKeyStore, root => Closes before after root
  | .closeService _, root => Closes before after root
  | .generateKey, m => after.objects = before.objects ∧ Writes before m.service after.keyStores
  | .generateKeyExt, m => after.objects = before.objects ∧ Writes before m.service after.keyStores
  | .importKey, m => after.objects = before.objects ∧ Writes before m.service after.keyStores
  | .deleteKey, m => after.objects = before.objects ∧ Writes before m.service after.keyStores
  | .manageKey, m => after.objects = before.objects ∧ Writes before m.service after.keyStores
  | _, _ => Rests before after

/-- **A `KeyStore` is stranded**: it has been created, and there is no room to open it. -/
structure StrandsStore (before : Machine) (m : Wire.OpenKeyStore) (after : IdMap KeyStore) :
    Prop where
  unlock_eq : before.engine.unlock m = .ok after
  isNew : before.engine.keyStores.find? m.identifier = none
  isFull : ∃ e, before.engine.allocate (.keyStore m.session m.identifier) = .error e

/-- **A key is stranded**: it has been stored, and the public key that goes with it fits the buffer of
the client, but may not be written there. -/
def StrandsKey (before : Machine) (m : Wire.GenerateKey) (minMacLength : UInt8)
    (after : IdMap KeyStore) : Prop :=
  ∃ keyType identifier, KeyType.ofCode? m.keyType = some keyType ∧
    let (material, publicKey) := (newKey before.engine.generator keyType).1
    publicKey.length ≤ m.outputSize.toNat ∧
      before.engine.placeKey m.service m.identifier m.flags
        (generatedEntry m minMacLength keyType material) = .ok (identifier, after) ∧
      ∃ e, before.memory.store m.outputAddress.toUInt64 publicKey = .error e

/-- A key that is stranded by `StrandsKey` has been placed like any other. -/
theorem StrandsKey.places {before : Machine} {m : Wire.GenerateKey} {minMacLength : UInt8}
    {after : IdMap KeyStore} (h : StrandsKey before m minMacLength after) :
    Places before.engine m.service m.identifier m.flags after := by
  obtain ⟨keyType, identifier, -, -, hplace, -⟩ := h
  exact ⟨identifier, generatedEntry m minMacLength keyType _, length_newKey _ keyType, hplace⟩

/-- **What a command that fails may strand**: `openKeyStore` a key store, the two that generate keys a
key, and no other command anything. -/
def Strands {flavor : Flavor} (before : Machine) (after : IdMap KeyStore) :
    (c : Command) → c.Request flavor → Prop
  | .openKeyStore, m => StrandsStore before m after
  | .generateKey, m => StrandsKey before m 0 after
  | .generateKeyExt, m => StrandsKey before m.toGenerateKey m.minMacLength after
  | _, _ => False

/-- **What a failure always spares**: the open objects, the flag of the SHE generator and the memory
shared with the client. -/
structure Spares (before after : Machine) : Prop where
  objects_eq : after.engine.objects = before.engine.objects
  sheStarted_eq : after.engine.sheStarted = before.engine.sheStarted
  memory_eq : after.memory = before.memory

/-- Doing nothing `Spares` everything. -/
theorem Spares.refl (m : Machine) : Spares m m := ⟨rfl, rfl, rfl⟩

/-- **What a handler does**: it completes its command, or it fails and spares what failures spare; the
key stores are then as they were, or something is stranded. -/
structure Outcome {flavor : Flavor} {c : Command} (m : c.Request flavor) (before : Machine)
    (result : Except EngineError (c.Response flavor)) (after : Machine) : Prop where
  failed : ∀ e, result = .error e → Spares before after ∧
    (after.engine.keyStores = before.engine.keyStores ∨ Strands before after.engine.keyStores c m)
  succeeded : ∀ response, result = .ok response → Completes before.engine after.engine c m

section

variable {flavor : Flavor} {c : Command} {m : c.Request flavor} {machine : Machine}
  {x : Handling (c.Response flavor)}

/-- What commits at its end strands nothing: a failure has drawn at most, so the key stores are as they
were. -/
theorem outcome_of_commits {effect : c.Response flavor → Engine → Prop}
    (h : Commits machine.engine effect x)
    (he : ∀ response after, effect response after → Completes machine.engine after c m) :
    Outcome m machine (x.run machine).1 (x.run machine).2 := by
  obtain ⟨hfailed, hok⟩ := h machine (.refl _)
  refine ⟨fun e hx => ?_, fun response hx => he response _ (hok response hx)⟩
  obtain ⟨hdrew, hmemory⟩ := hfailed e hx
  exact ⟨⟨hdrew.objects_eq, hdrew.sheStarted_eq, hmemory⟩, Or.inl hdrew.keyStores_eq⟩

/-- A handler that serves is one of a command without effect on objects and key stores, and strands
nothing. -/
theorem outcome_of_serves (h : Serves machine.engine x)
    (he : ∀ after, Rests machine.engine after → Completes machine.engine after c m) :
    Outcome m machine (x.run machine).1 (x.run machine).2 :=
  outcome_of_commits h fun _ after hdrew => he after hdrew.rests

/-- A handler that only prepares is one of a command without effect as well. -/
theorem outcome_of_prepares (h : Prepares x)
    (he : ∀ after, Rests machine.engine after → Completes machine.engine after c m) :
    Outcome m machine (x.run machine).1 (x.run machine).2 :=
  outcome_of_serves (serves_of_prepares h) he

end

/-- Whether `Engine.allocate` finds room does not depend on the key stores. -/
theorem allocate_error_iff {engine : Engine} (keyStores : IdMap KeyStore) {object : EngineObject}
    {e : EngineError} : ({ engine with keyStores } : Engine).allocate object = .error e ↔
      engine.allocate object = .error e := by
  unfold allocate
  dsimp only
  split
  · exact Iff.rfl
  · cases engine.objects.firstFree? handleBase with
    | none => exact Iff.rfl
    | some handle => exact ⟨nofun, nofun⟩

/-- **A key store is unlocked and opened**, or nothing is changed, or the key store is stranded because
there is no room for its handle. -/
theorem outcome_openKeyStore {flavor : Flavor} (m : Wire.OpenKeyStore) (machine : Machine) :
    @Outcome flavor .openKeyStore m machine ((openKeyStore m).run machine).1
      ((openKeyStore m).run machine).2 := by
  rw [run_openKeyStore]
  cases hunlock : machine.engine.unlock m with
  | error e => exact ⟨fun _ _ => ⟨.refl _, Or.inl rfl⟩, nofun⟩
  | ok keyStores =>
    dsimp only
    rw [run_record]
    dsimp only
    cases hallocate : ({ machine.engine with keyStores } : Engine).allocate
      (.keyStore m.session m.identifier) with
    | error e =>
      refine ⟨fun _ _ => ⟨⟨rfl, rfl, rfl⟩, ?_⟩, nofun⟩
      -- There is no room: the key store stays behind if it is new.
      obtain ⟨-, -, ⟨store, -, -, rfl⟩ | ⟨hnew, -⟩⟩ := unlock_ok hunlock
      · exact Or.inl rfl
      · exact Or.inr ⟨hunlock, hnew, e, (allocate_error_iff keyStores).mp hallocate⟩
    | ok allocated =>
      obtain ⟨handle, after⟩ := allocated
      refine ⟨nofun, fun _ _ => ?_⟩
      have hrecords : Records { machine.engine with keyStores }
        (.keyStore m.session m.identifier) after.objects := records_of_allocate hallocate
      obtain ⟨-, -, rfl⟩ := allocate_ok hallocate
      exact ⟨hunlock, hrecords⟩

/-- **A key is generated and handed out**, or nothing is changed, or the key is stranded because its
public key may not be written. -/
theorem generated (m : Wire.GenerateKey) (minMacLength : UInt8) (machine : Machine) :
    (∀ e, ((generateKey m minMacLength).run machine).1 = .error e →
      Spares machine ((generateKey m minMacLength).run machine).2 ∧
      (((generateKey m minMacLength).run machine).2.engine.keyStores = machine.engine.keyStores ∨
        StrandsKey machine m minMacLength
          ((generateKey m minMacLength).run machine).2.engine.keyStores)) ∧
    ∀ identifier, ((generateKey m minMacLength).run machine).1 = .ok identifier →
      ((generateKey m minMacLength).run machine).2.engine.objects = machine.engine.objects ∧
        Places machine.engine m.service m.identifier m.flags
          ((generateKey m minMacLength).run machine).2.engine.keyStores := by
  rw [run_generateKey]
  cases htype : KeyType.ofCode? m.keyType with
  | none => exact ⟨fun _ _ => ⟨.refl _, Or.inl rfl⟩, nofun⟩
  | some keyType =>
    dsimp only
    by_cases hfits : (newKey machine.engine.generator keyType).1.2.length ≤ m.outputSize.toNat
    · rw [if_pos hfits]
      cases hplace : machine.engine.placeKey m.service m.identifier m.flags
        (generatedEntry m minMacLength keyType (newKey machine.engine.generator keyType).1.1) with
      | error e => exact ⟨fun _ _ => ⟨⟨rfl, rfl, rfl⟩, Or.inl rfl⟩, nofun⟩
      | ok placed =>
        obtain ⟨identifier, keyStores⟩ := placed
        dsimp only
        cases hstore : machine.memory.store m.outputAddress.toUInt64
          (newKey machine.engine.generator keyType).1.2 with
        | error e =>
          -- The key is stored already, and the public key is not.
          refine ⟨fun _ _ => ⟨⟨Machine.objects_noting _ _, Machine.sheStarted_noting _ _,
            Machine.memory_noting _ _⟩, Or.inr ?_⟩, nofun⟩
          rw [Machine.keyStores_noting]
          exact ⟨keyType, identifier, htype, hfits, hplace, e, hstore⟩
        | ok memory =>
          exact ⟨nofun, fun _ _ => ⟨rfl, identifier, _, length_newKey _ keyType, hplace⟩⟩
    · rw [if_neg hfits]
      exact ⟨fun _ _ => ⟨⟨rfl, rfl, rfl⟩, Or.inl rfl⟩, nofun⟩

/-- **Every handler completes its command or fails**, and a failure changes nothing but what it strands,
which `Strands` tells for two commands only. -/
theorem outcome {flavor : Flavor} {c : Command} (m : c.Request flavor) (machine : Machine) :
    Outcome m machine ((handle flavor c m).run machine).1 ((handle flavor c m).run machine).2 := by
  -- The handlers come in three kinds: those that commit to an effect at their end, those that only
  -- prepare, and those that serve the client. Only the two that act before their last failure have a
  -- lemma of their own, `outcome_openKeyStore` and `generated`.
  cases c with
  | openSession => exact outcome_of_commits (commits_record _) fun _ _ => id
  | closeSession => exact outcome_of_commits (commits_closeSession m) fun _ _ => id
  | sharedBuffer => exact outcome_of_prepares (prepares_sharedBuffer m) fun _ => id
  | openKeyStore => exact outcome_openKeyStore m machine
  | closeKeyStore => exact outcome_of_commits (commits_closeKeyStore m) fun _ _ => id
  | openService kind => exact outcome_of_commits (commits_openService kind m.parent) fun _ _ => id
  | closeService kind => exact outcome_of_commits (commits_closeService kind m) fun _ _ => id
  | generateKey =>
    obtain ⟨hfailed, hok⟩ := generated m 0 machine
    exact ⟨hfailed, fun response h => (hok response h).imp_right Places.writes⟩
  | generateKeyExt =>
    obtain ⟨hfailed, hok⟩ := generated m.toGenerateKey m.minMacLength machine
    exact ⟨hfailed, fun response h => (hok response h).imp_right Places.writes⟩
  | importKey =>
    exact outcome_of_commits (commits_importKey m) fun _ _ h => h.imp_right Places.writes
  | deleteKey =>
    exact outcome_of_commits (commits_deleteKey m) fun _ _ h => h.imp_right Deletes.writes
  | manageKey =>
    exact outcome_of_commits (commits_manageKey m) fun _ _ h => h.imp_right Places.writes
  | mac => exact outcome_of_serves (serves_mac m) fun _ => id
  | cipher => exact outcome_of_serves (serves_cipher m) fun _ => id
  | hash => exact outcome_of_serves (serves_hash m) fun _ => id
  | sign =>
    cases flavor with
    | legacy => exact outcome_of_serves (serves_signLegacy m) fun _ => id
    | psa => exact outcome_of_serves (serves_signPsa m) fun _ => id
  | prepareSign => exact outcome_of_prepares (prepares_prepareSign m) fun _ => id
  | verify => exact outcome_of_prepares (prepares_verify m) fun _ => id
  | random => exact outcome_of_serves (serves_random m) fun _ => id
  | sheGenerateMac => exact outcome_of_serves (serves_sheGenerateMac m) fun _ => id
  | sheVerifyMac => exact outcome_of_prepares (prepares_sheVerifyMac m) fun _ => id
  | sheInitRng => exact ⟨nofun, fun _ _ => ⟨rfl, rfl⟩⟩
  | sheExtendSeed => exact outcome_of_prepares (prepares_sheExtendSeed m) fun _ => id
  | sheRandom => exact outcome_of_serves (serves_sheRandom m) fun _ => id
  | sheStatus => exact outcome_of_prepares prepares_sheStatus fun _ => id
  | sheIdentity => exact outcome_of_serves (serves_sheIdentity m) fun _ => id

/-- **What a command would strand, it strands**: where `Strands` holds, its handler fails, and the key
stores have changed. -/
theorem run_handle_of_strands {flavor : Flavor} {c : Command} {m : c.Request flavor}
    {before : Machine} {after : IdMap KeyStore} (h : Strands before after c m) :
    ∃ e t, (handle flavor c m).run before = (.error e, t) ∧ t.engine.keyStores = after := by
  -- Generating strands a key when the public key cannot be stored, opening a store when there is no
  -- handle left.
  have hkey {m : Wire.GenerateKey} {minMacLength : UInt8} (h : StrandsKey before m minMacLength after) :
      ∃ e t, (generateKey m minMacLength).run before = (.error e, t) ∧ t.engine.keyStores = after := by
    obtain ⟨keyType, identifier, htype, hfits, hplace, e, hstore⟩ := h
    rw [run_generateKey, htype]
    dsimp only
    rw [if_pos hfits, hplace]
    dsimp only
    rw [hstore]
    exact ⟨e, _, rfl, Machine.keyStores_noting _ _⟩
  cases c with
  | openKeyStore =>
    obtain ⟨hunlock, -, e, hfull⟩ : StrandsStore before m after := h
    refine ⟨e, { before with engine := { before.engine with keyStores := after } }, ?_, rfl⟩
    have hrun := run_openKeyStore m before
    rw [hunlock] at hrun
    dsimp only at hrun
    rw [run_record, (allocate_error_iff after).mpr hfull] at hrun
    exact hrun
  | generateKey => exact hkey h
  | generateKeyExt => exact hkey h
  | _ => exact False.elim h

end SecureEngine.Engine
