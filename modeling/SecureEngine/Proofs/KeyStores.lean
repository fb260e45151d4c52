import SecureEngine.Proofs.Requests

/-! # Key stores under requests of anyone

Three things can happen to the key stores at a request: nothing, one is unlocked, or the keys of one are
changed. The last takes a service, and through the service the open key store that it works on.

* **`Engine.Stores`** — these three cases; **`Engine.stores`** — there are no others.
* **`Engine.Stores.passwordOf_eq`** — a password stays, whatever the request.
* **`Engine.Stores.exists_service`** — a key store whose keys change is that of the service which the
  request is addressed to, and no other key store changes.
* **`Engine.exists_unlock`** — a new handle of a key store comes from a request that unlocked it. -/

namespace SecureEngine

/-- **The commands that change keys**: the two that generate one, and those that install, import and
delete one. All others leave them. -/
def Command.keyWriters : List Command :=
  [.generateKey, .generateKeyExt, .importKey, .deleteKey, .manageKey]

namespace Engine

/-! ## (1) Passwords and keys -/

/-- The password of a `KeyStore`, if there is one. -/
def passwordOf (keyStores : IdMap KeyStore) (name : UInt32) : Option UInt32 :=
  (keyStores.find? name).map KeyStore.password

/-- The keys of a `KeyStore`; none if there is no such key store. -/
def keysOf (keyStores : IdMap KeyStore) (name : UInt32) : IdMap KeyEntry :=
  ((keyStores.find? name).map KeyStore.keys).getD .empty

section

variable {keyStores : IdMap KeyStore} {name other : UInt32} {store : KeyStore}

/-- `passwordOf` tells the password of a key store that is there. -/
theorem passwordOf_of_find? (h : keyStores.find? name = some store) :
    passwordOf keyStores name = some store.password := by
  rw [passwordOf, h, Option.map_some]

/-- A `KeyStore` that has just been put down has the password it was put down with. -/
theorem passwordOf_insert_self (keyStores : IdMap KeyStore) (name : UInt32) (store : KeyStore) :
    passwordOf (keyStores.insert name store) name = some store.password :=
  passwordOf_of_find? (IdMap.find?_insert_self _ _ _)

/-- Putting down one key store leaves the passwords of the others: `passwordOf` after `IdMap.insert` under
another name. -/
theorem passwordOf_insert_of_ne (h : other ≠ name) :
    passwordOf (keyStores.insert name store) other = passwordOf keyStores other := by
  rw [passwordOf, IdMap.find?_insert_of_ne h, passwordOf]

/-- `keysOf` tells the keys of a key store that is there. -/
theorem keysOf_of_find? (h : keyStores.find? name = some store) :
    keysOf keyStores name = store.keys := by
  rw [keysOf, h, Option.map_some, Option.getD_some]

/-- A `KeyStore` that has just been put down has the keys it was put down with. -/
theorem keysOf_insert_self (keyStores : IdMap KeyStore) (name : UInt32) (store : KeyStore) :
    keysOf (keyStores.insert name store) name = store.keys :=
  keysOf_of_find? (IdMap.find?_insert_self _ _ _)

/-- Putting down one key store leaves the keys of the others: `keysOf` after `IdMap.insert` under another
name. -/
theorem keysOf_insert_of_ne (h : other ≠ name) :
    keysOf (keyStores.insert name store) other = keysOf keyStores other := by
  rw [keysOf, IdMap.find?_insert_of_ne h, keysOf]

/-- A key store that is created has no keys, as if there were none. -/
theorem keysOf_insert_new (h : keyStores.find? name = none) (password : UInt32) :
    keysOf (keyStores.insert name { password }) = keysOf keyStores := by
  funext other
  by_cases hother : other = name
  · subst hother
    rw [keysOf, IdMap.find?_insert_self, keysOf, h]
    rfl
  · exact keysOf_insert_of_ne hother

end

/-! ## (2) From services to key stores -/

variable {engine before : Engine} {request : Bytes} {after : IdMap KeyStore}

/-- **The `KeyStore` of a service** is the one that is open under the handle the service was opened on. -/
theorem serviceStore_ok {handle name : UInt32} {kind : Service} {store : KeyStore}
    (h : engine.serviceStore handle kind = .ok (name, store)) :
    ∃ parent session, engine.objects.find? handle = some (.service kind parent) ∧
      engine.objects.find? parent = some (.keyStore session name) ∧
      engine.keyStores.find? name = some store := by
  simp only [serviceStore, bind_eq_ok_iff] at h
  obtain ⟨parent, hparent, identifier, hopen, h⟩ := h
  obtain ⟨session, hsession⟩ := keyStoreAt_ok hopen
  -- Three lookups in a row: the service, the key store it is on, the store of that name.
  cases hfound : engine.keyStores.find? identifier with
  | none =>
    rw [hfound] at h
    cases h
  | some found =>
    rw [hfound] at h
    cases h
    exact ⟨parent, session, serviceParent_eq_ok hparent, hsession, hfound⟩

/-! ## (3) What happens to key stores -/

/-- **What a request does to the key stores**: nothing, `Engine.unlock` of one of them, or a change of
keys in one by a command of `keyWriters`. -/
inductive Stores (before : Engine) (request : Bytes) : IdMap KeyStore → Prop
  | kept : Stores before request before.keyStores
  /-- One is unlocked, and created if there was none. -/
  | unlocked {m : Wire.OpenKeyStore} {after : IdMap KeyStore}
      (hreads : before.Reads request .openKeyStore m) (hunlock : before.unlock m = .ok after) :
      Stores before request after
  /-- The keys of one are changed, for a service that the request is addressed to. -/
  | written {c : Command} {m : c.Request before.settings.flavor} {service : UInt32}
      {after : IdMap KeyStore} (hreads : before.Reads request c m) (hc : c ∈ Command.keyWriters)
      (haddressee : c.addressee? m = some service) (hwrites : Writes before service after) :
      Stores before request after

/-- A request that completes its command changes key stores as `Stores` allows, and most leave them
alone. -/
theorem Reads.stores_of_completes {c : Command} {m : c.Request before.settings.flavor}
    (hreads : before.Reads request c m) {done : Engine} (h : Completes before done c m) :
    Stores before request done.keyStores := by
  have hkept (h : done.keyStores = before.keyStores) : Stores before request done.keyStores := by
    rw [h]
    exact .kept
  -- Five commands write keys and one opens a store; every other completes with the stores as they were.
  cases c with
  | openSession => exact hkept h.2
  | openKeyStore => exact .unlocked hreads h.1
  | openService kind | closeSession | closeKeyStore | closeService kind => exact hkept h.2.2
  | generateKey | generateKeyExt | importKey | deleteKey | manageKey =>
    exact .written hreads (by decide) rfl h.2
  | _ => exact hkept h.2

/-- A request that strands a key store or a key changes key stores as `Stores` allows, too. -/
theorem Reads.stores_of_strands {machine : Machine} {c : Command}
    {m : c.Request machine.engine.settings.flavor} (hreads : machine.engine.Reads request c m)
    (h : Strands machine after c m) : Stores machine.engine request after := by
  cases c with
  | openKeyStore => exact .unlocked hreads h.unlock_eq
  | generateKey | generateKeyExt => exact .written hreads (by decide) rfl (StrandsKey.places h).writes
  | _ => exact False.elim h

/-- **Every request keeps the key stores, unlocks one or changes the keys of one**, also when it
fails. -/
theorem stores (request : Bytes) (machine : Machine) :
    Stores machine.engine request ((execute request).run machine).2.engine.keyStores := by
  cases execute_ends request machine with
  | failed _ _ hstores =>
    rcases hstores with hkept | ⟨c, m, hreads, hstrands⟩
    · rw [hkept]
      exact .kept
    · exact hreads.stores_of_strands hstrands
  | succeeded _ hreads hcompletes => exact hreads.stores_of_completes hcompletes

/-- **A password stays** once there is one: none of the cases of `Stores` changes what `passwordOf`
gives. -/
theorem Stores.passwordOf_eq (h : Stores before request after) {name password : UInt32}
    (hpassword : passwordOf before.keyStores name = some password) :
    passwordOf after name = some password := by
  cases h with
  | kept => exact hpassword
  | @unlocked m _ hreads hunlock =>
    obtain ⟨-, -, ⟨store, -, -, rfl⟩ | ⟨hnone, rfl⟩⟩ := unlock_ok hunlock
    · exact hpassword
    · -- The new key store is another one, because there was none of its name.
      have hne : name ≠ m.identifier := by
        rintro rfl
        rw [passwordOf, hnone] at hpassword
        cases hpassword
      rw [passwordOf_insert_of_ne hne]
      exact hpassword
  | @written c m service _ hreads hc haddressee hwrites =>
    obtain ⟨written, store, keys, hstore, rfl⟩ := hwrites
    obtain ⟨-, -, -, -, hfound⟩ := serviceStore_ok hstore
    by_cases hname : name = written
    · subst hname
      rw [passwordOf_of_find? hfound] at hpassword
      rw [passwordOf_insert_self]
      exact hpassword
    · rw [passwordOf_insert_of_ne hname]
      exact hpassword

/-- **A key store whose keys change** is the one of the service that the request is addressed to, and
no other key store changes. -/
theorem Stores.exists_service (h : Stores before request after) {name : UInt32}
    (hchanged : keysOf after name ≠ keysOf before.keyStores name) :
    ∃ (c : Command) (m : c.Request before.settings.flavor) (service parent session : UInt32),
      before.Reads request c m ∧ c ∈ Command.keyWriters ∧ c.addressee? m = some service ∧
        before.objects.find? service = some (.service .keyManagement parent) ∧
        before.objects.find? parent = some (.keyStore session name) ∧
        ∀ other, other ≠ name → after.find? other = before.keyStores.find? other := by
  cases h with
  | kept => exact absurd rfl hchanged
  | @unlocked m _ hreads hunlock =>
    obtain ⟨-, -, ⟨store, -, -, rfl⟩ | ⟨hnone, rfl⟩⟩ := unlock_ok hunlock
    · exact absurd rfl hchanged
    · exact absurd (congrFun (keysOf_insert_new hnone m.password) name) hchanged
  | @written c m service _ hreads hc haddressee hwrites =>
    obtain ⟨written, store, keys, hstore, rfl⟩ := hwrites
    obtain ⟨parent, session, hservice, hparent, -⟩ := serviceStore_ok hstore
    by_cases hname : name = written
    · subst hname
      exact ⟨c, m, service, parent, session, hreads, hc, haddressee, hservice, hparent,
        fun other hother => IdMap.find?_insert_of_ne hother _⟩
    · exact absurd (keysOf_insert_of_ne hname) hchanged

/-! ## (4) New handles of key stores -/

section

variable {object opened : EngineObject} {handle root : UInt32} {objects : IdMap EngineObject}

/-- An object that is recorded is opened under a handle that is not below the lowest one. -/
theorem Records.exists_opens (h : Records before object objects) :
    ∃ free, handleBase ≤ free ∧ before.objects.size < before.settings.maxObjects ∧
      Opens before.objects free object objects := by
  obtain ⟨free, hfree, hbase, hroom, hinsert⟩ := h
  refine ⟨free, hbase, hroom, hfree, ?_, hinsert⟩
  rintro rfl
  exact absurd hbase (by decide)

/-- What is open after an object was recorded is the object, or was open before. -/
theorem Records.eq_or_find? (h : Records before object objects)
    (hfound : objects.find? handle = some opened) :
    opened = object ∨ before.objects.find? handle = some opened := by
  obtain ⟨free, -, -, hopens⟩ := h.exists_opens
  exact (hopens.eq_or_find? hfound).imp_left And.right

/-- What closing leaves open was open before, and not below what is closed: what `Engine.Closes` says
entails `Removes`. -/
theorem Closes.removes {done : Engine} (h : Closes before done root) :
    Removes before.objects root done.objects := by
  obtain ⟨⟨r, hroot⟩, hobjects, -⟩ := h
  intro handle object
  rw [hobjects]
  exact find?_removeTree hroot

end

/-- **A new handle of a key store** comes from a request that unlocks it. -/
theorem exists_unlock (machine : Machine) {handle session name : UInt32}
    (hafter : ((execute request).run machine).2.engine.objects.find? handle =
      some (.keyStore session name))
    (hnew : machine.engine.objects.find? handle ≠ some (.keyStore session name)) :
    ∃ m : Wire.OpenKeyStore, machine.engine.Reads request .openKeyStore m ∧ m.session = session ∧
      m.identifier = name ∧
      machine.engine.unlock m = .ok ((execute request).run machine).2.engine.keyStores := by
  -- What was open before is not new, and no other command records a key store.
  cases execute_ends request machine with
  | failed _ hspares => exact absurd (hspares.objects_eq ▸ hafter) hnew
  | @succeeded _ c m hreads hcompletes =>
    have hrecorded {object : EngineObject} (h : Records machine.engine object
        ((execute request).run machine).2.engine.objects) : .keyStore session name = object :=
      (h.eq_or_find? hafter).resolve_right hnew
    cases c with
    | openKeyStore =>
      obtain ⟨hunlock, hrecords⟩ := hcompletes
      have hobject := hrecorded hrecords
      cases hobject
      exact ⟨m, hreads, rfl, rfl, hunlock⟩
    | openSession => cases hrecorded hcompletes.1
    | openService kind => cases hrecorded hcompletes.2.1
    | closeSession | closeKeyStore | closeService kind =>
      exact absurd ((hcompletes.removes handle _).mp hafter).1 hnew
    | _ => exact absurd (hcompletes.1 ▸ hafter) hnew

/-- **No handle of a key store is open** that counts as closed: `Engine.isOpen` looks for its name among
all objects. -/
theorem find?_ne_of_isOpen {name : UInt32} (h : engine.isOpen name = false) (handle session : UInt32) :
    engine.objects.find? handle ≠ some (.keyStore session name) := by
  intro hfound
  have hmem : EngineObject.keyStore session name ∈ engine.objects.values :=
    List.mem_map.mpr ⟨_, IdMap.mem_of_find? hfound, rfl⟩
  unfold isOpen at h
  have hnot := List.any_eq_false.mp h _ hmem
  simp at hnot

end Engine

end SecureEngine
