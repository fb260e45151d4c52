import SecureEngine.Proofs.KeyStores

/-! # Changes of keys

Four commands install a key and one deletes a key; whatever else a client sends leaves the keys of every
key store alone. An installed key has material of the size of its type.

* **`KeyStore.choose_ok`**, **`KeyStore.insert_ok`**, **`KeyStore.remove_ok`** — where a key goes, and
  what is left when one is stored or deleted.
* **`Destination`** — where a request asks for its key to go.
* **`Engine.KeyChange`** — what a request does to the keys of one key store; **`Engine.keyChange`** — no
  request does anything else. -/

namespace SecureEngine

/-! ## (1) Storing and deleting in one key store -/

namespace KeyStore

variable {store after : KeyStore} {id chosen : UInt32} {flags : StorageFlags} {entry : KeyEntry}

/-- `KeyStore.get` succeeds just if there is a key under the identifier, and hands it out. -/
theorem get_eq_ok_iff : store.get id = .ok entry ↔ store.keys.find? id = some entry := by
  unfold get
  cases store.keys.find? id with
  | none => exact ⟨nofun, nofun⟩
  | some found => rw [Except.ok.injEq, Option.some.injEq]

/-- **Where an entry goes**: to a free identifier if it is created, and in the place of a key of its
type if it is updated. -/
theorem choose_ok (h : store.choose id flags entry = .ok chosen) :
    (flags.create = true ∧ chosen ≠ 0 ∧ store.keys.find? chosen = none) ∨
      (flags.create = false ∧ flags.update = true ∧ chosen = id ∧
        ∃ held, store.keys.find? id = some held ∧ held.keyType = entry.keyType) := by
  unfold choose at h
  by_cases hcreate : flags.create = true
  · rw [if_pos hcreate] at h
    refine Or.inl ⟨hcreate, ?_⟩
    by_cases hzero : id = 0
    · -- The least free identifier is looked for from 1 on.
      rw [if_pos hzero] at h
      cases hfree : store.keys.firstFree? 1 with
      | none =>
        rw [hfree] at h
        cases h
      | some free =>
        rw [hfree] at h
        cases h
        obtain ⟨hnone, hle⟩ := IdMap.firstFree?_spec hfree
        refine ⟨?_, hnone⟩
        rintro rfl
        exact absurd hle (by decide)
    · rw [if_neg hzero] at h
      -- An identifier that the caller names must be free.
      cases hfound : store.keys.find? id with
      | none =>
        rw [IdMap.contains, hfound] at h
        cases h
        exact ⟨hzero, hfound⟩
      | some held =>
        rw [IdMap.contains, hfound] at h
        cases h
  · -- Without the create flag the update flag is needed, and the key must be there with the same type.
    have hupdates : flags.update = true ∧ (do
        let held ← store.get id
        if held.keyType = entry.keyType then return id else throw Reason.keyNotSupported.toError) =
          Except.ok chosen := by
      rw [if_neg hcreate] at h
      by_cases hupdate : flags.update = true
      · rw [if_pos hupdate] at h
        exact ⟨hupdate, h⟩
      · rw [if_neg hupdate] at h
        cases h
    obtain ⟨hupdate, hchosen⟩ := hupdates
    simp only [bind_eq_ok_iff, ite_throw_eq_ok_iff] at hchosen
    obtain ⟨held, hget, htype, hchosen⟩ := hchosen
    cases hchosen
    exact Or.inr ⟨Bool.eq_false_iff.mpr hcreate, hupdate, rfl, held, get_eq_ok_iff.mp hget, htype⟩

/-- **What storing an entry leaves**: the entry is under the identifier chosen for it, and its group
had room. -/
theorem insert_ok (h : store.insert id flags entry = .ok (chosen, after)) :
    store.choose id flags entry = .ok chosen ∧
      store.othersInGroup entry.group chosen < groupCapacity ∧
      after.keys = store.keys.insert chosen entry := by
  simp only [insert, bind_eq_ok_iff, throw_bind_ite_eq_ok_iff, Nat.not_le] at h
  obtain ⟨id, hchoose, hroom, hinserted⟩ := h
  cases hinserted
  exact ⟨hchoose, hroom, rfl⟩

/-- **What deleting a key leaves**: the other keys; the key was not permanent, for `KeyStore.remove`
refuses those. -/
theorem remove_ok (h : store.remove id = .ok after) :
    ∃ held, store.keys.find? id = some held ∧ held.isPermanent = false ∧
      after.keys = store.keys.erase id := by
  simp only [remove, bind_eq_ok_iff, throw_bind_ite_eq_ok_iff, Bool.not_eq_true] at h
  obtain ⟨held, hget, hpermanent, hremoved⟩ := h
  cases hremoved
  exact ⟨held, get_eq_ok_iff.mp hget, hpermanent, rfl⟩

end KeyStore

/-! ## (2) What requests do to keys -/

/-- **Where a request asks for its key to go**: to an identifier in the key store of a service. -/
structure Destination where
  service : UInt32
  identifier : UInt32
  flags : UInt8
deriving DecidableEq, Repr

/-- The `Destination` of the key that a command installs. -/
def Command.destination? {flavor : Flavor} : (c : Command) → c.Request flavor → Option Destination
  | .generateKey, m => some ⟨m.service, m.identifier, m.flags⟩
  | .generateKeyExt, m => some ⟨m.service, m.identifier, m.flags⟩
  | .importKey, m => some ⟨m.service, m.identifier, m.flags⟩
  | .manageKey, m => some ⟨m.service, m.destination, m.flags⟩
  | _, _ => none

namespace Engine

/-- **What a request does to the keys of a `KeyStore`.** -/
inductive KeyChange (before : Engine) (request : Bytes) (name : UInt32) : IdMap KeyEntry → Prop
  | kept : KeyChange before request name (keysOf before.keyStores name)
  | placed {c : Command} {m : c.Request before.settings.flavor} {d : Destination}
      {store after : KeyStore} {entry : KeyEntry} {chosen : UInt32}
      (hreads : before.Reads request c m) (hdestination : c.destination? m = some d)
      (hstore : before.serviceStore d.service .keyManagement = .ok (name, store))
      (hsize : entry.material.length = entry.keyType.size)
      (hinsert : store.insert d.identifier (.ofByte d.flags) entry = .ok (chosen, after)) :
      KeyChange before request name after.keys
  | deleted {m : Wire.DeleteKey} {store after : KeyStore}
      (hreads : before.Reads request .deleteKey m)
      (hstore : before.serviceStore m.service .keyManagement = .ok (name, store))
      (hremove : store.remove m.identifier = .ok after) :
      KeyChange before request name after.keys

variable {before : Engine} {request : Bytes} {name : UInt32} {after : IdMap KeyStore}

/-- The keys that a service of a `KeyStore` works on. -/
theorem keysOf_of_serviceStore {service : UInt32} {kind : Service} {store : KeyStore}
    (h : before.serviceStore service kind = .ok (name, store)) :
    keysOf before.keyStores name = store.keys := by
  obtain ⟨-, -, -, -, hfound⟩ := serviceStore_ok h
  exact keysOf_of_find? hfound

/-- Installing a key changes the keys of one key store, if it succeeds in placing the key. -/
theorem keyChange_of_places {c : Command} {m : c.Request before.settings.flavor} {d : Destination}
    (hreads : before.Reads request c m) (hdestination : c.destination? m = some d)
    (h : after = before.keyStores ∨ Places before d.service d.identifier d.flags after)
    (name : UInt32) : KeyChange before request name (keysOf after name) := by
  rcases h with rfl | ⟨chosen, entry, hsize, hplace⟩
  · exact .kept
  · simp only [placeKey, bind_eq_ok_iff] at hplace
    obtain ⟨⟨written, store⟩, hstore, ⟨chosen', stored⟩, hinsert, hplaced⟩ := hplace
    cases hplaced
    -- Placing a key writes the store of the service and no other.
    by_cases hname : name = written
    · subst hname
      rw [keysOf_insert_self]
      exact .placed hreads hdestination hstore hsize hinsert
    · rw [keysOf_insert_of_ne hname]
      exact .kept

/-- A request to delete a key changes the keys of every key store as `KeyChange` allows. -/
theorem keyChange_of_deletes {m : Wire.DeleteKey} (hreads : before.Reads request .deleteKey m)
    (h : after = before.keyStores ∨ Deletes before m.service m.identifier after) (name : UInt32) :
    KeyChange before request name (keysOf after name) := by
  rcases h with rfl | ⟨written, store, rest, hstore, hremove, rfl⟩
  · exact .kept
  · by_cases hname : name = written
    · subst hname
      rw [keysOf_insert_self]
      exact .deleted hreads hstore hremove
    · rw [keysOf_insert_of_ne hname]
      exact .kept

/-- What commits at its end has had its effect, or the key stores are as before. -/
theorem keyStores_of_commits {α : Type} {machine : Machine} {x : Handling α}
    {p : IdMap KeyStore → Prop}
    (h : Handling.Commits machine.engine (fun _ after => after.objects = machine.engine.objects ∧
      p after.keyStores) x) :
    (x.run machine).2.engine.keyStores = machine.engine.keyStores ∨
      p (x.run machine).2.engine.keyStores := by
  obtain ⟨hfailed, hok⟩ := h machine (.refl _)
  rcases hrun : (x.run machine).1 with e | a
  · exact Or.inl (hfailed e hrun).1.keyStores_eq
  · exact Or.inr (hok a hrun).2

/-- **A key is generated and placed**, whether its public part is handed out or not, or nothing is
changed. -/
theorem keyStores_generateKey (m : Wire.GenerateKey) (minMacLength : UInt8) (machine : Machine) :
    ((generateKey m minMacLength).run machine).2.engine.keyStores = machine.engine.keyStores ∨
      Places machine.engine m.service m.identifier m.flags
        ((generateKey m minMacLength).run machine).2.engine.keyStores := by
  obtain ⟨hfailed, hok⟩ := generated m minMacLength machine
  rcases hrun : ((generateKey m minMacLength).run machine).1 with e | identifier
  · exact (hfailed e hrun).2.imp_right StrandsKey.places
  · exact Or.inr (hok identifier hrun).2

/-- Executing a request that is read leaves the machine as its handler does: `Engine.execute` after
`Reads` is `handle`, and the reply changes nothing. -/
theorem Reads.machine_execute {machine : Machine} {c : Command}
    {m : c.Request machine.engine.settings.flavor} (h : machine.engine.Reads request c m) :
    ((execute request).run machine).2 =
      ((handle machine.engine.settings.flavor c m).run machine).2 := by
  rw [h.run_execute_eq]
  rcases (handle machine.engine.settings.flavor c m).run machine with ⟨_ | _, _⟩ <;> rfl

/-- **What the commands that change keys do to them**: each of `Command.keyWriters` places a key, deletes
one or changes nothing, as `KeyChange` has it. -/
theorem Reads.keyChange {machine : Machine} {c : Command}
    {m : c.Request machine.engine.settings.flavor} (hreads : machine.engine.Reads request c m)
    (hc : c ∈ Command.keyWriters) (name : UInt32) :
    KeyChange machine.engine request name
      (keysOf ((execute request).run machine).2.engine.keyStores name) := by
  rw [hreads.machine_execute]
  cases c with
  | generateKey =>
    exact keyChange_of_places hreads rfl (keyStores_generateKey m 0 machine) name
  | generateKeyExt =>
    have hplaces := keyStores_generateKey m.toGenerateKey m.minMacLength machine
    exact keyChange_of_places hreads rfl hplaces name
  | importKey =>
    exact keyChange_of_places hreads rfl (keyStores_of_commits (commits_importKey m)) name
  | manageKey =>
    exact keyChange_of_places hreads rfl (keyStores_of_commits (commits_manageKey m)) name
  | deleteKey =>
    exact keyChange_of_deletes hreads (keyStores_of_commits (commits_deleteKey m)) name
  | _ => exact absurd hc (by simp [Command.keyWriters])

/-- **No request does anything else to keys**, whether it fails or not: the keys after `Engine.execute`
are a `KeyChange` of those before. -/
theorem keyChange (request : Bytes) (machine : Machine) (name : UInt32) :
    KeyChange machine.engine request name
      (keysOf ((execute request).run machine).2.engine.keyStores name) := by
  have hstores := stores request machine
  generalize hafter : ((execute request).run machine).2.engine.keyStores = after at hstores ⊢
  cases hstores with
  | kept => exact .kept
  -- Opening a store may make a new one, which has no keys.
  | @unlocked m _ hreads hunlock =>
    obtain ⟨-, -, ⟨store, -, -, rfl⟩ | ⟨hnone, rfl⟩⟩ := unlock_ok hunlock
    · exact .kept
    · rw [keysOf_insert_new hnone]
      exact .kept
  | written hreads hc =>
    rw [← hafter]
    exact hreads.keyChange hc name

/-- **What the engine does to keys in one step**: `Engine.step` with any memory and any request is a
`KeyChange` under every name. -/
theorem keyChange_step (engine : Engine) (memory : SharedMemory) (request : Bytes) (name : UInt32) :
    KeyChange engine request name (keysOf (engine.step memory request).keyStores name) :=
  keyChange request ⟨engine, memory⟩ name

end Engine

end SecureEngine
