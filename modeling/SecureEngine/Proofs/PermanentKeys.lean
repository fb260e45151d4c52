import SecureEngine.Proofs.KeyAccess
import SecureEngine.Proofs.KeyChanges

/-! # Permanent keys

A permanent key cannot be deleted, but what is under its identifier can be replaced: an update keeps the
type of the key and nothing else, so it may leave a key that is not permanent and can be deleted then.

* **`Engine.HoldsPermanent`** — a key store holds a permanent key of a type under an identifier.
* **`Engine.Replaces`** — a request asks for the key under an identifier to be replaced.
* **`Engine.permanent_until_replaced`** — a permanent key stays over every run of requests, up to one
  that replaces it by a key that is not permanent.
* **`Engine.exists_permanent_lost`** — some runs lose a permanent key that way. -/

namespace SecureEngine.Engine

variable {before : Engine} {request : Bytes} {name id : UInt32} {keyType : KeyType}

/-! ## (1) One request -/

/-- **A key store holds a permanent key** of a type under an identifier: an entry of that `KeyType` which
`isPermanent`. -/
def HoldsPermanent (engine : Engine) (name id : UInt32) (keyType : KeyType) : Prop :=
  ∃ entry, (keysOf engine.keyStores name).find? id = some entry ∧ entry.isPermanent = true ∧
    entry.keyType = keyType

instance (engine : Engine) (name id : UInt32) (keyType : KeyType) :
    Decidable (engine.HoldsPermanent name id keyType) :=
  decidable_of_iff (((keysOf engine.keyStores name).find? id).any fun entry =>
    entry.isPermanent && entry.keyType == keyType) (by simp [HoldsPermanent, Option.any_eq_true])

/-- **A request asks for a key to be replaced**: it installs a key as an update, under the identifier and
for a key management service that works on the key store. -/
def Replaces (before : Engine) (request : Bytes) (name id : UInt32) : Prop :=
  ∃ (c : Command) (m : c.Request before.settings.flavor) (d : Destination) (parent session : UInt32),
    before.Reads request c m ∧ c.destination? m = some d ∧ d.identifier = id ∧
      (StorageFlags.ofByte d.flags).create = false ∧ (StorageFlags.ofByte d.flags).update = true ∧
      before.objects.find? d.service = some (.service .keyManagement parent) ∧
      before.objects.find? parent = some (.keyStore session name)

/-- **A permanent key is still there after a request**, or a key of its type that has replaced it. -/
theorem KeyChange.permanent {keys : IdMap KeyEntry} {held : KeyEntry}
    (h : KeyChange before request name keys)
    (hheld : (keysOf before.keyStores name).find? id = some held) (hpermanent : held.isPermanent = true) :
    keys.find? id = some held ∨
      ∃ entry, keys.find? id = some entry ∧ entry.keyType = held.keyType ∧
        Replaces before request name id := by
  cases h with
  | kept => exact Or.inl hheld
  | @placed c m d store after entry chosen hreads hdestination hstore hsize hinsert =>
    obtain ⟨hchoose, -, hkeys⟩ := KeyStore.insert_ok hinsert
    obtain ⟨parent, session, hservice, hparent, -⟩ := serviceStore_ok hstore
    rw [keysOf_of_serviceStore hstore] at hheld
    by_cases hchosen : id = chosen
    · -- The identifier is in use, so the entry has not been created under it.
      subst hchosen
      rcases KeyStore.choose_ok hchoose with ⟨-, -, hfree⟩ | ⟨hcreate, hupdate, hid, other, hother, htype⟩
      · rw [hheld] at hfree
        cases hfree
      · rw [← hid, hheld] at hother
        cases hother
        refine Or.inr ⟨entry, ?_, htype.symm, c, m, d, parent, session, hreads, hdestination, hid.symm,
          hcreate, hupdate, hservice, hparent⟩
        rw [hkeys, IdMap.find?_insert_self]
    · rw [hkeys, IdMap.find?_insert_of_ne hchosen]
      exact Or.inl hheld
  | @deleted m store after hreads hstore hremove =>
    obtain ⟨other, hother, htransient, hkeys⟩ := KeyStore.remove_ok hremove
    rw [keysOf_of_serviceStore hstore] at hheld
    have hne : id ≠ m.identifier := by
      rintro rfl
      rw [hheld] at hother
      cases hother
      rw [hpermanent] at htransient
      cases htransient
    rw [hkeys, IdMap.find?_erase, if_neg hne]
    exact Or.inl hheld

/-- **After one request a permanent key is still permanent**, or the request has replaced it by a key
that is not. -/
theorem HoldsPermanent.step (h : before.HoldsPermanent name id keyType) (memory : SharedMemory)
    (request : Bytes) :
    (before.step memory request).HoldsPermanent name id keyType ∨
      Replaces before request name id ∧
        ∃ entry, (keysOf (before.step memory request).keyStores name).find? id = some entry ∧
          entry.isPermanent = false ∧ entry.keyType = keyType := by
  obtain ⟨held, hheld, hpermanent, htype⟩ := h
  rcases (keyChange_step before memory request name).permanent hheld hpermanent with
    hkept | ⟨entry, hentry, hsame, hreplaces⟩
  · exact Or.inl ⟨held, hkept, hpermanent, htype⟩
  · -- A key that is replaced by a permanent one is permanent still.
    cases hentryPermanent : entry.isPermanent with
    | true => exact Or.inl ⟨entry, hentry, hentryPermanent, hsame.trans htype⟩
    | false => exact Or.inr ⟨hreplaces, entry, hentry, hentryPermanent, hsame.trans htype⟩

/-! ## (2) Runs of requests -/

/-- **A permanent key stays until it is replaced.** After every run of requests, of whatever clients, the
key store holds a permanent key of the same type under the identifier; or the run comes by a request that
updates the identifier with a key that is not permanent, and up to there it was. -/
theorem permanent_until_replaced {engine : Engine} (h : engine.HoldsPermanent name id keyType)
    (requests : List (SharedMemory × Bytes)) :
    (engine.afterAll requests).HoldsPermanent name id keyType ∨
      ∃ earlier memory request later, requests = earlier ++ (memory, request) :: later ∧
        (engine.afterAll earlier).HoldsPermanent name id keyType ∧
        Replaces (engine.afterAll earlier) request name id ∧
        ∃ entry, (keysOf ((engine.afterAll earlier).step memory request).keyStores name).find? id =
          some entry ∧ entry.isPermanent = false ∧ entry.keyType = keyType := by
  -- By induction on the requests: the key is permanent until the first one that replaces it, and
  -- nothing is said of what comes after.
  induction requests generalizing engine with
  | nil => exact Or.inl h
  | cons head rest ih =>
    obtain ⟨memory, request⟩ := head
    rcases h.step memory request with hstep | ⟨hreplaces, hentry⟩
    · rcases ih hstep with hkept | ⟨earlier, memory', request', later, rfl, hheld, hlost⟩
      · exact Or.inl hkept
      · exact Or.inr ⟨(memory, request) :: earlier, memory', request', later, rfl, hheld, hlost⟩
    · exact Or.inr ⟨[], memory, request, rest, rfl, h, hreplaces, hentry⟩

/-- A request to generate a permanent AES key, by the command `generateKey`. -/
def permanentRequest : Bytes :=
  (start {}).requestFor .generateKey (⟨0x102, 7, 0, 2, 0x30, 0, 1, 0⟩ : Wire.GenerateKey)

/-- The engine that has a permanent key: that of the start after `permanentRequest`. -/
def permanentEngine : Engine :=
  (start {}).afterAll (preludeRequests ++ [(({} : SharedMemory), permanentRequest)])

/-- `permanentEngine` holds a permanent AES key with the identifier 7. -/
theorem holdsPermanent_permanentEngine : permanentEngine.HoldsPermanent 0x1234 7 .aes128 := by
  decide +kernel

/-- A request to replace the key by one that is not permanent, which is `generateKey` with the flag for an
update. -/
def replacingRequest : Bytes :=
  (start {}).requestFor .generateKey (⟨0x102, 7, 0, 1, 0x30, 0, 0, 0⟩ : Wire.GenerateKey)

/-- A request to delete the key, which `deleteKey` refuses while it is permanent. -/
def deletingRequest : Bytes :=
  (start {}).requestFor .deleteKey (⟨0x102, 7, 0⟩ : Wire.DeleteKey)

/-- The run in which the key is first replaced by `replacingRequest` and then deleted by
`deletingRequest`. -/
def losingRequests : List (SharedMemory × Bytes) :=
  [({}, replacingRequest), ({}, deletingRequest)]

/-- That run comes by a request that `Replaces` the key. -/
theorem permanent_until_replaced_losing :
    permanentEngine.HoldsPermanent 0x1234 7 .aes128 ∧
      ∃ earlier memory request later, losingRequests = earlier ++ (memory, request) :: later ∧
        Replaces (permanentEngine.afterAll earlier) request 0x1234 7 := by
  have hlost : ¬(permanentEngine.afterAll losingRequests).HoldsPermanent 0x1234 7 .aes128 := by
    decide +kernel
  obtain ⟨earlier, memory, request, later, hsplit, -, hreplaces, -⟩ :=
    (permanent_until_replaced holdsPermanent_permanentEngine losingRequests).resolve_left hlost
  exact ⟨holdsPermanent_permanentEngine, earlier, memory, request, later, hsplit, hreplaces⟩

/-- **Some permanent keys can be removed**: one that is updated to a key that is not permanent, and then
deleted. -/
theorem exists_permanent_lost :
    ¬∀ (settings : EngineSettings) (earlier later : List (SharedMemory × Bytes)) (name id : UInt32)
      (entry : KeyEntry),
      (keysOf ((start settings).afterAll earlier).keyStores name).find? id = some entry →
      entry.isPermanent = true →
        ((keysOf (((start settings).afterAll earlier).afterAll later).keyStores name).find? id).isSome =
          true := by
  intro hstays
  obtain ⟨entry, hentry, hpermanent, -⟩ := holdsPermanent_permanentEngine
  -- The key is updated to one that is not permanent, and deleted.
  have hkept := hstays {} _ losingRequests 0x1234 7 entry hentry hpermanent
  exact absurd hkept (by decide +kernel)

end SecureEngine.Engine
