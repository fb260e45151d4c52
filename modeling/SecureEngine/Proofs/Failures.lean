import SecureEngine.Proofs.Requests

/-! # What failed requests leave behind

A request that fails has changed no open object, no flag and no byte of the client's memory. Key stores
it may have changed: two handlers store before the last step that can fail.

* **`Engine.failed_changed_iff`** — the requests that fail and have changed the key stores are exactly
  those that strand something, a new key store or a key.
* **`Engine.spares_of_failed`** — every failed request spares all else. -/

namespace SecureEngine.Engine

variable {machine : Machine} {request : Bytes} {keyStores : IdMap KeyStore}

/-! ## (1) Key stores -/

/-- **A request that `Strands` something fails**, and leaves it in the key stores. -/
theorem Reads.failed_of_strands {c : Command} {m : c.Request machine.engine.settings.flavor}
    (hreads : machine.engine.Reads request c m) (hstrands : Strands machine keyStores c m) :
    ((execute request).run machine).1.Failed ∧
      ((execute request).run machine).2.engine.keyStores = keyStores := by
  obtain ⟨e, after, hrun, hafter⟩ := run_handle_of_strands hstrands
  rw [hreads.run_execute_eq, hrun]
  exact ⟨failed_statusReply _ _ _, hafter⟩

/-- **Which `Failed` requests change the key stores, and to what**: those that create a `KeyStore` for
which there is no handle, and those that store a key whose public part cannot be handed out. All others
leave every key store with its password and its keys. -/
theorem failed_changed_iff (machine : Machine) (request : Bytes) (keyStores : IdMap KeyStore) :
    (((execute request).run machine).1.Failed ∧
        ((execute request).run machine).2.engine.keyStores = keyStores ∧
        keyStores ≠ machine.engine.keyStores) ↔
      keyStores ≠ machine.engine.keyStores ∧
        ∃ (c : Command) (m : c.Request machine.engine.settings.flavor),
          machine.engine.Reads request c m ∧ Strands machine keyStores c m := by
  -- A failed request keeps the stores unless it strands something, and what strands something fails.
  constructor
  · rintro ⟨hfailed, rfl, hchanged⟩
    cases execute_ends request machine with
    | failed _ _ hstores => exact ⟨hchanged, hstores.resolve_left hchanged⟩
    | succeeded hsucceeded => exact absurd hfailed hsucceeded
  · rintro ⟨hchanged, c, m, hreads, hstrands⟩
    obtain ⟨hfailed, hafter⟩ := hreads.failed_of_strands hstrands
    exact ⟨hfailed, hafter, hchanged⟩

/-- Settings with room for one object: `maxObjects` is reached with the first session. -/
def crampedSettings : EngineSettings := { maxObjects := 1 }

/-- A request for a session, which takes the room of `crampedSettings`. -/
def openingRequest : Bytes :=
  (start crampedSettings).requestFor .openSession (⟨1, 0, 0, 0, 0, 0⟩ : Wire.OpenSession)

/-- A request of the session to open a key store, and to create it. -/
def creatingRequest : Bytes :=
  (start crampedSettings).requestFor .openKeyStore
    (⟨0x100, 0x1234, 0x5678, 1⟩ : Wire.OpenKeyStore)

/-- The machine after `openingRequest`, the first of the two requests; its engine has no room left. -/
def crampedMachine : Machine := ⟨(start crampedSettings).afterAll [({}, openingRequest)], {}⟩

/-- There is no room to open the key store, so executing `creatingRequest` ends in a failure. -/
theorem failed_creatingRequest : ((execute creatingRequest).run crampedMachine).1.Failed := by
  decide +kernel

/-- **Some `Failed` requests change the key stores**: the key store that cannot be opened has been
created. -/
theorem exists_failed_changed :
    ¬∀ (settings : EngineSettings) (requests : List (SharedMemory × Bytes)) (memory : SharedMemory)
      (request : Bytes),
      ((execute request).run ⟨(start settings).afterAll requests, memory⟩).1.Failed →
        ((execute request).run ⟨(start settings).afterAll requests, memory⟩).2.engine.keyStores =
          ((start settings).afterAll requests).keyStores := by
  intro hkept
  have hstores : ((execute creatingRequest).run crampedMachine).2.engine.keyStores =
      crampedMachine.engine.keyStores :=
    hkept crampedSettings [({}, openingRequest)] {} creatingRequest failed_creatingRequest
  -- Only one of the two has the new key store.
  have hcontains : ((execute creatingRequest).run crampedMachine).2.engine.keyStores.contains 0x1234 =
      crampedMachine.engine.keyStores.contains 0x1234 := by
    rw [hstores]
  exact absurd hcontains (by decide +kernel)

/-! ## (2) Objects and memory -/

/-- **A `Failed` request leaves objects and memory alone**: the table of open objects, the flag of the
generator of the secure hardware extension, and the memory shared with the client, with its areas, its
registrations and its cursors. -/
theorem spares_of_failed (machine : Machine) (request : Bytes)
    (hfailed : ((execute request).run machine).1.Failed) :
    Spares machine ((execute request).run machine).2 := by
  cases execute_ends request machine with
  | failed _ hspares => exact hspares
  | succeeded hsucceeded => exact absurd hfailed hsucceeded

/-- Also by the request that creates a key store and has no room to open it. -/
theorem spares_of_failed_creating :
    ((execute creatingRequest).run crampedMachine).1.Failed ∧
      Spares crampedMachine ((execute creatingRequest).run crampedMachine).2 :=
  ⟨failed_creatingRequest, spares_of_failed crampedMachine creatingRequest failed_creatingRequest⟩

end SecureEngine.Engine
