import SecureEngine.Proofs.KeyAccess
import SecureEngine.Proofs.OutputRoom

/-! # Which key a SHE slot names

SHE requests name no key store, so their key is looked for in all that are open, in the order of their
handles. The search ends at the first key under the identifier, and only then is its type looked at.

* **`Engine.Offers`** — an open key store has a key under an identifier; **`Engine.OffersFirst`** — none
  with a lower handle has one.
* **`IdMap.findSome?_values_iff`** — the first value with a result is that under the least identifier.
* **`Engine.LooksUp`** — when a SHE key is found, and which; **`Engine.looksUp`** — this holds of every
  engine.
* **`Engine.exists_hidden`** — a key of another type can hide a SHE key. -/

namespace SecureEngine

/-! ## (1) The first of the values -/

namespace IdMap

variable {α β : Type}

/-- **The first value with a result** is the one under the least identifier, as `IdMap.values` lists them
by it. -/
theorem findSome?_values_iff {m : IdMap α} {f : α → Option β} {b : β} :
    m.values.findSome? f = some b ↔ ∃ id a, m.find? id = some a ∧ f a = some b ∧
      ∀ other a', m.find? other = some a' → (f a').isSome = true → id ≤ other := by
  rw [values, List.findSome?_map, List.findSome?_eq_some_iff]
  have hsorted := m.sorted
  constructor
  · rintro ⟨front, ⟨id, a⟩, back, hentries, hb, hnone⟩
    have hmem {other : UInt32} {a' : α} : m.find? other = some a' ↔
        (other, a') ∈ front ∨ (other, a') = (id, a) ∨ (other, a') ∈ back := by
      rw [find?_eq_some_iff, hentries, List.mem_append, List.mem_cons]
    refine ⟨id, a, hmem.mpr (Or.inr (Or.inl rfl)), hb, fun other a' hother hresult => ?_⟩
    rw [hentries, List.pairwise_append, List.pairwise_cons] at hsorted
    rcases hmem.mp hother with hfront | heq | hback
    · have hfails : f a' = none := hnone _ hfront
      rw [hfails] at hresult
      cases hresult
    · rw [Prod.mk.inj heq |>.1]
      exact UInt32.le_refl id
    · exact UInt32.le_of_lt (hsorted.2.1.1 _ hback)
  · rintro ⟨id, a, hfind, hb, hleast⟩
    obtain ⟨front, back, hentries⟩ := List.append_of_mem (mem_of_find? hfind)
    refine ⟨front, (id, a), back, hentries, hb, fun ⟨other, a'⟩ hfront => ?_⟩
    -- What comes before has a lower identifier, so it has no result.
    rw [hentries, List.pairwise_append] at hsorted
    have hlt : other < id := hsorted.2.2 _ hfront _ List.mem_cons_self
    have hother : m.find? other = some a' :=
      find?_of_mem (hentries ▸ List.mem_append_left _ hfront)
    refine Option.not_isSome_iff_eq_none.mp fun hresult => ?_
    exact UInt32.not_le.mpr hlt (hleast other a' hother hresult)

end IdMap

namespace Engine

open Handling

variable {engine : Engine} {id handle other : UInt32} {entry entry' : KeyEntry}

/-! ## (2) What open key stores offer -/

/-- **An open key store offers a key** under an identifier: the store that is open under the handle has an
entry for it. -/
def Offers (engine : Engine) (id handle : UInt32) (entry : KeyEntry) : Prop :=
  ∃ session name store, engine.objects.find? handle = some (.keyStore session name) ∧
    engine.keyStores.find? name = some store ∧ store.keys.find? id = some entry

/-- **No key store with a lower handle offers a key** under the same identifier. -/
def OffersFirst (engine : Engine) (id handle : UInt32) (entry : KeyEntry) : Prop :=
  engine.Offers id handle entry ∧ ∀ other entry', engine.Offers id other entry' → handle ≤ other

/-- The key that an object offers: the one in its key store under the identifier. Only an
`EngineObject.keyStore` has any. -/
def offered? (engine : Engine) (id : UInt32) : EngineObject → Option KeyEntry
  | .keyStore _ name => (engine.keyStores.find? name).bind (·.keys.find? id)
  | _ => none

/-- A handle offers an entry just if an object is open under it, and the object has the entry. -/
theorem offers_iff : engine.Offers id handle entry ↔
    ∃ object, engine.objects.find? handle = some object ∧ engine.offered? id object = some entry := by
  constructor
  · rintro ⟨session, name, store, hobject, hstore, hentry⟩
    refine ⟨_, hobject, ?_⟩
    rw [offered?, hstore]
    exact hentry
  · -- Only a key store offers anything.
    rintro ⟨object, hobject, hoffered⟩
    cases object with
    | session | service => cases hoffered
    | keyStore session name =>
      obtain ⟨store, hstore, hentry⟩ := Option.bind_eq_some_iff.mp hoffered
      exact ⟨session, name, store, hobject, hstore, hentry⟩

/-- One key store `Offers` one key under an identifier. -/
theorem Offers.unique (h : engine.Offers id handle entry) (h' : engine.Offers id handle entry') :
    entry = entry' := by
  obtain ⟨object, hobject, hentry⟩ := offers_iff.mp h
  obtain ⟨object', hobject', hentry'⟩ := offers_iff.mp h'
  obtain rfl : object = object' := Option.some.inj (hobject.symm.trans hobject')
  exact Option.some.inj (hentry.symm.trans hentry')

/-- There is one first handle that offers something, and one entry that it offers. -/
theorem OffersFirst.unique (h : engine.OffersFirst id handle entry)
    (h' : engine.OffersFirst id other entry') : handle = other ∧ entry = entry' := by
  obtain rfl := UInt32.le_antisymm (h.2 _ _ h'.1) (h'.2 _ _ h.1)
  exact ⟨rfl, h.1.unique h'.1⟩

/-- **The search finds what is offered first**: `Engine.openStores` lists the stores by handle, and
`OffersFirst` is about the least one. -/
theorem findSome?_openStores_iff : engine.openStores.findSome? (·.keys.find? id) = some entry ↔
    ∃ handle, engine.OffersFirst id handle entry := by
  -- Searching the stores in order is searching the objects in the order of their handles.
  have hsearch : engine.openStores.findSome? (·.keys.find? id) =
      engine.objects.values.findSome? (engine.offered? id) := by
    rw [openStores, ← List.head?_filterMap, List.filterMap_filterMap, ← List.head?_filterMap]
    congr 2
    funext object
    cases object <;> rfl
  rw [hsearch, IdMap.findSome?_values_iff]
  refine exists_congr fun handle => ⟨?_, ?_⟩
  · rintro ⟨object, hobject, hentry, hleast⟩
    refine ⟨offers_iff.mpr ⟨object, hobject, hentry⟩, fun other entry' hother => ?_⟩
    obtain ⟨object', hobject', hentry'⟩ := offers_iff.mp hother
    exact hleast other object' hobject' (Option.isSome_of_eq_some hentry')
  · rintro ⟨hoffers, hleast⟩
    obtain ⟨object, hobject, hentry⟩ := offers_iff.mp hoffers
    refine ⟨object, hobject, hentry, fun other object' hobject' hresult => ?_⟩
    obtain ⟨entry', hentry'⟩ := Option.isSome_iff_exists.mp hresult
    exact hleast other entry' (offers_iff.mpr ⟨object', hobject', hentry'⟩)

/-- **If anything is offered, something is offered first**: among the handles that `Offers` a key there is
a least one. -/
theorem Offers.exists_first (h : engine.Offers id handle entry) :
    ∃ first entry', engine.OffersFirst id first entry' := by
  -- The search finds something, since `handle` is among the handles that it goes through.
  cases hsearch : engine.openStores.findSome? (·.keys.find? id) with
  | some entry' =>
    obtain ⟨first, hfirst⟩ := findSome?_openStores_iff.mp hsearch
    exact ⟨first, entry', hfirst⟩
  | none =>
    obtain ⟨session, name, store, hobject, hstore, hentry⟩ := h
    have hopen : store ∈ engine.openStores := by
      refine List.mem_filterMap.mpr ⟨.keyStore session name, ?_, hstore⟩
      exact List.mem_map.mpr ⟨_, IdMap.mem_of_find? hobject, rfl⟩
    rw [List.findSome?_eq_none_iff.mp hsearch store hopen] at hentry
    cases hentry

/-! ## (3) What is looked up -/

/-- `Engine.sheKey?` finds an entry just if the first handle that offers one offers this, and it is an AES
key. -/
theorem sheKey?_eq_some_iff : engine.sheKey? id = some entry ↔
    ∃ handle, engine.OffersFirst id handle entry ∧ entry.keyType.isAes = true := by
  rw [sheKey?, Option.filter_eq_some_iff, findSome?_openStores_iff, exists_and_right]

/-- **Nothing is found just if every key that would do is hidden** by one of another type. -/
theorem sheKey?_eq_none_iff : engine.sheKey? id = none ↔
    ∀ handle entry, engine.Offers id handle entry → entry.keyType.isAes = true →
      ∃ first blocking, engine.OffersFirst id first blocking ∧ first < handle ∧
        blocking.keyType.isAes = false := by
  constructor
  · -- The first store that offers the identifier decides; where nothing is found, it offers a key of
    -- another type.
    intro hnone handle entry hoffers hentry
    obtain ⟨first, blocking, hfirst⟩ := hoffers.exists_first
    have htype : blocking.keyType.isAes = false := by
      refine Bool.eq_false_iff.mpr fun haes => ?_
      rw [sheKey?_eq_some_iff.mpr ⟨first, hfirst, haes⟩] at hnone
      cases hnone
    refine ⟨first, blocking, hfirst, ?_, htype⟩
    refine UInt32.lt_of_le_of_ne (hfirst.2 _ _ hoffers) ?_
    rintro rfl
    rw [hfirst.1.unique hoffers, hentry] at htype
    cases htype
  · intro hhidden
    cases hfound : engine.sheKey? id with
    | none => rfl
    | some entry =>
      obtain ⟨handle, hfirst, haes⟩ := sheKey?_eq_some_iff.mp hfound
      obtain ⟨first, _, hother, hlt, -⟩ := hhidden handle entry hfirst.1 haes
      rw [(hfirst.unique hother).1] at hlt
      exact absurd hlt (UInt32.lt_irrefl first)

/-- **What needs a key fails for want of one** just if none is found, unless it fails so afterwards. -/
theorem run_known_eq_unknownId_iff {α : Type} {f : KeyEntry → Handling α}
    (hf : ∀ entry, Avoids .unknownId (f entry)) (found : Option KeyEntry) (machine : Machine) :
    ((known found .unknownId >>= f).run machine).1 = .error Reason.unknownId.toError ↔
      found = none := by
  cases found with
  | none => exact ⟨fun _ => rfl, fun _ => rfl⟩
  | some entry =>
    refine ⟨fun h => ?_, nofun⟩
    have havoids := hf entry machine ((f entry).run machine).2
    exact (havoids (Prod.ext h rfl)).elim

/-- **The requests that need a SHE key** report an unknown identifier just if none is found. -/
theorem sheGenerateMac_eq_unknownId_iff (m : Wire.SheGenerateMac) (machine : Machine) :
    ((sheGenerateMac m).run machine).1 = .error Reason.unknownId.toError ↔
      machine.engine.sheKey? m.key.toUInt32 = none := by
  refine run_known_eq_unknownId_iff (fun entry => ?_) _ machine
  exact avoids_bind (avoids_load_of_ne (by decide) _ _) fun message => avoids_store_of_ne (by decide) _ _

/-- A SHE request to check a MAC is answered with `unknownId` just if `Engine.sheKey?` finds nothing. -/
theorem sheVerifyMac_eq_unknownId_iff (m : Wire.SheVerifyMac) (machine : Machine) :
    ((sheVerifyMac m).run machine).1 = .error Reason.unknownId.toError ↔
      machine.engine.sheKey? m.key.toUInt32 = none := by
  refine run_known_eq_unknownId_iff (fun entry => ?_) _ machine
  refine avoids_bind (avoids_load_of_ne (by decide) _ _) fun message => ?_
  refine avoids_bind (avoids_load_of_ne (by decide) _ _) fun tag => ?_
  exact avoids_bind (avoids_demand nofun) fun _ => avoids_pure _

/-- **How an engine looks for a SHE key**: the key that is offered first is found if it works for block
encryption, and otherwise `Engine.sheKey?` finds nothing. -/
structure LooksUp (engine : Engine) (id : UInt32) : Prop where
  /-- What is found is the key that is offered first, if it works for block encryption. -/
  some_iff : ∀ entry, engine.sheKey? id = some entry ↔
    ∃ handle, engine.OffersFirst id handle entry ∧ entry.keyType.isAes = true
  /-- Nothing is found just if each key that would do comes after one of another type. -/
  none_iff : engine.sheKey? id = none ↔
    ∀ handle entry, engine.Offers id handle entry → entry.keyType.isAes = true →
      ∃ first blocking, engine.OffersFirst id first blocking ∧ first < handle ∧
        blocking.keyType.isAes = false
  /-- With one key store open no key is missed. -/
  some_iff_of_alone : (∀ handle other, IsKeyStore engine.objects handle →
    IsKeyStore engine.objects other → handle = other) → ∀ entry,
      engine.sheKey? id = some entry ↔
        ∃ handle, engine.Offers id handle entry ∧ entry.keyType.isAes = true
  /-- The requests that need the key report an unknown identifier just if nothing is found. -/
  generate_iff : ∀ memory (m : Wire.SheGenerateMac), m.key.toUInt32 = id →
    (((sheGenerateMac m).run ⟨engine, memory⟩).1 = .error Reason.unknownId.toError ↔
      engine.sheKey? id = none)
  verify_iff : ∀ memory (m : Wire.SheVerifyMac), m.key.toUInt32 = id →
    (((sheVerifyMac m).run ⟨engine, memory⟩).1 = .error Reason.unknownId.toError ↔
      engine.sheKey? id = none)

/-- What is offered by the only open key store is offered first, so `OffersFirst` and `Offers` agree
there. -/
theorem Offers.first_of_alone (h : engine.Offers id handle entry)
    (halone : ∀ handle other, IsKeyStore engine.objects handle →
      IsKeyStore engine.objects other → handle = other) : engine.OffersFirst id handle entry := by
  refine ⟨h, fun other _ hother => UInt32.le_of_eq (halone handle other ?_ ?_)⟩
  · obtain ⟨session, name, _, hobject, -⟩ := h
    exact ⟨session, name, hobject⟩
  · obtain ⟨session, name, _, hobject, -⟩ := hother
    exact ⟨session, name, hobject⟩

/-- **Which SHE key is found**, in every engine and under every identifier: the one in the open key store
of the least handle that has any key under it, if that key is of a type that does. -/
theorem looksUp (engine : Engine) (id : UInt32) : engine.LooksUp id where
  some_iff _ := sheKey?_eq_some_iff
  none_iff := sheKey?_eq_none_iff
  some_iff_of_alone halone entry := by
    rw [sheKey?_eq_some_iff]
    exact exists_congr fun handle => and_congr_left' ⟨fun h => h.1, fun h => h.first_of_alone halone⟩
  generate_iff memory m hkey := by
    rw [← hkey]
    exact sheGenerateMac_eq_unknownId_iff m ⟨engine, memory⟩
  verify_iff memory m hkey := by
    rw [← hkey]
    exact sheVerifyMac_eq_unknownId_iff m ⟨engine, memory⟩

/-! ## (4) A key that is hidden -/

/-- Requests for two key stores, for a MAC key in the first and for an AES key of the same identifier in
the second. -/
def hidingRequests : List (SharedMemory × Bytes) :=
  [({}, (start {}).requestFor .openSession (⟨1, 0, 0, 0, 0, 0⟩ : Wire.OpenSession)),
    ({}, (start {}).requestFor .openKeyStore (⟨0x100, 0x1234, 0x5678, 1⟩ : Wire.OpenKeyStore)),
    ({}, (start {}).requestFor .openKeyStore (⟨0x100, 0x4321, 0x8765, 1⟩ : Wire.OpenKeyStore)),
    ({}, (start {}).requestFor (.openService .keyManagement) (⟨0x101, 0⟩ : Wire.OpenService)),
    ({}, (start {}).requestFor (.openService .keyManagement) (⟨0x102, 0⟩ : Wire.OpenService)),
    ({}, (start {}).requestFor .generateKey
      (⟨0x103, 7, 0, 2, KeyType.hmac256.code, 0, 0, 0⟩ : Wire.GenerateKey)),
    ({}, (start {}).requestFor .generateKey
      (⟨0x104, 7, 0, 2, KeyType.aes128.code, 0, 0, 0⟩ : Wire.GenerateKey))]

/-- **Some SHE keys are hidden**: a key store is open that has an AES key under the identifier, and
another one, opened before it, has a MAC key under it. -/
theorem exists_hidden : ¬∀ (settings : EngineSettings) (requests : List (SharedMemory × Bytes))
    (id handle : UInt32) (entry : KeyEntry),
    ((start settings).afterAll requests).Offers id handle entry → entry.keyType.isAes = true →
      ∃ found, ((start settings).afterAll requests).sheKey? id = some found := by
  intro hfound
  have hoffered : ((((start {}).afterAll hidingRequests).offered? 7 (.keyStore 0x100 0x4321)).filter
      (·.keyType.isAes)).isSome = true := by decide +kernel
  obtain ⟨entry, hfilter⟩ := Option.isSome_iff_exists.mp hoffered
  obtain ⟨hentry, haes⟩ := Option.filter_eq_some_iff.mp hfilter
  have hobject : ((start {}).afterAll hidingRequests).objects.find? 0x102 =
      some (.keyStore 0x100 0x4321) := by decide +kernel
  obtain ⟨found, hsome⟩ := hfound {} hidingRequests 7 0x102 entry
    (offers_iff.mpr ⟨_, hobject, hentry⟩) haes
  -- The first open store holds another key with that identifier.
  have hnone : ((start {}).afterAll hidingRequests).sheKey? 7 = none := by decide +kernel
  rw [hnone] at hsome
  cases hsome

end Engine

end SecureEngine
