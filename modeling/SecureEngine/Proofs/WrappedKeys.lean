import SecureEngine.Proofs.Ciphers
import SecureEngine.Proofs.Robustness

/-! # Wrapped keys

A key may be installed wrapped under another key of the same key store. The engine unwraps it and goes on
as if it had been imported in the clear.

* **`Engine.installMaterial`** — what both requests come to, once the material is there; it does not look
  at the memory.
* **`Engine.InstallsAlike`** — the two requests end alike, in the engine and in their replies.
* **`Engine.Unwraps`** — they do so for every key that wraps in a key store and all material of whole
  blocks, and without a wrapping key for all material.
* **`Engine.unwraps`** — every live key management service unwraps. -/

namespace SecureEngine

open Handling

/-- **The request for a key that is wrapped**, or staged elsewhere, in the place of a request to import it
in the clear. -/
def Wire.ImportKey.under (m : Wire.ImportKey) (wrappingKey address : UInt32) : Wire.ManageKey where
  service := m.service
  destination := m.identifier
  wrappingKey
  inputSize := m.inputSize
  flags := m.flags
  keyType := m.keyType
  group := m.group
  info := m.info
  inputAddress := address

namespace Engine

variable {engine : Engine} {request : Bytes} {c : Command}

/-! ## (1) What both requests come to -/

/-- **Installing given material** as a request asks for it: what `importKey` and `manageKey` do once they
have it. -/
def installMaterial (m : Wire.ImportKey) (material : Bytes) : Handling UInt32 := do
  let entry ← checkedEntry m.keyType m.group m.info material
  storeKey m.service m.identifier m.flags entry

/-- Importing a key with `importKey` is installing what is loaded, without decrypting it. -/
theorem run_importKey {m : Wire.ImportKey} {memory : SharedMemory} {material : Bytes}
    (h : memory.load m.inputAddress.toUInt64 m.inputSize.toNat = .ok material) :
    (importKey m).run ⟨engine, memory⟩ = (installMaterial m material).run ⟨engine, memory⟩ :=
  run_bind_ok (run_load_ok h)

/-- **A wrapped key is unwrapped** and then installed: `manageKey` is `unwrapMaterial` followed by
`installMaterial`. -/
theorem run_manageKey {m : Wire.ImportKey} {wrappingKey address : UInt32} {memory : SharedMemory}
    {wrapped material : Bytes} {name : UInt32} {store : KeyStore}
    (h : memory.load address.toUInt64 m.inputSize.toNat = .ok wrapped)
    (hstore : engine.serviceStore m.service .keyManagement = .ok (name, store))
    (hunwrap : (unwrapMaterial store wrappingKey wrapped).run ⟨engine, memory⟩ =
      (.ok material, ⟨engine, memory⟩)) :
    (manageKey (m.under wrappingKey address)).run ⟨engine, memory⟩ =
      (installMaterial m material).run ⟨engine, memory⟩ := by
  have hload : (load (m.under wrappingKey address).inputAddress.toUInt64
      (m.under wrappingKey address).inputSize.toNat).run ⟨engine, memory⟩ =
      (.ok wrapped, ⟨engine, memory⟩) := run_load_ok h
  have hfound : (lift (engine.serviceStore (m.under wrappingKey address).service .keyManagement)).run
      ⟨engine, memory⟩ = (.ok (name, store), ⟨engine, memory⟩) := run_lift_ok hstore _
  rw [manageKey, run_bind_ok hload, run_bind_ok (Handling.run_engine _), run_bind_ok hfound]
  exact run_bind_ok hunwrap

/-- The wrapping key 0 stands for material in the clear, which `unwrapMaterial` gives back. -/
theorem run_unwrapMaterial_zero (store : KeyStore) (material : Bytes) (machine : Machine) :
    (unwrapMaterial store 0 material).run machine = (.ok material, machine) := rfl

/-- Material that is wrapped under an AES key is decrypted block by block with that key. -/
theorem run_unwrapMaterial {store : KeyStore} {wrappingKey : UInt32} {key : KeyEntry}
    {wrapped material : Bytes} (hne : wrappingKey ≠ 0)
    (hkey : store.keys.find? wrappingKey = some key) (haes : key.keyType.isAes = true)
    (hdecrypt : CipherMode.ecb.apply .decrypt key.material [] wrapped = .ok material)
    (machine : Machine) :
    (unwrapMaterial store wrappingKey wrapped).run machine = (.ok material, machine) := by
  rw [unwrapMaterial, if_neg hne, run_bind_ok (run_lift_ok (KeyStore.get_eq_ok_iff.mpr hkey) machine),
    run_bind_ok (run_demand_of_true haes _ machine)]
  exact run_lift_ok hdecrypt machine

/-- **Installing does not look at the memory**, and leaves it alone: `installMaterial` has one result on
all machines with this engine. -/
theorem exists_installed (engine : Engine) (m : Wire.ImportKey) (material : Bytes) :
    ∃ result after, ∀ memory,
      (installMaterial m material).run ⟨engine, memory⟩ = (result, ⟨after, memory⟩) := by
  simp only [installMaterial, checkedEntry, bind_assoc, pure_bind]
  -- Each check looks at the request, the material and the engine, and at no memory.
  cases hcode : KeyType.ofCode? m.keyType with
  | none => exact ⟨.error Reason.keyNotSupported.toError, engine, fun _ => rfl⟩
  | some keyType =>
    have hknown (memory : SharedMemory) :
        (known (some keyType) .keyNotSupported).run ⟨engine, memory⟩ = (.ok keyType, ⟨engine, memory⟩) :=
      rfl
    simp only [run_bind_ok (hknown _)]
    by_cases hsize : (material.length == keyType.size) = true
    · simp only [run_bind_ok (run_demand_of_true hsize _ _), run_storeKey]
      cases engine.placeKey m.service m.identifier m.flags _ with
      | error e => exact ⟨.error e, engine, fun _ => rfl⟩
      | ok placed => exact ⟨.ok placed.1, { engine with keyStores := placed.2 }, fun _ => rfl⟩
    · rw [Bool.not_eq_true] at hsize
      exact ⟨.error Reason.invalidParam.toError, engine, fun memory => by rw [hsize]; rfl⟩

/-! ## (2) Replies -/

/-- A request that is read names its command: what an engine `Reads` has the code at its `commandByte`. -/
theorem Reads.commandByte_eq {m : c.Request engine.settings.flavor} (h : engine.Reads request c m) :
    commandByte request = c.code := by
  have haccept := h.accept_eq
  unfold accept at haccept
  dsimp only at haccept
  split at haccept
  · cases haccept
  rename_i hheader
  have hlong : Wire.headerSize ≤ request.length := Nat.not_lt.mp fun hshort => hheader (Or.inl hshort)
  -- An accepted request has a header, and the command is its third byte.
  obtain ⟨a, b, byte, d, rest, rfl⟩ : ∃ a b byte d rest, request = a :: b :: byte :: d :: rest := by
    match request, hlong with
    | a :: b :: byte :: d :: rest, _ => exact ⟨a, b, byte, d, rest, rfl⟩
  have hcommand : (Wire.Message.decode (a :: b :: byte :: d :: rest) : Wire.Header).command = byte := rfl
  rw [hcommand] at haccept
  cases hcode : Command.ofCode? byte with
  | none =>
    rw [hcode] at haccept
    cases haccept
  | some named =>
    rw [hcode] at haccept
    cases haccept
    exact (Command.code_of_ofCode? hcode).symm

/-- **Executing a request that is read** ends with the reply for what its handler came to. -/
theorem Reads.run_execute_replyOf {m : c.Request engine.settings.flavor}
    (h : engine.Reads request c m) {memory left : SharedMemory} {after : Engine}
    {result : Except EngineError (c.Response engine.settings.flavor)}
    (hrun : (handle engine.settings.flavor c m).run ⟨engine, memory⟩ = (result, ⟨after, left⟩)) :
    (execute request).run ⟨engine, memory⟩ = (after.replyOf c result, ⟨after, left⟩) := by
  have hreads : (Machine.mk engine memory).engine.Reads request c m := h
  rw [hreads.run_execute_eq, hrun, h.commandByte_eq]
  cases result <;> rfl

/-- **Messages of the same content differ in the command byte** only, where `Wire.finish` adds no
checksum. -/
theorem getElem?_finish (version tag code code' : UInt8) (message : Bytes) {i : Nat} (hi : i ≠ 2) :
    (Wire.finish version tag code false message)[i]? =
      (Wire.finish version tag code' false message)[i]? := by
  have hencode (byte : UInt8) : Wire.Message.encode (Wire.header version tag byte message.length) =
      [version, UInt8.ofNat (message.length / 4), byte, tag] := rfl
  -- The command stands in the third byte alone, and no checksum depends on it.
  have hfront : [version, UInt8.ofNat (message.length / 4), code, tag][i]? =
      [version, UInt8.ofNat (message.length / 4), code', tag][i]? := by
    match i, hi with
    | 0, _ | 1, _ | 3, _ | _ + 4, _ => rfl
  simp only [Wire.finish, Bool.false_eq_true, if_false, Bytes.overlay, hencode, List.getElem?_append,
    List.getElem?_take, List.length_take, List.length_cons, hfront]

/-- The reply to a request for a wrapped key is the one to a request to import it, but for the command
byte. -/
theorem getElem?_replyOf {flavor : Flavor} (engine : Engine) (result : Except EngineError UInt32)
    {i : Nat} (hi : i ≠ 2) : (@replyOf flavor engine .manageKey result).bytes[i]? =
      (@replyOf flavor engine .importKey result).bytes[i]? := by
  cases result with
  | error e => exact getElem?_finish _ _ _ _ _ hi
  | ok identifier => exact getElem?_finish _ _ _ _ _ hi

/-! ## (3) Installing alike -/

/-- **A request for a key that may be wrapped and one to import a key end alike**, each with the memory
that it finds. -/
structure InstallsAlike (engine : Engine) (request : Bytes) (memory : SharedMemory)
    (importing : Bytes) (others : SharedMemory) : Prop where
  /-- Both come to the same result, an identifier or an error, and to the same engine, and both leave
  the memory alone. -/
  exists_result : ∃ (result : Except EngineError UInt32) (after : Engine),
    (execute request).run ⟨engine, memory⟩ =
        (@replyOf engine.settings.flavor after .manageKey result, ⟨after, memory⟩) ∧
      (execute importing).run ⟨engine, others⟩ =
        (@replyOf engine.settings.flavor after .importKey result, ⟨after, others⟩)
  /-- The replies are the same bytes, but for the one that repeats the command. -/
  getElem?_eq : ∀ i, i ≠ 2 → ((execute request).run ⟨engine, memory⟩).1.bytes[i]? =
    ((execute importing).run ⟨engine, others⟩).1.bytes[i]?

/-- **Installing some bytes under a wrapping key is importing some material**, whatever else is asked for
and wherever the bytes are staged. -/
def InstallsAs (engine : Engine) (service wrappingKey : UInt32) (wrapped material : Bytes) : Prop :=
  ∀ (m : Wire.ImportKey) (address : UInt32) (request importing : Bytes) (memory others : SharedMemory),
    m.service = service →
    engine.Reads request .manageKey (m.under wrappingKey address) →
    engine.Reads importing .importKey m →
    memory.load address.toUInt64 m.inputSize.toNat = .ok wrapped →
    others.load m.inputAddress.toUInt64 m.inputSize.toNat = .ok material →
    engine.InstallsAlike request memory importing others

/-- **A key management service unwraps** with the keys of its `KeyStore`. -/
structure Unwraps (engine : Engine) (service : UInt32) (store : KeyStore) : Prop where
  /-- Whole blocks can be encrypted under every key for block encryption, and installing what comes out
  is importing them. -/
  wrapped : ∀ (wrappingKey : UInt32) (key : KeyEntry) (material : Bytes),
    store.keys.find? wrappingKey = some key → key.keyType.isAes = true →
    material.length % Aes.blockSize = 0 →
    ∃ wrapped, CipherMode.ecb.apply .encrypt key.material [] material = .ok wrapped ∧
      wrapped.length = material.length ∧ engine.InstallsAs service wrappingKey wrapped material
  /-- Without a wrapping key everything is installed as it is. -/
  clear : ∀ material, engine.InstallsAs service 0 material material

/-- **What is unwrapped to some material is installed as that**: `InstallsAs` from what `unwrapMaterial`
gives on every machine. -/
theorem installsAs_of_unwraps {service wrappingKey name : UInt32} {store : KeyStore}
    {wrapped material : Bytes}
    (hstore : engine.serviceStore service .keyManagement = .ok (name, store))
    (hunwrap : ∀ machine, (unwrapMaterial store wrappingKey wrapped).run machine =
      (.ok material, machine)) :
    engine.InstallsAs service wrappingKey wrapped material := by
  intro m address request importing memory others hservice hreads himports hload hload'
  subst hservice
  -- Once the material is unwrapped, installing does not look at the shared memory.
  obtain ⟨result, after, hinstalled⟩ := exists_installed engine m material
  have hmanage : (handle engine.settings.flavor .manageKey (m.under wrappingKey address)).run
      ⟨engine, memory⟩ = (result, ⟨after, memory⟩) :=
    (run_manageKey hload hstore (hunwrap _)).trans (hinstalled memory)
  have himport : (handle engine.settings.flavor .importKey m).run ⟨engine, others⟩ =
      (result, ⟨after, others⟩) := (run_importKey hload').trans (hinstalled others)
  have hexecute : (execute request).run ⟨engine, memory⟩ =
      (@replyOf engine.settings.flavor after .manageKey result, ⟨after, memory⟩) :=
    hreads.run_execute_replyOf hmanage
  have hexecute' : (execute importing).run ⟨engine, others⟩ =
      (@replyOf engine.settings.flavor after .importKey result, ⟨after, others⟩) :=
    himports.run_execute_replyOf himport
  refine ⟨⟨result, after, hexecute, hexecute'⟩, fun i hi => ?_⟩
  rw [hexecute, hexecute']
  exact getElem?_replyOf after result hi

/-- **A service of an engine in order works on a key store**: in an `Orderly` engine `serviceStore` finds
it. -/
theorem Orderly.exists_serviceStore (h : engine.Orderly) {service parent : UInt32}
    (hservice : engine.objects.find? service = some (.service .keyManagement parent)) :
    ∃ name store, engine.serviceStore service .keyManagement = .ok (name, store) ∧
      engine.keyStores.find? name = some store := by
  obtain ⟨session, name, hparent⟩ : IsKeyStore engine.objects parent := h.fits service _ hservice
  obtain ⟨-, store, hstore⟩ := h.fits parent _ hparent
  refine ⟨name, store, ?_, hstore⟩
  simp only [serviceStore, serviceParent, hservice, if_pos, keyStoreAt, bind_eq_ok_iff]
  refine ⟨parent, rfl, name, ?_, ?_⟩
  · rw [hparent]
  · rw [hstore]
    rfl

/-- **Every live key management service unwraps**, whatever has been executed before: `Unwraps` holds
after every `Engine.afterAll`. -/
theorem unwraps (settings : EngineSettings) (requests : List (SharedMemory × Bytes))
    {service parent : UInt32} (hservice : ((start settings).afterAll requests).objects.find? service =
      some (.service .keyManagement parent)) :
    ∃ name store,
      ((start settings).afterAll requests).serviceStore service .keyManagement = .ok (name, store) ∧
        ((start settings).afterAll requests).Unwraps service store := by
  have horderly := (orderly_afterAll settings requests).2
  obtain ⟨name, store, hstore, hfound⟩ := horderly.exists_serviceStore hservice
  have hkept := wellKept_afterAll settings requests hfound
  refine ⟨name, store, hstore, fun wrappingKey key material hkey haes hwhole => ?_, fun material => ?_⟩
  · -- Zero is no key's identifier: it stands for no wrapping at all.
    have hne : wrappingKey ≠ 0 := by
      rintro rfl
      rw [hkept.find?_zero] at hkey
      cases hkey
    have hmaterial := KeyType.size_of_isAes haes
    rw [← hkept.length_material wrappingKey key hkey] at hmaterial
    have hinverse : ∃ wrapped, CipherMode.ecb.apply .encrypt key.material [] material = .ok wrapped ∧
        CipherMode.ecb.apply .decrypt key.material [] wrapped = .ok material :=
      CipherMode.exists_apply hmaterial hwhole nofun
    obtain ⟨wrapped, hencrypt, hdecrypt⟩ := hinverse
    refine ⟨wrapped, hencrypt, CipherMode.length_of_apply hencrypt, ?_⟩
    exact installsAs_of_unwraps hstore (run_unwrapMaterial hne hkey haes hdecrypt)
  · exact installsAs_of_unwraps hstore (run_unwrapMaterial_zero store material)

/-! ## (4) A wrapped key -/

/-- An engine with an AES key under 7, in the key store of the service 0x102. -/
def wrappingEngine : Engine := (start {}).afterAll regroupingRequests

/-- A request to import an AES key of zeros that is staged at the front of the DMA area. -/
def zeroKeyRequest : Wire.ImportKey where
  service := 0x102
  identifier := 0
  group := 0
  flags := 2
  keyType := 0x30
  info := 0
  inputSize := 16
  inputAddress := 0x80000000

/-- What is staged first is loaded from the front of its area: `SharedMemory.load` at the base of
`Region.dma`. -/
theorem exists_load_front {data : Bytes} (hne : data ≠ []) (h : wholeWords data.length ≤ areaSize) :
    ∃ memory : SharedMemory, memory.load Region.dma.base data.length = .ok data := by
  have hoffers : ({} : SharedMemory).Offers (SharedMemory.regionOf {}) (wholeWords data.length + 0) :=
    ⟨Nat.le_refl _, _, rfl, Nat.add_le_add_left h _, Nat.le_refl _⟩
  obtain ⟨a, memory, hregister, -⟩ := hoffers.exists_register hne nofun
  have hregisters := SharedMemory.registers_of_register hregister
  have hload := hregisters.shows.load_eq (Nat.le_refl data.length)
  rw [List.take_length, ← hregisters.cursor_eq] at hload
  exact ⟨memory, hload⟩

/-- The key of zeros is installed wrapped under that AES key as it is imported in the clear. -/
theorem unwraps_zeroKey :
    wrappingEngine.objects.find? 0x102 = some (.service .keyManagement 0x101) ∧
      ∃ (name : UInt32) (store : KeyStore) (key : KeyEntry) (wrapped : Bytes)
        (memory others : SharedMemory),
        wrappingEngine.serviceStore 0x102 .keyManagement = .ok (name, store) ∧
          store.keys.find? 7 = some key ∧ key.keyType.isAes = true ∧
          CipherMode.ecb.apply .encrypt key.material [] (Bytes.blank 16) = .ok wrapped ∧
          wrappingEngine.InstallsAlike
            (wrappingEngine.requestFor .manageKey (zeroKeyRequest.under 7 0x80000000)) memory
            (wrappingEngine.requestFor .importKey zeroKeyRequest) others := by
  have hservice : wrappingEngine.objects.find? 0x102 = some (.service .keyManagement 0x101) := by
    decide +kernel
  obtain ⟨name, store, hstore, hunwraps⟩ := unwraps {} regroupingRequests hservice
  have hkey : ((wrappingEngine.serviceStore 0x102 .keyManagement).toOption.bind fun found =>
      (found.2.keys.find? 7).filter fun key => key.keyType.isAes).isSome = true := by decide +kernel
  rw [show wrappingEngine.serviceStore 0x102 .keyManagement = .ok (name, store) from hstore] at hkey
  obtain ⟨key, hfiltered⟩ := Option.isSome_iff_exists.mp hkey
  obtain ⟨hkey, haes⟩ := Option.filter_eq_some_iff.mp hfiltered
  obtain ⟨wrapped, hencrypt, hlength, hinstalls⟩ := hunwraps.wrapped 7 key (Bytes.blank 16) hkey haes rfl
  have hsize : wrapped.length = 16 := hlength.trans (Bytes.length_blank 16)
  have hroom : wholeWords 16 ≤ areaSize := by decide
  have hne : wrapped ≠ [] := List.ne_nil_of_length_eq_add_one hsize
  obtain ⟨memory, hload⟩ := exists_load_front hne (hsize.symm ▸ hroom)
  have hothers : ∃ others : SharedMemory,
      others.load Region.dma.base (Bytes.blank 16).length = .ok (Bytes.blank 16) :=
    exists_load_front (by decide) hroom
  obtain ⟨others, hload'⟩ := hothers
  refine ⟨hservice, name, store, key, wrapped, memory, others, hstore, hkey, haes, hencrypt, ?_⟩
  rw [hsize] at hload
  have hreads := reads_requestFor wrappingEngine .manageKey (zeroKeyRequest.under 7 0x80000000)
  have himports := reads_requestFor wrappingEngine .importKey zeroKeyRequest
  exact hinstalls zeroKeyRequest 0x80000000 _ _ memory others rfl hreads himports hload hload'

end Engine

end SecureEngine
