import SecureEngine.Proofs.Handling

/-! # What the handlers of an engine do

* Each data service leaves the objects alone, and opening and closing have the effect of their command.
* **`Engine.handled`** — every handler has the effect of its command, or changes no object; it reports
  an unknown handle only if what the request is addressed to is not open. -/

namespace SecureEngine.Engine

open Handling

variable {objects : IdMap EngineObject} {found : Prop}

/-! ## (1) Data services -/

/-- Finding the key of a service with `serviceKey` blames the service only if it, or its key store, is not
open. -/
theorem quiet_serviceKey {kind : Service} (hkind : kind.scope = .keyStore) (service key : UInt32) :
    Quiet objects (IsService objects kind service) (serviceKey service kind key) := by
  refine quiet_engine fun e he => ?_
  subst he
  refine quiet_bind (quiet_lift (blaming_serviceStore e service hkind)) fun found => ?_
  exact quiet_lift (raises_get _ _).blaming

/-- Storing a key with `storeKey` blames key management only if it is not open, and changes key stores but
no object. -/
theorem quiet_storeKey (service identifier : UInt32) (flags : UInt8) (entry : KeyEntry) :
    Quiet objects (IsService objects .keyManagement service)
      (storeKey service identifier flags entry) := by
  refine quiet_engine fun e he => ?_
  subst he
  refine quiet_bind (quiet_lift (blaming_serviceStore e service rfl)) fun found => ?_
  refine quiet_bind (quiet_lift (raises_insert _ _ _ _).blaming) fun stored => ?_
  refine quiet_bind (quiet_modifyEngine fun _ => ⟨rfl, rfl⟩) fun _ => ?_
  exact quiet_pure _

/-- New key material from `generateMaterial` leaves the objects alone: only the generator moves on. -/
theorem quiet_generateMaterial (keyType : KeyType) :
    Quiet objects found (generateMaterial keyType) := by
  unfold generateMaterial
  split
  · refine quiet_engine fun e _ => ?_
    exact quiet_bind (quiet_modifyEngine fun _ => ⟨rfl, rfl⟩) fun _ => quiet_pure _
  · exact quiet_bind (quiet_draw _) fun _ => quiet_pure _

/-- A `generateKey` request leaves the objects alone, and blames no handle but that of key management. -/
theorem quiet_generateKey (m : Wire.GenerateKey) (minMacLength : UInt8) :
    Quiet objects (IsService objects .keyManagement m.service) (generateKey m minMacLength) := by
  refine quiet_bind (quiet_known _ (by decide)) fun keyType => ?_
  refine quiet_bind (quiet_generateMaterial keyType) fun keys => ?_
  refine quiet_bind (quiet_demand _ (by decide)) fun _ => ?_
  refine quiet_bind (quiet_storeKey _ _ _ _) fun identifier => ?_
  exact quiet_bind (quiet_store _ _) fun _ => quiet_pure _

/-- Checking the type and size of key material with `checkedEntry` leaves the objects alone, and blames no
handle. -/
theorem quiet_checkedEntry (keyType : UInt8) (group info : UInt16) (material : Bytes) :
    Quiet objects found (checkedEntry keyType group info material) := by
  refine quiet_bind (quiet_known _ (by decide)) fun keyType => ?_
  exact quiet_bind (quiet_demand _ (by decide)) fun _ => quiet_pure _

/-- An `importKey` request leaves the objects alone, and blames no handle but that of key management. -/
theorem quiet_importKey (m : Wire.ImportKey) :
    Quiet objects (IsService objects .keyManagement m.service) (importKey m) := by
  refine quiet_bind (quiet_load _ _) fun material => ?_
  refine quiet_bind (quiet_checkedEntry _ _ _ _) fun entry => ?_
  exact quiet_storeKey _ _ _ _

/-- A `deleteKey` request leaves the objects alone, and blames no handle but that of key management. -/
theorem quiet_deleteKey (m : Wire.DeleteKey) :
    Quiet objects (IsService objects .keyManagement m.service) (deleteKey m) := by
  refine quiet_engine fun e he => ?_
  subst he
  refine quiet_bind (quiet_lift (blaming_serviceStore e m.service rfl)) fun found => ?_
  refine quiet_bind (quiet_lift (raises_remove _ _).blaming) fun store => ?_
  exact quiet_modifyEngine fun _ => ⟨rfl, rfl⟩

/-- Decrypting a wrapped key with `unwrapMaterial` leaves the objects alone, and blames the wrapping key
rather than a handle. -/
theorem quiet_unwrapMaterial (store : KeyStore) (wrappingKey : UInt32) (material : Bytes) :
    Quiet objects found (unwrapMaterial store wrappingKey material) := by
  unfold unwrapMaterial
  split
  · exact quiet_pure _
  · refine quiet_bind (quiet_lift (raises_get _ _).blaming) fun key => ?_
    refine quiet_bind (quiet_demand _ (by decide)) fun _ => ?_
    exact quiet_lift (raises_apply _ _ _ _ _).blaming

/-- A `manageKey` request leaves the objects alone, and blames no handle but that of key management. -/
theorem quiet_manageKey (m : Wire.ManageKey) :
    Quiet objects (IsService objects .keyManagement m.service) (manageKey m) := by
  refine quiet_bind (quiet_load _ _) fun wrapped => quiet_engine fun e he => ?_
  subst he
  refine quiet_bind (quiet_lift (blaming_serviceStore e m.service rfl)) fun found => ?_
  refine quiet_bind (quiet_unwrapMaterial _ _ _) fun material => ?_
  refine quiet_bind (quiet_checkedEntry _ _ _ _) fun entry => ?_
  exact quiet_storeKey _ _ _ _

/-- A `mac` request leaves the objects alone, whether it generates or verifies, and blames no handle but
that of its service. -/
theorem quiet_mac (m : Wire.Mac) : Quiet objects (IsService objects .mac m.service) (mac m) := by
  refine quiet_bind (quiet_serviceKey rfl _ _) fun key => ?_
  refine quiet_bind (quiet_demand _ (by decide)) fun _ => ?_
  refine quiet_bind (quiet_load _ _) fun payload => ?_
  dsimp only
  split
  · refine quiet_bind (quiet_known _ (by decide)) fun hash => ?_
    refine quiet_bind (quiet_demand _ (by decide)) fun _ => ?_
    exact quiet_bind (quiet_store _ _) fun _ => quiet_pure _
  · refine quiet_bind (quiet_demand _ (by decide)) fun _ => ?_
    refine quiet_bind (quiet_load _ _) fun tag => ?_
    refine quiet_bind (quiet_demand _ (by decide)) fun _ => ?_
    exact quiet_bind (quiet_known _ (by decide)) fun hash => quiet_pure _

/-- A `cipher` request leaves the objects alone, and blames no handle but that of its service. -/
theorem quiet_cipher (m : Wire.Cipher) :
    Quiet objects (IsService objects .cipher m.service) (cipher m) := by
  refine quiet_bind (quiet_serviceKey rfl _ _) fun key => ?_
  refine quiet_bind (quiet_demand _ (by decide)) fun _ => ?_
  refine quiet_bind (quiet_known _ (by decide)) fun direction => ?_
  refine quiet_bind (quiet_demand _ (by decide)) fun _ => ?_
  refine quiet_bind (quiet_load _ _) fun data => ?_
  refine quiet_bind (quiet_known _ (by decide)) fun mode => ?_
  -- What follows the initial vector is the same for both modes.
  have hrest (iv : Bytes) : Quiet objects (IsService objects .cipher m.service) (do
      let result ← lift (mode.apply direction key.material iv data)
      store m.outputAddress.toUInt64 result
      return m.inputSize) := by
    refine quiet_bind (quiet_lift (raises_apply _ _ _ _ _).blaming) fun result => ?_
    exact quiet_bind (quiet_store _ _) fun _ => quiet_pure _
  cases mode with
  | ecb => exact quiet_bind (quiet_pure _) hrest
  | cbc => exact quiet_bind (quiet_load _ _) hrest

/-- A `hash` request leaves the objects alone, and blames no handle but that of its service. -/
theorem quiet_hash (m : Wire.Hash) : Quiet objects (IsService objects .hash m.service) (hash m) := by
  refine quiet_engine fun e he => ?_
  subst he
  refine quiet_bind (quiet_lift (blaming_serviceParent e m.service .hash)) fun parent => ?_
  refine quiet_bind (quiet_demand _ (by decide)) fun _ => ?_
  refine quiet_bind (quiet_load _ _) fun message => ?_
  refine quiet_bind (quiet_known _ (by decide)) fun algorithm => ?_
  exact quiet_bind (quiet_demand _ (by decide)) fun _ => quiet_store _ _

/-- A `SignTask` leaves the objects alone, and blames no handle but that of its service. -/
theorem quiet_sign (task : SignTask) :
    Quiet objects (IsService objects .signatureGeneration task.service) (sign task) := by
  refine quiet_bind (quiet_serviceKey rfl _ _) fun key => ?_
  refine quiet_bind (quiet_demand _ (by decide)) fun _ => ?_
  refine quiet_bind (quiet_demand _ (by decide)) fun _ => ?_
  refine quiet_bind (quiet_load _ _) fun message => ?_
  refine quiet_bind (quiet_known _ (by decide)) fun signature => ?_
  exact quiet_bind (quiet_store _ _) fun _ => quiet_pure _

/-- What a request with a scheme becomes still names its service, so that `quiet_sign` carries over to the
requests of either firmware. -/
theorem quiet_task {task? : Option SignTask} {service : UInt32}
    (h : ∀ task, task? = some task → task.service = service) {α : Type}
    {f : SignTask → Handling α}
    (hf : ∀ task : SignTask,
      Quiet objects (IsService objects .signatureGeneration task.service) (f task)) :
    Quiet objects (IsService objects .signatureGeneration service)
      (known task? .invalidParam >>= f) := by
  cases task? with
  | none =>
    intro m hm
    refine ⟨hm, rfl, fun e he => ?_⟩
    cases he
    exact blames_of_ne (by decide)
  | some task => exact h task rfl ▸ hf task

/-- A `signLegacy` request leaves the objects alone, and blames no handle but that of its service. -/
theorem quiet_signLegacy (m : Wire.SignLegacy) :
    Quiet objects (IsService objects .signatureGeneration m.service) (signLegacy m) := by
  refine quiet_task (fun task h => ?_) fun task => ?_
  · obtain ⟨scheme, -, rfl⟩ := Option.map_eq_some_iff.mp h
    rfl
  · exact quiet_bind (quiet_sign task) fun _ => quiet_pure ()

/-- A `signPsa` request leaves the objects alone, and blames no handle but that of its service. -/
theorem quiet_signPsa (m : Wire.SignPsa) :
    Quiet objects (IsService objects .signatureGeneration m.service) (signPsa m) := by
  refine quiet_task (fun task h => ?_) fun task => ?_
  · obtain ⟨scheme, -, rfl⟩ := Option.map_eq_some_iff.mp h
    rfl
  · exact quiet_bind (quiet_sign task) fun _ => quiet_pure _

/-- A `prepareSign` request leaves the objects alone, and blames no handle but that of its service. -/
theorem quiet_prepareSign (m : Wire.PrepareSign) :
    Quiet objects (IsService objects .signatureGeneration m.service) (prepareSign m) := by
  refine quiet_engine fun e he => ?_
  subst he
  refine quiet_bind (quiet_lift (blaming_serviceParent e m.service .signatureGeneration))
    fun parent => ?_
  exact quiet_bind (quiet_known _ (by decide)) fun _ => quiet_pure ()

/-- A `verify` request leaves the objects alone, and blames no handle but that of its service. -/
theorem quiet_verify (m : Wire.Verify) :
    Quiet objects (IsService objects .signatureVerification m.service) (verify m) := by
  refine quiet_engine fun e he => ?_
  subst he
  refine quiet_bind (quiet_lift (blaming_serviceParent e m.service .signatureVerification))
    fun parent => ?_
  refine quiet_bind (quiet_known _ (by decide)) fun scheme => ?_
  refine quiet_bind (quiet_load _ _) fun key => ?_
  refine quiet_bind (quiet_load _ _) fun message => ?_
  refine quiet_bind (quiet_load _ _) fun signature => ?_
  exact quiet_bind (quiet_known _ (by decide)) fun _ => quiet_pure _

/-! ## (2) Requests of a session -/

/-- A `sharedBuffer` request blames the session only if it is not open. -/
theorem quiet_sharedBuffer (handle : UInt32) :
    Quiet objects (objects.find? handle = some .session) (sharedBuffer handle) := by
  refine quiet_engine fun e he => ?_
  subst he
  refine quiet_bind (quiet_lift (blaming_checkSession e handle)) fun _ => ?_
  exact quiet_engine fun _ _ => quiet_pure _

/-- `drawInto` leaves the objects alone, and blames the address of the buffer if anything. -/
theorem quiet_drawInto (address : Address) (n : Nat) : Quiet objects found (drawInto address n) := by
  refine quiet_engine fun e _ => ?_
  refine quiet_bind (quiet_modifyEngine fun _ => ⟨rfl, rfl⟩) fun _ => quiet_get fun m _ => ?_
  refine quiet_checked_bind fun writable _ => ?_
  exact quiet_bind (quiet_demand _ (by decide)) fun _ => quiet_store _ _

/-- A `random` request blames the session only if it is not open. -/
theorem quiet_random (m : Wire.Random) :
    Quiet objects (objects.find? m.session = some .session) (random m) := by
  refine quiet_engine fun e he => ?_
  subst he
  exact quiet_bind (quiet_lift (blaming_checkSession e m.session)) fun _ => quiet_drawInto _ _

/-- A `sheGenerateMac` request names a key slot and no handle, so it blames none. -/
theorem quiet_sheGenerateMac (m : Wire.SheGenerateMac) : Quiet objects found (sheGenerateMac m) := by
  refine quiet_engine fun e _ => ?_
  refine quiet_bind (quiet_known _ (by decide)) fun key => ?_
  exact quiet_bind (quiet_load _ _) fun message => quiet_store _ _

/-- A `sheVerifyMac` request names a key slot and no handle, so it blames none. -/
theorem quiet_sheVerifyMac (m : Wire.SheVerifyMac) : Quiet objects found (sheVerifyMac m) := by
  refine quiet_engine fun e _ => ?_
  refine quiet_bind (quiet_known _ (by decide)) fun key => ?_
  refine quiet_bind (quiet_load _ _) fun message => ?_
  refine quiet_bind (quiet_load _ _) fun tag => ?_
  exact quiet_bind (quiet_demand _ (by decide)) fun _ => quiet_pure _

/-- `checkStarted` asks whether the generator of SHE is running, which is not a question about handles. -/
theorem quiet_checkStarted : Quiet objects found checkStarted :=
  quiet_engine fun _ _ => quiet_demand _ (by decide)

/-- A `sheExtendSeed` request leaves the objects alone, and blames no handle. -/
theorem quiet_sheExtendSeed (m : Wire.SplitBuffer) : Quiet objects found (sheExtendSeed m) := by
  refine quiet_bind quiet_checkStarted fun _ => ?_
  refine quiet_bind (quiet_demand _ (by decide)) fun _ => ?_
  refine quiet_bind (quiet_load _ _) fun entropy => ?_
  exact quiet_bind (quiet_draw _) fun drawn => quiet_modifyEngine fun _ => ⟨rfl, rfl⟩

/-- A `sheRandom` request leaves the objects alone, and blames no handle. -/
theorem quiet_sheRandom (m : Wire.SplitBuffer) : Quiet objects found (sheRandom m) := by
  refine quiet_bind quiet_checkStarted fun _ => ?_
  exact quiet_bind (quiet_demand _ (by decide)) fun _ => quiet_drawInto _ _

/-- A `sheIdentity` request leaves the objects alone, and blames no handle. -/
theorem quiet_sheIdentity (m : Wire.SheIdentity) : Quiet objects found (sheIdentity m) := by
  refine quiet_engine fun e _ => ?_
  exact quiet_bind (quiet_store _ _) fun _ => quiet_pure _

/-! ## (3) Opening and closing -/

/-- An `openKeyStore` request that succeeds has found its session open, and opens a key store of that
identifier below it. -/
theorem acts_openKeyStore (m : Wire.OpenKeyStore) :
    Acts objects (objects.find? m.session = some .session)
      (fun handle after => objects.find? m.session = some .session ∧
        Opens objects handle (.keyStore m.session m.identifier) after) (openKeyStore m) := by
  refine acts_engine fun e he => ?_
  subst he
  refine acts_lift (blaming_checkSession e m.session) fun _ hsession => ?_
  -- Whether the store exists or is made, the last step is to record the handle.
  have hrecord : Acts e.objects (e.objects.find? m.session = some .session)
      (fun handle after => e.objects.find? m.session = some .session ∧
        Opens e.objects handle (.keyStore m.session m.identifier) after)
      (record (.keyStore m.session m.identifier)) :=
    (acts_record _).imp fun _ _ h => ⟨checkSession_eq_ok hsession, h⟩
  refine acts_engine fun _ _ => acts_bind (quiet_demand _ (by decide)) fun _ => ?_
  refine acts_engine fun engine _ => ?_
  split
  · exact acts_bind (quiet_demand _ (by decide)) fun _ => hrecord
  · refine acts_bind (quiet_demand _ (by decide)) fun _ => ?_
    exact acts_bind (quiet_modifyEngine fun _ => ⟨rfl, rfl⟩) fun _ => hrecord

/-- An `openService` request that succeeds has found its parent open, and opens a service of that kind
below it. -/
theorem acts_openService (kind : Service) (parent : UInt32) :
    Acts objects (IsParent objects kind parent)
      (fun handle after => IsParent objects kind parent ∧
        Opens objects handle (.service kind parent) after) (openService kind parent) := by
  have hrecord (h : IsParent objects kind parent) :
      Acts objects (IsParent objects kind parent)
        (fun handle after => IsParent objects kind parent ∧
          Opens objects handle (.service kind parent) after)
        (record (.service kind parent)) :=
    (acts_record _).imp fun _ _ hopens => ⟨h, hopens⟩
  unfold openService
  cases hscope : kind.scope with
  | session =>
    -- What a service is opened on depends on its scope.
    simp only [IsParent, hscope] at hrecord ⊢
    refine acts_engine fun e he => ?_
    subst he
    exact acts_lift (blaming_checkSession e parent) fun _ h => hrecord (checkSession_eq_ok h)
  | keyStore =>
    simp only [IsParent, hscope] at hrecord ⊢
    refine acts_engine fun e he => ?_
    subst he
    exact acts_lift (blaming_keyStoreAt e parent) fun _ h => hrecord (keyStoreAt_eq_ok h)

/-- A `closeSession` request that succeeds has found the session open, and removes it with everything
below it. -/
theorem acts_closeSession (root : UInt32) :
    Acts objects (objects.find? root = some .session)
      (fun _ after => objects.find? root = some .session ∧ Removes objects root after)
      (closeSession root) := by
  refine acts_engine fun e he => ?_
  subst he
  refine acts_lift (blaming_checkSession e root) fun _ h => ?_
  have hroot := checkSession_eq_ok h
  exact (acts_removeTree hroot).imp fun _ _ hremoves => ⟨hroot, hremoves⟩

/-- A `closeKeyStore` request that succeeds has found the key store open, and removes it with its
services. -/
theorem acts_closeKeyStore (root : UInt32) :
    Acts objects (IsKeyStore objects root)
      (fun _ after => IsKeyStore objects root ∧ Removes objects root after)
      (closeKeyStore root) := by
  refine acts_engine fun e he => ?_
  subst he
  refine acts_lift (blaming_keyStoreAt e root) fun _ h => ?_
  have hopen := keyStoreAt_eq_ok h
  obtain ⟨parent, identifier, hroot⟩ := hopen
  exact (acts_removeTree hroot).imp fun _ _ hremoves => ⟨⟨parent, identifier, hroot⟩, hremoves⟩

/-- A `closeService` request that succeeds has found one of that kind open, and removes it. -/
theorem acts_closeService (kind : Service) (root : UInt32) :
    Acts objects (IsService objects kind root)
      (fun _ after => (∃ parent, objects.find? root = some (.service kind parent)) ∧
        Removes objects root after) (closeService kind root) := by
  refine acts_engine fun e he => ?_
  subst he
  refine acts_lift (blaming_serviceParent e root kind) fun parent h => ?_
  have hroot := serviceParent_eq_ok h
  exact (acts_removeTree hroot).imp fun _ _ hremoves => ⟨⟨parent, hroot⟩, hremoves⟩

/-! ## (4) Every handler -/

/-- A handler that acts on the objects as its command does is `Handled`, if it blames no handle but the
one the command is addressed to. -/
theorem handled_of_acts {flavor : Flavor} {c : Command} {m : c.Request flavor} {machine : Machine}
    {x : Handling (c.Response flavor)}
    (h : Acts machine.engine.objects found (fun response after =>
      Effect machine.engine.objects after c m response) x)
    (hfound : (∀ a, c.addressee? m = some a → c.Finds machine.engine.objects a) → found) :
    Handled m machine.engine (x.run machine).1 (x.run machine).2.engine := by
  obtain ⟨hsettings, herror, hok⟩ := h machine rfl
  exact ⟨hsettings, fun e he => ⟨(herror e he).1, Blames.imp (herror e he).2 hfound⟩, hok⟩

/-- A handler that leaves the objects alone is `Handled` if its command has no effect on them. -/
theorem handled_of_quiet {flavor : Flavor} {c : Command} {m : c.Request flavor} {machine : Machine}
    {x : Handling (c.Response flavor)} (h : Quiet machine.engine.objects found x)
    (heffect : ∀ response, Effect machine.engine.objects machine.engine.objects c m response)
    (hfound : (∀ a, c.addressee? m = some a → c.Finds machine.engine.objects a) → found) :
    Handled m machine.engine (x.run machine).1 (x.run machine).2.engine :=
  handled_of_acts (acts_of_quiet h heffect) hfound

/-- **Every handler has the effect of its command, or fails without any**: one case per command, each by
`handled_of_acts` or `handled_of_quiet`. -/
theorem handled {flavor : Flavor} {c : Command} (m : c.Request flavor) (machine : Machine) :
    Handled m machine.engine ((handle flavor c m).run machine).1
      ((handle flavor c m).run machine).2.engine := by
  -- Opening and closing change the handles by what they record; every other command is quiet. The last
  -- fact of each case names the handle that the command can blame.
  cases c with
  | openSession => exact handled_of_acts (acts_record _) fun _ => trivial
  | closeSession => exact handled_of_acts (acts_closeSession m) fun h => h m rfl
  | sharedBuffer => exact handled_of_quiet (quiet_sharedBuffer m) (fun _ => rfl) fun h => h m rfl
  | openKeyStore => exact handled_of_acts (acts_openKeyStore m) fun h => h m.session rfl
  | closeKeyStore => exact handled_of_acts (acts_closeKeyStore m) fun h => h m rfl
  | openService kind => exact handled_of_acts (acts_openService kind m.parent) fun h => h m.parent rfl
  | closeService kind => exact handled_of_acts (acts_closeService kind m) fun h => h m rfl
  | generateKey =>
    exact handled_of_quiet (quiet_generateKey m 0) (fun _ => rfl) fun h => h m.service rfl
  | generateKeyExt =>
    exact handled_of_quiet (quiet_generateKey m.toGenerateKey m.minMacLength) (fun _ => rfl)
      fun h => h m.service rfl
  | importKey => exact handled_of_quiet (quiet_importKey m) (fun _ => rfl) fun h => h m.service rfl
  | deleteKey => exact handled_of_quiet (quiet_deleteKey m) (fun _ => rfl) fun h => h m.service rfl
  | manageKey => exact handled_of_quiet (quiet_manageKey m) (fun _ => rfl) fun h => h m.service rfl
  | mac => exact handled_of_quiet (quiet_mac m) (fun _ => rfl) fun h => h m.service rfl
  | cipher => exact handled_of_quiet (quiet_cipher m) (fun _ => rfl) fun h => h m.service rfl
  | hash => exact handled_of_quiet (quiet_hash m) (fun _ => rfl) fun h => h m.service rfl
  | sign =>
    cases flavor with
    | legacy => exact handled_of_quiet (quiet_signLegacy m) (fun _ => rfl) fun h => h _ rfl
    | psa => exact handled_of_quiet (quiet_signPsa m) (fun _ => rfl) fun h => h _ rfl
  | prepareSign =>
    exact handled_of_quiet (quiet_prepareSign m) (fun _ => rfl) fun h => h m.service rfl
  | verify => exact handled_of_quiet (quiet_verify m) (fun _ => rfl) fun h => h m.service rfl
  | random => exact handled_of_quiet (quiet_random m) (fun _ => rfl) fun h => h m.session rfl
  | sheGenerateMac =>
    exact handled_of_quiet (quiet_sheGenerateMac m) (fun _ => rfl) fun _ => trivial
  | sheVerifyMac =>
    exact handled_of_quiet (quiet_sheVerifyMac m) (fun _ => rfl) fun _ => trivial
  | sheInitRng =>
    exact handled_of_quiet (quiet_modifyEngine fun _ => ⟨rfl, rfl⟩) (fun _ => rfl)
      fun _ => trivial
  | sheExtendSeed =>
    exact handled_of_quiet (quiet_sheExtendSeed m) (fun _ => rfl) fun _ => trivial
  | sheRandom =>
    exact handled_of_quiet (quiet_sheRandom m) (fun _ => rfl) fun _ => trivial
  | sheStatus =>
    exact handled_of_quiet (quiet_engine fun _ _ => quiet_pure _) (fun _ => rfl)
      fun _ => trivial
  | sheIdentity =>
    exact handled_of_quiet (quiet_sheIdentity m) (fun _ => rfl) fun _ => trivial

end SecureEngine.Engine
