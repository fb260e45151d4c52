import SecureEngine.Proofs.Completion
import SecureEngine.Proofs.Recorder

/-! # What preparing a request does

* **`Registering.Mirrors`** — registering buffers with a recorder does what it does with the transport
  itself and only stages buffers, and a result has a given property.
* **`Command.addressee?`** — the handle that a request names; **`Command.worker?`** and
  **`Command.isGlobal`** say whose handle that is.
* **`Prepared.Sound`** — a prepared request names the handle it was prepared for, and if it has an
  output, its arguments are completed intact. -/

namespace SecureEngine

/-! ## (1) Registering buffers -/

namespace Registering

variable {σ α β : Type} [Transport σ]

/-- **Registering over a recorder does what it does over the transport**: it stages buffers at most,
any result satisfies `p`, and no failure is one that an engine reports. -/
def Mirrors (p : α → Prop) (x : Registering (Recorder σ) α) (y : Registering σ α) : Prop :=
  ∀ r : Recorder σ, ∃ staged, Staged r.transport staged (y.run r.transport).2 ∧
    x.run r = ((y.run r.transport).1, ⟨(y.run r.transport).2, r.calls ++ staged⟩) ∧
    (∀ a, (y.run r.transport).1 = .ok a → p a) ∧
    ∀ e, (y.run r.transport).1 ≠ .error (.engine e)

/-- A given result mirrors itself, if neither side looks at its transport: both `run`s leave what they are
given. -/
theorem mirrors_of_run {result : Except ClientError α} {p : α → Prop}
    {x : Registering (Recorder σ) α} {y : Registering σ α} (hx : ∀ r, x.run r = (result, r))
    (hy : ∀ s, y.run s = (result, s)) (hp : ∀ a, result = .ok a → p a)
    (hne : ∀ e, result ≠ .error (.engine e)) : Mirrors p x y := by
  intro r
  rw [hx, hy]
  exact ⟨[], .nil _, by rw [List.append_nil], hp, hne⟩

/-- Returning a value stages nothing on either side, so `Mirrors` holds of it. -/
theorem mirrors_pure {p : α → Prop} {a : α} (h : p a) : Mirrors (σ := σ) p (pure a) (pure a) :=
  mirrors_of_run (fun _ => rfl) (fun _ => rfl) (fun b hb => by cases hb; exact h) nofun

/-- A `Complaint` about the arguments is made without the transport, so there is nothing to record. -/
theorem mirrors_complain (p : α → Prop) (complaint : Complaint) :
    Mirrors (σ := σ) p (throw (.validation complaint)) (throw (.validation complaint)) :=
  mirrors_of_run (fun _ => rfl) (fun _ => rfl) nofun nofun

/-- Checking the size of a buffer for a half word stages nothing, and what follows knows the size. -/
theorem mirrors_halfSize (what : SizedBuffer) (buffer : Bytes) :
    Mirrors (σ := σ) (fun n => halfSize what buffer = .ok n) (check (halfSize what buffer))
      (check (halfSize what buffer)) := by
  refine mirrors_of_run (fun _ => rfl) (fun _ => rfl) (fun _ h => h) fun e h => ?_
  unfold halfSize at h
  split at h <;> cases h

/-- Checking the size of a buffer for a word stages nothing, and what follows knows the size. -/
theorem mirrors_wordSize (what : SizedBuffer) (buffer : Bytes) :
    Mirrors (σ := σ) (fun n => wordSize what buffer = .ok n) (check (wordSize what buffer))
      (check (wordSize what buffer)) := by
  refine mirrors_of_run (fun _ => rfl) (fun _ => rfl) (fun _ h => h) fun e h => ?_
  unfold wordSize at h
  split at h <;> cases h

/-- A `demand` of the arguments stages nothing, and what follows may rely on it. -/
theorem mirrors_demand (condition : Bool) (complaint : Complaint) :
    Mirrors (σ := σ) (fun _ => condition = true) (demand condition complaint)
      (demand condition complaint) := by
  unfold demand
  split
  · rename_i h
    exact mirrors_pure h
  · exact mirrors_complain _ _

/-- A sequence stages what its parts stage, one after the other, and the second part may rely on the
result of the first. -/
theorem mirrors_bind {p : α → Prop} {q : β → Prop} {x : Registering (Recorder σ) α}
    {y : Registering σ α} {f : α → Registering (Recorder σ) β} {g : α → Registering σ β}
    (h : Mirrors p x y) (hf : ∀ a, p a → Mirrors q (f a) (g a)) :
    Mirrors q (x >>= f) (y >>= g) := by
  intro r
  obtain ⟨first, hfirst, hx, hp, hne⟩ := h r
  -- Both runs end in the same way, so both go on or neither does.
  rcases hy : y.run r.transport with ⟨e | a, t⟩
  · rw [hy] at hx hfirst hne
    rw [run_bind_error hx, run_bind_error hy]
    exact ⟨first, hfirst, rfl, nofun, fun x hx => hne x (by cases hx; rfl)⟩
  · rw [hy] at hx hfirst hp
    obtain ⟨second, hsecond, hfa, hq, hne⟩ := hf a (hp a rfl) ⟨t, r.calls ++ first⟩
    rw [run_bind_ok hx, run_bind_ok hy, hfa, List.append_assoc]
    exact ⟨first ++ second, hfirst.append hsecond, rfl, hq, hne⟩

/-- A result may be made of what was registered on both sides: `Mirrors` passes through `<$>`. -/
theorem mirrors_map {p : α → Prop} {q : β → Prop} {f : α → β} {x : Registering (Recorder σ) α}
    {y : Registering σ α} (h : Mirrors p x y) (hf : ∀ a, p a → q (f a)) :
    Mirrors q (f <$> x) (f <$> y) :=
  mirrors_bind h fun a ha => mirrors_pure (hf a ha)

/-- Registering a buffer stages it, with `stage` as the call on record, unless it is empty. -/
theorem mirrors_register (buffer : Bytes) (use : BufferUse) :
    Mirrors (σ := σ) (fun _ => True) (register buffer use) (register buffer use) := by
  unfold register
  split
  · -- An empty buffer is not staged.
    exact mirrors_pure trivial
  · intro r
    refine ⟨[.stage r.transport buffer use], .cons buffer use (.nil _), rfl, fun _ _ => trivial, ?_⟩
    intro e h
    dsimp only [ExceptT.run, ExceptT.mk] at h
    rcases hd : Transport.dataBuffer r.transport buffer use with ⟨_ | _, t⟩ <;>
      simp [hd] at h

end Registering

/-! ## (2) Whom a request addresses -/

/-- **The handle that a request names.** Opening a session and the requests of the secure hardware
extension name none. -/
def Command.addressee? {flavor : Flavor} : (c : Command) → c.Request flavor → Option UInt32
  | .closeSession, m => some m
  | .sharedBuffer, m => some m
  | .openKeyStore, m => some m.session
  | .closeKeyStore, m => some m
  | .openService _, m => some m.parent
  | .closeService _, m => some m
  | .generateKey, m => some m.service
  | .generateKeyExt, m => some m.service
  | .importKey, m => some m.service
  | .deleteKey, m => some m.service
  | .manageKey, m => some m.service
  | .mac, m => some m.service
  | .cipher, m => some m.service
  | .hash, m => some m.service
  | .sign, m =>
    match flavor, m with
    | .legacy, m => some m.service
    | .psa, m => some m.service
  | .prepareSign, m => some m.service
  | .verify, m => some m.service
  | .random, m => some m.session
  | .openSession, _ | .sheGenerateMac, _ | .sheVerifyMac, _ | .sheInitRng, _ | .sheExtendSeed, _
  | .sheRandom, _ | .sheStatus, _ | .sheIdentity, _ => none

/-- The service that a command is addressed to, if it is one of the working commands of a `Service`. -/
def Command.worker? : Command → Option Service
  | generateKey | generateKeyExt | importKey | deleteKey | manageKey => some .keyManagement
  | mac => some .mac
  | cipher => some .cipher
  | hash => some .hash
  | sign | prepareSign => some .signatureGeneration
  | verify => some .signatureVerification
  | _ => none

/-- Whether a command is asked of the session itself: random numbers, and all of SHE but its ciphers. -/
def Command.isGlobal : Command → Bool
  | random | sheGenerateMac | sheVerifyMac | sheInitRng | sheExtendSeed | sheRandom | sheStatus
  | sheIdentity => true
  | _ => false

/-- **What preparing a request promises**: the only handle in it is the given one, and with an output it
`CompletesIntact`. -/
structure Prepared.Sound {flavor : Flavor} {c : Command} (handle : UInt32) (arguments : Arguments)
    (p : Prepared flavor c) : Prop where
  /-- A request names no handle but the one it was prepared for. -/
  addressee : ∀ a, c.addressee? p.request = some a → a = handle
  /-- With an output, only the checksum of the response can keep the arguments incomplete. -/
  intact : p.output ≠ none → c.CompletesIntact flavor arguments

namespace Prepared

variable {flavor : Flavor} {c : Command} {handle : UInt32} {arguments : Arguments}

/-- A request without output has nothing to complete but results: `Prepared.Sound` only asks for its
handle. -/
theorem sound_ofRequest {request : c.Request flavor}
    (h : ∀ a, c.addressee? request = some a → a = handle) :
    (Prepared.ofRequest request).Sound handle arguments :=
  ⟨h, fun hoff => absurd rfl hoff⟩

/-- A request with an output is `Sound`, if it names the handle it was given and its arguments can be
completed intact. -/
theorem sound_of_intact {p : Prepared flavor c}
    (h : ∀ a, c.addressee? p.request = some a → a = handle)
    (hc : c.CompletesIntact flavor arguments) : p.Sound handle arguments :=
  ⟨h, fun _ => hc⟩

end Prepared

/-! ## (3) Each preparation -/

section

open Registering

variable {σ : Type} [Transport σ] (handle : UInt32)

/-- Generating a key, by `prepareGeneration`, is prepared for the key management service under the given
handle. -/
theorem mirrors_prepareGeneration (a : KeyGeneration) :
    Mirrors (σ := σ) (fun p => p.1.service = handle) (prepareGeneration handle a)
      (prepareGeneration handle a) := by
  unfold prepareGeneration
  refine mirrors_bind (mirrors_halfSize _ _) fun _ _ => ?_
  refine mirrors_bind (mirrors_register _ _) fun _ _ => ?_
  exact mirrors_pure rfl

/-- Importing a key, by `prepareImport`, is prepared for the key management service under the given
handle. -/
theorem mirrors_prepareImport (a : KeyImport) :
    Mirrors (σ := σ) (fun m => m.service = handle) (prepareImport handle a)
      (prepareImport handle a) := by
  unfold prepareImport
  refine mirrors_bind (mirrors_halfSize _ _) fun _ _ => ?_
  refine mirrors_bind (mirrors_register _ _) fun _ _ => ?_
  exact mirrors_pure rfl

/-- Installing a wrapped key, by `prepareInstallation`, is prepared for the key management service under
the given handle. -/
theorem mirrors_prepareInstallation (a : KeyInstallation) :
    Mirrors (σ := σ) (fun m => m.service = handle) (prepareInstallation handle a)
      (prepareInstallation handle a) := by
  unfold prepareInstallation
  refine mirrors_bind (mirrors_halfSize _ _) fun _ _ => ?_
  refine mirrors_bind (mirrors_register _ _) fun _ _ => ?_
  exact mirrors_pure rfl

/-- A `MacOperation` is prepared for the service under the given handle. -/
theorem mirrors_prepareMac (a : MacOperation) :
    Mirrors (σ := σ) (fun p => p.1.service = handle) (prepareMac handle a)
      (prepareMac handle a) := by
  unfold prepareMac
  refine mirrors_bind (mirrors_halfSize _ _) fun _ _ => ?_
  refine mirrors_bind (mirrors_halfSize _ _) fun _ _ => ?_
  refine mirrors_bind (mirrors_register _ _) fun _ _ => ?_
  refine mirrors_bind (mirrors_register _ _) fun _ _ => ?_
  exact mirrors_pure rfl

/-- A `CipherOperation` is prepared for the service under the given handle. -/
theorem mirrors_prepareCipher (a : CipherOperation) :
    Mirrors (σ := σ) (fun p => p.1.service = handle) (prepareCipher handle a)
      (prepareCipher handle a) := by
  unfold prepareCipher
  refine mirrors_bind (mirrors_halfSize _ _) fun _ _ => ?_
  refine mirrors_bind (mirrors_wordSize _ _) fun _ _ => ?_
  refine mirrors_bind (mirrors_wordSize _ _) fun _ _ => ?_
  refine mirrors_bind (mirrors_register _ _) fun _ _ => ?_
  refine mirrors_bind (mirrors_register _ _) fun _ _ => ?_
  refine mirrors_bind (mirrors_register _ _) fun _ _ => ?_
  exact mirrors_pure rfl

/-- A `HashOperation` is prepared for the service under the given handle. -/
theorem mirrors_prepareHash (a : HashOperation) :
    Mirrors (σ := σ) (fun p => p.1.service = handle) (prepareHash handle a)
      (prepareHash handle a) := by
  unfold prepareHash
  refine mirrors_bind (mirrors_wordSize _ _) fun _ _ => ?_
  refine mirrors_bind (mirrors_wordSize _ _) fun _ _ => ?_
  refine mirrors_bind (mirrors_register _ _) fun _ _ => ?_
  refine mirrors_bind (mirrors_register _ _) fun _ _ => ?_
  exact mirrors_pure rfl

/-- The size of the signature buffer has been checked when the request is made, so a signature can be
completed in either layout. -/
theorem mirrors_prepareSigning (flavor : Flavor) (a : SignOperation) :
    Mirrors (σ := σ) (Prepared.Sound handle (.sign a)) (prepareSigning flavor handle a)
      (prepareSigning flavor handle a) := by
  unfold prepareSigning
  refine mirrors_bind (mirrors_wordSize _ _) fun _ _ => ?_
  refine mirrors_bind (mirrors_halfSize _ _) fun _ hsize => ?_
  refine mirrors_bind (mirrors_register _ _) fun _ _ => ?_
  refine mirrors_bind (mirrors_register _ _) fun _ _ => ?_
  refine mirrors_pure (Prepared.sound_of_intact ?_ (Command.completesIntact_sign hsize))
  cases flavor <;> exact fun _ h => (Option.some.inj h).symm

/-- Checking a signature, by `prepareVerification`, is prepared for the service under the given handle. -/
theorem mirrors_prepareVerification (a : VerifyOperation) :
    Mirrors (σ := σ) (fun m => m.service = handle) (prepareVerification handle a)
      (prepareVerification handle a) := by
  unfold prepareVerification
  refine mirrors_bind (mirrors_halfSize _ _) fun _ _ => ?_
  refine mirrors_bind (mirrors_halfSize _ _) fun _ _ => ?_
  refine mirrors_bind (mirrors_wordSize _ _) fun _ _ => ?_
  refine mirrors_bind (mirrors_register _ _) fun _ _ => ?_
  refine mirrors_bind (mirrors_register _ _) fun _ _ => ?_
  refine mirrors_bind (mirrors_register _ _) fun _ _ => ?_
  exact mirrors_pure rfl

/-- A request for random bytes, by `prepareRandom`, is prepared for the session under the given handle. -/
theorem mirrors_prepareRandom (output : Bytes) :
    Mirrors (σ := σ) (fun p => p.1.session = handle) (prepareRandom handle output)
      (prepareRandom handle output) := by
  unfold prepareRandom
  refine mirrors_bind (mirrors_wordSize _ _) fun _ _ => ?_
  refine mirrors_bind (mirrors_register _ _) fun _ _ => ?_
  exact mirrors_pure rfl

/-- A SHE request for a MAC names no handle, so there is nothing to be said of it here. -/
theorem mirrors_prepareSheGenerateMac (a : SheMacGeneration) :
    Mirrors (σ := σ) (fun _ => True) (prepareSheGenerateMac a) (prepareSheGenerateMac a) := by
  unfold prepareSheGenerateMac
  refine mirrors_bind (mirrors_demand _ _) fun _ _ => ?_
  refine mirrors_bind (mirrors_halfSize _ _) fun _ _ => ?_
  refine mirrors_bind (mirrors_register _ _) fun _ _ => ?_
  refine mirrors_bind (mirrors_register _ _) fun _ _ => ?_
  exact mirrors_pure trivial

/-- A SHE request to check a MAC names no handle either, and `prepareSheVerifyMac` stages alike on both
sides. -/
theorem mirrors_prepareSheVerifyMac (a : SheMacVerification) :
    Mirrors (σ := σ) (fun _ => True) (prepareSheVerifyMac a) (prepareSheVerifyMac a) := by
  unfold prepareSheVerifyMac
  refine mirrors_bind (mirrors_demand _ _) fun _ _ => ?_
  refine mirrors_bind (mirrors_demand _ _) fun _ _ => ?_
  refine mirrors_bind (mirrors_halfSize _ _) fun _ _ => ?_
  refine mirrors_bind (mirrors_register _ _) fun _ _ => ?_
  refine mirrors_bind (mirrors_register _ _) fun _ _ => ?_
  exact mirrors_pure trivial

/-- A request to extend the seed of SHE names no handle either, and `prepareSheExtendSeed` stages alike on
both sides. -/
theorem mirrors_prepareSheExtendSeed (entropy : Bytes) :
    Mirrors (σ := σ) (fun _ => True) (prepareSheExtendSeed entropy)
      (prepareSheExtendSeed entropy) := by
  unfold prepareSheExtendSeed
  refine mirrors_bind (mirrors_demand _ _) fun _ _ => ?_
  refine mirrors_bind (mirrors_register _ _) fun _ _ => ?_
  exact mirrors_pure trivial

/-- A SHE request for random bytes names no handle either, and `prepareSheRandom` stages alike on both
sides. -/
theorem mirrors_prepareSheRandom (output : Bytes) :
    Mirrors (σ := σ) (fun _ => True) (prepareSheRandom output) (prepareSheRandom output) := by
  unfold prepareSheRandom
  refine mirrors_bind (mirrors_demand _ _) fun _ _ => ?_
  refine mirrors_bind (mirrors_register _ _) fun _ _ => ?_
  exact mirrors_pure trivial

/-- A SHE request for the identity names no handle either, and `prepareSheIdentity` stages alike on both
sides. -/
theorem mirrors_prepareSheIdentity (a : SheIdentification) :
    Mirrors (σ := σ) (fun _ => True) (prepareSheIdentity a) (prepareSheIdentity a) := by
  unfold prepareSheIdentity
  refine mirrors_bind (mirrors_demand _ _) fun _ _ => ?_
  refine mirrors_bind (mirrors_register _ _) fun _ _ => ?_
  exact mirrors_pure trivial

/-- **Preparing a command stages buffers at most, and its request is `Sound`**: one case per command, each
by the lemma about its preparation. -/
theorem Command.mirrors_prepare (flavor : Flavor) (c : Command) (arguments : Arguments) :
    Mirrors (σ := σ) (Prepared.Sound handle arguments) (c.prepare flavor handle arguments)
      (c.prepare flavor handle arguments) := by
  unfold Command.prepare
  split
  -- Nothing but a handle, or no handle at all.
  case h_1 => exact mirrors_pure (Prepared.sound_ofRequest fun _ h => by cases h)
  case h_2 | h_3 | h_4 | h_5 | h_6 | h_7 | h_11 | h_17 =>
    exact mirrors_pure (Prepared.sound_ofRequest fun _ h => (Option.some.inj h).symm)
  case h_22 | h_25 => exact mirrors_pure (Prepared.sound_ofRequest fun _ h => by cases h)
  -- An output buffer, with what its arguments are completed from.
  case h_8 a =>
    refine mirrors_map (mirrors_prepareGeneration handle a) fun p hp => ?_
    exact Prepared.sound_of_intact (fun _ h => (Option.some.inj h).symm.trans hp) (completesIntact_generateKey a)
  case h_9 a =>
    refine mirrors_bind (mirrors_prepareGeneration handle a) fun p hp => mirrors_pure ?_
    exact Prepared.sound_of_intact (fun _ h => (Option.some.inj h).symm.trans hp)
      (completesIntact_generateKeyExt a)
  case h_13 a =>
    refine mirrors_map (mirrors_prepareMac handle a) fun p hp => ?_
    exact Prepared.sound_of_intact (fun _ h => (Option.some.inj h).symm.trans hp) (completesIntact_mac a)
  case h_14 a =>
    refine mirrors_map (mirrors_prepareCipher handle a) fun p hp => ?_
    exact Prepared.sound_of_intact (fun _ h => (Option.some.inj h).symm.trans hp) (completesIntact_cipher a)
  case h_15 a =>
    refine mirrors_map (mirrors_prepareHash handle a) fun p hp => ?_
    exact Prepared.sound_of_intact (fun _ h => (Option.some.inj h).symm.trans hp) (completesIntact_hash a)
  case h_16 a => exact mirrors_prepareSigning handle flavor a
  case h_19 a =>
    refine mirrors_map (mirrors_prepareRandom handle a) fun p hp => ?_
    exact Prepared.sound_of_intact (fun _ h => (Option.some.inj h).symm.trans hp) (completesIntact_random a)
  case h_20 a =>
    refine mirrors_map (mirrors_prepareSheGenerateMac a) fun p hp => ?_
    exact Prepared.sound_of_intact (fun _ h => by cases h) (completesIntact_sheGenerateMac a)
  case h_24 a =>
    refine mirrors_map (mirrors_prepareSheRandom a) fun p hp => ?_
    exact Prepared.sound_of_intact (fun _ h => by cases h) (completesIntact_sheRandom a)
  case h_26 a =>
    refine mirrors_map (mirrors_prepareSheIdentity a) fun p hp => ?_
    exact Prepared.sound_of_intact (fun _ h => by cases h) (completesIntact_sheIdentity a)
  -- Inputs only.
  case h_10 a =>
    exact mirrors_map (mirrors_prepareImport handle a) fun m hm =>
      Prepared.sound_ofRequest fun _ h => (Option.some.inj h).symm.trans hm
  case h_12 a =>
    exact mirrors_map (mirrors_prepareInstallation handle a) fun m hm =>
      Prepared.sound_ofRequest fun _ h => (Option.some.inj h).symm.trans hm
  case h_18 a =>
    exact mirrors_map (mirrors_prepareVerification handle a) fun m hm =>
      Prepared.sound_ofRequest fun _ h => (Option.some.inj h).symm.trans hm
  case h_21 a =>
    exact mirrors_map (mirrors_prepareSheVerifyMac a) fun m hm =>
      Prepared.sound_ofRequest fun _ h => by cases h
  case h_23 a =>
    exact mirrors_map (mirrors_prepareSheExtendSeed a) fun m hm =>
      Prepared.sound_ofRequest fun _ h => by cases h
  case h_27 => exact mirrors_complain _ _

end

end SecureEngine
