import Mathlib.Data.List.Forall2
import SecureEngine.Proofs.Placement

/-! # How requests are prepared

A request is prepared in three steps: sizes are checked, buffers are registered in order, and the request
is filled in from sizes and addresses.

* **`Command.mentions`** — what a request says of its buffers: where each is, and how large.
* **`Command.checks`** — the checks of the arguments, with the complaint of each.
* **`Registering.Preparation`** — the three ways in which preparing can go: it is refused before
  anything is registered, the request is prepared, or the transport does not take a buffer.
* **`Prepared.Accords`** — a request names the buffers of its arguments where they were placed, and
  describes them.
* **`Command.prepares_prepare`** — every command is prepared in one of these ways, and what is prepared
  accords with its arguments; **`DispatchTable.placed_of_prepare`** — so does every message. -/

namespace SecureEngine

/-! ## (1) What a request says of a buffer -/

/-- **Where a request says that a buffer is**, in the fields that it has for it. -/
inductive Place
  | low (word : UInt32)
  | split (high low : UInt32)
  | short (offset : UInt16)
deriving DecidableEq, Repr

namespace Place

/-- **The fields name an `Address`**: by its lower word, by both words, or by its lower half word. -/
def Names (address : Address) : Place → Prop
  | low word => word.toNat = address.toNat % UInt32.size
  | split upper lower =>
    upper.toNat = address.toNat / UInt32.size ∧ lower.toNat = address.toNat % UInt32.size
  | short offset => offset.toNat = address.toNat % UInt16.size

/-- Whether a `Place` is named in the short form. -/
def isShort : Place → Bool
  | short _ => true
  | _ => false

/-- A field that holds the lower word of an `Address` names it. -/
theorem names_low (address : Address) : (low address.low).Names address :=
  UInt64.toNat_toUInt32 address

/-- A field that holds the short form of an `Address` names it, and has to be joined with the base of the
area to be one again. -/
theorem names_short (address : Address) : (short address.short).Names address :=
  UInt64.toNat_toUInt16 address

/-- Two fields that hold the words of an `Address` name it, however large it is. -/
theorem names_split (address : Address) : (split address.high address.low).Names address := by
  refine ⟨?_, UInt64.toNat_toUInt32 address⟩
  have hhigh : address.toNat / UInt32.size < UInt32.size :=
    Nat.div_lt_of_lt_mul address.toNat_lt
  rw [Address.high, UInt64.toNat_toUInt32, UInt64.toNat_shiftRight]
  show address.toNat >>> 32 % UInt32.size = address.toNat / UInt32.size
  rw [Nat.shiftRight_eq_div_pow]
  exact Nat.mod_eq_of_lt hhigh

end Place

/-- **What a request says of a buffer**: its `Place`, and the size, if the request tells one. -/
structure Mention where
  place : Place
  /-- The size that is told. -/
  size? : Option Nat
deriving DecidableEq, Repr

/-- **What a request says of its buffers**, in the order of their registration. The MACs of the secure
hardware extension have sixteen bytes, which their requests do not tell. -/
def Command.mentions {flavor : Flavor} : (c : Command) → c.Request flavor → List Mention
  | .generateKey, m => [⟨.low m.outputAddress, some m.outputSize.toNat⟩]
  | .generateKeyExt, m => [⟨.low m.outputAddress, some m.outputSize.toNat⟩]
  | .importKey, m => [⟨.low m.inputAddress, some m.inputSize.toNat⟩]
  | .manageKey, m => [⟨.low m.inputAddress, some m.inputSize.toNat⟩]
  | .mac, m =>
    [⟨.low m.payloadAddress, some m.payloadSize.toNat⟩, ⟨.low m.macAddress, some m.macSize.toNat⟩]
  | .cipher, m =>
    [⟨.low m.ivAddress, some m.ivSize.toNat⟩, ⟨.low m.inputAddress, some m.inputSize.toNat⟩,
      ⟨.low m.outputAddress, some m.outputSize.toNat⟩]
  | .hash, m =>
    [⟨.low m.inputAddress, some m.inputSize.toNat⟩, ⟨.low m.outputAddress, some m.outputSize.toNat⟩]
  | .sign, m =>
    match flavor, m with
    | .legacy, m =>
      [⟨.low m.messageAddress, some m.messageSize.toNat⟩,
        ⟨.low m.signatureAddress, some m.signatureSize.toNat⟩]
    | .psa, m =>
      [⟨.low m.messageAddress, some m.messageSize.toNat⟩,
        ⟨.low m.signatureAddress, some m.signatureSize.toNat⟩]
  | .verify, m =>
    [⟨.low m.keyAddress, some m.keySize.toNat⟩, ⟨.low m.messageAddress, some m.messageSize.toNat⟩,
      ⟨.low m.signatureAddress, some m.signatureSize.toNat⟩]
  | .random, m => [⟨.low m.outputAddress, some m.size.toNat⟩]
  | .sheGenerateMac, m =>
    [⟨.short m.messageOffset, some m.messageSize.toNat⟩, ⟨.short m.macOffset, none⟩]
  | .sheVerifyMac, m =>
    [⟨.short m.messageOffset, some m.messageSize.toNat⟩, ⟨.short m.macOffset, none⟩]
  | .sheExtendSeed, m => [⟨.split m.high m.low, some m.size.toNat⟩]
  | .sheRandom, m => [⟨.split m.high m.low, some m.size.toNat⟩]
  | .sheIdentity, m => [⟨.split m.high m.low, none⟩]
  | _, _ => []

/-- **A buffer is as a request says**: it is there, and of that size; what is told in the short form was
registered for it. -/
structure Placement.Described (q : Placement) (mention : Mention) : Prop where
  names : mention.place.Names (wireAddress q.address)
  size_eq : mention.size?.getD Engine.sheSize = q.attachment.buffer.length
  short_eq : q.attachment.use.short = mention.place.isShort

/-! ## (2) What is checked -/

/-- **A check of the arguments**: whether they pass it, and the `Complaint` that refuses them if they do
not. -/
structure ArgumentCheck where
  passes : Bool
  /-- What is wrong with the arguments if they do not pass. -/
  complaint : Complaint

/-- The length of a buffer has to fit a half word, `UInt16.size`, for a `SizedBuffer` whose field has 16
bits. -/
def halfCheck (what : SizedBuffer) (buffer : Bytes) : ArgumentCheck :=
  ⟨buffer.length < UInt16.size, .tooLarge what⟩

/-- The length of a buffer has to fit a word, `UInt32.size`, for a `SizedBuffer` whose field has 32
bits. -/
def wordCheck (what : SizedBuffer) (buffer : Bytes) : ArgumentCheck :=
  ⟨buffer.length < UInt32.size, .tooLarge what⟩

/-- **What is checked before a command is prepared**, in this order. Commands without sizes take the
arguments that they need, and those that need none take any. -/
def Command.checks : Command → Arguments → List ArgumentCheck
  | .generateKey, .generateKey a => [halfCheck .publicKeyBuffer a.publicKey]
  | .generateKeyExt, .generateKey a => [halfCheck .publicKeyBuffer a.publicKey]
  | .importKey, .importKey a => [halfCheck .importedKey a.material]
  | .manageKey, .manageKey a => [halfCheck .wrappedKey a.material]
  | .mac, .mac a => [halfCheck .macPayload a.payload, halfCheck .macBuffer a.mac]
  | .cipher, .cipher a =>
    [halfCheck .iv a.iv, wordCheck .cipherInput a.input, wordCheck .cipherOutput a.output]
  | .hash, .hash a => [wordCheck .hashInput a.input, wordCheck .hashOutput a.output]
  | .sign, .sign a => [wordCheck .message a.message, halfCheck .signatureBuffer a.signature]
  | .verify, .verify a =>
    [halfCheck .publicKey a.publicKey, halfCheck .signature a.signature, wordCheck .message a.message]
  | .random, .random output => [wordCheck .randomBuffer output]
  | .sheGenerateMac, .sheGenerateMac a =>
    [⟨a.mac.length == 16, .sheMacBufferSize⟩, halfCheck .sheMessage a.message]
  | .sheVerifyMac, .sheVerifyMac a =>
    [⟨a.mac.length == 16, .sheMacBufferSize⟩, ⟨a.macLength ≤ 16, .sheMacLengthTooLong⟩,
      halfCheck .sheMessage a.message]
  | .sheExtendSeed, .sheExtendSeed entropy => [⟨entropy.length == 16, .sheEntropySize⟩]
  | .sheRandom, .sheRandom output => [⟨output.length == 16, .sheRandomSize⟩]
  | .sheIdentity, .sheIdentity a => [⟨a.mac.length == 16, .sheMacBufferSize⟩]
  | .openSession, .openSession _ | .openKeyStore, .openKeyStore _ | .openService _, .openService _
  | .deleteKey, .deleteKey _ | .prepareSign, .prepareSign _ | .closeSession, _ | .sharedBuffer, _
  | .closeKeyStore, _ | .closeService _, _ | .sheInitRng, _ | .sheStatus, _ => []
  | _, _ => [⟨false, .argumentsMismatch⟩]

/-! ## (3) How preparing can go -/

/-- `halfSize` is the length of a buffer as a half word, where it is one. -/
theorem halfSize_eq_ok_iff {what : SizedBuffer} {buffer : Bytes} {n : UInt16} :
    halfSize what buffer = .ok n ↔ n.toNat = buffer.length := by
  unfold halfSize
  constructor
  · intro h
    split at h <;> cases h
    rename_i hlt
    exact UInt16.toNat_ofNat_of_lt' hlt
  · intro h
    rw [← h, if_pos n.toNat_lt, UInt16.ofNat_toNat]

namespace Registering

variable {σ α β : Type} [Transport σ]

/-- **The ways in which preparing can go**, with the result and the transport afterwards. -/
inductive Preparation (checks : List ArgumentCheck) (attachments : List Attachment)
    (Q : α → List Placement → Prop) (s : σ) : Except ClientError α × σ → Prop
  /-- The first check that does not pass tells the complaint, and the transport is not touched. -/
  | refused {check : ArgumentCheck} (h : checks.find? (!·.passes) = some check) :
      Preparation checks attachments Q s (.error (.validation check.complaint), s)
  /-- Every buffer has been registered. -/
  | prepared {a : α} {placements : List Placement} {t : σ} (hchecks : ∀ check ∈ checks, check.passes)
      (hplaced : Placed s placements t)
      (hattachments : placements.map Placement.attachment = attachments) (hq : Q a placements) :
      Preparation checks attachments Q s (.ok a, t)
  /-- The transport does not take a buffer. -/
  | brokeOff {front : List Placement} {failing : Attachment} {rest : List Attachment} {u t : σ}
      {e : TransportError} (hchecks : ∀ check ∈ checks, check.passes) (hplaced : Placed s front u)
      (hattachments : attachments = front.map Placement.attachment ++ failing :: rest)
      (hne : failing.buffer ≠ [])
      (hfails : Transport.dataBuffer u failing.buffer failing.use = (.error e, t)) :
      Preparation checks attachments Q s (.error (.transport e), t)

/-- **A computation prepares**: it makes some checks, then registers some buffers, and what comes out
depends on where they are. -/
def Prepares (checks : List ArgumentCheck) (attachments : List Attachment)
    (Q : α → List Placement → Prop) (x : Registering σ α) : Prop :=
  ∀ s, Preparation checks attachments Q s (x.run s)

section

variable {checks : List ArgumentCheck} {attachments : List Attachment}
  {Q : β → List Placement → Prop}

/-- Returning a value prepares without checks and buffers, if it meets the postcondition already. -/
theorem prepares_pure {b : β} (h : Q b []) : Prepares (σ := σ) [] [] Q (pure b) :=
  fun s => .prepared nofun (.nil s) rfl h

/-- A result may be made of what was prepared: checks and buffers stay, and the postcondition is told by
the new result. -/
theorem prepares_map {f : α → β} {x : Registering σ α}
    (h : Prepares checks attachments (fun a placements => Q (f a) placements) x) :
    Prepares checks attachments Q (f <$> x) := by
  intro s
  have hs := h s
  show Preparation checks attachments Q s ((x >>= fun a => pure (f a)).run s)
  cases hrun : x.run s with
  | mk result t =>
    rw [hrun] at hs
    -- Mapping changes the result alone: the checks, the placements and the failures are those of `x`.
    cases hs with
    | refused hfails =>
      rw [run_bind_error hrun]
      exact .refused hfails
    | prepared hchecks hplaced hattachments hq =>
      rw [run_bind_ok hrun]
      exact .prepared hchecks hplaced hattachments hq
    | brokeOff hchecks hplaced hattachments hne hfails =>
      rw [run_bind_error hrun]
      exact .brokeOff hchecks hplaced hattachments hne hfails

/-- The first check does not pass, so preparing ends with its `Complaint` and the transport as it was. -/
theorem Preparation.complains {complaint : Complaint} {s : σ} :
    Preparation (⟨false, complaint⟩ :: checks) attachments Q s
      (.error (.validation complaint), s) := by
  have hfirst : List.find? (fun check : ArgumentCheck => !check.passes)
      (⟨false, complaint⟩ :: checks) = some ⟨false, complaint⟩ := rfl
  exact .refused hfirst

/-- One check more that passes changes nothing about how `Preparation` goes: the first one that does not
pass is the same. -/
theorem Preparation.cons_check {check : ArgumentCheck} (hpasses : check.passes = true) {s : σ}
    {outcome : Except ClientError β × σ} (h : Preparation checks attachments Q s outcome) :
    Preparation (check :: checks) attachments Q s outcome := by
  have hall (hchecks : ∀ check ∈ checks, check.passes = true) :
      ∀ other ∈ check :: checks, other.passes = true :=
    List.forall_mem_cons.mpr ⟨hpasses, hchecks⟩
  cases h with
  | refused hfails => exact .refused (by rw [List.find?_cons, hpasses]; exact hfails)
  | prepared hchecks hplaced hattachments hq =>
    exact .prepared (hall hchecks) hplaced hattachments hq
  | brokeOff hchecks hplaced hattachments hne hfails =>
    exact .brokeOff (hall hchecks) hplaced hattachments hne hfails

/-- What follows a check is only reached if it passes: then the check yields a value to go on with. -/
theorem prepares_check {check : ArgumentCheck} {r : Except ClientError α}
    {f : α → Registering σ β}
    (hfails : check.passes = false → r = .error (.validation check.complaint))
    (hpasses : check.passes = true → ∃ a, r = .ok a ∧ Prepares checks attachments Q (f a)) :
    Prepares (check :: checks) attachments Q (Registering.check r >>= f) := by
  intro s
  -- A check that fails ends the preparation before anything is staged.
  cases hcheck : check.passes with
  | false =>
    rw [hfails hcheck]
    exact .refused (by rw [List.find?_cons, hcheck]; rfl)
  | true =>
    obtain ⟨a, rfl, hf⟩ := hpasses hcheck
    exact (hf s).cons_check hcheck

/-- What follows `halfSize` knows the length of the buffer as a half word. -/
theorem prepares_halfSize {what : SizedBuffer} {buffer : Bytes} {f : UInt16 → Registering σ β}
    (hf : ∀ n : UInt16, n.toNat = buffer.length → Prepares checks attachments Q (f n)) :
    Prepares (halfCheck what buffer :: checks) attachments Q
      (Registering.check (halfSize what buffer) >>= f) := by
  refine prepares_check (fun hlarge => ?_) fun hfits => ?_
  · rw [halfSize, if_neg (of_decide_eq_false hlarge)]
    rfl
  · have hsize : (UInt16.ofNat buffer.length).toNat = buffer.length :=
      UInt16.toNat_ofNat_of_lt' (of_decide_eq_true hfits)
    exact ⟨_, halfSize_eq_ok_iff.mpr hsize, hf _ hsize⟩

/-- What follows `wordSize` knows the length of the buffer as a word. -/
theorem prepares_wordSize {what : SizedBuffer} {buffer : Bytes} {f : UInt32 → Registering σ β}
    (hf : ∀ n : UInt32, n.toNat = buffer.length → Prepares checks attachments Q (f n)) :
    Prepares (wordCheck what buffer :: checks) attachments Q
      (Registering.check (wordSize what buffer) >>= f) := by
  refine prepares_check (fun hlarge => ?_) fun hfits => ?_
  · rw [wordSize, if_neg (of_decide_eq_false hlarge)]
    rfl
  · have hlt : buffer.length < UInt32.size := of_decide_eq_true hfits
    rw [wordSize, if_pos hlt]
    exact ⟨_, rfl, hf _ (UInt32.toNat_ofNat_of_lt' hlt)⟩

/-- What follows a `demand` of the arguments may rely on it. -/
theorem prepares_demand {condition : Bool} {complaint : Complaint} {f : Unit → Registering σ β}
    (hf : condition = true → Prepares checks attachments Q (f ())) :
    Prepares (⟨condition, complaint⟩ :: checks) attachments Q (demand condition complaint >>= f) := by
  intro s
  cases condition with
  | false => exact .complains
  | true => exact (hf rfl s).cons_check rfl

/-- **What follows the registration of a buffer**: an empty one is passed over, and the transport may
refuse any other. -/
theorem prepares_register {attachment : Attachment} {f : Option Address → Registering σ β}
    (hf : ∀ address, Prepares [] attachments (fun b rest => Q b (⟨attachment, address⟩ :: rest))
      (f address)) :
    Prepares [] (attachment :: attachments) Q
      (register attachment.buffer attachment.use >>= f) := by
  intro s
  -- What the rest does behind this buffer, registered or left out.
  have hrest {address : Option Address} {t : σ}
      (hfirst : ∀ {rest : List Placement} {u : σ}, Placed t rest u →
        Placed s (⟨attachment, address⟩ :: rest) u) :
      Preparation [] (attachment :: attachments) Q s ((f address).run t) := by
    have hs := hf address t
    generalize (f address).run t = outcome at hs ⊢
    cases hs with
    | refused hfails => cases hfails
    | prepared hchecks hplaced hattachments hq =>
      exact .prepared hchecks (hfirst hplaced) (congrArg (attachment :: ·) hattachments) hq
    | brokeOff hchecks hplaced hattachments hne hfails =>
      exact .brokeOff hchecks (hfirst hplaced) (congrArg (attachment :: ·) hattachments) hne hfails
  unfold register
  cases hempty : attachment.buffer.isEmpty with
  | true =>
    exact hrest (t := s) fun hplaced => .leftOut (List.isEmpty_iff.mp hempty) hplaced
  | false =>
    have hne : attachment.buffer ≠ [] := by
      rw [← List.isEmpty_eq_false_iff]
      exact hempty
    rw [if_neg Bool.false_ne_true, run_bind]
    dsimp only [ExceptT.run, ExceptT.mk]
    cases hd : Transport.dataBuffer s attachment.buffer attachment.use with
    | mk result t =>
      cases result with
      | error e => exact .brokeOff nofun (.nil s) rfl hne hd
      | ok address => exact hrest fun hplaced => .staged hne hd hplaced

end

/-- What prepares places its buffers, if its complaints are about the arguments and not about messages. -/
theorem Prepares.places {checks : List ArgumentCheck} {attachments : List Attachment}
    {Q : α → List Placement → Prop} {x : Registering σ α} (h : Prepares checks attachments Q x)
    (hchecks : ∀ check ∈ checks, (ClientError.validation check.complaint).isFraming = false) :
    Places Q x := by
  intro s
  have hs := h s
  generalize x.run s = outcome at hs
  cases hs with
  | @refused check hfails =>
    refine ⟨nofun, fun e he => ?_⟩
    cases he
    exact hchecks check (List.mem_of_find?_eq_some hfails)
  | @prepared a placements t _ hplaced _ hq =>
    refine ⟨fun b hb => ?_, nofun⟩
    cases hb
    exact ⟨placements, hplaced, hq⟩
  | brokeOff =>
    refine ⟨nofun, fun e he => ?_⟩
    cases he
    rfl

end Registering

/-! ## (4) Each preparation -/

/-- **Some buffers are as a request says**, and its output is the one that was registered as an output. -/
structure Describes (arguments : Arguments) (mentions : List Mention) (output : Option Address)
    (placements : List Placement) : Prop where
  described : List.Forall₂ Placement.Described placements mentions
  output : OutputPlaced arguments placements output

/-- **A `Prepared` request describes the buffers of its arguments.** -/
def Prepared.Describes {flavor : Flavor} {c : Command} (p : Prepared flavor c) (arguments : Arguments)
    (placements : List Placement) : Prop :=
  SecureEngine.Describes arguments (c.mentions p.request) p.output placements

/-- **A `Prepared` request accords with its arguments**: it names their buffers, and describes them. -/
def Prepared.Accords {flavor : Flavor} {c : Command} (p : Prepared flavor c) (arguments : Arguments)
    (placements : List Placement) : Prop :=
  p.Attaches arguments placements ∧ p.Describes arguments placements

section

open Registering Place

variable {σ : Type} [Transport σ] {flavor : Flavor} (handle : UInt32)

/-- Generating a key with `generateKey` checks the size of the public key buffer, stages it as an output,
and names it in the request. -/
theorem prepares_prepareGeneration (a : KeyGeneration) :
    Prepares (σ := σ) (Command.generateKey.checks (.generateKey a))
      (Command.generateKey.attachments (.generateKey a))
      (fun p placements => Attached (.generateKey a) (Command.generateKey.attachments (.generateKey a))
          [⟨p.1.outputAddress.toUInt64, p.1.outputSize.toNat, true⟩] p.2 placements ∧
        Describes (.generateKey a) [⟨.low p.1.outputAddress, some p.1.outputSize.toNat⟩] p.2 placements)
      (prepareGeneration handle a) := by
  unfold prepareGeneration
  refine prepares_halfSize fun outputSize hsize => ?_
  refine prepares_register fun output => prepares_pure ⟨⟨rfl, ?_, by simp, .one rfl rfl rfl⟩, ?_⟩
  · rw [hsize]
    rfl
  · exact ⟨.cons ⟨names_low _, hsize, rfl⟩ .nil, .one rfl rfl rfl⟩

/-- Importing a key with `importKey` checks the size of its material, stages it, and names it in the
request. -/
theorem prepares_prepareImport (a : KeyImport) :
    Prepares (σ := σ) (Command.importKey.checks (.importKey a))
      (Command.importKey.attachments (.importKey a))
      (fun m => (Prepared.ofRequest m : Prepared flavor .importKey).Accords (.importKey a))
      (prepareImport handle a) := by
  unfold prepareImport
  refine prepares_halfSize fun inputSize hsize => ?_
  refine prepares_register fun input => prepares_pure ⟨⟨rfl, ?_, by simp, .none rfl⟩, ?_⟩
  · simp only [Prepared.ofRequest, Command.references, hsize]
    rfl
  · exact ⟨.cons ⟨names_low _, hsize, rfl⟩ .nil, .none rfl⟩

/-- Installing a wrapped key with `manageKey` checks its size, stages it, and names it in the request. -/
theorem prepares_prepareInstallation (a : KeyInstallation) :
    Prepares (σ := σ) (Command.manageKey.checks (.manageKey a))
      (Command.manageKey.attachments (.manageKey a))
      (fun m => (Prepared.ofRequest m : Prepared flavor .manageKey).Accords (.manageKey a))
      (prepareInstallation handle a) := by
  unfold prepareInstallation
  refine prepares_halfSize fun inputSize hsize => ?_
  refine prepares_register fun input => prepares_pure ⟨⟨rfl, ?_, by simp, .none rfl⟩, ?_⟩
  · simp only [Prepared.ofRequest, Command.references, hsize]
    rfl
  · exact ⟨.cons ⟨names_low _, hsize, rfl⟩ .nil, .none rfl⟩

/-- A `MacOperation` stages its payload and its MAC; the MAC is an output just if it is to be
generated. -/
theorem prepares_prepareMac (a : MacOperation) :
    Prepares (σ := σ) (Command.mac.checks (.mac a)) (Command.mac.attachments (.mac a))
      (fun p => (Prepared.ofPair p : Prepared flavor .mac).Accords (.mac a))
      (prepareMac handle a) := by
  unfold prepareMac
  refine prepares_halfSize fun payloadSize hpayload => ?_
  refine prepares_halfSize fun macSize hmac => ?_
  refine prepares_register fun payload => ?_
  refine prepares_register fun mac => ?_
  -- The MAC is written or compared.
  have houtput : OutputPlaced (.mac a)
      [⟨{ buffer := a.payload, use := { input := true } }, payload⟩,
        ⟨{ buffer := a.mac, use := { input := !a.isGeneration, output := a.isGeneration } }, mac⟩]
      (if a.isGeneration then mac else none) := by
    cases ha : a.isGeneration with
    | true => exact .one rfl rfl rfl
    | false => exact .none rfl
  refine prepares_pure ⟨⟨rfl, ?_, by simp, houtput⟩, ?_, houtput⟩
  · simp only [Prepared.ofPair, Command.references, hpayload, hmac]
    rfl
  · exact .cons ⟨names_low _, hpayload, rfl⟩ (.cons ⟨names_low _, hmac, rfl⟩ .nil)

/-- A `CipherOperation` checks three sizes before it stages the initial block, the input and the
output. -/
theorem prepares_prepareCipher (a : CipherOperation) :
    Prepares (σ := σ) (Command.cipher.checks (.cipher a)) (Command.cipher.attachments (.cipher a))
      (fun p => (Prepared.ofPair p : Prepared flavor .cipher).Accords (.cipher a))
      (prepareCipher handle a) := by
  unfold prepareCipher
  refine prepares_halfSize fun ivSize hiv => ?_
  refine prepares_wordSize fun inputSize hinput => ?_
  refine prepares_wordSize fun outputSize houtput => ?_
  refine prepares_register fun iv => ?_
  refine prepares_register fun input => ?_
  refine prepares_register fun output => prepares_pure ⟨⟨rfl, ?_, by simp, .one rfl rfl rfl⟩, ?_⟩
  · simp only [Prepared.ofPair, Command.references, hiv, hinput, houtput]
    rfl
  · refine ⟨.cons ⟨names_low _, hiv, rfl⟩ (.cons ⟨names_low _, hinput, rfl⟩ ?_), .one rfl rfl rfl⟩
    exact .cons ⟨names_low _, houtput, rfl⟩ .nil

/-- A `HashOperation` stages its message and the output, after both sizes have been checked. -/
theorem prepares_prepareHash (a : HashOperation) :
    Prepares (σ := σ) (Command.hash.checks (.hash a)) (Command.hash.attachments (.hash a))
      (fun p => (Prepared.ofPair p : Prepared flavor .hash).Accords (.hash a))
      (prepareHash handle a) := by
  unfold prepareHash
  refine prepares_wordSize fun inputSize hinput => ?_
  refine prepares_wordSize fun outputSize houtput => ?_
  refine prepares_register fun input => ?_
  refine prepares_register fun output => prepares_pure ⟨⟨rfl, ?_, by simp, .one rfl rfl rfl⟩, ?_⟩
  · simp only [Prepared.ofPair, Command.references, hinput, houtput]
    rfl
  · refine ⟨.cons ⟨names_low _, hinput, rfl⟩ ?_, .one rfl rfl rfl⟩
    exact .cons ⟨names_low _, houtput, rfl⟩ .nil

/-- Both layouts of a signing request say the same of the buffers: `Place.Names` holds of their fields
alike. -/
theorem prepares_prepareSigning (a : SignOperation) :
    Prepares (σ := σ) (Command.sign.checks (.sign a)) (Command.sign.attachments (.sign a))
      (fun p => p.Accords (.sign a)) (prepareSigning flavor handle a) := by
  unfold prepareSigning
  refine prepares_wordSize fun messageSize hmessage => ?_
  refine prepares_halfSize fun signatureSize hsignature => ?_
  refine prepares_register fun message => ?_
  refine prepares_register fun signature => ?_
  -- The two shapes of the request name the same buffers with the same sizes.
  cases flavor with
  | legacy | psa =>
    refine prepares_pure ⟨⟨rfl, ?_, by simp, .one rfl rfl rfl⟩, ?_⟩
    · simp only [Command.references, hmessage, hsignature]
      rfl
    · refine ⟨.cons ⟨names_low _, hmessage, rfl⟩ ?_, .one rfl rfl rfl⟩
      exact .cons ⟨names_low _, hsignature, rfl⟩ .nil

/-- Checking a signature with `verify` stages the key, the message and the signature, none of them as an
output. -/
theorem prepares_prepareVerification (a : VerifyOperation) :
    Prepares (σ := σ) (Command.verify.checks (.verify a)) (Command.verify.attachments (.verify a))
      (fun m => (Prepared.ofRequest m : Prepared flavor .verify).Accords (.verify a))
      (prepareVerification handle a) := by
  unfold prepareVerification
  refine prepares_halfSize fun keySize hkey => ?_
  refine prepares_halfSize fun signatureSize hsignature => ?_
  refine prepares_wordSize fun messageSize hmessage => ?_
  refine prepares_register fun key => ?_
  refine prepares_register fun message => ?_
  refine prepares_register fun signature => prepares_pure ⟨⟨rfl, ?_, by simp, .none rfl⟩, ?_⟩
  · simp only [Prepared.ofRequest, Command.references, hkey, hmessage, hsignature]
    rfl
  · refine ⟨.cons ⟨names_low _, hkey, rfl⟩ (.cons ⟨names_low _, hmessage, rfl⟩ ?_), .none rfl⟩
    exact .cons ⟨names_low _, hsignature, rfl⟩ .nil

/-- A `random` request stages its output, whose size has to fit a half word. -/
theorem prepares_prepareRandom (output : Bytes) :
    Prepares (σ := σ) (Command.random.checks (.random output))
      (Command.random.attachments (.random output))
      (fun p => (Prepared.ofPair p : Prepared flavor .random).Accords (.random output))
      (prepareRandom handle output) := by
  unfold prepareRandom
  refine prepares_wordSize fun size hsize => ?_
  refine prepares_register fun address => prepares_pure ⟨⟨rfl, ?_, by simp, .one rfl rfl rfl⟩, ?_⟩
  · simp only [Prepared.ofPair, Command.references, hsize]
    rfl
  · exact ⟨.cons ⟨names_low _, hsize, rfl⟩ .nil, .one rfl rfl rfl⟩

/-- The MAC of these requests has a fixed size, which they do not tell: the check on it is all that
`Mention` has. -/
theorem prepares_prepareSheGenerateMac (a : SheMacGeneration) :
    Prepares (σ := σ) (Command.sheGenerateMac.checks (.sheGenerateMac a))
      (Command.sheGenerateMac.attachments (.sheGenerateMac a))
      (fun p => (Prepared.ofPair p : Prepared flavor .sheGenerateMac).Accords (.sheGenerateMac a))
      (prepareSheGenerateMac a) := by
  unfold prepareSheGenerateMac
  refine prepares_demand fun hmac => ?_
  refine prepares_halfSize fun messageSize hmessage => ?_
  refine prepares_register fun message => ?_
  refine prepares_register fun mac => prepares_pure ⟨⟨rfl, ?_, by simp, .one rfl rfl rfl⟩, ?_⟩
  · simp only [Prepared.ofPair, Command.references, hmessage, Engine.sheSize, ← eq_of_beq hmac]
    rfl
  · refine ⟨.cons ⟨names_short _, hmessage, rfl⟩ ?_, .one rfl rfl rfl⟩
    exact .cons ⟨names_short _, (eq_of_beq hmac).symm, rfl⟩ .nil

/-- Checking a SHE MAC with `sheVerifyMac` stages the message and the tag, and names them in the short
form. -/
theorem prepares_prepareSheVerifyMac (a : SheMacVerification) :
    Prepares (σ := σ) (Command.sheVerifyMac.checks (.sheVerifyMac a))
      (Command.sheVerifyMac.attachments (.sheVerifyMac a))
      (fun m => (Prepared.ofRequest m : Prepared flavor .sheVerifyMac).Accords (.sheVerifyMac a))
      (prepareSheVerifyMac a) := by
  unfold prepareSheVerifyMac
  refine prepares_demand fun hmac => ?_
  refine prepares_demand fun hlength => ?_
  refine prepares_halfSize fun messageSize hmessage => ?_
  refine prepares_register fun message => ?_
  refine prepares_register fun mac => ?_
  -- Both lengths were checked, so the front that is shown is inside the buffer.
  have hfront : a.macLength.toNat ≤ a.mac.length := by
    rw [eq_of_beq hmac]
    exact UInt8.le_iff_toNat_le.mp (of_decide_eq_true hlength)
  refine prepares_pure ⟨⟨rfl, ?_, by simpa using hfront, .none rfl⟩, ?_⟩
  · simp only [Prepared.ofRequest, Command.references, hmessage]
    rfl
  · refine ⟨.cons ⟨names_short _, hmessage, rfl⟩ ?_, .none rfl⟩
    exact .cons ⟨names_short _, (eq_of_beq hmac).symm, rfl⟩ .nil

/-- Extending the seed of SHE with `sheExtendSeed` stages sixteen bytes and names them by both words of
their address. -/
theorem prepares_prepareSheExtendSeed (entropy : Bytes) :
    Prepares (σ := σ) (Command.sheExtendSeed.checks (.sheExtendSeed entropy))
      (Command.sheExtendSeed.attachments (.sheExtendSeed entropy))
      (fun m => (Prepared.ofRequest m : Prepared flavor .sheExtendSeed).Accords
        (.sheExtendSeed entropy)) (prepareSheExtendSeed entropy) := by
  unfold prepareSheExtendSeed
  refine prepares_demand fun hsize => ?_
  have htold : (UInt32.ofNat entropy.length).toNat = entropy.length := by
    rw [eq_of_beq hsize]
    rfl
  refine prepares_register fun address => prepares_pure ⟨⟨rfl, ?_, by simp, .none rfl⟩, ?_⟩
  · simp only [Prepared.ofRequest, Command.references, htold]
    rfl
  · exact ⟨.cons ⟨names_split _, htold, rfl⟩ .nil, .none rfl⟩

/-- A `sheRandom` request stages its output and names it by both words of its address. -/
theorem prepares_prepareSheRandom (output : Bytes) :
    Prepares (σ := σ) (Command.sheRandom.checks (.sheRandom output))
      (Command.sheRandom.attachments (.sheRandom output))
      (fun p => (Prepared.ofPair p : Prepared flavor .sheRandom).Accords (.sheRandom output))
      (prepareSheRandom output) := by
  unfold prepareSheRandom
  refine prepares_demand fun hsize => ?_
  have htold : (UInt32.ofNat output.length).toNat = output.length := by
    rw [eq_of_beq hsize]
    rfl
  refine prepares_register fun address => prepares_pure ⟨⟨rfl, ?_, by simp, .one rfl rfl rfl⟩, ?_⟩
  · simp only [Prepared.ofPair, Command.references, htold]
    rfl
  · exact ⟨.cons ⟨names_split _, htold, rfl⟩ .nil, .one rfl rfl rfl⟩

/-- A `sheIdentity` request stages the MAC as its only output. -/
theorem prepares_prepareSheIdentity (a : SheIdentification) :
    Prepares (σ := σ) (Command.sheIdentity.checks (.sheIdentity a))
      (Command.sheIdentity.attachments (.sheIdentity a))
      (fun p => (Prepared.ofPair p : Prepared flavor .sheIdentity).Accords (.sheIdentity a))
      (prepareSheIdentity a) := by
  unfold prepareSheIdentity
  refine prepares_demand fun hmac => ?_
  refine prepares_register fun address => prepares_pure ⟨⟨rfl, ?_, by simp, .one rfl rfl rfl⟩, ?_⟩
  · simp only [Prepared.ofPair, Command.references, Engine.sheSize, ← eq_of_beq hmac]
    rfl
  · exact ⟨.cons ⟨names_split _, (eq_of_beq hmac).symm, rfl⟩ .nil, .one rfl rfl rfl⟩

/-- **Every command is prepared in three steps**, its `checks`, its `attachments` and its request, and
what is prepared accords with its arguments. -/
theorem Command.prepares_prepare (c : Command) (arguments : Arguments) :
    Prepares (σ := σ) (c.checks arguments) (c.attachments arguments)
      (fun p => p.Accords arguments) (c.prepare flavor handle arguments) := by
  unfold Command.prepare
  split
  -- No buffers.
  case h_1 | h_2 | h_3 | h_4 | h_5 | h_6 | h_7 | h_11 | h_17 | h_22 | h_25 =>
    exact prepares_pure ⟨⟨rfl, rfl, nofun, .none rfl⟩, .nil, .none rfl⟩
  case h_8 a => exact prepares_map (prepares_prepareGeneration handle a)
  case h_9 a => exact prepares_map (prepares_prepareGeneration handle a)
  case h_10 a => exact prepares_map (prepares_prepareImport handle a)
  case h_12 a => exact prepares_map (prepares_prepareInstallation handle a)
  case h_13 a => exact prepares_map (prepares_prepareMac handle a)
  case h_14 a => exact prepares_map (prepares_prepareCipher handle a)
  case h_15 a => exact prepares_map (prepares_prepareHash handle a)
  case h_16 a => exact prepares_prepareSigning handle a
  case h_18 a => exact prepares_map (prepares_prepareVerification handle a)
  case h_19 a => exact prepares_map (prepares_prepareRandom handle a)
  case h_20 a => exact prepares_map (prepares_prepareSheGenerateMac a)
  case h_21 a => exact prepares_map (prepares_prepareSheVerifyMac a)
  case h_23 a => exact prepares_map (prepares_prepareSheExtendSeed a)
  case h_24 a => exact prepares_map (prepares_prepareSheRandom a)
  case h_26 a => exact prepares_map (prepares_prepareSheIdentity a)
  -- Arguments of another command.
  case h_27 =>
    have hchecks : c.checks arguments = [⟨false, .argumentsMismatch⟩] := by
      unfold Command.checks
      split <;> simp_all
    rw [hchecks]
    exact fun s => .complains

/-! ## (5) Each message -/

/-- The complaints of `Command.checks` are about its arguments, never about a message. -/
theorem Command.isFraming_checks (c : Command) (arguments : Arguments) :
    ∀ check ∈ c.checks arguments, (ClientError.validation check.complaint).isFraming = false := by
  unfold Command.checks
  split
  all_goals repeat first
    | exact List.forall_mem_nil _
    | refine List.forall_mem_cons.mpr ⟨rfl, ?_⟩

/-- **A prepared message names the buffers of its arguments** where they were staged:
`DispatchTable.prepare` gives what `Attaches` them. -/
theorem DispatchTable.places_prepare (table : DispatchTable) (code : UInt8) (room : Nat)
    (arguments : Arguments) :
    Places (σ := σ) (fun p placements => table.get? code = some p.1 ∧ p.2.Attaches arguments placements)
      (table.prepare flavor code handle room arguments) := by
  unfold DispatchTable.prepare
  split
  · rename_i c hc
    refine places_map ?_
    unfold Command.prepareWithin
    refine places_bind ((c.prepares_prepare handle arguments).places (c.isFraming_checks arguments))
      fun p first h => ?_
    -- Whether the request fits is asked for after the staging.
    refine places_demand rfl fun _ => places_pure ⟨hc, ?_⟩
    rw [List.append_nil]
    exact h.1
  · exact places_throw rfl

variable {table : DispatchTable} {code : UInt8} {handle : UInt32} {room : Nat} {arguments : Arguments}
  {s t : σ}

/-- The buffers of a prepared message have been placed, those of its `attachments` and no others. -/
theorem DispatchTable.placed_of_prepare {c : Command} {p : Prepared flavor c}
    (h : (table.prepare flavor code handle room arguments).run s = (.ok ⟨c, p⟩, t)) :
    table.get? code = some c ∧ ∃ placements, Placed s placements t ∧
      p.Attaches arguments placements := by
  obtain ⟨placements, hplaced, hc, hp⟩ := (places_prepare handle table code room arguments s).1 _
    (congrArg Prod.fst h)
  rw [h] at hplaced
  exact ⟨hc, placements, hplaced, hp⟩

/-- No failure to prepare a message is about a message that was not understood. -/
theorem DispatchTable.isFraming_prepare {e : ClientError}
    (h : (table.prepare flavor code handle room arguments).run s = (.error e, t)) :
    e.isFraming = false :=
  (places_prepare handle table code room arguments s).2 e (congrArg Prod.fst h)

end

end SecureEngine
