import SecureEngine.Proofs.Operative
import SecureEngine.Proofs.OutputRoom

/-! # Size checks on either side

Where the engine judges the size of an output, the client has judged it before. The two agree.

* **`Command.lacksRoom`** — what the client judges; **`Command.lacks_iff`** — it judges the request that it
  prepares.
* **`Device.Serves.process_judged`** — how the engine takes it.
* **`Session.ChecksRoom`** — the size check of an operation agrees with the one of the engine;
  **`Session.sizeChecks_agree`** — every one does. -/

namespace SecureEngine

/-! ## (1) What the client judges -/

namespace Command

/-- **Whether the output buffer in some arguments lacks room**, as a client judges before it sends
anything. -/
def lacksRoom : Command → Arguments → Bool
  | .generateKey, .generateKey a | .generateKeyExt, .generateKey a => Session.lacksPublicKeyRoom a
  | .cipher, .cipher a => a.output.length < a.input.length
  | .hash, .hash a => Session.lacksDigestRoom a
  | .sign, .sign a => a.signature.length < a.scheme.signatureSize
  | _, _ => false

variable {flavor : Flavor} {σ : Type} [Transport σ]

open Registering

/-- A request for a new key tells of the buffer for its public key. -/
theorem lacks_prepareGeneration (handle : UInt32) (a : KeyGeneration) :
    Prepares (σ := σ) (Command.generateKey.checks (.generateKey a))
      (Command.generateKey.attachments (.generateKey a))
      (fun p _ => (∃ length, (KeyType.ofCode? p.1.keyType).map KeyType.publicLength = some length ∧
        p.1.outputSize.toNat < length) ↔ Session.lacksPublicKeyRoom a = true)
      (prepareGeneration handle a) := by
  unfold prepareGeneration
  refine prepares_halfSize fun outputSize hsize => prepares_register fun output => prepares_pure ?_
  dsimp only
  rw [hsize, Session.lacksPublicKeyRoom]
  cases KeyType.ofCode? a.keyType with
  | none => simp
  | some keyType =>
    -- Only asymmetric keys have a public key.
    cases hpublic : keyType.publicKeySize? with
    | none => simp [KeyType.publicLength, hpublic]
    | some size => simp [KeyType.publicLength, hpublic]

/-- A cipher request that is prepared lacks room just if the output of its operation does. -/
theorem lacks_prepareCipher (handle : UInt32) (a : CipherOperation) :
    Prepares (σ := σ) (Command.cipher.checks (.cipher a)) (Command.cipher.attachments (.cipher a))
      (fun p _ => Command.cipher.Lacks (Prepared.ofPair p : Prepared flavor .cipher).request ↔
        Command.cipher.lacksRoom (.cipher a) = true) (prepareCipher handle a) := by
  unfold prepareCipher
  refine prepares_halfSize fun ivSize _ => prepares_wordSize fun inputSize hinput => ?_
  refine prepares_wordSize fun outputSize houtput => prepares_register fun iv => ?_
  refine prepares_register fun input => prepares_register fun output => prepares_pure ?_
  rw [lacks_iff_lt rfl]
  simp [outputLength?, Prepared.ofPair, lacksRoom, hinput, houtput]

/-- A `hash` request that is prepared lacks room just if the output of its operation does. -/
theorem lacks_prepareHash (handle : UInt32) (a : HashOperation) :
    Prepares (σ := σ) (Command.hash.checks (.hash a)) (Command.hash.attachments (.hash a))
      (fun p _ => Command.hash.Lacks (Prepared.ofPair p : Prepared flavor .hash).request ↔
        Command.hash.lacksRoom (.hash a) = true) (prepareHash handle a) := by
  unfold prepareHash
  refine prepares_wordSize fun inputSize _ => prepares_wordSize fun outputSize houtput => ?_
  refine prepares_register fun input => prepares_register fun output => prepares_pure ?_
  rw [lacks_iff_lt rfl, lacksRoom, Session.lacksDigestRoom]
  dsimp only [outputLength?, Prepared.ofPair]
  rw [houtput]
  cases HashAlgorithm.ofCode? a.algorithm <;> simp

/-- A signing request that is prepared lacks room just if the buffer of its operation does. -/
theorem lacks_prepareSigning (handle : UInt32) (a : SignOperation) :
    Prepares (σ := σ) (Command.sign.checks (.sign a)) (Command.sign.attachments (.sign a))
      (fun p _ => Command.sign.Lacks p.request ↔ Command.sign.lacksRoom (.sign a) = true)
      (prepareSigning flavor handle a) := by
  unfold prepareSigning
  refine prepares_wordSize fun messageSize _ => prepares_halfSize fun signatureSize hsize => ?_
  refine prepares_register fun message => prepares_register fun signature => prepares_pure ?_
  cases flavor with
  | legacy | psa =>
    rw [lacks_iff_lt rfl]
    simp [outputLength?, lacksRoom, hsize]

/-- **The client judges the request that it prepares**: what the engine calls `Lacks` is what the client
calls `lacksRoom`. -/
theorem lacks_prepare {c : Command} (hc : c.judgesRoom = true) (handle : UInt32) (arguments : Arguments) :
    Places (σ := σ) (fun p _ => c.Lacks p.request ↔ c.lacksRoom arguments = true)
      (c.prepare flavor handle arguments) := by
  unfold prepare
  -- One case for each command that declares an output room.
  split
  case h_8 a | h_9 a =>
    have hlacks := (lacks_prepareGeneration (σ := σ) handle a).places (isFraming_checks _ _)
    exact places_bind hlacks fun p _ h => places_pure ((lacks_iff_lt rfl).trans h)
  case h_14 a => exact places_map ((lacks_prepareCipher handle a).places (isFraming_checks _ _))
  case h_15 a => exact places_map ((lacks_prepareHash handle a).places (isFraming_checks _ _))
  case h_16 a => exact (lacks_prepareSigning handle a).places (isFraming_checks _ _)
  all_goals first
    | cases hc
    | exact places_throw rfl

/-- So does the request of a message: `DispatchTable.prepare` gives one that `Lacks` room just if
`lacksRoom` says so of the arguments. -/
theorem lacks_iff {c : Command} (hc : c.judgesRoom = true) {table : DispatchTable} {code : UInt8}
    {handle : UInt32} {arguments : Arguments} {s t : σ} {p : Prepared flavor c}
    (h : (table.prepare flavor code handle Wire.maxMessageSize arguments).run s = (.ok ⟨c, p⟩, t)) :
    c.Lacks p.request ↔ c.lacksRoom arguments = true := by
  rw [DispatchTable.run_prepare (DispatchTable.placed_of_prepare h).1] at h
  rcases hrun : (c.prepare flavor handle arguments : Registering σ _).run s with ⟨e | q, u⟩
  all_goals
    rw [hrun] at h
    cases h
  obtain ⟨-, -, hlacks⟩ := (lacks_prepare hc handle arguments s).1 p (congrArg Prod.fst hrun)
  exact hlacks

end Command

/-! ## (2) Round trips -/

/-- **A round trip of `process` over an output whose size the engine judges.** If the client finds that
there is room enough, the engine does not say otherwise; if it finds that there is too little, a request
that is sent for all that is refused. -/
theorem Device.Serves.process_judged {channel : Channel} {d : Device} (h : d.Serves channel)
    (hl : channel.table.Lawful) {c : Command} (hc : c.judgesRoom = true) (handle : UInt32)
    (arguments : Arguments) :
    let outcome := (channel.process c.code handle arguments).run d
    (c.lacksRoom arguments = false → outcome.1.1 ≠ .error (.engine Reason.outTooSmall.toError)) ∧
    (c.lacksRoom arguments = true → ∃ e, outcome.1 = (.error e, arguments) ∧
      (outcome.2.log ≠ d.log → ∃ x, e = .engine x)) := by
  intro outcome
  rcases hprepare : (channel.table.prepare channel.flavor c.code handle Wire.maxMessageSize
    arguments).run d with ⟨e | ⟨c', p⟩, t⟩
  · -- Nothing is sent.
    obtain ⟨staged, hs, -, -, hne⟩ := DispatchTable.mirrors_prepare channel.table channel.flavor c.code
      handle Wire.maxMessageSize arguments (⟨d, []⟩ : Recorder Device)
    rw [hprepare] at hs hne
    have houtcome : outcome = ((.error e, arguments), Transport.resetDataBuffers t) := by
      refine (Channel.run_process channel c.code handle arguments d).trans ?_
      rw [hprepare]
    rw [houtcome]
    refine ⟨fun _ he => hne _ (congrArg Except.error (Except.error.inj he)), fun _ => ⟨e, rfl, ?_⟩⟩
    exact fun hsent => absurd (hs.invariant log_dataBuffer) hsent
  · obtain rfl := hl.command_of_get? (DispatchTable.placed_of_prepare hprepare).1
    have hlacks := Command.lacks_iff hc hprepare
    obtain ⟨u, hserved, -⟩ := Device.served hl h hprepare
    have houtcome : ((channel.process c'.code handle arguments).run d).1 = outcome.1 := rfl
    rw [houtcome] at hserved
    generalize outcome = outcome at hserved ⊢
    obtain ⟨result, after⟩ := outcome
    cases hserved with
    | failed hrun =>
      refine ⟨fun hroom he => ?_, fun _ => ⟨_, rfl, fun _ => ⟨_, rfl⟩⟩⟩
      -- Errors of the engine reach the client as they are.
      obtain ⟨-, r, rfl, -⟩ := (Engine.handled p.request t.machine).failed _ (congrArg Prod.fst hrun)
      rw [Reason.ofRating_toError] at he
      have hr := ClientError.engine.inj (Except.error.inj he)
      have hfits : ¬c'.Lacks p.request := fun hlack => by
        rw [hlacks.mp hlack] at hroom
        cases hroom
      rw [hr] at hrun
      exact Engine.avoids_handle hc hfits t.machine _ hrun
    | succeeded hrun hdecode =>
      refine ⟨fun _ => settle_ne_engine rfl _, fun hsmall => ?_⟩
      · obtain ⟨e, rest, hfails⟩ := Engine.fails_handle hc (hlacks.mpr hsmall) t.machine
        cases hfails.symm.trans hrun

/-! ## (3) Sessions -/

namespace Session

variable {s : Session Device} {handle : ServiceHandle} {kind : Service} {c : Command}
  {arguments : Arguments}

/-- **A call of a command whose room the engine judges**: it is `outTooSmall` only if `lacksRoom`, and
then the call fails by the engine if it gets there. -/
theorem call_judged (h : s.transport.Serves s.channel) (hl : s.channel.table.Lawful)
    (hc : c.judgesRoom = true) (handle : ServiceHandle) (kind : Service) (arguments : Arguments) :
    (c.lacksRoom arguments = false →
      (call handle kind c arguments s).1.1 ≠ .error (.engine Reason.outTooSmall.toError)) ∧
    (c.lacksRoom arguments = true → ∃ e, (call handle kind c arguments s).1 = (.error e, arguments) ∧
      ((call handle kind c arguments s).2.transport.log ≠ s.transport.log → ∃ x, e = .engine x)) := by
  -- A handle that does not resolve ends the call before anything is sent.
  cases hservice : s.handles.resolveKind handle (.service kind) with
  | error e =>
    have hcall : call handle kind c arguments s = ((.error e, arguments), s) := by
      unfold call
      rw [hservice]
    obtain rfl := HandleTable.resolveKind_error hservice
    rw [hcall]
    exact ⟨nofun, fun _ => ⟨_, rfl, fun hsent => absurd rfl hsent⟩⟩
  | ok address =>
    rw [call_eq_process hservice, process_eq]
    exact h.process_judged hl hc address arguments

/-- **The size check of an operation agrees with the one of the engine.** The operation makes a call if it
finds that there is room for the output. -/
structure ChecksRoom {α : Type} (s : Session Device) (operation : Operation Device α)
    (handle : ServiceHandle) (kind : Service) (c : Command) (arguments : Arguments)
    (complaint : Complaint) : Prop where
  /-- The engine does not complain about the room. -/
  passed : (operation s).1.1 ≠ .error (.engine Reason.outTooSmall.toError)
  /-- With room enough, the call is made. -/
  made : c.lacksRoom arguments = false → (operation s).2 = (call handle kind c arguments s).2
  /-- With too little, the client refuses, and so would the engine if the call were made. -/
  refused : c.lacksRoom arguments = true →
    operation s = ((.error (.validation complaint), arguments), s) ∧
    ∃ e, (call handle kind c arguments s).1 = (.error e, arguments) ∧
      ((call handle kind c arguments s).2.transport.log ≠ s.transport.log → ∃ x, e = .engine x)

/-- Putting a call behind a check is enough: an operation that complains if `lacksRoom`, and calls
otherwise, `ChecksRoom`. -/
theorem checksRoom_of {α : Type} (h : s.transport.Serves s.channel) (hl : s.channel.table.Lawful)
    (hc : c.judgesRoom = true) {operation made : Operation Device α} {complaint : Complaint}
    (hrefuse : c.lacksRoom arguments = true → operation = refuse complaint arguments)
    (hmake : c.lacksRoom arguments = false → operation = made)
    (hcall : (made s).2 = (call handle kind c arguments s).2)
    (herror : ∀ x, (made s).1.1 = .error (.engine x) →
      (call handle kind c arguments s).1.1 = .error (.engine x)) :
    s.ChecksRoom operation handle kind c arguments complaint := by
  obtain ⟨hpassed, hrefused⟩ := call_judged h hl hc handle kind arguments
  refine ⟨fun he => ?_, fun hroom => ?_, fun hroom => ⟨?_, hrefused hroom⟩⟩
  · cases hroom : c.lacksRoom arguments with
    | true =>
      rw [hrefuse hroom] at he
      cases he
    | false =>
      rw [hmake hroom] at he
      exact hpassed hroom (herror _ he)
  · rw [hmake hroom, hcall]
  · rw [hrefuse hroom]
    rfl

/-- An operation that yields a value fails in the engine only if the call does. -/
theorem engine_of_yielding {α : Type} {operation : Operation Device Unit} {value : Arguments → Option α}
    {x : EngineError} (h : (yielding operation value s).1.1 = .error (.engine x)) :
    (operation s).1.1 = .error (.engine x) := by
  rcases hrun : operation s with ⟨⟨e | _, after⟩, t⟩
  · rw [yielding_error value hrun] at h
    rw [Except.error.inj h]
  · unfold yielding at h
    rw [hrun] at h
    -- A success either has its value or fails with an error of the client.
    cases hvalue : value after with
    | none =>
      dsimp only at h
      rw [hvalue] at h
      cases h
    | some a =>
      dsimp only at h
      rw [hvalue] at h
      cases h

/-- **Client and engine judge sizes alike**: whatever the arguments, what passes the check of the client is
not refused by the engine for its size, and what does not would have been refused. -/
theorem sizeChecks_agree (h : s.transport.Serves s.channel) (hl : s.channel.table.Lawful)
    (handle : ServiceHandle) :
    (∀ a, s.ChecksRoom (cipher handle a) handle .cipher .cipher (.cipher a) .cipherOutputTooSmall) ∧
    (∀ a, s.ChecksRoom (hash handle a) handle .hash .hash (.hash a) .digestBufferTooSmall) ∧
    (∀ a, s.ChecksRoom (generateKey handle a) handle .keyManagement .generateKey (.generateKey a)
      .publicKeyBufferTooSmall) ∧
    (∀ a, s.ChecksRoom (generateKeyExt handle a) handle .keyManagement .generateKeyExt (.generateKey a)
      .publicKeyBufferTooSmall) ∧
    ∀ a, s.ChecksRoom (sign handle a) handle .signatureGeneration .sign (.sign a)
      .signatureBufferTooSmall := by
  -- Each operation makes its check before anything else, so it is what the `if` of its definition asks.
  refine ⟨fun a => ?_, fun a => ?_, fun a => ?_, fun a => ?_, fun a => ?_⟩
  · exact checksRoom_of h hl rfl (fun hroom => if_pos (of_decide_eq_true hroom))
      (fun hroom => if_neg (of_decide_eq_false hroom)) rfl fun _ => engine_of_yielding
  · exact checksRoom_of h hl rfl (fun hroom => if_pos hroom)
      (fun hroom => if_neg (Bool.eq_false_iff.mp hroom)) rfl fun _ => id
  · exact checksRoom_of h hl rfl (fun hroom => if_pos hroom)
      (fun hroom => if_neg (Bool.eq_false_iff.mp hroom)) rfl fun _ => engine_of_yielding
  · exact checksRoom_of h hl rfl (fun hroom => if_pos hroom)
      (fun hroom => if_neg (Bool.eq_false_iff.mp hroom)) rfl fun _ => engine_of_yielding
  · exact checksRoom_of h hl rfl (fun hroom => if_pos (of_decide_eq_true hroom))
      (fun hroom => if_neg (of_decide_eq_false hroom)) rfl fun _ => engine_of_yielding

/-- A client with a cipher service refuses to put two blocks into a buffer for one, and a new device would
have refused as well. -/
theorem sizeChecks_agree_blocks : ∃ s : Session Device,
    s.transport.Serves s.channel ∧ s.channel.table.Lawful ∧
    let a : CipherOperation := ⟨7, [], Bytes.blank 32, Bytes.blank 16, 0, 1, false, 0⟩
    cipher ⟨1, 1, 0⟩ a s = ((.error (.validation .cipherOutputTooSmall), .cipher a), s) ∧
    ∃ x, (call ⟨1, 1, 0⟩ .cipher .cipher (.cipher a) s).1 = (.error (.engine x), .cipher a) := by
  have hstanding := standing_fresh.run (.perform (.openService .cipher) .refl)
  generalize hs : (Instruction.perform (σ := Device) _ _).2 = s at hstanding
  have hready : s.channel.flavor = s.transport.machine.engine.settings.flavor ∧
      s.transport.faults = [] ∧
      (call ⟨1, 1, 0⟩ .cipher .cipher (.cipher ⟨7, [], Bytes.blank 32, Bytes.blank 16, 0, 1, false, 0⟩)
        s).2.transport.log ≠ s.transport.log := by
    rw [← hs]
    decide +kernel
  obtain ⟨hflavor, hfaults, hsent⟩ := hready
  have hserves := hstanding.serves hflavor hfaults
  obtain ⟨hcipher, -⟩ := sizeChecks_agree hserves hstanding.sound.lawful ⟨1, 1, 0⟩
  obtain ⟨hrefused, e, hcall, he⟩ :=
    (hcipher ⟨7, [], Bytes.blank 32, Bytes.blank 16, 0, 1, false, 0⟩).refused (by decide)
  obtain ⟨x, rfl⟩ := he hsent
  exact ⟨s, hserves, hstanding.sound.lawful, hrefused, x, hcall⟩

end Session

end SecureEngine
