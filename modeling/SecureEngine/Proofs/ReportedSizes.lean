import SecureEngine.Proofs.Signatures
import SecureEngine.Proofs.SizeChecks
import SecureEngine.Proofs.Truncation

/-! # Sizes that responses tell

Encrypting and signing return how much was written. The client takes the size from the response as it
stands there, and compares it with nothing.

* **`Command.toldSize?`** — the size of an output that a response tells.
* **`Session.ComesTo`** — a call succeeds, and comes to a size; **`cipher_eq_ok_iff`**,
  **`sign_eq_ok_iff`** — the operations return just these sizes.
* **`Session.toNat_of_cipher`**, **`toNat_of_sign`** — a device tells no other size than what it has
  written.
* **`Session.returnedSizes_told`** — whose word the sizes are; **`Session.exists_overlong`** — nothing keeps them
  inside the buffers. -/

namespace SecureEngine

/-! ## (1) Responses -/

namespace Command

/-- **The size of an output that a response tells.** Legacy firmware tells none of a signature. -/
def toldSize? (flavor : Flavor) : (c : Command) → c.Response flavor → Option Nat
  | .cipher, size => some size.toNat
  | .sign, content =>
    match flavor, content with
    | .legacy, _ => none
    | .psa, content => some content.size.toNat
  | _, _ => none

variable {flavor : Flavor} {bytes : Bytes} {completed : Arguments}

/-- A `CipherOperation` is completed with the size in the response, whatever it is. -/
theorem complete_cipher_eq_ok_iff {a : CipherOperation} :
    Command.cipher.complete flavor bytes (.cipher a) = .ok completed ↔
      ∃ size : UInt32, Command.cipher.decodeResponse flavor bytes = .ok size ∧
        completed = .cipher { a with outputSize := size } := by
  refine bind_eq_ok_iff.trans (exists_congr fun size => and_congr_right fun _ => ?_)
  exact ⟨fun h => (Except.ok.inj h).symm, congrArg Except.ok ∘ Eq.symm⟩

/-- So is a signature, and with the size of its buffer where the response tells none. -/
theorem complete_sign_eq_ok_iff {a : SignOperation}
    (hl : bytes.length = Command.sign.responseSize flavor) :
    Command.sign.complete flavor bytes (.sign a) = .ok completed ↔
      ∃ (content : Command.sign.Response flavor) (size : UInt16),
        Command.sign.decodeResponse flavor bytes = .ok content ∧
        size.toNat = (Command.sign.toldSize? flavor content).getD a.signature.length ∧
        completed = .sign { a with signatureSize := size } := by
  cases flavor with
  | legacy =>
    refine bind_eq_ok_iff.trans ⟨?_, ?_⟩
    · rintro ⟨size, hsize, hcompleted⟩
      exact ⟨_, size, decodeResponse_of_length hl, halfSize_eq_ok_iff.mp hsize,
        (Except.ok.inj hcompleted).symm⟩
    · rintro ⟨content, size, -, hsize, rfl⟩
      exact ⟨size, halfSize_eq_ok_iff.mpr hsize, rfl⟩
  | psa =>
    refine bind_eq_ok_iff.trans ⟨?_, ?_⟩
    · rintro ⟨content, hdecode, hcompleted⟩
      exact ⟨content, content.size, hdecode, rfl, (Except.ok.inj hcompleted).symm⟩
    · rintro ⟨content, size, hdecode, hsize, rfl⟩
      obtain rfl := UInt16.toNat_inj.mp hsize
      exact ⟨content, hdecode, rfl⟩

end Command

/-! ## (2) Sizes of any transport -/

namespace Session

section

variable {σ : Type} [Transport σ] {s : Session σ} {handle : ServiceHandle} {kind : Service} {c : Command}
  {arguments completed : Arguments}

/-- **A call succeeds** just if its service is open and the message to it succeeds. -/
theorem call_eq_ok_iff (hl : s.channel.table.Lawful) :
    (call handle kind c arguments s).1 = (.ok (), completed) ↔
      ∃ (address : UInt32) (p : Prepared s.channel.flavor c) (reply : Bytes) (t : σ) (fetched : Arguments),
        s.handles.resolveKind handle (.service kind) = .ok address ∧
        s.channel.Answered c.code address arguments s.transport p reply t ∧
        s.channel.verdict c.code (s.channel.received c reply) = .ok () ∧
        (Channel.fetch p.output arguments t).1 = .ok fetched ∧
        c.complete s.channel.flavor (s.channel.received c reply) fetched = .ok completed := by
  cases hservice : s.handles.resolveKind handle (.service kind) with
  | error e =>
    unfold call
    rw [hservice]
    exact ⟨nofun, nofun⟩
  | ok address =>
    rw [call_eq_process hservice, process_eq]
    refine Channel.process_eq_ok_iff.trans ⟨?_, ?_⟩
    · rintro ⟨c', p, reply, t, fetched, ha, hrest⟩
      obtain rfl := hl.command_of_get? ha.get?_eq
      exact ⟨address, p, reply, t, fetched, rfl, ha, hrest⟩
    · rintro ⟨_, p, reply, t, fetched, haddress, ha, hrest⟩
      cases haddress
      exact ⟨c, p, reply, t, fetched, ha, hrest⟩

/-- **A call succeeds, and comes to a size.** Its request is answered with a success, and the output is read
back. The size is the one that the response tells, or that of the buffer if it tells none. -/
inductive ComesTo (s : Session σ) (handle : ServiceHandle) (kind : Service) (c : Command)
    (arguments : Arguments) (size : Nat) : Prop
  | intro {address : UInt32} {p : Prepared s.channel.flavor c} {reply : Bytes} {t : σ}
      {fetched : Arguments} {content : c.Response s.channel.flavor}
      (hservice : s.handles.resolveKind handle (.service kind) = .ok address)
      (ha : s.channel.Answered c.code address arguments s.transport p reply t)
      (hverdict : s.channel.verdict c.code (s.channel.received c reply) = .ok ())
      (hfetch : (Channel.fetch p.output arguments t).1 = .ok fetched)
      (hdecode : c.decodeResponse s.channel.flavor (s.channel.received c reply) = .ok content)
      (hsize : size = (c.toldSize? s.channel.flavor content).getD (arguments.output?.getD []).length)

/-- **What a `CipherOperation` returns.** -/
theorem cipher_eq_ok_iff (hl : s.channel.table.Lawful) {a : CipherOperation} {n : UInt32} :
    (cipher handle a s).1.1 = .ok n ↔
      a.input.length ≤ a.output.length ∧ s.ComesTo handle .cipher .cipher (.cipher a) n.toNat := by
  unfold cipher
  by_cases hsmall : a.output.length < a.input.length
  · rw [if_pos hsmall]
    exact ⟨nofun, fun h => absurd hsmall (Nat.not_lt.mpr h.1)⟩
  rw [if_neg hsmall, and_iff_right (Nat.not_lt.mp hsmall)]
  refine yielding_eq_ok_iff.trans ⟨?_, ?_⟩
  · rintro ⟨completed, hcall, hvalue⟩
    obtain ⟨_, _, _, _, _, hservice, ha, hverdict, hfetch, hcomplete⟩ := (call_eq_ok_iff hl).mp hcall
    obtain ⟨_, -, rfl⟩ := Channel.fetch_eq_withOutput rfl hfetch
    obtain ⟨size, hdecode, rfl⟩ := Command.complete_cipher_eq_ok_iff.mp hcomplete
    cases hvalue
    exact ⟨hservice, ha, hverdict, hfetch, hdecode, rfl⟩
  · rintro ⟨hservice, ha, hverdict, hfetch, hdecode, hsize⟩
    obtain ⟨_, -, rfl⟩ := Channel.fetch_eq_withOutput rfl hfetch
    refine ⟨_, (call_eq_ok_iff hl).mpr ⟨_, _, _, _, _, hservice, ha, hverdict, hfetch,
      Command.complete_cipher_eq_ok_iff.mpr ⟨_, hdecode, rfl⟩⟩, ?_⟩
    exact congrArg some (UInt32.toNat_inj.mp hsize.symm)

/-- **What signing returns**: `Session.sign` succeeds with a size just if the room is enough for the
scheme, and the exchange `ComesTo` that size. -/
theorem sign_eq_ok_iff (hl : s.channel.table.Lawful) {a : SignOperation} {n : UInt16} :
    (sign handle a s).1.1 = .ok n ↔ a.scheme.signatureSize ≤ a.signature.length ∧
      s.ComesTo handle .signatureGeneration .sign (.sign a) n.toNat := by
  unfold sign
  by_cases hsmall : a.signature.length < a.scheme.signatureSize
  · rw [if_pos hsmall]
    exact ⟨nofun, fun h => absurd hsmall (Nat.not_lt.mpr h.1)⟩
  rw [if_neg hsmall, and_iff_right (Nat.not_lt.mp hsmall)]
  refine yielding_eq_ok_iff.trans ⟨?_, ?_⟩
  · rintro ⟨completed, hcall, hvalue⟩
    obtain ⟨_, _, reply, _, _, hservice, ha, hverdict, hfetch, hcomplete⟩ := (call_eq_ok_iff hl).mp hcall
    -- Reading back fills the buffer and keeps its length, which the legacy flavor reports.
    obtain ⟨signature, hlength, rfl⟩ := Channel.fetch_eq_withOutput rfl hfetch
    obtain ⟨content, size, hdecode, hsize, rfl⟩ :=
      (Command.complete_sign_eq_ok_iff (s.channel.length_received .sign reply)).mp hcomplete
    cases hvalue
    rw [hlength] at hsize
    exact ⟨hservice, ha, hverdict, hfetch, hdecode, hsize⟩
  · rintro ⟨hservice, ha, hverdict, hfetch, hdecode, hsize⟩
    obtain ⟨signature, hlength, rfl⟩ := Channel.fetch_eq_withOutput rfl hfetch
    refine ⟨_, (call_eq_ok_iff hl).mpr ⟨_, _, _, _, _, hservice, ha, hverdict, hfetch,
      (Command.complete_sign_eq_ok_iff (s.channel.length_received .sign _)).mpr
        ⟨_, n, hdecode, ?_, rfl⟩⟩, rfl⟩
    rw [hlength]
    exact hsize

/-- Legacy firmware is asked for nothing that it could get wrong: `Session.sign` then returns the length
of the buffer. -/
theorem toNat_of_sign_legacy (hl : s.channel.table.Lawful) (hlegacy : s.channel.flavor = .legacy)
    {a : SignOperation} {n : UInt16} (h : (sign handle a s).1.1 = .ok n) :
    n.toNat = a.signature.length := by
  obtain ⟨-, @⟨_, _, _, _, _, content, -, -, -, -, -, hsize⟩⟩ := (sign_eq_ok_iff hl).mp h
  have hnone : ∀ (flavor : Flavor) (content : Command.sign.Response flavor), flavor = .legacy →
      Command.sign.toldSize? flavor content = none := by
    rintro _ _ rfl
    rfl
  rw [hsize, hnone _ content hlegacy]
  rfl

end

end Session

/-! ## (3) Sizes of a device -/

namespace Handling

variable {α β : Type} {p : β → Prop}

/-- **Whatever a computation yields** has a property: every value that it succeeds with, on every
`Machine`. -/
def Yields (p : β → Prop) (x : Handling β) : Prop := ∀ m b after, x.run m = (.ok b, after) → p b

/-- Returning a value yields what it meets, so `Yields` holds of a `pure`. -/
theorem yields_pure {b : β} (h : p b) : Yields p (pure b) := by
  intro m b' after hrun
  cases hrun
  exact h

/-- What comes before the last step has no part in it: `Yields` only looks at the values of the second
part. -/
theorem yields_bind {x : Handling α} {f : α → Handling β} (hf : ∀ a, Yields p (f a)) :
    Yields p (x >>= f) := by
  intro m b after hrun
  obtain ⟨a, t, -, hrest⟩ := run_bind_eq_ok_iff.mp hrun
  exact hf a t b after hrest

end Handling

open Handling in
/-- **A `Cipher` request yields the size of its input.** -/
theorem Engine.yields_cipher (m : Wire.Cipher) : Yields (· = m.inputSize) (cipher m) := by
  refine yields_bind fun key => yields_bind fun _ => yields_bind fun direction => yields_bind fun _ => ?_
  refine yields_bind fun data => yields_bind fun mode => ?_
  have hrest (iv : Bytes) : Yields (· = m.inputSize) (do
      let result ← lift (mode.apply direction key.material iv data)
      store m.outputAddress.toUInt64 result
      return m.inputSize) :=
    yields_bind fun _ => yields_bind fun _ => yields_pure rfl
  cases mode with
  | ecb | cbc => exact yields_bind hrest

/-- **A round trip of `process` that succeeds** is completed from what the handler has yielded. -/
theorem Device.Serves.completed_of_process {channel : Channel} {d : Device} (h : d.Serves channel)
    (hl : channel.table.Lawful) {c : Command} {handle : UInt32} {arguments completed : Arguments}
    (hok : ((channel.process c.code handle arguments).run d).1 = (.ok (), completed)) :
    ∃ (p : Prepared channel.flavor c) (t : Device) (content : c.Response channel.flavor)
      (after : Machine) (response : Bytes) (fetched : Arguments),
      (channel.table.prepare channel.flavor c.code handle Wire.maxMessageSize arguments).run d =
        (.ok ⟨c, p⟩, t) ∧
      (Engine.handle channel.flavor c p.request).run t.machine = (.ok content, after) ∧
      c.decodeResponse channel.flavor response = .ok content ∧
      (∃ u : Device, (Channel.fetch p.output arguments u).1 = .ok fetched) ∧
      c.complete channel.flavor response fetched = .ok completed := by
  obtain ⟨c', p, _, _, _, ⟨t, hprepare, -⟩, -⟩ := Channel.process_eq_ok_iff.mp hok
  have hget := (DispatchTable.placed_of_prepare hprepare).1
  obtain rfl := hl.command_of_get? hget
  obtain ⟨u, hserved, -⟩ := Device.served hl h hprepare
  rw [hok] at hserved
  generalize houtcome : ((Except.ok (), completed) : Except ClientError Unit × Arguments) = outcome at hserved
  cases hserved with
  | failed => cases houtcome
  | succeeded hrun hdecode =>
    rename_i content after log response
    rw [Channel.settle_eq_fetch] at houtcome
    rcases hfetch : Channel.fetch p.output arguments ({ t with machine := after, log } : Device) with
      ⟨e | fetched, v⟩
    all_goals rw [hfetch] at houtcome
    · cases houtcome
    · exact ⟨p, t, content, after, response, fetched, hprepare, hrun, hdecode,
        ⟨_, congrArg Prod.fst hfetch⟩, (Channel.conclude_eq_ok_iff hget).mp houtcome.symm⟩

namespace Session

variable {s : Session Device} {handle : ServiceHandle}

/-- **A device tells the size of what it has encrypted**, which is that of the input. -/
theorem toNat_of_cipher (h : s.transport.Serves s.channel) (hl : s.channel.table.Lawful)
    {a : CipherOperation} {n : UInt32} (hn : (cipher handle a s).1.1 = .ok n) :
    n.toNat = a.input.length := by
  unfold cipher at hn
  split at hn
  · cases hn
  obtain ⟨completed, hcall, hvalue⟩ := yielding_eq_ok_iff.mp hn
  obtain ⟨address, -, -, -, -, hservice, -⟩ := (call_eq_ok_iff hl).mp hcall
  rw [call_eq_process hservice, process_eq] at hcall
  obtain ⟨p, t, size, after, response, fetched, hprepare, hrun, hdecode, ⟨_, hfetch⟩, hcomplete⟩ :=
    h.completed_of_process hl hcall
  obtain ⟨_, -, rfl⟩ := Channel.fetch_eq_withOutput rfl hfetch
  obtain ⟨size', hdecode', rfl⟩ := Command.complete_cipher_eq_ok_iff.mp hcomplete
  cases hvalue
  obtain rfl := Except.ok.inj (hdecode.symm.trans hdecode')
  -- The request tells the size of the input, and so does the response.
  obtain ⟨-, placements, -, hattaches⟩ := DispatchTable.placed_of_prepare hprepare
  have hsizes := hattaches.sizes_eq
  have hinput : p.request.inputSize.toNat = a.input.length :=
    (List.cons.inj (List.cons.inj hsizes).2).1
  rw [Engine.yields_cipher p.request t.machine size after hrun]
  exact hinput

/-- **A device tells the size of a signature**, which is that of its scheme. -/
theorem toNat_of_sign (h : s.transport.Serves s.channel) (hl : s.channel.table.Lawful)
    {a : SignOperation} {n : UInt16} (hn : (sign handle a s).1.1 = .ok n) :
    n.toNat = match s.channel.flavor with
      | .legacy => a.signature.length
      | .psa => a.scheme.signatureSize := by
  -- The session is one of the pair that `exists_alike` compares.
  have hsame := withFlavors_self h.flavor_eq
  obtain ⟨-, -, halike⟩ := exists_alike hl handle a
  cases halike with
  | failed e hfailed =>
    have hfails := hfailed s.channel.flavor
    rw [hsame] at hfails
    rw [hfails] at hn
    cases hn
  | succeeded signature m hsigned hlegacy hpsa =>
    have hsign := hsigned s.channel.flavor
    rw [hsame] at hsign
    rw [hsign] at hn
    obtain rfl := Except.ok.inj hn
    dsimp only [id]
    cases s.channel.flavor with
    | legacy => exact hlegacy
    | psa => exact hpsa

end Session

/-! ## (4) Whose word it is -/

/-- **A success with a word**: a header, a response code and the word, as firmware with the unit of the
`Channel` could send it. -/
def Channel.wordSuccess (channel : Channel) (code : UInt8) (word : UInt32) : Bytes :=
  Wire.Message.encode (Wire.header channel.unit.version channel.unit.responseTag code
    (Command.statusSize + 4)) ++ Bytes.ofWord ResponseCode.success ++ Bytes.ofWord word

namespace Session

/-- **A session with one service open** on its key store, and an engine that says the same to everything. -/
def hearing (channel : Channel) (kind : Service) (reply : Bytes) : Session Playback where
  transport := { reply }
  channel
  identifier := 1
  keyStore := some ⟨1, 0, 0⟩
  handles :=
    { id := 1
      slots := [⟨0, .active ⟨.keyStore, 2, none⟩ 1⟩, ⟨0, .active ⟨.service kind, 3, some ⟨1, 0, 0⟩⟩ 2⟩]
      capacity := 2
      opened := 2 }

/-- **The sizes that operations return are the word of the engine.** Whatever the transport and the state of
the session, an operation returns a size just if its buffer passes the check for it, and the call succeeds
and comes to that size: nothing else is asked of it. With legacy firmware a signature counts as long as its
buffer, and a device that serves the session does not tell of more than there is room for. -/
theorem returnedSizes_told {σ : Type} [Transport σ] {s : Session σ} (hl : s.channel.table.Lawful)
    (handle : ServiceHandle) :
    (∀ a n, (cipher handle a s).1.1 = .ok n ↔ a.input.length ≤ a.output.length ∧
      s.ComesTo handle .cipher .cipher (.cipher a) n.toNat) ∧
    (∀ a n, (sign handle a s).1.1 = .ok n ↔ a.scheme.signatureSize ≤ a.signature.length ∧
      s.ComesTo handle .signatureGeneration .sign (.sign a) n.toNat) ∧
    (s.channel.flavor = .legacy →
      ∀ a n, (sign handle a s).1.1 = .ok n → n.toNat = a.signature.length) ∧
    ∀ t : Session Device, t.transport.Serves t.channel → t.channel.table.Lawful →
      (∀ a n, (cipher handle a t).1.1 = .ok n → n.toNat ≤ a.output.length) ∧
      ∀ a n, (sign handle a t).1.1 = .ok n → n.toNat ≤ a.signature.length := by
  refine ⟨fun a n => cipher_eq_ok_iff hl, fun a n => sign_eq_ok_iff hl,
    fun hlegacy a n => toNat_of_sign_legacy hl hlegacy, fun t ht hlt => ⟨fun a n hn => ?_, fun a n hn => ?_⟩⟩
  · rw [toNat_of_cipher ht hlt hn]
    exact ((cipher_eq_ok_iff hlt).mp hn).1
  · have hroom := ((sign_eq_ok_iff hlt).mp hn).1
    rw [toNat_of_sign ht hlt hn]
    cases t.channel.flavor with
    | legacy => exact Nat.le_refl _
    | psa => exact hroom

/-- What an engine says of a block is believed, and a new device tells the truth of it. -/
theorem returnedSizes_told_block :
    let channel : Channel := ⟨.enabling [.full], .standard, .psa⟩
    let a : CipherOperation := ⟨7, [], Bytes.blank 16, Bytes.blank 16, 0, 1, false, 0⟩
    let s := hearing channel .cipher (channel.wordSuccess Command.cipher.code 0xFFFFFFFF)
    s.channel.table.Lawful ∧ s.ComesTo ⟨1, 1, 0⟩ .cipher .cipher (.cipher a) 0xFFFFFFFF ∧
    ∃ t : Session Device, t.transport.Serves t.channel ∧ t.channel.table.Lawful ∧
      ∃ n, (cipher ⟨1, 2, 0⟩ a t).1.1 = .ok n ∧ n.toNat ≤ a.output.length := by
  intro channel a s
  have hl : s.channel.table.Lawful := DispatchTable.lawful_enabling _
  have htold : (cipher ⟨1, 1, 0⟩ a s).1.1 = .ok 0xFFFFFFFF := by decide +kernel
  refine ⟨hl, (((returnedSizes_told hl ⟨1, 1, 0⟩).1 a _).mp htold).2, ?_⟩
  have hstanding := standing_fresh.run (run_keyed fresh ⟨7, [], 2, KeyType.aes128.code, 0, 0, 0⟩ .cipher)
  -- For the second half, a session on a device, with the key in place.
  generalize ht : keyed _ _ _ = t at hstanding
  have hready : t.channel.flavor = t.transport.machine.engine.settings.flavor ∧
      t.transport.faults = [] ∧ (cipher ⟨1, 2, 0⟩ a t).1.1 = .ok 16 := by
    rw [← ht]
    decide +kernel
  obtain ⟨hflavor, hfaults, hcipher⟩ := hready
  have hserves := hstanding.serves hflavor hfaults
  have hlt := hstanding.sound.lawful
  exact ⟨t, hserves, hlt, 16, hcipher,
    ((returnedSizes_told hlt ⟨1, 2, 0⟩).2.2.2 t hserves hlt).1 a 16 hcipher⟩

/-- **Nothing keeps the sizes inside the buffers.** An engine tells of four gigabytes that it has written to
sixteen bytes, and of a signature of 65535 bytes in a buffer for 64. -/
theorem exists_overlong :
    let channel : Channel := ⟨.enabling [.full], .standard, .psa⟩
    let a : CipherOperation := ⟨7, [], Bytes.blank 16, Bytes.blank 16, 0, 1, false, 0⟩
    let b : SignOperation := ⟨7, [], Bytes.blank 64, .ecdsaP256Sha256, 0, 0⟩
    ((cipher ⟨1, 1, 0⟩ a
        (hearing channel .cipher (channel.wordSuccess Command.cipher.code 0xFFFFFFFF))).1.1 =
      .ok 0xFFFFFFFF ∧ a.output.length < (0xFFFFFFFF : UInt32).toNat) ∧
    (sign ⟨1, 1, 0⟩ b
        (hearing channel .signatureGeneration (channel.wordSuccess Command.sign.code 0xFFFF))).1.1 =
      .ok 0xFFFF ∧ b.signature.length < (0xFFFF : UInt16).toNat := by
  decide +kernel

end Session

end SecureEngine
