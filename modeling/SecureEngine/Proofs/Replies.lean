import SecureEngine.Proofs.PreparedRequests

/-! # From a reply to the result

What a round trip makes of the bytes that come back: first the output is fetched, and then the
arguments are completed from the response.

* **`Command.complete_cases`** — a command completes arguments from a decoded response, or without looking
  at one, or refuses them.
* **`Channel.Answered`** — a request was prepared, sent and answered.
* **`Channel.received`** — the response as a client sees it: the reply at the front of a blank buffer.
* **`Channel.fetch`** — the arguments with the output read back; **`settle_eq_fetch`**.
* **`Channel.run_process_of_answered`** — the result of an answered request;
  **`Channel.answered_or_failed`** — whatever else happens leaves the arguments alone.
* **`Channel.process_eq_ok_iff`** — what it takes for a round trip to succeed. -/

namespace SecureEngine

/-- Outcomes can be compared, if errors and values can: `Except` has equality that is decided. -/
instance instDecidableEqOutcome {ε α : Type} [DecidableEq ε] [DecidableEq α] : DecidableEq (Except ε α)
  | .ok a, .ok b => decidable_of_iff (a = b) ⟨congrArg Except.ok, Except.ok.inj⟩
  | .error a, .error b => decidable_of_iff (a = b) ⟨congrArg Except.error, Except.error.inj⟩
  | .ok _, .error _ => .isFalse nofun
  | .error _, .ok _ => .isFalse nofun

/-- **What a response of the right size is decoded to**: its content behind the status, unless
`Checksum.check` fails on one that is sealed. -/
theorem Command.decodeResponse_of_length {flavor : Flavor} {c : Command} {bytes : Bytes}
    (hl : bytes.length = c.responseSize flavor) : c.decodeResponse flavor bytes =
      if c.responseSealed then
        match Checksum.check bytes with
        | .ok () => .ok (Wire.Message.decode (bytes.drop statusSize))
        | .error mismatch => .error (.integrityFailure mismatch)
      else .ok (Wire.Message.decode (bytes.drop statusSize)) := by
  unfold decodeResponse
  dsimp only
  rewrite [if_neg (Nat.not_lt.mpr (Nat.le_of_eq hl.symm)), List.take_of_length_le (Nat.le_of_eq hl)]
  rfl

/-- **Whether some arguments have a place for the result of a command**, which is where `Command.complete`
puts it. -/
def Arguments.holdsResultOf : Command → Arguments → Bool
  | .openSession, .openSession _ | .sharedBuffer, .sharedBuffer _ | .openKeyStore, .openKeyStore _
  | .openService _, .openService _ | .generateKey, .generateKey _ | .generateKeyExt, .generateKey _
  | .importKey, .importKey _ | .manageKey, .manageKey _ | .mac, .mac _ | .cipher, .cipher _
  | .sign, .sign _ | .verify, .verify _ | .sheVerifyMac, .sheVerifyMac _ | .sheStatus, .sheStatus _
  | .sheIdentity, .sheIdentity _ => true
  | _, _ => false

/-- **How a command completes arguments**: from what the response is decoded to, if they have a place for
it. Responses without content are not looked at, and other arguments are refused. -/
theorem Command.complete_cases (flavor : Flavor) (c : Command) (bytes : Bytes) (arguments : Arguments) :
    (arguments.holdsResultOf c = true ∧ ∃ put : c.Response flavor → Arguments,
      c.complete flavor bytes arguments = do return put (← c.decodeResponse flavor bytes)) ∨
    (c.responseSize flavor = statusSize ∧
      ∀ m, c.complete flavor bytes arguments ≠ .error (.integrityFailure m)) ∨
    (arguments.holdsResultOf c = false ∧
      c.complete flavor bytes arguments = .error (.validation .argumentsMismatch)) := by
  unfold complete
  split
  case h_11 a =>
    -- Legacy firmware does not tell the size of a signature.
    cases flavor with
    | psa => exact Or.inl ⟨rfl, _, rfl⟩
    | legacy =>
      refine Or.inr (Or.inl ⟨rfl, fun m h => ?_⟩)
      dsimp only at h
      unfold halfSize at h
      split at h <;> cases h
  case h_27 =>
    refine Or.inr (Or.inr ⟨?_, rfl⟩)
    unfold Arguments.holdsResultOf
    split <;> simp_all
  all_goals first
    | exact Or.inl ⟨rfl, _, rfl⟩
    | exact Or.inr (Or.inl ⟨rfl, nofun⟩)

namespace Channel

variable {σ : Type} [Transport σ] {channel : Channel} {code : UInt8} {handle : UInt32}
  {arguments : Arguments} {s t : σ} {c : Command} {p : Prepared channel.flavor c} {reply : Bytes}

/-- **A request was prepared, sent and answered**: what came back, and the transport then. -/
def Answered (channel : Channel) (code : UInt8) (handle : UInt32) (arguments : Arguments) (s : σ)
    {c : Command} (p : Prepared channel.flavor c) (reply : Bytes) (t : σ) : Prop :=
  ∃ between : σ,
    (channel.table.prepare channel.flavor code handle Wire.maxMessageSize arguments).run s =
      (.ok ⟨c, p⟩, between) ∧
    Transport.sendAndReceive between (channel.frame code p.request)
      (c.responseSize channel.flavor) = ((.ok (), reply), t)

/-- The message byte stands for the command that was prepared: `DispatchTable.get?` finds it there. -/
theorem Answered.get?_eq (h : channel.Answered code handle arguments s p reply t) :
    channel.table.get? code = some c := by
  obtain ⟨between, hprepare, -⟩ := h
  exact (DispatchTable.placed_of_prepare hprepare).1

/-- **The response as a client sees it**: the reply at the front of a blank buffer. -/
def received (channel : Channel) (c : Command) (reply : Bytes) : Bytes :=
  Bytes.overlay (Bytes.blank (c.responseSize channel.flavor)) reply

/-- What a client has received has the size it made room for, however long the reply was. -/
@[simp] theorem length_received (channel : Channel) (c : Command) (reply : Bytes) :
    (channel.received c reply).length = c.responseSize channel.flavor := by
  rw [received, Bytes.length_overlay, Bytes.length_blank]

/-- The arguments are completed as the command completes them: `Channel.conclude` is `Command.complete`
where `get?` finds the command. -/
theorem conclude_eq (h : channel.table.get? code = some c) (response : Bytes) (arguments : Arguments) :
    channel.conclude code response arguments =
      match c.complete channel.flavor response arguments with
      | .ok completed => (.ok (), completed)
      | .error e => (.error e, arguments) := by
  have hcomplete : channel.table.complete channel.flavor code response arguments =
      c.complete channel.flavor response arguments := by
    simp only [DispatchTable.complete, h]
  rewrite [conclude, hcomplete]
  rfl

/-- `Channel.conclude` succeeds just if `Command.complete` does, with the same arguments. -/
theorem conclude_eq_ok_iff (h : channel.table.get? code = some c) {response : Bytes}
    {completed : Arguments} :
    channel.conclude code response arguments = (.ok (), completed) ↔
      c.complete channel.flavor response arguments = .ok completed := by
  rw [conclude_eq h]
  cases c.complete channel.flavor response arguments with
  | ok _ => simp
  | error _ => simp

/-- **The arguments with the output read back**, if there is one to read: the part of `Channel.settle`
that calls the transport. -/
def fetch (output : Option Address) (arguments : Arguments) (t : σ) :
    Except TransportError Arguments × σ :=
  match output, arguments.output? with
  | some address, some out =>
    match Transport.readDataBuffer t address out with
    | (.ok written, u) => (.ok (arguments.withOutput (Bytes.overlay out written)), u)
    | (.error e, u) => (.error e, u)
  | _, _ => (.ok arguments, t)

/-- Fetching changes the output at most: what `Channel.fetch` gives are the arguments, or those
`withOutput` of a buffer. -/
theorem fetch_ok {output : Option Address} {fetched : Arguments}
    (h : (fetch output arguments t).1 = .ok fetched) :
    fetched = arguments ∨ ∃ buffer, fetched = arguments.withOutput buffer := by
  unfold fetch at h
  split at h
  · split at h
    · cases h
      exact Or.inr ⟨_, rfl⟩
    · cases h
  · cases h
    exact Or.inl rfl

/-- What is fetched is as long as the buffer for it, for `Channel.fetch` lays the bytes over that
buffer. -/
theorem fetch_eq_withOutput {output : Option Address} {out : Bytes} {fetched : Arguments}
    (hout : arguments.output? = some out) (h : (fetch output arguments t).1 = .ok fetched) :
    ∃ buffer, buffer.length = out.length ∧ fetched = arguments.withOutput buffer := by
  -- Without an address nothing is read back, and the output is as it was.
  cases output with
  | none =>
    cases h
    refine ⟨out, rfl, ?_⟩
    cases arguments <;> cases hout <;> rfl
  | some address =>
    unfold fetch at h
    rw [hout] at h
    dsimp only at h
    rcases hread : Transport.readDataBuffer t address out with ⟨_ | written, u⟩
    all_goals
      rw [hread] at h
      cases h
    exact ⟨_, Bytes.length_overlay _ _, rfl⟩

/-- **Settling is fetching the output first**, and completing the arguments then: `Channel.settle` by way
of `fetch` and `conclude`. -/
theorem settle_eq_fetch (channel : Channel) (code : UInt8) (output : Option Address)
    (response : Bytes) (arguments : Arguments) (t : σ) :
    channel.settle code output response arguments t =
      match fetch output arguments t with
      | (.ok fetched, u) => (channel.conclude code response fetched, u)
      | (.error e, u) => ((.error (.transport e), arguments), u) := by
  unfold settle fetch
  -- Settling is fetching and then concluding, wherever fetching ends.
  rcases output with _ | address
  · rfl
  rcases arguments.output? with _ | out
  · rfl
  dsimp only
  rcases Transport.readDataBuffer t address out with ⟨_ | _, _⟩ <;> rfl

/-- **The result of an `Answered` request.** -/
theorem run_process_of_answered (h : channel.Answered code handle arguments s p reply t) :
    ((channel.process code handle arguments).run s).1 =
      match channel.verdict code (channel.received c reply) with
      | .error e => (.error e, arguments)
      | .ok () => match (fetch p.output arguments t).1 with
        | .ok fetched => channel.conclude code (channel.received c reply) fetched
        | .error e => (.error (.transport e), arguments) := by
  obtain ⟨between, hprepare, hexchange⟩ := h
  have hreceived : Bytes.overlay (Bytes.blank (c.responseSize channel.flavor)) reply =
    channel.received c reply := rfl
  rw [run_process, hprepare]
  dsimp only
  rw [hexchange]
  dsimp only
  rw [hreceived, settle_eq_fetch]
  cases channel.verdict code (channel.received c reply) with
  | error e => rfl
  | ok _ =>
    dsimp only
    rcases fetch p.output arguments t with ⟨_ | _, _⟩ <;> rfl

/-- A verdict is about header and response code only: `Channel.verdict` never gives an
`integrityFailure`. -/
theorem verdict_ne_integrityFailure {response : Bytes} {m : Checksum.Mismatch} :
    channel.verdict code response ≠ .error (.integrityFailure m) := by
  unfold verdict
  dsimp only
  split
  · nofun
  · cases ResponseCode.outcome (statusOf response).2 <;> nofun

/-- **Until a response tells of success**, a round trip fails without looking at a checksum, and leaves
the arguments alone. -/
theorem answered_or_failed (channel : Channel) (code : UInt8) (handle : UInt32)
    (arguments : Arguments) (s : σ) :
    (∃ (c : Command) (p : Prepared channel.flavor c) (reply : Bytes) (t : σ),
      channel.Answered code handle arguments s p reply t ∧
        channel.verdict code (channel.received c reply) = .ok ()) ∨
      ∃ e : ClientError, ((channel.process code handle arguments).run s).1 = (.error e, arguments) ∧
        ∀ m, e ≠ .integrityFailure m := by
  -- The call can fail before the reply is looked at, or by the verdict on it. No such failure is one of
  -- integrity, since the checksum is looked at in completing only.
  rcases hprepare : (channel.table.prepare channel.flavor code handle Wire.maxMessageSize
    arguments).run s with ⟨e | ⟨c, p⟩, between⟩
  · refine Or.inr ⟨e, by rw [run_process, hprepare], ?_⟩
    rintro m rfl
    cases DispatchTable.isFraming_prepare hprepare
  rcases hexchange : Transport.sendAndReceive between (channel.frame code p.request)
    (c.responseSize channel.flavor) with ⟨⟨x | _, reply⟩, t⟩
  · refine Or.inr ⟨.transport x, ?_, nofun⟩
    rw [run_process, hprepare]
    dsimp only
    rw [hexchange]
  have ha : channel.Answered code handle arguments s p reply t := ⟨between, hprepare, hexchange⟩
  cases hverdict : channel.verdict code (channel.received c reply) with
  | ok _ => exact Or.inl ⟨c, p, reply, t, ha, hverdict⟩
  | error e =>
    refine Or.inr ⟨e, by rw [run_process_of_answered ha, hverdict], ?_⟩
    rintro m rfl
    exact verdict_ne_integrityFailure hverdict

/-- **A round trip of `process` succeeds** just if its request is answered with a success, the output is
read back and the arguments are completed from the response. -/
theorem process_eq_ok_iff {completed : Arguments} :
    ((channel.process code handle arguments).run s).1 = (.ok (), completed) ↔
      ∃ (c : Command) (p : Prepared channel.flavor c) (reply : Bytes) (t : σ) (fetched : Arguments),
        channel.Answered code handle arguments s p reply t ∧
        channel.verdict code (channel.received c reply) = .ok () ∧
        (fetch p.output arguments t).1 = .ok fetched ∧
        c.complete channel.flavor (channel.received c reply) fetched = .ok completed := by
  constructor
  · intro h
    rcases answered_or_failed channel code handle arguments s with
      ⟨c, p, reply, t, ha, hverdict⟩ | ⟨e, he, -⟩
    · rw [run_process_of_answered ha, hverdict] at h
      cases hfetch : (fetch p.output arguments t).1 with
      | error e =>
        rw [hfetch] at h
        cases h
      | ok fetched =>
        rw [hfetch] at h
        exact ⟨c, p, reply, t, fetched, ha, hverdict, hfetch, (conclude_eq_ok_iff ha.get?_eq).mp h⟩
    · cases he.symm.trans h
  · rintro ⟨c, p, reply, t, fetched, ha, hverdict, hfetch, hcomplete⟩
    rw [run_process_of_answered ha, hverdict, hfetch]
    exact (conclude_eq_ok_iff ha.get?_eq).mpr hcomplete

end Channel

end SecureEngine
