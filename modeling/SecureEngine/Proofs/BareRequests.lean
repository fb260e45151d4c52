import SecureEngine.Proofs.Course
import SecureEngine.Proofs.DispatchTable

/-! # Requests without buffers

Opening and closing show the engine no buffers, so that a request is known before it is sent, and the
round trip is a single exchange.

* **`Command.Bare`** — a command is prepared without the transport.
* **`Channel.receive`** — what a client makes of the answer to such a command.
* **`Channel.run_process_bare`** — the round trip is one exchange.
* **`Recorder.Sends`** — some requests are sent in order, up to a failure; **`Channel.sends_process`** — a
  request without buffers is.
* **`Recorder.Rests`** — the transport has no buffer registered; **`Channel.cleared_process`** — every
  round trip leaves it so. -/

namespace SecureEngine

variable {σ : Type} [Transport σ]

/-! ## (1) One exchange -/

/-- **A command is prepared without the transport**, from its arguments alone: `Command.prepare` gives the
same request over every transport and leaves its state alone. -/
def Command.Bare (flavor : Flavor) (handle : UInt32) (c : Command) (arguments : Arguments)
    (request : c.Request flavor) : Prop :=
  ∀ (τ : Type) [Transport τ], c.prepare flavor handle arguments =
    (pure (.ofRequest request) : Registering τ (Prepared flavor c))

/-- Every request fits into a message of `Wire.maxMessageSize` bytes, whatever the command and the
flavor. -/
theorem Command.requestSize_le_maxMessageSize (flavor : Flavor) (c : Command) :
    c.requestSize flavor ≤ Wire.maxMessageSize := by
  cases c with
  | openService kind | closeService kind => cases kind <;> cases flavor <;> decide
  | _ => cases flavor <;> decide

/-- A message whose request fits the room is prepared as its command is: `DispatchTable.prepare` then adds
no check of its own to `Command.prepare`. -/
theorem DispatchTable.run_prepare_of_room {table : DispatchTable} {code : UInt8} {c : Command}
    (hget : table.get? code = some c) {flavor : Flavor} {room : Nat}
    (hroom : c.requestSize flavor ≤ room) (handle : UInt32) (arguments : Arguments) (s : σ) :
    (table.prepare flavor code handle room arguments).run s =
      (((c.prepare flavor handle arguments).run s).1.map fun p => ⟨c, p⟩,
        ((c.prepare flavor handle arguments).run s).2) := by
  have hfits : decide (c.requestSize flavor ≤ room) = true := decide_eq_true hroom
  unfold prepare Command.prepareWithin
  rw [hget]
  dsimp only
  rw [hfits]
  cases hrun : (c.prepare flavor handle arguments).run s with
  | mk result t =>
    cases result with
    | error e => exact run_bind_error (run_bind_error hrun)
    | ok p => exact run_bind_ok (run_bind_ok hrun)

namespace Channel

variable {channel : Channel} {c : Command} {handle : UInt32} {arguments : Arguments}
  {request : c.Request channel.flavor}

/-- **What a client makes of the answer** to a request without buffers: the failure of the exchange, that
of `Channel.verdict`, or what `Channel.conclude` reads from the response. -/
def receive (channel : Channel) (c : Command) (arguments : Arguments)
    (reply : Except TransportError Unit × Bytes) : Except ClientError Unit × Arguments :=
  match reply with
  | (.error e, _) => (.error (.transport e), arguments)
  | (.ok (), written) =>
    let response := Bytes.overlay (Bytes.blank (c.responseSize channel.flavor)) written
    match channel.verdict c.code response with
    | .error e => (.error e, arguments)
    | .ok () => channel.conclude c.code response arguments

/-- A `Command.Bare` request is prepared as it is, and the transport is left alone, since every request
fits a message. -/
theorem run_prepare_bare (hb : c.Bare channel.flavor handle arguments request)
    (hget : channel.table.get? c.code = some c) (s : σ) :
    (channel.table.prepare channel.flavor c.code handle Wire.maxMessageSize arguments).run s =
      (.ok ⟨c, .ofRequest request⟩, s) := by
  rw [DispatchTable.run_prepare_of_room hget (Command.requestSize_le_maxMessageSize channel.flavor c),
    hb σ]
  rfl

/-- **A request without buffers is one exchange**: `Channel.process` sends the one frame, hands the
response to `Channel.receive` and drops the registrations. -/
theorem run_process_bare (hb : c.Bare channel.flavor handle arguments request)
    (hget : channel.table.get? c.code = some c) (s : σ) :
    (channel.process c.code handle arguments).run s =
      (channel.receive c arguments (Transport.sendAndReceive s (channel.frame c.code request)
          (c.responseSize channel.flavor)).1,
        Transport.resetDataBuffers (Transport.sendAndReceive s (channel.frame c.code request)
          (c.responseSize channel.flavor)).2) := by
  rw [run_process, run_prepare_bare hb hget]
  dsimp only [receive, Prepared.ofRequest, settle]
  rcases Transport.sendAndReceive s (channel.frame c.code request) (c.responseSize channel.flavor)
    with ⟨⟨_ | _, written⟩, t⟩
  · rfl
  dsimp only
  cases channel.verdict c.code
    (Bytes.overlay (Bytes.blank (c.responseSize channel.flavor)) written) <;> rfl

/-- **A command that is not enabled** is refused with `ClientError.notSupported` before anything is sent;
only the registrations are dropped. -/
theorem run_process_disabled {code : UInt8} (hget : channel.table.get? code = none) (s : σ) :
    (channel.process code handle arguments).run s =
      ((.error (.notSupported code), arguments), Transport.resetDataBuffers s) := by
  rw [run_process]
  unfold DispatchTable.prepare
  rw [hget]
  rfl

/-- `Channel.verdict` never says `outOfHandles`, which is for the handle table to say. -/
theorem verdict_ne_outOfHandles (channel : Channel) (code : UInt8) (response : Bytes) :
    channel.verdict code response ≠ .error .outOfHandles := by
  unfold verdict
  dsimp only
  split
  · nofun
  · cases ResponseCode.outcome (statusOf response).2 <;> nofun

/-- **Whatever the engine answers** to the opening of a service, the client is not out of handles. -/
theorem process_openService_ne (hl : channel.table.Lawful) (kind : Service) (handle : UInt32)
    (a : ServiceOpening) (s : σ) :
    ((channel.process (Command.openService kind).code handle (.openService a)).run s).1.1 ≠
      .error .outOfHandles := by
  rcases hget : channel.table.get? (Command.openService kind).code with _ | d
  · rw [run_process_disabled hget]
    nofun
  obtain rfl := hl.command_of_get? hget
  have hb : (Command.openService kind).Bare channel.flavor handle (.openService a)
      ({ parent := handle, flags := a.flags } : Wire.OpenService) := fun _ _ => rfl
  rw [run_process_bare hb hget]
  generalize (Transport.sendAndReceive s _ _).1 = reply
  obtain ⟨_ | _, written⟩ := reply
  · nofun
  unfold receive
  dsimp only
  have hlength := Bytes.length_overlay
    (Bytes.blank ((Command.openService kind).responseSize channel.flavor)) written
  rw [Bytes.length_blank] at hlength
  revert hlength
  generalize Bytes.overlay (Bytes.blank ((Command.openService kind).responseSize channel.flavor))
    written = response
  intro hlength
  cases hverdict : channel.verdict (Command.openService kind).code response with
  | error e =>
    rintro ⟨⟩
    exact verdict_ne_outOfHandles _ _ _ hverdict
  | ok _ =>
    -- What is wrong with a response of the right length is its checksum.
    intro hconclude
    obtain ⟨-, hcomplete⟩ := conclude_error (Prod.ext hconclude rfl)
    rw [DispatchTable.complete, hget] at hcomplete
    obtain ⟨mismatch, hm⟩ := Command.bind_decodeResponse_error hlength hcomplete
    cases hm

end Channel

/-! ## (2) What is on record -/

/-- Whether a call closes the transport. Counting these calls tells that a session closes it once. -/
def TransportCall.isClose {σ : Type} : TransportCall σ → Bool
  | .close _ => true
  | _ => false

/-- Staging buffers closes nothing: none of the calls that `Staged` records is a `TransportCall.close`. -/
theorem Staged.countP_isClose {s t : σ} {calls : List (TransportCall σ)} (h : Staged s calls t) :
    calls.countP TransportCall.isClose = 0 := by
  induction h with
  | nil => rfl
  | cons buffer use _ ih => exact ih

namespace Recorder

section

omit [Transport σ]

/-- **The requests on record**, as they were sent, oldest first: of every `SentRequest` its bytes, without
the response. -/
def requests (r : Recorder σ) : List Bytes := r.sent.map (·.request)

/-- A call that sends nothing adds no request to those on record, whatever state `Recorder.note`
leaves. -/
theorem requests_note {r : Recorder σ} {call : TransportCall σ} (h : call.sent? = none) (after : σ) :
    (r.note call after).requests = r.requests := by
  simp [requests, sent, note, h]

/-- How often the transport has been closed, going by the calls on the record that are
`TransportCall.isClose`. -/
def closings (r : Recorder σ) : Nat := r.calls.countP TransportCall.isClose

/-- A note adds a closing to the record just if its call closes the transport. -/
theorem closings_note (r : Recorder σ) (call : TransportCall σ) (after : σ) :
    (r.note call after).closings = r.closings + if call.isClose then 1 else 0 := by
  rw [closings, note, List.countP_append, List.countP_singleton, closings]

/-- **No buffer is registered any more**: none has been staged since the registrations were dropped. -/
def Cleared (r : Recorder σ) : Prop :=
  ∃ before dropped after, r.calls = before ++ .reset dropped :: after ∧
    ∀ s buffer use, .stage s buffer use ∉ after

/-- **Some requests are sent in order, up to a failure**: the requests on record grow by a prefix of
`frames`, which is all of them where the outcome is a success. -/
def Sends {α : Type} (before : Recorder σ) (frames : List Bytes) (outcome : Except ClientError α)
    (after : Recorder σ) : Prop :=
  ∃ sent, after.requests = before.requests ++ sent ∧ sent <+: frames ∧
    ∀ a, outcome = .ok a → sent = frames

variable {α β : Type} {before middle after : Recorder σ} {frames more : List Bytes}
  {outcome : Except ClientError α} {e : ClientError}

/-- A record that has all of the frames has sent them, whatever the outcome. -/
theorem Sends.all (h : after.requests = before.requests ++ frames) :
    before.Sends frames outcome after :=
  ⟨frames, h, List.prefix_refl _, fun _ _ => rfl⟩

/-- A record without any of the frames has sent them up to a failure, if the outcome is one. -/
theorem Sends.unsent (h : after.requests = before.requests) :
    before.Sends frames (.error e : Except ClientError α) after :=
  ⟨[], by rw [h, List.append_nil], List.nil_prefix, nofun⟩

/-- After a failure nothing more is sent, so the requests that would have come next may be added to what
`Sends` lists. -/
theorem Sends.fail (h : before.Sends frames (.error e : Except ClientError α) after)
    (more : List Bytes) (e' : ClientError) :
    before.Sends (frames ++ more) (.error e' : Except ClientError β) after := by
  obtain ⟨sent, heq, hprefix, -⟩ := h
  exact ⟨sent, heq, hprefix.trans (List.prefix_append _ _), nofun⟩

/-- After a success the next requests are sent: two `Sends` in sequence make one over both lists of
frames. -/
theorem Sends.andThen {a : α} {next : Except ClientError β}
    (h : before.Sends frames (.ok a) middle) (hnext : middle.Sends more next after) :
    before.Sends (frames ++ more) next after := by
  obtain ⟨sent, heq, -, hall⟩ := h
  obtain rfl := hall a rfl
  obtain ⟨sent', heq', hprefix, hall'⟩ := hnext
  refine ⟨sent ++ sent', by rw [heq', heq, List.append_assoc],
    List.prefix_append_right_inj sent |>.mpr hprefix, fun b hb => by rw [hall' b hb]⟩

/-- What was called before does not matter, if it sent nothing: `Recorder.note` then leaves the requests
as they were. -/
theorem Sends.of_note {call : TransportCall σ} {t : σ} (hcall : call.sent? = none)
    (h : (before.note call t).Sends frames outcome after) : before.Sends frames outcome after := by
  unfold Sends at h
  rwa [requests_note hcall] at h

/-- The outcome matters to `Sends` only in that it is a success; its value and its error may be
changed. -/
theorem Sends.of_outcome {other : Except ClientError β} (h : before.Sends frames outcome after)
    (hok : ∀ b, other = .ok b → ∃ a, outcome = .ok a) : before.Sends frames other after := by
  obtain ⟨sent, heq, hprefix, hall⟩ := h
  refine ⟨sent, heq, hprefix, fun b hb => ?_⟩
  obtain ⟨a, ha⟩ := hok b hb
  exact hall a ha

/-- A call that stages nothing leaves no buffer registered, if the record was `Cleared` before it. -/
theorem Cleared.note {r : Recorder σ} (h : r.Cleared) {call : TransportCall σ}
    (hcall : ∀ s buffer use, call ≠ .stage s buffer use) (after : σ) : (r.note call after).Cleared := by
  obtain ⟨before, dropped, rest, heq, hrest⟩ := h
  refine ⟨before, dropped, rest ++ [call], ?_, fun s buffer use hmem => ?_⟩
  · rw [Recorder.note, heq, List.append_assoc, List.cons_append]
  · rcases List.mem_append.mp hmem with hmem | hmem
    · exact hrest s buffer use hmem
    · exact hcall s buffer use (List.mem_singleton.mp hmem).symm

/-- **A transport that has been closed so often and has no buffer registered**, going by its record: the
count of `Recorder.closings`, and `Cleared`. -/
structure Rests (n : Nat) (r : Recorder σ) : Prop where
  closings_eq : r.closings = n
  cleared : r.Cleared

/-- A call that neither stages a buffer nor closes the transport leaves it at rest. -/
theorem Rests.note {r : Recorder σ} {n : Nat} (h : r.Rests n) {call : TransportCall σ}
    (hstage : ∀ s buffer use, call ≠ .stage s buffer use) (hclose : call.isClose = false)
    (after : σ) : (r.note call after).Rests n := by
  refine ⟨?_, h.cleared.note hstage after⟩
  rw [closings_note, hclose, h.closings_eq]
  rfl

end

/-- Dropping the registrations by `Transport.resetDataBuffers` leaves none, whatever was staged before. -/
theorem cleared_resetDataBuffers (r : Recorder σ) : (Transport.resetDataBuffers r).Cleared :=
  ⟨r.calls, r.transport, [], rfl, fun _ _ _ => List.not_mem_nil⟩

end Recorder

namespace Channel

variable {channel : Channel} {c : Command} {handle : UInt32} {arguments : Arguments}
  {request : c.Request channel.flavor}

/-- **No round trip leaves a buffer registered**: every path through `Channel.process` ends with
`Transport.resetDataBuffers`. -/
theorem cleared_process (channel : Channel) (code : UInt8) (handle : UInt32) (arguments : Arguments)
    (r : Recorder σ) : ((channel.process code handle arguments).run r).2.Cleared :=
  Recorder.cleared_resetDataBuffers (((channel.attempt code handle).run arguments).run r).2

/-- No round trip closes its transport: `Channel.process` stages, exchanges, reads back and resets, and
makes no other call. -/
theorem closings_process (channel : Channel) (code : UInt8) (handle : UInt32) (arguments : Arguments)
    (r : Recorder σ) :
    ((channel.process code handle arguments).run r).2.closings = r.closings := by
  obtain ⟨result, calls, t, hcourse, -, hrun⟩ := course_process channel code handle arguments r
  have hread (output : Option Address) (s : σ) :
      (readBacks output arguments s).countP TransportCall.isClose = 0 := by
    unfold readBacks
    split <;> rfl
  -- Everything but what is staged and read back is one exchange and the dropping of registrations.
  have hcalls : calls.countP TransportCall.isClose = 0 := by
    cases hcourse with
    | unprepared hs | unanswered hs | refused hs | settled hs =>
      simp [List.countP_append, hs.countP_isClose, hread, TransportCall.isClose]
  rw [hrun]
  show (r.calls ++ calls).countP TransportCall.isClose = _
  rw [List.countP_append, hcalls]
  rfl

/-- **A request without buffers is sent**, unless its command is not enabled: `Channel.process` puts just
this one frame on the record. -/
theorem sends_process (hl : channel.table.Lawful)
    (hb : c.Bare channel.flavor handle arguments request) (r : Recorder σ) :
    r.Sends [channel.frame c.code request] ((channel.process c.code handle arguments).run r).1.1
      ((channel.process c.code handle arguments).run r).2 := by
  -- A code that is not enabled sends nothing; every other sends its one frame.
  rcases hget : channel.table.get? c.code with _ | d
  · rw [run_process_disabled hget]
    exact .unsent (by simp [Recorder.requests, Recorder.sent, Recorder.resetDataBuffers_eq,
      Recorder.note, TransportCall.sent?])
  · have hget := hget.trans (congrArg some (hl.command_of_get? hget))
    rw [run_process_bare hb hget]
    refine .all ?_
    simp [Recorder.requests, Recorder.sent, Recorder.sendAndReceive_eq, Recorder.resetDataBuffers_eq,
      Recorder.note, TransportCall.sent?]

end Channel

end SecureEngine
