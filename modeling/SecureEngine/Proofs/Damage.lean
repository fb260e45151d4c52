import SecureEngine.Proofs.Checksum
import SecureEngine.Proofs.Reachability

/-! # Damaged requests

A request with a checksum that is damaged in one place is refused, and nothing is changed by it. The
damage may make it a request for something else, but not for a command without a checksum: these
requests are shorter.

* **`Engine.WellFormed`** — the requests that an engine accepts for a command.
* **`Engine.decodeRequest_damaged`** — no command reads a damaged request.
* **`Engine.execute_damaged`** — executing it answers with a failure and changes nothing. -/

namespace SecureEngine.Engine

/-- The header of a request, as far as the request has one: bytes that are missing decode as
`Wire.Message.decode` takes them. -/
def headerOf (request : Bytes) : Wire.Header := Wire.Message.decode request

/-- **A well-formed request** for a command that has a checksum: its header is right, it is as long as
the layout, and it ends in its checksum. -/
structure WellFormed (engine : Engine) (c : Command) (request : Bytes) : Prop where
  isSealed : c.requestSealed = true
  version_eq : (headerOf request).version = engine.settings.unit.version
  tag_eq : (headerOf request).tag = engine.settings.unit.commandTag
  command_eq : (headerOf request).command = c.code
  size_eq : 4 * (headerOf request).size.toNat = request.length
  length_eq : request.length = c.requestSize engine.settings.flavor
  check_eq : Checksum.check request = .ok ()

/-- What a client of the same firmware sends for such a command is well-formed. -/
theorem wellFormed_frame {engine : Engine} {channel : Channel}
    (hunit : channel.unit = engine.settings.unit) (hflavor : channel.flavor = engine.settings.flavor)
    {c : Command} (hc : c.requestSealed = true) (request : c.Request channel.flavor) :
    engine.WellFormed c (channel.frame c.code request) where
  isSealed := hc
  version_eq := by rw [headerOf, channel.decode_frame, ← hunit]; rfl
  tag_eq := by rw [headerOf, channel.decode_frame, ← hunit]; rfl
  command_eq := by rw [headerOf, channel.decode_frame]; rfl
  -- The request size is in words, and no longer than its header can say.
  size_eq := by
    rw [headerOf, channel.decode_frame, channel.length_frame]
    exact Command.requestSize_words channel.flavor c
  length_eq := by rw [channel.length_frame, hflavor]
  check_eq := channel.check_frame hc c.code request

/-- **No command reads a `Damaged` request.** -/
theorem decodeRequest_damaged {engine : Engine} {c : Command} {request damaged : Bytes}
    (hw : engine.WellFormed c request) (hd : request.Damaged damaged)
    (other : Command) :
    ∃ e, other.decodeRequest engine.settings.flavor damaged = .error e := by
  obtain ⟨hwords, -, hle⟩ := Command.requestSize_spec engine.settings.flavor c
  rw [← hw.length_eq] at hwords hle
  by_cases hsize : damaged.length = other.requestSize engine.settings.flavor
  · -- A request of this size has a checksum, whatever it asks for.
    have hother : other.requestSealed = true := by
      have hlong := Command.requestSize_sealed engine.settings.flavor c
      rw [if_pos hw.isSealed, ← hw.length_eq, ← hd.length_eq, hsize] at hlong
      have hshort := Command.requestSize_sealed engine.settings.flavor other
      cases hsealed : other.requestSealed with
      | true => rfl
      | false =>
        rw [hsealed, if_neg Bool.false_ne_true] at hshort
        omega
    have hcheck : (Checksum.check damaged).toBool = false := by
      cases h : Checksum.check damaged with
      | error mismatch => rfl
      | ok u => exact absurd h (Checksum.check_damaged hwords hle hw.check_eq hd)
    refine ⟨Reason.crcCheckErr.toError, ?_⟩
    rw [Command.decodeRequest, if_neg (not_not_intro hsize), if_pos ⟨hother, hcheck⟩]
  · refine ⟨Reason.invalidMessage.toError, ?_⟩
    rw [Command.decodeRequest, if_pos hsize]

/-- What a client reads in a bare status is its response code: `Channel.statusOf` finds again what
`Engine.statusReply` was given. -/
theorem statusOf_statusReply (engine : Engine) (command : UInt8) (code : UInt32) :
    (Channel.statusOf (engine.statusReply command code).bytes).2 = code := by
  obtain ⟨length, rest, h⟩ := engine.answers_statusReply command code
  rw [Channel.statusOf, h, List.drop_left' (Wire.length_encode_header _), Bytes.word_ofWord_append]

/-- A request that `Engine.answer` refuses gets a failure status and changes nothing, if answering it has
left the machine as it was. -/
theorem run_execute_refused {machine : Machine} {request : Bytes} {e : EngineError}
    (h : (answer request).run machine = (.error e, machine)) :
    (execute request).run machine =
      (machine.engine.statusReply (commandByte request) (ResponseCode.failure e), machine) := by
  rw [run_execute, h]

/-- **A `Damaged` request changes nothing**: a request for a command with a checksum that differs from a
well-formed one within four consecutive bytes, wherever they are, is answered with a failure status. -/
theorem execute_damaged {machine : Machine} {c : Command} {request damaged : Bytes}
    (hw : machine.engine.WellFormed c request) (hd : request.Damaged damaged) :
    ((execute damaged).run machine).2 = machine ∧
      ∃ r : Reason, r.isFraming = true ∧
        (Channel.statusOf ((execute damaged).run machine).1.bytes).2 =
          ResponseCode.failure r.toError ∧
        ResponseCode.status (Channel.statusOf ((execute damaged).run machine).1.bytes).2 =
          ResponseCode.failureStatus := by
  -- Damage to the header is found in accepting, and damage behind it in decoding, by the checksum.
  have hrefused : ∃ r : Reason, r.isFraming = true ∧
      (answer damaged).run machine = (.error r.toError, machine) := by
    cases haccept : machine.engine.accept damaged with
    | error e =>
      obtain ⟨r, hr, rfl⟩ := accept_error haccept
      exact ⟨r, hr, run_answer_refused haccept⟩
    | ok other =>
      obtain ⟨e, hdecode⟩ := decodeRequest_damaged hw hd other
      obtain ⟨r, hr, rfl⟩ := Command.decodeRequest_error hdecode
      exact ⟨r, hr, run_answer_unread haccept hdecode⟩
  obtain ⟨r, hr, hanswer⟩ := hrefused
  rw [run_execute_refused hanswer]
  refine ⟨rfl, r, hr, statusOf_statusReply _ _ _, ?_⟩
  rw [statusOf_statusReply]
  exact ResponseCode.status_compose _ _

/-- A request to open a hash service is refused also where the damage names another command, one that
has no checksum. -/
theorem execute_damaged_command :
    let machine : Machine := ⟨Engine.start {}, {}⟩
    let request : Bytes := Channel.frame (c := .openService .hash)
      ⟨.enabling [.full], .standard, .legacy⟩ (Command.openService .hash).code ⟨0x100, 0⟩
    let damaged : Bytes := request.set 2 Command.openSession.code
    machine.engine.WellFormed (.openService .hash) request ∧ Bytes.Damaged request damaged ∧
      ((execute damaged).run machine).2 = machine := by
  intro machine request damaged
  have hw : machine.engine.WellFormed (.openService .hash) request :=
    wellFormed_frame rfl rfl rfl _
  have hd : Bytes.Damaged request damaged := by
    refine ⟨List.length_set, by decide +kernel, 2, fun i hi => List.getElem?_set_ne ?_⟩
    omega
  exact ⟨hw, hd, (execute_damaged hw hd).1⟩

end SecureEngine.Engine
