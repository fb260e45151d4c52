import SecureEngine.Emulator.Device
import SecureEngine.Proofs.Preparation
import SecureEngine.Proofs.RoundTrip
import SecureEngine.Proofs.Stamping

/-! # Frames between a client and an engine

A client and an engine with the same header values understand each other.

* **`Wire.finish_eq`** — what a message with its header and checksum looks like.
* **`Engine.accept_frame`**, **`Channel.decodeRequest_frame`** — the engine reads the command and the
  request that the client sent, unless they disagree about the layout of signing requests.
* **`Channel.verdict_received`**, **`Engine.decodeResponse_received`** — the client reads the response
  code and the content that the engine sent. -/

namespace SecureEngine

/-! ## (1) Messages with header and checksum -/

/-- Laying a front over a buffer with `overlay` leaves what is behind it. -/
theorem Bytes.overlay_append {front data : Bytes} (h : front.length = data.length) (rest : Bytes) :
    overlay (front ++ rest) data = data ++ rest := by
  rw [overlay, List.take_of_length_le, List.drop_left' h]
  rw [List.length_append]
  omega

namespace Wire

/-- Every header takes four bytes, whatever it says: the `Wire.Message.encode` of a `Header` has
`headerSize`. -/
theorem length_encode_header (header : Header) :
    (Message.encode header).length = headerSize :=
  Message.length_encode header

/-- The trailer of a message is a checksum or nothing, so `trailer` has `checksumSize` bytes or none. -/
@[simp] theorem length_trailer (isSealed : Bool) :
    (trailer isSealed).length = if isSealed then checksumSize else 0 := by
  rw [trailer, Bytes.length_blank]

/-- **A finished message** is its header, its content, and a checksum if it ends in one; the header counts
all three. -/
theorem finish_eq (version tag command : UInt8) (isSealed : Bool) (content : Bytes) :
    ∃ tail, tail.length = (trailer isSealed).length ∧
      finish version tag command isSealed
          (Bytes.blank headerSize ++ content ++ trailer isSealed) =
        Message.encode (header version tag command
          (headerSize + content.length + (trailer isSealed).length)) ++ (content ++ tail) := by
  -- The header overwrites the blank in front, and nothing else.
  have hheaded : Bytes.overlay (Bytes.blank headerSize ++ content ++ trailer isSealed)
      (Message.encode (header version tag command
        (Bytes.blank headerSize ++ content ++ trailer isSealed).length)) =
      Message.encode (header version tag command
        (headerSize + content.length + (trailer isSealed).length)) ++
          (content ++ trailer isSealed) := by
    rw [List.append_assoc, Bytes.overlay_append (by rw [Message.length_encode]; rfl)]
    simp only [List.length_append, Bytes.length_blank, Nat.add_assoc]
  rw [finish, hheaded]
  cases isSealed with
  | false => exact ⟨trailer false, rfl, rfl⟩
  | true =>
    generalize hh : Message.encode (header version tag command _) = front
    refine ⟨Bytes.ofWord (Checksum.compute (front ++ content)), rfl, ?_⟩
    have hlast : (trailer true).length = 4 := length_trailer true
    rw [if_pos rfl, ← List.append_assoc, Checksum.stamp_append hlast, List.append_assoc]

/-- A finished message that ends in a checksum carries the right one: `Checksum.check` is what `finish`
has stamped. -/
theorem check_finish (version tag command : UInt8) {message : Bytes} (h : 4 ≤ message.length) :
    Checksum.check (finish version tag command true message) = .ok () := by
  rw [finish, if_pos rfl]
  exact Checksum.check_stamp (by rw [Bytes.length_overlay]; exact h)

end Wire

/-! ## (2) Requests -/

namespace Command

/-- Requests are made of words, and their number fits the header, whose size field is a byte. -/
theorem requestSize_spec (flavor : Flavor) (c : Command) :
    c.requestSize flavor % 4 = 0 ∧ c.requestSize flavor < 4 * UInt8.size ∧
      4 ≤ c.requestSize flavor := by
  cases c with
  | openService kind | closeService kind => cases kind <;> cases flavor <;> decide
  | _ => cases flavor <;> decide

/-- The size in a header is that of the request, since nothing of it is cut off. -/
theorem requestSize_words (flavor : Flavor) (c : Command) :
    4 * (UInt8.ofNat (c.requestSize flavor / 4)).toNat = c.requestSize flavor := by
  obtain ⟨hwords, hlt, -⟩ := requestSize_spec flavor c
  rw [UInt8.toNat_ofNat_of_lt' (by omega)]
  omega

/-- **Requests with and without a checksum differ in size**, so the engine can tell by the size whether to
check one. -/
theorem requestSize_sealed (flavor : Flavor) (c : Command) :
    if c.requestSealed then 24 ≤ c.requestSize flavor else c.requestSize flavor ≤ 16 := by
  cases c with
  | openService kind | closeService kind => cases kind <;> cases flavor <;> decide
  | _ => cases flavor <;> decide

end Command

namespace Channel

/-- **A `frame`** is a header, the content, and a checksum if the request ends in one; here only the first
two are told apart. -/
theorem frame_eq (channel : Channel) {c : Command} (code : UInt8)
    (request : c.Request channel.flavor) :
    ∃ tail, channel.frame code request =
      Wire.Message.encode (Wire.header channel.unit.version channel.unit.commandTag code
        (c.requestSize channel.flavor)) ++ (Wire.Message.encode request ++ tail) := by
  obtain ⟨tail, -, h⟩ := Wire.finish_eq channel.unit.version channel.unit.commandTag code
    c.requestSealed (Wire.Message.encode request)
  refine ⟨tail, ?_⟩
  rw [frame, Command.encodeRequest, h, Wire.Message.length_encode]
  rfl

/-- The header of a `frame` has the values of the channel and the size of the request. -/
theorem decode_frame (channel : Channel) {c : Command} (code : UInt8)
    (request : c.Request channel.flavor) :
    (Wire.Message.decode (channel.frame code request) : Wire.Header) =
      Wire.header channel.unit.version channel.unit.commandTag code
        (c.requestSize channel.flavor) := by
  obtain ⟨tail, h⟩ := channel.frame_eq code request
  rw [h, Wire.Message.decode_encode_append]

/-- **A frame carries its checksum** if the request ends in one, as `Command.requestSealed` tells. -/
theorem check_frame (channel : Channel) {c : Command} (hc : c.requestSealed = true) (code : UInt8)
    (request : c.Request channel.flavor) :
    Checksum.check (channel.frame code request) = .ok () := by
  rw [frame, hc, Wire.check_finish]
  rw [Command.length_encodeRequest]
  exact (Command.requestSize_spec channel.flavor c).2.2

/-- A `frame` has the size that its command has in the firmware of the client. -/
theorem length_frame (channel : Channel) {c : Command} (code : UInt8)
    (request : c.Request channel.flavor) :
    (channel.frame code request).length = c.requestSize channel.flavor := by
  rw [frame, Wire.length_finish, Command.length_encodeRequest]

/-- The engine names a frame by the command that the client sent, even where it does not understand the
rest. -/
theorem commandByte_frame (channel : Channel) {c : Command} (request : c.Request channel.flavor) :
    Engine.commandByte (channel.frame c.code request) = c.code := by
  obtain ⟨tail, h⟩ := channel.frame_eq c.code request
  rw [h]
  rfl

/-- **What an engine of the same firmware reads is what the client sent**, for every command and every
content. -/
theorem decodeRequest_frame_self (channel : Channel) {c : Command}
    (request : c.Request channel.flavor) :
    Command.decodeRequest channel.flavor c (channel.frame c.code request) = .ok request := by
  rw [Command.decodeRequest, if_neg (fun h => h (channel.length_frame c.code request)), if_neg]
  · obtain ⟨tail, h⟩ := channel.frame_eq c.code request
    rw [h, List.drop_left' (Wire.length_encode_header _), Wire.Message.decode_encode_append]
  · rintro ⟨hsealed, hcheck⟩
    rw [channel.check_frame hsealed] at hcheck
    cases hcheck

end Channel

/-- **An engine of the other firmware does not read a signing request**: the two layouts differ in
size. -/
theorem Channel.decodeRequest_frame_foreign (channel : Channel) {flavor : Flavor}
    (hf : flavor ≠ channel.flavor) (request : Command.sign.Request channel.flavor) :
    Command.decodeRequest flavor .sign (channel.frame Command.sign.code request) =
      .error Reason.invalidMessage.toError := by
  rw [Command.decodeRequest, if_pos]
  rw [channel.length_frame Command.sign.code request]
  generalize channel.flavor = other at hf
  cases flavor <;> cases other <;> first | exact absurd rfl hf | decide

/-- **What an engine of either firmware reads**: a request for the same addressee, unless firmware and
client disagree about signing. -/
theorem Channel.decodeRequest_frame (channel : Channel) (flavor : Flavor) {c : Command}
    (request : c.Request channel.flavor) :
    (∃ m, Command.decodeRequest flavor c (channel.frame c.code request) = .ok m ∧
      c.addressee? m = c.addressee? request) ∨
    (c = .sign ∧ Command.decodeRequest flavor c (channel.frame c.code request) =
      .error Reason.invalidMessage.toError) := by
  by_cases hf : flavor = channel.flavor
  · subst hf
    exact Or.inl ⟨request, channel.decodeRequest_frame_self request, rfl⟩
  have hself := channel.decodeRequest_frame_self request
  -- Of the requests of the other flavor, only one for signing has another length.
  cases c with
  | sign => exact Or.inr ⟨rfl, channel.decodeRequest_frame_foreign hf request⟩
  | _ => exact Or.inl ⟨request, hself, rfl⟩

/-- **The reasons for which a request is refused** before its handler sees it: its layout, its checksum,
or its command. -/
def Reason.isFraming : Reason → Bool
  | invalidMessage | crcCheckErr | cmdNotSupported => true
  | _ => false

/-- **The errors that tell of messages that were not understood**, by the client itself or by the engine
for one of the reasons of `Reason.isFraming`. -/
def ClientError.isFraming : ClientError → Bool
  | unexpectedResponse _ _ | integrityFailure _ | validation .responseTooShort => true
  | engine e => e.reason?.any Reason.isFraming
  | _ => false

/-- A request that is not read is refused for a reason about messages: the error of
`Command.decodeRequest` is that of a `Reason.isFraming`. -/
theorem Command.decodeRequest_error {flavor : Flavor} {c : Command} {bytes : Bytes} {e : EngineError}
    (h : c.decodeRequest flavor bytes = .error e) : ∃ r : Reason, r.isFraming = true ∧ e = r.toError := by
  unfold decodeRequest at h
  split at h
  · cases h
    exact ⟨.invalidMessage, rfl, rfl⟩
  split at h
  · cases h
    exact ⟨.crcCheckErr, rfl, rfl⟩
  · cases h

namespace Engine

/-- A request that is not accepted is refused for a reason about messages, `invalidMessage` or a wrong
checksum. -/
theorem accept_error {engine : Engine} {request : Bytes} {e : EngineError}
    (h : engine.accept request = .error e) : ∃ r : Reason, r.isFraming = true ∧ e = r.toError := by
  unfold accept at h
  dsimp only at h
  split at h
  · cases h
    exact ⟨.invalidMessage, rfl, rfl⟩
  split at h
  · cases h
  · cases h
    exact ⟨.cmdNotSupported, rfl, rfl⟩

/-- **An engine accepts what a client sends** with the version and the tag that it expects. -/
theorem accept_frame_eq (engine : Engine) (channel : Channel) {c : Command}
    (request : c.Request channel.flavor) :
    engine.accept (channel.frame c.code request) =
      if channel.unit.version = engine.settings.unit.version ∧
          channel.unit.commandTag = engine.settings.unit.commandTag then .ok c
      else .error Reason.invalidMessage.toError := by
  have hlength := channel.length_frame c.code request
  have hcommand : (Wire.header channel.unit.version channel.unit.commandTag c.code
      (c.requestSize channel.flavor)).command = c.code := rfl
  rw [accept, channel.decode_frame c.code request, hlength, hcommand, Command.ofCode?_code]
  split
  -- A frame of the client is long enough and in whole words, so only the version and the tag are left
  -- to object to.
  case isTrue hrefused =>
    rw [if_neg]
    rintro ⟨hversion, htag⟩
    rcases hrefused with hshort | hother | hother | hwrong
    · exact absurd hshort (Nat.not_lt.mpr (Command.requestSize_spec channel.flavor c).2.2)
    · exact hother hversion
    · exact hother htag
    · exact hwrong (Command.requestSize_words channel.flavor c)
  case isFalse haccepted =>
    obtain ⟨-, hversion, htag, -⟩ : _ ∧ _ ∧ _ ∧ _ := by
      simpa only [not_or, ne_eq, Decidable.not_not] using haccepted
    exact (if_pos ⟨hversion, htag⟩).symm

/-- **An engine accepts what a client with the same header values sends**: `Engine.accept` finds the
command of every `Channel.frame`. -/
theorem accept_frame {engine : Engine} {channel : Channel}
    (hunit : channel.unit = engine.settings.unit) {c : Command}
    (request : c.Request channel.flavor) :
    engine.accept (channel.frame c.code request) = .ok c := by
  rw [accept_frame_eq, hunit, if_pos ⟨rfl, rfl⟩]

end Engine

/-! ## (3) Responses -/

/-- A bare status is a header at least, so reading the header of a response never runs past
`Command.statusSize`. -/
theorem four_le_statusSize : 4 ≤ Command.statusSize := by decide

/-- Every response has room for a header and a response code, so a client that makes room for a response
has made room for a refusal. -/
theorem Command.statusSize_le_responseSize (flavor : Flavor) (c : Command) :
    statusSize ≤ c.responseSize flavor := by
  rw [responseSize, Nat.add_assoc]
  exact Nat.le_add_right _ _

namespace ResponseCode

/-- The status byte of a response code is the one it was composed with. -/
theorem status_compose (status rating : UInt8) : ResponseCode.status (compose status rating) = status := by
  unfold ResponseCode.status compose
  apply UInt8.toBitVec_inj.mp
  simp

/-- The rating byte of a response code is the one it was composed with. -/
theorem rating_compose (status rating : UInt8) : ResponseCode.rating (compose status rating) = rating := by
  unfold ResponseCode.rating compose
  apply UInt8.toBitVec_inj.mp
  simp
  ext i hi
  have hshift : 8 + i < 32 := by omega
  have hlow : i < 32 := by omega
  have hhigh : ¬8 + i < 8 := by omega
  simp [hshift, hlow, hhigh, BitVec.getLsbD_eq_getElem hi]

/-- **A failure is read as its rating**: of the error, `ResponseCode.failure` keeps the lower byte. -/
theorem outcome_failure (e : EngineError) :
    outcome (failure e) = .error (EngineError.ofRating e.code.toUInt8) := by
  rw [outcome, failure, status_compose, if_neg (by decide), rating_compose]

end ResponseCode

/-- The error of a reason is read as that error, because its code fits the rating byte. -/
theorem Reason.ofRating_toError (r : Reason) :
    EngineError.ofRating r.toError.code.toUInt8 = r.toError := by
  rw [toError, UInt8.toUInt8_toUInt32, EngineError.ofRating_code]
  rfl

/-- The reason of an error that was made of one is that reason: `EngineError.reason?` inverts
`Reason.toError`. -/
@[simp] theorem Reason.reason?_toError (r : Reason) : r.toError.reason? = some r := by
  cases r <;> rfl

/-- What a client is told by the rating of an error is what its reason tells, about messages as about all
else. -/
theorem Reason.isFraming_ofRating (r : Reason) :
    (ClientError.engine (EngineError.ofRating r.toError.code.toUInt8)).isFraming = r.isFraming := by
  change (EngineError.ofRating r.toError.code.toUInt8).reason?.any isFraming = r.isFraming
  rw [ofRating_toError, reason?_toError, Option.any_some]

/-- Different reasons are different errors, because `EngineError.reason?` tells them apart. -/
theorem Reason.toError_inj {a b : Reason} : a.toError = b.toError ↔ a = b := by
  refine ⟨fun h => ?_, congrArg toError⟩
  have hcode : a.code = b.code := UInt8.toUInt32_inj.mp (congrArg EngineError.code h)
  have hreason := congrArg ofCode? hcode
  rw [ofCode?_code, ofCode?_code] at hreason
  exact Option.some.inj hreason

/-- **A byte string is a response** to a command with a response code, whatever follows. -/
def Wire.Answers (unit : MessageUnit) (command : UInt8) (code : UInt32) (bytes : Bytes) : Prop :=
  ∃ length rest, bytes =
    Message.encode (header unit.version unit.responseTag command length) ++
      (Bytes.ofWord code ++ rest)

/-- What fits the front of a buffer is found there: `Bytes.overlay` on a blank buffer begins with it,
whatever comes behind. -/
theorem Bytes.overlay_blank_take {front : Bytes} {size : Nat} (h : front.length ≤ size)
    (rest : Bytes) : ∃ after, overlay (blank size) ((front ++ rest).take size) = front ++ after := by
  rw [overlay, length_blank, List.take_take, Nat.min_self, List.take_append,
    List.take_of_length_le h, List.append_assoc]
  exact ⟨_, rfl⟩

/-- **A client reads the response code that an engine sent**, if it expects the tag of its responses. -/
theorem Channel.verdict_answers (channel : Channel) {unit : Wire.MessageUnit} {command : UInt8}
    {code : UInt32} {bytes : Bytes} (h : Wire.Answers unit command code bytes) {size : Nat}
    (hsize : Command.statusSize ≤ size) :
    channel.verdict command (Bytes.overlay (Bytes.blank size) (bytes.take size)) =
      if unit.responseTag = channel.unit.responseTag then (ResponseCode.outcome code).mapError .engine
      else .error (.unexpectedResponse command command) := by
  obtain ⟨length, rest, rfl⟩ := h
  rw [← List.append_assoc]
  have hfront : (Wire.Message.encode (Wire.header unit.version unit.responseTag
      command length) ++ Bytes.ofWord code).length ≤ size := hsize
  -- The verdict looks at the header and the status alone, which the buffer has room for.
  obtain ⟨after, hafter⟩ := Bytes.overlay_blank_take hfront rest
  have hcommand (tag : UInt8) : (Wire.header unit.version tag command length).command = command := rfl
  have htag (tag : UInt8) : (Wire.header unit.version tag command length).tag = tag := rfl
  rw [hafter, List.append_assoc]
  unfold verdict statusOf
  dsimp only
  rw [Wire.Message.decode_encode_append, List.drop_left' (Wire.length_encode_header _),
    Bytes.word_ofWord_append, hcommand, htag]
  simp only [ne_eq, not_true_eq_false, false_or, ite_not]

/-- A client with the header values of the engine reads the response code that the engine sent. -/
theorem Channel.verdict_received {channel : Channel} {command : UInt8} {code : UInt32}
    {bytes : Bytes} (h : Wire.Answers channel.unit command code bytes) {size : Nat}
    (hsize : Command.statusSize ≤ size) :
    channel.verdict command (Bytes.overlay (Bytes.blank size) (bytes.take size)) =
      (ResponseCode.outcome code).mapError .engine := by
  rw [channel.verdict_answers h hsize, if_pos rfl]

namespace Engine

/-- A bare status answers with the code it was made of: `Engine.statusReply` has the header and the code
that `Wire.Answers` asks for. -/
theorem answers_statusReply (engine : Engine) (command : UInt8) (code : UInt32) :
    Wire.Answers engine.settings.unit command code (engine.statusReply command code).bytes := by
  obtain ⟨tail, -, h⟩ := Wire.finish_eq engine.settings.unit.version
    engine.settings.unit.responseTag command false (Bytes.ofWord code)
  rw [show Wire.trailer false = [] from rfl, List.append_nil] at h
  exact ⟨_, tail, h⟩

/-- **A response with content** is a header, the response code, the content and possibly a
checksum. -/
theorem bytes_reply (engine : Engine) (command : UInt8) {flavor : Flavor} (c : Command)
    (code : UInt32) (response : c.Response flavor) :
    ∃ length tail, tail.length = (Wire.trailer c.responseSealed).length ∧
      (engine.reply command c.responseSealed (c.encodeResponse code response)).bytes =
        Wire.Message.encode (Wire.header engine.settings.unit.version
          engine.settings.unit.responseTag command length) ++
          (Bytes.ofWord code ++ (Wire.Message.encode response ++ tail)) := by
  obtain ⟨tail, htail, h⟩ := Wire.finish_eq engine.settings.unit.version
    engine.settings.unit.responseTag command c.responseSealed
    (Bytes.ofWord code ++ Wire.Message.encode response)
  rw [← List.append_assoc, List.append_assoc (Bytes.ofWord code)] at h
  exact ⟨_, tail, htail, h⟩

/-- A response with content has the size that its command has in the firmware of the engine. -/
theorem length_bytes_reply (engine : Engine) (command : UInt8) {flavor : Flavor} (c : Command)
    (code : UInt32) (response : c.Response flavor) :
    (engine.reply command c.responseSealed (c.encodeResponse code response)).bytes.length =
      c.responseSize flavor := by
  rw [reply, Wire.length_finish, Command.length_encodeResponse]

/-- **A response carries its checksum** if it ends in one, as `Command.responseSealed` tells. -/
theorem check_reply (engine : Engine) (command : UInt8) {flavor : Flavor} {c : Command}
    (hc : c.responseSealed = true) (code : UInt32) (response : c.Response flavor) :
    Checksum.check (engine.reply command c.responseSealed (c.encodeResponse code response)).bytes =
      .ok () := by
  have hlong : 4 ≤ (c.encodeResponse code response).length := by
    rw [Command.length_encodeResponse]
    exact Nat.le_trans four_le_statusSize (c.statusSize_le_responseSize flavor)
  rw [reply, hc, Wire.check_finish _ _ _ hlong]

/-- **What a client makes of a response** is the content that the engine put in, in a buffer of
`responseSize`. -/
theorem decodeResponse_received (engine : Engine) (command : UInt8) {flavor : Flavor} {c : Command}
    (code : UInt32) (response : c.Response flavor) :
    c.decodeResponse flavor (Bytes.overlay (Bytes.blank (c.responseSize flavor))
      ((engine.reply command c.responseSealed (c.encodeResponse code response)).bytes.take
        (c.responseSize flavor))) = .ok response := by
  obtain ⟨length, tail, -, h⟩ := engine.bytes_reply command c code response
  have hlength := engine.length_bytes_reply command c code response
  have hcheck (hsealed : c.responseSealed = true) :=
    engine.check_reply command hsealed code response
  generalize (engine.reply command c.responseSealed (c.encodeResponse code response)).bytes = bytes
    at h hlength hcheck ⊢
  have hall := List.take_of_length_le (Nat.le_of_eq hlength)
  have hcontent : (Wire.Message.decode (bytes.drop Command.statusSize) : c.Response flavor) =
      response := by
    rw [h, ← List.append_assoc, List.drop_left', Wire.Message.decode_encode_append]
    rw [List.length_append, Wire.length_encode_header, Bytes.length_ofWord]
    rfl
  -- A successful reply is as long as its layout, so nothing is cut off and nothing is left over.
  rw [hall, Bytes.overlay_of_length_eq (by rw [hlength, Bytes.length_blank]), Command.decodeResponse,
    if_neg (Nat.not_lt.mpr (Nat.le_of_eq hlength.symm)), hall, hcontent]
  split
  · rename_i hsealed
    rw [hcheck hsealed]
  · rfl

end Engine

/-- **Damage to the end of a response with content** spares its header and its response code. -/
theorem Device.answers_corrupted {unit : Wire.MessageUnit} {command : UInt8} {code : UInt32}
    {bytes : Bytes} (h : Wire.Answers unit command code bytes)
    (hlength : Command.statusSize < bytes.length) :
    Wire.Answers unit command code (corrupted bytes) := by
  obtain ⟨length, rest, rfl⟩ := h
  refine ⟨length, ?_⟩
  generalize hfront : Wire.Message.encode
    (Wire.header unit.version unit.responseTag command length) = front at hlength ⊢
  have hsize : front.length = 4 := by
    rw [← hfront]
    exact Wire.length_encode_header _
  have hrest : 0 < rest.length := by
    have hstatus : Command.statusSize = 8 := rfl
    rw [List.length_append, List.length_append, Bytes.length_ofWord, hsize] at hlength
    omega
  unfold corrupted
  rw [List.modify_eq_take_drop, ← List.append_assoc, List.take_append, List.take_of_length_le]
  · exact ⟨_, by rw [List.append_assoc, List.append_assoc]⟩
  · simp only [List.length_append, Bytes.length_ofWord]
    omega

end SecureEngine
