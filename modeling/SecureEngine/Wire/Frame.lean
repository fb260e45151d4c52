import SecureEngine.ClientError
import SecureEngine.Wire.Request
import SecureEngine.Wire.Response

/-! # Frames

A request is a header, its content and possibly a checksum; a response is a header, a response
code, its content and possibly a checksum. The header is written last, when the message unit is
known, and the checksum covers it.

* **`Header`**, **`MessageUnit`** — the header, and the header values a message unit expects.
* **`finish`** — a message with its header and checksum filled in.
* **`Command.encodeRequest`**, **`Command.decodeRequest`** — requests with an open header; what an
  engine accepts as a request.
* **`Command.encodeResponse`**, **`Command.decodeResponse`** — the same for responses; a client
  reads the front of what it got. -/

namespace SecureEngine

namespace Wire

/-- **The header of every message.** -/
structure Header where
  /-- The protocol version. -/
  version : UInt8
  /-- The number of words of the message, header included. -/
  size : UInt8
  /-- The command byte. -/
  command : UInt8
  /-- The tag of requests or of responses. -/
  tag : UInt8
deriving DecidableEq, Repr

instance : Message Header where
  layout := [.byte, .byte, .byte, .byte]
  toValues m := (m.version, m.size, m.command, m.tag, ())
  ofValues := fun (version, size, command, tag, _) => { version, size, command, tag }
  ofValues_toValues _ := rfl

/-- **The header values a message unit expects.** -/
structure MessageUnit where
  /-- The protocol version. -/
  version : UInt8
  /-- The tag of requests. -/
  commandTag : UInt8
  /-- The tag of responses. -/
  responseTag : UInt8
deriving DecidableEq, Repr

/-- The header values in common use. -/
def MessageUnit.standard : MessageUnit := ⟨0x06, 0x17, 0xE1⟩

/-- The size of a header. -/
def headerSize : Nat := 4

/-- The size of a checksum. -/
def checksumSize : Nat := 4

/-- The largest message, in bytes. -/
def maxMessageSize : Nat := 256

/-- The header of a message of `length` bytes. -/
def header (version tag command : UInt8) (length : Nat) : Header :=
  { version, size := UInt8.ofNat (length / 4), command, tag }

/-- **A message with its header, and its checksum if it ends in one.** -/
def finish (version tag command : UInt8) (isSealed : Bool) (message : Bytes) : Bytes :=
  let headed := Bytes.overlay message (Message.encode (header version tag command message.length))
  if isSealed then Checksum.stamp headed else headed

/-- Finishing a message fills in its header and its checksum, and makes it no longer. -/
@[simp] theorem length_finish (version tag command : UInt8) (isSealed : Bool) (message : Bytes) :
    (finish version tag command isSealed message).length = message.length := by
  unfold finish
  split <;> simp

/-- The room for a checksum at the end of a message. -/
def trailer (isSealed : Bool) : Bytes := Bytes.blank (if isSealed then checksumSize else 0)

end Wire

namespace Command

open Wire

/-! ## (1) Requests -/

/-- The size of the request for a command. -/
def requestSize (flavor : Flavor) (c : Command) : Nat :=
  headerSize + Message.size (c.Request flavor) + (trailer c.requestSealed).length

/-- **A request**, with room for header and checksum. -/
def encodeRequest {flavor : Flavor} (c : Command) (m : c.Request flavor) : Bytes :=
  Bytes.blank headerSize ++ Message.encode m ++ trailer c.requestSealed

/-- Every request is encoded in the size of its command. -/
@[simp] theorem length_encodeRequest {flavor : Flavor} (c : Command) (m : c.Request flavor) :
    (c.encodeRequest m).length = c.requestSize flavor := by
  simp [encodeRequest, requestSize, Nat.add_assoc]

/-- **What an engine reads as a request**: exactly the size of the layout, with the checksum right
where there is one. -/
def decodeRequest (flavor : Flavor) (c : Command) (bytes : Bytes) :
    Except EngineError (c.Request flavor) :=
  if bytes.length ≠ c.requestSize flavor then .error Reason.invalidMessage.toError
  else if c.requestSealed ∧ (Checksum.check bytes).toBool = false then
    .error Reason.crcCheckErr.toError
  else .ok (Message.decode (bytes.drop headerSize))

/-! ## (2) Responses -/

/-- The size of a response without content: header and response code. -/
def statusSize : Nat := headerSize + 4

/-- The size of the response to a command. -/
def responseSize (flavor : Flavor) (c : Command) : Nat :=
  statusSize + Message.size (c.Response flavor) + (trailer c.responseSealed).length

/-- **A response**, with room for the header and the checksum. -/
def encodeResponse {flavor : Flavor} (c : Command) (code : UInt32) (m : c.Response flavor) :
    Bytes :=
  Bytes.blank headerSize ++ Bytes.ofWord code ++ Message.encode m ++ trailer c.responseSealed

/-- Every response is encoded in the size of its command. -/
@[simp] theorem length_encodeResponse {flavor : Flavor} (c : Command) (code : UInt32)
    (m : c.Response flavor) : (c.encodeResponse code m).length = c.responseSize flavor := by
  simp only [encodeResponse, responseSize, statusSize, List.length_append, Bytes.length_blank,
    Bytes.length_ofWord, Message.length_encode]

/-- **What a client reads as the content of a response**: the front of the bytes, with the
checksum right where there is one. -/
def decodeResponse (flavor : Flavor) (c : Command) (bytes : Bytes) :
    Except ClientError (c.Response flavor) :=
  let front := bytes.take (c.responseSize flavor)
  if bytes.length < c.responseSize flavor then .error (.validation .responseTooShort)
  else if c.responseSealed then
    match Checksum.check front with
    | .ok () => .ok (Message.decode (front.drop statusSize))
    | .error mismatch => .error (.integrityFailure mismatch)
  else .ok (Message.decode (front.drop statusSize))

end Command

end SecureEngine
