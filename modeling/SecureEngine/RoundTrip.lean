import SecureEngine.DispatchTable
import SecureEngine.ResponseCode

/-! # Round trips

One request and its response over a transport.

* **`Channel`** — what the messages of one session have in common.
* **`Channel.attempt`** — the steps of a round trip: prepare, frame, send, check the header and the
  response code, copy the output back, complete the arguments. The first failure ends it.
* **`Channel.process`** — a round trip after which no buffer stays registered, whatever
  happened. -/

namespace SecureEngine

/-- **What the messages of one session have in common.** -/
structure Channel where
  /-- The enabled commands. -/
  table : DispatchTable
  /-- The header values of the message unit. -/
  unit : Wire.MessageUnit
  /-- The generation of the firmware. -/
  flavor : Flavor

namespace Channel

variable {σ : Type} [Transport σ]

/-- **Computations on the arguments of a request**, over a transport of state `σ`. -/
abbrev Exchange (σ : Type) := ExceptT ClientError (StateT Arguments (StateM σ))

/-- The header and the response code at the front of a response. -/
def statusOf (response : Bytes) : Wire.Header × UInt32 :=
  (Wire.Message.decode response, Bytes.word (response.drop Wire.headerSize))

/-- Sends a framed request and returns the response, as long as its layout. -/
def exchange (request : Bytes) (size : Nat) : Exchange σ Bytes :=
  ExceptT.mk fun arguments state =>
    let ((outcome, written), state) := Transport.sendAndReceive state request size
    ((match outcome with
      | .ok () => .ok (Bytes.overlay (Bytes.blank size) written)
      | .error e => .error (.transport e), arguments), state)

/-- Copies what the engine wrote at an `Address` into the output buffer. -/
def copyOutput (address : Address) : Exchange σ Unit :=
  ExceptT.mk fun arguments state =>
    match arguments.output? with
    | none => ((.ok (), arguments), state)
    | some out =>
      let (result, state) := Transport.readDataBuffer state address out
      match result with
      | .ok written => ((.ok (), arguments.withOutput (Bytes.overlay out written)), state)
      | .error e => ((.error (.transport e), arguments), state)

/-- Prepares a message from the arguments. -/
def prepare (channel : Channel) (code : UInt8) (handle : UInt32) :
    Exchange σ ((c : Command) × Prepared channel.flavor c) :=
  ExceptT.mk fun arguments state =>
    let (result, state) :=
      (channel.table.prepare channel.flavor code handle Wire.maxMessageSize arguments).run state
    ((result, arguments), state)

/-- Completes the arguments from a response. -/
def complete (channel : Channel) (code : UInt8) (response : Bytes) : Exchange σ Unit :=
  ExceptT.mk fun arguments state =>
    match channel.table.complete channel.flavor code response arguments with
    | .ok completed => ((.ok (), completed), state)
    | .error e => ((.error e, arguments), state)

/-- **The steps of a round trip** for message `code`, addressed to `handle`. No layout gives rise to a
request that is not made of words, to a response that is longer than a message, or to one that has no room
for header and response code (`Command.requestSize_spec`, `Command.lossless_responseShape`,
`Command.statusSize_le_responseSize`), so none of that is checked on the way. -/
def attempt (channel : Channel) (code : UInt8) (handle : UInt32) : Exchange σ Unit := do
  let ⟨c, prepared⟩ ← channel.prepare code handle
  let request := Wire.finish channel.unit.version channel.unit.commandTag code c.requestSealed
    (c.encodeRequest prepared.request)
  let response ← exchange request (c.responseSize channel.flavor)
  let (header, status) := statusOf response
  -- A response to something else says nothing about this request, so its code is not looked at.
  if header.command ≠ code ∨ header.tag ≠ channel.unit.responseTag then
    throw (.unexpectedResponse code header.command)
  match ResponseCode.outcome status with
  | .ok () => pure ()
  | .error e => throw (.engine e)
  -- The output is read back while its buffer is still registered.
  match prepared.output with
  | some address => copyOutput address
  | none => pure ()
  channel.complete code response

/-- **A round trip.** Its buffer registrations are dropped whether it succeeded or not. -/
def process (channel : Channel) (code : UInt8) (handle : UInt32) (arguments : Arguments) :
    StateM σ (Except ClientError Unit × Arguments) := do
  let outcome ← (channel.attempt code handle).run arguments
  modify Transport.resetDataBuffers
  return outcome

end Channel

end SecureEngine
