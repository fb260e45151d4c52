import SecureEngine.Emulator.Execution

/-! # The emulated device

The engine behind a message unit, as a transport.

* **`Device`** — the machine with its queued faults, the log of requests and whether it is closed.
* **`Fault`** — misbehaviour that a device can be told to show; queued faults fire in order, each
  when its trigger occurs.
* **`Device.start`** — a new device; **`Device.StartError`** says which settings it refuses.
* The `Transport` instance — every failure has the same code. -/

namespace SecureEngine

/-- **Misbehaviour of a device.** -/
inductive Fault
  /-- The next exchange fails, after a success has been written as its response. -/
  | transportFailure
  /-- The next response that ends in a checksum has a wrong one. -/
  | corruptChecksum
  /-- The next request with this command byte is refused without being executed. -/
  | reject (command : UInt8) (error : EngineError)
deriving DecidableEq

/-- Whether a fault refuses requests with a command byte. -/
def Fault.rejects (command : UInt8) : Fault → Bool
  | .reject c _ => c == command
  | _ => false

/-- **The emulated device.** -/
structure Device where
  machine : Machine
  /-- The faults that have not fired, oldest first. -/
  faults : List Fault := []
  /-- The command byte of every request, in order of arrival. -/
  log : Bytes := []
  closed : Bool := false

namespace Device

/-! ## (1) Start -/

/-- Why a device does not start. -/
inductive StartError
  | windowOutside (window : Wire.Window)
  | noObjects
deriving DecidableEq, Repr

/-- The text of a refusal. -/
def StartError.message : StartError → String
  | windowOutside w =>
    "shared buffer " ++ Text.hexadecimal 1 w.offset.toNat ++ "+"
      ++ Text.hexadecimal 1 w.size.toNat ++ " does not fit in secure RAM"
  | noObjects => "max_handles must be non-zero"

/-- **A new device.** The window must not be empty and must lie in the secure RAM, and there must be
room for an object. -/
def start (settings : EngineSettings) : Except StartError Device :=
  let window := settings.window
  if window.size = 0 ∨ areaSize < window.offset.toNat + window.size.toNat then
    .error (.windowOutside window)
  else if settings.maxObjects = 0 then .error .noObjects
  else .ok { machine := { engine := .start settings } }

/-! ## (2) Faults -/

/-- Queues a fault. -/
def inject (d : Device) (fault : Fault) : Device := { d with faults := d.faults ++ [fault] }

/-- Takes the oldest fault that satisfies a condition out of the queue. -/
def takeFault (d : Device) (p : Fault → Bool) : Option (Fault × Device) :=
  (d.faults.find? p).map fun fault => (fault, { d with faults := d.faults.eraseP p })

/-- The number of requests with a command byte. -/
def countRequests (d : Device) (command : UInt8) : Nat := d.log.count command

/-! ## (3) Exchanges -/

/-- The code of every failure of the device. -/
def failure : TransportError := ⟨-5⟩

/-- A reply with its last byte inverted. -/
def corrupted (bytes : Bytes) : Bytes := bytes.modify (bytes.length - 1) (· ^^^ 0xFF)

/-- **Executes a request** and damages the checksum of the response if a fault says so. -/
def execute (d : Device) (request : Bytes) : Bytes × Device :=
  let (reply, machine) := (Engine.execute request).run d.machine
  let d := { d with machine }
  if reply.isSealed then
    match d.takeFault (· == .corruptChecksum) with
    | some (_, d) => (corrupted reply.bytes, d)
    | none => (reply.bytes, d)
  else (reply.bytes, d)

/-- **One exchange.** A transport failure leaves a success in the response buffer, and a refusal the
status of its error; neither reaches the engine. A closed device does nothing. -/
def exchange (d : Device) (request : Bytes) (size : Nat) :
    (Except TransportError Unit × Bytes) × Device :=
  if d.closed then ((.error failure, []), d)
  else
    let command := Engine.commandByte request
    -- Every request is logged, also one that a fault keeps from the engine.
    let d := { d with log := d.log ++ [command] }
    match d.takeFault (· == .transportFailure) with
    | some (_, d) =>
      let success := d.machine.engine.statusReply command ResponseCode.success
      ((.error failure, Bytes.overlay (List.replicate size 0x5A) success.bytes), d)
    | none =>
      match d.takeFault (Fault.rejects command) with
      | some (.reject _ e, d) =>
        let refusal := d.machine.engine.statusReply command (ResponseCode.failure e)
        ((.ok (), refusal.bytes.take size), d)
      | _ =>
        let (bytes, d) := d.execute request
        ((.ok (), bytes.take size), d)

/-! ## (4) Buffers -/

/-- The device with other memory. -/
def withMemory (d : Device) (memory : SharedMemory) : Device :=
  { d with machine := { d.machine with memory } }

/-- The outcome of something that may have changed the memory. -/
def outcome {α : Type} (d : Device) : Option (α × SharedMemory) → Except TransportError α × Device
  | some (a, memory) => (.ok a, d.withMemory memory)
  | none => (.error failure, d)

instance : Transport Device where
  sendAndReceive := exchange
  dataBuffer d buffer use := d.outcome (d.machine.memory.register buffer use)
  readDataBuffer d address out := (match d.machine.memory.readBack address out.length with
    | some bytes => .ok bytes
    | none => .error failure, d)
  resetDataBuffers d := d.withMemory d.machine.memory.reset
  configureWindow d offset size :=
    d.outcome ((d.machine.memory.setWindow offset size).map fun memory => ((), memory))
  close d := { d with closed := true }

end Device

end SecureEngine
