import SecureEngine.Configuration
import SecureEngine.HandleTable
import SecureEngine.RoundTrip

/-! # Sessions

A session owns its transport, opens its key store when it starts, and tracks what it has open.

* **`Session`** — the state of a session; its identifier is zero once it is closed.
* **`Session.start`** — opens the session, fetches the secure-memory window and opens the key
  store; a failure on the way releases what was acquired.
* **`Session.close`** — closes every service, most recent first, and then the session; it always
  runs to its end and reports the first failure.
* **`Session.release`** — closes a session for good and gives the transport back.
* **`Session.openService`**, **`Session.closeService`**, **`Session.call`** — services by handle. -/

namespace SecureEngine

/-- **A session over a transport of state `σ`.** -/
structure Session (σ : Type) where
  transport : σ
  /-- What its messages have in common. -/
  channel : Channel
  /-- The engine's handle of the session, zero once it is closed. -/
  identifier : UInt32 := 0
  /-- The open key store. -/
  keyStore : Option ServiceHandle := none
  /-- The secure-memory window granted by the engine. -/
  window : Wire.Window := ⟨0, 0⟩
  /-- What is open. -/
  handles : HandleTable

namespace Session

variable {σ : Type} [Transport σ]

/-- **Something a session does that may fail.** What was done before a failure stays done. -/
abbrev Action (σ : Type) := ExceptT ClientError (StateM (Session σ))

/-! ## (1) Messages -/

/-- The outcome of a request with the arguments as it left them. -/
abbrev Operation (σ α : Type) := StateM (Session σ) (Except ClientError α × Arguments)

/-- One round trip over the transport of the session. -/
def process (c : Command) (handle : UInt32) (arguments : Arguments) : Operation σ Unit := fun s =>
  let (outcome, transport) := (s.channel.process c.code handle arguments).run s.transport
  (outcome, { s with transport })

/-- A round trip that yields its results. -/
def send (c : Command) (handle : UInt32) (arguments : Arguments) : Action σ Arguments :=
  ExceptT.mk do
    let (outcome, arguments) ← process c handle arguments
    return outcome.map fun _ => arguments

/-- The value of a look-up, or its failure. -/
def lift {α : Type} (r : Except ClientError α) : Action σ α := ExceptT.mk (pure r)

/-- The result of a request, which is of the kind that was sent. -/
def result {α : Type} (a : Option α) : Action σ α :=
  match a with
  | some a => pure a
  | none => throw (.validation .argumentsMismatch)

/-! ## (2) Services -/

/-- The engine's handle of the open session. -/
def address (s : Session σ) : Except ClientError UInt32 :=
  if s.identifier = 0 then .error .unknownHandle else .ok s.identifier

/-- What a service is opened on: its parent, and the handle of the parent at the engine. -/
def parentOf (s : Session σ) (kind : Service) :
    Except ClientError (Option ServiceHandle × UInt32) :=
  match kind.scope with
  | .session => do return (none, ← s.address)
  | .keyStore =>
    match s.keyStore with
    | some keyStore => do return (some keyStore, ← s.handles.resolveKind keyStore .keyStore)
    | none => .error .unknownHandle

/-- The engine handle that opening something returned. -/
def openedHandle : Arguments → UInt32
  | .openService a => a.handle
  | .openKeyStore a => a.handle
  | _ => 0

/-- **Opens what a handle is to stand for.** The slot reserved for it is given back on failure. -/
def acquire (kind : HandleKind) (parent : Option ServiceHandle) (parentAddress : UInt32)
    (arguments : Arguments) : Action σ ServiceHandle := do
  -- A slot is reserved before the engine is asked, so that what it opens can be recorded.
  let (pending, handles) ← lift ((← get).handles.add kind parent)
  modify fun s => { s with handles }
  let outcome ← ExceptT.lift (process kind.opening parentAddress arguments)
  match outcome with
  | (.ok (), arguments) =>
    let (handle, handles) := (← get).handles.activate pending (openedHandle arguments)
    modify fun s => { s with handles }
    return handle
  | (.error e, _) =>
    modify fun s => { s with handles := s.handles.deletePending pending }
    throw e

/-- **Opens a service.** -/
def openService (kind : Service) : Action σ ServiceHandle := do
  let (parent, parentAddress) ← lift ((← get).parentOf kind)
  acquire (.service kind) parent parentAddress (.openService { flags := 0 })

/-- **Closes what a handle stands for.** The handle is invalid afterwards, whether or not the engine
accepted. -/
def closeHandle (handle : ServiceHandle) : Action σ Unit := do
  let (context, handles) ← lift ((← get).handles.delete handle)
  modify fun s => { s with handles }
  -- The handle is invalid from here on, whatever the engine answers.
  let _ ← send context.kind.closing context.engineHandle .close

/-- **Closes a service** of a given kind. -/
def closeService (handle : ServiceHandle) (kind : Service) : Action σ Unit := do
  let _ ← lift ((← get).handles.resolveKind handle (.service kind))
  closeHandle handle

/-- **One operation on an open service** of a given kind. -/
def call (handle : ServiceHandle) (kind : Service) (c : Command) (arguments : Arguments) :
    Operation σ Unit := fun s =>
  match s.handles.resolveKind handle (.service kind) with
  | .ok engineHandle => process c engineHandle arguments s
  | .error e => ((.error e, arguments), s)

/-! ## (3) Start and end -/

/-- The first of two failures. -/
def firstFailure (a b : Except ClientError Unit) : Except ClientError Unit :=
  match a with
  | .ok () => b
  | .error e => .error e

/-- Closes some handles, continuing past every failure. -/
def closeAll : List ServiceHandle → StateM (Session σ) (Except ClientError Unit)
  | [] => pure (.ok ())
  | handle :: rest => do
    let first ← (closeHandle handle).run
    let others ← closeAll rest
    return firstFailure first others

/-- **Closes the session** and everything it has open. Closing a closed session does nothing. -/
def close : StateM (Session σ) (Except ClientError Unit) := do
  let s ← get
  if s.identifier = 0 then return .ok ()
  else
    -- What was opened last is closed first, so nothing outlives what it was opened on.
    let services ← closeAll s.handles.newestFirst
    modify fun s => { s with keyStore := none }
    let (session, _) ← process .closeSession s.identifier .close
    -- The session counts as closed even if the engine refused to close it.
    modify fun s => { s with identifier := 0 }
    return firstFailure services session

/-- **Gives a session up**: closes it and then its transport. -/
def release (s : Session σ) : σ := Transport.close (close.run s).2.transport

/-- **What a session does to come up.** The engine must not hand out a null session. -/
def establish (configuration : Configuration) : Action σ Unit := do
  -- The session. A null identifier stands for no session, so it cannot be one.
  let identifier ← result <| match ← send .openSession 0
      (.openSession { request := configuration.session }) with
    | .openSession a => some a.session
    | _ => none
  modify fun s => { s with identifier }
  if identifier = 0 then throw (.validation .nullSession)
  -- The window of secure memory, which the transport has to stay in.
  let window ← result <| match ← send .sharedBuffer identifier (.sharedBuffer ⟨0, 0⟩) with
    | .sharedBuffer window => some window
    | _ => none
  modify fun s => { s with window }
  let s ← get
  let (configured, transport) :=
    Transport.configureWindow s.transport window.offset.toUInt32 window.size.toUInt32
  set { s with transport }
  lift (configured.mapError .transport)
  -- The key store, which is the first thing to get a handle.
  let parameters := configuration.keyStore
  let keyStore ← acquire .keyStore none identifier
    (.openKeyStore
      { identifier := parameters.identifier, password := parameters.password,
        flags := parameters.flags })
  modify fun s => { s with keyStore := some keyStore }

/-- **A session over a given dispatch table.** Its handle table gets the identifier `tableId`. A
failure gives the transport back, released. -/
def startWith (transport : σ) (configuration : Configuration) (table : DispatchTable)
    (tableId : UInt32) : Except (ClientError × σ) (Session σ) :=
  let channel : Channel := { table, unit := configuration.unit, flavor := configuration.flavor }
  let (outcome, s) := (establish configuration).run
    { transport, channel, handles := { id := tableId, capacity := configuration.maxServices } }
  match outcome with
  | .ok () => .ok s
  | .error e => .error (e, s.release)

/-- **A session with the families of its `Configuration`.** A family that is not known is refused before
the transport is touched. -/
def start (transport : σ) (configuration : Configuration) (tableId : UInt32) :
    Except (ClientError × σ) (Session σ) :=
  match configuration.serviceFamilies with
  | .ok families => startWith transport configuration (.ofFamilies families) tableId
  | .error e => .error (e, transport)

/-- The number of open services, the key store included. -/
def openServices (s : Session σ) : Nat := s.handles.size

/-- Whether a session is open. -/
def isOpen (s : Session σ) : Bool := s.identifier != 0

end Session

end SecureEngine
