import SecureEngine.Proofs.Damage
import SecureEngine.Proofs.Outcomes

/-! # Requests of anyone

An engine executes whatever byte string it is sent, with the shared memory as the client left it.

* **`Engine.Reads`** — a byte string is a request for a command, with its content.
* **`Engine.Reply.Failed`** — a reply says that its request has failed.
* **`Engine.Answered`** — the three ways in which executing a byte string can go.
* **`Engine.Ends`** — what the two replies mean: a failure spares what failures spare, and after a
  success a command is completed.
* **`Engine.afterAll`** — the engine after a run of requests; **`Engine.afterAll_induction`** — what
  every request preserves holds after every run. -/

namespace SecureEngine.Engine

/-! ## (1) Reading and answering -/

/-- **An engine reads a byte string as a request** for a command: `Engine.accept` finds the command, and
`decodeRequest` the fields. -/
structure Reads (engine : Engine) (request : Bytes) (c : Command)
    (m : c.Request engine.settings.flavor) : Prop where
  accept_eq : engine.accept request = .ok c
  decode_eq : c.decodeRequest engine.settings.flavor request = .ok m

/-- What a client sends that has the settings of the engine: the bytes that the engine `Reads` as this
request. -/
def requestFor (engine : Engine) (c : Command) (m : c.Request engine.settings.flavor) : Bytes :=
  Wire.finish engine.settings.unit.version engine.settings.unit.commandTag c.code c.requestSealed
    (c.encodeRequest m)

/-- **Executing a request that is read** is up to the handler of its command. -/
theorem Reads.run_execute_eq {machine : Machine} {request : Bytes} {c : Command}
    {m : c.Request machine.engine.settings.flavor} (h : machine.engine.Reads request c m) :
    (execute request).run machine =
      match (handle machine.engine.settings.flavor c m).run machine with
      | (.ok response, after) => (after.engine.reply (commandByte request) c.responseSealed
          (c.encodeResponse ResponseCode.success response), after)
      | (.error e, after) =>
        (after.engine.statusReply (commandByte request) (ResponseCode.failure e), after) := by
  rw [run_execute, run_answer h.accept_eq h.decode_eq]
  rcases (handle machine.engine.settings.flavor c m).run machine with ⟨_ | _, _⟩ <;> rfl

/-- **A `Reply` says that its request has failed**, by the status in its response code. -/
def Reply.Failed (reply : Reply) : Prop :=
  ResponseCode.status (Channel.statusOf reply.bytes).2 = ResponseCode.failureStatus

instance : DecidablePred Reply.Failed := fun reply =>
  inferInstanceAs (Decidable (ResponseCode.status (Channel.statusOf reply.bytes).2 = _))

/-- A bare status with the code of an error is a reply that has `Failed`. -/
theorem failed_statusReply (engine : Engine) (command : UInt8) (e : EngineError) :
    (engine.statusReply command (ResponseCode.failure e)).Failed := by
  rw [Reply.Failed, statusOf_statusReply]
  exact ResponseCode.status_compose _ _

/-- A response with content says that its request has succeeded: no reply with `ResponseCode.success` is
`Failed`. -/
theorem not_failed_reply (engine : Engine) (command : UInt8) {flavor : Flavor} (c : Command)
    (response : c.Response flavor) :
    ¬(engine.reply command c.responseSealed
      (c.encodeResponse ResponseCode.success response)).Failed := by
  obtain ⟨length, tail, -, h⟩ := engine.bytes_reply command c ResponseCode.success response
  rw [Reply.Failed, h, Channel.statusOf]
  dsimp only
  rw [List.drop_left' (Wire.length_encode_header _), Bytes.word_ofWord_append]
  decide

/-- **The ways in which executing a byte string can go**, with the `Reply` and the machine afterwards. -/
inductive Answered (before : Machine) (request : Bytes) : Reply → Machine → Prop
  /-- No command reads the byte string. -/
  | refused (e : EngineError) : Answered before request
      (before.engine.statusReply (commandByte request) (ResponseCode.failure e)) before
  | failed {c : Command} {m : c.Request before.engine.settings.flavor} {e : EngineError}
      {after : Machine} (hreads : before.engine.Reads request c m)
      (hrun : (handle before.engine.settings.flavor c m).run before = (.error e, after)) :
      Answered before request
        (after.engine.statusReply (commandByte request) (ResponseCode.failure e)) after
  | succeeded {c : Command} {m : c.Request before.engine.settings.flavor}
      {response : c.Response before.engine.settings.flavor} {after : Machine}
      (hreads : before.engine.Reads request c m)
      (hrun : (handle before.engine.settings.flavor c m).run before = (.ok response, after)) :
      Answered before request (after.engine.reply (commandByte request) c.responseSealed
        (c.encodeResponse ResponseCode.success response)) after

/-- **Executing a byte string goes one of these ways**: `Engine.execute` is `Answered` for every byte
string and every machine. -/
theorem answered (request : Bytes) (machine : Machine) :
    Answered machine request ((execute request).run machine).1
      ((execute request).run machine).2 := by
  -- The handler is reached only by a request that is accepted and decoded.
  cases haccept : machine.engine.accept request with
  | error e =>
    rw [run_execute_refused (run_answer_refused haccept)]
    exact .refused e
  | ok c =>
    cases hdecode : c.decodeRequest machine.engine.settings.flavor request with
    | error e =>
      rw [run_execute_refused (run_answer_unread haccept hdecode)]
      exact .refused e
    | ok m =>
      have hreads : machine.engine.Reads request c m := ⟨haccept, hdecode⟩
      rw [hreads.run_execute_eq]
      rcases hrun : (handle machine.engine.settings.flavor c m).run machine with ⟨e | response, after⟩
      · exact .failed hreads hrun
      · exact .succeeded hreads hrun

/-! ## (2) What the reply says -/

/-- **What executing a byte string does**, by its `Reply`. -/
inductive Ends (before : Machine) (request : Bytes) (reply : Reply) (after : Machine) : Prop
  | failed (hfailed : reply.Failed) (hspares : Spares before after)
      (hstores : after.engine.keyStores = before.engine.keyStores ∨
        ∃ (c : Command) (m : c.Request before.engine.settings.flavor),
          before.engine.Reads request c m ∧ Strands before after.engine.keyStores c m)
  | succeeded (hsucceeded : ¬reply.Failed) {c : Command}
      {m : c.Request before.engine.settings.flavor} (hreads : before.engine.Reads request c m)
      (hcompletes : Completes before.engine after.engine c m)

/-- **Whatever is executed**, the reply says whether a command is completed: `Ends` ties `Reply.Failed` to
what became of the engine. -/
theorem execute_ends (request : Bytes) (machine : Machine) :
    Ends machine request ((execute request).run machine).1
      ((execute request).run machine).2 := by
  have hanswered := answered request machine
  revert hanswered
  generalize ((execute request).run machine).1 = reply
  generalize ((execute request).run machine).2 = after
  intro hanswered
  cases hanswered with
  | refused e => exact .failed (failed_statusReply _ _ e) (.refl machine) (Or.inl rfl)
  | @failed c m e _ hreads hrun =>
    have houtcome := outcome m machine
    rw [hrun] at houtcome
    obtain ⟨hspares, hstores⟩ := houtcome.failed e rfl
    refine .failed (failed_statusReply _ _ e) hspares ?_
    exact hstores.imp_right fun hstrands => ⟨c, m, hreads, hstrands⟩
  | @succeeded c m response _ hreads hrun =>
    have houtcome := outcome m machine
    rw [hrun] at houtcome
    exact .succeeded (not_failed_reply _ _ c response) hreads (houtcome.succeeded response rfl)

/-! ## (3) Runs -/

/-- **The engine after one request**, which finds the memory of the client as given. -/
def step (engine : Engine) (memory : SharedMemory) (request : Bytes) : Engine :=
  ((execute request).run ⟨engine, memory⟩).2.engine

/-- **The engine after a run of requests.** The client may do to its memory what it wants between
them, so each comes with the memory that it finds. -/
def afterAll (engine : Engine) : List (SharedMemory × Bytes) → Engine
  | [] => engine
  | (memory, request) :: rest => (engine.step memory request).afterAll rest

/-- **What every request preserves holds after every run**: the induction over `Engine.afterAll`, packaged
once. -/
theorem afterAll_induction {p : Engine → Prop}
    (hstep : ∀ (e : Engine) (memory : SharedMemory) (request : Bytes), p e →
      p (e.step memory request)) {engine : Engine} (h : p engine)
    (requests : List (SharedMemory × Bytes)) : p (engine.afterAll requests) := by
  induction requests generalizing engine with
  | nil => exact h
  | cons head rest ih =>
    obtain ⟨memory, request⟩ := head
    exact ih (hstep engine memory request h)

/-- The settings of an engine do not change, whatever `Engine.step` is given. -/
theorem settings_step (engine : Engine) (memory : SharedMemory) (request : Bytes) :
    (engine.step memory request).settings = engine.settings := by
  have h := answered request ⟨engine, memory⟩
  unfold step
  generalize ((execute request).run ⟨engine, memory⟩).1 = reply at h
  generalize ((execute request).run ⟨engine, memory⟩).2 = after at h ⊢
  cases h with
  | refused e => rfl
  | failed hreads hrun | succeeded hreads hrun =>
    rename_i m _
    have hhandled := handled m ⟨engine, memory⟩
    rw [hrun] at hhandled
    exact hhandled.settings_eq

/-- No requests change the settings of an engine, by `afterAll_induction` from `settings_step`. -/
theorem settings_afterAll (engine : Engine) (requests : List (SharedMemory × Bytes)) :
    (engine.afterAll requests).settings = engine.settings :=
  afterAll_induction (p := fun e => e.settings = engine.settings)
    (fun e memory request h => (settings_step e memory request).trans h) rfl requests

end SecureEngine.Engine
