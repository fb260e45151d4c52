import SecureEngine.Proofs.Handlers

/-! # Exchanges with a device

* **`Device.Struck`** — a fault of the device strikes a request; **`Device.Fired`** — a fault has fired
  between two states.
* **`Device.Exchanged`** — the four ways an exchange can go: the device is closed, a fault strikes the
  request in one of two ways, or the engine executes it.
* **`Engine.Executed`** — what executing a request of a client does, and what the client gets. -/

namespace SecureEngine

namespace Device

/-! ## (1) Faults -/

/-- **A fault has fired** between two states of a `Device`: it is in the queue less often than before. -/
def Fired (fault : Fault) (d after : Device) : Prop :=
  after.faults.count fault < d.faults.count fault

/-- A fault is injected, by `Device.inject`, between two states of a device. -/
def Injecting (d after : Device) : Prop := ∃ fault, after = d.inject fault

/-- **A fault has denied a handle**: what it said to the client is that the handle is unknown. -/
def Denied (d after : Device) : Prop :=
  ∃ command error, Fired (.reject command error) d after ∧
    EngineError.ofRating error.code.toUInt8 = Reason.unknownHandle.toError

/-- **A fault strikes a request**: the exchange fails, or the request is refused unseen. -/
def Struck (d : Device) (request : Bytes) : Prop :=
  ∃ fault ∈ d.faults, fault = .transportFailure ∨ fault.rejects (Engine.commandByte request) = true

instance (d : Device) (request : Bytes) : Decidable (d.Struck request) :=
  inferInstanceAs (Decidable (∃ fault ∈ d.faults, _))

/-- `takeFault` finds nothing just if no fault in the queue is asked for. -/
theorem takeFault_eq_none {d : Device} {p : Fault → Bool} :
    d.takeFault p = none ↔ ∀ fault ∈ d.faults, ¬p fault = true := by
  rw [takeFault, Option.map_eq_none_iff, List.find?_eq_none]

/-- A fault that is taken satisfies the condition and leaves the others: `Device.takeFault` removes one
occurrence of it. -/
theorem takeFault_eq_some {d t : Device} {p : Fault → Bool} {fault : Fault}
    (h : d.takeFault p = some (fault, t)) : p fault = true ∧ ∃ faults,
      t = { d with faults } ∧ faults.Sublist d.faults ∧
        faults.count fault < d.faults.count fault := by
  obtain ⟨found, hfound, he⟩ := Option.map_eq_some_iff.mp h
  cases he
  obtain ⟨hp, first, rest, hsplit, hfirst⟩ := List.find?_eq_some_iff_append.mp hfound
  refine ⟨hp, _, rfl, List.eraseP_sublist, ?_⟩
  have hnot : ∀ a ∈ first, ¬p a = true := by
    intro a ha
    have := hfirst a ha
    simpa using this
  -- The fault is the first that satisfies the condition, and one of its kind is gone.
  rw [hsplit, List.eraseP_append_right _ hnot, List.eraseP_cons_of_pos hp, List.count_append,
    List.count_append, List.count_cons_self]
  omega

/-- A fault that has `Fired` is still gone when more faults are. -/
theorem Fired.of_sublist {fault : Fault} {d t u : Device} (h : Fired fault d t)
    (hu : u.faults.Sublist t.faults) : Fired fault d u :=
  Nat.lt_of_le_of_lt (hu.count_le fault) h

/-- A fault that fires later was in the queue before, so `Fired` holds from any state with at least those
faults. -/
theorem Fired.after_sublist {fault : Fault} {d t u : Device} (h : Fired fault t u)
    (ht : t.faults.Sublist d.faults) : Fired fault d u :=
  Nat.lt_of_lt_of_le h (ht.count_le fault)

/-! ## (2) Exchanges -/

/-- **The ways an exchange can go**: the device is closed, a fault strikes the request, or the engine
executes it and the response may be damaged. -/
inductive Exchanged (d : Device) (request : Bytes) (size : Nat) :
    Except TransportError Unit × Bytes → Device → Prop
  /-- Nothing passes a closed device. -/
  | closed (h : d.closed = true) : Exchanged d request size (.error failure, []) d
  /-- The exchange fails before the engine sees the request. -/
  | failed {faults : List Fault} {log written : Bytes} (hs : d.Struck request)
      (hf : faults.Sublist d.faults) :
      Exchanged d request size (.error failure, written) { d with faults, log }
  /-- The request is refused before the engine sees it. -/
  | rejected {error : EngineError} {faults : List Fault} {log : Bytes} (hs : d.Struck request)
      (hf : faults.Sublist d.faults)
      (hfired : Fired (.reject (Engine.commandByte request) error) d { d with faults }) :
      Exchanged d request size (.ok (), (d.machine.engine.statusReply (Engine.commandByte request)
        (ResponseCode.failure error)).bytes.take size) { d with faults, log }
  /-- The engine executes the request; the checksum of the response may be damaged. -/
  | executed {reply : Engine.Reply} {machine : Machine} {bytes : Bytes} {faults : List Fault}
      {log : Bytes} (hrun : (Engine.execute request).run d.machine = (reply, machine))
      (hbytes : bytes = reply.bytes ∨ (reply.isSealed = true ∧ bytes = corrupted reply.bytes))
      (hf : faults.Sublist d.faults) :
      Exchanged d request size (.ok (), bytes.take size) { d with machine, faults, log }

/-- Executing takes at most a fault that damages checksums: `Device.execute` answers as `Engine.execute`,
or with a `corrupted` response if that is sealed. -/
theorem execute_spec (d : Device) {request : Bytes} {reply : Engine.Reply} {machine : Machine}
    (hrun : (Engine.execute request).run d.machine = (reply, machine)) :
    ∃ bytes faults, d.execute request = (bytes, { d with machine, faults }) ∧
      (bytes = reply.bytes ∨ (reply.isSealed = true ∧ bytes = corrupted reply.bytes)) ∧
      faults.Sublist d.faults := by
  unfold execute
  rw [hrun]
  dsimp only
  -- The one fault that touches a reply is a corrupted checksum, which needs a reply that has one.
  by_cases hsealed : reply.isSealed = true
  · rw [if_pos hsealed]
    cases htake : takeFault { d with machine } (· == .corruptChecksum) with
    | none => exact ⟨_, d.faults, rfl, Or.inl rfl, List.Sublist.refl _⟩
    | some taken =>
      obtain ⟨fault, t⟩ := taken
      obtain ⟨-, faults, rfl, hsublist, -⟩ := takeFault_eq_some htake
      exact ⟨_, faults, rfl, Or.inr ⟨hsealed, rfl⟩, hsublist⟩
  · rw [if_neg hsealed]
    exact ⟨_, d.faults, rfl, Or.inl rfl, List.Sublist.refl _⟩

/-- What the engine executes is an exchange like any other: `Device.execute` is the last case of
`Exchanged`. -/
theorem exchanged_execute {d : Device} (log request : Bytes) (size : Nat) :
    Exchanged d request size
      (.ok (), (execute { d with log } request).1.take size) (execute { d with log } request).2 := by
  rcases hrun : (Engine.execute request).run d.machine with ⟨reply, machine⟩
  obtain ⟨bytes, faults, hexecute, hbytes, hsublist⟩ := execute_spec { d with log } hrun
  rw [hexecute]
  exact .executed hrun hbytes hsublist

/-- **Every exchange goes one of these ways**: `Device.exchange` is `Exchanged` for each request and each
room for the response. -/
theorem exchanged (d : Device) (request : Bytes) (size : Nat) :
    Exchanged d request size (d.exchange request size).1 (d.exchange request size).2 := by
  unfold exchange
  by_cases hclosed : d.closed = true
  · rw [if_pos hclosed]
    exact .closed hclosed
  rw [if_neg hclosed]
  dsimp only
  split
  · rename_i fault t htake
    obtain ⟨hp, faults, rfl, hsublist, hcount⟩ := takeFault_eq_some htake
    -- An injected failure of the transport is used up before the engine is asked.
    obtain rfl : fault = .transportFailure := by simpa using hp
    have hmem : Fault.transportFailure ∈ d.faults :=
      List.count_pos_iff.mp (Nat.zero_lt_of_lt hcount)
    exact .failed ⟨_, hmem, Or.inl rfl⟩ hsublist
  split
  · rename_i command e t htake
    obtain ⟨hp, faults, rfl, hsublist, hcount⟩ := takeFault_eq_some htake
    -- So is an injected rejection, which needs the right command.
    obtain rfl : command = Engine.commandByte request := by simpa [Fault.rejects] using hp
    have hmem : Fault.reject (Engine.commandByte request) e ∈ d.faults :=
      List.count_pos_iff.mp (Nat.zero_lt_of_lt hcount)
    exact .rejected ⟨_, hmem, Or.inr hp⟩ hsublist hcount
  · exact exchanged_execute _ request size

/-- **A request that nothing strikes is executed**: on an open device `Device.exchange` is
`Device.execute`, but for the log. -/
theorem exchange_of_not_struck {d : Device} {request : Bytes} (hclosed : d.closed = false)
    (h : ¬d.Struck request) (size : Nat) :
    ∃ log, d.exchange request size = ((.ok (), (execute { d with log } request).1.take size),
      (execute { d with log } request).2) := by
  refine ⟨d.log ++ [Engine.commandByte request], ?_⟩
  have hfailure : takeFault { d with log := d.log ++ [Engine.commandByte request] }
      (· == .transportFailure) = none :=
    takeFault_eq_none.mpr fun fault hf he => h ⟨fault, hf, Or.inl (by simpa using he)⟩
  have hreject : takeFault { d with log := d.log ++ [Engine.commandByte request] }
      (Fault.rejects (Engine.commandByte request)) = none :=
    takeFault_eq_none.mpr fun fault hf he => h ⟨fault, hf, Or.inr he⟩
  -- Neither fault is there, so both searches go past the queue.
  unfold exchange
  rw [if_neg (by rw [hclosed]; exact Bool.false_ne_true)]
  dsimp only
  rw [hfailure]
  dsimp only
  rw [hreject]

end Device

/-! ## (3) Executing requests of a client -/

namespace Engine

/-- **What executing a request of a client does**, with the `Reply` and the machine afterwards. -/
inductive Executed {c : Command} (handle : UInt32) (machine : Machine) : Reply → Machine → Prop
  /-- The layout of the request is not the one the engine reads. -/
  | unread (hc : c = .sign) :
      Executed handle machine
        (machine.engine.statusReply c.code (ResponseCode.failure Reason.invalidMessage.toError))
        machine
  | failed {m : c.Request machine.engine.settings.flavor} {e : EngineError} {after : Machine}
      (hm : ∀ a, c.addressee? m = some a → a = handle)
      (h : Handled m machine.engine (.error e) after.engine) :
      Executed handle machine (after.engine.statusReply c.code (ResponseCode.failure e)) after
  | succeeded {m : c.Request machine.engine.settings.flavor}
      {response : c.Response machine.engine.settings.flavor} {after : Machine}
      (hm : ∀ a, c.addressee? m = some a → a = handle)
      (h : Handled m machine.engine (.ok response) after.engine) :
      Executed handle machine (after.engine.reply c.code c.responseSealed
        (c.encodeResponse ResponseCode.success response)) after

/-- Answering a request that the engine can read is up to the handler of its command. -/
theorem run_answer {machine : Machine} {request : Bytes} {c : Command}
    {m : c.Request machine.engine.settings.flavor}
    (haccept : machine.engine.accept request = .ok c)
    (hdecode : c.decodeRequest machine.engine.settings.flavor request = .ok m) :
    (answer request).run machine =
      match (handle machine.engine.settings.flavor c m).run machine with
      | (.ok response, after) => (.ok (c, c.encodeResponse ResponseCode.success response), after)
      | (.error e, after) => (.error e, after) := by
  -- Accepting and decoding leave the machine alone, so only the handler is left.
  rw [answer, run_bind_ok (Handling.run_engine machine),
    run_bind_ok (Handling.run_lift_ok haccept machine),
    run_bind_ok (Handling.run_lift_ok hdecode machine), run_bind]
  rcases (handle machine.engine.settings.flavor c m).run machine with ⟨_ | _, _⟩ <;> rfl

/-- A request with another layout is not answered: where `Command.decodeRequest` fails, `Engine.answer`
does, with the same error and the machine as it was. -/
theorem run_answer_unread {machine : Machine} {request : Bytes} {c : Command} {e : EngineError}
    (haccept : machine.engine.accept request = .ok c)
    (hdecode : c.decodeRequest machine.engine.settings.flavor request = .error e) :
    (answer request).run machine = (.error e, machine) := by
  rw [answer, run_bind_ok (Handling.run_engine machine),
    run_bind_ok (Handling.run_lift_ok haccept machine)]
  exact run_bind_error (Handling.run_lift_error hdecode machine)

/-- Executing is answering, and wrapping up whatever came of it: `Engine.execute` is `Engine.answer`
followed by a reply or a bare status. -/
theorem run_execute (request : Bytes) (machine : Machine) :
    (execute request).run machine = match (answer request).run machine with
      | (.ok (c, response), after) =>
        (after.engine.reply (commandByte request) c.responseSealed response, after)
      | (.error e, after) =>
        (after.engine.statusReply (commandByte request) (ResponseCode.failure e), after) := by
  have hrun : StateT.run (ExceptT.run (answer request)) machine = (answer request).run machine := rfl
  rw [execute, StateT.run_bind, hrun]
  rcases (answer request).run machine with ⟨_ | _, _⟩ <;> rfl

/-- **Executing a request of a client** with the same header values: the engine reads it, unless it is
about signing, and what it does is `Handled`. -/
theorem executed {channel : Channel} {c : Command} (request : c.Request channel.flavor)
    {machine : Machine} (hunit : channel.unit = machine.engine.settings.unit) {handle : UInt32}
    (hhandle : ∀ a, c.addressee? request = some a → a = handle) :
    Executed (c := c) handle machine ((execute (channel.frame c.code request)).run machine).1
      ((execute (channel.frame c.code request)).run machine).2 := by
  have haccept := accept_frame hunit request
  rw [run_execute, channel.commandByte_frame request]
  rcases channel.decodeRequest_frame machine.engine.settings.flavor request with
    ⟨m, hdecode, haddressee⟩ | ⟨hc, hdecode⟩
  · have hm (a : UInt32) (ha : c.addressee? m = some a) := hhandle a (haddressee ▸ ha)
    have h := handled m machine
    rw [run_answer haccept hdecode]
    rcases hrun : (Engine.handle machine.engine.settings.flavor c m).run machine with ⟨e | response, after⟩
    · rw [hrun] at h
      exact .failed hm h
    · rw [hrun] at h
      exact .succeeded hm h
  · -- Signing requests differ between the firmwares.
    rw [run_answer_unread haccept hdecode]
    exact .unread hc

end Engine

end SecureEngine
