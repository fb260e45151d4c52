import SecureEngine.Proofs.Accesses
import SecureEngine.Proofs.Delivery

/-! # Round trips with a device that serves

* **`Device.Serves`** — a device is open and free of faults, and has the settings of a client.
* **`Engine.run_execute_frame`** — executing a request of such a client runs the handler of its command.
* **`Device.Served`**, **`Device.served`** — the client learns how the handler failed, or settles the
  success with what the handler responded.
* **`Channel.isFraming_process`** — the two never misunderstand each other. -/

namespace SecureEngine

/-! ## (1) Execution -/

/-- **The `Reply` to a request**, by what its handler came to. -/
def Engine.replyOf {flavor : Flavor} (engine : Engine) (c : Command) :
    Except EngineError (c.Response flavor) → Reply
  | .ok content =>
    engine.reply c.code c.responseSealed (c.encodeResponse ResponseCode.success content)
  | .error e => engine.statusReply c.code (ResponseCode.failure e)

/-- **Executing a request that is accepted** from a client of the same firmware comes to what the handler
of its command does. -/
theorem Engine.run_execute_accepted (channel : Channel) {machine after : Machine} {c : Command}
    (request : c.Request channel.flavor) {result : Except EngineError (c.Response channel.flavor)}
    (haccept : machine.engine.accept (channel.frame c.code request) = .ok c)
    (hflavor : channel.flavor = machine.engine.settings.flavor)
    (hrun : (handle channel.flavor c request).run machine = (result, after)) :
    (execute (channel.frame c.code request)).run machine = (after.engine.replyOf c result, after) := by
  obtain ⟨table, unit, flavor⟩ := channel
  obtain rfl : flavor = _ := hflavor
  dsimp only at hrun
  rw [run_execute, Channel.commandByte_frame,
    run_answer haccept (Channel.decodeRequest_frame_self _ request), hrun]
  cases result <;> rfl

/-- **Executing a request of a client with the same settings** runs the handler of its command. -/
theorem Engine.run_execute_frame {channel : Channel} {machine : Machine}
    (hunit : channel.unit = machine.engine.settings.unit)
    (hflavor : channel.flavor = machine.engine.settings.flavor) {c : Command}
    (request : c.Request channel.flavor) :
    (execute (channel.frame c.code request)).run machine =
      match (handle channel.flavor c request).run machine with
      | (.ok content, after) => (after.engine.reply c.code c.responseSealed
          (c.encodeResponse ResponseCode.success content), after)
      | (.error e, after) => (after.engine.statusReply c.code (ResponseCode.failure e), after) := by
  -- The frame is accepted in either case; the reply is that of the result.
  rcases hrun : (handle channel.flavor c request).run machine with ⟨_ | _, _⟩
  all_goals exact run_execute_accepted channel request (accept_frame hunit request) hflavor hrun

namespace Device

/-- **A device serves a client**: it is open and free of faults, and has the settings of the client. -/
structure Serves (channel : Channel) (d : Device) : Prop where
  unit_eq : channel.unit = d.machine.engine.settings.unit
  flavor_eq : channel.flavor = d.machine.engine.settings.flavor
  closed_eq : d.closed = false
  faults_eq : d.faults = []

variable {channel : Channel} {d t : Device}

/-- Whether a device serves a client depends on its `core`. -/
theorem Serves.of_core_eq (h : d.Serves channel) (ht : t.core = d.core) : t.Serves channel where
  unit_eq := by rw [engine_of_core_eq ht, h.unit_eq]
  flavor_eq := by rw [engine_of_core_eq ht, h.flavor_eq]
  closed_eq := (follows_of_core_eq ht).closed_eq.trans h.closed_eq
  faults_eq := List.sublist_nil.mp (h.faults_eq ▸ (follows_of_core_eq ht).faults)

/-- Placing buffers leaves the `core` of a device as it was. -/
theorem core_placed {placements : List Placement} (h : Placed d placements t) : t.core = d.core := by
  induction h with
  | nil => rfl
  | leftOut _ _ ih => exact ih
  | @staged d _ _ attachment _ _ _ hd _ ih =>
    rw [ih, ← core_dataBuffer d attachment.buffer attachment.use, hd]

/-- **What is sent to a device that serves is executed**, and the reply comes back as it is. -/
theorem Serves.exchange_eq (h : d.Serves channel) (request : Bytes) (size : Nat) :
    ∃ log, d.exchange request size =
      ((.ok (), ((Engine.execute request).run d.machine).1.bytes.take size),
        { d with machine := ((Engine.execute request).run d.machine).2, log }) := by
  have hstruck : ¬d.Struck request := by
    rintro ⟨fault, hfault, -⟩
    rw [h.faults_eq] at hfault
    cases hfault
  obtain ⟨log, hexchange⟩ := exchange_of_not_struck h.closed_eq hstruck size
  refine ⟨log, ?_⟩
  rw [hexchange]
  rcases hrun : (Engine.execute request).run d.machine with ⟨reply, machine⟩
  have htake : takeFault { d with machine, log } (· == .corruptChecksum) = none :=
    takeFault_eq_none.mpr fun fault hfault => by
      rw [h.faults_eq] at hfault
      cases hfault
  unfold execute
  rw [hrun]
  dsimp only
  rw [htake]
  split <;> rfl

/-! ## (2) Round trips -/

/-- **What comes of a `Prepared` request**, with the result for the client and the device before the
registrations are dropped. -/
inductive Served (channel : Channel) {c : Command} (p : Prepared channel.flavor c)
    (arguments : Arguments) (t : Device) : Except ClientError Unit × Arguments → Device → Prop
  /-- The handler fails, and the client learns why. -/
  | failed {e : EngineError} {after : Machine} {log : Bytes}
      (hrun : (Engine.handle channel.flavor c p.request).run t.machine = (.error e, after)) :
      Served channel p arguments t
        (.error (.engine (EngineError.ofRating e.code.toUInt8)), arguments)
        { t with machine := after, log }
  /-- The handler succeeds, and the client settles the success with what it responded. -/
  | succeeded {content : c.Response channel.flavor} {after : Machine} {log response : Bytes}
      (hrun : (Engine.handle channel.flavor c p.request).run t.machine = (.ok content, after))
      (hdecode : c.decodeResponse channel.flavor response = .ok content) :
      Served channel p arguments t
        (channel.settle c.code p.output response arguments ({ t with machine := after, log } : Device)).1
        { t with machine := after, log }

/-- **Every `Prepared` request is served** by a device that serves the client. -/
theorem served (hl : channel.table.Lawful) (h : d.Serves channel) {code : UInt8} {handle : UInt32}
    {arguments : Arguments} {c : Command} {p : Prepared channel.flavor c}
    (hprepare : (channel.table.prepare channel.flavor code handle Wire.maxMessageSize
      arguments).run d = (.ok ⟨c, p⟩, t)) :
    ∃ u, Served channel p arguments t ((channel.process code handle arguments).run d).1 u ∧
      ((channel.process code handle arguments).run d).2 = Transport.resetDataBuffers u := by
  obtain ⟨hc, placements, hplaced, -⟩ := DispatchTable.placed_of_prepare hprepare
  obtain rfl := hl.code_of_get? hc
  have ht := h.of_core_eq (core_placed hplaced)
  have hsize := c.statusSize_le_responseSize channel.flavor
  obtain ⟨log, hexchange⟩ := ht.exchange_eq (channel.frame c.code p.request)
    (c.responseSize channel.flavor)
  have hx : Transport.sendAndReceive t (channel.frame c.code p.request)
    (c.responseSize channel.flavor) = _ := hexchange
  -- What the client framed is what the engine decodes, so the handler runs on the request that was
  -- prepared.
  have hexecute := Engine.run_execute_frame ht.unit_eq ht.flavor_eq p.request
  have hhandled := Engine.handled p.request t.machine
  rw [Channel.run_process, hprepare]
  dsimp only
  rw [hx]
  dsimp only
  rcases hrun : (Engine.handle channel.flavor c p.request).run t.machine with ⟨e | content, after⟩
  · rw [hrun] at hexecute hhandled
    rw [hexecute]
    dsimp only
    rw [verdict_failure (hhandled.settings_eq ▸ ht.unit_eq) c.code e hsize]
    exact ⟨_, .failed hrun, rfl⟩
  · rw [hrun] at hexecute hhandled
    rw [hexecute]
    dsimp only
    rw [verdict_success (hhandled.settings_eq ▸ ht.unit_eq) content (Or.inl rfl) hsize]
    refine ⟨_, .succeeded hrun (after.engine.decodeResponse_received c.code _ content), ?_⟩
    exact congrArg Transport.resetDataBuffers (settle_eq channel c.code p.output _ arguments _)

end Device

/-! ## (3) Understanding -/

/-- A response that has been read is not found wanting later: an error of `Command.complete` after
`decodeResponse` is not about messages. -/
theorem Command.isFraming_complete {flavor : Flavor} {c : Command} {response : Bytes}
    {content : c.Response flavor} {arguments : Arguments} {e : ClientError}
    (hd : c.decodeResponse flavor response = .ok content)
    (h : c.complete flavor response arguments = .error e) : e.isFraming = false := by
  -- The response was decoded, so what can fail is the size of a signature, and the arguments.
  unfold complete at h
  split at h
  case h_11 a =>
    cases flavor with
    | psa =>
      rw [hd] at h
      cases h
    | legacy =>
      dsimp only at h
      unfold halfSize at h
      split at h <;> cases h
      rfl
  all_goals first
    | (rw [hd] at h; cases h)
    | (cases h <;> rfl)

namespace Channel

/-- Neither is one to a success that is settled: an error of `Channel.settle` is not about messages, if
the response can be read. -/
theorem isFraming_settle {σ : Type} [Transport σ] {channel : Channel} {c : Command}
    (hc : channel.table.get? c.code = some c) {output : Option Address} {response : Bytes}
    {content : c.Response channel.flavor} {arguments : Arguments} {s : σ} {e : ClientError}
    (hd : c.decodeResponse channel.flavor response = .ok content)
    (h : (channel.settle c.code output response arguments s).1.1 = .error e) :
    e.isFraming = false := by
  -- Reading back fails with an error of the transport, so only completing is left to look at.
  have hconclude {now : Arguments} (h : (channel.conclude c.code response now).1 = .error e) :
      e.isFraming = false := by
    unfold conclude DispatchTable.complete at h
    rw [hc] at h
    dsimp only at h
    cases hcomplete : c.complete channel.flavor response now with
    | ok completed =>
      rw [hcomplete] at h
      cases h
    | error e' =>
      rw [hcomplete] at h
      cases h
      exact Command.isFraming_complete hd hcomplete
  unfold settle at h
  split at h
  · rename_i address out _
    rcases hx : Transport.readDataBuffer s address out with ⟨_ | _, _⟩
    · rw [hx] at h
      cases h
      rfl
    · rw [hx] at h
      exact hconclude h
  · exact hconclude h

/-- **Client and engine understand each other**: with any table of commands, whatever the message, the
handle and the arguments, no round trip with a device that serves the client fails because a request or
a response was not understood. -/
theorem isFraming_process {channel : Channel} {sets : List FamilySet}
    (htable : channel.table = .enabling sets) {d : Device} (h : d.Serves channel) (code : UInt8)
    (handle : UInt32) (arguments : Arguments) {e : ClientError}
    (he : ((channel.process code handle arguments).run d).1.1 = .error e) : e.isFraming = false := by
  have hl : channel.table.Lawful := htable ▸ DispatchTable.lawful_enabling sets
  rcases hprepare : (channel.table.prepare channel.flavor code handle Wire.maxMessageSize
    arguments).run d with ⟨e' | ⟨c, p⟩, t⟩
  · -- Nothing is sent.
    rw [run_process, hprepare] at he
    cases he
    exact DispatchTable.isFraming_prepare hprepare
  obtain ⟨u, hserved, -⟩ := Device.served hl h hprepare
  generalize ((channel.process code handle arguments).run d).1 = result at he hserved
  cases hserved with
  | failed hrun =>
    -- The handler has read the request, and complains about something else.
    obtain ⟨loads, stores, result, after, hperforms, hconducted⟩ :=
      Engine.conducts_handle c p.request t.machine
    rw [hperforms.run_eq] at hrun
    cases hrun
    obtain ⟨r, rfl, hr⟩ := hconducted.failed _ rfl
    cases he
    rw [r.isFraming_ofRating, hr]
  | succeeded hrun hdecode =>
    obtain ⟨hc, -⟩ := DispatchTable.placed_of_prepare hprepare
    rw [← hl.code_of_get? hc] at hc
    exact isFraming_settle hc hdecode he

/-- A device fails to close a session that is not open, but understands the request. -/
theorem isFraming_process_unknown :
    let channel : Channel := ⟨.enabling [.full], .standard, .legacy⟩
    let d : Device := { machine := { engine := .start {} } }
    d.Serves channel ∧ ∃ e : ClientError,
      ((channel.process Command.closeSession.code 7 .close).run d).1.1 = .error e ∧
        e.isFraming = false := by
  intro channel d
  have hserves : d.Serves channel := ⟨rfl, rfl, rfl, rfl⟩
  obtain ⟨e, he⟩ := exists_eq_error
    (r := ((channel.process Command.closeSession.code 7 .close).run d).1.1) (by decide +kernel)
  exact ⟨hserves, e, he, isFraming_process rfl hserves Command.closeSession.code 7 .close he⟩

end Channel

end SecureEngine
