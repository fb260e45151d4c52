import SecureEngine.Proofs.Course
import SecureEngine.Proofs.DispatchTable
import SecureEngine.Proofs.Exchanges

/-! # Round trips with a device

* **`Device.Delivery`** — what a request of a client does to a device: it is lost before the engine sees
  it, or the engine handles it and the client learns the outcome.
* **`Device.delivery`** — every round trip is one of these, for a client with the header values of the
  engine. -/

namespace SecureEngine

/-! ## (1) Openings -/

/-- The handle in the response to an opening; a response to any other `Command` has none. -/
def Command.responded? {flavor : Flavor} : (c : Command) → c.Response flavor → Option UInt32
  | .openSession, handle | .openKeyStore, handle | .openService _, handle => some handle
  | _, _ => none

/-- The handle in the arguments of an opening, where completing them from the response has put it. -/
def Command.opened? : Command → Arguments → Option UInt32
  | .openSession, .openSession a => some a.session
  | .openKeyStore, .openKeyStore a => some a.handle
  | .openService _, .openService a => some a.handle
  | _, _ => none

/-- The arguments of an opening are completed with the handle in the response: `complete` cannot fail
where `decodeResponse` has not. -/
theorem Command.complete_opening {flavor : Flavor} {c : Command} {arguments : Arguments}
    {bytes : Bytes} {response : c.Response flavor} {handle : UInt32} (hc : (c.opened? arguments).isSome)
    (hd : c.decodeResponse flavor bytes = .ok response) (hr : c.responded? response = some handle) :
    ∃ completed, c.complete flavor bytes arguments = .ok completed ∧
      c.opened? completed = some handle := by
  cases c with
  | openSession =>
    cases arguments with
    | openSession a =>
      refine ⟨.openSession { a with session := response }, ?_, hr⟩
      rw [complete, hd]
      rfl
    | _ => cases hc
  | openKeyStore =>
    cases arguments with
    | openKeyStore a =>
      refine ⟨.openKeyStore { a with handle := response }, ?_, hr⟩
      rw [complete, hd]
      rfl
    | _ => cases hc
  | openService kind =>
    cases arguments with
    | openService a =>
      refine ⟨.openService { a with handle := response }, ?_, hr⟩
      rw [complete, hd]
      rfl
    | _ => cases hc
  | _ => cases hr

/-- Openings have nothing to read back: the handle comes with the response, and `Arguments.output?` has no
buffer. -/
theorem Command.output?_of_opened? {c : Command} {arguments : Arguments}
    (hc : (c.opened? arguments).isSome) : arguments.output? = none := by
  cases arguments with
  | openSession | openKeyStore | openService => rfl
  | _ => cases c <;> cases hc

/-- **A client of either firmware finds the handle** in the response to an opening, since both lay it out
alike. -/
theorem Engine.decodeResponse_opening (engine : Engine) {flavor : Flavor} (other : Flavor)
    {c : Command} {response : c.Response flavor} {handle : UInt32} (command : UInt8) (code : UInt32)
    (hr : c.responded? response = some handle) :
    ∃ response' : c.Response other, c.responded? response' = some handle ∧
      c.decodeResponse other (Bytes.overlay (Bytes.blank (c.responseSize other))
        ((engine.reply command c.responseSealed (c.encodeResponse code response)).bytes.take
          (c.responseSize other))) = .ok response' := by
  cases c with
  | openSession | openKeyStore | openService =>
    -- Responses to openings are the same for both.
    refine ⟨response, hr, ?_⟩
    have h := engine.decodeResponse_received command code response
    generalize Reply.bytes _ = bytes at h ⊢
    exact h
  | _ => cases hr

namespace Device

/-! ## (2) What buffers do not touch -/

/-- What a device is besides its memory and its log: the engine, the faults still in the queue, and
whether it is closed. -/
def core (d : Device) : Engine × List Fault × Bool := (d.machine.engine, d.faults, d.closed)

/-- Staging a buffer changes the memory of a device, and nothing of its `core`. -/
theorem core_dataBuffer (d : Device) (buffer : Bytes) (use : BufferUse) :
    (Transport.dataBuffer d buffer use).2.core = d.core := by
  change (d.outcome (d.machine.memory.register buffer use)).2.core = d.core
  cases d.machine.memory.register buffer use <;> rfl

/-- Staging a buffer by `Transport.dataBuffer` is no request, so the engine does not log it. -/
theorem log_dataBuffer (d : Device) (buffer : Bytes) (use : BufferUse) :
    (Transport.dataBuffer d buffer use).2.log = d.log := by
  change (d.outcome (d.machine.memory.register buffer use)).2.log = d.log
  cases d.machine.memory.register buffer use <;> rfl

/-- Granting a window changes the memory of a device, and nothing of its `core`. -/
theorem core_configureWindow (d : Device) (offset size : UInt32) :
    (Transport.configureWindow d offset size).2.core = d.core := by
  change (d.outcome ((d.machine.memory.setWindow offset size).map fun memory => ((), memory))).2.core
    = d.core
  cases d.machine.memory.setWindow offset size <;> rfl

/-- However many buffers are staged, the `core` of a device stays as it is. -/
theorem core_staged {d t : Device} {calls : List (TransportCall Device)} (h : Staged d calls t) :
    t.core = d.core :=
  h.invariant core_dataBuffer

/-- Settling a success leaves a device alone: `Channel.settle` reads an output back, and reading back
changes nothing. -/
theorem settle_eq (channel : Channel) (code : UInt8) (output : Option Address) (response : Bytes)
    (arguments : Arguments) (d : Device) :
    (channel.settle code output response arguments d).2 = d := by
  unfold Channel.settle
  split
  · rename_i address out _
    have hread : (Transport.readDataBuffer d address out).2 = d := rfl
    rcases hx : Transport.readDataBuffer d address out with ⟨_ | _, u⟩
    all_goals
      rw [hx] at hread
      exact hread
  · rfl

/-- In particular the `core` of a device is the same when a success has been settled. -/
theorem core_settle {channel : Channel} {code : UInt8} {output : Option Address} {response : Bytes}
    {arguments : Arguments} {d t : Device} {result : Except ClientError Unit × Arguments}
    (h : channel.settle code output response arguments d = (result, t)) : t.core = d.core := by
  have hsettle := settle_eq channel code output response arguments d
  rw [h] at hsettle
  exact congrArg core hsettle

/-! ## (3) Deliveries -/

/-- What no request does to a device: it queues no fault, and neither closes nor opens the device. -/
structure Follows (d after : Device) : Prop where
  faults : after.faults.Sublist d.faults
  closed_eq : after.closed = d.closed

/-- A device that nothing happens to is followed by itself: the same faults wait, and it is as closed as
before. -/
theorem Follows.refl (d : Device) : Follows d d := ⟨List.Sublist.refl _, rfl⟩

/-- What `Follows` a device that follows another one follows that one too, since the faults that wait only
get fewer. -/
theorem Follows.trans {d t u : Device} (h : Follows d t) (h' : Follows t u) : Follows d u :=
  ⟨h'.faults.trans h.faults, h'.closed_eq.trans h.closed_eq⟩

/-- A fault that has struck stays so, whatever `Follows`: faults that are gone from the queue do not come
back. -/
theorem Denied.followed {d t u : Device} (h : Denied d t) (hu : Follows t u) : Denied d u := by
  obtain ⟨command, error, hfired, he⟩ := h
  exact ⟨command, error, hfired.of_sublist hu.faults, he⟩

/-- A fault that is going to strike is queued already: no request queues one. -/
theorem Denied.preceded {d t u : Device} (h : Denied t u) (ht : Follows d t) : Denied d u := by
  obtain ⟨command, error, hfired, he⟩ := h
  exact ⟨command, error, hfired.after_sublist ht.faults, he⟩

/-- **A request is lost** before the engine handles it. The client is told of a failure of the engine
only if the two disagree about the layout of the request, or if a fault refuses it. -/
structure Lost (code : UInt8) (d after : Device) (e : ClientError) : Prop where
  follows : Follows d after
  engine_eq : after.machine.engine = d.machine.engine
  blame : ∀ x, e = .engine x → x = Reason.invalidMessage.toError ∨
    ∃ error, Fired (.reject code error) d after ∧ x = EngineError.ofRating error.code.toUInt8

/-- **What a request does to a device**, with the result for the client: it is `Lost` on the way, the
engine refuses it, or the engine serves it. -/
inductive Delivery (c : Command) (handle : UInt32) (arguments : Arguments) (d : Device) :
    Except ClientError Unit × Arguments → Device → Prop
  | lost {e : ClientError} {after : Device} (h : Lost c.code d after e) :
      Delivery c handle arguments d (.error e, arguments) after
  /-- The engine refuses the request, and the client learns why. -/
  | failed {flavor : Flavor} {m : c.Request flavor} {e : EngineError} {after : Device}
      (hm : ∀ a, c.addressee? m = some a → a = handle)
      (h : Engine.Handled m d.machine.engine (.error e) after.machine.engine)
      (hf : Follows d after) :
      Delivery c handle arguments d
        (.error (.engine (EngineError.ofRating e.code.toUInt8)), arguments) after
  /-- The engine serves the request. The client may stumble over the response, but not over one to an
  opening. -/
  | succeeded {flavor : Flavor} {m : c.Request flavor} {response : c.Response flavor}
      {result : Except ClientError Unit × Arguments} {after : Device}
      (hm : ∀ a, c.addressee? m = some a → a = handle)
      (h : Engine.Handled m d.machine.engine (.ok response) after.machine.engine)
      (hf : Follows d after) (hne : ∀ x, result.1 ≠ .error (.engine x))
      (hopens : ∀ handle, (c.opened? arguments).isSome → c.responded? response = some handle →
        result.1 = .ok () ∧ c.opened? result.2 = some handle) :
      Delivery c handle arguments d result after

/-! ## (4) Answers -/

/-- **What a client makes of the response to a request** that was answered: the cases of `Delivery`, told
by `Channel.verdict`. -/
inductive Answered (channel : Channel) (c : Command) (handle : UInt32) (d : Device) (response : Bytes)
    (after : Device) : Prop
  | lost {e : ClientError} (hv : channel.verdict c.code response = .error e)
      (h : Lost c.code d after e)
  | failed {m : c.Request d.machine.engine.settings.flavor} {e : EngineError}
      (hv : channel.verdict c.code response =
        .error (.engine (EngineError.ofRating e.code.toUInt8)))
      (hm : ∀ a, c.addressee? m = some a → a = handle)
      (h : Engine.Handled m d.machine.engine (.error e) after.machine.engine)
      (hf : Follows d after)
  | succeeded {m : c.Request d.machine.engine.settings.flavor}
      {content : c.Response d.machine.engine.settings.flavor}
      (hv : channel.verdict c.code response = .ok ())
      (hm : ∀ a, c.addressee? m = some a → a = handle)
      (h : Engine.Handled m d.machine.engine (.ok content) after.machine.engine)
      (hf : Follows d after)
      (hd : ∀ handle, c.responded? content = some handle →
        ∃ content' : c.Response channel.flavor, c.responded? content' = some handle ∧
          c.decodeResponse channel.flavor response = .ok content')

/-- A bare `statusReply` tells the client of a failure, by the rating of the error. -/
theorem verdict_failure {channel : Channel} {engine : Engine}
    (hunit : channel.unit = engine.settings.unit) (code : UInt8) (e : EngineError) {size : Nat}
    (hsize : Command.statusSize ≤ size) :
    channel.verdict code (Bytes.overlay (Bytes.blank size)
      ((engine.statusReply code (ResponseCode.failure e)).bytes.take size)) =
        .error (.engine (EngineError.ofRating e.code.toUInt8)) := by
  rw [Channel.verdict_received (hunit ▸ engine.answers_statusReply code _) hsize,
    ResponseCode.outcome_failure]
  rfl

/-- A response with content tells the client of a success, even if its checksum is damaged:
`Channel.verdict` reads the header and the code. -/
theorem verdict_success {channel : Channel} {engine : Engine}
    (hunit : channel.unit = engine.settings.unit) {flavor : Flavor} {c : Command}
    (content : c.Response flavor) {bytes : Bytes}
    (hbytes : bytes = (engine.reply c.code c.responseSealed
        (c.encodeResponse ResponseCode.success content)).bytes ∨
      c.responseSealed = true ∧ bytes = corrupted (engine.reply c.code c.responseSealed
        (c.encodeResponse ResponseCode.success content)).bytes) {size : Nat}
    (hsize : Command.statusSize ≤ size) :
    channel.verdict c.code (Bytes.overlay (Bytes.blank size) (bytes.take size)) = .ok () := by
  obtain ⟨length, tail, htail, hreply⟩ := engine.bytes_reply c.code c ResponseCode.success content
  have hanswers : Wire.Answers channel.unit c.code ResponseCode.success
      (engine.reply c.code c.responseSealed
        (c.encodeResponse ResponseCode.success content)).bytes := by
    -- The engine answers with the header values of the client.
    rw [hunit]
    exact ⟨length, _, hreply⟩
  rcases hbytes with rfl | ⟨hsealed, rfl⟩
  · rw [Channel.verdict_received hanswers hsize, ResponseCode.outcome_success]
    rfl
  · -- The checksum comes after header and response code.
    have hlong : Command.statusSize < (engine.reply c.code c.responseSealed
        (c.encodeResponse ResponseCode.success content)).bytes.length := by
      rw [hsealed, Wire.length_trailer, if_pos rfl] at htail
      have hstatus : Command.statusSize = 8 := rfl
      have hchecksum : Wire.checksumSize = 4 := rfl
      rw [hreply]
      simp only [List.length_append, Wire.length_encode_header, Bytes.length_ofWord, htail,
        Wire.headerSize]
      omega
    rw [Channel.verdict_received (answers_corrupted hanswers hlong) hsize,
      ResponseCode.outcome_success]
    rfl

/-- **Every answer is one of these**, whether a fault strikes or not, if client and engine have the same
header values. -/
theorem answered {channel : Channel} {c : Command} {handle : UInt32} {d after : Device}
    (hunit : channel.unit = d.machine.engine.settings.unit) {request : c.Request channel.flavor}
    (hhandle : ∀ a, c.addressee? request = some a → a = handle) {written : Bytes}
    (hx : Transport.sendAndReceive d (channel.frame c.code request)
      (c.responseSize channel.flavor) = ((.ok (), written), after)) :
    Answered channel c handle d
      (Bytes.overlay (Bytes.blank (c.responseSize channel.flavor)) written) after := by
  have hsize := c.statusSize_le_responseSize channel.flavor
  have hexchange : (d.exchange (channel.frame c.code request) (c.responseSize channel.flavor)) =
      ((.ok (), written), after) := hx
  have h := exchanged d (channel.frame c.code request) (c.responseSize channel.flavor)
  rw [hexchange] at h
  cases h with
  | @rejected error _ _ _ hf hfired =>
    rw [channel.commandByte_frame request] at hfired ⊢
    refine .lost (verdict_failure hunit c.code error hsize) ⟨⟨hf, rfl⟩, rfl, fun x hx => ?_⟩
    cases hx
    exact Or.inr ⟨error, hfired, rfl⟩
  | executed hrun hbytes hf =>
    have hexecuted := Engine.executed request hunit hhandle
    rw [hrun] at hexecuted
    dsimp only at hexecuted
    cases hexecuted with
    | unread hc =>
      obtain rfl := hbytes.resolve_right fun h => Bool.false_ne_true h.1
      refine .lost (verdict_failure hunit c.code _ hsize) ⟨⟨hf, rfl⟩, rfl, fun x hx => ?_⟩
      cases hx
      exact Or.inl (Reason.ofRating_toError _)
    | failed hm h =>
      obtain rfl := hbytes.resolve_right fun h => Bool.false_ne_true h.1
      exact .failed (verdict_failure (h.settings_eq ▸ hunit) c.code _ hsize) hm h ⟨hf, rfl⟩
    | @succeeded m content _ hm h =>
      refine .succeeded (verdict_success (h.settings_eq ▸ hunit) content hbytes hsize) hm h ⟨hf, rfl⟩
        fun handle hr => ?_
      -- A response to an opening has no checksum that a fault could damage.
      have hplain : c.responseSealed = false := by
        cases c with
        | openSession | openKeyStore | openService => rfl
        | _ => cases hr
      obtain rfl := hbytes.resolve_right fun h => Bool.false_ne_true (hplain.symm.trans h.1)
      exact Engine.decodeResponse_opening _ channel.flavor c.code _ hr

/-! ## (5) Round trips -/

/-- Devices with the same `core` follow each other: buffers neither queue faults nor close anything. -/
theorem follows_of_core_eq {d t : Device} (h : t.core = d.core) : Follows d t := by
  have hfaults : t.faults = d.faults := congrArg (·.2.1) h
  exact ⟨hfaults ▸ List.Sublist.refl _, congrArg (·.2.2) h⟩

/-- Devices with the same `core` have the same engine. -/
theorem engine_of_core_eq {d t : Device} (h : t.core = d.core) :
    t.machine.engine = d.machine.engine :=
  congrArg (·.1) h

/-- What becomes of a request does not depend on buffers, only on the `core` of the device before and
after. -/
theorem Delivery.congr {c : Command} {handle : UInt32} {arguments : Arguments} {d t u after : Device}
    {result : Except ClientError Unit × Arguments} (h : Delivery c handle arguments t result u)
    (ht : t.core = d.core) (hu : after.core = u.core) :
    Delivery c handle arguments d result after := by
  have hfollows (hf : Follows t u) : Follows d after :=
    ((follows_of_core_eq ht).trans hf).trans (follows_of_core_eq hu)
  have hbefore := engine_of_core_eq ht
  have hafter := engine_of_core_eq hu
  cases h with
  | lost h =>
    refine .lost ⟨hfollows h.follows, hafter.trans (h.engine_eq.trans hbefore), fun x hx => ?_⟩
    refine (h.blame x hx).imp_right fun ⟨error, hfired, he⟩ => ⟨error, ?_, he⟩
    exact (hfired.after_sublist (follows_of_core_eq ht).faults).of_sublist
      (follows_of_core_eq hu).faults
  | failed hm h hf =>
    rw [hbefore, ← hafter] at h
    exact .failed hm h (hfollows hf)
  | succeeded hm h hf hne hopens =>
    rw [hbefore, ← hafter] at h
    exact .succeeded hm h (hfollows hf) hne hopens

/-- Concluding a success tells of no failure of the engine: what is still to come is checked by the
client. -/
theorem conclude_ne_engine {channel : Channel} {code : UInt8} {response : Bytes}
    {arguments : Arguments} (x : EngineError) :
    (channel.conclude code response arguments).1 ≠ .error (.engine x) := by
  unfold Channel.conclude
  cases hc : channel.table.complete channel.flavor code response arguments with
  | ok completed => nofun
  | error e =>
    intro he
    obtain rfl : e = .engine x := Except.error.inj he
    unfold DispatchTable.complete at hc
    split at hc
    · exact Command.complete_ne_engine hc
    · cases hc

/-- Neither does settling one, whether its output can be read back or not: `Channel.settle` gives no
`ClientError.engine`. -/
theorem settle_ne_engine {channel : Channel} {code : UInt8} {output : Option Address}
    {response : Bytes} {arguments : Arguments} {d t : Device}
    {result : Except ClientError Unit × Arguments}
    (h : channel.settle code output response arguments d = (result, t)) (x : EngineError) :
    result.1 ≠ .error (.engine x) := by
  unfold Channel.settle at h
  split at h
  · rename_i address out _
    -- Reading back fails with an error of the transport, completing with one of the client.
    rcases hx : Transport.readDataBuffer d address out with ⟨e | written, u⟩
    all_goals
      rw [hx] at h
      cases h
    · nofun
    · exact conclude_ne_engine x
  · cases h
    exact conclude_ne_engine x

/-- The success of an opening is settled with the handle in the response, which the arguments then
hold. -/
theorem settle_opening {channel : Channel} {c : Command} {output : Option Address}
    {response : Bytes} {arguments : Arguments} {d t : Device} {handle : UInt32}
    {content : c.Response channel.flavor} {result : Except ClientError Unit × Arguments}
    (h : channel.settle c.code output response arguments d = (result, t))
    (hget : channel.table.get? c.code = some c) (hc : (c.opened? arguments).isSome)
    (hr : c.responded? content = some handle)
    (hd : c.decodeResponse channel.flavor response = .ok content) :
    result.1 = .ok () ∧ c.opened? result.2 = some handle := by
  obtain ⟨completed, hcomplete, hopened⟩ := Command.complete_opening hc hd hr
  -- A command that opens something has no output buffer, so settling it is concluding it.
  have hconclude : channel.conclude c.code response arguments = (.ok (), completed) := by
    rw [Channel.conclude, DispatchTable.complete, hget]
    dsimp only
    rw [hcomplete]
  unfold Channel.settle at h
  rw [Command.output?_of_opened? hc] at h
  cases output with
  | none =>
    rw [hconclude] at h
    cases h
    exact ⟨rfl, hopened⟩
  | some address =>
    dsimp only at h
    rw [hconclude] at h
    cases h
    exact ⟨rfl, hopened⟩

/-- A request whose exchange fails is lost, and the engine is as it was. -/
theorem lost_of_exchange {d after : Device} {code : UInt8} {request : Bytes} {size : Nat}
    {e : TransportError} {written : Bytes}
    (hx : Transport.sendAndReceive d request size = ((.error e, written), after)) :
    Lost code d after (.transport e) := by
  have hexchange : d.exchange request size = ((.error e, written), after) := hx
  have h := exchanged d request size
  rw [hexchange] at h
  cases h with
  | closed => exact ⟨.refl _, rfl, nofun⟩
  | failed _ hf => exact ⟨⟨hf, rfl⟩, rfl, nofun⟩

/-- **Every round trip with a device is a `Delivery`**, for a client with the header values of the
engine. -/
theorem delivery {channel : Channel} (hl : channel.table.Lawful) (c : Command) (handle : UInt32)
    (arguments : Arguments) {d : Device} (hunit : channel.unit = d.machine.engine.settings.unit) :
    Delivery c handle arguments d ((channel.process c.code handle arguments).run d).1
      ((channel.process c.code handle arguments).run d).2 := by
  obtain ⟨result, calls, t, hcourse, hplain, -⟩ :=
    Channel.course_process channel c.code handle arguments ⟨d, []⟩
  rw [hplain]
  -- The command that was prepared is the one that was asked for.
  have hcommand {c' : Command} (hc : channel.table.get? c.code = some c') : c' = c := by
    have hcode := congrArg Command.ofCode? (hl.code_of_get? hc)
    rw [Command.ofCode?_code, Command.ofCode?_code] at hcode
    exact Option.some.inj hcode
  have hunits {t : Device} (ht : t.core = d.core) :
      channel.unit = t.machine.engine.settings.unit := by
    rw [engine_of_core_eq ht]
    exact hunit
  -- The course of the call: where it ends decides what has reached the engine.
  cases hcourse with
  | unprepared hs he =>
    have hcore := core_staged hs
    exact .lost ⟨follows_of_core_eq hcore, engine_of_core_eq hcore, fun x hx => absurd hx (he x)⟩
  | @unanswered t u _ _ _ _ _ hs _ _ hx =>
    exact Delivery.congr (t := t) (u := u) (.lost (lost_of_exchange hx)) (core_staged hs) rfl
  -- A refused answer is an engine that failed, or an answer that was lost on the way.
  | @refused t u _ _ _ _ _ hs hc hp hx hv =>
    obtain rfl := hcommand hc
    refine Delivery.congr (t := t) (u := u) ?_ (core_staged hs) rfl
    cases answered (hunits (core_staged hs)) hp.addressee hx with
    | lost hv' h =>
      rw [hv] at hv'
      cases hv'
      exact .lost h
    | failed hv' hm h hf =>
      rw [hv] at hv'
      cases hv'
      exact .failed hm h hf
    | succeeded hv' =>
      rw [hv] at hv'
      cases hv'
  -- An accepted answer is an engine that succeeded; settling does not reach the engine.
  | @settled t u v _ _ _ _ _ hs hc hp hx hv hsettle =>
    obtain rfl := hcommand hc
    have hcore : v.core = u.core := core_settle hsettle
    refine Delivery.congr (t := t) (u := u) ?_ (core_staged hs) hcore
    cases answered (hunits (core_staged hs)) hp.addressee hx with
    | lost hv' h | failed hv' hm h hf =>
      rw [hv] at hv'
      cases hv'
    | succeeded hv' hm h hf hd =>
      refine .succeeded hm h hf (settle_ne_engine hsettle) fun handle hopens hr => ?_
      obtain ⟨content, hr', hdecode⟩ := hd handle hr
      exact settle_opening hsettle hc hopens hr' hdecode

/-- Nothing succeeds on a closed device, so a success tells that the device is open. -/
theorem closed_eq_false_of_ok {channel : Channel} {code : UInt8} {handle : UInt32}
    {arguments : Arguments} {d : Device}
    (h : ((channel.process code handle arguments).run d).1.1 = .ok ()) : d.closed = false := by
  obtain ⟨result, calls, t, hcourse, hplain, -⟩ :=
    Channel.course_process channel code handle arguments ⟨d, []⟩
  rw [hplain] at h
  cases hcourse with
  | @settled t _ _ _ c p _ _ hs _ _ hx =>
    have hexchange : t.exchange (channel.frame code p.request) (c.responseSize channel.flavor) = _ :=
      hx
    rw [← (follows_of_core_eq (core_staged hs)).closed_eq]
    -- A closed device fails every exchange.
    refine Bool.eq_false_iff.mpr fun hclosed => ?_
    rw [exchange, if_pos hclosed] at hexchange
    cases hexchange
  | _ => cases h

end Device

/-! ## (6) What follows from a delivery -/

/-- Whether a command opens or closes something, and with it changes the objects of the `Engine`. -/
def Command.changesObjects : Command → Bool
  | openSession | closeSession | openKeyStore | closeKeyStore | openService _ | closeService _ => true
  | _ => false

/-- Commands addressed to a service that is open, as `Command.worker?` has it, neither open nor close
anything. -/
theorem Command.changesObjects_of_worker {c : Command} {kind : Service} (h : c.worker? = some kind) :
    c.changesObjects = false := by
  cases c <;> first | rfl | cases h

/-- Commands asked of the session, those that are `Command.isGlobal`, neither open nor close anything. -/
theorem Command.changesObjects_of_isGlobal {c : Command} (h : c.isGlobal) :
    c.changesObjects = false := by
  cases c <;> first | rfl | cases h

/-- The `Effect` of a command that neither opens nor closes is none. -/
theorem Engine.objects_eq_of_effect {flavor : Flavor} {c : Command} (hc : c.changesObjects = false)
    {objects after : IdMap EngineObject} {m : c.Request flavor} {response : c.Response flavor}
    (h : Effect objects after c m response) : after = objects := by
  cases c <;> first | exact h | cases hc

/-- **An object is what a handle of a kind stands for**, opened on a parent. -/
def HandleKind.Describes (kind : HandleKind) (parent : UInt32) (object : EngineObject) : Prop :=
  match kind with
  | .keyStore => ∃ identifier, object = .keyStore parent identifier
  | .service kind => object = .service kind parent

/-- What a handle stands for has the parent it was opened on, which is what `HandleKind.Describes` says of
an `EngineObject`. -/
theorem HandleKind.Describes.parent?_eq {kind : HandleKind} {parent : UInt32}
    {object : EngineObject} (h : kind.Describes parent object) : object.parent? = some parent := by
  cases kind with
  | keyStore =>
    obtain ⟨identifier, rfl⟩ := h
    rfl
  | service kind =>
    obtain rfl : object = _ := h
    rfl

/-- What a handle stands for is a key store or a service, never a session. -/
theorem HandleKind.Describes.ne_session {kind : HandleKind} {parent : UInt32}
    {object : EngineObject} (h : kind.Describes parent object) : object ≠ .session := by
  rintro rfl
  cases h.parent?_eq

namespace Device.Delivery

variable {c : Command} {handle : UInt32} {arguments : Arguments} {d after : Device}
  {result : Except ClientError Unit × Arguments}

/-- Whatever becomes of a request, the device after its `Delivery` follows the one before. -/
theorem follows (h : Delivery c handle arguments d result after) : Follows d after := by
  cases h with
  | lost h => exact h.follows
  | failed _ _ hf => exact hf
  | succeeded _ _ hf => exact hf

/-- No request changes the settings of the engine: not one that is `Lost`, nor one that is refused or
served. -/
theorem settings_eq (h : Delivery c handle arguments d result after) :
    after.machine.engine.settings = d.machine.engine.settings := by
  cases h with
  | lost h => rw [h.engine_eq]
  | failed _ h => exact h.settings_eq
  | succeeded _ h => exact h.settings_eq

/-- Most commands leave the objects alone, all but those in `Command.changesObjects`. -/
theorem objects_eq (h : Delivery c handle arguments d result after) (hc : c.changesObjects = false) :
    after.machine.engine.objects = d.machine.engine.objects := by
  cases h with
  | lost h => rw [h.engine_eq]
  | failed _ h => exact (h.failed _ rfl).1
  | succeeded _ h => exact Engine.objects_eq_of_effect hc (h.succeeded _ rfl)

/-- **The engine knows the handle of what is open**, unless a fault says otherwise. -/
theorem denied (h : Delivery c handle arguments d result after)
    (hfound : c.Finds d.machine.engine.objects handle)
    (hr : result.1 = .error (.engine Reason.unknownHandle.toError)) : Denied d after := by
  cases h with
  | lost h =>
    rcases h.blame _ (Except.error.inj hr) with hinvalid | ⟨error, hfired, he⟩
    · -- A request with another layout is invalid, which is something else.
      exact absurd (Reason.toError_inj.mp hinvalid) (by decide)
    · exact ⟨c.code, error, hfired, he.symm⟩
  | failed hm h =>
    obtain ⟨-, r, rfl, hblame⟩ := h.failed _ rfl
    have herror : EngineError.ofRating r.toError.code.toUInt8 = Reason.unknownHandle.toError :=
      ClientError.engine.inj (Except.error.inj hr)
    rw [Reason.ofRating_toError, Reason.toError_inj] at herror
    refine absurd (fun a ha => ?_) (hblame herror)
    rw [hm a ha]
    exact hfound
  | succeeded _ _ _ hne => exact absurd hr (hne _)

/-- **Opening something** either fails and leaves the objects alone, or succeeds and tells the client a
handle that stood for nothing. -/
theorem opening {kind : HandleKind} (ha : (kind.opening.opened? arguments).isSome)
    (h : Delivery kind.opening handle arguments d result after) :
    (∃ e, result.1 = .error e) ∧ after.machine.engine.objects = d.machine.engine.objects ∨
    ∃ new object, result.1 = .ok () ∧ kind.opening.opened? result.2 = some new ∧
      kind.opening.Finds d.machine.engine.objects handle ∧ kind.Describes handle object ∧
      Engine.Opens d.machine.engine.objects new object after.machine.engine.objects := by
  cases h with
  | lost h => exact Or.inl ⟨⟨_, rfl⟩, by rw [h.engine_eq]⟩
  | failed _ h => exact Or.inl ⟨⟨_, rfl⟩, (h.failed _ rfl).1⟩
  | @succeeded flavor m response _ _ hm h _ _ hopens =>
    refine Or.inr ?_
    cases kind with
    | keyStore =>
      obtain ⟨hok, hopened⟩ := hopens response ha rfl
      obtain ⟨hsession, hopens⟩ := h.succeeded _ rfl
      -- The request named the handle that the call was made for.
      obtain rfl : m.session = handle := hm _ rfl
      exact ⟨response, _, hok, hopened, hsession, ⟨m.identifier, rfl⟩, hopens⟩
    | service kind =>
      obtain ⟨hok, hopened⟩ := hopens response ha rfl
      obtain ⟨hparent, hopens⟩ := h.succeeded _ rfl
      obtain rfl : m.parent = handle := hm _ rfl
      exact ⟨response, _, hok, hopened, hparent, rfl, hopens⟩

/-- **Closing something** leaves the objects alone, or removes an object that is no session with
everything below it. -/
theorem closing {kind : HandleKind} (h : Delivery kind.closing handle arguments d result after) :
    after.machine.engine.objects = d.machine.engine.objects ∨
    (∃ object, d.machine.engine.objects.find? handle = some object ∧ object ≠ .session) ∧
      Engine.Removes d.machine.engine.objects handle after.machine.engine.objects := by
  cases h with
  | lost h => exact Or.inl (by rw [h.engine_eq])
  | failed _ h => exact Or.inl (h.failed _ rfl).1
  | @succeeded flavor m response _ _ hm h =>
    refine Or.inr ?_
    cases kind with
    | keyStore =>
      obtain ⟨⟨parent, identifier, hfound⟩, hremoves⟩ := h.succeeded _ rfl
      -- The handle in the request is the one that the call was made for.
      obtain rfl : m = handle := hm _ rfl
      exact ⟨⟨_, hfound, nofun⟩, hremoves⟩
    | service kind =>
      obtain ⟨⟨parent, hfound⟩, hremoves⟩ := h.succeeded _ rfl
      obtain rfl : m = handle := hm _ rfl
      exact ⟨⟨_, hfound, nofun⟩, hremoves⟩

/-- **Opening a session** either fails and leaves the objects alone, or succeeds and tells the client a
handle that stood for nothing. -/
theorem openingSession (ha : (Command.opened? .openSession arguments).isSome)
    (h : Delivery .openSession handle arguments d result after) :
    (∃ e, result.1 = .error e) ∧ after.machine.engine.objects = d.machine.engine.objects ∨
    ∃ new, result.1 = .ok () ∧ Command.opened? .openSession result.2 = some new ∧
      Engine.Opens d.machine.engine.objects new .session after.machine.engine.objects := by
  cases h with
  | lost h => exact Or.inl ⟨⟨_, rfl⟩, by rw [h.engine_eq]⟩
  | failed _ h => exact Or.inl ⟨⟨_, rfl⟩, (h.failed _ rfl).1⟩
  | @succeeded flavor m response _ _ hm h _ _ hopens =>
    obtain ⟨hok, hopened⟩ := hopens response ha rfl
    exact Or.inr ⟨response, hok, hopened, h.succeeded _ rfl⟩

end Device.Delivery

end SecureEngine
