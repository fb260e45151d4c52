import SecureEngine.Proofs.SigningLayouts

/-! # Signing with either firmware

Client and engine of the same generation sign alike, and do not understand each other otherwise.

* **`SignOperation.Alike`** — signing with either firmware comes to the same.
* **`Channel.exists_signed`** — a round trip that signs, in both layouts side by side;
  **`Channel.exists_declined`** — one of a client with other firmware than the engine.
* **`Session.withFlavors`** — a session with other firmware on either side.
* **`Session.signatures_agree`** — what signing comes to for a session of either firmware, and for one of the
  wrong firmware. -/

namespace SecureEngine

/-! ## (1) The round trip -/

/-- **Signing with either firmware comes to the same.** It fails for the same reason and leaves the arguments
alone, or yields the same signature; a client of legacy firmware takes the whole buffer as written, the other
one is told the size of the signature. -/
inductive SignOperation.Alike {α : Type} (a : SignOperation) (value : UInt16 → α)
    (outcome : Flavor → Except ClientError α × Arguments) : Prop
  | failed (e : ClientError) (h : ∀ flavor, outcome flavor = (.error e, .sign a))
  | succeeded (signature : Bytes) (n : Flavor → UInt16)
      (h : ∀ flavor, outcome flavor =
        (.ok (value (n flavor)), .sign { a with signature, signatureSize := n flavor }))
      (hlegacy : (n .legacy).toNat = a.signature.length)
      (hpsa : (n .psa).toNat = a.scheme.signatureSize)

/-- A buffer of just the right size makes no difference either: both flavors then report `signatureSize`
of the scheme. -/
theorem SignOperation.Alike.eq_of_length {α : Type} {a : SignOperation} {value : UInt16 → α}
    {outcome : Flavor → Except ClientError α × Arguments} (h : a.Alike value outcome)
    (hexact : a.signature.length = a.scheme.signatureSize) : outcome .legacy = outcome .psa := by
  cases h with
  | failed e h => rw [h, h]
  | succeeded signature n h hlegacy hpsa =>
    have hsame : n .legacy = n .psa := UInt16.toNat_inj.mp (by rw [hlegacy, hpsa, hexact])
    rw [h, h, hsame]

namespace Channel

variable {channel : Channel} {address : UInt32} {a : SignOperation} {d t : Device}

/-- What is fetched from a device does not depend on its firmware: `Channel.fetch` reads memory only. -/
theorem fetch_withFlavor (output : Option Address) (arguments : Arguments) (t : Device) (flavor : Flavor) :
    (fetch output arguments (t.withFlavor flavor)).1 = (fetch output arguments t).1 := by
  have hmemory : (t.withFlavor flavor).machine.memory = t.machine.memory := rfl
  unfold fetch
  rcases output with _ | address
  · rfl
  rcases arguments.output? with _ | out
  · rfl
  dsimp only [Transport.readDataBuffer]
  rw [hmemory]
  cases t.machine.memory.readBack address out.length <;> rfl

/-- **The course of a round trip that signs**, once its request has been staged. -/
theorem run_process_sign (hget : channel.table.get? Command.sign.code = some .sign)
    {task : Engine.SignTask} {output : Option Address}
    (hstage : (stageSigning address a).run d = (.ok (task, output), t)) (flavor : Flavor) :
    ((channel.withFlavor flavor).process Command.sign.code address (.sign a)).run (d.withFlavor flavor) =
      match (t.withFlavor flavor).exchange (task.frame channel flavor) (Command.sign.responseSize flavor)
      with
      | ((.error e, _), u) => ((.error (.transport e), .sign a), Transport.resetDataBuffers u)
      | ((.ok (), written), u) =>
        let response := (channel.withFlavor flavor).received .sign written
        match (channel.withFlavor flavor).verdict Command.sign.code response with
        | .error e => ((.error e, .sign a), Transport.resetDataBuffers u)
        | .ok () => (((channel.withFlavor flavor).settle Command.sign.code output response (.sign a) u).1,
            Transport.resetDataBuffers u) := by
  -- The buffers are staged alike for both flavors, so only the frame depends on the flavor.
  have hprepare : ((channel.withFlavor flavor).table.prepare (channel.withFlavor flavor).flavor
      Command.sign.code address Wire.maxMessageSize (.sign a)).run (d.withFlavor flavor) =
      (.ok ⟨.sign, task.request flavor, output⟩, t.withFlavor flavor) := by
    refine (DispatchTable.run_prepare hget flavor address (.sign a) _).trans ?_
    rw [prepare_sign_eq, run_map, Registering.unnoticed_stageSigning address a d, hstage]
    rfl
  have hsend : Transport.sendAndReceive (t.withFlavor flavor) ((channel.withFlavor flavor).frame
      Command.sign.code (task.request flavor)) (Command.sign.responseSize (channel.withFlavor flavor).flavor) =
      (t.withFlavor flavor).exchange (task.frame channel flavor) (Command.sign.responseSize flavor) := rfl
  rw [run_process, hprepare]
  dsimp only
  rw [hsend]
  rcases (t.withFlavor flavor).exchange (task.frame channel flavor) (Command.sign.responseSize flavor) with
    ⟨⟨_ | _, written⟩, u⟩
  · rfl
  have hreceived : Bytes.overlay (Bytes.blank (Command.sign.responseSize (channel.withFlavor flavor).flavor))
    written = (channel.withFlavor flavor).received .sign written := rfl
  dsimp only
  rw [hreceived]
  cases (channel.withFlavor flavor).verdict Command.sign.code
    ((channel.withFlavor flavor).received .sign written) with
  | error e => rfl
  | ok _ => exact congrArg (fun v => (_, Transport.resetDataBuffers v)) (Device.settle_eq _ _ _ _ _ u)

/-- **The response to a task**, as a client of either firmware sees it: `Engine.replyOf` its result, cut
to what it has room for. -/
def signed (channel : Channel) (engine : Engine) (result : Except EngineError UInt16) (flavor : Flavor) :
    Bytes :=
  (channel.withFlavor flavor).received .sign ((engine.replyOf .sign
    (result.map (Engine.SignTask.response · flavor))).bytes.take (Command.sign.responseSize flavor))

/-- **What a client makes of it** depends on its firmware as little: `Channel.verdict` looks at the tag of
the unit and at the result. -/
theorem verdict_signed (channel : Channel) (engine : Engine) (result : Except EngineError UInt16)
    (flavor : Flavor) :
    (channel.withFlavor flavor).verdict Command.sign.code (channel.signed engine result flavor) =
      if engine.settings.unit.responseTag = channel.unit.responseTag then
        match result with
        | .ok _ => .ok ()
        | .error e => .error (.engine (EngineError.ofRating e.code.toUInt8))
      else .error (.unexpectedResponse Command.sign.code Command.sign.code) := by
  have hsize := Command.statusSize_le_responseSize flavor .sign
  -- A reply of success has a content that depends on the flavor; the verdict does not look at it.
  cases result with
  | ok n =>
    obtain ⟨length, tail, -, h⟩ := engine.bytes_reply Command.sign.code .sign ResponseCode.success
      (Engine.SignTask.response n flavor)
    exact (channel.withFlavor flavor).verdict_answers ⟨length, _, h⟩ hsize
  | error e =>
    refine ((channel.withFlavor flavor).verdict_answers
      (engine.answers_statusReply Command.sign.code _) hsize).trans ?_
    rw [ResponseCode.outcome_failure]
    rfl

/-- **A signature is completed** with the size of its buffer, or with the one in the response. -/
theorem conclude_signed (hget : channel.table.get? Command.sign.code = some .sign) (engine : Engine)
    (n : UInt16) (hfits : a.signature.length < UInt16.size) (flavor : Flavor) :
    (channel.withFlavor flavor).conclude Command.sign.code (channel.signed engine (.ok n) flavor)
      (.sign a) = (.ok (), .sign { a with signatureSize := match flavor with
        | .legacy => UInt16.ofNat a.signature.length
        | .psa => n }) := by
  have hcomplete : Command.sign.complete flavor (channel.signed engine (.ok n) flavor) (.sign a) =
      .ok (.sign { a with signatureSize := match flavor with
        | .legacy => UInt16.ofNat a.signature.length
        | .psa => n }) := by
    cases flavor with
    | legacy =>
      have hsize : halfSize .signatureBuffer a.signature = .ok (UInt16.ofNat a.signature.length) :=
        if_pos hfits
      rw [Command.complete, hsize]
      rfl
    | psa =>
      have hdecode : Command.decodeResponse .psa .sign (channel.signed engine (.ok n) .psa) =
          .ok (Engine.SignTask.response n .psa) :=
        engine.decodeResponse_received Command.sign.code ResponseCode.success _
      rw [Command.complete, hdecode]
      rfl
  have hget' : (channel.withFlavor flavor).table.get? Command.sign.code = some .sign := hget
  rw [conclude_eq hget', show (channel.withFlavor flavor).flavor = flavor from rfl, hcomplete]

/-- **The course of a round trip whose task has been answered**: `Channel.process` is `verdict`, `fetch`
and `conclude` over either firmware. -/
theorem run_process_signed (hget : channel.table.get? Command.sign.code = some .sign)
    {task : Engine.SignTask} {output : Option Address} {u : Device} {result : Except EngineError UInt16}
    (hstage : (stageSigning address a).run d = (.ok (task, output), t)) {flavor : Flavor}
    (h : (t.withFlavor flavor).exchange (task.frame channel flavor) (Command.sign.responseSize flavor) =
      ((.ok (), (u.machine.engine.replyOf .sign (result.map (Engine.SignTask.response · flavor))).bytes.take
        (Command.sign.responseSize flavor)), u.withFlavor flavor)) :
    ((channel.withFlavor flavor).process Command.sign.code address (.sign a)).run (d.withFlavor flavor) =
      (match (channel.withFlavor flavor).verdict Command.sign.code
          (channel.signed u.machine.engine result flavor) with
        | .error e => (.error e, .sign a)
        | .ok () => match (fetch output (.sign a) u).1 with
          | .error e => (.error (.transport e), .sign a)
          | .ok fetched => (channel.withFlavor flavor).conclude Command.sign.code
            (channel.signed u.machine.engine result flavor) fetched,
        (Transport.resetDataBuffers u).withFlavor flavor) := by
  have hreceived : (channel.withFlavor flavor).received .sign ((u.machine.engine.replyOf .sign
    (result.map (Engine.SignTask.response · flavor))).bytes.take (Command.sign.responseSize flavor)) =
    channel.signed u.machine.engine result flavor := rfl
  have hfetch := fetch_withFlavor output (.sign a) u flavor
  -- Reading the buffer back does not look at the flavor.
  rw [run_process_sign hget hstage, h]
  dsimp only
  rw [hreceived, settle_eq_fetch]
  cases (channel.withFlavor flavor).verdict Command.sign.code
    (channel.signed u.machine.engine result flavor) with
  | error e => rfl
  | ok _ =>
    dsimp only
    rw [← hfetch]
    rcases fetch output (.sign a) (u.withFlavor flavor) with ⟨_ | _, _⟩ <;> rfl

/-- **Client and engine of the same firmware sign `Alike`**, whichever it is: the round trips leave the
same device, and come to the same. -/
theorem exists_signed (hget : channel.table.get? Command.sign.code = some .sign) (address : UInt32)
    (a : SignOperation) (d : Device) :
    ∃ t : Device,
      (∀ flavor, (((channel.withFlavor flavor).process Command.sign.code address (.sign a)).run
        (d.withFlavor flavor)).2 = t.withFlavor flavor) ∧
      a.Alike (fun _ => ()) fun flavor => (((channel.withFlavor flavor).process Command.sign.code address
        (.sign a)).run (d.withFlavor flavor)).1 := by
  rcases hstage : (stageSigning address a).run d with ⟨e | ⟨task, output⟩, t⟩
  · -- Nothing is sent.
    have hrun (flavor : Flavor) : ((channel.withFlavor flavor).process Command.sign.code address
        (.sign a)).run (d.withFlavor flavor) =
        ((.error e, .sign a), (Transport.resetDataBuffers t).withFlavor flavor) := by
      have hget' : (channel.withFlavor flavor).table.get? Command.sign.code = some .sign := hget
      rw [run_process, DispatchTable.run_prepare hget', prepare_sign_eq, run_map,
        Registering.unnoticed_stageSigning address a d, hstage]
      rfl
    exact ⟨_, fun flavor => congrArg Prod.snd (hrun flavor),
      .failed e fun flavor => congrArg Prod.fst (hrun flavor)⟩
  obtain ⟨hscheme, hfits⟩ := Registering.staged_of_stageSigning hstage
  cases Device.swapped_exchange channel t task with
  | failed u written h =>
    have hrun := run_process_sign hget hstage
    simp only [h] at hrun
    exact ⟨Transport.resetDataBuffers u, fun flavor => congrArg Prod.snd (hrun flavor),
      .failed _ fun flavor => congrArg Prod.fst (hrun flavor)⟩
  | answered u result hsize h =>
    have hrun (flavor : Flavor) := run_process_signed hget hstage (h flavor)
    simp only [verdict_signed] at hrun
    refine ⟨Transport.resetDataBuffers u, fun flavor => congrArg Prod.snd (hrun flavor), ?_⟩
    by_cases htag : u.machine.engine.settings.unit.responseTag = channel.unit.responseTag
    case neg =>
      simp only [if_neg htag] at hrun
      exact .failed _ fun flavor => congrArg Prod.fst (hrun flavor)
    simp only [if_pos htag] at hrun
    rcases result with e | n
    · exact .failed _ fun flavor => congrArg Prod.fst (hrun flavor)
    rcases hfetch : (fetch output (.sign a) u).1 with e | fetched
    · simp only [hfetch] at hrun
      exact .failed _ fun flavor => congrArg Prod.fst (hrun flavor)
    -- The signature is fetched, and what is left is its size.
    obtain ⟨signature, hlength, rfl⟩ := fetch_eq_withOutput rfl hfetch
    rw [← hlength] at hfits
    refine .succeeded signature (fun | .legacy => UInt16.ofNat signature.length | .psa => n)
      (fun flavor => ?_) ((UInt16.toNat_ofNat_of_lt' hfits).trans hlength)
      ((hsize n rfl).trans (congrArg _ hscheme))
    rw [hrun flavor, hfetch]
    exact conclude_signed hget u.machine.engine n hfits flavor

end Channel

/-! ## (2) Other firmware -/

namespace Channel

variable {channel : Channel} {d : Device}

/-- What a client makes of the answer to a signing request that it has `Staged`. -/
theorem declined_verdict (hforeign : d.machine.engine.settings.flavor ≠ channel.flavor) {t u : Device}
    {staged : List (TransportCall Device)} (hs : Staged d staged t)
    {request : Command.sign.Request channel.flavor} {r : Except TransportError Unit} {written : Bytes}
    (hx : t.exchange (channel.frame Command.sign.code request)
      (Command.sign.responseSize channel.flavor) = ((r, written), u)) :
    u.machine.engine = d.machine.engine ∧
      ((∃ e, r = .error e ∧ (u.log = d.log ∨ ¬d.Spares .sign)) ∨
        ∃ e, r = .ok () ∧ channel.verdict Command.sign.code (channel.received .sign written) = .error e ∧
          (d.Spares .sign → d.machine.engine.settings.unit.responseTag = channel.unit.responseTag →
            e = .engine Reason.invalidMessage.toError)) := by
  -- Staging leaves everything but the memory alone.
  have hcore := Device.core_staged hs
  have hlog : t.log = d.log := hs.invariant Device.log_dataBuffer
  have hengine := Device.engine_of_core_eq hcore
  have hspares (h : d.Spares .sign) : t.Spares .sign := by
    have hfaults : t.faults = d.faults := congrArg (·.2.1) hcore
    rw [Device.Spares, hfaults]
    exact h
  obtain ⟨hkept, ⟨hr, hunsent⟩ | ⟨e, hr, he⟩⟩ := Device.declined_exchange (hengine ▸ hforeign) hx
  · refine ⟨hkept.trans hengine, .inl ⟨_, hr, ?_⟩⟩
    refine hunsent.imp (fun h => ?_) fun h hd => h (hspares hd)
    rw [h, hlog]
  · rw [hengine] at hr
    cases hr
    have hverdict := channel.verdict_answers (t.machine.engine.answers_statusReply Command.sign.code
      (ResponseCode.failure e)) (Command.statusSize_le_responseSize channel.flavor .sign)
    rw [ResponseCode.outcome_failure, hengine] at hverdict
    refine ⟨hkept.trans hengine, .inr ?_⟩
    by_cases htag : d.machine.engine.settings.unit.responseTag = channel.unit.responseTag
    · refine ⟨_, rfl, hverdict.trans (if_pos htag), fun h _ => ?_⟩
      rw [he (hspares h), Reason.ofRating_toError]
    · exact ⟨_, rfl, hverdict.trans (if_neg htag), fun _ h => absurd h htag⟩

/-- **Client and engine of different firmware do not understand each other's signing requests**: the round
trip fails, and leaves the arguments and the engine alone. What is sent, and spared by faults, is refused for
its layout. -/
theorem exists_declined (hget : channel.table.get? Command.sign.code = some .sign)
    (hforeign : d.machine.engine.settings.flavor ≠ channel.flavor) (address : UInt32) (a : SignOperation) :
    ∃ e t, (channel.process Command.sign.code address (.sign a)).run d = ((.error e, .sign a), t) ∧
      t.machine.engine = d.machine.engine ∧
      (t.log ≠ d.log → d.Spares .sign →
        d.machine.engine.settings.unit.responseTag = channel.unit.responseTag →
        e = .engine Reason.invalidMessage.toError) := by
  obtain ⟨result, calls, after, hcourse, hrun, -⟩ :=
    channel.course_process Command.sign.code address (.sign a) ⟨d, []⟩
  rw [hrun]
  clear hrun
  cases hcourse with
  | unprepared hs =>
    have hlog := hs.invariant Device.log_dataBuffer
    have hengine := Device.engine_of_core_eq (Device.core_staged hs)
    exact ⟨_, _, rfl, hengine, fun hsent => absurd hlog hsent⟩
  | unanswered hs hc hp hx =>
    obtain rfl := Option.some.inj (hget.symm.trans hc)
    obtain ⟨hkept, ⟨e, -, hunsent⟩ | ⟨e, hr, -⟩⟩ := declined_verdict hforeign hs hx
    · exact ⟨_, _, rfl, hkept, fun hsent hspares => absurd hspares (hunsent.resolve_left hsent)⟩
    · cases hr
  | refused hs hc hp hx hv =>
    obtain rfl := Option.some.inj (hget.symm.trans hc)
    obtain ⟨hkept, ⟨e, hr, -⟩ | ⟨e, -, hverdict, he⟩⟩ := declined_verdict hforeign hs hx
    · cases hr
    · obtain rfl := Except.error.inj (hv.symm.trans hverdict)
      exact ⟨_, _, rfl, hkept, fun _ => he⟩
  | settled hs hc hp hx hv =>
    obtain rfl := Option.some.inj (hget.symm.trans hc)
    obtain ⟨-, ⟨e, hr, -⟩ | ⟨e, -, hverdict, -⟩⟩ := declined_verdict hforeign hs hx
    · cases hr
    · cases hv.symm.trans hverdict

end Channel

/-! ## (3) Sessions -/

/-- **The session with other firmware**, for the client and for the device: two `Flavor`s, which may
differ. -/
def Session.withFlavors (s : Session Device) (client device : Flavor) : Session Device :=
  { s with channel := s.channel.withFlavor client, transport := s.transport.withFlavor device }

namespace Session

variable {s : Session Device} {a : SignOperation} {handle : ServiceHandle}

/-- Where client and engine have the same firmware, that is one of the two sessions. -/
theorem withFlavors_self (h : s.channel.flavor = s.transport.machine.engine.settings.flavor) :
    s.withFlavors s.channel.flavor s.channel.flavor = s := by
  have htransport : s.transport.withFlavor s.channel.flavor = s.transport := by
    rw [h]
    rfl
  rw [withFlavors, htransport]
  rfl

/-- What a session says about a signature that there is, in the arguments that `Session.sign`
completes. -/
def signatureSize? : Arguments → Option UInt16
  | .sign a => some a.signatureSize
  | _ => none

/-- **A session that signs** is refused before anything is sent, or makes a round trip, whatever the firmware
on either side. -/
theorem sign_cases (hl : s.channel.table.Lawful) (handle : ServiceHandle) (a : SignOperation) :
    (∃ (e : ClientError) (t : Device),
      t.machine.engine = s.transport.machine.engine ∧ t.log = s.transport.log ∧
      ∀ client device, sign handle a (s.withFlavors client device) =
        ((.error e, .sign a), { s with transport := t }.withFlavors client device)) ∨
    (s.channel.table.get? Command.sign.code = some .sign ∧ ∃ address, ∀ client device,
      sign handle a (s.withFlavors client device) =
        yielding (process .sign address (.sign a)) signatureSize? (s.withFlavors client device)) := by
  -- The checks come in this order whatever the flavors are: the buffer, the handle, the dispatch table.
  by_cases hsize : a.signature.length < a.scheme.signatureSize
  · refine .inl ⟨.validation .signatureBufferTooSmall, s.transport, rfl, rfl, fun client device => ?_⟩
    unfold sign
    rw [if_pos hsize]
    rfl
  -- Past the size check, signing is the call.
  have hsign (client device : Flavor) : sign handle a (s.withFlavors client device) =
      yielding (call handle .signatureGeneration .sign (.sign a)) signatureSize?
        (s.withFlavors client device) := by
    unfold sign
    rw [if_neg hsize]
    rfl
  cases hservice : s.handles.resolveKind handle (.service .signatureGeneration) with
  | error e =>
    refine .inl ⟨e, s.transport, rfl, rfl, fun client device => (hsign client device).trans ?_⟩
    refine yielding_error _ ?_
    have hservice' : (s.withFlavors client device).handles.resolveKind handle
      (.service .signatureGeneration) = .error e := hservice
    unfold call
    rw [hservice']
  | ok address =>
    have hcall (client device : Flavor) : call handle .signatureGeneration .sign (.sign a)
        (s.withFlavors client device) = process .sign address (.sign a) (s.withFlavors client device) :=
      call_eq_process (s := s.withFlavors client device) hservice .sign (.sign a)
    cases hget : s.channel.table.get? Command.sign.code with
    | none =>
      refine .inl ⟨.notSupported Command.sign.code, Transport.resetDataBuffers s.transport, rfl, rfl,
        fun client device => (hsign client device).trans (yielding_error _ ((hcall _ _).trans ?_))⟩
      have hget' : (s.withFlavors client device).channel.table.get? Command.sign.code = none := hget
      rw [process_eq, Channel.run_process_disabled hget']
      rfl
    | some c =>
      obtain rfl := hl.command_of_get? hget
      refine .inr ⟨rfl, address, fun client device => (hsign client device).trans ?_⟩
      unfold yielding
      rw [hcall]

/-- **A session signs `Alike` with either firmware**, if client and engine have the same. -/
theorem exists_alike (hl : s.channel.table.Lawful) (handle : ServiceHandle) (a : SignOperation) :
    ∃ t : Session Device,
      (∀ flavor, (sign handle a (s.withFlavors flavor flavor)).2 = t.withFlavors flavor flavor) ∧
      a.Alike id fun flavor => (sign handle a (s.withFlavors flavor flavor)).1 := by
  rcases sign_cases hl handle a with ⟨e, t, -, -, h⟩ | ⟨hget, address, h⟩
  · exact ⟨_, fun flavor => congrArg Prod.snd (h flavor flavor),
      .failed e fun flavor => congrArg Prod.fst (h flavor flavor)⟩
  -- Both flavors get through to the executor, which answers them alike.
  obtain ⟨t, ht, halike⟩ := Channel.exists_signed hget address a s.transport
  have hprocess {flavor : Flavor} {r : Except ClientError Unit} {arguments : Arguments}
      (hr : (((s.channel.withFlavor flavor).process Command.sign.code address (.sign a)).run
        (s.transport.withFlavor flavor)).1 = (r, arguments)) :
      process .sign address (.sign a) (s.withFlavors flavor flavor) =
        ((r, arguments), { s with transport := t }.withFlavors flavor flavor) := by
    rw [process_eq]
    exact Prod.ext hr (congrArg (fun u => { s.withFlavors flavor flavor with transport := u }) (ht flavor))
  cases halike with
  | failed e hfailed =>
    have hsign (flavor : Flavor) := (h flavor flavor).trans (yielding_error signatureSize?
      (hprocess (hfailed flavor)))
    exact ⟨_, fun flavor => congrArg Prod.snd (hsign flavor),
      .failed e fun flavor => congrArg Prod.fst (hsign flavor)⟩
  | succeeded signature n hsucceeded hlegacy hpsa =>
    have hsign (flavor : Flavor) := (h flavor flavor).trans (yielding_ok (hprocess (hsucceeded flavor))
      (show signatureSize? _ = some (n flavor) from rfl))
    exact ⟨_, fun flavor => congrArg Prod.snd (hsign flavor),
      .succeeded signature n (fun flavor => congrArg Prod.fst (hsign flavor)) hlegacy hpsa⟩

/-- **A session does not sign with an engine of other firmware**: the call fails, the engine is as it was,
and the error is `invalidMessage` if nothing else is in the way. -/
theorem exists_declined (hl : s.channel.table.Lawful) (handle : ServiceHandle) (a : SignOperation)
    {client device : Flavor} (hforeign : client ≠ device) :
    ∃ (e : ClientError) (t : Session Device),
      sign handle a (s.withFlavors client device) = ((.error e, .sign a), t) ∧
      t.transport.machine.engine = (s.withFlavors client device).transport.machine.engine ∧
      (t.transport.log ≠ s.transport.log → s.transport.Spares .sign →
        s.transport.machine.engine.settings.unit.responseTag = s.channel.unit.responseTag →
        e = .engine Reason.invalidMessage.toError) := by
  rcases sign_cases hl handle a with ⟨e, t, hengine, hlog, h⟩ | ⟨hget, address, h⟩
  · refine ⟨e, _, h client device, ?_, fun hsent => absurd hlog hsent⟩
    exact congrArg (·.withFlavor device) hengine
  have hget' : (s.channel.withFlavor client).table.get? Command.sign.code = some .sign := hget
  have hforeign' : (s.transport.withFlavor device).machine.engine.settings.flavor ≠
    (s.channel.withFlavor client).flavor := hforeign.symm
  -- Past the checks of the client, the executor decides.
  obtain ⟨e, t, hrun, hkept, he⟩ := Channel.exists_declined hget' hforeign' address a
  refine ⟨e, { s.withFlavors client device with transport := t }, ?_, hkept, he⟩
  refine (h client device).trans (yielding_error _ ?_)
  rw [process_eq]
  exact congrArg (fun x => (x.1, { s.withFlavors client device with transport := x.2 })) hrun

/-- **Signing is laid out differently by the two generations of firmware, and comes to the same.** With
the same firmware on either side, sessions sign `Alike` whichever it is: they leave the same engine
behind, and either fail with the same error and the arguments as they were, or put the same signature into
the buffer. They return the size of the signature or of the buffer, which is the same if the buffer has
just that size. With different firmware, the engine refuses every request as invalid and stays as it is,
and so do the arguments. -/
theorem signatures_agree (hl : s.channel.table.Lawful) (handle : ServiceHandle) (a : SignOperation) :
    (∃ t : Session Device,
      (∀ flavor, (sign handle a (s.withFlavors flavor flavor)).2 = t.withFlavors flavor flavor) ∧
      a.Alike id fun flavor => (sign handle a (s.withFlavors flavor flavor)).1) ∧
    (a.signature.length = a.scheme.signatureSize →
      (sign handle a (s.withFlavors .legacy .legacy)).1 = (sign handle a (s.withFlavors .psa .psa)).1) ∧
    ∀ client device, client ≠ device →
      (∀ request : Command.sign.Request client, (Engine.execute ((s.channel.withFlavor client).frame
          Command.sign.code request)).run (s.transport.withFlavor device).machine =
        (s.transport.machine.engine.statusReply Command.sign.code
          (ResponseCode.failure Reason.invalidMessage.toError), (s.transport.withFlavor device).machine)) ∧
      ∃ (e : ClientError) (t : Session Device),
        sign handle a (s.withFlavors client device) = ((.error e, .sign a), t) ∧
        t.transport.machine.engine = (s.withFlavors client device).transport.machine.engine ∧
        (t.transport.log ≠ s.transport.log → s.transport.Spares .sign →
          s.transport.machine.engine.settings.unit.responseTag = s.channel.unit.responseTag →
          e = .engine Reason.invalidMessage.toError) := by
  have halike := exists_alike hl handle a
  refine ⟨halike, fun hexact => ?_, fun client device hforeign => ⟨fun request => ?_, ?_⟩⟩
  · -- With a buffer of exactly the size of the signature, both flavors report that size.
    obtain ⟨-, -, halike⟩ := halike
    exact halike.eq_of_length hexact
  · exact Engine.run_execute_foreign (s.channel.withFlavor client)
      (s.transport.withFlavor device).machine hforeign.symm request
  · exact exists_declined hl handle a hforeign

/-- A new device that has generated a key on P-256 signs three bytes with it. The kernel runs the whole
signature, the hash function and the multiplication on the curve included. -/
theorem exists_signing : ∃ s : Session Device, s.channel.table.Lawful ∧
    (sign ⟨1, 2, 0⟩ ⟨7, [1, 2, 3], Bytes.blank 64, .ecdsaP256Sha256, 1, 0⟩
      (s.withFlavors .legacy .legacy)).1.1.toBool = true := by
  let key : KeyGeneration := ⟨7, Bytes.blank 64, 2, (KeyType.ecdsa .p256).code, 0, 0, 0⟩
  have hstanding := standing_fresh.run (run_keyed fresh key .signatureGeneration)
  exact ⟨fresh.keyed key .signatureGeneration, hstanding.sound.lawful, by decide +kernel⟩

/-- On a new device with a service to sign with but no key, a session of the same firmware learns the same
for both, and one of other firmware that its request is invalid. On one with a key, a session gets the same
signature and size with both. -/
theorem signatures_agree_opened :
    (∃ s : Session Device, s.channel.table.Lawful ∧
      let a : SignOperation := ⟨7, [1, 2, 3], Bytes.blank 64, .ecdsaP256Sha256, 0, 0⟩
      (∃ e, ∀ flavor, (sign ⟨1, 1, 0⟩ a (s.withFlavors flavor flavor)).1 = (.error e, .sign a)) ∧
      (sign ⟨1, 1, 0⟩ a (s.withFlavors .legacy .psa)).1 =
        (.error (.engine Reason.invalidMessage.toError), .sign a)) ∧
    ∃ s : Session Device, s.channel.table.Lawful ∧
      let a : SignOperation := ⟨7, [1, 2, 3], Bytes.blank 64, .ecdsaP256Sha256, 1, 0⟩
      ∃ signature, ∀ flavor, (sign ⟨1, 2, 0⟩ a (s.withFlavors flavor flavor)).1 =
        (.ok 64, .sign { a with signature, signatureSize := 64 }) := by
  constructor
  · have hstanding := standing_fresh.run (.perform (.openService .signatureGeneration) .refl)
    generalize hs : (Instruction.perform (σ := Device) _ _).2 = s at hstanding
    have hready : s.transport.faults = [] ∧
        s.transport.machine.engine.settings.unit.responseTag = s.channel.unit.responseTag ∧
        (sign ⟨1, 1, 0⟩ ⟨7, [1, 2, 3], Bytes.blank 64, .ecdsaP256Sha256, 0, 0⟩
          (s.withFlavors .legacy .legacy)).1.1.toBool = false ∧
        (sign ⟨1, 1, 0⟩ ⟨7, [1, 2, 3], Bytes.blank 64, .ecdsaP256Sha256, 0, 0⟩
          (s.withFlavors .legacy .psa)).2.transport.log ≠ s.transport.log := by
      rw [← hs]
      decide +kernel
    obtain ⟨hfaults, htag, hfails, hsent⟩ := hready
    have hspares : s.transport.Spares .sign := by
      rw [Device.Spares, hfaults]
      exact nofun
    obtain ⟨⟨-, -, halike⟩, -, hforeign⟩ := signatures_agree hstanding.sound.lawful ⟨1, 1, 0⟩
      ⟨7, [1, 2, 3], Bytes.blank 64, .ecdsaP256Sha256, 0, 0⟩
    refine ⟨s, hstanding.sound.lawful, ?_, ?_⟩
    · rcases halike with ⟨e, h⟩ | ⟨signature, n, h, -, -⟩
      · exact ⟨e, h⟩
      · rw [h] at hfails
        cases hfails
    · obtain ⟨-, e, t, h, -, he⟩ := hforeign .legacy .psa nofun
      rw [h] at hsent ⊢
      rw [he hsent hspares htag]
  · obtain ⟨s, hl, hsigns⟩ := exists_signing
    obtain ⟨⟨-, -, halike⟩, -⟩ := signatures_agree hl ⟨1, 2, 0⟩
      ⟨7, [1, 2, 3], Bytes.blank 64, .ecdsaP256Sha256, 1, 0⟩
    refine ⟨s, hl, ?_⟩
    rcases halike with ⟨e, h⟩ | ⟨signature, n, h, hlegacy, hpsa⟩
    · rw [h] at hsigns
      cases hsigns
    -- A buffer of 64 bytes has just the size of the signature.
    have hsize (flavor : Flavor) : n flavor = 64 := by
      cases flavor with
      | legacy => exact UInt16.toNat_inj.mp hlegacy
      | psa => exact UInt16.toNat_inj.mp hpsa
    refine ⟨signature, fun flavor => ?_⟩
    rw [h, hsize]
    rfl

end Session

end SecureEngine
