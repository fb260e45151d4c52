import SecureEngine.Proofs.Preparation

/-! # The ways a round trip can go

* **`Channel.Course`** — everything a round trip can do: it stages buffers, sends at most one request,
  reads the output back at most once, and drops its registrations at the end.
* **`Channel.course_process`** — every round trip takes one of these ways, and does over a recorder
  what it does over the transport itself.
* **`Channel.process_atomic`** — a failure leaves the arguments as they were. -/

namespace SecureEngine

section

variable {σ : Type} [Transport σ]

/-- Preparing within a buffer stages what preparing stages: with a `Recorder` or without one,
`Command.prepareWithin` makes the same calls. -/
theorem Command.mirrors_prepareWithin (flavor : Flavor) (handle : UInt32) (room : Nat) (c : Command)
    (arguments : Arguments) :
    Registering.Mirrors (σ := σ) (Prepared.Sound handle arguments)
      (c.prepareWithin flavor handle room arguments)
      (c.prepareWithin flavor handle room arguments) := by
  unfold Command.prepareWithin
  refine Registering.mirrors_bind (Command.mirrors_prepare handle flavor c arguments) fun p hp => ?_
  refine Registering.mirrors_bind (Registering.mirrors_demand _ _) fun _ _ => ?_
  exact Registering.mirrors_pure hp

/-- **A prepared message is a sound request of the command that its byte stands for.** -/
theorem DispatchTable.mirrors_prepare (table : DispatchTable) (flavor : Flavor) (code : UInt8)
    (handle : UInt32) (room : Nat) (arguments : Arguments) :
    Registering.Mirrors (σ := σ)
      (fun p => table.get? code = some p.1 ∧ p.2.Sound handle arguments)
      (table.prepare flavor code handle room arguments)
      (table.prepare flavor code handle room arguments) := by
  unfold DispatchTable.prepare
  split
  · -- An enabled command prepares its own request; any other code is refused at once.
    rename_i c hc
    refine Registering.mirrors_bind (Command.mirrors_prepareWithin flavor handle room c arguments)
      fun p hp => ?_
    exact Registering.mirrors_pure ⟨hc, hp⟩
  · exact Registering.mirrors_of_run (fun _ => rfl) (fun _ => rfl) nofun nofun

end

namespace Channel

variable {σ : Type} [Transport σ]

/-! ## (1) The output -/

/-- The calls that read an output back: one if the message has an output address and the arguments an
output, otherwise none. -/
def readBacks (output : Option Address) (arguments : Arguments) (s : σ) : List (TransportCall σ) :=
  match output, arguments.output? with
  | some address, some out => [.readBack s address out]
  | _, _ => []

omit [Transport σ] in
/-- Reading an output back sends nothing: none of the calls of `readBacks` has a request. -/
theorem filterMap_sent?_readBacks (output : Option Address) (arguments : Arguments) (s : σ) :
    (readBacks output arguments s).filterMap TransportCall.sent? = [] := by
  unfold readBacks
  split <;> rfl

/-- A success is settled over a `Recorder` as over the transport. -/
theorem settle_recorder (channel : Channel) (code : UInt8) (output : Option Address)
    (response : Bytes) (arguments : Arguments) (r : Recorder σ) :
    channel.settle code output response arguments r =
      ((channel.settle code output response arguments r.transport).1,
        ⟨(channel.settle code output response arguments r.transport).2,
          r.calls ++ readBacks output arguments r.transport⟩) := by
  unfold settle readBacks
  rcases output with _ | address
  · simp only [List.append_nil]
  rcases arguments.output? with _ | out
  · simp only [List.append_nil]
  dsimp only
  rw [Recorder.readDataBuffer_eq]
  rcases Transport.readDataBuffer r.transport address out with ⟨_ | _, t⟩ <;> rfl

/-! ## (2) The ways -/

/-- **The ways a round trip can go**, each with the result, the calls on the transport and the
state of the transport afterwards. -/
inductive Course (channel : Channel) (code : UInt8) (handle : UInt32) (arguments : Arguments)
    (s : σ) : Except ClientError Unit × Arguments → List (TransportCall σ) → σ → Prop
  /-- The request could not be prepared. -/
  | unprepared {t : σ} {staged : List (TransportCall σ)} {e : ClientError}
      (hs : Staged s staged t) (he : ∀ x, e ≠ .engine x) :
      Course channel code handle arguments s (.error e, arguments) (staged ++ [.reset t])
        (Transport.resetDataBuffers t)
  /-- The exchange failed. -/
  | unanswered {t u : σ} {staged : List (TransportCall σ)} {c : Command}
      {p : Prepared channel.flavor c} {e : TransportError} {written : Bytes}
      (hs : Staged s staged t) (hc : channel.table.get? code = some c)
      (hp : p.Sound handle arguments)
      (hx : Transport.sendAndReceive t (channel.frame code p.request)
        (c.responseSize channel.flavor) = ((.error e, written), u)) :
      Course channel code handle arguments s (.error (.transport e), arguments)
        (staged ++ [.exchange t (channel.frame code p.request) (c.responseSize channel.flavor),
          .reset u]) (Transport.resetDataBuffers u)
  /-- The response says that the request failed, or answers something else. -/
  | refused {t u : σ} {staged : List (TransportCall σ)} {c : Command}
      {p : Prepared channel.flavor c} {e : ClientError} {written : Bytes}
      (hs : Staged s staged t) (hc : channel.table.get? code = some c)
      (hp : p.Sound handle arguments)
      (hx : Transport.sendAndReceive t (channel.frame code p.request)
        (c.responseSize channel.flavor) = ((.ok (), written), u))
      (hv : channel.verdict code
        (Bytes.overlay (Bytes.blank (c.responseSize channel.flavor)) written) = .error e) :
      Course channel code handle arguments s (.error e, arguments)
        (staged ++ [.exchange t (channel.frame code p.request) (c.responseSize channel.flavor),
          .reset u]) (Transport.resetDataBuffers u)
  /-- The response says that the request succeeded. -/
  | settled {t u v : σ} {staged : List (TransportCall σ)} {c : Command}
      {p : Prepared channel.flavor c} {written : Bytes} {result : Except ClientError Unit × Arguments}
      (hs : Staged s staged t) (hc : channel.table.get? code = some c)
      (hp : p.Sound handle arguments)
      (hx : Transport.sendAndReceive t (channel.frame code p.request)
        (c.responseSize channel.flavor) = ((.ok (), written), u))
      (hv : channel.verdict code
        (Bytes.overlay (Bytes.blank (c.responseSize channel.flavor)) written) = .ok ())
      (hsettle : channel.settle code p.output
        (Bytes.overlay (Bytes.blank (c.responseSize channel.flavor)) written) arguments u =
          (result, v)) :
      Course channel code handle arguments s result
        (staged ++ [.exchange t (channel.frame code p.request) (c.responseSize channel.flavor)] ++
          readBacks p.output arguments u ++ [.reset v]) (Transport.resetDataBuffers v)

/-- **Every round trip takes one of these ways**, and keeping a record changes nothing. -/
theorem course_process (channel : Channel) (code : UInt8) (handle : UInt32) (arguments : Arguments)
    (r : Recorder σ) : ∃ result calls t,
      Course channel code handle arguments r.transport result calls t ∧
      (channel.process code handle arguments).run r.transport = (result, t) ∧
      (channel.process code handle arguments).run r = (result, ⟨t, r.calls ++ calls⟩) := by
  -- Both runs are followed at once, phase by phase: each phase gives the same outcome on the bare
  -- transport and under the recorder, which only adds its notes.
  obtain ⟨staged, hs, hrun, hp, hne⟩ := DispatchTable.mirrors_prepare channel.table channel.flavor
    code handle Wire.maxMessageSize arguments r
  rcases hprep : (channel.table.prepare channel.flavor code handle Wire.maxMessageSize
    arguments).run r.transport with ⟨e | ⟨c, p⟩, t⟩
  · -- The request cannot be prepared.
    rw [hprep] at hs hrun hne
    have he (x : EngineError) : e ≠ .engine x := fun hx => hne x (congrArg Except.error hx)
    refine ⟨_, _, _, .unprepared hs he, ?_, ?_⟩
    · rw [run_process, hprep]
    · rw [run_process, hrun]
      simp only [Recorder.resetDataBuffers_eq, Recorder.note, List.append_assoc]
  rw [hprep] at hs hrun hp
  obtain ⟨hc, hsound⟩ := hp _ rfl
  rcases hx : Transport.sendAndReceive t (channel.frame code p.request)
    (c.responseSize channel.flavor) with ⟨⟨e | _, written⟩, u⟩
  · -- The transport fails.
    refine ⟨_, _, _, .unanswered hs hc hsound hx, ?_, ?_⟩
    · rw [run_process, hprep]
      simp only [hx]
    · rw [run_process, hrun]
      simp only [Recorder.sendAndReceive_eq, hx, Recorder.resetDataBuffers_eq, Recorder.note,
        List.append_assoc, List.cons_append, List.nil_append]
  cases hv : channel.verdict code
    (Bytes.overlay (Bytes.blank (c.responseSize channel.flavor)) written) with
  | error e =>
    -- The answer is not a success.
    refine ⟨_, _, _, .refused hs hc hsound hx hv, ?_, ?_⟩
    · rw [run_process, hprep]
      simp only [hx, hv]
    · rw [run_process, hrun]
      simp only [Recorder.sendAndReceive_eq, hx, hv, Recorder.resetDataBuffers_eq, Recorder.note,
        List.append_assoc, List.cons_append, List.nil_append]
  | ok _ =>
    rcases hsettle : channel.settle code p.output
      (Bytes.overlay (Bytes.blank (c.responseSize channel.flavor)) written) arguments u with
      ⟨result, v⟩
    refine ⟨_, _, _, .settled hs hc hsound hx hv hsettle, ?_, ?_⟩
    · rw [run_process, hprep]
      simp only [hx, hv, hsettle]
    · rw [run_process, hrun]
      simp only [Recorder.sendAndReceive_eq, hx, hv, settle_recorder, Recorder.note, hsettle,
        Recorder.resetDataBuffers_eq, List.append_assoc]

/-! ## (3) Failures -/

omit [Transport σ] in
/-- Arguments that cannot be completed are left alone: where `Channel.conclude` fails,
`DispatchTable.complete` has, and the arguments are those given. -/
theorem conclude_error {channel : Channel} {code : UInt8} {response : Bytes}
    {arguments after : Arguments} {e : ClientError}
    (h : channel.conclude code response arguments = (.error e, after)) :
    after = arguments ∧
      channel.table.complete channel.flavor code response arguments = .error e := by
  unfold conclude at h
  split at h
  · cases h
  · rename_i hc
    cases h
    exact ⟨rfl, hc⟩

/-- **Settling a success fails before it changes the arguments**, or on the checksum of the
response: what was read back is followed by no other check. -/
theorem settle_error {channel : Channel} {code : UInt8} {handle : UInt32} {c : Command}
    {p : Prepared channel.flavor c} {response : Bytes} {arguments after : Arguments} {s t : σ}
    {e : ClientError} (hc : channel.table.get? code = some c) (hp : p.Sound handle arguments)
    (hl : response.length = c.responseSize channel.flavor)
    (h : channel.settle code p.output response arguments s = ((.error e, after), t)) :
    after = arguments ∨ ∃ m, e = .integrityFailure m := by
  unfold settle at h
  split at h
  · rename_i address out hout hargs
    rcases hread : Transport.readDataBuffer s address out with ⟨_ | written, u⟩
    · rw [hread] at h
      cases h
      exact Or.inl rfl
    · rw [hread] at h
      obtain ⟨-, hcomplete⟩ := conclude_error (Prod.ext_iff.mp h).1
      rw [DispatchTable.complete, hc] at hcomplete
      -- The output is in the arguments by now, and only the checksum is left to check.
      have hintact := hp.intact (by rw [hout]; exact Option.some_ne_none _)
      exact Or.inr (hintact out _ response e hargs (Bytes.length_overlay _ _) hl hcomplete)
  · exact Or.inl (conclude_error (Prod.ext_iff.mp h).1).1

/-- A round trip with a failed exchange ends in the failure of the transport. -/
theorem Course.of_failed_exchange {channel : Channel} {code : UInt8} {handle : UInt32}
    {arguments : Arguments} {s before t : σ} {result : Except ClientError Unit × Arguments}
    {calls : List (TransportCall σ)} {request : Bytes} {size : Nat} {e : TransportError}
    (h : Course channel code handle arguments s result calls t)
    (hmem : ⟨before, request, size⟩ ∈ calls.filterMap TransportCall.sent?)
    (he : (Transport.sendAndReceive before request size).1.1 = .error e) :
    result = (.error (.transport e), arguments) := by
  -- There is one exchange at most, and only the course that ends with it has it fail.
  cases h with
  | unprepared hs => simp [hs.filterMap_sent?, TransportCall.sent?] at hmem
  | unanswered hs hc hp hx =>
    simp [hs.filterMap_sent?, TransportCall.sent?] at hmem
    obtain ⟨rfl, rfl, rfl⟩ := hmem
    rw [hx] at he
    cases he
    rfl
  | refused hs hc hp hx =>
    simp [hs.filterMap_sent?, TransportCall.sent?] at hmem
    obtain ⟨rfl, rfl, rfl⟩ := hmem
    rw [hx] at he
    cases he
  | settled hs hc hp hx =>
    simp [hs.filterMap_sent?, filterMap_sent?_readBacks, TransportCall.sent?] at hmem
    obtain ⟨rfl, rfl, rfl⟩ := hmem
    rw [hx] at he
    cases he

/-- **Every failure but one leaves the arguments as they were**, the output buffer included; only a
wrong checksum is found after the output has been copied back. When the exchange itself fails, the
round trip fails with the error of the transport, whatever the response buffer holds. -/
theorem process_atomic (channel : Channel) (code : UInt8) (handle : UInt32) (arguments : Arguments)
    (s : σ) :
    let outcome := (channel.process code handle arguments).run s
    let recorded := (channel.process code handle arguments).run (⟨s, []⟩ : Recorder σ)
    (∀ e, outcome.1.1 = .error e → (∀ m, e ≠ .integrityFailure m) → outcome.1.2 = arguments) ∧
    (recorded.1 = outcome.1 ∧ recorded.2.transport = outcome.2) ∧
    ∀ before request size e, .exchange before request size ∈ recorded.2.calls →
      (Transport.sendAndReceive before request size).1.1 = .error e →
      outcome.1.1 = .error (.transport e) := by
  intro outcome recorded
  obtain ⟨result, calls, t, hcourse, hplain, hrecorded⟩ :=
    course_process channel code handle arguments (⟨s, []⟩ : Recorder σ)
  have houtcome : outcome = (result, t) := hplain
  have hrecord : recorded = (result, ⟨t, calls⟩) := hrecorded
  rw [houtcome, hrecord]
  refine ⟨?_, ⟨rfl, rfl⟩, ?_⟩
  · -- Everything before the output is copied back leaves the arguments alone.
    intro e he hm
    cases hcourse with
    | unprepared | unanswered | refused => rfl
    | settled hs hc hp hx hv hsettle =>
      obtain ⟨r, after⟩ := result
      obtain rfl : r = .error e := he
      rcases settle_error hc hp (by simp) hsettle with h | ⟨m, h⟩
      · exact h
      · exact absurd h (hm m)
  · intro before request size e hmem he
    rw [hcourse.of_failed_exchange (TransportCall.exchange_mem_iff.mp hmem) he]

end Channel

end SecureEngine
