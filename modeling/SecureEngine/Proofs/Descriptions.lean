import SecureEngine.Proofs.Layouts
import SecureEngine.Proofs.Truncation

/-! # How requests describe their buffers

Whatever the transport, preparing a message registers the buffers of its arguments in order, and the
request that comes out describes them as they are.

* **`Recorder.Registered`** — the calls on a transport have been registrations of given buffers.
* **`Command.PreparesOver`** — how a command is prepared over a transport with a record.
* **`DispatchTable.buffers_described`** — preparing a message goes one of these ways, over any transport; what
  is prepared describes the buffers as they are. -/

namespace SecureEngine

/-! ## (1) Registrations on a record -/

/-- The buffer that a call registers, and for what; a call that is no `TransportCall.stage` registers
none. -/
def TransportCall.registered? {σ : Type} : TransportCall σ → Option (Bytes × BufferUse)
  | .stage _ buffer use => some (buffer, use)
  | _ => none

/-- What a transport is shown of some buffers, with the use of each: none of the empty ones, the others in
their order. -/
def Attachment.shown (attachments : List Attachment) : List (Bytes × BufferUse) :=
  (attachments.filter fun a => !a.buffer.isEmpty).map fun a => (a.buffer, a.use)

/-- What two lists of buffers show is what each of them shows, `Attachment.shown` of the one behind that
of the other. -/
theorem Attachment.shown_append (first second : List Attachment) :
    shown (first ++ second) = shown first ++ shown second := by
  rw [shown, List.filter_append, List.map_append, shown, shown]

/-- A buffer that is not empty is shown, at its place in `Attachment.shown`. -/
theorem Attachment.shown_cons_of_ne_nil {attachment : Attachment} (h : attachment.buffer ≠ [])
    (rest : List Attachment) :
    shown (attachment :: rest) = (attachment.buffer, attachment.use) :: shown rest := by
  rw [shown, List.filter_cons, List.isEmpty_eq_false_iff.mpr h]
  rfl

section

variable {σ : Type}

/-- **Since an earlier time, these buffers have been registered**, each once and in this order, and no
other call has been made. -/
def Recorder.Registered (before after : Recorder σ) (buffers : List (Bytes × BufferUse)) : Prop :=
  ∃ calls, after.calls = before.calls ++ calls ∧
    calls.map TransportCall.registered? = buffers.map some

variable {before between after : Recorder σ}

/-- Buffers that are `Registered` after others are registered with them, in this order. -/
theorem Recorder.Registered.append {first second : List (Bytes × BufferUse)}
    (h₁ : before.Registered between first) (h₂ : between.Registered after second) :
    before.Registered after (first ++ second) := by
  obtain ⟨calls, hcalls, hfirst⟩ := h₁
  obtain ⟨more, hmore, hsecond⟩ := h₂
  refine ⟨calls ++ more, ?_, ?_⟩
  · rw [hmore, hcalls, List.append_assoc]
  · rw [List.map_append, List.map_append, hfirst, hsecond]

variable [Transport σ]

/-- A call of `Transport.dataBuffer` that registers a buffer is on the record, whether the transport takes
the buffer or not. -/
theorem Recorder.registered_dataBuffer {buffer : Bytes} {use : BufferUse}
    {result : Except TransportError Address}
    (h : Transport.dataBuffer before buffer use = (result, after)) :
    before.Registered after [(buffer, use)] := by
  cases h
  exact ⟨[.stage before.transport buffer use], rfl, rfl⟩

/-- Over a recorder, buffers that were `Placed` are on record as `Registered`, without those that were
left out. -/
theorem Placed.registered {placements : List Placement} (h : Placed before placements after) :
    before.Registered after (Attachment.shown (placements.map Placement.attachment)) := by
  -- By induction on the placements: an empty buffer is neither shown nor registered.
  induction h with
  | nil s => exact ⟨[], (List.append_nil _).symm, rfl⟩
  | @leftOut s t attachment rest hempty _ ih =>
    have hshown : Attachment.shown (attachment :: rest.map Placement.attachment) =
        Attachment.shown (rest.map Placement.attachment) := by
      rw [Attachment.shown, List.filter_cons, hempty]
      rfl
    rw [List.map_cons, hshown]
    exact ih
  | @staged s t u attachment address rest hne hd _ ih =>
    rw [List.map_cons, Attachment.shown_cons_of_ne_nil hne]
    exact (Recorder.registered_dataBuffer hd).append ih

/-! ## (2) Over any transport -/

/-- **How a command is prepared over a transport with a record**, with the result and the transport
afterwards. -/
inductive Command.PreparesOver {flavor : Flavor} (c : Command) (arguments : Arguments)
    (before : Recorder σ) : Except ClientError (Prepared flavor c) → Recorder σ → Prop
  /-- The arguments do not pass a check, and nothing has been registered. -/
  | refused {check : ArgumentCheck} (h : (c.checks arguments).find? (!·.passes) = some check) :
      PreparesOver c arguments before (.error (.validation check.complaint)) before
  /-- All buffers have been registered but the empty ones, and the request describes them, also as an
  engine reads it. -/
  | prepared {p : Prepared flavor c} {placements : List Placement} {after : Recorder σ}
      (hchecks : ∀ check ∈ c.checks arguments, check.passes) (hplaced : Placed before placements after)
      (hattachments : placements.map Placement.attachment = c.attachments arguments)
      (hregistered : before.Registered after (Attachment.shown (c.attachments arguments)))
      (hdescribes : p.Describes arguments placements)
      (hread : ∀ version tag command, c.decodeRequest flavor
        (Wire.finish version tag command c.requestSealed (c.encodeRequest p.request)) = .ok p.request) :
      PreparesOver c arguments before (.ok p) after
  /-- The transport has not taken one of the buffers, and has been shown none of those behind it. -/
  | brokeOff {front rest : List (Bytes × BufferUse)} {failing : Bytes × BufferUse} {after : Recorder σ}
      {e : TransportError} (hchecks : ∀ check ∈ c.checks arguments, check.passes)
      (hshown : Attachment.shown (c.attachments arguments) = front ++ failing :: rest)
      (hregistered : before.Registered after (front ++ [failing])) :
      PreparesOver c arguments before (.error (.transport e)) after

/-- **Every command is prepared in this way**: `PreparesOver` has the outcome of `Command.prepare` for all
arguments, over any recorded transport. -/
theorem Command.preparesOver {flavor : Flavor} (c : Command) (handle : UInt32) (arguments : Arguments)
    (before : Recorder σ) :
    c.PreparesOver arguments before ((c.prepare flavor handle arguments).run before).1
      ((c.prepare flavor handle arguments).run before).2 := by
  have hall : Registering.Prepares (σ := Recorder σ) (c.checks arguments) (c.attachments arguments)
      (fun p => p.Accords arguments) (c.prepare flavor handle arguments) :=
    c.prepares_prepare handle arguments
  have hprepares := hall before
  generalize (c.prepare flavor handle arguments).run before = outcome at hprepares
  cases hprepares with
  | refused hfails => exact .refused hfails
  | prepared hchecks hplaced hattachments haccords =>
    exact .prepared hchecks hplaced hattachments (hattachments ▸ hplaced.registered) haccords.2
      fun version tag command => decodeRequest_finish version tag command _
  | @brokeOff front failing rest u t e hchecks hplaced hattachments hne hfails =>
    have hshown : Attachment.shown (c.attachments arguments) =
        Attachment.shown (front.map Placement.attachment) ++
          (failing.buffer, failing.use) :: Attachment.shown rest := by
      rw [hattachments, Attachment.shown_append, Attachment.shown_cons_of_ne_nil hne]
    exact .brokeOff hchecks hshown
      (hplaced.registered.append (Recorder.registered_dataBuffer hfails))

/-- **Preparing a message describes its buffers as they are**, for every message byte, over any transport:
a byte without a command is not supported, and a command is prepared in three steps. What is registered is
read off a record, which changes nothing. -/
theorem DispatchTable.buffers_described (table : DispatchTable) (flavor : Flavor) (code : UInt8)
    (handle : UInt32) {room : Nat} (arguments : Arguments)
    (hroom : ∀ c, table.get? code = some c → c.requestSize flavor ≤ room) (before : Recorder σ) :
    ∃ result after, (table.prepare flavor code handle room arguments).run before = (result, after) ∧
      (table.prepare flavor code handle room arguments).run before.transport =
        (result, after.transport) ∧
      (table.get? code = none → result = .error (.notSupported code) ∧ after = before) ∧
      ∀ c, table.get? code = some c → ∃ outcome, result = outcome.map (fun p => ⟨c, p⟩) ∧
        c.PreparesOver arguments before outcome after := by
  -- Both runs give the same result, so it is enough to describe the recorded one.
  obtain ⟨staged, -, hrecorded, -, -⟩ :=
    mirrors_prepare table flavor code handle room arguments before
  refine ⟨_, _, hrecorded, rfl, fun hnone => ?_, fun c hget => ?_⟩
  · have hrun : (table.prepare flavor code handle room arguments).run before =
        (.error (.notSupported code), before) := by
      unfold prepare
      rw [hnone]
      rfl
    exact Prod.mk.inj (hrecorded.symm.trans hrun)
  · have hrun := run_prepare_of_room hget (hroom c hget) handle arguments before
    obtain ⟨hresult, hafter⟩ := Prod.mk.inj (hrecorded.symm.trans hrun)
    rw [hresult, hafter]
    exact ⟨_, rfl, c.preparesOver handle arguments before⟩

end

/-- A transport that gives address 0 to every buffer still has an output: the second and the third buffer of
a decryption without an initial block are registered, and the output is at 0. -/
theorem DispatchTable.buffers_described_zero :
    let table : DispatchTable := .enabling [.full]
    let arguments : Arguments := .cipher ⟨7, [], Bytes.blank 16, Bytes.blank 32, 0, 0, true, 0⟩
    let before : Recorder Playback := ⟨{ reply := [] }, []⟩
    (∀ c, table.get? Command.cipher.code = some c → c.requestSize .legacy ≤ Wire.maxMessageSize) ∧
      ∃ (p : Prepared .legacy .cipher) (placements : List Placement) (after : Recorder Playback),
        (table.prepare .legacy Command.cipher.code 3 Wire.maxMessageSize arguments).run before =
          (.ok ⟨.cipher, p⟩, after) ∧
        before.Registered after [(Bytes.blank 16, { input := true, secure := true }),
          (Bytes.blank 32, { output := true, secure := true })] ∧
        p.Describes arguments placements ∧ p.output = some 0 := by
  intro table arguments before
  have hroom (c : Command) (_ : table.get? Command.cipher.code = some c) :
      c.requestSize .legacy ≤ Wire.maxMessageSize := c.requestSize_le_maxMessageSize .legacy
  refine ⟨hroom, ?_⟩
  have hget : table.get? Command.cipher.code = some .cipher := by decide +kernel
  have houtput : ((table.prepare .legacy Command.cipher.code 3 Wire.maxMessageSize arguments).run
      before).1.map (·.2.output) = .ok (some 0) := by decide +kernel
  obtain ⟨result, after, hrun, -, -, hsome⟩ :=
    buffers_described table .legacy Command.cipher.code 3 arguments hroom before
  obtain ⟨outcome, rfl, hprepares⟩ := hsome .cipher hget
  rw [hrun] at houtput
  cases hprepares with
  | refused h => cases houtput
  | brokeOff _ _ _ => cases houtput
  | @prepared p placements _ _ hplaced hattachments hregistered hdescribes hread =>
    exact ⟨p, placements, after, hrun, hregistered, hdescribes, Except.ok.inj houtput⟩

end SecureEngine
