import SecureEngine.Proofs.Course
import SecureEngine.Proofs.PreparedRequests

/-! # The calls of a round trip

* **`Staging`**, **`ReadBack`**, **`Conversation`** — the calls that a round trip makes on its transport,
  in their order.
* **`Placed.recorded`** — buffers that are placed over a recorder are noted one after the other.
* **`Channel.Disciplined`** — what is sent, when it is sent, and what is read back.
* **`Channel.process_disciplined`** — every round trip over any transport is such a conversation. -/

namespace SecureEngine

variable {σ : Type}

/-! ## (1) Conversations -/

/-- **A buffer shown to the engine**, with the state of the transport before it. -/
structure Staging (σ : Type) where
  before : σ
  buffer : Bytes
  use : BufferUse

/-- **An output read back**, with the state of the transport before it: the address it is read at, and the
`out` whose place it takes. -/
structure ReadBack (σ : Type) where
  before : σ
  address : Address
  out : Bytes

/-- Whether the engine writes the buffer, going by the `BufferUse` it is staged with. -/
def Staging.isOutput (g : Staging σ) : Bool := g.use.output

def Staging.call (g : Staging σ) : TransportCall σ := .stage g.before g.buffer g.use

def SentRequest.call (x : SentRequest σ) : TransportCall σ := .exchange x.before x.request x.size

def ReadBack.call (b : ReadBack σ) : TransportCall σ := .readBack b.before b.address b.out

/-- **The calls of a round trip**: buffers are staged, a request is sent at most once, an output is read
back at most once, and at last the registrations are dropped. -/
structure Conversation (σ : Type) where
  stagings : List (Staging σ)
  sent : Option (SentRequest σ) := none
  readBack : Option (ReadBack σ) := none
  /-- The state of the transport before the registrations are dropped. -/
  last : σ

/-- The calls in their order: the stagings, the request, what is read back, and the final
`Transport.resetDataBuffers`. -/
def Conversation.calls (v : Conversation σ) : List (TransportCall σ) :=
  v.stagings.map Staging.call ++ v.sent.toList.map SentRequest.call ++
    v.readBack.toList.map ReadBack.call ++ [.reset v.last]

variable [Transport σ]

/-- What the transport made of a buffer: the address from `Transport.dataBuffer`, or an error. -/
def Staging.result (g : Staging σ) : Except TransportError Address :=
  (Transport.dataBuffer g.before g.buffer g.use).1

namespace Channel

/-- **A response announces a success** of what was asked: the code of the command, the response tag of the
unit and `ResponseCode.successStatus`. -/
structure Granted (channel : Channel) (code : UInt8) (response : Bytes) : Prop where
  command_eq : (statusOf response).1.command = code
  tag_eq : (statusOf response).1.tag = channel.unit.responseTag
  status_eq : ResponseCode.status (statusOf response).2 = ResponseCode.successStatus

/-- **What a round trip does with its transport**: the four conditions under which a `Conversation` may
send a request and read an output back. -/
structure Disciplined (channel : Channel) (code : UInt8) (v : Conversation σ) : Prop where
  /-- A request is sent only after every buffer has been staged. -/
  staged : v.sent ≠ none → ∀ g ∈ v.stagings, ∃ address, g.result = .ok address
  /-- A request is as long as its header says, in words, and ends in its checksum if it has one. -/
  framed : ∀ x, v.sent = some x → ∃ (c : Command) (size : UInt8), channel.table.get? code = some c ∧
    Wire.Message.decode x.request =
      (⟨channel.unit.version, size, code, channel.unit.commandTag⟩ : Wire.Header) ∧
    4 * size.toNat = x.request.length ∧
    (c.requestSealed = true → Checksum.check x.request = .ok ())
  /-- An output is read back only after a success. -/
  granted : ∀ b, v.readBack = some b → ∃ x written, v.sent = some x ∧
    (Transport.sendAndReceive x.before x.request x.size).1 = (.ok (), written) ∧
    channel.Granted code (Bytes.overlay (Bytes.blank x.size) written)
  /-- It is read from where the one output was staged, and it is as long. -/
  output : ∀ b, v.readBack = some b → ∃ g, v.stagings.filter Staging.isOutput = [g] ∧
    g.result = .ok b.address ∧ b.out = g.buffer

end Channel

/-! ## (2) Staging -/

/-- The calls that stage some buffers where they are placed, one after another; a `Placement` without an
address is not staged. -/
def stagings : σ → List Placement → List (Staging σ)
  | _, [] => []
  | s, ⟨_, none⟩ :: rest => stagings s rest
  | s, ⟨attachment, some _⟩ :: rest =>
    ⟨s, attachment.buffer, attachment.use⟩ ::
      stagings (Transport.dataBuffer s attachment.buffer attachment.use).2 rest

/-- A buffer that was placed at an address is the first of the `stagings`, and the others follow it. -/
theorem stagings_staged {s t : σ} {attachment : Attachment} {address : Address}
    (hd : Transport.dataBuffer s attachment.buffer attachment.use = (.ok address, t))
    (rest : List Placement) :
    stagings s (⟨attachment, some address⟩ :: rest) =
      ⟨s, attachment.buffer, attachment.use⟩ :: stagings t rest := by
  rw [stagings, hd]

/-- **Buffers `Placed` over a `Recorder` are placed over the transport**, and noted in their order. -/
theorem Placed.recorded {r r' : Recorder σ} {placements : List Placement}
    (h : Placed r placements r') : Placed r.transport placements r'.transport ∧
      r'.calls = r.calls ++ (stagings r.transport placements).map Staging.call := by
  -- By induction on the placements, each of which adds its staging to the record or nothing.
  induction h with
  | nil r => exact ⟨.nil _, (List.append_nil _).symm⟩
  | leftOut hempty _ ih => exact ⟨.leftOut hempty ih.1, ih.2⟩
  | @staged r t u attachment address rest hne hd _ ih =>
    obtain ⟨hresult, rfl⟩ := Prod.ext_iff.mp hd
    refine ⟨.staged hne (Prod.ext hresult rfl) ih.1, ?_⟩
    rw [ih.2]
    exact List.append_assoc _ _ _

/-- Placed buffers were staged successfully: every `Staging` that `Placed` lists has an address for its
result. -/
theorem Placed.result {s t : σ} {placements : List Placement} (h : Placed s placements t) :
    ∀ g ∈ stagings s placements, ∃ address, g.result = .ok address := by
  induction h with
  | nil => nofun
  | leftOut _ _ ih => exact ih
  | @staged s t u attachment address rest hne hd _ ih =>
    intro g hg
    rw [stagings_staged hd] at hg
    rcases List.mem_cons.mp hg with rfl | hg
    · exact ⟨address, congrArg Prod.fst hd⟩
    · exact ih g hg

/-- Without an output no buffer is staged as one: the `stagings` of such placements have no
`Staging.isOutput` among them. -/
theorem Placed.filter_stagings_nil {s t : σ} {placements : List Placement} (h : Placed s placements t)
    (hnone : placements.filter Placement.isOutput = []) :
    (stagings s placements).filter Staging.isOutput = [] := by
  -- By induction on the placements: what is left out stages nothing, and what is staged is no output.
  induction h with
  | nil => rfl
  | leftOut _ _ ih =>
    refine ih (List.filter_eq_nil_iff.mpr fun q hq => ?_)
    exact List.filter_eq_nil_iff.mp hnone q (List.mem_cons_of_mem _ hq)
  | @staged s t u attachment address rest hne hd _ ih =>
    have hall := List.filter_eq_nil_iff.mp hnone
    have hhead : ¬Staging.isOutput ⟨s, attachment.buffer, attachment.use⟩ = true :=
      hall _ List.mem_cons_self
    rw [stagings_staged hd, List.filter_cons_of_neg hhead]
    exact ih (List.filter_eq_nil_iff.mpr fun q hq => hall q (List.mem_cons_of_mem _ hq))

/-- **The one output was staged** where it was `Placed`. -/
theorem Placed.filter_stagings {s t : σ} {placements : List Placement} {q : Placement}
    {address : Address} (h : Placed s placements t)
    (hone : placements.filter Placement.isOutput = [q]) (haddress : q.address = some address) :
    ∃ g, (stagings s placements).filter Staging.isOutput = [g] ∧ g.result = .ok address ∧
      q.attachment.buffer = g.buffer := by
  induction h with
  | nil => cases hone
  | @leftOut s t attachment rest _ _ ih =>
    refine ih ?_
    by_cases hout : Placement.isOutput ⟨attachment, none⟩ = true
    · -- The output has an address, so it is not the buffer left out.
      rw [List.filter_cons_of_pos hout] at hone
      obtain ⟨rfl, -⟩ := List.cons.inj hone
      cases haddress
    · rwa [List.filter_cons_of_neg hout] at hone
  | @staged s t u attachment other rest hne hd hrest ih =>
    rw [stagings_staged hd]
    by_cases hout : Placement.isOutput ⟨attachment, some other⟩ = true
    · have hhead : Staging.isOutput ⟨s, attachment.buffer, attachment.use⟩ = true := hout
      rw [List.filter_cons_of_pos hout] at hone
      obtain ⟨rfl, hnone⟩ := List.cons.inj hone
      obtain rfl := Option.some.inj haddress
      rw [List.filter_cons_of_pos hhead, hrest.filter_stagings_nil hnone]
      exact ⟨_, rfl, congrArg Prod.fst hd, rfl⟩
    · have hhead : ¬Staging.isOutput ⟨s, attachment.buffer, attachment.use⟩ = true := hout
      rw [List.filter_cons_of_neg hout] at hone
      rw [List.filter_cons_of_neg hhead]
      exact ih hone

/-- Calls that stage buffers are stagings: what `Staged` records are the calls of some `Staging`s. -/
theorem Staged.exists_stagings {s t : σ} {calls : List (TransportCall σ)} (h : Staged s calls t) :
    ∃ gs : List (Staging σ), calls = gs.map Staging.call := by
  induction h with
  | nil => exact ⟨[], rfl⟩
  | @cons s _ _ buffer use _ ih =>
    obtain ⟨gs, rfl⟩ := ih
    exact ⟨⟨s, buffer, use⟩ :: gs, rfl⟩

/-! ## (3) Round trips -/

namespace Channel

omit [Transport σ] in
/-- A response with a good verdict has `Granted` its request. -/
theorem granted_of_verdict {channel : Channel} {code : UInt8} {response : Bytes}
    (h : channel.verdict code response = .ok ()) : channel.Granted code response := by
  unfold verdict at h
  dsimp only at h
  split at h
  · cases h
  -- The header is judged first, and the status after it.
  rename_i hheader
  obtain ⟨hcommand, htag⟩ := not_or.mp hheader
  refine ⟨Decidable.not_not.mp hcommand, Decidable.not_not.mp htag, ?_⟩
  unfold ResponseCode.outcome at h
  split at h
  · assumption
  · cases h

/-- A `frame` says what it is. -/
theorem framed_frame (channel : Channel) {code : UInt8} {c : Command}
    (hc : channel.table.get? code = some c) (request : c.Request channel.flavor) :
    ∃ (c : Command) (size : UInt8), channel.table.get? code = some c ∧
      Wire.Message.decode (channel.frame code request) =
        (⟨channel.unit.version, size, code, channel.unit.commandTag⟩ : Wire.Header) ∧
      4 * size.toNat = (channel.frame code request).length ∧
      (c.requestSealed = true → Checksum.check (channel.frame code request) = .ok ()) := by
  refine ⟨c, _, hc, channel.decode_frame code request, ?_, fun hs => channel.check_frame hs code _⟩
  rw [Command.requestSize_words, channel.length_frame]

/-- A round trip that sends nothing is `Disciplined`. -/
theorem disciplined_unsent (channel : Channel) (code : UInt8) (gs : List (Staging σ)) (last : σ) :
    channel.Disciplined code ({ stagings := gs, last } : Conversation σ) where
  staged h := absurd rfl h
  framed := nofun
  granted := nofun
  output := nofun

section

variable {channel : Channel} {code : UInt8} {c : Command} {p : Prepared channel.flavor c}
  {arguments : Arguments} {placements : List Placement} {s t : σ}

/-- So is one that sends a frame after its buffers have been `Placed`. -/
theorem disciplined_sent (hc : channel.table.get? code = some c) (h : Placed s placements t)
    (size : Nat) (last : σ) :
    channel.Disciplined code ({ stagings := stagings s placements
                                sent := some ⟨t, channel.frame code p.request, size⟩
                                last } : Conversation σ) where
  staged _ := h.result
  framed x hx := by
    cases hx
    exact channel.framed_frame hc p.request
  granted := nofun
  output := nofun

/-- **So is one that reads its output back** after a success, which `Channel.verdict` has found in the
response before. -/
theorem disciplined_readBack (hc : channel.table.get? code = some c) (h : Placed s placements t)
    (hp : p.Attaches arguments placements) {size : Nat} {written : Bytes} {u : σ}
    (hx : Transport.sendAndReceive t (channel.frame code p.request) size = ((.ok (), written), u))
    (hv : channel.verdict code (Bytes.overlay (Bytes.blank size) written) = .ok ())
    {address : Address} {out : Bytes} (haddress : p.output = some address)
    (hout : arguments.output? = some out) (last : σ) :
    channel.Disciplined code ({ stagings := stagings s placements
                                sent := some ⟨t, channel.frame code p.request, size⟩
                                readBack := some ⟨u, address, out⟩
                                last } : Conversation σ) where
  staged _ := h.result
  framed x hx := by
    cases hx
    exact channel.framed_frame hc p.request
  granted b _ := ⟨_, written, rfl, congrArg Prod.fst hx, granted_of_verdict hv⟩
  output b hb := by
    cases hb
    -- The request has one output placement, and the buffer read back is the one staged for it.
    have houtput := hp.output
    rw [haddress] at houtput
    cases houtput with
    | one hone hq hbuffer =>
      obtain ⟨g, hfilter, hresult, hg⟩ := h.filter_stagings hone hq.symm
      rw [hout] at hbuffer
      exact ⟨g, hfilter, hresult, (Option.some.inj hbuffer).trans hg⟩

end

/-- **Every round trip is disciplined**, over any transport, whatever the table, the message, the handle
and the arguments. Keeping a record of the calls does not change what a round trip does. -/
theorem process_disciplined (channel : Channel) (code : UInt8) (handle : UInt32)
    (arguments : Arguments) (s : σ) :
    let outcome := (channel.process code handle arguments).run s
    let recorded := (channel.process code handle arguments).run (⟨s, []⟩ : Recorder σ)
    (recorded.1 = outcome.1 ∧ recorded.2.transport = outcome.2) ∧
    ∃ v : Conversation σ, recorded.2.calls = v.calls ∧ channel.Disciplined code v := by
  intro outcome recorded
  -- The record is a passenger: the call gives the same result and the same transport without it.
  refine ⟨?_, ?_⟩
  · obtain ⟨result, calls, t, -, hplain, hrecorded⟩ :=
      course_process channel code handle arguments (⟨s, []⟩ : Recorder σ)
    have houtcome : outcome = (result, t) := hplain
    have hrecord : recorded = (result, ⟨t, calls⟩) := hrecorded
    rw [houtcome, hrecord]
    exact ⟨rfl, rfl⟩
  have hrun : recorded = _ := run_process channel code handle arguments (⟨s, []⟩ : Recorder σ)
  -- From here on the phases of the call are gone through in order; the call may end after each.
  rw [hrun]
  rcases hprep : (channel.table.prepare channel.flavor code handle Wire.maxMessageSize
    arguments).run (⟨s, []⟩ : Recorder σ) with ⟨e | ⟨c, p⟩, r⟩
  · -- The request cannot be prepared; some buffers may have been staged.
    obtain ⟨staged, hs, hmirror, -⟩ := DispatchTable.mirrors_prepare channel.table channel.flavor
      code handle Wire.maxMessageSize arguments (⟨s, []⟩ : Recorder σ)
    obtain ⟨gs, rfl⟩ := hs.exists_stagings
    rw [hprep] at hmirror
    have hcalls : r.calls = gs.map Staging.call :=
      (congrArg (fun x => x.2.calls) hmirror).trans (List.nil_append _)
    refine ⟨_, ?_, disciplined_unsent channel code gs r.transport⟩
    simp only [Recorder.resetDataBuffers_eq, Recorder.note, hcalls, Conversation.calls,
      Option.toList_none, List.map_nil, List.append_nil]
  -- The request is prepared, and the buffers are staged as the placements say.
  obtain ⟨hc, placements, hplaced, hp⟩ := DispatchTable.placed_of_prepare hprep
  obtain ⟨hplaced, hcalls⟩ := hplaced.recorded
  rw [List.nil_append] at hcalls
  rcases hx : Transport.sendAndReceive r.transport (channel.frame code p.request)
    (c.responseSize channel.flavor) with ⟨⟨e | _, written⟩, u⟩
  · -- The transport fails.
    refine ⟨_, ?_, disciplined_sent hc (p := p) hplaced (c.responseSize channel.flavor) u⟩
    simp only [Recorder.sendAndReceive_eq, hx, Recorder.resetDataBuffers_eq, Recorder.note, hcalls,
      Conversation.calls, Option.toList_none, Option.toList_some, List.map_nil, List.map_cons,
      List.append_nil, SentRequest.call]
  cases hv : channel.verdict code
    (Bytes.overlay (Bytes.blank (c.responseSize channel.flavor)) written) with
  -- The answer is refused: nothing is read back.
  | error e =>
    refine ⟨_, ?_, disciplined_sent hc (p := p) hplaced (c.responseSize channel.flavor) u⟩
    simp only [Recorder.sendAndReceive_eq, hx, hv, Recorder.resetDataBuffers_eq, Recorder.note,
      hcalls, Conversation.calls, Option.toList_none, Option.toList_some, List.map_nil,
      List.map_cons, List.append_nil, SentRequest.call]
  | ok _ =>
    simp only [Recorder.sendAndReceive_eq, hx, hv, settle_recorder, Recorder.note,
      Recorder.resetDataBuffers_eq]
    rw [hcalls]
    -- The answer is accepted. Only here may one buffer be read back.
    generalize (channel.settle code p.output (Bytes.overlay
      (Bytes.blank (c.responseSize channel.flavor)) written) arguments u).2 = last
    unfold readBacks
    split
    · rename_i address out haddress hout
      exact ⟨_, rfl, disciplined_readBack hc hplaced hp hx hv haddress hout last⟩
    · refine ⟨_, ?_, disciplined_sent hc (p := p) hplaced (c.responseSize channel.flavor) last⟩
      rfl

end Channel

end SecureEngine
