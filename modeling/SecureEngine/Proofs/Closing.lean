import SecureEngine.Proofs.BareRequests
import SecureEngine.Proofs.Instructions

/-! # Close requests

* **`Channel.closingFrame`** — a close request as it is sent.
* **`Channel.outcome`** — what a client makes of an exchange.
* **`Channel.run_process_closing`** — closing anything is one exchange.
* **`Session.recorded`**, **`Session.plain`** — a session over a recorder, and back; closing goes the
  same way over both (`plain_close`).
* **`Session.Sound.closeAll_sent`** — what closing all that is open sends, and what comes of it. -/

namespace SecureEngine

variable {σ : Type} [Transport σ]

/-! ## (1) One close request -/

/-- Whether a command closes something: a session, a key store or one of the services. -/
def Command.closes : Command → Bool
  | closeSession | closeKeyStore | closeService _ => true
  | _ => false

/-- The command that closes a handle of a kind is one that closes, in the sense of `Command.closes`. -/
theorem HandleKind.closes_closing (kind : HandleKind) : kind.closing.closes := by
  cases kind <;> rfl

namespace Channel

/-- **A close request as it is sent**: a header and the handle of what is to be closed. -/
def closingFrame (channel : Channel) (c : Command) (handle : UInt32) : Bytes :=
  Wire.finish channel.unit.version channel.unit.commandTag c.code false
    (Bytes.blank Wire.headerSize ++ Bytes.ofWord handle)

/-- **What a client makes of an exchange**: a failure of the transport, or what the response says
about the command that the request names. -/
def outcome (channel : Channel) (x : SentRequest σ) : Except ClientError Unit :=
  match Transport.sendAndReceive x.before x.request x.size with
  | ((.ok (), written), _) =>
    channel.verdict (x.request.getD 2 0) (Bytes.overlay (Bytes.blank x.size) written)
  | ((.error e, _), _) => .error (.transport e)

/-- The exchange of a close request from a given state of the transport: that state, the
`Channel.closingFrame` sent in it, and the room for a status. -/
def closingExchange (channel : Channel) (c : Command) (handle : UInt32) (s : σ) : SentRequest σ :=
  ⟨s, channel.closingFrame c handle, Command.statusSize⟩

omit [Transport σ] in
/-- A close request names its command: the third byte of `Channel.closingFrame` is the code of the
command. -/
theorem getD_closingFrame (channel : Channel) (c : Command) (handle : UInt32) :
    (channel.closingFrame c handle).getD 2 0 = c.code := rfl

omit [Transport σ] in
/-- A close request is a handle: it is `Command.Bare`, and its frame is `Channel.closingFrame` of that
handle. -/
theorem exists_bare_closing (channel : Channel) {c : Command} (hc : c.closes) (handle : UInt32) :
    ∃ request : c.Request channel.flavor, c.Bare channel.flavor handle .close request ∧
      channel.frame c.code request = channel.closingFrame c handle := by
  cases c with
  | closeSession | closeKeyStore | closeService => exact ⟨handle, fun _ _ => rfl, rfl⟩
  | _ => cases hc

omit [Transport σ] in
/-- Nothing is completed from the response to a close request: `Channel.conclude` succeeds and hands the
arguments back. -/
theorem conclude_closing {channel : Channel} {c : Command} (hc : c.closes)
    (hget : channel.table.get? c.code = some c) (response : Bytes) :
    channel.conclude c.code response .close = (.ok (), .close) := by
  unfold conclude DispatchTable.complete
  rw [hget]
  cases c with
  | closeSession | closeKeyStore | closeService => rfl
  | _ => cases hc

/-- A response without content is as long as a status, so `Command.responseSize` of what closes something
is `Command.statusSize`. -/
theorem responseSize_closing {flavor : Flavor} {c : Command} (hc : c.closes) :
    c.responseSize flavor = Command.statusSize := by
  cases c with
  | closeSession | closeKeyStore | closeService => rfl
  | _ => cases hc

/-- **Closing is one exchange**, and its outcome is what the client makes of it. -/
theorem run_process_closing {channel : Channel} {c : Command} (hc : c.closes)
    (hget : channel.table.get? c.code = some c) (handle : UInt32) (s : σ) :
    (channel.process c.code handle .close).run s =
      ((channel.outcome (channel.closingExchange c handle s), .close),
        Transport.resetDataBuffers (Transport.sendAndReceive s (channel.closingFrame c handle)
          Command.statusSize).2) := by
  obtain ⟨request, hb, hframe⟩ := exists_bare_closing channel hc handle
  rw [run_process_bare hb hget, hframe, responseSize_closing hc]
  dsimp only [receive, outcome, closingExchange]
  rw [responseSize_closing hc, getD_closingFrame]
  rcases Transport.sendAndReceive s (channel.closingFrame c handle) Command.statusSize with
    ⟨⟨_ | _, written⟩, t⟩
  · rfl
  dsimp only
  -- Verdict and code are all that is read of the response.
  cases channel.verdict c.code (Bytes.overlay (Bytes.blank Command.statusSize) written) with
  | error e => rfl
  | ok _ => rw [conclude_closing hc hget]

/-- What a client makes of an exchange does not depend on a record: `Channel.outcome` is the same over the
transport inside the `Recorder`. -/
theorem outcome_recorder (channel : Channel) (c : Command) (handle : UInt32) (r : Recorder σ) :
    channel.outcome (channel.closingExchange c handle r) =
      channel.outcome (channel.closingExchange c handle r.transport) := by
  unfold outcome closingExchange
  dsimp only
  rw [Recorder.sendAndReceive_eq]
  rcases Transport.sendAndReceive r.transport (channel.closingFrame c handle) Command.statusSize with
    ⟨⟨_ | _, _⟩, _⟩ <;> rfl

/-- Closing over a `Recorder` sends one request. -/
theorem sent_process_closing {channel : Channel} {c : Command} (hc : c.closes)
    (hget : channel.table.get? c.code = some c) (handle : UInt32) (r : Recorder σ) :
    ((channel.process c.code handle .close).run r).2.sent =
      r.sent ++ [channel.closingExchange c handle r.transport] := by
  rw [run_process_closing hc hget]
  simp [Recorder.sent, Recorder.sendAndReceive_eq, Recorder.resetDataBuffers_eq, Recorder.note,
    TransportCall.sent?, closingExchange]

end Channel

namespace Session

/-! ## (2) Sessions with a record -/

section

omit [Transport σ]

/-- The session over a `Recorder` with nothing on record. -/
def recorded (s : Session σ) : Session (Recorder σ) where
  transport := ⟨s.transport, []⟩
  channel := s.channel
  identifier := s.identifier
  keyStore := s.keyStore
  window := s.window
  handles := s.handles

/-- The session without the record: the same channel, identifier and handles, over the transport inside
its `Recorder`. -/
def plain (s : Session (Recorder σ)) : Session σ where
  transport := s.transport.transport
  channel := s.channel
  identifier := s.identifier
  keyStore := s.keyStore
  window := s.window
  handles := s.handles

/-- A session without the record that `recorded` gives it is the session. -/
@[simp] theorem plain_recorded (s : Session σ) : s.recorded.plain = s := rfl

/-- A record changes nothing about what is open, so the recorded session is `Sound` as well. -/
theorem Sound.recorded {s : Session σ} (h : s.Sound) : s.recorded.Sound :=
  ⟨h.lawful, h.wellFormed, h.closable, h.session_closable, h.keyStore_eq, h.oldest,
    fun o ho => h.hangsOn o ho, h.idle⟩

end

/-- A message goes the same way with a record as without: `Recorder` passes every call on. -/
theorem plain_process (c : Command) (handle : UInt32) (arguments : Arguments)
    (s : Session (Recorder σ)) :
    process c handle arguments s.plain =
      ((process c handle arguments s).1, (process c handle arguments s).2.plain) := by
  obtain ⟨result, calls, t, -, hplain, hrecorded⟩ :=
    Channel.course_process s.channel c.code handle arguments s.transport
  have hp : (s.plain.channel.process c.code handle arguments).run s.plain.transport = (result, t) :=
    hplain
  rw [process_eq, process_eq, hp, hrecorded]
  rfl

/-- Closing a handle with `closeHandle` goes the same way with a record as without. -/
theorem plain_closeHandle (handle : ServiceHandle) (s : Session (Recorder σ)) :
    (closeHandle handle).run s.plain =
      (((closeHandle handle).run s).1, ((closeHandle handle).run s).2.plain) := by
  have hhandles : s.plain.handles = s.handles := rfl
  rw [run_closeHandle, run_closeHandle, hhandles]
  cases s.handles.delete handle with
  | error e => rfl
  | ok deleted =>
    obtain ⟨context, handles⟩ := deleted
    have h := plain_process context.kind.closing context.engineHandle .close
      ({ s with handles } : Session (Recorder σ))
    dsimp only
    exact congrArg (fun x => (x.1.1, x.2)) h

/-- Closing several handles is closing the first and then the rest, and `firstFailure` tells what came of
it. -/
theorem run_closeAll_cons (handle : ServiceHandle) (rest : List ServiceHandle) (s : Session σ) :
    (closeAll (handle :: rest)).run s =
      (firstFailure ((closeHandle handle).run s).1
          ((closeAll rest).run ((closeHandle handle).run s).2).1,
        ((closeAll rest).run ((closeHandle handle).run s).2).2) := rfl

/-- Closing several handles with `closeAll` goes the same way with a record as without, by induction on
them. -/
theorem plain_closeAll (handles : List ServiceHandle) (s : Session (Recorder σ)) :
    (closeAll handles).run s.plain =
      (((closeAll handles).run s).1, ((closeAll handles).run s).2.plain) := by
  induction handles generalizing s with
  | nil => rfl
  | cons handle rest ih =>
    rw [run_closeAll_cons, run_closeAll_cons, plain_closeHandle, ih]

/-- **Closing goes the same way with a record**: `Session.close` has the same outcome over the `Recorder`,
and leaves the same session inside it. -/
theorem plain_close (s : Session (Recorder σ)) :
    close.run s.plain = ((close.run s).1, (close.run s).2.plain) := by
  rw [run_close, run_close]
  by_cases hid : s.identifier = 0
  · rw [if_pos hid, if_pos (show s.plain.identifier = 0 from hid)]
  rw [if_neg hid, if_neg (show s.plain.identifier ≠ 0 from hid)]
  have hall := plain_closeAll s.handles.newestFirst s
  rw [show s.plain.handles.newestFirst = s.handles.newestFirst from rfl, hall]
  rcases (closeAll s.handles.newestFirst).run s with ⟨services, t⟩
  have h := plain_process .closeSession s.identifier .close
    ({ t with keyStore := none } : Session (Recorder σ))
  dsimp only
  exact congrArg (fun x => (firstFailure services x.1.1, { x.2 with identifier := 0 })) h

/-! ## (3) What closing sends -/

section

omit [Transport σ]

/-- The first failure among some outcomes, or success where there is none. This is what `Session.close`
reports. -/
def firstOf (outcomes : List (Except ClientError Unit)) : Except ClientError Unit :=
  outcomes.foldr firstFailure (.ok ())

/-- The first failure of some outcomes and of one more is the first of all of them. -/
theorem firstFailure_firstOf (outcomes : List (Except ClientError Unit))
    (last : Except ClientError Unit) :
    firstFailure (firstOf outcomes) last = firstOf (outcomes ++ [last]) := by
  induction outcomes with
  | nil => cases last <;> rfl
  | cons r rest ih =>
    cases r with
    | error e => rfl
    | ok _ => exact ih

/-- There is no failure just if all is well: `firstOf` succeeds iff each of the outcomes does. -/
theorem firstOf_eq_ok_iff {outcomes : List (Except ClientError Unit)} :
    firstOf outcomes = .ok () ↔ ∀ r ∈ outcomes, r = .ok () := by
  induction outcomes with
  | nil => exact ⟨fun _ => nofun, fun _ => rfl⟩
  | cons r rest ih =>
    rw [List.forall_mem_cons, ← ih]
    cases r with
    | error e => exact ⟨nofun, fun h => absurd h.1 nofun⟩
    | ok _ => exact ⟨fun h => ⟨rfl, h⟩, And.right⟩

/-- The first failure has only successes before it: the error that `firstOf` gives splits the list of
outcomes at its place. -/
theorem of_firstOf_eq_error {outcomes : List (Except ClientError Unit)} {e : ClientError}
    (h : firstOf outcomes = .error e) : ∃ before after, outcomes = before ++ .error e :: after ∧
      ∀ r ∈ before, r = .ok () := by
  -- By induction on the outcomes: the first one that is not a success is the one reported.
  induction outcomes with
  | nil => cases h
  | cons r rest ih =>
    cases r with
    | error e' =>
      cases h
      exact ⟨[], rest, rfl, nofun⟩
    | ok _ =>
      obtain ⟨before, after, rfl, hok⟩ := ih h
      exact ⟨.ok () :: before, after, rfl, List.forall_mem_cons.mpr ⟨rfl, hok⟩⟩

/-- The close request for an open service: `Channel.closingFrame` with the closing command of its kind and
the handle that the engine knows it by. -/
def closingFrame (s : Session σ) (o : Opening) : Bytes :=
  s.channel.closingFrame o.context.kind.closing o.context.engineHandle

end

/-- **Closing all that is open sends one close request for each service**, in the order of the list,
and fails as the first of them does. -/
theorem Sound.closeAll_sent {s : Session (Recorder σ)} (h : s.Sound) {services : List Opening}
    (hl : s.Lists services) {r : Except ClientError Unit} {t : Session (Recorder σ)}
    (hrun : (closeAll (services.map (·.handle))).run s = (r, t)) :
    ∃ exchanges : List (SentRequest σ), t.transport.sent = s.transport.sent ++ exchanges ∧
      exchanges.map (·.request) = services.map s.closingFrame ∧
      r = firstOf (exchanges.map s.channel.outcome) ∧ t.channel = s.channel := by
  induction services generalizing s r t with
  | nil =>
    cases hrun
    exact ⟨[], (List.append_nil _).symm, rfl, rfl, rfl⟩
  | cons o rest ih =>
    have ho : s.Holds o := (hl.mem_iff o).mp List.mem_cons_self
    have hclosable := h.closable o ho
    have hcloses := o.context.kind.closes_closing
    have hmove := Move.closeHandle ho (h.parent_ne_newest hl)
    obtain ⟨handles, hclose, -⟩ := run_closeHandle_of_holds h.wellFormed ho
    rcases hrest : (closeAll (rest.map (·.handle))).run ((Session.closeHandle o.handle).run s).2 with
      ⟨r', t'⟩
    rw [List.map_cons, run_closeAll_cons, hrest] at hrun
    cases hrun
    obtain ⟨exchanges, hsent, hframes, hr, hchannel⟩ :=
      ih (hmove.sound h) (hl.closeHandle h.wellFormed) hrest
    rw [hclose] at hsent hframes hr hchannel ⊢
    -- One request for the newest service, then those for the rest.
    have hfirst := Channel.sent_process_closing hcloses hclosable o.context.engineHandle s.transport
    have houtcome := Channel.run_process_closing hcloses hclosable o.context.engineHandle s.transport
    refine ⟨s.channel.closingExchange o.context.kind.closing o.context.engineHandle
      s.transport.transport :: exchanges, ?_, ?_, ?_, hchannel⟩
    · rw [hsent]
      dsimp only
      rw [hfirst, List.append_assoc]
      rfl
    · rw [List.map_cons, List.map_cons, hframes]
      rfl
    · rw [hr]
      dsimp only
      rw [houtcome, Channel.outcome_recorder]
      rfl

/-- The last request of closing is for the session itself: what `Session.close` sends ends with the
exchange for `Command.closeSession`. -/
theorem sent_close_append {s u : Session (Recorder σ)} (hid : s.identifier ≠ 0)
    {r : Except ClientError Unit} (hall : (closeAll s.handles.newestFirst).run s = (r, u))
    (hget : u.channel.table.get? Command.closeSession.code = some .closeSession) :
    (close.run s).2.transport.sent = u.transport.sent ++
      [u.channel.closingExchange .closeSession s.identifier u.transport.transport] := by
  rw [run_close, if_neg hid, hall]
  exact Channel.sent_process_closing rfl hget s.identifier u.transport

/-- **Closing an open session** sends the close requests of its services and then its own, and leaves
nothing open. -/
theorem Sound.close_sent {s t : Session (Recorder σ)} (h : s.Sound) (hid : s.identifier ≠ 0)
    {services : List Opening} (hl : s.Lists services)
    (hmap : s.handles.newestFirst = services.map (·.handle)) {r : Except ClientError Unit}
    (hrun : close.run s = (r, t)) :
    ∃ exchanges : List (SentRequest σ), t.transport.sent = s.transport.sent ++ exchanges ∧
      exchanges.map (·.request) = services.map s.closingFrame ++
        [s.channel.closingFrame .closeSession s.identifier] ∧
      r = firstOf (exchanges.map s.channel.outcome) ∧
      t.identifier = 0 ∧ t.keyStore = none ∧ ∀ o, ¬t.Holds o := by
  obtain ⟨outcomes, -, -, hnone, -⟩ := h.closeAll_moves hl
  rw [← hmap] at hnone
  rcases hall : (closeAll s.handles.newestFirst).run s with ⟨r', u⟩
  rw [hall] at hnone
  obtain ⟨exchanges, hsent, hframes, hr', hchannel⟩ := h.closeAll_sent hl (hmap ▸ hall)
  have hget := h.session_closable hid
  rw [← hchannel] at hget
  -- The requests for the services come first, then the one for the session.
  have hlast := sent_close_append hid hall hget
  have houtcome := Channel.run_process_closing rfl hget s.identifier u.transport
  rw [hrun] at hlast
  rw [run_close, if_neg hid, hall] at hrun
  dsimp only [process_eq] at hrun
  cases hrun
  refine ⟨exchanges ++ [s.channel.closingExchange .closeSession s.identifier u.transport.transport],
    ?_, ?_, ?_, rfl, rfl, hnone⟩
  · rw [hlast, hsent, hchannel, List.append_assoc]
  · rw [List.map_append, hframes]
    rfl
  · rw [houtcome, Channel.outcome_recorder, hr', hchannel, List.map_append, firstFailure_firstOf]
    rfl

end Session

end SecureEngine
