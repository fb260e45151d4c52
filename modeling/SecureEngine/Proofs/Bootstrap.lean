import SecureEngine.Proofs.Framing
import SecureEngine.Proofs.Recording
import SecureEngine.Proofs.Teardown

/-! # What a session sends when it starts

* **`Session.granted?`** — the session that the engine grants, if it does.
* **`Session.comingUp`** — the requests of a start, in order; **`Session.backingOut`** — what is sent
  after them if the start fails.
* **`Session.cameUp_establish`** — coming up sends its requests up to the first failure.
* **`Session.bootstrap`** — a start sends all its requests, or some of them and then gives back the
  session, if one was granted, and the transport. -/

namespace SecureEngine.Session

variable {σ : Type}

/-! ## (1) The requests -/

/-- The request that opens the session: `Command.openSession` with the session parameters of the
`Configuration`. -/
def openingFrame (channel : Channel) (configuration : Configuration) : Bytes :=
  channel.frame (c := .openSession) Command.openSession.code configuration.session

/-- The request for the window of secure memory, addressed to the session that the engine has granted. -/
def windowFrame (channel : Channel) (identifier : UInt32) : Bytes :=
  channel.frame (c := .sharedBuffer) Command.sharedBuffer.code identifier

/-- The request that opens the key store on the session, with the identifier, the password and the flags
of the `Configuration`. -/
def keyStoreFrame (channel : Channel) (configuration : Configuration) (identifier : UInt32) : Bytes :=
  channel.frame (c := .openKeyStore) Command.openKeyStore.code
    { session := identifier
      identifier := configuration.keyStore.identifier
      password := configuration.keyStore.password
      flags := configuration.keyStore.flags }

/-- **The requests of a start**, in order, given the session that the engine grants. -/
def comingUp (channel : Channel) (configuration : Configuration) (identifier : UInt32) : List Bytes :=
  [openingFrame channel configuration, windowFrame channel identifier,
    keyStoreFrame channel configuration identifier]

/-- **What is sent after a failed start**: the session is closed, if one was granted. -/
def backingOut (channel : Channel) (granted : Option UInt32) : List Bytes :=
  match granted with
  | some identifier =>
    if identifier ≠ 0 ∧ channel.table.get? Command.closeSession.code = some .closeSession then
      [channel.closingFrame .closeSession identifier]
    else []
  | none => []

variable [Transport σ]

/-- The session that was opened, if opening it succeeded: `openedSession?` reads it from the arguments
that come back. -/
def grantedBy? : Except ClientError Unit × Arguments → Option UInt32
  | (.ok (), a) => openedSession? a
  | (.error _, _) => none

/-- **The session that the engine grants** when it is asked to open one, from the outcome of
`Channel.process` on the request for it. -/
def granted? (configuration : Configuration) (s : Session σ) : Option UInt32 :=
  grantedBy? (process .openSession 0 (.openSession { request := configuration.session }) s).1

/-! ## (2) Coming up -/

variable {configuration : Configuration} {s : Session (Recorder σ)}

/-- Acquiring a handle with `acquire` sends the frame that opens it, if a slot can be reserved, and
nothing else. -/
theorem sends_acquire (hl : s.channel.table.Lawful) {kind : HandleKind} {address : UInt32}
    {arguments : Arguments} {request : kind.opening.Request s.channel.flavor}
    (hb : kind.opening.Bare s.channel.flavor address arguments request)
    (parent : Option ServiceHandle) :
    s.transport.Sends [s.channel.frame kind.opening.code request]
      ((acquire kind parent address arguments).run s).1
      ((acquire kind parent address arguments).run s).2.transport := by
  rw [run_acquire]
  cases s.handles.add kind parent with
  | error e => exact .unsent rfl
  | ok reserved =>
    have h := Channel.sends_process hl hb s.transport
    simp only [process_eq]
    rcases hx : (s.channel.process kind.opening.code address arguments).run s.transport with
      ⟨⟨_ | _, _⟩, t⟩
    · rw [hx] at h
      exact h.of_outcome nofun
    · rw [hx] at h
      exact h.of_outcome fun _ _ => ⟨(), rfl⟩

/-- **Furnishing an open session** asks for its window and then opens its key store. -/
theorem sends_furnish (hl : s.channel.table.Lawful) (configuration : Configuration) :
    s.transport.Sends [windowFrame s.channel s.identifier,
        keyStoreFrame s.channel configuration s.identifier]
      (furnish configuration s).1 (furnish configuration s).2.transport := by
  have hbare : Command.sharedBuffer.Bare s.channel.flavor s.identifier (.sharedBuffer ⟨0, 0⟩)
      s.identifier := fun _ _ => rfl
  have hwindow := Channel.sends_process hl hbare s.transport
  unfold furnish
  simp only [process_eq]
  rcases hx : (s.channel.process Command.sharedBuffer.code s.identifier
    (.sharedBuffer ⟨0, 0⟩)).run s.transport with ⟨⟨_ | _, a⟩, t⟩
  all_goals rw [hx] at hwindow
  · exact hwindow.fail _ _
  -- The window is granted. Setting it sends nothing, and the key store is asked for last.
  refine hwindow.andThen ?_
  dsimp only
  split
  · exact .unsent rfl
  rename_i window _
  rw [Recorder.configureWindow_eq]
  rcases Transport.configureWindow t.transport window.offset.toUInt32 window.size.toUInt32 with
    ⟨_ | _, transport⟩
  · exact .unsent (Recorder.requests_note rfl _)
  have hbare : (HandleKind.opening .keyStore).Bare s.channel.flavor s.identifier
      (keyStoreOpening configuration)
      { session := s.identifier
        identifier := configuration.keyStore.identifier
        password := configuration.keyStore.password
        flags := configuration.keyStore.flags } := fun _ _ => rfl
  -- The recorder's note on the window counts as no request, so the list stays as it is.
  have hkeyStore := sends_acquire (s := { s with
      window
      transport := t.note (.configure t.transport window.offset.toUInt32 window.size.toUInt32)
        transport }) hl hbare none
  dsimp only at hkeyStore ⊢
  rcases hrun : (acquire .keyStore none s.identifier (keyStoreOpening configuration)).run
    ({ s with
      window
      transport := t.note (.configure t.transport window.offset.toUInt32 window.size.toUInt32)
        transport } : Session (Recorder σ)) with ⟨_ | handle, u⟩
  all_goals
    rw [hrun] at hkeyStore
    have hkeyStore := hkeyStore.of_note rfl
  · exact hkeyStore.of_outcome nofun
  · exact hkeyStore.of_outcome fun _ _ => ⟨handle, rfl⟩

/-- Acquiring something touches transport and handles only: `Session.acquire` leaves the channel and the
identifier of a session. -/
theorem acquire_eq (kind : HandleKind) (parent : Option ServiceHandle) (address : UInt32)
    (arguments : Arguments) (s : Session σ) : ∃ transport handles,
      ((acquire kind parent address arguments).run s).2 = { s with transport, handles } := by
  rw [run_acquire]
  cases s.handles.add kind parent with
  | error e => exact ⟨s.transport, s.handles, rfl⟩
  | ok reserved =>
    simp only [process_eq]
    rcases (s.channel.process kind.opening.code address arguments).run s.transport with
      ⟨⟨_ | _, _⟩, t⟩
    · exact ⟨t, _, rfl⟩
    · exact ⟨t, _, rfl⟩

/-- Furnishing leaves alone what a session is known by: neither its identifier nor its channel is changed
by `furnish`. -/
theorem furnish_keeps (configuration : Configuration) (s : Session σ) :
    (furnish configuration s).2.identifier = s.identifier ∧
      (furnish configuration s).2.channel = s.channel := by
  refine furnish_preserves (p := fun t => t.identifier = s.identifier ∧ t.channel = s.channel)
    configuration ⟨rfl, rfl⟩ (fun _ ht => ht) (fun _ _ ht => ht) (fun t ht => ?_) fun _ _ ht => ht
  obtain ⟨transport, handles, heq⟩ :=
    acquire_eq .keyStore none t.identifier (keyStoreOpening configuration) t
  rw [heq]
  exact ht

/-- Furnishing a session with `furnish` leaves its transport at rest: no buffer is staged, and it is not
closed. -/
theorem furnish_rests {n : Nat} (h : s.transport.Rests n) (configuration : Configuration) :
    (furnish configuration s).2.transport.Rests n := by
  refine furnish_preserves (p := fun t : Session (Recorder σ) => t.transport.Rests n) configuration h
    (fun t ht => roundTripsKeep_rests n _ _ _ _ _ ht) (fun t window ht => ?_)
    (fun t ht => acquire_keeps (roundTripsKeep_rests n) _ _ _ _ ht) fun _ _ ht => ht
  rw [Recorder.configureWindow_eq]
  exact ht.note (by simp) rfl _

/-- What coming up leaves of a session: the requests of `comingUp` in order up to the first failure, and
the record that goes with them. -/
structure CameUp (configuration : Configuration) (s t : Session (Recorder σ))
    (outcome : Except ClientError Unit) : Prop where
  /-- Its requests are sent in order, up to the first failure. -/
  sends : s.transport.Sends (comingUp s.channel configuration ((s.granted? configuration).getD 0))
    outcome t.transport
  identifier_eq : t.identifier = (s.granted? configuration).getD 0
  granted : outcome = .ok () → (s.granted? configuration).isSome
  channel_eq : t.channel = s.channel
  rests : t.transport.Rests s.transport.closings

/-- **Coming up sends its requests in order**, for the session that the engine grants. -/
theorem cameUp_establish (hl : s.channel.table.Lawful) (hid : s.identifier = 0)
    (configuration : Configuration) :
    CameUp configuration s ((establish configuration).run s).2
      ((establish configuration).run s).1 := by
  have hbare : Command.openSession.Bare s.channel.flavor 0
      (.openSession { request := configuration.session }) configuration.session := fun _ _ => rfl
  have hopening := Channel.sends_process hl hbare s.transport
  have hrests : ((s.channel.process Command.openSession.code 0
      (.openSession { request := configuration.session })).run s.transport).2.Rests
        s.transport.closings :=
    ⟨Channel.closings_process _ _ _ _ _, Channel.cleared_process _ _ _ _ _⟩
  have hgranted : s.granted? configuration = grantedBy? ((s.channel.process Command.openSession.code
    0 (.openSession { request := configuration.session })).run s.transport).1 := rfl
  rw [run_establish]
  simp only [process_eq]
  -- Until the engine has granted an identifier there is nothing to close, and the start ends here.
  rcases hx : (s.channel.process Command.openSession.code 0
    (.openSession { request := configuration.session })).run s.transport with ⟨⟨_ | _, a⟩, t⟩
  all_goals rw [hx] at hopening hrests hgranted; dsimp only [grantedBy?] at hgranted ⊢
  · refine ⟨hopening.fail _ _, ?_, nofun, rfl, hrests⟩
    rw [hgranted]
    exact hid
  split
  · rename_i hnone
    refine ⟨hopening.andThen (.unsent rfl), ?_, nofun, rfl, hrests⟩
    rw [hgranted, hnone]
    exact hid
  rename_i identifier hsome
  rw [hsome] at hgranted
  split
  · refine ⟨hopening.andThen (.unsent rfl), ?_, nofun, rfl, hrests⟩
    rw [hgranted]
    rfl
  -- An identifier that is not null is the one that the rest goes by.
  have hrest := sends_furnish (s := { s with transport := t, identifier }) hl configuration
  obtain ⟨hidentifier, hchannel⟩ := furnish_keeps configuration { s with transport := t, identifier }
  have hkept := furnish_rests (s := { s with transport := t, identifier }) hrests configuration
  refine ⟨?_, ?_, fun _ => ?_, hchannel, hkept⟩
  · rw [hgranted]
    exact hopening.andThen hrest
  · rw [hgranted]
    exact hidentifier
  · rw [hgranted]
    rfl

/-! ## (3) A start -/

/-- **What a session leaves that is given up with nothing open**: it is closed if it was opened, and its
transport is closed. -/
theorem Sound.release_sends (h : s.Sound) (hnone : ∀ o, ¬s.Holds o) :
    s.release.requests = s.transport.requests ++
      (if s.identifier = 0 then [] else [s.channel.closingFrame .closeSession s.identifier]) := by
  have hrelease : s.release.requests = (close.run s).2.transport.requests :=
    Recorder.requests_note rfl _
  rw [hrelease]
  by_cases hid : s.identifier = 0
  · rw [if_pos hid, close_closed hid, List.append_nil]
  · -- With nothing open, closing sends the request for the session alone.
    rw [if_neg hid]
    obtain ⟨services, hl, hmap⟩ := h.exists_lists
    obtain rfl : services = [] :=
      List.eq_nil_iff_forall_not_mem.mpr fun o ho => hnone o ((hl.mem_iff o).mp ho)
    rcases hrun : close.run s with ⟨outcome, t⟩
    obtain ⟨exchanges, hsent, hframes, -⟩ := h.close_sent hid hl hmap hrun
    rw [Recorder.requests, hsent, List.map_append, hframes]
    rfl

variable {transport : σ} {table : DispatchTable} {tableId : UInt32}

/-- **A start that succeeds**, as `startWith` gives it: the session that the engine has granted, all
requests sent in order, the transport not closed and no buffer left registered. -/
structure Started (transport : σ) (configuration : Configuration) (table : DispatchTable)
    (tableId : UInt32) (s : Session (Recorder σ)) : Prop where
  /-- The record is one of what the start does. -/
  start_eq : startWith transport configuration table tableId = .ok s.plain
  /-- The session is the one that the engine has granted. -/
  granted : (initial transport configuration table tableId).granted? configuration =
    some s.identifier
  /-- Its requests are those of coming up. -/
  requests_eq : s.transport.requests =
    comingUp (initial transport configuration table tableId).channel configuration s.identifier
  closings_eq : s.transport.closings = 0
  cleared : s.transport.Cleared

/-- **A start that fails**, with the transport it gives back: some of the requests of coming up, then
those of `backingOut`, one closing of the transport and no buffer left registered. -/
structure BackedOut (transport : σ) (configuration : Configuration) (table : DispatchTable)
    (tableId : UInt32) (e : ClientError) (r : Recorder σ) : Prop where
  /-- The record is one of what the start does. -/
  start_eq : startWith transport configuration table tableId = .error (e, r.transport)
  /-- Some of the requests of coming up are sent, and then those of backing out. -/
  requests_eq : ∃ sent,
    sent <+: comingUp (initial transport configuration table tableId).channel configuration
      (((initial transport configuration table tableId).granted? configuration).getD 0) ∧
    r.requests = sent ++ backingOut (initial transport configuration table tableId).channel
      ((initial transport configuration table tableId).granted? configuration)
  /-- No key store is closed. -/
  keyStore_kept : ∀ frame ∈ r.requests, Engine.commandByte frame ≠ Command.closeKeyStore.code
  /-- The transport is closed once, at the end. -/
  closings_eq : r.closings = 1
  closed : ∃ before, r.calls.getLast? = some (.close before)
  cleared : r.Cleared

/-- The engine grants the same with a record: `granted?` does not look at what a `Recorder` adds to its
transport. -/
theorem granted?_plain (configuration : Configuration) (s : Session (Recorder σ)) :
    s.plain.granted? configuration = s.granted? configuration := by
  unfold granted?
  rw [plain_process]

/-- A granted session that is not null is given back: `backingOut` is then the one close request for it,
and is empty otherwise. -/
theorem backingOut_eq {channel : Channel} {granted : Option UInt32}
    (hget : granted.getD 0 ≠ 0 → channel.table.get? Command.closeSession.code = some .closeSession) :
    backingOut channel granted =
      if granted.getD 0 = 0 then [] else [channel.closingFrame .closeSession (granted.getD 0)] := by
  unfold backingOut
  cases granted with
  | none => rfl
  | some identifier =>
    by_cases hid : identifier = 0
    · simp [hid]
    · simp [hid, hget hid]

/-- Coming up closes no key store: no frame of `comingUp` has the code of `Command.closeKeyStore`. -/
theorem commandByte_comingUp_ne {channel : Channel} {identifier : UInt32} {frame : Bytes}
    (h : frame ∈ comingUp channel configuration identifier) :
    Engine.commandByte frame ≠ Command.closeKeyStore.code := by
  simp only [comingUp, List.mem_cons, List.not_mem_nil, or_false] at h
  rcases h with rfl | rfl | rfl
  · rw [openingFrame, Channel.commandByte_frame]
    decide
  · rw [windowFrame, Channel.commandByte_frame]
    decide
  · rw [keyStoreFrame, Channel.commandByte_frame]
    decide

/-- Backing out closes nothing but the session: every frame of `backingOut` has the code of
`Command.closeSession`. -/
theorem commandByte_backingOut {channel : Channel} {granted : Option UInt32} {frame : Bytes}
    (h : frame ∈ backingOut channel granted) :
    Engine.commandByte frame = Command.closeSession.code := by
  unfold backingOut at h
  split at h
  · split at h
    · rw [List.mem_singleton.mp h]
      exact Channel.getD_closingFrame _ _ _
    · exact absurd h List.not_mem_nil
  · exact absurd h List.not_mem_nil

/-- What starting leaves if it fails is given up: the transport that `startWith` returns is what
`Session.release` makes of the session so far. -/
theorem exists_of_startWith_eq_error {e : ClientError} {t : σ}
    (h : startWith transport configuration table tableId = .error (e, t)) :
    ∃ s, (establish configuration).run (initial transport configuration table tableId) = (.error e, s) ∧
      t = s.release := by
  rw [startWith_eq] at h
  split at h
  · cases h
  · rename_i e' s hrun
    cases h
    exact ⟨s, hrun, rfl⟩

/-- A session that comes up has `Started`, with every request on record. -/
theorem started_of_eq_ok (hl : table.Lawful)
    (h : startWith (⟨transport, []⟩ : Recorder σ) configuration table tableId = .ok s) :
    Started transport configuration table tableId s := by
  have hplain := startWith_eq_plain transport configuration table tableId
  rw [h] at hplain
  have hup := cameUp_establish
    (s := initial (⟨transport, []⟩ : Recorder σ) configuration table tableId) hl rfl configuration
  rw [startWith_eq_ok_iff.mp h] at hup
  obtain ⟨⟨sent, hrequests, -, hall⟩, hid, hgranted, -, hrests⟩ := hup
  -- A start that succeeded was granted an identifier, so all three frames were sent.
  obtain ⟨identifier, hsome⟩ := Option.isSome_iff_exists.mp (hgranted rfl)
  rw [hsome] at hid hall
  obtain rfl : s.identifier = identifier := hid
  refine ⟨hplain, (granted?_plain configuration _).trans hsome, ?_, hrests.closings_eq,
    hrests.cleared⟩
  rw [hrequests, hall () rfl]
  rfl

/-- A session that does not come up has `BackedOut`, with the requests that undo what was opened on
record. -/
theorem backedOut_of_eq_error (hl : table.Lawful) {e : ClientError} {r : Recorder σ}
    (h : startWith (⟨transport, []⟩ : Recorder σ) configuration table tableId = .error (e, r)) :
    BackedOut transport configuration table tableId e r := by
  have hplain := startWith_eq_plain transport configuration table tableId
  rw [h] at hplain
  obtain ⟨s, hrun, rfl⟩ := exists_of_startWith_eq_error h
  have hup := cameUp_establish
    (s := initial (⟨transport, []⟩ : Recorder σ) configuration table tableId) hl rfl configuration
  rw [hrun] at hup
  obtain ⟨⟨sent, hsent, hfront, -⟩, hid, -, hchannel, hrests⟩ := hup
  obtain ⟨hsound, -, hnone⟩ := (sound_initial _ _ _ hl).establish rfl rfl hrun
  have hgranted : (initial transport configuration table tableId).granted? configuration = _ :=
    granted?_plain configuration
      (initial (⟨transport, []⟩ : Recorder σ) configuration table tableId)
  -- What is sent after the failure is what backing out sends.
  have hrequests : s.release.requests = sent ++ backingOut
      (initial transport configuration table tableId).channel
      ((initial transport configuration table tableId).granted? configuration) := by
    rw [hsound.release_sends (hnone nofun), hgranted, backingOut_eq, ← hid, hsent, hchannel]
    · rfl
    · rw [← hid]
      intro hne
      have hget := hsound.session_closable hne
      rw [hchannel] at hget
      exact hget
  have hclose := close_keeps (roundTripsKeep_rests _) hrests
  refine ⟨hplain, ⟨sent, hgranted ▸ hfront, hrequests⟩, ?_, ?_, ?_, ?_⟩
  · intro frame hmem
    rw [hrequests] at hmem
    rcases List.mem_append.mp hmem with hmem | hmem
    · exact commandByte_comingUp_ne (hfront.subset hmem)
    · rw [commandByte_backingOut hmem]
      decide
  · rw [release, Recorder.close_eq, Recorder.closings_note, hclose.closings_eq]
    rfl
  · rw [release, Recorder.close_eq]
    exact ⟨_, List.getLast?_concat⟩
  · exact hclose.cleared.note (by simp) _

/-- **What a start sends**, over any transport and with any `Configuration`: all its requests, or some of
them and then what gives back the session, if one was granted; and the transport is given back closed,
with no buffer registered. -/
theorem bootstrap (transport : σ) (configuration : Configuration) (sets : List FamilySet)
    (tableId : UInt32) :
    match startWith (⟨transport, []⟩ : Recorder σ) configuration (.enabling sets) tableId with
    | .ok s => Started transport configuration (.enabling sets) tableId s
    | .error (e, r) => BackedOut transport configuration (.enabling sets) tableId e r := by
  have hl := DispatchTable.lawful_enabling sets
  split
  · rename_i s h
    exact started_of_eq_ok hl h
  · rename_i e r h
    exact backedOut_of_eq_error hl h

end SecureEngine.Session
