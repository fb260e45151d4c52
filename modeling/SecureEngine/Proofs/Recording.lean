import SecureEngine.Proofs.Closing

/-! # Sessions over a recorder

Whatever a session does, it does the same over a recorder, so that its calls can be read off the record.

* **`Session.Erases`** — an operation over a transport is one over a recorder without the record.
* **`Session.plain_perform`** — every instruction is; **`Session.startWith_eq_plain`** — so is the start
  of a session.
* **`Session.RoundTripsKeep`** — something about the transport outlasts every round trip; then it outlasts
  closing, too (`Session.close_keeps`). -/

namespace SecureEngine

variable {σ : Type} [Transport σ]

/-- A `Recorder` passes on the window it is given, and notes that it has. -/
theorem Recorder.configureWindow_eq (r : Recorder σ) (offset size : UInt32) :
    Transport.configureWindow r offset size =
      ((Transport.configureWindow r.transport offset size).1,
        r.note (.configure r.transport offset size)
          (Transport.configureWindow r.transport offset size).2) := rfl

/-- A `Recorder` closes the transport below it, and notes that it has. -/
theorem Recorder.close_eq (r : Recorder σ) :
    Transport.close r = r.note (.close r.transport) (Transport.close r.transport) := rfl

namespace Session

/-! ## (1) Services -/

/-- Acquiring a handle goes the same way with a record as without: `plain` takes the record away before or
after. -/
theorem plain_acquire (kind : HandleKind) (parent : Option ServiceHandle) (address : UInt32)
    (arguments : Arguments) (s : Session (Recorder σ)) :
    (acquire kind parent address arguments).run s.plain =
      (((acquire kind parent address arguments).run s).1,
        ((acquire kind parent address arguments).run s).2.plain) := by
  rw [run_acquire, run_acquire, show s.plain.handles = s.handles from rfl]
  cases s.handles.add kind parent with
  | error e => rfl
  | ok reserved =>
    obtain ⟨pending, handles⟩ := reserved
    have h := plain_process kind.opening address arguments ({ s with handles } : Session (Recorder σ))
    dsimp only at h ⊢
    rw [show ({ s.plain with handles } : Session σ) =
      ({ s with handles } : Session (Recorder σ)).plain from rfl, h]
    rcases process kind.opening address arguments { s with handles } with ⟨⟨_ | _, _⟩, t⟩ <;> rfl

/-- Opening a service with `openService` goes the same way with a record as without. -/
theorem plain_openService (kind : Service) (s : Session (Recorder σ)) :
    (openService kind).run s.plain =
      (((openService kind).run s).1, ((openService kind).run s).2.plain) := by
  rw [run_openService, run_openService, show s.plain.parentOf kind = s.parentOf kind from rfl]
  cases s.parentOf kind with
  | error e => rfl
  | ok found => exact plain_acquire _ _ _ _ s

/-- Closing a service with `closeService` goes the same way with a record as without. -/
theorem plain_closeService (handle : ServiceHandle) (kind : Service) (s : Session (Recorder σ)) :
    (closeService handle kind).run s.plain =
      (((closeService handle kind).run s).1, ((closeService handle kind).run s).2.plain) := by
  rw [run_closeService, run_closeService, show s.plain.handles = s.handles from rfl]
  cases s.handles.resolveKind handle (.service kind) with
  | error e => rfl
  | ok address => exact plain_closeHandle handle s

/-! ## (2) Operations -/

/-- **An operation over a transport does what another one does over a `Recorder`.** -/
def Erases {α : Type} (f : Operation (Recorder σ) α) (g : Operation σ α) : Prop :=
  ∀ s, g s.plain = ((f s).1, (f s).2.plain)

section

variable {α : Type} {f f' : Operation (Recorder σ) α} {g g' : Operation σ α}

omit [Transport σ] in
/-- What does nothing but answer needs no record, so `Erases` holds of it and itself. -/
theorem erases_of_eq {r : Except ClientError α × Arguments} (hf : ∀ s, f s = (r, s))
    (hg : ∀ s, g s = (r, s)) : Erases f g := by
  intro s
  rw [hf, hg]

omit [Transport σ] in
/-- A `Complaint` about the arguments is the same with a record. -/
theorem erases_refuse (complaint : Complaint) (arguments : Arguments) :
    Erases (σ := σ) (refuse (α := α) complaint arguments) (refuse complaint arguments) :=
  erases_of_eq (fun _ => rfl) fun _ => rfl

/-- A message to a service is the same with a record: `plain_process` after the handle has been
resolved. -/
theorem erases_call (handle : ServiceHandle) (kind : Service) (c : Command) (arguments : Arguments) :
    Erases (σ := σ) (call handle kind c arguments) (call handle kind c arguments) := by
  intro s
  unfold call
  rw [show s.plain.handles = s.handles from rfl]
  cases s.handles.resolveKind handle (.service kind) with
  | error e => rfl
  | ok address => exact plain_process c address arguments s

/-- A message to the session by `Session.ask` is the same with a record. -/
theorem erases_ask (c : Command) (arguments : Arguments) :
    Erases (σ := σ) (ask c arguments) (ask c arguments) := by
  intro s
  unfold ask
  rw [show s.plain.address = s.address from rfl]
  cases s.address with
  | error e => rfl
  | ok address => exact plain_process c address arguments s

omit [Transport σ] in
/-- Taking a value out of the arguments afterwards is the same with a record. -/
theorem erases_yielding {f : Operation (Recorder σ) Unit} {g : Operation σ Unit} (h : Erases f g)
    (value : Arguments → Option α) : Erases (yielding f value) (yielding g value) := by
  intro s
  unfold yielding
  rw [h s]
  rcases f s with ⟨⟨_, _⟩, _⟩
  rfl

omit [Transport σ] in
/-- A choice that does not look at the session is the same with a record, if both of its sides are. -/
theorem erases_ite {condition : Prop} [Decidable condition] (h : Erases f g) (h' : Erases f' g') :
    Erases (if condition then f else f') (if condition then g else g') := by
  split
  · exact h
  · exact h'

/-- A `CipherOperation` checks its buffers before it sends anything, with a record as without. -/
theorem erases_cipher (handle : ServiceHandle) (a : CipherOperation) :
    Erases (σ := σ) (cipher handle a) (cipher handle a) :=
  erases_ite (erases_refuse _ _) (erases_yielding (erases_call _ _ _ _) _)

/-- Asking for the identity with `sheIdentity` is the same with a record, whatever comes of the signature
in the response. -/
theorem erases_sheIdentity (a : SheIdentification) :
    Erases (σ := σ) (sheIdentity a) (sheIdentity a) := by
  intro s
  unfold sheIdentity
  rw [erases_yielding (erases_ask _ _) _ s]
  generalize yielding (ask .sheIdentity (.sheIdentity a)) _ s = x
  rcases x with ⟨⟨_ | _, _⟩, _⟩ <;> rfl

/-- A SHE cipher opens a service, uses it and closes it, and all of this is the same with a record. -/
theorem erases_sheCipher (a : SheCipher) : Erases (σ := σ) (sheCipher a) (sheCipher a) := by
  intro s
  unfold sheCipher
  dsimp only
  split
  · exact erases_refuse _ _ s
  rw [plain_openService]
  rcases (openService .cipher).run s with ⟨e | handle, t⟩
  · rfl
  -- The service is open; what is encrypted and how it is closed goes the same way.
  dsimp only
  rw [erases_cipher handle a.operation t]
  rcases cipher handle a.operation t with ⟨⟨outcome, arguments⟩, u⟩
  dsimp only
  rw [plain_closeService]
  rcases (closeService handle .cipher).run u with ⟨_ | _, v⟩ <;> rfl

end

/-- **Every instruction goes the same way with a record**: one case per `Instruction`. -/
theorem plain_perform (i : Instruction) (s : Session (Recorder σ)) :
    i.perform s.plain = ((i.perform s).1, (i.perform s).2.plain) := by
  have houtcome {α : Type} {f : Operation (Recorder σ) α} {g : Operation σ α} (h : Erases f g) :
      outcomeOf (g s.plain) = ((outcomeOf (f s)).1, (outcomeOf (f s)).2.plain) := by
    rw [h s]
    rfl
  -- The four instructions that change the table have lemmas of their own; every other one is a call or
  -- a question, with its checks in front.
  cases i with
  | openService kind =>
    exact congrArg (fun x => (x.1.map fun _ => (), x.2)) (plain_openService kind s)
  | closeService handle kind => exact plain_closeService handle kind s
  | sheCipher a => exact houtcome (erases_sheCipher a)
  | close => exact plain_close s
  | generateKey handle a | generateKeyExt handle a | importKey handle a | mac handle a
  | sign handle a | verify handle a =>
    exact houtcome (erases_ite (erases_refuse _ _) (erases_yielding (erases_call _ _ _ _) _))
  | cipher handle a => exact houtcome (erases_cipher handle a)
  | hash handle a => exact houtcome (erases_ite (erases_refuse _ _) (erases_call _ _ _ _))
  | deleteKey handle a | prepareSign handle a => exact houtcome (erases_call _ _ _ _)
  | manageKey handle a => exact houtcome (erases_yielding (erases_call _ _ _ _) _)
  | random output =>
    exact houtcome (erases_ite (erases_of_eq (fun _ => rfl) fun _ => rfl) (erases_ask _ _))
  | sheVerifyMac a =>
    exact houtcome (erases_ite (erases_refuse _ _) (erases_yielding (erases_ask _ _) _))
  | sheGenerateMac | sheInitRng | sheExtendSeed | sheRandom => exact houtcome (erases_ask _ _)
  | sheStatus => exact houtcome (erases_yielding (erases_ask _ _) _)
  | sheIdentity a => exact houtcome (erases_sheIdentity a)

/-! ## (3) Coming up -/

/-- Furnishing a session with `furnish` goes the same way with a record as without. -/
theorem plain_furnish (configuration : Configuration) (s : Session (Recorder σ)) :
    furnish configuration s.plain =
      ((furnish configuration s).1, (furnish configuration s).2.plain) := by
  unfold furnish
  rw [show s.plain.identifier = s.identifier from rfl, plain_process]
  rcases process .sharedBuffer s.identifier (.sharedBuffer ⟨0, 0⟩) s with ⟨⟨_ | _, a⟩, t⟩
  · rfl
  dsimp only
  cases grantedWindow? a with
  | none => rfl
  | some window =>
    dsimp only
    rw [show t.plain.transport = t.transport.transport from rfl, Recorder.configureWindow_eq]
    rcases Transport.configureWindow t.transport.transport window.offset.toUInt32
      window.size.toUInt32 with ⟨_ | _, transport⟩
    · rfl
    dsimp only
    -- The window is noted before the key store is asked for.
    have h : (acquire .keyStore none s.identifier (keyStoreOpening configuration)).run
        ({ t.plain with window, transport } : Session σ) = _ :=
      plain_acquire .keyStore none s.identifier (keyStoreOpening configuration)
        ({ t with
          window
          transport := t.transport.note (.configure t.transport.transport window.offset.toUInt32
            window.size.toUInt32) transport } : Session (Recorder σ))
    rw [h]
    rcases (acquire .keyStore none s.identifier (keyStoreOpening configuration)).run _ with
      ⟨_ | _, _⟩ <;> rfl

/-- Establishing a session with `establish` goes the same way with a record, through all its requests. -/
theorem plain_establish (configuration : Configuration) (s : Session (Recorder σ)) :
    (establish configuration).run s.plain =
      (((establish configuration).run s).1, ((establish configuration).run s).2.plain) := by
  rw [run_establish, run_establish, plain_process]
  rcases process .openSession 0 (.openSession { request := configuration.session }) s with
    ⟨⟨_ | _, a⟩, t⟩
  · rfl
  dsimp only
  cases openedSession? a with
  | none => rfl
  | some identifier =>
    dsimp only
    split
    · rfl
    · exact plain_furnish configuration { t with identifier }

/-- A session is given up the same way with a record, so the transport that is left behind is the same. -/
theorem release_plain (s : Session (Recorder σ)) : s.plain.release = s.release.transport := by
  unfold release
  rw [plain_close]
  rfl

/-- **A session starts the same way with a record**, and fails to with the same error over the same
transport. -/
theorem startWith_eq_plain (transport : σ) (configuration : Configuration) (table : DispatchTable)
    (tableId : UInt32) :
    startWith transport configuration table tableId =
      match startWith (⟨transport, []⟩ : Recorder σ) configuration table tableId with
      | .ok s => .ok s.plain
      | .error (e, r) => .error (e, r.transport) := by
  have h : (establish configuration).run (initial transport configuration table tableId) = _ :=
    plain_establish configuration
      (initial (⟨transport, []⟩ : Recorder σ) configuration table tableId)
  rw [startWith_eq, startWith_eq, h]
  rcases (establish configuration).run
    (initial (⟨transport, []⟩ : Recorder σ) configuration table tableId) with ⟨e | _, s⟩
  · exact congrArg (fun t => Except.error (e, t)) (release_plain s)
  · rfl

/-! ## (4) What every round trip keeps -/

/-- **What every round trip keeps** about its transport, for each `Channel`, message byte, handle and
arguments. -/
def RoundTripsKeep (p : σ → Prop) : Prop :=
  ∀ (channel : Channel) (code : UInt8) (handle : UInt32) (arguments : Arguments) (t : σ), p t →
    p ((channel.process code handle arguments).run t).2

/-- Every round trip keeps `Recorder.Rests`: it stages and drops buffers, and leaves the rest of the
transport alone. -/
theorem roundTripsKeep_rests (n : Nat) : RoundTripsKeep (Recorder.Rests (σ := σ) n) :=
  fun channel code handle arguments r h =>
    ⟨(Channel.closings_process channel code handle arguments r).trans h.closings_eq,
      Channel.cleared_process channel code handle arguments r⟩

variable {p : σ → Prop}

/-- What every round trip keeps, acquiring a handle with `acquire` keeps. -/
theorem acquire_keeps (hp : RoundTripsKeep p) (kind : HandleKind) (parent : Option ServiceHandle)
    (address : UInt32) (arguments : Arguments) {s : Session σ} (hs : p s.transport) :
    p ((acquire kind parent address arguments).run s).2.transport := by
  rw [run_acquire]
  cases s.handles.add kind parent with
  | error e => exact hs
  | ok reserved =>
    have h := hp s.channel kind.opening.code address arguments s.transport hs
    simp only [process_eq]
    rcases hx : (s.channel.process kind.opening.code address arguments).run s.transport with
      ⟨⟨_ | _, _⟩, t⟩
    all_goals
      rw [hx] at h
      exact h

/-- What every round trip keeps, closing a handle with `closeHandle` keeps. -/
theorem closeHandle_keeps (hp : RoundTripsKeep p) (handle : ServiceHandle) {s : Session σ}
    (hs : p s.transport) : p ((closeHandle handle).run s).2.transport := by
  rw [run_closeHandle]
  cases s.handles.delete handle with
  | error e => exact hs
  | ok deleted => exact hp _ _ _ _ _ hs

/-- What every round trip keeps, closing any number of handles with `closeAll` keeps. -/
theorem closeAll_keeps (hp : RoundTripsKeep p) (handles : List ServiceHandle) {s : Session σ}
    (hs : p s.transport) : p ((closeAll handles).run s).2.transport := by
  induction handles generalizing s with
  | nil => exact hs
  | cons handle rest ih => exact ih (closeHandle_keeps hp handle hs)

/-- **What every round trip keeps, `close` keeps**, by induction on the handles that are open. -/
theorem close_keeps (hp : RoundTripsKeep p) {s : Session σ} (hs : p s.transport) :
    p (close.run s).2.transport := by
  rw [run_close]
  by_cases hid : s.identifier = 0
  · rwa [if_pos hid]
  · rw [if_neg hid]
    exact hp _ _ _ _ _ (closeAll_keeps hp s.handles.newestFirst hs)

end Session

end SecureEngine
