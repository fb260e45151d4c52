import SecureEngine.Proofs.Effects
import SecureEngine.Session.She

/-! # Runs of a session

* One equation for the run of each step of a session: `run_acquire`, `run_openService`,
  `run_closeHandle`, `run_closeService`, `run_close`.
* **`Session.Instruction`** — everything a client can ask of a session, with its effect.
* **`Session.Run`** — a session goes from one state to another by instructions, while its transport
  may change in between. -/

namespace SecureEngine.Session

variable {σ : Type} [Transport σ]

/-! ## (1) Steps -/

/-- The session after a round trip: `Session.process` is `Channel.process` on its transport, and only that
has changed. -/
theorem process_eq (c : Command) (handle : UInt32) (arguments : Arguments) (s : Session σ) :
    process c handle arguments s =
      (((s.channel.process c.code handle arguments).run s.transport).1,
        { s with transport := ((s.channel.process c.code handle arguments).run s.transport).2 }) :=
  rfl

omit [Transport σ] in
/-- `lift` hands on what a step without a session comes to. -/
@[simp] theorem run_lift_except {α : Type} (r : Except ClientError α) (s : Session σ) :
    (lift r).run s = (r, s) := rfl

omit [Transport σ] in
/-- `result` hands on a value that is there. -/
@[simp] theorem run_result_some {α : Type} (a : α) (s : Session σ) :
    (result (some a)).run s = (.ok a, s) := rfl

/-- `send` is `process` with the arguments as its result, or its error. -/
theorem run_send (c : Command) (handle : UInt32) (arguments : Arguments) (s : Session σ) :
    (send c handle arguments).run s =
      ((process c handle arguments s).1.1.map fun _ => (process c handle arguments s).1.2,
        (process c handle arguments s).2) := rfl

/-- A call on an open service is a message to it: `Session.call` is `process` with the address that its
handle resolves to. -/
theorem call_eq_process {s : Session σ} {handle : ServiceHandle} {kind : Service} {address : UInt32}
    (hservice : s.handles.resolveKind handle (.service kind) = .ok address) (c : Command)
    (arguments : Arguments) : call handle kind c arguments s = process c address arguments s := by
  unfold call
  rw [hservice]

section

variable {α : Type} {operation : Operation σ Unit} {value : Arguments → Option α} {s t : Session σ}
  {arguments : Arguments} {a : α}

omit [Transport σ] in
/-- What an operation yields is in the arguments of its success: `yielding` takes it from there. -/
theorem yielding_ok (h : operation s = ((.ok (), arguments), t)) (ha : value arguments = some a) :
    yielding operation value s = ((.ok a, arguments), t) := by
  unfold yielding
  rw [h]
  dsimp only
  rw [ha]
  rfl

omit [Transport σ] in
/-- `yielding` hands on the error of an operation, with its arguments. -/
theorem yielding_error (value : Arguments → Option α) {e : ClientError}
    (h : operation s = ((.error e, arguments), t)) :
    yielding operation value s = ((.error e, arguments), t) := by
  unfold yielding
  rw [h]
  rfl

omit [Transport σ] in
/-- **An operation yields a value** just if it succeeds and leaves the value in its arguments. -/
theorem yielding_eq_ok_iff : (yielding operation value s).1.1 = .ok a ↔
    ∃ completed, (operation s).1 = (.ok (), completed) ∧ value completed = some a := by
  rcases hrun : operation s with ⟨⟨e | _, after⟩, u⟩
  · rw [yielding_error value hrun]
    exact ⟨nofun, nofun⟩
  cases hvalue : value after with
  | some b =>
    rw [yielding_ok hrun hvalue]
    constructor
    · intro h
      cases h
      exact ⟨after, rfl, hvalue⟩
    · rintro ⟨completed, hcompleted, ha⟩
      cases hcompleted
      exact congrArg Except.ok (Option.some.inj (hvalue.symm.trans ha))
  | none =>
    -- Arguments of another kind hold no such value.
    unfold yielding
    rw [hrun]
    dsimp only
    rw [hvalue]
    refine ⟨nofun, ?_⟩
    rintro ⟨completed, hcompleted, ha⟩
    cases hcompleted
    cases hvalue.symm.trans ha

end

/-- **Opening what a handle is to stand for**: `Session.acquire` reserves a slot, asks the engine, and
activates the slot or gives it back. -/
theorem run_acquire (kind : HandleKind) (parent : Option ServiceHandle) (parentAddress : UInt32)
    (arguments : Arguments) (s : Session σ) :
    (acquire kind parent parentAddress arguments).run s =
      match s.handles.add kind parent with
      | .error e => (.error e, s)
      | .ok (pending, handles) =>
        match process kind.opening parentAddress arguments { s with handles } with
        | ((.ok (), arguments), t) =>
          (.ok (t.handles.activate pending (openedHandle arguments)).1,
            { t with handles := (t.handles.activate pending (openedHandle arguments)).2 })
        | ((.error e, _), t) => (.error e, { t with handles := t.handles.deletePending pending }) := by
  unfold acquire
  simp only [run_bind, run_get, run_lift_except, run_modify, run_lift]
  -- The slot is reserved first, and looked up again after the round trip.
  cases s.handles.add kind parent with
  | error e => rfl
  | ok reserved =>
    dsimp only [StateT.run]
    rcases process kind.opening parentAddress arguments { s with handles := reserved.2 } with
      ⟨⟨_ | _, _⟩, t⟩ <;> rfl

/-- The course of `openService`: the error of `parentOf`, or `acquire` on the parent it has found. -/
theorem run_openService (kind : Service) (s : Session σ) :
    (openService kind).run s = match s.parentOf kind with
      | .error e => (.error e, s)
      | .ok (parent, parentAddress) =>
        (acquire (.service kind) parent parentAddress (.openService { flags := 0 })).run s := by
  unfold openService
  simp only [run_bind, run_get, run_lift_except]
  cases s.parentOf kind <;> rfl

/-- **Closing what a handle stands for**: the handle is forgotten first, and the outcome is that of
the round trip. -/
theorem run_closeHandle (handle : ServiceHandle) (s : Session σ) :
    (closeHandle handle).run s = match s.handles.delete handle with
      | .error e => (.error e, s)
      | .ok (context, handles) =>
        let (outcome, t) :=
          process context.kind.closing context.engineHandle .close { s with handles }
        (outcome.1, t) := by
  unfold closeHandle
  simp only [run_bind, run_get, run_lift_except, run_modify, run_send]
  cases s.handles.delete handle with
  | error e => rfl
  | ok deleted =>
    obtain ⟨context, handles⟩ := deleted
    dsimp only
    rcases process context.kind.closing context.engineHandle .close { s with handles } with
      ⟨⟨_ | _, _⟩, t⟩ <;> rfl

/-- The course of `closeService`: the error of `resolveKind`, or `closeHandle`. -/
theorem run_closeService (handle : ServiceHandle) (kind : Service) (s : Session σ) :
    (closeService handle kind).run s = match s.handles.resolveKind handle (.service kind) with
      | .error e => (.error e, s)
      | .ok _ => (closeHandle handle).run s := by
  unfold closeService
  simp only [run_bind, run_lift_except, run_get]
  cases s.handles.resolveKind handle (.service kind) <;> rfl

/-- **Closing the session**: `Session.close` does nothing without an identifier, and else closes the
services from the newest on, and then the session. -/
theorem run_close (s : Session σ) :
    close.run s = if s.identifier = 0 then (.ok (), s) else
      let (services, t) := (closeAll s.handles.newestFirst).run s
      let (session, u) := process .closeSession s.identifier .close { t with keyStore := none }
      (firstFailure services session.1, { u with identifier := 0 }) := by
  unfold close
  by_cases h : s.identifier = 0
  · rw [if_pos h]
    show (if s.identifier = 0 then pure (Except.ok ()) else _ :
      StateM (Session σ) (Except ClientError Unit)).run s = _
    rw [if_pos h]
    rfl
  · rw [if_neg h]
    show (if s.identifier = 0 then pure (Except.ok ()) else _ :
      StateM (Session σ) (Except ClientError Unit)).run s = _
    rw [if_neg h]
    rfl

/-- The session that was opened, in the arguments of its opening; any other `Arguments` have none. -/
def openedSession? : Arguments → Option UInt32
  | .openSession a => some a.session
  | _ => none

/-- The window that was granted, in the arguments of asking for it, those of `Arguments.sharedBuffer`. -/
def grantedWindow? : Arguments → Option Wire.Window
  | .sharedBuffer window => some window
  | _ => none

/-- What opens the key store that a `Configuration` names. -/
def keyStoreOpening (configuration : Configuration) : Arguments :=
  .openKeyStore
    { identifier := configuration.keyStore.identifier
      password := configuration.keyStore.password
      flags := configuration.keyStore.flags }

/-- **What follows on an open session**: its window is fetched and set, and its key store opened. -/
def furnish (configuration : Configuration) (s : Session σ) : Except ClientError Unit × Session σ :=
  match process .sharedBuffer s.identifier (.sharedBuffer ⟨0, 0⟩) s with
  | ((.error e, _), t) => (.error e, t)
  | ((.ok (), a), t) =>
    match grantedWindow? a with
    | none => (.error (.validation .argumentsMismatch), t)
    | some window =>
      match Transport.configureWindow t.transport window.offset.toUInt32 window.size.toUInt32 with
      | (.error e, transport) => (.error (.transport e), { t with window, transport })
      | (.ok (), transport) =>
        match (acquire .keyStore none s.identifier (keyStoreOpening configuration)).run
          { t with window, transport } with
        | (.error e, u) => (.error e, u)
        | (.ok handle, u) => (.ok (), { u with keyStore := some handle })

/-- **Coming up**: the session is opened, and then furnished unless its identifier is null. -/
theorem run_establish (configuration : Configuration) (s : Session σ) :
    (establish configuration).run s =
      match process .openSession 0 (.openSession { request := configuration.session }) s with
      | ((.error e, _), t) => (.error e, t)
      | ((.ok (), a), t) =>
        match openedSession? a with
        | none => (.error (.validation .argumentsMismatch), t)
        | some identifier =>
          if identifier = 0 then (.error (.validation .nullSession), { t with identifier })
          else furnish configuration { t with identifier } := by
  unfold establish
  rw [run_bind, run_send]
  -- Each request of the start is split on its outcome; only the answer of the matching kind goes on.
  rcases process .openSession 0 (.openSession { request := configuration.session }) s with
    ⟨⟨_ | _, a⟩, t⟩
  · rfl
  cases a with
  | openSession a =>
    dsimp only [Except.map, openedSession?]
    rw [run_bind, run_result_some]
    dsimp only
    rw [run_bind, run_modify]
    dsimp only
    -- The null session is refused before anything else is asked for.
    split
    · rfl
    unfold furnish
    rw [run_bind, run_send]
    -- The window is asked for once the session has its identifier.
    rcases process .sharedBuffer a.session (.sharedBuffer ⟨0, 0⟩)
      { t with identifier := a.session } with ⟨⟨_ | _, arguments⟩, u⟩
    · rfl
    cases arguments with
    | sharedBuffer window =>
      dsimp only [Except.map, grantedWindow?]
      rw [run_bind, run_result_some]
      dsimp only
      rw [run_bind, run_modify]
      dsimp only
      rw [run_bind, run_get]
      dsimp only
      rw [run_bind, run_set]
      dsimp only
      rcases Transport.configureWindow u.transport window.offset.toUInt32 window.size.toUInt32 with
        ⟨_ | _, transport⟩
      · rfl
      rw [run_bind, run_lift_except]
      dsimp only [Except.mapError]
      -- Nothing is left to send after the key store.
      rw [run_bind, keyStoreOpening]
      rcases (acquire .keyStore none a.session _).run { u with window, transport } with
        ⟨_ | _, v⟩ <;> rfl
    | _ => rfl
  | _ => rfl

/-- **What each step of furnishing preserves, furnishing preserves.** The property has to survive what
`furnish` sends, the window, and what `acquire` does. -/
theorem furnish_preserves {p : Session σ → Prop} (configuration : Configuration) {s : Session σ}
    (hs : p s)
    (hgrant : ∀ t : Session σ, p t →
      p (process .sharedBuffer t.identifier (.sharedBuffer ⟨0, 0⟩) t).2)
    (hwindow : ∀ (t : Session σ) (window : Wire.Window), p t →
      p { t with
        window
        transport := (Transport.configureWindow t.transport window.offset.toUInt32
          window.size.toUInt32).2 })
    (hacquire : ∀ t : Session σ, p t →
      p ((acquire .keyStore none t.identifier (keyStoreOpening configuration)).run t).2)
    (hkeyStore : ∀ (t : Session σ) handle, p t → p { t with keyStore := some handle }) :
    p (furnish configuration s).2 := by
  -- The property is carried along the requests; wherever the start stops, it holds of the state left
  -- there.
  have hgranted := hgrant s hs
  unfold furnish
  rw [process_eq] at hgranted ⊢
  rcases hx : (s.channel.process Command.sharedBuffer.code s.identifier
    (.sharedBuffer ⟨0, 0⟩)).run s.transport with ⟨⟨_ | _, a⟩, t⟩
  all_goals rw [hx] at hgranted; dsimp only at hgranted ⊢
  · exact hgranted
  split
  · exact hgranted
  rename_i window _
  have hconfigured := hwindow _ window hgranted
  dsimp only at hconfigured
  rcases hc : Transport.configureWindow t window.offset.toUInt32 window.size.toUInt32 with
    ⟨_ | _, u⟩
  all_goals rw [hc] at hconfigured
  · exact hconfigured
  have hacquired := hacquire _ hconfigured
  dsimp only at hacquired ⊢
  rcases ha : (acquire .keyStore none s.identifier (keyStoreOpening configuration)).run
    { transport := u, channel := s.channel, identifier := s.identifier, keyStore := s.keyStore,
      window := window, handles := s.handles } with ⟨_ | handle, v⟩
  all_goals rw [ha] at hacquired
  · exact hacquired
  · exact hkeyStore v handle hacquired

/-- A session before it comes up: the channel of its `Configuration` and an empty table of handles, over
the given transport. -/
def initial (transport : σ) (configuration : Configuration) (table : DispatchTable)
    (tableId : UInt32) : Session σ where
  transport
  channel := { table, unit := configuration.unit, flavor := configuration.flavor }
  handles := { id := tableId, capacity := configuration.maxServices }

/-- **Starting a session**: it comes up by `establish`, or gives its transport back by `release`. -/
theorem startWith_eq (transport : σ) (configuration : Configuration) (table : DispatchTable)
    (tableId : UInt32) :
    startWith transport configuration table tableId =
      match (establish configuration).run (initial transport configuration table tableId) with
      | (.ok (), s) => .ok s
      | (.error e, s) => .error (e, s.release) := by
  unfold startWith initial
  dsimp only
  rcases (establish configuration).run _ with ⟨_ | _, s⟩ <;> rfl

/-- A session has started just if it has come up: `startWith` succeeds where `establish` does, with the
same session. -/
theorem startWith_eq_ok_iff {transport : σ} {configuration : Configuration} {table : DispatchTable}
    {tableId : UInt32} {s : Session σ} :
    startWith transport configuration table tableId = .ok s ↔
      (establish configuration).run (initial transport configuration table tableId) = (.ok (), s) := by
  -- A start that fails gives the transport back instead of a session.
  rw [startWith_eq]
  split
  · rename_i t hrun
    rw [hrun, Except.ok.injEq, Prod.mk.injEq]
    exact ⟨fun h => ⟨rfl, h⟩, And.right⟩
  · rename_i e t hrun
    rw [hrun]
    exact ⟨nofun, nofun⟩

/-! ## (2) Instructions -/

/-- **What a client can ask of a session**, with one case for each operation of `Session` that it can
call. -/
inductive Instruction
  | openService (kind : Service)
  | closeService (handle : ServiceHandle) (kind : Service)
  | generateKey (handle : ServiceHandle) (a : KeyGeneration)
  | generateKeyExt (handle : ServiceHandle) (a : KeyGeneration)
  | importKey (handle : ServiceHandle) (a : KeyImport)
  | deleteKey (handle : ServiceHandle) (a : KeyDeletion)
  | manageKey (handle : ServiceHandle) (a : KeyInstallation)
  | mac (handle : ServiceHandle) (a : MacOperation)
  | cipher (handle : ServiceHandle) (a : CipherOperation)
  | hash (handle : ServiceHandle) (a : HashOperation)
  | sign (handle : ServiceHandle) (a : SignOperation)
  | prepareSign (handle : ServiceHandle) (a : SignPreparation)
  | verify (handle : ServiceHandle) (a : VerifyOperation)
  | random (output : Bytes)
  | sheGenerateMac (a : SheMacGeneration)
  | sheVerifyMac (a : SheMacVerification)
  | sheInitRng
  | sheExtendSeed (entropy : Bytes)
  | sheRandom (output : Bytes)
  | sheStatus
  | sheIdentity (a : SheIdentification)
  | sheCipher (a : SheCipher)
  | close

/-- The outcome of a request without its values, so that the operations of `Session` have outcomes of one
type. -/
def outcomeOf {α : Type} (x : (Except ClientError α × Arguments) × Session σ) :
    Except ClientError Unit × Session σ :=
  (x.1.1.map fun _ => (), x.2)

/-- **Carries out an `Instruction`**: its outcome, without the values it yields, and the session
afterwards. -/
def Instruction.perform (s : Session σ) : Instruction → Except ClientError Unit × Session σ
  | openService kind => let (r, t) := (Session.openService kind).run s; (r.map fun _ => (), t)
  | closeService handle kind => (Session.closeService handle kind).run s
  | generateKey handle a => outcomeOf (Session.generateKey handle a s)
  | generateKeyExt handle a => outcomeOf (Session.generateKeyExt handle a s)
  | importKey handle a => outcomeOf (Session.importKey handle a s)
  | deleteKey handle a => outcomeOf (Session.deleteKey handle a s)
  | manageKey handle a => outcomeOf (Session.manageKey handle a s)
  | mac handle a => outcomeOf (Session.mac handle a s)
  | cipher handle a => outcomeOf (Session.cipher handle a s)
  | hash handle a => outcomeOf (Session.hash handle a s)
  | sign handle a => outcomeOf (Session.sign handle a s)
  | prepareSign handle a => outcomeOf (Session.prepareSign handle a s)
  | verify handle a => outcomeOf (Session.verify handle a s)
  | random output => outcomeOf (Session.random output s)
  | sheGenerateMac a => outcomeOf (Session.sheGenerateMac a s)
  | sheVerifyMac a => outcomeOf (Session.sheVerifyMac a s)
  | sheInitRng => outcomeOf (Session.sheInitRng s)
  | sheExtendSeed entropy => outcomeOf (Session.sheExtendSeed entropy s)
  | sheRandom output => outcomeOf (Session.sheRandom output s)
  | sheStatus => outcomeOf (Session.sheStatus s)
  | sheIdentity a => outcomeOf (Session.sheIdentity a s)
  | sheCipher a => outcomeOf (Session.sheCipher a s)
  | close => Session.close.run s

/-- **A run of a session**: instructions one after the other, while between them the transport may
change as `change` allows. -/
inductive Run (change : σ → σ → Prop) (s : Session σ) : Session σ → Prop
  | refl : Run change s s
  | perform {t : Session σ} (i : Instruction) (h : Run change s t) : Run change s (i.perform t).2
  | change {t : Session σ} {transport : σ} (hc : change t.transport transport)
      (h : Run change s t) : Run change s { t with transport }

variable {change : σ → σ → Prop} {s t u : Session σ}

/-- Runs can be put one after the other: two `Run`s in sequence make one. -/
theorem Run.trans (h : Run change s t) (h' : Run change t u) : Run change s u := by
  induction h' with
  | refl => exact h
  | perform i _ ih => exact .perform i ih
  | change hc _ ih => exact .change hc ih

/-- **What every `Instruction` and every change of the transport preserves, runs preserve.** -/
theorem Run.induction {p : Session σ → Prop} (h : Run change s t) (hs : p s)
    (hi : ∀ (i : Instruction) (t : Session σ), p t → p (i.perform t).2)
    (hc : ∀ (t : Session σ) transport, change t.transport transport → p t →
      p { t with transport }) : p t := by
  induction h with
  | refl => exact hs
  | perform i _ ih => exact hi i _ ih
  | change hchange _ ih => exact hc _ _ hchange ih

end SecureEngine.Session
