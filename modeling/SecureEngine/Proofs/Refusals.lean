import SecureEngine.Proofs.Recording
import SecureEngine.Proofs.Teardown

/-! # Requests that never reach the transport

* **`Session.Instruction.target?`** — the service that an instruction works with, by its handle.
* **`Session.Misdirects`** — the handle given does not stand for an open service of that kind.
* **`Session.TurnsAway`** — such an instruction does nothing, and neither does any on a closed session.
* **`Session.guarded_reachable`** — so it is in every state that a session reaches, and nothing is sent
  once the session is closed. -/

namespace SecureEngine

/-- Whether an error is found out by the client alone, before it uses its transport. -/
def ClientError.isLocal : ClientError → Bool
  | unknownHandle | validation _ => true
  | _ => false

namespace Session

/-! ## (1) Misdirected instructions -/

/-- **The service that an `Instruction` works with**: the handle given for it, and its kind. -/
def Instruction.target? : Instruction → Option (ServiceHandle × Service)
  | closeService handle kind => some (handle, kind)
  | generateKey handle _ | generateKeyExt handle _ | importKey handle _ | deleteKey handle _
  | manageKey handle _ => some (handle, .keyManagement)
  | mac handle _ => some (handle, .mac)
  | cipher handle _ => some (handle, .cipher)
  | hash handle _ => some (handle, .hash)
  | sign handle _ | prepareSign handle _ => some (handle, .signatureGeneration)
  | verify handle _ => some (handle, .signatureVerification)
  | _ => none

/-- Whether an `Instruction` has nothing to do on a closed session, and so succeeds there. -/
def Instruction.isIdle : Instruction → Bool
  | random output => output.isEmpty
  | close => true
  | _ => false

variable {σ : Type}

/-- **A handle does not stand for an open service of a kind**: it does not resolve, or to a context of
another `Service`. -/
def Misses (s : Session σ) (handle : ServiceHandle) (kind : Service) : Prop :=
  ∀ context, s.handles.resolve handle = .ok context → context.kind ≠ .service kind

/-- **An `Instruction` is misdirected**: what it is to work with is not open, or is of another kind. -/
def Misdirects (s : Session σ) (i : Instruction) : Prop :=
  ∃ handle kind, i.target? = some (handle, kind) ∧ s.Misses handle kind

variable {s : Session σ}

/-- `resolveKind` does not find a handle that misses its service: it is unknown, for whichever of the
reasons in `Misses`. -/
theorem Misses.resolveKind_eq {handle : ServiceHandle} {kind : Service} (h : s.Misses handle kind) :
    s.handles.resolveKind handle (.service kind) = .error .unknownHandle := by
  cases hr : s.handles.resolveKind handle (.service kind) with
  | error e => rw [HandleTable.resolveKind_error hr]
  | ok address =>
    obtain ⟨context, stamp, hopened, hkind, -⟩ := HandleTable.resolveKind_eq_ok_iff.mp hr
    exact absurd hkind (h context (HandleTable.resolve_eq_ok_iff.mpr ⟨stamp, hopened⟩))

/-- In a closed session there is nothing to direct an instruction to: every handle `Misses` every kind. -/
theorem Sound.misses (h : s.Sound) (hid : s.identifier = 0) (handle : ServiceHandle)
    (kind : Service) : s.Misses handle kind := by
  intro context hr
  obtain ⟨stamp, hopened⟩ := HandleTable.resolve_eq_ok_iff.mp hr
  exact absurd hopened ((h.idle hid).2 ⟨handle, context, stamp⟩)

/-- A closed session has no `address`: to its engine, the zero handle stands for nothing. -/
theorem address_eq_error (hid : s.identifier = 0) : s.address = .error .unknownHandle := if_pos hid

/-- In a closed session there is nothing to open a service on: `parentOf` finds no session and no key
store. -/
theorem Sound.parentOf_eq (h : s.Sound) (hid : s.identifier = 0) (kind : Service) :
    s.parentOf kind = .error .unknownHandle := by
  unfold parentOf
  rw [address_eq_error hid, (h.idle hid).1]
  cases kind.scope <;> rfl

/-! ## (2) They do nothing -/

/-- **An operation is declined**: the session is as it was, and the error is found out without the
transport. -/
def Declined {α : Type} (s : Session σ) (x : (Except ClientError α × Arguments) × Session σ) :
    Prop :=
  x.2 = s ∧ ∃ e : ClientError, e.isLocal ∧ x.1.1 = .error e

variable [Transport σ]

section

variable {α : Type}

omit [Transport σ] in
/-- A `Complaint` about the arguments is made before anything is sent. -/
theorem declined_refuse (complaint : Complaint) (arguments : Arguments) :
    s.Declined (refuse (α := α) complaint arguments s) :=
  ⟨rfl, _, rfl, rfl⟩

/-- A message for a service is declined if `Misses` says so of its handle. -/
theorem declined_call {handle : ServiceHandle} {kind : Service} (h : s.Misses handle kind)
    (c : Command) (arguments : Arguments) : s.Declined (call handle kind c arguments s) := by
  unfold call
  rw [h.resolveKind_eq]
  exact ⟨rfl, _, rfl, rfl⟩

/-- A message for the session itself is `Declined` once the session is closed. -/
theorem declined_ask (hid : s.identifier = 0) (c : Command) (arguments : Arguments) :
    s.Declined (ask c arguments s) := by
  unfold ask
  rw [address_eq_error hid]
  exact ⟨rfl, _, rfl, rfl⟩

omit [Transport σ] in
/-- Taking a value out of the arguments makes no difference to an operation that is `Declined`. -/
theorem declined_yielding {operation : Operation σ Unit} (h : s.Declined (operation s))
    (value : Arguments → Option α) : s.Declined (yielding operation value s) := by
  obtain ⟨hs, e, hlocal, he⟩ := h
  unfold yielding
  rcases hx : operation s with ⟨⟨r, a⟩, t⟩
  rw [hx] at hs he
  obtain rfl : t = s := hs
  obtain rfl : r = .error e := he
  exact ⟨rfl, e, hlocal, rfl⟩

omit [Transport σ] in
/-- A choice is `Declined` if both of its sides are. -/
theorem declined_ite {condition : Prop} [Decidable condition] {operation other : Operation σ α}
    (h : s.Declined (operation s)) (h' : s.Declined (other s)) :
    s.Declined ((if condition then operation else other) s) := by
  split
  · exact h
  · exact h'

/-- Asking for the identity is `Declined` once the session is closed. -/
theorem declined_sheIdentity (hid : s.identifier = 0) (a : SheIdentification) :
    s.Declined (sheIdentity a s) := by
  unfold sheIdentity
  split
  rename_i outcome arguments t hx
  have hdeclined : s.Declined ((outcome, arguments), t) := by
    rw [← hx]
    exact declined_yielding (declined_ask hid _ _) _
  obtain ⟨hs, e, hlocal, he⟩ := hdeclined
  obtain rfl : outcome = .error e := he
  exact ⟨hs, e, hlocal, rfl⟩

/-- A closed session opens nothing to encrypt with, so `sheCipher` is `Declined`. -/
theorem Sound.declined_sheCipher (h : s.Sound) (hid : s.identifier = 0) (a : SheCipher) :
    s.Declined (sheCipher a s) := by
  unfold sheCipher
  dsimp only
  split
  · exact declined_refuse _ _
  · rw [run_openService, h.parentOf_eq hid]
    exact ⟨rfl, _, rfl, rfl⟩

end

omit [Transport σ] in
/-- The outcome of a `Declined` operation. -/
theorem Declined.perform {α : Type} {x : (Except ClientError α × Arguments) × Session σ}
    (h : s.Declined x) : ∃ e : ClientError, e.isLocal ∧ outcomeOf x = (.error e, s) := by
  obtain ⟨hs, e, hlocal, he⟩ := h
  refine ⟨e, hlocal, ?_⟩
  unfold outcomeOf
  rw [hs, he]
  rfl

/-- **A misdirected instruction is declined**: `Instruction.perform` gives a local error and leaves the
session as it was. -/
theorem Misdirects.perform {i : Instruction} (h : s.Misdirects i) :
    ∃ e : ClientError, e.isLocal ∧ i.perform s = (.error e, s) := by
  obtain ⟨handle, kind, htarget, h⟩ := h
  cases i with
  | closeService =>
    cases htarget
    refine ⟨.unknownHandle, rfl, ?_⟩
    show (Session.closeService handle kind).run s = _
    rw [run_closeService, h.resolveKind_eq]
  | generateKey | generateKeyExt | importKey | mac | cipher | sign | verify =>
    cases htarget
    exact (declined_ite (declined_refuse _ _) (declined_yielding (declined_call h _ _) _)).perform
  | hash =>
    cases htarget
    exact (declined_ite (declined_refuse _ _) (declined_call h _ _)).perform
  | deleteKey | prepareSign =>
    cases htarget
    exact (declined_call h _ _).perform
  | manageKey =>
    cases htarget
    exact (declined_yielding (declined_call h _ _) _).perform
  | _ => cases htarget

/-- **On a closed session every `Instruction` is declined**, unless there is nothing to do. -/
theorem Sound.perform_closed (h : s.Sound) (hid : s.identifier = 0) (i : Instruction) :
    if i.isIdle then i.perform s = (.ok (), s)
    else ∃ e : ClientError, e.isLocal ∧ i.perform s = (.error e, s) := by
  have hmisdirects {i : Instruction} {handle : ServiceHandle} {kind : Service}
      (ht : i.target? = some (handle, kind)) : s.Misdirects i :=
    ⟨handle, kind, ht, h.misses hid handle kind⟩
  -- Without an identifier no handle resolves and no session is addressed. The shutdown and an empty
  -- request for random bytes are the idle ones.
  cases i with
  | openService kind =>
    refine ⟨.unknownHandle, rfl, ?_⟩
    have hrun : (Session.openService kind).run s = (.error .unknownHandle, s) := by
      rw [run_openService, h.parentOf_eq hid]
    exact congrArg (fun x => (x.1.map fun _ => (), x.2)) hrun
  | close => exact close_closed hid
  | random output =>
    show if output.isEmpty then outcomeOf (Session.random output s) = _
      else ∃ e : ClientError, e.isLocal ∧ outcomeOf (Session.random output s) = _
    unfold Session.random
    split
    · rfl
    · exact (declined_ask hid _ _).perform
  | sheCipher a => exact (h.declined_sheCipher hid a).perform
  | sheIdentity a => exact (declined_sheIdentity hid a).perform
  | sheVerifyMac a =>
    exact (declined_ite (declined_refuse _ _) (declined_yielding (declined_ask hid _ _) _)).perform
  | sheStatus => exact (declined_yielding (declined_ask hid _ _) _).perform
  | sheGenerateMac | sheInitRng | sheExtendSeed | sheRandom => exact (declined_ask hid _ _).perform
  | _ => exact (hmisdirects rfl).perform

/-- **An `Instruction` is turned away**: it changes nothing, makes no call on the transport, and fails
with an error of the client unless it has nothing to do. -/
structure TurnsAway (s : Session σ) (i : Instruction) : Prop where
  /-- The session is as it was, with its handle table and its transport. -/
  unchanged : (i.perform s).2 = s
  /-- The record of what it does stays empty. -/
  silent : i.perform s.recorded = ((i.perform s).1, s.recorded)
  outcome : if i.isIdle then (i.perform s).1 = .ok ()
    else ∃ e : ClientError, e.isLocal ∧ (i.perform s).1 = .error e

/-- What does nothing over a `Recorder` makes no calls, and so `TurnsAway` the instruction over any
transport. -/
theorem TurnsAway.of_recorded {i : Instruction}
    (h : if i.isIdle then i.perform s.recorded = (.ok (), s.recorded)
      else ∃ e : ClientError, e.isLocal ∧ i.perform s.recorded = (.error e, s.recorded)) :
    s.TurnsAway i := by
  -- What the recorded run gives, the plain one gives too.
  have hplain := plain_perform i s.recorded
  rw [plain_recorded] at hplain
  split at h
  · rename_i hidle
    rw [h] at hplain
    refine ⟨by rw [hplain]; rfl, by rw [h, hplain], ?_⟩
    rw [if_pos hidle, hplain]
  · rename_i hidle
    obtain ⟨e, hlocal, h⟩ := h
    rw [h] at hplain
    refine ⟨by rw [hplain]; rfl, by rw [h, hplain], ?_⟩
    rw [if_neg hidle, hplain]
    exact ⟨e, hlocal, rfl⟩

/-- A misdirected instruction is turned away, by a local error and before any call: `Misdirects` entails
`TurnsAway`. -/
theorem Misdirects.turnsAway {i : Instruction} (h : s.Misdirects i) : s.TurnsAway i := by
  have hidle : ¬i.isIdle := by
    obtain ⟨handle, kind, htarget, -⟩ := h
    cases i with
    | random | close => cases htarget
    | _ => exact Bool.false_ne_true
  have hrecorded : s.recorded.Misdirects i := h
  apply TurnsAway.of_recorded
  rw [if_neg hidle]
  exact hrecorded.perform

/-- A closed session turns everything away, the two idle instructions by doing nothing: `TurnsAway` has
both. -/
theorem Sound.turnsAway (h : s.Sound) (hid : s.identifier = 0) (i : Instruction) : s.TurnsAway i :=
  .of_recorded (h.recorded.perform_closed hid i)

/-! ## (3) Reachable states -/

variable {t : Session σ} {change : σ → σ → Prop}

/-- A closed session stays closed: at the end of a `Run` from it the identifier is still 0. -/
theorem Run.closed (h : Run change s t) (hs : s.Sound) (hid : s.identifier = 0) :
    t.Sound ∧ t.identifier = 0 := by
  refine h.induction (p := fun t => t.Sound ∧ t.identifier = 0) ⟨hs, hid⟩ (fun i t ht => ?_)
    fun t transport _ ht => ⟨ht.1.withTransport transport, ht.2⟩
  rw [(ht.1.turnsAway ht.2 i).unchanged]
  exact ht

/-- **What keeps a session off its transport**: an instruction that `Misdirects`, and a session that is
closed. -/
structure Guarded (change : σ → σ → Prop) (s : Session σ) : Prop where
  /-- Instructions for services that are not open, or of another kind, are turned away. -/
  misdirected : ∀ i, s.Misdirects i → s.TurnsAway i
  /-- A closed session turns everything away. -/
  closed : s.identifier = 0 → ∀ i, s.TurnsAway i
  /-- Once it is closed it stays so, and turns everything away from then on. -/
  closing : ∀ t, Run change (close.run s).2 t → t.identifier = 0 ∧ ∀ i, t.TurnsAway i
  /-- The record of closing is never added to. -/
  silence : ∀ t, Run (fun _ _ => False) (close.run s.recorded).2 t → t = (close.run s.recorded).2

/-- **Nothing is sent on behalf of a service that is not open, or by a session that is closed**, in every
state that a session reaches over any transport. -/
theorem guarded_reachable {transport : σ} {configuration : Configuration} {sets : List FamilySet}
    {tableId : UInt32} {start s : Session σ}
    (hstart : startWith transport configuration (.enabling sets) tableId = .ok start)
    (hrun : Run (fun _ _ => True) start s) : s.Guarded (fun _ _ => True) := by
  obtain ⟨hsound, -⟩ := sound_startWith (DispatchTable.lawful_enabling sets) hstart
  have hs := hrun.sound hsound
  have hclose {τ : Type} [Transport τ] {u : Session τ} (hu : u.Sound) : (close.run u).2.Sound := by
    obtain ⟨outcomes, hmoves, -⟩ := hu.close_moves
    exact hmoves.sound hu
  refine ⟨fun i => Misdirects.turnsAway, hs.turnsAway, fun t ht => ?_, fun t ht => ?_⟩
  · obtain ⟨hts, hid⟩ := ht.closed (hclose hs) (identifier_close s)
    exact ⟨hid, hts.turnsAway hid⟩
  · -- Nothing changes a closed session, so it is the same after any run.
    refine ht.induction (p := fun t => t = (close.run s.recorded).2) rfl (fun i u hu => ?_)
      fun _ _ hchange => absurd hchange id
    rw [hu, ((hclose hs.recorded).turnsAway (identifier_close s.recorded) i).unchanged]

/-- A session on a new device is guarded after a hash service has been opened and closed. -/
theorem guarded_reachable_standard : ∃ start : Session Device,
    startWith { machine := { engine := .start {} } } {} (.enabling [.full]) 1 = .ok start ∧
      Guarded (fun _ _ => True) ((Instruction.closeService ⟨1, 1, 0⟩ .hash).perform
        ((Instruction.openService .hash).perform start).2).2 := by
  obtain ⟨start, hstart⟩ := exists_startWith
  exact ⟨start, hstart, guarded_reachable hstart (.perform _ (.perform _ .refl))⟩

end Session

end SecureEngine
