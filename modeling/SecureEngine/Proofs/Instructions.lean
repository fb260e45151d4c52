import SecureEngine.Emulator.Device
import SecureEngine.Proofs.Bookkeeping

/-! # Sessions do nothing but their moves

* **`Session.Requests`** — an operation is one request.
* **`Session.Sound.perform`** — every instruction is made of moves; **`Session.Sound.close_moves`** is
  the one that takes an induction.
* **`Session.sound_startWith`**, **`Session.Run.sound`** — a session that has started is sound, and stays
  so on every run. -/

namespace SecureEngine

namespace Session

variable {σ : Type} [Transport σ] {s t : Session σ} {o p k : Opening}

/-! ## (1) Instructions are made of moves -/

/-- **What an operation does is one request.** What it makes of the outcome hides no failure that the
engine reports, and adds none. -/
def Requests {α : Type} (s : Session σ) (x : (Except ClientError α × Arguments) × Session σ) : Prop :=
  ∃ r, Request s r x.2 ∧ ∀ e, x.1.1 = .error (.engine e) → r = .error (.engine e)

/-- A `Complaint` about the arguments is an operation without a request. -/
theorem requests_refuse {α : Type} (complaint : Complaint) (arguments : Arguments) :
    Requests s (refuse (α := α) complaint arguments s) :=
  ⟨.error (.validation complaint), .refused nofun, nofun⟩

/-- A message on behalf of a client is one request, and its outcome is that of the operation. -/
theorem requests_process {c : Command} {address : UInt32} (arguments : Arguments)
    (h : s.Serves c address) : Requests s (process c address arguments s) :=
  ⟨_, .sent arguments h, fun _ he => he⟩

/-- A message to a service is one request at most: without a handle that resolves, there is none. -/
theorem requests_call {kind : Service} {c : Command} (hc : c.worker? = some kind)
    (handle : ServiceHandle) (arguments : Arguments) :
    Requests s (call handle kind c arguments s) := by
  unfold call
  split
  · rename_i address hr
    obtain ⟨context, stamp, hopened, hkind, haddress⟩ := HandleTable.resolveKind_eq_ok_iff.mp hr
    exact requests_process arguments
      (Or.inl ⟨⟨handle, context, stamp⟩, kind, hopened, hkind, hc, haddress⟩)
  · rename_i e hr
    obtain rfl := HandleTable.resolveKind_error hr
    exact ⟨.error .unknownHandle, .refused nofun, nofun⟩

/-- A message to the session is one request at most: on a closed session, there is none. -/
theorem requests_ask {c : Command} (hc : c.isGlobal) (arguments : Arguments) :
    Requests s (ask c arguments s) := by
  -- A question for the engine needs an open session, and is answered by one request.
  unfold ask address
  split
  · rename_i engineHandle h
    split at h
    · cases h
    · rename_i hid
      cases h
      exact requests_process arguments (Or.inr ⟨hc, rfl, hid⟩)
  · rename_i e h
    split at h
    · cases h
      exact ⟨.error .unknownHandle, .refused nofun, nofun⟩
    · cases h

/-- Taking a value out of the arguments afterwards makes no request, so `yielding` makes those of its
operation. -/
theorem requests_yielding {α : Type} {operation : Operation σ Unit}
    (h : Requests s (operation s)) (value : Arguments → Option α) :
    Requests s (yielding operation value s) := by
  obtain ⟨r, hr, he⟩ := h
  refine ⟨r, hr, fun e hx => he e ?_⟩
  unfold yielding at hx
  rcases hop : operation s with ⟨⟨e' | _, a⟩, u⟩
  · rw [hop] at hx
    simpa [bind, Except.bind] using hx
  · rw [hop] at hx
    dsimp only [bind, Except.bind] at hx
    split at hx <;> cases hx

/-- A choice is one request at most, if both of its sides are: `Requests` passes through an `if`. -/
theorem requests_ite {α : Type} {condition : Prop} [Decidable condition]
    {operation other : Operation σ α} (h : Requests s (operation s)) (h' : Requests s (other s)) :
    Requests s ((if condition then operation else other) s) := by
  split
  · exact h
  · exact h'

omit [Transport σ] in
/-- The outcome of an operation without its values: `outcomeOf` keeps every error. -/
theorem outcomeOf_eq_error {α : Type} {x : (Except ClientError α × Arguments) × Session σ}
    {e : ClientError} (h : (outcomeOf x).1 = .error e) : x.1.1 = .error e := by
  unfold outcomeOf at h
  cases hx : x.1.1 with
  | ok a =>
    rw [hx] at h
    cases h
  | error e' =>
    rw [hx] at h
    exact congrArg Except.error (Except.error.inj h)

/-- A `CipherOperation` is one request at most: its buffers are compared first. -/
theorem requests_cipher (handle : ServiceHandle) (a : CipherOperation) :
    Requests s (cipher handle a s) :=
  requests_ite (requests_refuse _ _) (requests_yielding (requests_call rfl _ _) _)

/-- Asking for the identity with `sheIdentity` is one request at most; the status in its response is
judged at the client. -/
theorem requests_sheIdentity (a : SheIdentification) : Requests s (sheIdentity a s) := by
  unfold sheIdentity
  split
  rename_i outcome arguments t hx
  have hrequest : Requests s ((outcome, arguments), t) := by
    rw [← hx]
    exact requests_yielding (requests_ask rfl _) _
  obtain ⟨r, hr, he⟩ := hrequest
  cases outcome with
  | ok identity => exact ⟨r, hr, nofun⟩
  | error e => exact ⟨r, hr, he⟩

/-- Whether an `Instruction` is one request at most. -/
def Instruction.isRequest : Instruction → Bool
  | openService _ | closeService _ _ | sheCipher _ | close => false
  | _ => true

/-- **What an `Instruction` is, if it opens and closes nothing**: one request. -/
theorem Instruction.request {i : Instruction} (hi : i.isRequest) :
    ∃ r, Request s r (i.perform s).2 ∧
      ∀ e, (i.perform s).1 = .error (.engine e) → r = .error (.engine e) := by
  have houtcome {α : Type} {x : (Except ClientError α × Arguments) × Session σ}
      (h : Requests s x) : ∃ r, Request s r (outcomeOf x).2 ∧
        ∀ e, (outcomeOf x).1 = .error (.engine e) → r = .error (.engine e) := by
    obtain ⟨r, hr, he⟩ := h
    exact ⟨r, hr, fun e hx => he e (outcomeOf_eq_error hx)⟩
  cases i with
  | openService | closeService | sheCipher | close => cases hi
  | generateKey handle a | generateKeyExt handle a | importKey handle a | mac handle a
  | sign handle a | verify handle a =>
    exact houtcome (requests_ite (requests_refuse _ _)
      (requests_yielding (requests_call rfl _ _) _))
  | cipher handle a => exact houtcome (requests_cipher handle a)
  | hash handle a => exact houtcome (requests_ite (requests_refuse _ _) (requests_call rfl _ _))
  | deleteKey handle a | prepareSign handle a => exact houtcome (requests_call rfl _ _)
  | manageKey handle a => exact houtcome (requests_yielding (requests_call rfl _ _) _)
  | random output =>
    exact houtcome (requests_ite ⟨.ok (), .refused nofun, nofun⟩ (requests_ask rfl _))
  | sheVerifyMac a =>
    exact houtcome (requests_ite (requests_refuse _ _) (requests_yielding (requests_ask rfl _) _))
  | sheGenerateMac | sheInitRng | sheExtendSeed | sheRandom => exact houtcome (requests_ask rfl _)
  | sheStatus => exact houtcome (requests_yielding (requests_ask rfl _) _)
  | sheIdentity a => exact houtcome (requests_sheIdentity a)

/-- **The open services, listed by decreasing time of opening**: all that the session `Holds`, with the
newest at the front. -/
structure Lists (s : Session σ) (services : List Opening) : Prop where
  mem_iff : ∀ o, o ∈ services ↔ s.Holds o
  newestFirst : services.Pairwise fun o p => p.stamp < o.stamp

omit [Transport σ] in
/-- Handles of open services come with what is recorded for them: a list of handles is one of `Opening`s
that the session `Holds`. -/
theorem exists_openings {handles : List ServiceHandle}
    (hall : ∀ handle ∈ handles, ∃ o, s.Holds o ∧ o.handle = handle) :
    ∃ services : List Opening, handles = services.map (·.handle) ∧ ∀ o ∈ services, s.Holds o := by
  induction handles with
  | nil => exact ⟨[], rfl, nofun⟩
  | cons handle rest ih =>
    obtain ⟨services, hrest, hheld⟩ := ih fun a ha => hall a (List.mem_cons_of_mem _ ha)
    obtain ⟨o, ho, rfl⟩ := hall handle List.mem_cons_self
    exact ⟨o :: services, by rw [List.map_cons, ← hrest], List.forall_mem_cons.mpr ⟨ho, hheld⟩⟩

omit [Transport σ] in
/-- The handle table lists what is open: `newestFirst` are the handles of services in order. -/
theorem Sound.exists_lists (h : s.Sound) :
    ∃ services, s.Lists services ∧ s.handles.newestFirst = services.map (·.handle) := by
  obtain ⟨services, hmap, hheld⟩ := exists_openings fun handle hmem => by
    obtain ⟨context, stamp, ho⟩ := (HandleTable.mem_newestFirst h.wellFormed).mp hmem
    exact ⟨⟨handle, context, stamp⟩, ho, rfl⟩
  refine ⟨services, ⟨fun o => ⟨hheld o, fun ho => ?_⟩, ?_⟩, hmap⟩
  · -- The handle of what is open is in the list, and stands for nothing else.
    have hmem : o.handle ∈ services.map (·.handle) :=
      hmap ▸ (HandleTable.mem_newestFirst h.wellFormed).mpr ⟨_, _, ho⟩
    obtain ⟨p, hp, he⟩ := List.mem_map.mp hmem
    rwa [ho.eq_of_handle_eq (hheld p hp) he.symm]
  · have hsorted := HandleTable.pairwise_newestFirst h.wellFormed
    rw [hmap, List.pairwise_map] at hsorted
    exact hsorted.imp_of_mem fun hp ho hlt => hlt _ _ _ _ (hheld _ hp) (hheld _ ho)

omit [Transport σ] in
/-- Nothing hangs on the newest service, since what hangs on another one opened after it. -/
theorem Sound.parent_ne_newest (h : s.Sound) {rest : List Opening} (hl : s.Lists (o :: rest)) :
    ∀ p, s.Holds p → p.context.parent ≠ some o.handle := by
  intro p hp hparent
  have ho : s.Holds o := (hl.mem_iff o).mp List.mem_cons_self
  obtain ⟨k, hk, hks, hhandle, hpk⟩ := h.parent_eq hp hparent
  obtain rfl := hk.eq_of_handle_eq ho hhandle
  rcases List.mem_cons.mp ((hl.mem_iff p).mpr hp) with rfl | hmem
  · exact hpk hks
  · -- A parent is the key store, and the key store is the oldest.
    have hlt := (List.pairwise_cons.mp hl.newestFirst).1 p hmem
    exact absurd (h.oldest k p hk hks hp) (by omega)

/-- Closing the newest service leaves the others, listed as they were: after `Session.closeHandle` the
rest is what `Lists` gives. -/
theorem Lists.closeHandle (hwf : s.handles.WellFormed) {rest : List Opening}
    (hl : s.Lists (o :: rest)) : ((Session.closeHandle o.handle).run s).2.Lists rest := by
  have ho : s.Holds o := (hl.mem_iff o).mp List.mem_cons_self
  obtain ⟨handles, hrun, -, -, hopened⟩ := run_closeHandle_of_holds hwf ho
  -- The newest opening goes, and it is not listed twice.
  obtain ⟨hnewest, hrest⟩ := List.pairwise_cons.mp hl.newestFirst
  rw [hrun]
  refine ⟨fun p => Iff.trans ?_ (hopened p).symm, hrest⟩
  rw [← hl.mem_iff p, List.mem_cons]
  constructor
  · intro hp
    refine ⟨Or.inr hp, ?_⟩
    rintro rfl
    exact absurd (hnewest p hp) (Nat.lt_irrefl _)
  · rintro ⟨rfl | hp, hne⟩
    · exact absurd rfl hne
    · exact hp

/-- The first of two failures is one of them, and `firstFailure` makes up none. -/
theorem of_firstFailure_eq_error {a b : Except ClientError Unit} {e : ClientError}
    (h : firstFailure a b = .error e) : a = .error e ∨ b = .error e := by
  unfold firstFailure at h
  split at h
  · exact Or.inr h
  · exact Or.inl h

/-- **Closing all that is open** is made of `Moves`, one after the other, and nothing is open
afterwards. -/
theorem Sound.closeAll_moves (h : s.Sound) {services : List Opening} (hl : s.Lists services) :
    ∃ outcomes, Moves s outcomes ((closeAll (services.map (·.handle))).run s).2 ∧
      (∀ e, ((closeAll (services.map (·.handle))).run s).1 = .error e → .error e ∈ outcomes) ∧
      (∀ o, ¬((closeAll (services.map (·.handle))).run s).2.Holds o) ∧
      ((closeAll (services.map (·.handle))).run s).2.identifier = s.identifier := by
  induction services generalizing s with
  | nil =>
    exact ⟨[], .nil s, nofun, fun o ho => List.not_mem_nil ((hl.mem_iff o).mpr ho), rfl⟩
  | cons o rest ih =>
    have ho : s.Holds o := (hl.mem_iff o).mp List.mem_cons_self
    -- The first of the list is the newest, so nothing hangs on it.
    have hmove := Move.closeHandle ho (h.parent_ne_newest hl)
    obtain ⟨outcomes, hmoves, herror, hnone, hid⟩ :=
      ih (hmove.sound h) (hl.closeHandle h.wellFormed)
    refine ⟨_ :: outcomes, .cons hmove hmoves, fun e he => ?_, hnone, hid.trans ?_⟩
    · rcases of_firstFailure_eq_error he with he | he
      · exact List.mem_cons.mpr (Or.inl he.symm)
      · exact List.mem_cons_of_mem _ (herror e he)
    · obtain ⟨handles, hrun, -⟩ := run_closeHandle_of_holds h.wellFormed ho
      rw [hrun]

/-- Closing the session is made of `Moves`: one for each service, and one for the session itself. -/
theorem Sound.close_moves (h : s.Sound) : ∃ outcomes, Moves s outcomes (close.run s).2 ∧
    ∀ e, (close.run s).1 = .error e → .error e ∈ outcomes := by
  rw [run_close]
  by_cases hid : s.identifier = 0
  · rw [if_pos hid]
    exact ⟨[], .nil s, nofun⟩
  rw [if_neg hid]
  obtain ⟨services, hl, hmap⟩ := h.exists_lists
  -- The services are closed first, each by a move, and the session by the last one.
  obtain ⟨outcomes, hmoves, herror, hnone, hid'⟩ := h.closeAll_moves hl
  rw [hmap]
  have hlast := Move.closeSession (by rw [hid']; exact hid) hnone
  rw [hid'] at hlast
  refine ⟨_, hmoves.append (.single hlast), fun e he => ?_⟩
  rw [List.mem_append, List.mem_singleton]
  exact (of_firstFailure_eq_error he).imp (herror e) Eq.symm

omit [Transport σ] in
/-- Without something to open a service on, the handle of it is unknown, and `parentOf` has no other
error. -/
theorem parentOf_error {kind : Service} {e : ClientError} (h : s.parentOf kind = .error e) :
    e = .unknownHandle := by
  unfold parentOf at h
  split at h
  · unfold address at h
    split at h
    · cases h
      rfl
    · cases h
  · split at h
    · rename_i keyStore _
      cases hr : s.handles.resolveKind keyStore .keyStore with
      | error e' =>
        rw [hr] at h
        cases h
        exact HandleTable.resolveKind_error hr
      | ok address =>
        rw [hr] at h
        cases h
    · cases h
      rfl

/-- Opening a service with `openService` is a move at most. -/
theorem Sound.openService_moves (h : s.Sound) (kind : Service) :
    ∃ outcomes, Moves s outcomes ((Session.openService kind).run s).2 ∧
      ∀ e, ((Session.openService kind).run s).1 = .error (.engine e) →
        .error (.engine e) ∈ outcomes := by
  rw [run_openService]
  cases hp : s.parentOf kind with
  | error e =>
    obtain rfl := parentOf_error hp
    exact ⟨[], .nil s, nofun⟩
  | ok found =>
    obtain ⟨parent, address⟩ := found
    -- Opening a service is one move, whose outcome is what the call returns.
    have ha := acquired_acquire (.service kind) parent address (.openService { flags := 0 })
      h.wellFormed
    refine ⟨_, .single (.openService hp ha), fun e he => ?_⟩
    rw [List.mem_singleton, he]
    rfl

/-- Closing a service with `closeService` is a move at most. -/
theorem Sound.closeService_moves (h : s.Sound) (handle : ServiceHandle) (kind : Service) :
    ∃ outcomes, Moves s outcomes ((Session.closeService handle kind).run s).2 ∧
      ∀ e, ((Session.closeService handle kind).run s).1 = .error (.engine e) →
        .error (.engine e) ∈ outcomes := by
  rw [run_closeService]
  cases hr : s.handles.resolveKind handle (.service kind) with
  | error e =>
    obtain rfl := HandleTable.resolveKind_error hr
    exact ⟨[], .nil s, nofun⟩
  | ok address =>
    obtain ⟨context, stamp, hopened, hkind, -⟩ := HandleTable.resolveKind_eq_ok_iff.mp hr
    -- Services hang on the key store only, which is not closed this way.
    have hmove := Move.closeHandle (o := ⟨handle, context, stamp⟩) hopened fun p hp hparent => by
      obtain ⟨k, hk, hks, hhandle, -⟩ := h.parent_eq hp hparent
      obtain rfl := hk.eq_of_handle_eq (p := ⟨handle, context, stamp⟩) hopened hhandle
      rw [Opening.isKeyStore, hkind] at hks
      cases hks
    exact ⟨_, .single hmove, fun e he => List.mem_singleton.mpr he.symm⟩

/-- `sheCipher` is opening, encrypting and closing. -/
theorem Sound.sheCipher_moves (h : s.Sound) (a : SheCipher) :
    ∃ outcomes, Moves s outcomes (sheCipher a s).2 ∧
      ∀ e, (sheCipher a s).1.1 = .error (.engine e) →
        e = Reason.generalError.toError ∨ .error (.engine e) ∈ outcomes := by
  unfold sheCipher
  dsimp only
  split
  · exact ⟨[], .nil s, nofun⟩
  -- Open a service, use it, close it: the moves of the three are put one after the other.
  obtain ⟨opening, hopening, hopenError⟩ := h.openService_moves .cipher
  split
  · rename_i e t hopen
    rw [hopen] at hopening hopenError
    refine ⟨opening, hopening, fun e' he => Or.inr (hopenError e' ?_)⟩
    obtain rfl : e = .engine e' := Except.error.inj he
    rfl
  · rename_i handle t hopen
    rw [hopen] at hopening
    obtain ⟨r, hrequest, hrequestError⟩ := requests_cipher (s := t) handle a.operation
    rcases hcipher : cipher handle a.operation t with ⟨⟨outcome, arguments⟩, u⟩
    rw [hcipher] at hrequest hrequestError
    have hopened := hopening.append (.single (.request hrequest))
    obtain ⟨closing, hclosing, -⟩ := (hopened.sound h).closeService_moves handle .cipher
    dsimp only
    split
    · rename_i v hclose
      rw [hclose] at hclosing
      refine ⟨_, hopened.append hclosing, fun e he => Or.inr ?_⟩
      have hr : r = .error (.engine e) := hrequestError e <| by
        cases outcome with
        | ok _ => cases he
        | error e' => simpa [Except.map] using he
      simp [hr]
    · -- The closing failed, and its error is reported as a general one.
      rename_i e v hclose
      rw [hclose] at hclosing
      refine ⟨_, hopened.append hclosing, fun e' he => Or.inl ?_⟩
      simpa using he.symm

/-- **Every `Instruction` is made of `Moves`**, and the failures that an engine reported are failures of
those. -/
theorem Sound.perform (h : s.Sound) (i : Instruction) :
    ∃ outcomes, Moves s outcomes (i.perform s).2 ∧
      ∀ e, (i.perform s).1 = .error (.engine e) →
        e = Reason.generalError.toError ∨ .error (.engine e) ∈ outcomes := by
  -- All but four instructions are one request.
  by_cases hi : i.isRequest
  · obtain ⟨r, hr, he⟩ := Instruction.request (s := s) hi
    exact ⟨[r], .single (.request hr), fun e hx => Or.inr (List.mem_singleton.mpr (he e hx).symm)⟩
  cases i with
  | openService kind =>
    obtain ⟨outcomes, hmoves, herror⟩ := h.openService_moves kind
    refine ⟨outcomes, hmoves, fun e he => Or.inr (herror e ?_)⟩
    change Except.map _ ((Session.openService kind).run s).1 = _ at he
    cases hr : ((Session.openService kind).run s).1 with
    | ok handle =>
      rw [hr] at he
      cases he
    | error e' =>
      rw [hr] at he
      exact congrArg Except.error (Except.error.inj he)
  | closeService handle kind =>
    obtain ⟨outcomes, hmoves, herror⟩ := h.closeService_moves handle kind
    exact ⟨outcomes, hmoves, fun e he => Or.inr (herror e he)⟩
  | sheCipher a =>
    obtain ⟨outcomes, hmoves, herror⟩ := h.sheCipher_moves a
    exact ⟨outcomes, hmoves, fun e he => herror e (outcomeOf_eq_error he)⟩
  | close =>
    obtain ⟨outcomes, hmoves, herror⟩ := h.close_moves
    exact ⟨outcomes, hmoves, fun e he => Or.inr (herror _ he)⟩
  | _ => exact absurd rfl hi

/-! ## (2) Coming up -/

omit [Transport σ] in
/-- A session that has nothing open is `Sound`. -/
theorem Sound.of_nothing_open (hl : s.channel.table.Lawful) (hwf : s.handles.WellFormed)
    (hclose : s.identifier ≠ 0 →
      s.channel.table.get? Command.closeSession.code = some .closeSession)
    (hks : s.keyStore = none) (hnone : ∀ o, ¬s.Holds o) : s.Sound where
  lawful := hl
  wellFormed := hwf
  closable o ho := absurd ho (hnone o)
  session_closable := hclose
  keyStore_eq k hk := absurd hk (hnone k)
  oldest k _ hk := absurd hk (hnone k)
  hangsOn o ho := absurd ho (hnone o)
  idle _ := ⟨hks, hnone⟩

/-- **A session that has just come up**: only its key store is open, with the first stamp, and the
identifier is not null. -/
structure Fresh (s : Session σ) : Prop where
  identifier_ne_zero : s.identifier ≠ 0
  opened : s.handles.opened = 1
  keyStore : ∃ k : Opening, s.keyStore = some k.handle ∧ k.isKeyStore ∧ k.context.parent = none ∧
    ∀ o, s.Holds o ↔ o = k

/-- Opening the key store of an open session makes it the only thing open. -/
theorem Sound.openKeyStore (h : s.Sound) (hid : s.identifier ≠ 0) (hnone : ∀ o, ¬s.Holds o)
    (hn : s.handles.opened = 0) {address : UInt32} {arguments : Arguments} {handle : ServiceHandle}
    (ha : Acquired .keyStore none address arguments s (.ok handle) t) :
    Sound { t with keyStore := some handle } ∧ Fresh { t with keyStore := some handle } := by
  cases ha with
  | @opened new _ hx hcontext hstamp hwf hn' hopened =>
    have hget := get?_of_process_ok h.lawful hx
    -- The key store is the only thing that is open.
    have hiff (o : Opening) : _ ↔ o = new := (hopened o).trans (or_iff_left (hnone o))
    have hks : new.isKeyStore := by rw [Opening.isKeyStore, hcontext]
    refine ⟨⟨h.lawful, hwf, ?_, h.session_closable, ?_, ?_, ?_, fun hid' => absurd hid' hid⟩,
      ⟨hid, by rw [hn', hn], new, rfl, hks, by rw [hcontext], hiff⟩⟩
    · intro o ho
      obtain rfl := (hiff o).mp ho
      rw [hcontext]
      exact h.lawful.get?_code_of_family (DispatchTable.family_closing .keyStore).symm hget
    · intro k hk _
      rw [(hiff k).mp hk]
    · intro k o hk _ ho
      obtain rfl := (hiff k).mp hk
      obtain rfl := (hiff o).mp ho
      exact Nat.le_refl _
    · intro o ho
      obtain rfl := (hiff o).mp ho
      unfold HangsOn
      rw [hcontext]

/-- **Furnishing an open session** fails with nothing left open on it, or opens its key store. -/
theorem Sound.furnish {configuration : Configuration} {r : Except ClientError Unit} (h : s.Sound)
    (hid : s.identifier ≠ 0) (hks : s.keyStore = none) (hnone : ∀ o, ¬s.Holds o)
    (hn : s.handles.opened = 0) (hf : Session.furnish configuration s = (r, t)) :
    t.Sound ∧ (r = .ok () → t.Fresh) ∧ (r ≠ .ok () → ∀ o, ¬t.Holds o) := by
  unfold Session.furnish at hf
  simp only [process_eq] at hf
  rcases hx : (s.channel.process Command.sharedBuffer.code s.identifier
    (.sharedBuffer ⟨0, 0⟩)).run s.transport with ⟨⟨_ | _, a⟩, transport⟩
  all_goals rw [hx] at hf; dsimp only at hf
  · cases hf
    exact ⟨h.withTransport _, nofun, fun _ => hnone⟩
  split at hf
  · cases hf
    exact ⟨h.withTransport _, nofun, fun _ => hnone⟩
  rename_i window _
  -- Setting the window changes nothing that is open.
  have hu (transport : σ) : Sound { s with window, transport } :=
    .of_nothing_open h.lawful h.wellFormed h.session_closable hks hnone
  split at hf
  · cases hf
    exact ⟨hu _, nofun, fun _ => hnone⟩
  rename_i transport' _
  have ha := acquired_acquire (s := { s with window, transport := transport' }) .keyStore none
    s.identifier (keyStoreOpening configuration) h.wellFormed
  split at hf
  · rename_i e u hrun
    rw [hrun] at ha
    cases hf
    cases ha with
    | full => exact ⟨hu _, nofun, fun _ => hnone⟩
    | refused hx hwf hn' hopened =>
      exact ⟨(hu _).congr hwf hopened, nofun, fun _ o ho => hnone o ((hopened o).mp ho)⟩
  · rename_i handle u hrun
    rw [hrun] at ha
    cases hf
    obtain ⟨hsound, hfresh⟩ := (hu _).openKeyStore hid hnone hn ha
    exact ⟨hsound, fun _ => hfresh, fun hne => absurd rfl hne⟩

/-- **Coming up** either fails, with nothing open on the session, or leaves the key store open. -/
theorem Sound.establish {configuration : Configuration} {r : Except ClientError Unit} (h : s.Sound)
    (hid : s.identifier = 0) (hn : s.handles.opened = 0)
    (he : (Session.establish configuration).run s = (r, t)) :
    t.Sound ∧ (r = .ok () → t.Fresh) ∧ (r ≠ .ok () → ∀ o, ¬t.Holds o) := by
  obtain ⟨hks, hnone⟩ := h.idle hid
  rw [run_establish] at he
  simp only [process_eq] at he
  rcases hx : (s.channel.process Command.openSession.code 0
    (.openSession { request := configuration.session })).run s.transport with
    ⟨⟨_ | _, a⟩, transport⟩
  all_goals rw [hx] at he; dsimp only at he
  · -- The request for a session failed.
    cases he
    exact ⟨h.withTransport _, nofun, fun _ => hnone⟩
  have hget := get?_of_process_ok h.lawful (by rw [hx])
  have hclose : s.channel.table.get? Command.closeSession.code = some .closeSession :=
    h.lawful.get?_code_of_family (c := .openSession) rfl hget
  split at he
  · cases he
    exact ⟨h.withTransport _, nofun, fun _ => hnone⟩
  rename_i identifier _
  -- From here on there is a session to close, and nothing in the table yet.
  have ht : Sound { s with transport, identifier } :=
    .of_nothing_open h.lawful h.wellFormed (fun _ => hclose) hks hnone
  split at he
  · cases he
    exact ⟨ht, nofun, fun _ => hnone⟩
  · rename_i hne
    exact ht.furnish hne hks hnone hn he

omit [Transport σ] in
/-- A session is `Sound` before it comes up. -/
theorem sound_initial (transport : σ) (configuration : Configuration) {table : DispatchTable}
    (tableId : UInt32) (hl : table.Lawful) :
    (initial transport configuration table tableId).Sound :=
  .of_nothing_open hl (HandleTable.wellFormed_of_slots_eq_nil rfl) (fun h => absurd rfl h) rfl
    fun _ => HandleTable.not_opened_of_slots_eq_nil rfl _ _ _

/-- **A session that has started is `Sound` and `Fresh`.** -/
theorem sound_startWith {transport : σ} {configuration : Configuration} {table : DispatchTable}
    {tableId : UInt32} (hl : table.Lawful)
    (h : startWith transport configuration table tableId = .ok s) : s.Sound ∧ s.Fresh := by
  obtain ⟨hs, hfresh, -⟩ := (sound_initial _ _ _ hl).establish rfl rfl (startWith_eq_ok_iff.mp h)
  exact ⟨hs, hfresh rfl⟩

/-- With every family enabled, `startWith` succeeds over a new `Device`. -/
theorem exists_startWith : ∃ start : Session Device,
    startWith { machine := { engine := .start {} } } {} (.enabling [.full]) 1 = .ok start :=
  exists_eq_ok (by decide +kernel)

/-- Runs keep the session `Sound`. -/
theorem Run.sound {change : σ → σ → Prop} (h : Run change s t) (hs : s.Sound) : t.Sound := by
  refine h.induction hs (fun i t ht => ?_) fun t transport _ ht => ht.withTransport transport
  obtain ⟨outcomes, hmoves, -⟩ := ht.perform i
  exact hmoves.sound ht

end Session

end SecureEngine
