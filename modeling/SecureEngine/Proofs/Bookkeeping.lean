import SecureEngine.Proofs.Course
import SecureEngine.Proofs.DispatchTable
import SecureEngine.Proofs.HandleTable
import SecureEngine.Proofs.Runs

/-! # What a session has open

* **`Session.Opening`**, **`Session.Holds`** — the services that a session has open.
* **`Session.Sound`** — what a session knows about itself, over any transport: what is open can be
  closed, services are held together with the key store they work on, and the key store is the oldest.
* **`Session.Move`** — the steps that instructions are made of; each keeps the session sound. -/

namespace SecureEngine

namespace Session

variable {σ : Type}

/-! ## (1) Open services -/

/-- **An open service**: its handle, what is recorded for it, and the how-manieth to open it was. -/
structure Opening where
  handle : ServiceHandle
  context : ServiceContext
  stamp : Nat
deriving DecidableEq, Repr

/-- **A session has a service open**: its table of handles has the opening, with this context and this
stamp, in the slot that the handle names. -/
def Holds (s : Session σ) (o : Opening) : Prop :=
  s.handles.Opened o.handle o.context o.stamp

/-- Whether what is open is the key store, the one `Service` that others can be opened on. -/
def Opening.isKeyStore (o : Opening) : Prop := o.context.kind = .keyStore

/-- What a service was opened on: the key store whose handle its context names as parent, or the session
itself. -/
def HangsOn (s : Session σ) (o : Opening) : Prop :=
  match o.context.kind with
  | .keyStore => o.context.parent = none
  | .service kind =>
    match kind.scope with
    | .session => o.context.parent = none
    | .keyStore => ∃ k, s.Holds k ∧ k.isKeyStore ∧ o.context.parent = some k.handle

/-- **What a session knows about itself**: lawful commands, well-formed handles, a closing command for
whatever is open, and key stores under what `HangsOn` them. -/
structure Sound (s : Session σ) : Prop where
  lawful : s.channel.table.Lawful
  wellFormed : s.handles.WellFormed
  /-- What is open can be closed. -/
  closable : ∀ o, s.Holds o →
    s.channel.table.get? o.context.kind.closing.code = some o.context.kind.closing
  /-- An open session can be closed. -/
  session_closable : s.identifier ≠ 0 →
    s.channel.table.get? Command.closeSession.code = some .closeSession
  /-- The key store is the one the session opened. -/
  keyStore_eq : ∀ k, s.Holds k → k.isKeyStore → s.keyStore = some k.handle
  /-- Nothing is older than the key store. -/
  oldest : ∀ k o, s.Holds k → k.isKeyStore → s.Holds o → k.stamp ≤ o.stamp
  /-- What a service works on is open. -/
  hangsOn : ∀ o, s.Holds o → s.HangsOn o
  /-- A closed session has nothing open. -/
  idle : s.identifier = 0 → s.keyStore = none ∧ ∀ o, ¬s.Holds o

variable {s t : Session σ} {o p k : Opening}

/-- A handle stands for one opening, because `HandleTable.WellFormed` gives every index one slot. -/
theorem Holds.eq_of_handle_eq (h : s.Holds o) (h' : s.Holds p) (he : o.handle = p.handle) :
    o = p := by
  obtain ⟨handle, c, n⟩ := o
  obtain ⟨_, c', n'⟩ := p
  obtain rfl : handle = _ := he
  obtain ⟨rfl, rfl⟩ := HandleTable.Opened.unique h h'
  rfl

/-- Only the key store has services on it: the parent that a context of a `Sound` session names is an open
key store, and what hangs on it is none. -/
theorem Sound.parent_eq (h : s.Sound) (ho : s.Holds o) {handle : ServiceHandle}
    (hp : o.context.parent = some handle) :
    ∃ k, s.Holds k ∧ k.isKeyStore ∧ k.handle = handle ∧ ¬o.isKeyStore := by
  have hon := h.hangsOn o ho
  unfold HangsOn at hon
  split at hon
  · rw [hon] at hp
    cases hp
  · rename_i kind hkind
    split at hon
    · rw [hon] at hp
      cases hp
    · obtain ⟨k, hk, hks, hparent⟩ := hon
      refine ⟨k, hk, hks, Option.some.inj (hparent.symm.trans hp), fun hok => ?_⟩
      rw [Opening.isKeyStore, hkind] at hok
      cases hok

variable [Transport σ]

/-! ## (2) Opening and closing -/

/-- **How opening something can go**: there is no room; the round trip fails; or what opens is newer
than everything else. -/
inductive Acquired (kind : HandleKind) (parent : Option ServiceHandle) (address : UInt32)
    (arguments : Arguments) (s : Session σ) : Except ClientError ServiceHandle → Session σ → Prop
  | full : Acquired kind parent address arguments s (.error .outOfHandles) s
  | refused {e : ClientError} {handles : HandleTable}
      (hx : ((s.channel.process kind.opening.code address arguments).run s.transport).1.1 = .error e)
      (hwf : handles.WellFormed) (hn : handles.opened = s.handles.opened)
      (hopened : ∀ o : Opening, handles.Opened o.handle o.context o.stamp ↔ s.Holds o) :
      Acquired kind parent address arguments s (.error e)
        { s with
          transport := ((s.channel.process kind.opening.code address arguments).run s.transport).2
          handles }
  | opened {new : Opening} {handles : HandleTable}
      (hx : ((s.channel.process kind.opening.code address arguments).run s.transport).1.1 = .ok ())
      (hcontext : new.context = ⟨kind, openedHandle
        ((s.channel.process kind.opening.code address arguments).run s.transport).1.2, parent⟩)
      (hstamp : new.stamp = s.handles.opened + 1)
      (hwf : handles.WellFormed) (hn : handles.opened = s.handles.opened + 1)
      (hopened : ∀ o : Opening,
        handles.Opened o.handle o.context o.stamp ↔ o = new ∨ s.Holds o) :
      Acquired kind parent address arguments s (.ok new.handle)
        { s with
          transport := ((s.channel.process kind.opening.code address arguments).run s.transport).2
          handles }

/-- **Opening something goes in one of these ways.** The cases of `Acquired` are what `Session.acquire`
can come to, with the table of handles that each leaves. -/
theorem acquired_acquire (kind : HandleKind) (parent : Option ServiceHandle) (address : UInt32)
    (arguments : Arguments) (hwf : s.handles.WellFormed) :
    Acquired kind parent address arguments s ((acquire kind parent address arguments).run s).1
      ((acquire kind parent address arguments).run s).2 := by
  rw [run_acquire]
  cases hadd : s.handles.add kind parent with
  | error e =>
    obtain rfl := HandleTable.add_error hadd
    exact .full
  | ok reserved =>
    obtain ⟨pending, handles⟩ := reserved
    obtain ⟨hwf', hreserved, hn, hid, hopened⟩ := HandleTable.add_spec hwf hadd
    simp only [process_eq]
    rcases hx : (s.channel.process kind.opening.code address arguments).run s.transport with
      ⟨⟨e | _, a⟩, u⟩
    · -- The reserved slot is given back, so the same services are open as before.
      obtain ⟨hwf'', hn', -, hopened'⟩ := HandleTable.deletePending_spec hwf' hreserved
      have h : Acquired kind parent address arguments s (.error e) _ :=
        .refused (by rw [hx]) hwf'' (hn'.trans hn) fun o => (hopened' _ _ _).trans (hopened _ _ _)
      rw [hx] at h
      exact h
    · obtain ⟨-, hwf'', hn', -, hopened'⟩ :=
        HandleTable.activate_spec hwf' hreserved (openedHandle a)
      -- The reserved slot holds the new service.
      have hnew (o : Opening) :
          (handles.activate pending (openedHandle a)).2.Opened o.handle o.context o.stamp ↔
            o = ⟨pending.handle, ⟨kind, openedHandle a, parent⟩, s.handles.opened + 1⟩ ∨
              s.Holds o := by
        rw [hopened', hopened, hn]
        obtain ⟨_, _, _⟩ := o
        simp only [Opening.mk.injEq]
        rfl
      have h : Acquired kind parent address arguments s (.ok pending.handle) _ :=
        .opened (by rw [hx]) (by rw [hx]) rfl hwf'' (by rw [hn', hn]) hnew
      rw [hx] at h
      exact h

/-- `Acquired` leaves the handle table well formed, whatever came of the request. -/
theorem Acquired.wellFormed {kind : HandleKind} {parent : Option ServiceHandle} {address : UInt32}
    {arguments : Arguments} {r : Except ClientError ServiceHandle}
    (h : Acquired kind parent address arguments s r t) (hwf : s.handles.WellFormed) :
    t.handles.WellFormed := by
  cases h with
  | full => exact hwf
  | refused _ hwf | opened _ _ _ hwf => exact hwf

/-- `Acquired` leaves the channel of the session as it was. -/
theorem Acquired.channel_eq {kind : HandleKind} {parent : Option ServiceHandle} {address : UInt32}
    {arguments : Arguments} {r : Except ClientError ServiceHandle}
    (h : Acquired kind parent address arguments s r t) : t.channel = s.channel := by
  cases h <;> rfl

/-- `Acquired` leaves the identifier of the session as it was, so what is opened is opened on the same
session. -/
theorem Acquired.identifier_eq {kind : HandleKind} {parent : Option ServiceHandle} {address : UInt32}
    {arguments : Arguments} {r : Except ClientError ServiceHandle}
    (h : Acquired kind parent address arguments s r t) : t.identifier = s.identifier := by
  cases h <;> rfl

/-- **Closing something that is open**: one round trip, whatever comes of it, and it is forgotten. -/
theorem run_closeHandle_of_holds (hwf : s.handles.WellFormed) (ho : s.Holds o) :
    ∃ handles : HandleTable, (closeHandle o.handle).run s =
        (((s.channel.process o.context.kind.closing.code o.context.engineHandle .close).run
          s.transport).1.1,
        { s with
          transport := ((s.channel.process o.context.kind.closing.code o.context.engineHandle
            .close).run s.transport).2
          handles }) ∧
      handles.WellFormed ∧ handles.opened = s.handles.opened ∧
      ∀ p : Opening, handles.Opened p.handle p.context p.stamp ↔ s.Holds p ∧ p ≠ o := by
  rw [run_closeHandle]
  cases hdelete : s.handles.delete o.handle with
  | error e => exact absurd ho ((HandleTable.delete_error hdelete).2 _ _)
  | ok deleted =>
    obtain ⟨context, handles⟩ := deleted
    obtain ⟨⟨stamp, hopen⟩, hwf', hn, -, hopened⟩ := HandleTable.delete_spec hwf hdelete
    obtain ⟨rfl, -⟩ := hopen.unique ho
    refine ⟨handles, rfl, hwf', hn, fun p => (hopened _ _ _).trans ?_⟩
    exact and_congr_right fun hp =>
      not_congr ⟨Holds.eq_of_handle_eq (s := s) hp ho, fun he => by rw [he]⟩

/-! ## (3) Moves -/

/-- What a command is addressed to, when it is sent on behalf of a client: an open service of the
kind that it works with, or the session. -/
def Serves (s : Session σ) (c : Command) (address : UInt32) : Prop :=
  (∃ o kind, s.Holds o ∧ o.context.kind = .service kind ∧ c.worker? = some kind ∧
    o.context.engineHandle = address) ∨
  (c.isGlobal ∧ s.identifier = address ∧ address ≠ 0)

/-- **A request of a client**: it is refused before anything is sent, or it is one round trip. -/
inductive Request (s : Session σ) : Except ClientError Unit → Session σ → Prop
  | refused {r : Except ClientError Unit} (hr : ∀ e, r ≠ .error (.engine e)) : Request s r s
  | sent {c : Command} {address : UInt32} (arguments : Arguments) (h : s.Serves c address) :
      Request s ((s.channel.process c.code address arguments).run s.transport).1.1
        { s with
          transport := ((s.channel.process c.code address arguments).run s.transport).2 }

/-- **The steps that instructions are made of**, with their outcomes: a `Request`, the opening of a
service, the closing of one, or that of the session itself. -/
inductive Move (s : Session σ) : Except ClientError Unit → Session σ → Prop
  | request {r : Except ClientError Unit} {t : Session σ} (h : Request s r t) : Move s r t
  | openService {kind : Service} {parent : Option ServiceHandle} {address : UInt32}
      {r : Except ClientError ServiceHandle} {t : Session σ}
      (hp : s.parentOf kind = .ok (parent, address))
      (h : Acquired (.service kind) parent address (.openService { flags := 0 }) s r t) :
      Move s (r.map fun _ => ()) t
  /-- Nothing that is open hangs on what is closed. -/
  | closeHandle {o : Opening} (ho : s.Holds o)
      (hlast : ∀ p, s.Holds p → p.context.parent ≠ some o.handle) :
      Move s ((Session.closeHandle o.handle).run s).1 ((Session.closeHandle o.handle).run s).2
  /-- Everything else has been closed. -/
  | closeSession (hid : s.identifier ≠ 0) (hnone : ∀ o, ¬s.Holds o) :
      Move s ((s.channel.process Command.closeSession.code s.identifier .close).run
          s.transport).1.1
        { s with
          keyStore := none
          identifier := 0
          transport := ((s.channel.process Command.closeSession.code s.identifier .close).run
            s.transport).2 }

/-- **Some moves in sequence**, with their outcomes in order. An instruction is one list of `Move`s, which
may be empty. -/
inductive Moves : Session σ → List (Except ClientError Unit) → Session σ → Prop
  | nil (s : Session σ) : Moves s [] s
  | cons {s t u : Session σ} {r : Except ClientError Unit} {rest : List (Except ClientError Unit)}
      (h : Move s r t) (hrest : Moves t rest u) : Moves s (r :: rest) u

/-- A single move is a sequence of `Moves` with one outcome. -/
theorem Moves.single {s t : Session σ} {r : Except ClientError Unit} (h : Move s r t) :
    Moves s [r] t :=
  .cons h (.nil t)

/-- Two sequences of `Moves` are one, with the outcomes in a row. -/
theorem Moves.append {s t u : Session σ} {first second : List (Except ClientError Unit)}
    (h : Moves s first t) (h' : Moves t second u) : Moves s (first ++ second) u := by
  induction h with
  | nil => exact h'
  | cons hm _ ih => exact .cons hm (ih h')

/-! ## (4) Moves keep a session sound -/

omit [Transport σ] in
/-- What hangs on something keeps hanging on it while the key store stays open. -/
theorem HangsOn.mono {o : Opening} (h : s.HangsOn o)
    (hkeep : ∀ k, s.Holds k → k.isKeyStore → o.context.parent = some k.handle → t.Holds k) :
    t.HangsOn o := by
  unfold HangsOn at h ⊢
  split
  · rename_i hk
    rw [hk] at h
    exact h
  · -- Only a service in the scope of the key store hangs on another opening.
    rename_i kind hk
    rw [hk] at h
    dsimp only at h
    split
    · rename_i hscope
      rw [hscope] at h
      exact h
    · rename_i hscope
      rw [hscope] at h
      obtain ⟨k, hheld, hks, hparent⟩ := h
      exact ⟨k, hkeep k hheld hks hparent, hks, hparent⟩

omit [Transport σ] in
/-- The transport and the free slots do not matter to `Sound`: a table with the same openings may take the
place of the one there is. -/
theorem Sound.congr (h : s.Sound) {transport : σ} {handles : HandleTable}
    (hwf : handles.WellFormed)
    (hopened : ∀ o : Opening, handles.Opened o.handle o.context o.stamp ↔ s.Holds o) :
    Sound { s with transport, handles } where
  lawful := h.lawful
  wellFormed := hwf
  closable o ho := h.closable o ((hopened o).mp ho)
  session_closable := h.session_closable
  keyStore_eq k hk := h.keyStore_eq k ((hopened k).mp hk)
  oldest k o hk hks ho := h.oldest k o ((hopened k).mp hk) hks ((hopened o).mp ho)
  hangsOn o ho := (h.hangsOn o ((hopened o).mp ho)).mono fun k hk _ _ => (hopened k).mpr hk
  idle hid := ⟨(h.idle hid).1, fun o ho => (h.idle hid).2 o ((hopened o).mp ho)⟩

omit [Transport σ] in
/-- Whether a session is `Sound` does not depend on its transport. -/
theorem Sound.withTransport (h : s.Sound) (transport : σ) : Sound { s with transport } :=
  h.congr h.wellFormed fun _ => Iff.rfl

/-- A command that was answered is enabled: where `Channel.process` succeeds, `DispatchTable.get?` has
found the command. -/
theorem get?_of_process_ok (hl : s.channel.table.Lawful) {c : Command} {address : UInt32}
    {arguments : Arguments}
    (h : ((s.channel.process c.code address arguments).run s.transport).1.1 = .ok ()) :
    s.channel.table.get? c.code = some c := by
  -- Only a course that settles succeeds, and it has found a command.
  have hsome : ∃ d, s.channel.table.get? c.code = some d := by
    obtain ⟨result, calls, t, hcourse, hplain, -⟩ := Channel.course_process s.channel c.code address
      arguments ⟨s.transport, []⟩
    rw [hplain] at h
    cases hcourse with
    | settled _ hc _ _ _ _ => exact ⟨_, hc⟩
    | _ => cases h
  obtain ⟨d, hd⟩ := hsome
  rwa [hl.command_of_get? hd] at hd

omit [Transport σ] in
/-- Only an open session has something to open services on: what `Session.parentOf` gives is the session,
or the key store that it holds. -/
theorem Sound.of_parentOf (h : s.Sound) {kind : Service} {parent : Option ServiceHandle}
    {address : UInt32} (hp : s.parentOf kind = .ok (parent, address)) :
    s.identifier ≠ 0 ∧ (kind.scope = .session ∧ parent = none ∧ address = s.identifier ∨
      kind.scope = .keyStore ∧ ∃ k, s.Holds k ∧ k.isKeyStore ∧ parent = some k.handle ∧
        k.context.engineHandle = address) := by
  unfold parentOf at hp
  split at hp
  · rename_i hscope
    unfold Session.address at hp
    split at hp
    · cases hp
    · rename_i hid
      cases hp
      exact ⟨hid, Or.inl ⟨hscope, rfl, rfl⟩⟩
  · rename_i hscope
    split at hp
    · rename_i keyStore hks
      cases hr : s.handles.resolveKind keyStore .keyStore with
      | error e => rw [hr] at hp; cases hp
      | ok engineHandle =>
        rw [hr] at hp
        cases hp
        -- A session that holds a key store is not idle.
        obtain ⟨context, stamp, hopened, hkind, haddress⟩ :=
          HandleTable.resolveKind_eq_ok_iff.mp hr
        refine ⟨fun hid => ?_, Or.inr ⟨hscope, ⟨keyStore, context, stamp⟩, hopened, hkind, rfl,
          haddress⟩⟩
        rw [(h.idle hid).1] at hks
        cases hks
    · cases hp

/-- A new service keeps the session `Sound`. -/
theorem Sound.openService (h : s.Sound) {kind : Service} {parent : Option ServiceHandle}
    {address : UInt32} {r : Except ClientError ServiceHandle}
    (hp : s.parentOf kind = .ok (parent, address))
    (ha : Acquired (.service kind) parent address (.openService { flags := 0 }) s r t) :
    t.Sound := by
  obtain ⟨hid, hparent⟩ := h.of_parentOf hp
  -- Only a granted opening adds to what is open: the new opening is the newest, and it hangs on what
  -- `parentOf` found.
  cases ha with
  | full => exact h
  | refused _ hwf _ hopened => exact h.congr hwf hopened
  | @opened new _ hx hcontext hstamp hwf _ hopened =>
    have hget := get?_of_process_ok h.lawful hx
    have hold (k : Opening) (hk : s.Holds k) := (hopened k).mpr (Or.inr hk)
    -- Only coming up opens a key store.
    have hnew : ¬new.isKeyStore := fun hks => by
      rw [Opening.isKeyStore, hcontext] at hks
      cases hks
    refine ⟨h.lawful, hwf, ?_, h.session_closable, ?_, ?_, ?_, fun hid' => absurd hid' hid⟩
    · intro o ho
      rcases (hopened o).mp ho with rfl | ho
      · rw [hcontext]
        exact h.lawful.get?_code_of_family
          (DispatchTable.family_closing (.service kind)).symm hget
      · exact h.closable o ho
    · intro k hk hks
      rcases (hopened k).mp hk with rfl | hk
      · exact absurd hks hnew
      · exact h.keyStore_eq k hk hks
    · -- The key store stays the oldest, since the new opening has the latest stamp.
      intro k o hk hks ho
      rcases (hopened k).mp hk with rfl | hk
      · exact absurd hks hnew
      rcases (hopened o).mp ho with rfl | ho
      · rw [hstamp]
        exact Nat.le_succ_of_le (h.wellFormed.stamp_le _ _ _ hk)
      · exact h.oldest k o hk hks ho
    · intro o ho
      rcases (hopened o).mp ho with rfl | ho
      · unfold HangsOn
        rw [hcontext]
        dsimp only
        rcases hparent with ⟨hscope, hnone, -⟩ | ⟨hscope, k, hk, hks, hsome, -⟩
        · rw [hscope]
          exact hnone
        · rw [hscope]
          exact ⟨k, hold k hk, hks, hsome⟩
      · exact (h.hangsOn o ho).mono fun k hk _ _ => hold k hk

/-- A service less keeps the session `Sound`, if nothing hangs on it. -/
theorem Sound.closeHandle (h : s.Sound) (ho : s.Holds o)
    (hlast : ∀ p, s.Holds p → p.context.parent ≠ some o.handle) :
    ((Session.closeHandle o.handle).run s).2.Sound := by
  obtain ⟨handles, hrun, hwf, -, hopened⟩ := run_closeHandle_of_holds h.wellFormed ho
  rw [hrun]
  refine ⟨h.lawful, hwf, ?_, h.session_closable, ?_, ?_, ?_, ?_⟩
  · exact fun p hp => h.closable p ((hopened p).mp hp).1
  · exact fun k hk => h.keyStore_eq k ((hopened k).mp hk).1
  · exact fun k p hk hks hp => h.oldest k p ((hopened k).mp hk).1 hks ((hopened p).mp hp).1
  · -- What is left hangs on something else than what was closed.
    intro p hp
    have hheld := ((hopened p).mp hp).1
    refine (h.hangsOn p hheld).mono fun k hk _ hparent => (hopened k).mpr ⟨hk, ?_⟩
    rintro rfl
    exact hlast p hheld hparent
  · exact fun hid => ⟨(h.idle hid).1, fun p hp => (h.idle hid).2 p ((hopened p).mp hp).1⟩

/-- **Every `Move` keeps the session `Sound`.** -/
theorem Move.sound {r : Except ClientError Unit} (h : Move s r t) (hs : s.Sound) : t.Sound := by
  cases h with
  | request h =>
    cases h with
    | refused => exact hs
    | sent => exact hs.withTransport _
  | openService hp ha => exact hs.openService hp ha
  | closeHandle ho hlast => exact hs.closeHandle ho hlast
  -- The end of the session forgets the key store, which by then is not open any more.
  | closeSession _ hnone =>
    exact
      { hs with
        session_closable := fun hid => absurd rfl hid
        keyStore_eq := fun k hk => absurd hk (hnone k)
        hangsOn := fun o ho => absurd ho (hnone o)
        idle := fun _ => ⟨rfl, hnone⟩ }

/-- Any number of moves leaves a session sound, by `Move.sound` for each. -/
theorem Moves.sound {outcomes : List (Except ClientError Unit)} (h : Moves s outcomes t)
    (hs : s.Sound) : t.Sound := by
  induction h with
  | nil => exact hs
  | cons hm _ ih => exact ih (hm.sound hs)

/-- A closed session makes no moves that change anything: with the identifier 0 every `Move` of a `Sound`
session ends where it began. -/
theorem Move.eq_of_closed {r : Except ClientError Unit} (hm : Move s r t)
    (hs : s.Sound) (hid : s.identifier = 0) : t = s := by
  obtain ⟨-, hnone⟩ := hs.idle hid
  -- Each move needs something that a closed session does not have: an identifier or an opening.
  cases hm with
  | request hrequest =>
    cases hrequest with
    | refused => rfl
    | sent _ hserves =>
      rcases hserves with ⟨o, _, ho, -⟩ | ⟨-, haddress, hne⟩
      · exact absurd ho (hnone o)
      · exact absurd (haddress.symm.trans hid) hne
  | openService hp => exact absurd hid (hs.of_parentOf hp).1
  | closeHandle ho => exact absurd ho (hnone _)
  | closeSession hne => exact absurd hid hne

/-- A closed session does not move: there is nothing open to close, and nothing to open a service on. -/
theorem Moves.eq_of_closed {outcomes : List (Except ClientError Unit)}
    (hm : Moves s outcomes t) (hs : s.Sound) (hid : s.identifier = 0) : t = s := by
  induction hm with
  | nil => rfl
  | cons hmove _ ih =>
    obtain rfl := hmove.eq_of_closed hs hid
    exact ih hs hid

end Session

end SecureEngine
