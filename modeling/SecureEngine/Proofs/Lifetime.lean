import SecureEngine.Proofs.Agreement
import SecureEngine.Proofs.Reachability
import SecureEngine.Proofs.Teardown

/-! # Objects do not outlive their session

* **`Tenancy`** — some objects with those of one session added, all of them below the session.
* **`Tenancy.eq_of_removes`** — removing the session leaves the objects there were before.
* **`Session.Hosted`** — an open session is such a tenant of its engine; moves keep it one.
* **`Session.Spared`** — no fault strikes the request that closes the session.
* **`Session.objects_restored`** — a session that is closed, released or fails to start leaves the
  objects of the engine as they were. -/

namespace SecureEngine

variable {base objects after : IdMap EngineObject} {root handle x : UInt32}

/-! ## (1) Tenancies -/

/-- **The objects of one session have been added** to some others: those are all kept, and whatever is new
lies `Below` the session. -/
structure Tenancy (base objects : IdMap EngineObject) (root : UInt32) : Prop where
  vacant : base.find? root = none
  kept : ∀ h object, base.find? h = some object → objects.find? h = some object
  /-- What is not one of the others lies below the session. -/
  below : ∀ h, base.find? h = none → (objects.find? h).isSome → Below objects root h

/-- What is free now was free before, because `Tenancy` keeps every object of the base. -/
theorem Tenancy.free (h : Tenancy base objects root) (hx : objects.find? x = none) :
    base.find? x = none := by
  cases hb : base.find? x with
  | none => rfl
  | some object =>
    rw [h.kept x object hb] at hx
    cases hx

/-- A `Tenancy` begins with a session. -/
theorem tenancy_of_opens (h : Engine.Opens base root .session after) : Tenancy base after root := by
  refine ⟨h.1, fun a object => h.kept, fun a hfree ha => ?_⟩
  obtain ⟨object, hfound⟩ := Option.isSome_iff_exists.mp ha
  rcases h.eq_or_find? hfound with ⟨rfl, -⟩ | hbase
  · exact .refl
  · rw [hfree] at hbase
    cases hbase

/-- Opening something moves nothing: what lay `Below` a root still does after `Engine.Opens`. -/
theorem Below.of_opens {object : EngineObject} (h : Below objects root x)
    (hopens : Engine.Opens objects handle object after) : Below after root x := by
  refine h.mono fun a parent ha _ => ?_
  obtain ⟨o, hfound, hparent⟩ := Option.bind_eq_some_iff.mp ha
  exact (parentOf?_of_find? (hopens.kept hfound)).trans hparent

/-- **What opens on something of the session** is of the session too: the new object lies `Below` it by
way of its parent. -/
theorem Tenancy.opens (h : Tenancy base objects root) {object : EngineObject} {parent : UInt32}
    (hopens : Engine.Opens objects handle object after) (hparent : object.parent? = some parent)
    (hlive : (objects.find? parent).isSome) (hfree : base.find? parent = none) :
    Tenancy base after root := by
  refine ⟨h.vacant, fun a o ha => hopens.kept (h.kept a o ha), fun a hbase ha => ?_⟩
  obtain ⟨o, hfound⟩ := Option.isSome_iff_exists.mp ha
  rcases hopens.eq_or_find? hfound with ⟨rfl, rfl⟩ | hold
  · -- The new object is a step away from what it was opened on.
    exact .step ((parentOf?_of_find? hfound).trans hparent)
      ((h.below parent hfree hlive).of_opens hopens)
  · refine (h.below a hbase ?_).of_opens hopens
    rw [hold]
    rfl

/-- **What was there before lies below nothing that was not**, if it was `Rooted`: its chain of parents
was there before as well. -/
theorem Tenancy.not_below (h : Tenancy base objects root) (hr : Rooted base)
    (hx : base.find? x = none) {object : EngineObject} (ha : base.find? handle = some object) :
    ¬Below objects x handle := by
  intro hbelow
  induction hbelow generalizing object with
  | refl =>
    rw [hx] at ha
    cases ha
  | @step handle parent hp _ ih =>
    rw [parentOf?_of_find? (h.kept _ object ha)] at hp
    obtain ⟨_, hparent⟩ := Option.isSome_iff_exists.mp
      (hr handle parent ((parentOf?_of_find? ha).trans hp))
    -- The parent is one of the others too.
    exact ih hparent

/-- What stays keeps its place: after `Engine.Removes` at another root, an object lies `Below` what it lay
below. -/
theorem Below.of_removes (h : Below objects root handle) (hremoves : Engine.Removes objects x after)
    (hx : ¬Below objects x handle) : Below after root handle := by
  induction h with
  | refl => exact .refl
  | step hp _ ih => exact .step (hremoves.parentOf?_eq hp hx) (ih fun hb => hx (.step hp hb))

/-- **Removing something of the session** leaves the others alone: none of a `Rooted` base lies `Below`
what is not in the base. -/
theorem Tenancy.removes (h : Tenancy base objects root) (hr : Rooted base)
    (hx : base.find? x = none) (hremoves : Engine.Removes objects x after) :
    Tenancy base after root := by
  -- What was there before is not below what goes, and what stays was below the session already.
  refine ⟨h.vacant, fun a object ha => ?_, fun a hbase ha => ?_⟩
  · exact (hremoves a object).mpr ⟨h.kept a object ha, h.not_below hr hx ha⟩
  · obtain ⟨object, hafter⟩ := Option.isSome_iff_exists.mp ha
    obtain ⟨hfound, hb⟩ := (hremoves a object).mp hafter
    have hsome : (objects.find? a).isSome := by
      rw [hfound]
      rfl
    exact (h.below a hbase hsome).of_removes hremoves hb

/-- **Removing the session ends the `Tenancy`**: what is left is what there was before. -/
theorem Tenancy.eq_of_removes (h : Tenancy base objects root) (hr : Rooted base)
    (hremoves : Engine.Removes objects root after) : after = base := by
  refine IdMap.ext_find? fun a => Option.ext fun object => ?_
  -- What is left is what does not lie below the session, and that is the others.
  constructor
  · intro hafter
    obtain ⟨hfound, hb⟩ := (hremoves a object).mp hafter
    cases hbase : base.find? a with
    | none =>
      refine absurd (h.below a hbase ?_) hb
      rw [hfound]
      rfl
    | some other => rw [← hfound, h.kept a other hbase]
  · intro hbase
    exact (hremoves a object).mpr ⟨h.kept a object hbase, h.not_below hr h.vacant hbase⟩

namespace Session

open Device

variable {s t : Session Device}

/-! ## (2) Sessions as tenants -/

/-- **An open session is a tenant of its engine**: all it has open there is its own. -/
structure Hosted (base : IdMap EngineObject) (s : Session Device) : Prop where
  agrees : s.Agrees
  closed_eq : s.transport.closed = false
  identifier_ne_zero : s.identifier ≠ 0
  tenancy : Tenancy base s.objects s.identifier
  own : ∀ o, s.Holds o → base.find? o.context.engineHandle = none

/-- What a service of the session was opened on is the session's own: what `Reaches` gives is open and not
in the base. -/
theorem Hosted.of_reaches (h : s.Hosted base) {parent : Option ServiceHandle} {address : UInt32}
    (hr : s.Reaches parent address) :
    base.find? address = none ∧ (s.objects.find? address).isSome := by
  cases parent with
  | none =>
    obtain rfl : address = s.identifier := hr
    rw [h.agrees.session_live h.identifier_ne_zero]
    exact ⟨h.tenancy.vacant, rfl⟩
  | some handle =>
    obtain ⟨k, hk, -, rfl⟩ := hr
    obtain ⟨_, object, -, hfound, -⟩ := h.agrees.stands k hk
    rw [hfound]
    exact ⟨h.own k hk, rfl⟩

/-- **Every `Change` but the end keeps an open session a tenant.** -/
theorem Hosted.change (h : s.Hosted base) (hr : Rooted base) (hc : s.Change t)
    (hid : t.identifier ≠ 0) : t.Hosted base := by
  have hagrees := h.agrees.change hc
  have hclosed := hc.follows.closed_eq.trans h.closed_eq
  refine ⟨hagrees, hclosed, hid, ?_, ?_⟩
  · -- The tenancy follows the objects: it grows below the session, and what is removed is the session's
    -- own.
    cases hc with
    | @steady transport handles _ _ hobjects _ =>
      have hsame : objects { s with transport, handles } = s.objects := hobjects
      rw [hsame]
      exact h.tenancy
    | opened _ _ _ hparent hdescribes hopens =>
      obtain ⟨hfree, hlive⟩ := h.of_reaches hparent
      exact h.tenancy.opens hopens hdescribes.parent?_eq hlive hfree
    | @closed o transport handles _ _ ho _ _ _ hobjects _ =>
      rcases hobjects with hobjects | hremoves
      · have hsame : objects { s with transport, handles } = s.objects := hobjects
        rw [hsame]
        exact h.tenancy
      · exact h.tenancy.removes hr (h.own o ho) hremoves
    | ended => exact absurd rfl hid
  · -- Every handle of the session is its own.
    intro p hp
    cases hc with
    | steady _ _ _ hopened => exact h.own p ((hopened p).mp hp)
    | opened _ _ hopened _ _ hopens =>
      rcases (hopened p).mp hp with rfl | hp
      · exact h.tenancy.free hopens.1
      · exact h.own p hp
    | closed _ _ _ _ _ _ _ hopened => exact h.own p ((hopened p).mp hp).1
    | ended => exact absurd rfl hid

/-- A `Change` keeps the identifier of the session or ends it. -/
theorem Change.identifier (hc : s.Change t) (hid : t.identifier ≠ 0) :
    t.identifier = s.identifier := by
  cases hc with
  | steady | opened | closed => rfl
  | ended => exact absurd rfl hid

/-- Moves keep an open session a tenant, until one ends it: by induction on `Moves`, with what a single
`Move` keeps. -/
theorem Moves.hosted {outcomes : List (Except ClientError Unit)} (hm : Moves s outcomes t)
    (hr : Rooted base) (hs : s.Sound) (ha : s.Agrees) (h : s.identifier ≠ 0 → s.Hosted base)
    (hid : t.identifier ≠ 0) : t.Hosted base := by
  induction hm with
  | nil => exact h hid
  | cons hmove _ ih =>
    have hchange := hmove.change ha hs
    -- Identifiers only change to zero, so the session was open before the move.
    refine ih (hmove.sound hs) (ha.change hchange) (fun hid => ?_) hid
    have hopen := hchange.identifier hid ▸ hid
    exact (h hopen).change hr hchange hid

/-- **Between instructions, an open session is a tenant**, whatever faults are injected: `Hosted` holds at
the end of every `Run` that leaves the session open. -/
theorem Run.hosted (hrun : Run Injecting s t) (hr : Rooted base) (hs : s.Sound)
    (h : s.Hosted base) (hid : t.identifier ≠ 0) : t.Hosted base := by
  -- The invariant is carried along the run with what it rests on: soundness and agreement.
  refine (hrun.induction (p := fun t => t.Sound ∧ t.Agrees ∧ (t.identifier ≠ 0 → t.Hosted base))
    ⟨hs, h.agrees, fun _ => h⟩ ?_ ?_).2.2 hid
  · rintro i t ⟨hs, ha, h⟩
    obtain ⟨outcomes, hmoves, -⟩ := hs.perform i
    exact ⟨hmoves.sound hs, (hmoves.agrees ha hs).1, hmoves.hosted hr hs ha h⟩
  · rintro t _ ⟨fault, rfl⟩ ⟨hs, ha, h⟩
    have hagrees : Agrees { t with transport := t.transport.inject fault } :=
      ha.withTransport rfl rfl
    exact ⟨hs.withTransport _, hagrees, fun hid =>
      ⟨hagrees, (h hid).closed_eq, hid, (h hid).tenancy, (h hid).own⟩⟩

/-- A session that has just opened is a tenant, and furnishing keeps it one. -/
theorem hosted_furnish {transport : Device} {identifier : UInt32} (hs : s.Sound)
    (hid : s.identifier = 0) (configuration : Configuration)
    (hunit : s.channel.unit = transport.machine.engine.settings.unit)
    (hclosed : transport.closed = false) (hr : Rooted s.objects)
    (hopens : Engine.Opens s.objects identifier .session transport.machine.engine.objects) :
    (Session.furnish configuration { s with transport, identifier }).2.Hosted s.objects := by
  obtain ⟨-, hnone⟩ := hs.idle hid
  -- The session is hosted when it has just been opened, and what follows changes objects below it only.
  refine furnish_induction (p := Hosted s.objects) configuration hs.lawful hs.wellFormed
    ⟨agrees_of_opens hnone hunit hopens, hclosed, hopens.2.1, tenancy_of_opens hopens,
      fun o ho => absurd ho (hnone o)⟩ (fun _ h => h.agrees) (fun t u h hc he => ?_)
    fun _ _ _ h => ⟨⟨h.agrees.unit_eq, h.agrees.session_live, h.agrees.stands, h.agrees.distinct⟩,
      h.closed_eq, h.identifier_ne_zero, h.tenancy, h.own⟩
  exact h.change hr hc (he ▸ h.identifier_ne_zero)

/-! ## (3) The request that closes a session -/

end Session

/-- An open session can be closed, and `Engine.closeSession` then leaves what `removeTree` does. -/
theorem Engine.run_closeSession {machine : Machine}
    (h : machine.engine.objects.find? root = some .session) :
    (Engine.closeSession root).run machine =
      (.ok (), { machine with engine := machine.engine.removeTree root }) := by
  have hcheck : machine.engine.checkSession root = .ok () := by rw [checkSession, h]
  rw [Engine.closeSession, run_bind_ok (Handling.run_engine machine),
    run_bind_ok (Handling.run_lift_ok hcheck machine)]
  rfl

/-- Executing a request to close an open session removes it: `Engine.execute` of its
`Channel.closingFrame` has the effect `Removes`. -/
theorem Engine.removes_execute {channel : Channel} {machine : Machine}
    (hunit : channel.unit = machine.engine.settings.unit)
    (hfound : machine.engine.objects.find? root = some .session) :
    Removes machine.engine.objects root
      ((execute (channel.closingFrame .closeSession root)).run machine).2.engine.objects := by
  have hframe : channel.closingFrame .closeSession root =
      channel.frame (c := .closeSession) Command.closeSession.code root := rfl
  -- The engine reads the handle of the session out of the frame.
  obtain ⟨m, hdecode, haddressee⟩ := (channel.decodeRequest_frame machine.engine.settings.flavor
    (c := .closeSession) root).resolve_right fun h => nomatch h.1
  obtain rfl : m = root := Option.some.inj haddressee
  have hhandle : (handle machine.engine.settings.flavor .closeSession m).run machine =
      (.ok (), { machine with engine := machine.engine.removeTree m }) := run_closeSession hfound
  rw [machine_execute, hframe, run_answer (accept_frame hunit _) hdecode, hhandle]
  exact fun _ _ => find?_removeTree hfound

/-- **A request to close an open session removes it**, if the engine gets to see the request. -/
theorem Device.removes_closeSession {channel : Channel} {d : Device}
    (hunit : channel.unit = d.machine.engine.settings.unit)
    (hget : channel.table.get? Command.closeSession.code = some .closeSession)
    (hclosed : d.closed = false) (hfound : d.machine.engine.objects.find? root = some .session)
    (hspared : ¬d.Struck (channel.closingFrame .closeSession root)) :
    Engine.Removes d.machine.engine.objects root
      ((channel.process Command.closeSession.code root .close).run d).2.machine.engine.objects := by
  have hremoves := Engine.removes_execute hunit hfound
  -- No fault strikes the request, so it reaches the engine.
  obtain ⟨log, hexchange⟩ := exchange_of_not_struck hclosed hspared Command.statusSize
  have hsent : Transport.sendAndReceive d (channel.closingFrame .closeSession root)
      Command.statusSize = d.exchange (channel.closingFrame .closeSession root) Command.statusSize :=
    rfl
  rcases hrun : (Engine.execute (channel.closingFrame .closeSession root)).run d.machine with
    ⟨reply, machine⟩
  rw [hrun] at hremoves
  obtain ⟨bytes, faults, hexecute, -, -⟩ := execute_spec { d with log } hrun
  rw [Channel.run_process_closing rfl hget, hsent, hexchange, hexecute]
  exact hremoves

namespace Session

open Device

variable {s t : Session Device} {r : Except ClientError Unit}

/-- **No fault strikes the request that closes a session**, if closing it sends one. -/
def Spared (s : Session Device) : Prop :=
  ∀ x ∈ (close.run s.recorded).2.transport.sent,
    Engine.commandByte x.request = Command.closeSession.code → ¬x.before.Struck x.request

instance (s : Session Device) : Decidable s.Spared :=
  inferInstanceAs (Decidable (∀ x ∈ (close.run s.recorded).2.transport.sent, _))

/-- **Closing a tenant ends its tenancy**: after `Session.close` the objects are those of the base, unless
the request for it is struck. -/
theorem Hosted.objects_close (h : s.Hosted base) (hr : Rooted base) (hs : s.Sound)
    (hspared : s.Spared) : (close.run s).2.objects = base := by
  have hid := h.identifier_ne_zero
  obtain ⟨services, hl, hmap⟩ := hs.exists_lists
  obtain ⟨outcomes, hmoves, -, -, hsame⟩ := hs.closeAll_moves hl
  rw [← hmap] at hmoves hsame
  have hplain := plain_closeAll s.handles.newestFirst s.recorded
  rw [plain_recorded] at hplain
  rcases hall : (closeAll s.handles.newestFirst).run s.recorded with ⟨r, u⟩
  rw [hall] at hplain
  rw [hplain] at hmoves hsame
  -- What is left of the session is a tenant that can be closed, and no fault strikes the request.
  have hidu : u.plain.identifier ≠ 0 := hsame.symm ▸ hid
  have hhosted := hmoves.hosted hr hs h.agrees (fun _ => h) hidu
  have hget := (hmoves.sound hs).session_closable hidu
  have hlast : u.channel.closingExchange .closeSession s.identifier u.transport.transport ∈
      (close.run s.recorded).2.transport.sent := by
    rw [sent_close_append hid hall hget]
    exact List.mem_concat_self
  have hremoves := removes_closeSession hhosted.agrees.unit_eq hget hhosted.closed_eq
    (hhosted.agrees.session_live hidu) (hsame.symm ▸ hspared _ hlast rfl)
  have hafter := hhosted.tenancy.eq_of_removes hr hremoves
  rw [hsame] at hafter
  rw [run_close, if_neg hid, hplain]
  exact hafter

/-! ## (4) Closed sessions -/

/-- **Nothing happens to the objects after a session has been closed**: a `Run` of a closed session leaves
it closed. -/
theorem Run.objects_eq_of_closed (hrun : Run Injecting s t) (hs : s.Sound) (hid : s.identifier = 0) :
    t.identifier = 0 ∧ t.objects = s.objects := by
  refine (hrun.induction (p := fun t => t.Sound ∧ t.identifier = 0 ∧ t.objects = s.objects)
    ⟨hs, hid, rfl⟩ ?_ ?_).2
  · rintro i u ⟨hu, hidu, hobjects⟩
    obtain ⟨outcomes, hmoves, -⟩ := hu.perform i
    rw [hmoves.eq_of_closed hu hidu]
    exact ⟨hu, hidu, hobjects⟩
  · rintro u _ ⟨fault, rfl⟩ ⟨hu, hidu, hobjects⟩
    exact ⟨hu.withTransport _, hidu, hobjects⟩

/-- Releasing a session leaves the objects that closing it leaves, for `Session.release` only closes the
transport besides. -/
theorem objects_release (s : Session Device) :
    s.release.machine.engine.objects = (close.run s).2.objects := rfl

/-! ## (5) Every session -/

/-- **Coming up** leaves a session that never opened at the engine, or a tenant. -/
theorem hosted_establish {d : Device} {configuration : Configuration} {table : DispatchTable}
    (hl : table.Lawful) (hunit : configuration.unit = d.machine.engine.settings.unit)
    (hr : Rooted d.machine.engine.objects) (tableId : UInt32)
    (hrun : (establish configuration).run (initial d configuration table tableId) = (r, s)) :
    s.Sound ∧ (s.identifier = 0 ∧ s.objects = d.machine.engine.objects ∧ r ≠ .ok () ∨
      s.Hosted d.machine.engine.objects) := by
  have hs := sound_initial d configuration tableId hl
  refine ⟨(hs.establish rfl rfl hrun).1, ?_⟩
  -- A start that is refused leaves the objects alone; one that is granted a session is hosted from
  -- there on.
  rcases run_establish_cases (s := initial d configuration table tableId) hl hunit configuration with
    ⟨e, transport, hfailed, hobjects⟩ | ⟨identifier, transport, hsettings, hclosed, hopens, hopened⟩
  · rw [hfailed] at hrun
    cases hrun
    exact Or.inl ⟨rfl, hobjects, nofun⟩
  · have hhosted := hosted_furnish hs rfl configuration (hunit.trans (by rw [hsettings]; rfl))
      hclosed hr hopens
    rw [← hopened, hrun] at hhosted
    exact Or.inr hhosted

/-- **What a session leaves behind**: some objects, once it has been closed, whatever is asked of it
afterwards, and once it has been released. -/
structure Leaves (s : Session Device) (base : IdMap EngineObject) : Prop where
  closed : ∀ t, Run Injecting (close.run s).2 t →
    t.objects = base ∧ t.release.machine.engine.objects = base
  released : s.release.machine.engine.objects = base

/-- A session whose objects are `Hosted` leaves what was there before it when it is closed. -/
theorem Hosted.leaves (h : s.Hosted base) (hr : Rooted base) (hs : s.Sound) (hspared : s.Spared) :
    s.Leaves base := by
  have hobjects := h.objects_close hr hs hspared
  refine ⟨fun t hrun => ?_, hobjects⟩
  obtain ⟨outcomes, hmoves, -⟩ := hs.close_moves
  obtain ⟨hid, hsame⟩ := hrun.objects_eq_of_closed (hmoves.sound hs) (identifier_close s)
  rw [objects_release, close_closed hid]
  exact ⟨hsame.trans hobjects, hsame.trans hobjects⟩

/-- **No object outlives its session**: on a device in any state it can get into, the objects of the
engine are as they were before a session was started, once the session has been closed or released, or
has failed to start; unless a fault strikes the request that closes it. -/
theorem objects_restored {d : Device} {configuration : Configuration} (hd : d.Reachable)
    (hunit : configuration.unit = d.machine.engine.settings.unit) (sets : List FamilySet)
    (tableId : UInt32) :
    (∀ start s, startWith d configuration (.enabling sets) tableId = .ok start →
      Run Injecting start s → s.identifier ≠ 0 → s.Spared → s.Leaves d.machine.engine.objects) ∧
    (∀ e after, startWith d configuration (.enabling sets) tableId = .error (e, after) →
      ((establish configuration).run (initial d configuration (.enabling sets) tableId)).2.Spared →
      after.machine.engine.objects = d.machine.engine.objects) ∧
    ∀ e, configuration.serviceFamilies = .error e →
      Session.start d configuration tableId = .error (e, d) := by
  have hl := DispatchTable.lawful_enabling sets
  have hr := hd.rooted
  refine ⟨fun start s hstart hrun hid hspared => ?_, fun e after hstart hspared => ?_,
    fun e he => ?_⟩
  · -- A session that has started is a tenant until it is closed.
    obtain ⟨hsound, hcases⟩ := hosted_establish hl hunit hr tableId (startWith_eq_ok_iff.mp hstart)
    have hhosted := hcases.resolve_left fun h => h.2.2 rfl
    exact (hrun.hosted hr hsound hhosted hid).leaves hr (hrun.sound hsound) hspared
  · rcases hrun : (establish configuration).run (initial d configuration (.enabling sets) tableId) with
      ⟨r, s⟩
    obtain ⟨hsound, hcases⟩ := hosted_establish hl hunit hr tableId hrun
    rw [hrun] at hspared
    rw [startWith_eq, hrun] at hstart
    have hafter : after = s.release := by
      cases r with
      | ok _ => cases hstart
      | error e => exact (Prod.ext_iff.mp (Except.error.inj hstart)).2.symm
    rw [hafter, objects_release]
    -- Without a session at the engine nothing is sent; with one, it is closed.
    rcases hcases with ⟨hid, hobjects, -⟩ | hhosted
    · rw [close_closed hid]
      exact hobjects
    · exact hhosted.objects_close hr hsound hspared
  · rw [Session.start, he]

/-- A new device is empty again after a session with a fault that strikes no close request, and after
one whose key store it refused to open. -/
theorem objects_restored_standard : ∃ (d : Device) (start : Session Device) (e : ClientError)
    (after : Device), Device.start {} = .ok d ∧
      startWith d {} (.enabling [.full]) 1 = .ok start ∧
      Leaves { start with transport := start.transport.inject .corruptChecksum } .empty ∧
      startWith (d.inject (.reject Command.openKeyStore.code Reason.generalError.toError)) {}
        (.enabling [.full]) 1 = .error (e, after) ∧
      after.machine.engine.objects = .empty := by
  have hstarted : Device.start {} = .ok { machine := { engine := .start {} } } := rfl
  obtain ⟨start, hstart⟩ := exists_startWith
  have hleaves := (objects_restored (.start hstarted) rfl [.full] 1).1 start _ hstart
    (.change ⟨.corruptChecksum, rfl⟩ .refl)
  obtain rfl : _ = start := congrArg Prod.snd (startWith_eq_ok_iff.mp hstart)
  obtain ⟨⟨e, after⟩, hfailed⟩ := exists_eq_error (r := startWith
    (({ machine := { engine := .start {} } } : Device).inject
      (.reject Command.openKeyStore.code Reason.generalError.toError)) {} (.enabling [.full]) 1)
    (by decide +kernel)
  have hafter := (objects_restored (.inject _ (.start hstarted)) rfl [.full] 1).2.1 e after hfailed
    (by decide +kernel)
  exact ⟨_, _, e, after, hstarted, hstart, hleaves (by decide +kernel) (by decide +kernel), hfailed,
    hafter⟩

end Session

end SecureEngine
