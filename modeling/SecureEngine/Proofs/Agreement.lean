import SecureEngine.Proofs.Delivery
import SecureEngine.Proofs.Instructions

/-! # Client and engine agree about what is open

* **`Session.Agrees`** — every service that a session has open stands for an object of the engine, of
  the same kind and on the same parent, and no two for the same object. The engine may have more open.
* **`Session.Change`** — how a move changes what is open at both ends; every move does (`Move.change`).
* **`Session.Agrees.change`**, **`Session.Move.denied`** — each change keeps the two in agreement, and
  the engine knows every handle it is asked about.
* **`Session.handles_agree`** — on every run over a device, whatever faults are injected. -/

namespace SecureEngine

namespace Session

open Device

/-- The objects of the engine behind a session, taken from the machine of its `Device`. -/
def objects (s : Session Device) : IdMap EngineObject := s.transport.machine.engine.objects

/-- What a service was opened on is at an address of the engine: the key store at its handle, or the
session at its identifier. -/
def Reaches (s : Session Device) (parent : Option ServiceHandle) (address : UInt32) : Prop :=
  match parent with
  | none => address = s.identifier
  | some handle => ∃ k, s.Holds k ∧ k.handle = handle ∧ k.context.engineHandle = address

/-- **What is open at the client is open at the engine**: the session itself, and every opening that it
`Holds`, on the object that the opening's parent `Reaches`. -/
structure Agrees (s : Session Device) : Prop where
  unit_eq : s.channel.unit = s.transport.machine.engine.settings.unit
  session_live : s.identifier ≠ 0 → s.objects.find? s.identifier = some .session
  stands : ∀ o, s.Holds o → ∃ parent object, s.Reaches o.context.parent parent ∧
    s.objects.find? o.context.engineHandle = some object ∧ o.context.kind.Describes parent object
  distinct : ∀ o p, s.Holds o → s.Holds p →
    o.context.engineHandle = p.context.engineHandle → o = p

variable {s t : Session Device} {o p k : Opening}

/-! ## (1) What agreement depends on -/

/-- What a service was opened on stays where it is while the session and that service stay open. -/
theorem Reaches.mono {parent : Option ServiceHandle} {address : UInt32}
    (h : s.Reaches parent address) (hid : t.identifier = s.identifier)
    (hkeep : ∀ k, s.Holds k → parent = some k.handle → t.Holds k) : t.Reaches parent address := by
  cases parent with
  | none =>
    obtain rfl : address = s.identifier := h
    exact hid.symm
  | some handle =>
    obtain ⟨k, hk, rfl, haddress⟩ := h
    exact ⟨k, hkeep k hk rfl, rfl, haddress⟩

/-- Agreement is about the objects and about what is open, so it survives every change to a session that
keeps the one and adds nothing to the other. -/
theorem Agrees.congr (h : s.Agrees) {transport : Device} {handles : HandleTable}
    (hsettings : transport.machine.engine.settings = s.transport.machine.engine.settings)
    (hobjects : transport.machine.engine.objects = s.transport.machine.engine.objects)
    (hopened : ∀ o : Opening, handles.Opened o.handle o.context o.stamp → s.Holds o)
    (hkeep : ∀ o k : Opening, handles.Opened o.handle o.context o.stamp → s.Holds k →
      o.context.parent = some k.handle → handles.Opened k.handle k.context k.stamp) :
    Agrees { s with transport, handles } := by
  have hobj : objects { s with transport, handles } = s.objects := hobjects
  -- Handles may go, as long as no other handle stands on one that went.
  refine ⟨h.unit_eq.trans (by rw [hsettings]), fun hid => ?_, fun o ho => ?_, fun o p ho hp => ?_⟩
  · rw [hobj]
    exact h.session_live hid
  · obtain ⟨parent, object, hreaches, hfound, hdescribes⟩ := h.stands o (hopened o ho)
    refine ⟨parent, object, hreaches.mono rfl fun k hk hparent => hkeep o k ho hk hparent, ?_,
      hdescribes⟩
    rw [hobj]
    exact hfound
  · exact h.distinct o p (hopened o ho) (hopened p hp)

/-- A session `Agrees` with an engine whose settings and objects are the same, whatever else of the device
differs. -/
theorem Agrees.withTransport (h : s.Agrees) {transport : Device}
    (hsettings : transport.machine.engine.settings = s.transport.machine.engine.settings)
    (hobjects : transport.machine.engine.objects = s.transport.machine.engine.objects) :
    Agrees { s with transport } :=
  h.congr hsettings hobjects (fun _ ho => ho) fun _ _ _ hk _ => hk

/-- A request of a session is delivered to its device: `delivery` for the header values that the two
share. -/
theorem Agrees.delivery (h : s.Agrees) (hl : s.channel.table.Lawful) (c : Command) (handle : UInt32)
    (arguments : Arguments) :
    Delivery c handle arguments s.transport
      ((s.channel.process c.code handle arguments).run s.transport).1
      ((s.channel.process c.code handle arguments).run s.transport).2 :=
  Device.delivery hl c handle arguments h.unit_eq

/-! ## (2) The engine finds what is open -/

/-- The key store of a session is one of the engine, open under the handle the session has for it. -/
theorem Agrees.isKeyStore (h : s.Agrees) (hk : s.Holds k) (hks : k.isKeyStore) :
    Engine.IsKeyStore s.objects k.context.engineHandle := by
  obtain ⟨parent, object, -, hfound, hdescribes⟩ := h.stands k hk
  rw [hks] at hdescribes
  obtain ⟨identifier, rfl⟩ := hdescribes
  exact ⟨parent, identifier, hfound⟩

/-- A service of a session is one of the engine, and so is its key store. -/
theorem Agrees.isService (h : s.Agrees) (hs : s.Sound) (ho : s.Holds o) {kind : Service}
    (hkind : o.context.kind = .service kind) :
    Engine.IsService s.objects kind o.context.engineHandle := by
  obtain ⟨parent, object, hreaches, hfound, hdescribes⟩ := h.stands o ho
  rw [hkind] at hdescribes
  obtain rfl : object = .service kind parent := hdescribes
  refine ⟨parent, hfound, fun hscope => ?_⟩
  -- What the client takes for the parent is what the engine has as the parent.
  have hon := hs.hangsOn o ho
  simp only [HangsOn, hkind, hscope] at hon
  obtain ⟨k, hk, hks, hparent⟩ := hon
  rw [hparent] at hreaches
  obtain ⟨k', hk', hhandle, rfl⟩ := hreaches
  obtain rfl := hk'.eq_of_handle_eq hk hhandle
  exact h.isKeyStore hk hks

/-- What a session has open, its engine finds when it is asked to close it. -/
theorem Agrees.finds_closing (h : s.Agrees) (hs : s.Sound) (ho : s.Holds o) :
    o.context.kind.closing.Finds s.objects o.context.engineHandle := by
  cases hkind : o.context.kind with
  | keyStore => exact h.isKeyStore ho hkind
  | service kind => exact h.isService hs ho hkind

/-- What a session addresses its requests to, its engine finds: from `Serves` at the client to
`Command.Finds` among the objects. -/
theorem Agrees.finds_serves (h : s.Agrees) (hs : s.Sound) {c : Command} {address : UInt32}
    (hc : s.Serves c address) : c.Finds s.objects address := by
  rcases hc with ⟨o, kind, ho, hkind, hworker, rfl⟩ | ⟨hglobal, rfl, hid⟩
  · exact Command.finds_of_worker hworker (h.isService hs ho hkind)
  · exact Command.finds_of_isGlobal hglobal (h.session_live hid)

/-- What a service is opened on, as `Session.parentOf` looks it up, is open at the engine, and of the kind
that the opening asks for. -/
theorem Agrees.parent (h : s.Agrees) (hs : s.Sound) {kind : Service}
    {parent : Option ServiceHandle} {address : UInt32}
    (hp : s.parentOf kind = .ok (parent, address)) :
    s.Reaches parent address ∧ (Command.openService kind).Finds s.objects address := by
  -- A service is opened on the session or on the key store, by its scope.
  obtain ⟨hid, ⟨hscope, rfl, rfl⟩ | ⟨hscope, k, hk, hks, rfl, rfl⟩⟩ := hs.of_parentOf hp
  · refine ⟨rfl, ?_⟩
    simp only [Command.Finds, Engine.IsParent, hscope]
    exact h.session_live hid
  · refine ⟨⟨k, hk, rfl, rfl⟩, ?_⟩
    simp only [Command.Finds, Engine.IsParent, hscope]
    exact h.isKeyStore hk hks

/-- The session lies below none of its services, because the object of a session has no parent for `Below`
to climb to. -/
theorem Agrees.session_not_below (h : s.Agrees) (hs : s.Sound) (ho : s.Holds o) :
    ¬Below s.objects o.context.engineHandle s.identifier := by
  intro hb
  have hfound := h.session_live fun hid => (hs.idle hid).2 o ho
  have he := hb.eq_of_parentOf?_eq_none (parentOf?_of_find? hfound)
  obtain ⟨_, object, -, hfound', hdescribes⟩ := h.stands o ho
  rw [← he, hfound] at hfound'
  exact hdescribes.ne_session (Option.some.inj hfound').symm

/-- A service lies `Below` another one only if what it hangs on does, since the client knows the object it
was opened on. -/
theorem Agrees.not_below_of_parent (h : s.Agrees) (ho : s.Holds o) (hp : s.Holds p) (hne : p ≠ o)
    (hparent : ∀ a, s.Reaches p.context.parent a → ¬Below s.objects o.context.engineHandle a) :
    ¬Below s.objects o.context.engineHandle p.context.engineHandle := by
  intro hb
  obtain ⟨parent, object, hreaches, hfound, hdescribes⟩ := h.stands p hp
  rcases hb.eq_or_parent with he | ⟨a, ha, hb⟩
  · exact hne (h.distinct p o hp ho he)
  · rw [parentOf?_of_find? hfound, hdescribes.parent?_eq] at ha
    cases ha
    exact hparent parent hreaches hb

/-- **Nothing else that is open lies below a service** that nothing hangs on, so `Engine.removeTree` at
that service takes away nothing else that the session `Holds`. -/
theorem Agrees.not_below (h : s.Agrees) (hs : s.Sound) (ho : s.Holds o)
    (hlast : ∀ p, s.Holds p → p.context.parent ≠ some o.handle) (hp : s.Holds p) (hne : p ≠ o) :
    ¬Below s.objects o.context.engineHandle p.context.engineHandle := by
  have hroot {p : Opening} (hp : s.Holds p) (hne : p ≠ o) (hnone : p.context.parent = none) :
      ¬Below s.objects o.context.engineHandle p.context.engineHandle := by
    refine h.not_below_of_parent ho hp hne fun a ha => ?_
    rw [hnone] at ha
    obtain rfl : a = s.identifier := ha
    exact h.session_not_below hs ho
  -- What hangs on a key store is a step further away than the key store itself.
  cases hparent : p.context.parent with
  | none => exact hroot hp hne hparent
  | some handle =>
    refine h.not_below_of_parent ho hp hne fun a ha => ?_
    rw [hparent] at ha
    obtain ⟨k, hk, hhandle, rfl⟩ := ha
    obtain ⟨k', hk', hks, hhandle', -⟩ := hs.parent_eq hp hparent
    obtain rfl := hk.eq_of_handle_eq hk' (hhandle.trans hhandle'.symm)
    refine hroot hk ?_ ?_
    · -- The key store is not what is closed, since something hangs on it.
      rintro rfl
      exact hlast p hp (hparent.trans (congrArg some hhandle.symm))
    · have hon := hs.hangsOn k hk
      unfold HangsOn at hon
      rw [hks] at hon
      exact hon

/-! ## (3) What moves change -/

/-- **How a move changes what is open**, at both ends: nothing, one opening more, one opening less, or the
end of a session without openings, each with what became of the `Device`. -/
inductive Change (s : Session Device) : Session Device → Prop
  | steady {transport : Device} {handles : HandleTable} (hf : Follows s.transport transport)
      (hsettings : transport.machine.engine.settings = s.transport.machine.engine.settings)
      (hobjects : transport.machine.engine.objects = s.objects)
      (hopened : ∀ o : Opening, handles.Opened o.handle o.context o.stamp ↔ s.Holds o) :
      Change s { s with transport, handles }
  /-- Something new is open, on what was open already. -/
  | opened {new : Opening} {object : EngineObject} {address : UInt32} {transport : Device}
      {handles : HandleTable} (hf : Follows s.transport transport)
      (hsettings : transport.machine.engine.settings = s.transport.machine.engine.settings)
      (hopened : ∀ o : Opening,
        handles.Opened o.handle o.context o.stamp ↔ o = new ∨ s.Holds o)
      (hparent : s.Reaches new.context.parent address)
      (hdescribes : new.context.kind.Describes address object)
      (hopens : Engine.Opens s.objects new.context.engineHandle object
        transport.machine.engine.objects) :
      Change s { s with transport, handles }
  /-- A service that nothing else hangs on is forgotten, and the engine removes it or keeps it. -/
  | closed {o : Opening} {transport : Device} {handles : HandleTable}
      (hf : Follows s.transport transport)
      (hsettings : transport.machine.engine.settings = s.transport.machine.engine.settings)
      (ho : s.Holds o) (hlast : ∀ p, s.Holds p → p.context.parent ≠ some o.handle)
      (hsession : ¬Below s.objects o.context.engineHandle s.identifier)
      (hapart : ∀ p, s.Holds p → p ≠ o →
        ¬Below s.objects o.context.engineHandle p.context.engineHandle)
      (hobjects : transport.machine.engine.objects = s.objects ∨
        Engine.Removes s.objects o.context.engineHandle transport.machine.engine.objects)
      (hopened : ∀ p : Opening,
        handles.Opened p.handle p.context p.stamp ↔ s.Holds p ∧ p ≠ o) :
      Change s { s with transport, handles }
  | ended {transport : Device} (hf : Follows s.transport transport)
      (hsettings : transport.machine.engine.settings = s.transport.machine.engine.settings)
      (hnone : ∀ o, ¬s.Holds o) :
      Change s { s with keyStore := none, identifier := 0, transport }

/-- Every such change is one that `Follows` at the device, whatever it did to the openings of the
client. -/
theorem Change.follows (h : s.Change t) : Follows s.transport t.transport := by
  cases h <;> assumption

/-- A session that does nothing changes in this way, by `Change.steady` with the transport it has. -/
theorem Change.refl (s : Session Device) : s.Change s :=
  .steady (.refl _) rfl rfl fun _ => Iff.rfl

/-- The handle that is recorded for a new service is the one in the response, as `Command.opened?` finds
it. -/
theorem openedHandle_eq {kind : HandleKind} {arguments : Arguments} {handle : UInt32}
    (h : kind.opening.opened? arguments = some handle) : openedHandle arguments = handle := by
  cases kind with
  | keyStore =>
    cases arguments with
    | openKeyStore a => exact Option.some.inj h
    | _ => cases h
  | service kind =>
    cases arguments with
    | openService a => exact Option.some.inj h
    | _ => cases h

/-- **Opening something** is such a `Change`. -/
theorem Agrees.change_of_acquired (h : s.Agrees) (hl : s.channel.table.Lawful) {kind : HandleKind}
    {parent : Option ServiceHandle} {address : UInt32} {arguments : Arguments}
    {r : Except ClientError ServiceHandle} (harguments : (kind.opening.opened? arguments).isSome)
    (hparent : s.Reaches parent address) (ha : Acquired kind parent address arguments s r t) :
    s.Change t := by
  have hdelivery := h.delivery hl kind.opening address arguments
  cases ha with
  | full => exact .refl s
  | refused hx _ _ hopened =>
    -- The client was told of a failure, so the engine has not opened anything.
    rcases hdelivery.opening harguments with ⟨-, hobjects⟩ | ⟨_, _, hok, -⟩
    · exact .steady hdelivery.follows hdelivery.settings_eq hobjects hopened
    · rw [hx] at hok
      cases hok
  | @opened new _ hx hcontext _ _ _ hopened =>
    rcases hdelivery.opening harguments with ⟨⟨e, he⟩, -⟩ |
      ⟨handle, object, -, hanswer, -, hdescribes, hopens⟩
    · rw [hx] at he
      cases he
    rw [openedHandle_eq hanswer] at hcontext
    obtain ⟨issued, context, stamp⟩ := new
    obtain rfl : context = _ := hcontext
    exact .opened hdelivery.follows hdelivery.settings_eq hopened hparent hdescribes hopens

/-- Requests on behalf of a client change no object: they are addressed to a service or to the session. -/
theorem Serves.changesObjects {c : Command} {address : UInt32} (h : s.Serves c address) :
    c.changesObjects = false := by
  rcases h with ⟨_, _, _, _, hworker, -⟩ | ⟨hglobal, -, -⟩
  · exact Command.changesObjects_of_worker hworker
  · exact Command.changesObjects_of_isGlobal hglobal

/-- **Every move is such a change**: one case per constructor of `Move`. -/
theorem Move.change {r : Except ClientError Unit} (hm : Move s r t) (h : s.Agrees) (hs : s.Sound) :
    s.Change t := by
  cases hm with
  | request hrequest =>
    cases hrequest with
    | refused => exact .refl s
    | @sent c address arguments hserves =>
      have hdelivery := h.delivery hs.lawful c address arguments
      exact .steady hdelivery.follows hdelivery.settings_eq
        (hdelivery.objects_eq hserves.changesObjects) fun _ => Iff.rfl
  | openService hp ha => exact h.change_of_acquired hs.lawful rfl (h.parent hs hp).1 ha
  | @closeHandle o ho hlast =>
    obtain ⟨handles, hrun, -, -, hopened⟩ := run_closeHandle_of_holds hs.wellFormed ho
    have hdelivery := h.delivery hs.lawful o.context.kind.closing o.context.engineHandle .close
    rw [hrun]
    exact .closed hdelivery.follows hdelivery.settings_eq ho hlast (h.session_not_below hs ho)
      (fun p hp hne => h.not_below hs ho hlast hp hne) (hdelivery.closing.imp_right And.right)
      hopened
  | closeSession _ hnone =>
    have hdelivery := h.delivery hs.lawful .closeSession s.identifier .close
    exact .ended hdelivery.follows hdelivery.settings_eq hnone

/-! ## (4) Moves keep the two in agreement -/

/-- What opens at both keeps the two in agreement, if the engine gives it a handle that stood for
nothing. -/
theorem Agrees.insert (h : s.Agrees) {new : Opening} {object : EngineObject} {address : UInt32}
    {transport : Device} {handles : HandleTable} (hparent : s.Reaches new.context.parent address)
    (hdescribes : new.context.kind.Describes address object)
    (hsettings : transport.machine.engine.settings = s.transport.machine.engine.settings)
    (hopens : Engine.Opens s.objects new.context.engineHandle object transport.machine.engine.objects)
    (hopened : ∀ o : Opening, handles.Opened o.handle o.context o.stamp ↔ o = new ∨ s.Holds o) :
    Agrees { s with transport, handles } := by
  have hfresh {o : Opening} (ho : s.Holds o) :
      o.context.engineHandle ≠ new.context.engineHandle := by
    obtain ⟨_, _, -, hfound, -⟩ := h.stands o ho
    exact hopens.ne hfound
  have hreaches {parent : Option ServiceHandle} {a : UInt32} (hr : s.Reaches parent a) :
      Reaches { s with transport, handles } parent a :=
    hr.mono rfl fun k hk _ => (hopened k).mpr (Or.inr hk)
  refine ⟨h.unit_eq.trans (by rw [hsettings]), fun hid => ?_, fun o ho => ?_, fun o p ho hp he => ?_⟩
  · exact hopens.kept (h.session_live hid)
  · rcases (hopened o).mp ho with rfl | ho
    · exact ⟨address, object, hreaches hparent, hopens.found, hdescribes⟩
    · obtain ⟨parent, x, hr, hfound, hx⟩ := h.stands o ho
      exact ⟨parent, x, hreaches hr, hopens.kept hfound, hx⟩
  · -- The handle of the new object stood for nothing, so nothing else has it.
    rcases (hopened o).mp ho with rfl | ho <;> rcases (hopened p).mp hp with rfl | hp
    · rfl
    · exact absurd he.symm (hfresh hp)
    · exact absurd he (hfresh ho)
    · exact h.distinct o p ho hp he

/-- **Every `Change` keeps the two in agreement**, whether it opens, closes, or neither. -/
theorem Agrees.change (h : s.Agrees) (hc : s.Change t) : t.Agrees := by
  cases hc with
  | steady _ hsettings hobjects hopened =>
    exact h.congr hsettings hobjects (fun o ho => (hopened o).mp ho)
      fun _ k _ hk _ => (hopened k).mpr hk
  | opened _ hsettings hopened hparent hdescribes hopens =>
    exact h.insert hparent hdescribes hsettings hopens hopened
  | @closed o _ handles _ hsettings ho hlast hsession hapart hobjects hopened =>
    have hkeep (p k : Opening) (hp : handles.Opened p.handle p.context p.stamp) (hk : s.Holds k)
        (hparent : p.context.parent = some k.handle) :
        handles.Opened k.handle k.context k.stamp := by
      refine (hopened k).mpr ⟨hk, ?_⟩
      rintro rfl
      exact hlast p ((hopened p).mp hp).1 hparent
    rcases hobjects with hobjects | hremoves
    · exact h.congr hsettings hobjects (fun p hp => ((hopened p).mp hp).1) hkeep
    refine ⟨h.unit_eq.trans (by rw [hsettings]), fun hid => ?_, fun p hp => ?_,
      fun p q hp hq => ?_⟩
    · -- What stays open at the client has not been removed at the engine.
      exact (hremoves _ _).mpr ⟨h.session_live hid, hsession⟩
    · obtain ⟨hheld, hne⟩ := (hopened p).mp hp
      obtain ⟨parent, object, hreaches, hfound, hdescribes⟩ := h.stands p hheld
      exact ⟨parent, object, hreaches.mono rfl fun k hk hparent => hkeep p k hp hk hparent,
        (hremoves _ _).mpr ⟨hfound, hapart p hheld hne⟩, hdescribes⟩
    · exact h.distinct p q ((hopened p).mp hp).1 ((hopened q).mp hq).1
  | ended _ hsettings hnone =>
    exact ⟨h.unit_eq.trans (by rw [hsettings]), fun hid => absurd rfl hid,
      fun o ho => absurd ho (hnone o), fun o _ ho => absurd ho (hnone o)⟩

/-- **The engine knows every handle that a `Move` asks it about**, unless a fault says otherwise. -/
theorem Move.denied {r : Except ClientError Unit} (hm : Move s r t) (h : s.Agrees) (hs : s.Sound)
    (hr : r = .error (.engine Reason.unknownHandle.toError)) :
    Denied s.transport t.transport := by
  -- A handle that the session names is live in the engine, so only a fault can say that it is unknown.
  cases hm with
  | request hrequest =>
    cases hrequest with
    | refused hne => exact absurd hr (hne _)
    | sent _ hserves => exact (h.delivery hs.lawful _ _ _).denied (h.finds_serves hs hserves) hr
  | openService hp ha =>
    have hfinds := (h.parent hs hp).2
    cases ha with
    | full => cases hr
    | refused hx =>
      cases hr
      exact (h.delivery hs.lawful _ _ _).denied hfinds hx
    | opened => cases hr
  | closeHandle ho =>
    obtain ⟨handles, hrun, -⟩ := run_closeHandle_of_holds hs.wellFormed ho
    rw [hrun] at hr ⊢
    exact (h.delivery hs.lawful _ _ _).denied (h.finds_closing hs ho) hr
  | closeSession hid =>
    exact (h.delivery hs.lawful .closeSession _ _).denied (h.session_live hid) hr

/-- **Moves keep the two in agreement**, and the engine knows every handle: an unknown one is among the
outcomes of `Moves` only if an exchange of the run was `Denied`. -/
theorem Moves.agrees {outcomes : List (Except ClientError Unit)} (hm : Moves s outcomes t)
    (h : s.Agrees) (hs : s.Sound) : t.Agrees ∧ Follows s.transport t.transport ∧
      (.error (.engine Reason.unknownHandle.toError) ∈ outcomes →
        Denied s.transport t.transport) := by
  -- By induction on the moves: a denial in the first is not undone by the rest, and one in the rest was
  -- not there before.
  induction hm with
  | nil => exact ⟨h, .refl _, fun hmem => absurd hmem List.not_mem_nil⟩
  | cons hmove _ ih =>
    have hchange := hmove.change h hs
    obtain ⟨hagrees, hrest, hdenied⟩ := ih (h.change hchange) (hmove.sound hs)
    refine ⟨hagrees, hchange.follows.trans hrest, fun hmem => ?_⟩
    rcases List.mem_cons.mp hmem with hr | hmem
    · exact (hmove.denied h hs hr.symm).followed hrest
    · exact (hdenied hmem).preceded hchange.follows

/-! ## (5) Coming up -/

/-- **Coming up opens a session first.** Unless it does, nothing happens to the objects. -/
theorem run_establish_cases (hl : s.channel.table.Lawful)
    (hunit : s.channel.unit = s.transport.machine.engine.settings.unit)
    (configuration : Configuration) :
    (∃ e transport, (establish configuration).run s = (.error e, { s with transport }) ∧
      transport.machine.engine.objects = s.objects) ∨
    ∃ identifier transport, transport.machine.engine.settings = s.transport.machine.engine.settings ∧
      transport.closed = false ∧
      Engine.Opens s.objects identifier .session transport.machine.engine.objects ∧
      (establish configuration).run s = furnish configuration { s with transport, identifier } := by
  have hdelivery := Device.delivery hl .openSession 0
    (.openSession { request := configuration.session }) hunit
  rw [run_establish]
  simp only [process_eq]
  rcases hx : (s.channel.process Command.openSession.code 0
    (.openSession { request := configuration.session })).run s.transport with ⟨⟨e | _, a⟩, transport⟩
  all_goals rw [hx] at hdelivery
  · -- A session that the client was not told of has not been opened.
    refine Or.inl ⟨e, transport, rfl, ?_⟩
    rcases hdelivery.openingSession rfl with ⟨-, hobjects⟩ | ⟨_, hok, -⟩
    · exact hobjects
    · cases hok
  · rcases hdelivery.openingSession rfl with ⟨⟨_, he⟩, -⟩ | ⟨identifier, -, hanswer, hopens⟩
    · cases he
    have hopened : openedSession? a = some identifier := by
      cases a with
      | openSession a => exact hanswer
      | _ => cases hanswer
    have hclosed : s.transport.closed = false := closed_eq_false_of_ok (by rw [hx])
    refine Or.inr ⟨identifier, transport, hdelivery.settings_eq,
      hdelivery.follows.closed_eq.trans hclosed, hopens, ?_⟩
    dsimp only
    rw [hopened]
    exact if_neg hopens.2.1

/-- A session that has just opened `Agrees` with the engine: it holds no service yet, and its own object
is the one that `Engine.Opens` adds. -/
theorem agrees_of_opens {transport : Device} {identifier : UInt32} (hnone : ∀ o, ¬s.Holds o)
    (hunit : s.channel.unit = transport.machine.engine.settings.unit)
    (hopens : Engine.Opens s.objects identifier .session transport.machine.engine.objects) :
    Agrees { s with transport, identifier } where
  unit_eq := hunit
  session_live _ := hopens.found
  stands o ho := absurd ho (hnone o)
  distinct o _ ho := absurd ho (hnone o)

/-- **What such changes preserve, furnishing preserves**, if it is about sessions in agreement with
their engine. -/
theorem furnish_induction {p : Session Device → Prop} (configuration : Configuration)
    (hl : s.channel.table.Lawful) (hwf : s.handles.WellFormed) (hs : p s)
    (hagrees : ∀ t, p t → t.Agrees)
    (hchange : ∀ t u, p t → t.Change u → u.identifier = t.identifier → p u)
    (hfields : ∀ (t : Session Device) window keyStore, p t → p { t with window, keyStore }) :
    p (Session.furnish configuration s).2 := by
  refine (furnish_preserves (p := fun t => t.channel.table.Lawful ∧ t.handles.WellFormed ∧ p t)
    configuration ⟨hl, hwf, hs⟩ ?_ ?_ ?_ ?_).2.2
  · rintro t ⟨hl, hwf, ht⟩
    have hdelivery := (hagrees t ht).delivery hl .sharedBuffer t.identifier (.sharedBuffer ⟨0, 0⟩)
    exact ⟨hl, hwf, hchange t _ ht (.steady hdelivery.follows hdelivery.settings_eq
      (hdelivery.objects_eq rfl) fun _ => Iff.rfl) rfl⟩
  · rintro t window ⟨hl, hwf, ht⟩
    -- The window is a matter of memory, not of the engine.
    have hcore := core_configureWindow t.transport window.offset.toUInt32 window.size.toUInt32
    have hengine := engine_of_core_eq hcore
    exact ⟨hl, hwf, hfields _ window t.keyStore (hchange t _ ht (.steady (follows_of_core_eq hcore)
      (by rw [hengine]) (by rw [hengine, objects]) fun _ => Iff.rfl) rfl)⟩
  · rintro t ⟨hl, hwf, ht⟩
    have ha := acquired_acquire (s := t) .keyStore none t.identifier (keyStoreOpening configuration)
      hwf
    have hparent : t.Reaches none t.identifier := rfl
    exact ⟨ha.channel_eq ▸ hl, ha.wellFormed hwf,
      hchange t _ ht ((hagrees t ht).change_of_acquired hl rfl hparent ha) ha.identifier_eq⟩
  · rintro t handle ⟨hl, hwf, ht⟩
    exact ⟨hl, hwf, hfields t t.window (some handle) ht⟩

/-- Furnishing a session with `furnish` keeps it in agreement with the engine, whether it comes to the end
or not. -/
theorem Agrees.furnish (h : s.Agrees) (hl : s.channel.table.Lawful) (hwf : s.handles.WellFormed)
    (configuration : Configuration) : (Session.furnish configuration s).2.Agrees :=
  furnish_induction configuration hl hwf h (fun _ h => h) (fun _ _ h hc _ => h.change hc)
    fun _ _ _ h => ⟨h.unit_eq, h.session_live, h.stands, h.distinct⟩

/-- **A session that `startWith` has started agrees with the engine.** -/
theorem agrees_startWith {d : Device} {configuration : Configuration} {table : DispatchTable}
    {tableId : UInt32} (hl : table.Lawful)
    (hunit : configuration.unit = d.machine.engine.settings.unit)
    (h : startWith d configuration table tableId = .ok s) : s.Agrees := by
  have hs := sound_initial d configuration tableId hl
  rcases run_establish_cases (s := initial d configuration table tableId) hl hunit configuration with
    ⟨e, transport, hrun, -⟩ | ⟨identifier, transport, hsettings, -, hopens, hrun⟩
  all_goals rw [startWith_eq_ok_iff, hrun] at h
  · cases h
  · have hagrees := (agrees_of_opens (hs.idle rfl).2 (hunit.trans (by rw [hsettings]; rfl))
      hopens).furnish hl hs.wellFormed configuration
    rw [h] at hagrees
    exact hagrees

/-! ## (6) Runs -/

/-- Runs keep the two in agreement, whatever faults are injected on the way: `Agrees` at the start of a
`Run` gives `Agrees` at its end. -/
theorem Run.agrees (hrun : Run Injecting s t) (hs : s.Sound) (h : s.Agrees) : t.Agrees := by
  refine (hrun.induction (p := fun t => t.Sound ∧ t.Agrees) ⟨hs, h⟩ ?_ ?_).2
  · rintro i t ⟨hs, h⟩
    obtain ⟨outcomes, hmoves, -⟩ := hs.perform i
    exact ⟨hmoves.sound hs, (hmoves.agrees h hs).1⟩
  · rintro t _ ⟨fault, rfl⟩ ⟨hs, h⟩
    exact ⟨hs.withTransport _, h.withTransport rfl rfl⟩

/-- **What handles resolve to is open at the engine.** This is `Agrees` told by looking handles up, with
`HandleTable.resolve` at the client and `find?` among the objects of the engine. -/
structure Consistent (s : Session Device) : Prop where
  /-- An open session is a session of the engine. -/
  session_live : s.identifier ≠ 0 → s.objects.find? s.identifier = some .session
  /-- What a handle stands for is open at the engine, on what it was opened on. -/
  resolves : ∀ handle context, s.handles.resolve handle = .ok context → ∃ parent object,
    s.objects.find? context.engineHandle = some object ∧ context.kind.Describes parent object ∧
      match context.parent with
      | none => parent = s.identifier
      | some on => ∃ k, s.handles.resolve on = .ok k ∧ k.engineHandle = parent
  /-- Different handles stand for different objects. -/
  distinct : ∀ a b context context', s.handles.resolve a = .ok context →
    s.handles.resolve b = .ok context' → a ≠ b → context.engineHandle ≠ context'.engineHandle

/-- Agreement implies what can be told by looking handles up at both ends, as a handle resolves just to
what the session `Holds`. -/
theorem Agrees.consistent (h : s.Agrees) : s.Consistent where
  session_live := h.session_live
  resolves handle context hr := by
    obtain ⟨stamp, ho⟩ := HandleTable.resolve_eq_ok_iff.mp hr
    obtain ⟨parent, object, hreaches, hfound, hdescribes⟩ := h.stands ⟨handle, context, stamp⟩ ho
    refine ⟨parent, object, hfound, hdescribes, ?_⟩
    dsimp only at hreaches
    cases hparent : context.parent with
    | none =>
      rw [hparent] at hreaches
      exact hreaches
    | some on =>
      rw [hparent] at hreaches
      obtain ⟨k, hk, rfl, haddress⟩ := hreaches
      exact ⟨k.context, HandleTable.resolve_eq_ok_iff.mpr ⟨k.stamp, hk⟩, haddress⟩
  distinct a b context context' ha hb hne he := by
    obtain ⟨n, ho⟩ := HandleTable.resolve_eq_ok_iff.mp ha
    obtain ⟨m, hp⟩ := HandleTable.resolve_eq_ok_iff.mp hb
    exact hne (congrArg Opening.handle (h.distinct ⟨a, context, n⟩ ⟨b, context', m⟩ ho hp he))

/-- **Client and engine agree** in every state that a session over a device reaches, whatever is asked of
it and whatever faults are injected; no `Instruction` is told that a handle is unknown, unless a fault
says so. -/
theorem handles_agree {d : Device} {configuration : Configuration} {sets : List FamilySet}
    {tableId : UInt32} {start s : Session Device}
    (hunit : configuration.unit = d.machine.engine.settings.unit)
    (hstart : startWith d configuration (.enabling sets) tableId = .ok start)
    (hrun : Run Injecting start s) :
    s.Consistent ∧ ∀ i : Instruction,
      (i.perform s).1 = .error (.engine Reason.unknownHandle.toError) →
        Denied s.transport (i.perform s).2.transport := by
  have hl := DispatchTable.lawful_enabling sets
  have hsound := (sound_startWith hl hstart).1
  have hs := hrun.sound hsound
  have hagrees := hrun.agrees hsound (agrees_startWith hl hunit hstart)
  refine ⟨hagrees.consistent, fun i hi => ?_⟩
  -- The error was the outcome of one move, unless a cipher reported a general error for it.
  obtain ⟨outcomes, hmoves, herror⟩ := hs.perform i
  refine (hmoves.agrees hagrees hs).2.2 ((herror _ hi).resolve_left fun he => ?_)
  exact absurd (Reason.toError_inj.mp he) (by decide)

/-- On a new device, client and engine agree after a hash service has been opened and a fault
injected. -/
theorem handles_agree_standard : ∃ start : Session Device,
    startWith { machine := { engine := .start {} } } {} (.enabling [.full]) 1 = .ok start ∧
      Consistent { ((Instruction.openService .hash).perform start).2 with
        transport := ((Instruction.openService .hash).perform start).2.transport.inject
          .transportFailure } := by
  obtain ⟨start, hstart⟩ := exists_startWith
  exact ⟨start, hstart, (handles_agree rfl hstart
    (.change ⟨_, rfl⟩ (.perform (.openService .hash) .refl))).1⟩

end Session

end SecureEngine
