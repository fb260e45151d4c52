import SecureEngine.Proofs.Delivery

/-! # Reachable devices

* **`Rooted`** — what an object was opened on is open.
* **`Engine.effect_execute`** — any request, whoever made it, changes no object or has the effect of a
  command.
* **`Device.Reachable`** — the states that a device can get into, whatever is sent to it.
* **`Device.Reachable.rooted`** — in all of them the objects are rooted. -/

namespace SecureEngine

variable {objects after : IdMap EngineObject} {root handle : UInt32}

/-! ## (1) Rooted objects -/

/-- **What an object was opened on is open**: every handle that `parentOf?` gives is found. -/
def Rooted (objects : IdMap EngineObject) : Prop :=
  ∀ handle parent, parentOf? objects handle = some parent → (objects.find? parent).isSome

/-- Nothing is open at the start, so there is nothing without a root: `Rooted` holds of `IdMap.empty`. -/
theorem rooted_empty : Rooted .empty := nofun

/-- Opening something on what is open keeps the objects `Rooted`. -/
theorem Rooted.opens {object : EngineObject} (h : Rooted objects)
    (hopens : Engine.Opens objects handle object after)
    (hparent : ∀ parent, object.parent? = some parent → (objects.find? parent).isSome) :
    Rooted after := by
  intro a parent ha
  obtain ⟨o, hfound, ho⟩ := Option.bind_eq_some_iff.mp ha
  -- The parent of the new object is there, and so are those of the others.
  have hlive : (objects.find? parent).isSome := by
    rcases hopens.eq_or_find? hfound with ⟨-, rfl⟩ | hfound
    · exact hparent parent ho
    · exact h a parent ((parentOf?_of_find? hfound).trans ho)
  obtain ⟨p, hp⟩ := Option.isSome_iff_exists.mp hlive
  rw [hopens.kept hp]
  rfl

/-- What stays keeps its parent: outside the tree that `Removes` takes away, `parentOf?` gives what it
gave. -/
theorem Engine.Removes.parentOf?_eq (h : Engine.Removes objects root after) {a parent : UInt32}
    (ha : parentOf? objects a = some parent) (hb : ¬Below objects root a) :
    parentOf? after a = some parent := by
  obtain ⟨object, hfound, hparent⟩ := Option.bind_eq_some_iff.mp ha
  rw [parentOf?_of_find? ((h a object).mpr ⟨hfound, hb⟩), hparent]

/-- Nothing gets a parent by a removal: what `parentOf?` gives afterwards it gave before, outside the
tree. -/
theorem Engine.Removes.of_parentOf?_eq (h : Engine.Removes objects root after) {a parent : UInt32}
    (ha : parentOf? after a = some parent) :
    parentOf? objects a = some parent ∧ ¬Below objects root a := by
  obtain ⟨object, hfound, hparent⟩ := Option.bind_eq_some_iff.mp ha
  obtain ⟨hfound, hb⟩ := (h a object).mp hfound
  exact ⟨(parentOf?_of_find? hfound).trans hparent, hb⟩

/-- **Removing a tree keeps the objects `Rooted`**: what hangs on something removed is removed too. -/
theorem Rooted.removes (h : Rooted objects) (hremoves : Engine.Removes objects root after) :
    Rooted after := by
  intro a parent ha
  obtain ⟨hparent, hb⟩ := hremoves.of_parentOf?_eq ha
  obtain ⟨object, hfound⟩ := Option.isSome_iff_exists.mp (h a parent hparent)
  have hstays := (hremoves parent object).mpr ⟨hfound, fun hp => hb (.step hparent hp)⟩
  rw [hstays]
  rfl

namespace Engine

/-- Under the handle of a key store something is open, which is what `IsKeyStore` says of `find?`. -/
theorem IsKeyStore.isSome (h : IsKeyStore objects handle) : (objects.find? handle).isSome := by
  obtain ⟨parent, identifier, hfound⟩ := h
  rw [hfound]
  rfl

/-- Under the handle of a parent something is open, a session or a key store. -/
theorem IsParent.isSome {kind : Service} (h : IsParent objects kind handle) :
    (objects.find? handle).isSome := by
  unfold IsParent at h
  split at h
  · rw [h]
    rfl
  · exact h.isSome

/-- **Every command keeps the objects `Rooted`.** -/
theorem Effect.rooted {flavor : Flavor} {c : Command} {m : c.Request flavor}
    {response : c.Response flavor} (h : Effect objects after c m response) (hr : Rooted objects) :
    Rooted after := by
  -- What is opened has its parent, which the request found; what is closed takes everything below
  -- along.
  cases c with
  | openSession => exact hr.opens h nofun
  | openKeyStore =>
    refine hr.opens h.2 fun parent hparent => ?_
    cases hparent
    rw [h.1]
    rfl
  | openService kind =>
    refine hr.opens h.2 fun parent hparent => ?_
    cases hparent
    exact h.1.isSome
  | closeSession | closeKeyStore | closeService => exact hr.removes h.2
  | _ =>
    obtain rfl : after = objects := h
    exact hr

/-! ## (2) Requests of anyone -/

/-- Executing a request does to the machine what answering it does: the reply that `Engine.execute` makes
of `answer` changes nothing. -/
theorem machine_execute (request : Bytes) (machine : Machine) :
    ((execute request).run machine).2 = ((answer request).run machine).2 := by
  rw [run_execute]
  rcases (answer request).run machine with ⟨_ | _, _⟩ <;> rfl

/-- A request whose header is not accepted is not answered: `Engine.answer` fails as `accept` does. -/
theorem run_answer_refused {machine : Machine} {request : Bytes} {e : EngineError}
    (haccept : machine.engine.accept request = .error e) :
    (answer request).run machine = (.error e, machine) := by
  rw [answer, run_bind_ok (Handling.run_engine machine)]
  exact run_bind_error (Handling.run_lift_error haccept machine)

/-- **Whatever bytes are executed**, no object changes or a command has its `Effect` on them, whichever
the bytes are read as. -/
theorem effect_execute (request : Bytes) (machine : Machine) :
    ((execute request).run machine).2.engine.objects = machine.engine.objects ∨
      ∃ (c : Command) (m : c.Request machine.engine.settings.flavor)
        (response : c.Response machine.engine.settings.flavor),
        Effect machine.engine.objects ((execute request).run machine).2.engine.objects c m
          response := by
  rw [machine_execute]
  cases haccept : machine.engine.accept request with
  | error e =>
    rw [run_answer_refused haccept]
    exact Or.inl rfl
  | ok c =>
    cases hdecode : c.decodeRequest machine.engine.settings.flavor request with
    | error e =>
      rw [run_answer_unread haccept hdecode]
      exact Or.inl rfl
    | ok m =>
      have h := handled m machine
      rw [run_answer haccept hdecode]
      rcases hrun : (handle machine.engine.settings.flavor c m).run machine with ⟨e | response, t⟩
      all_goals rw [hrun] at h
      · -- A failure changes no object.
        exact Or.inl (h.failed e rfl).1
      · exact Or.inr ⟨c, m, response, h.succeeded response rfl⟩

end Engine

/-! ## (3) Reachable devices -/

namespace Device

/-- **The states that a device can get into**, by whatever is done to it from outside. -/
inductive Reachable : Device → Prop
  | start {settings : EngineSettings} {d : Device} (h : Device.start settings = .ok d) : Reachable d
  | inject {d : Device} (fault : Fault) (h : Reachable d) : Reachable (d.inject fault)
  | exchange {d : Device} (request : Bytes) (size : Nat) (h : Reachable d) :
      Reachable (Transport.sendAndReceive d request size).2
  | buffer {d : Device} (buffer : Bytes) (use : BufferUse) (h : Reachable d) :
      Reachable (Transport.dataBuffer d buffer use).2
  | readBack {d : Device} (address : Address) (out : Bytes) (h : Reachable d) :
      Reachable (Transport.readDataBuffer d address out).2
  | reset {d : Device} (h : Reachable d) : Reachable (Transport.resetDataBuffers d)
  | window {d : Device} (offset size : UInt32) (h : Reachable d) :
      Reachable (Transport.configureWindow d offset size).2
  | close {d : Device} (h : Reachable d) : Reachable (Transport.close d)

/-- Exchanging a request leaves all objects `Rooted`, whatever fault strikes. -/
theorem rooted_exchange {d : Device} (h : Rooted d.machine.engine.objects) (request : Bytes)
    (size : Nat) : Rooted (d.exchange request size).2.machine.engine.objects := by
  have hx := exchanged d request size
  -- The result and the device after the exchange vary together.
  revert hx
  generalize d.exchange request size = x
  intro hx
  obtain ⟨r, t⟩ := x
  cases hx with
  | closed | failed | rejected => exact h
  | executed hrun =>
    have heffect := Engine.effect_execute request d.machine
    rw [hrun] at heffect
    rcases heffect with hobjects | ⟨c, m, response, heffect⟩
    · dsimp only at hobjects ⊢
      rw [hobjects]
      exact h
    · exact heffect.rooted h

/-- **The objects of a `Reachable` device are `Rooted`.** -/
theorem Reachable.rooted {d : Device} (h : Reachable d) : Rooted d.machine.engine.objects := by
  -- By induction on how the device was reached: only an exchange changes objects.
  induction h with
  | start h =>
    unfold Device.start at h
    dsimp only at h
    split at h
    · cases h
    split at h
    · cases h
    · cases h
      exact rooted_empty
  | inject _ _ ih | readBack _ _ _ ih | reset _ ih | close _ ih => exact ih
  | exchange request size _ ih => exact rooted_exchange ih request size
  | buffer buffer use _ ih =>
    rw [engine_of_core_eq (core_dataBuffer _ buffer use)]
    exact ih
  | window offset size _ ih =>
    rw [engine_of_core_eq (core_configureWindow _ offset size)]
    exact ih

end Device

end SecureEngine
