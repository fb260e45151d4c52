import SecureEngine.Proofs.Operative

/-! # The two layouts of signing

Signing is laid out differently by the two generations of firmware, but it is the same task for both.

* **`Unnoticed`** — a computation does not notice a change of its state.
* **`Engine.withFlavor`**, **`Device.withFlavor`** — an engine and a device with other firmware.
* **`Engine.SignTask.request`** — the request for a task in either layout; **`Engine.handle_request`** — its
  handler does the task.
* **`stageSigning`** — the steps of a preparation, which do not depend on the layout.
* **`Device.Swapped`**, **`Device.swapped_exchange`** — how the request for a task is exchanged, in both
  layouts side by side.
* **`Engine.run_execute_foreign`**, **`Device.declined_exchange`** — firmware does not read the layout of the
  other one. -/

namespace SecureEngine

/-! ## (1) Changes of state that go unnoticed -/

section

variable {ε σ α β : Type} {g : σ → σ}

/-- **A computation does not notice a change of its state**: the result is the same, and the change is still
there afterwards. -/
def Unnoticed (g : σ → σ) (x : ExceptT ε (StateM σ) α) : Prop :=
  ∀ s, x.run (g s) = ((x.run s).1, g (x.run s).2)

/-- A value that is just returned with `pure` is returned whatever the state is. -/
theorem unnoticed_pure (a : α) : Unnoticed g (pure a : ExceptT ε (StateM σ) α) := fun _ => rfl

/-- Two computations in a row do not notice a change that neither of them notices: it is still there
between them. -/
theorem unnoticed_bind {x : ExceptT ε (StateM σ) α} {f : α → ExceptT ε (StateM σ) β}
    (hx : Unnoticed g x) (hf : ∀ a, Unnoticed g (f a)) : Unnoticed g (x >>= f) := by
  intro s
  rw [run_bind, run_bind, hx s]
  rcases x.run s with ⟨e | a, t⟩
  · rfl
  · exact hf a t

end

/-! ## (2) Firmware -/

/-- The engine with other firmware: its settings have another `Flavor`, and everything else is as
before. -/
def Engine.withFlavor (engine : Engine) (flavor : Flavor) : Engine :=
  { engine with settings := { engine.settings with flavor } }

/-- The machine with other firmware on its engine, by `Engine.withFlavor`, and the same memory. -/
def Machine.withFlavor (machine : Machine) (flavor : Flavor) : Machine :=
  { machine with engine := machine.engine.withFlavor flavor }

/-- **The device with other firmware**, by `Machine.withFlavor`. Nothing else is different. -/
def Device.withFlavor (d : Device) (flavor : Flavor) : Device :=
  { d with machine := d.machine.withFlavor flavor }

/-- `Machine.noting` has nothing to do with the firmware, so the two may be done in either order. -/
theorem Machine.noting_withFlavor (machine : Machine) (flavor : Flavor) (overflows : Bool) :
    (machine.withFlavor flavor).noting overflows = (machine.noting overflows).withFlavor flavor := by
  cases overflows <;> rfl

namespace Handling

variable {α : Type} {flavor : Flavor}

/-- A look-up taken into a handler does not notice the firmware of the engine. -/
theorem unnoticed_lift (r : Except EngineError α) : Unnoticed (·.withFlavor flavor) (lift r) :=
  fun _ => rfl

/-- A `known` does not notice the firmware, whether there is a value or not. -/
theorem unnoticed_known (a : Option α) (r : Reason) : Unnoticed (·.withFlavor flavor) (known a r) := by
  cases a <;> exact fun _ => rfl

/-- A `demand` does not notice the firmware, whether it is met or not. -/
theorem unnoticed_demand (condition : Bool) (r : Reason) :
    Unnoticed (·.withFlavor flavor) (demand condition r) := by
  cases condition <;> exact fun _ => rfl

/-- Loading with `load` is a matter of the memory, and does not notice the firmware. -/
theorem unnoticed_load (address : Address) (n : Nat) :
    Unnoticed (·.withFlavor flavor) (load address n) := by
  intro m
  have hmemory : (m.withFlavor flavor).memory = m.memory := rfl
  rw [run_load, run_load, hmemory, Machine.noting_withFlavor]

/-- Storing with `store` is a matter of the memory, and does not notice the firmware. -/
theorem unnoticed_store (address : Address) (data : Bytes) :
    Unnoticed (·.withFlavor flavor) (store address data) := by
  intro m
  have hmemory : (m.withFlavor flavor).memory = m.memory := rfl
  rw [run_store, run_store, hmemory, Machine.noting_withFlavor]
  cases m.memory.store address data <;> rfl

end Handling

/-! ## (3) The engine -/

namespace Engine

open Handling

/-- Keys are looked up whatever the firmware is: `Engine.serviceStore` sees objects and key stores. -/
theorem unnoticed_serviceKey {flavor : Flavor} (service : UInt32) (kind : Service) (key : UInt32) :
    Unnoticed (·.withFlavor flavor) (serviceKey service kind key) := by
  intro m
  have hengine (n : Machine) : engine.run n = (.ok n.engine, n) := rfl
  have hstore : (m.withFlavor flavor).engine.serviceStore service kind =
      m.engine.serviceStore service kind := rfl
  rw [serviceKey, run_bind_ok (hengine _), run_bind_ok (hengine m), hstore]
  exact unnoticed_bind (unnoticed_lift _) (fun _ => unnoticed_lift _) m

/-- **Signing does not depend on the firmware**, from the look-up of the key to the store of the
signature. -/
theorem unnoticed_sign {flavor : Flavor} (task : SignTask) :
    Unnoticed (·.withFlavor flavor) (sign task) := by
  refine unnoticed_bind (unnoticed_serviceKey _ _ _) fun _ => ?_
  refine unnoticed_bind (unnoticed_demand _ _) fun _ => ?_
  refine unnoticed_bind (unnoticed_demand _ _) fun _ => ?_
  refine unnoticed_bind (unnoticed_load _ _) fun _ => ?_
  refine unnoticed_bind (unnoticed_known _ _) fun _ => ?_
  exact unnoticed_bind (unnoticed_store _ _) fun _ => unnoticed_pure _

/-- **A signature has the size of its scheme**, so the number that `sign` returns is that size. -/
theorem toNat_of_sign {task : SignTask} {machine after : Machine} {n : UInt16}
    (h : (sign task).run machine = (.ok n, after)) : n.toNat = task.scheme.signatureSize := by
  unfold sign at h
  -- The result comes after the key, two demands, the message, the signature and its storing.
  obtain ⟨key, _, -, h⟩ := run_bind_eq_ok_iff.mp h
  obtain ⟨_, _, -, h⟩ := run_bind_eq_ok_iff.mp h
  obtain ⟨_, _, -, h⟩ := run_bind_eq_ok_iff.mp h
  obtain ⟨message, _, -, h⟩ := run_bind_eq_ok_iff.mp h
  obtain ⟨signature, _, hsignature, h⟩ := run_bind_eq_ok_iff.mp h
  obtain ⟨_, _, -, h⟩ := run_bind_eq_ok_iff.mp h
  cases h
  have hlength := Curve.length_of_sign? (eq_some_of_run_known hsignature)
  have hsmall : task.scheme.signatureSize < UInt16.size := by cases task.scheme <;> decide
  rw [hlength]
  exact UInt16.toNat_ofNat_of_lt' hsmall

namespace SignTask

/-- **The request for a task** in either layout: the fields of a `SignTask` where the `Flavor` has
them. -/
def request (task : SignTask) : (flavor : Flavor) → Command.sign.Request flavor
  | .legacy =>
    { service := task.service, key := task.key, messageAddress := task.messageAddress,
      signatureAddress := task.signatureAddress, messageSize := task.messageSize,
      signatureSize := task.signatureSize, scheme := task.scheme.legacyId, flags := task.flags }
  | .psa =>
    { service := task.service, key := task.key, messageAddress := task.messageAddress,
      signatureAddress := task.signatureAddress, messageSize := task.messageSize,
      signatureSize := task.signatureSize, flags := task.flags, scheme := task.scheme.psaId }

/-- **The response to a task**: legacy firmware does not tell the size of the signature. -/
def response (n : UInt16) : (flavor : Flavor) → Command.sign.Response flavor
  | .legacy => ()
  | .psa => { size := n }

end SignTask

/-- **The handler of a request does the task that it was made for**, in either layout. -/
theorem handle_request (task : SignTask) (flavor : Flavor) :
    handle flavor .sign (task.request flavor) = (SignTask.response · flavor) <$> sign task := by
  open SignTask in
  -- Either firmware reads the task back out of the request that was made from it.
  cases flavor with
  | legacy =>
    have htask : ofLegacy? (task.request .legacy) = some task := by
      rw [ofLegacy?, request, SignatureScheme.ofLegacyId?_legacyId]
      rfl
    change signLegacy (task.request .legacy) = _
    rw [signLegacy, htask, known, pure_bind, bind_pure_comp]
  | psa =>
    have htask : ofPsa? (task.request .psa) = some task := by
      rw [ofPsa?, request, SignatureScheme.ofPsaId?_psaId]
      rfl
    change signPsa (task.request .psa) = _
    rw [signPsa, htask, known, pure_bind, bind_pure_comp]
    rfl

/-- **The frame of the request for a task**, in either layout: `Channel.frame` of `SignTask.request`. -/
def SignTask.frame (task : SignTask) (channel : Channel) (flavor : Flavor) : Bytes :=
  (channel.withFlavor flavor).frame Command.sign.code (task.request flavor)

/-- An engine of any firmware names the frame of a task by the command that signs. -/
theorem SignTask.commandByte_frame (task : SignTask) (channel : Channel) (flavor : Flavor) :
    commandByte (task.frame channel flavor) = Command.sign.code :=
  (channel.withFlavor flavor).commandByte_frame (c := .sign) (task.request flavor)

/-- **Executing a request for a task** in the layout of the engine comes to the same for either firmware,
but for the layout of the response. -/
theorem exists_executed (channel : Channel) (machine : Machine) (task : SignTask) :
    ∃ (result : Except EngineError UInt16) (after : Machine),
      (∀ n, result = .ok n → n.toNat = task.scheme.signatureSize) ∧
      ∀ flavor, (execute (task.frame channel flavor)).run (machine.withFlavor flavor) =
        (after.engine.replyOf .sign (result.map (SignTask.response · flavor)),
          after.withFlavor flavor) := by
  have haccept (flavor : Flavor) : (machine.withFlavor flavor).engine.accept (task.frame channel flavor) =
      if channel.unit.version = machine.engine.settings.unit.version ∧
          channel.unit.commandTag = machine.engine.settings.unit.commandTag then .ok .sign
      else .error Reason.invalidMessage.toError :=
    (machine.withFlavor flavor).engine.accept_frame_eq (channel.withFlavor flavor) (c := .sign)
      (task.request flavor)
  by_cases hunit : channel.unit.version = machine.engine.settings.unit.version ∧
      channel.unit.commandTag = machine.engine.settings.unit.commandTag
  · rcases hsign : (sign task).run machine with ⟨result, after⟩
    refine ⟨result, after, fun n hn => toNat_of_sign (hn ▸ hsign), fun flavor => ?_⟩
    have hhandle : (handle flavor .sign (task.request flavor)).run (machine.withFlavor flavor) =
        (result.map (SignTask.response · flavor), after.withFlavor flavor) := by
      rw [handle_request, run_map, unnoticed_sign task machine, hsign]
      cases result <;> rfl
    exact run_execute_accepted (channel.withFlavor flavor) (task.request flavor)
      ((haccept flavor).trans (if_pos hunit)) rfl hhandle
  · -- With other header values, neither layout is accepted.
    refine ⟨.error Reason.invalidMessage.toError, machine, nofun, fun flavor => ?_⟩
    rw [run_execute, run_answer_refused ((haccept flavor).trans (if_neg hunit)), task.commandByte_frame]
    rfl

end Engine

/-! ## (4) The request -/

section

variable {σ : Type} [Transport σ]

/-- **The steps of a preparation that signs**: they come to a task and the `Address` of the signature. -/
def stageSigning (handle : UInt32) (a : SignOperation) :
    Registering σ (Engine.SignTask × Option Address) := do
  let messageSize ← Registering.check (wordSize .message a.message)
  let signatureSize ← Registering.check (halfSize .signatureBuffer a.signature)
  let message ← register a.message { input := true }
  let signature ← register a.signature { output := true }
  return ({ service := handle, key := a.key, messageAddress := (wireAddress message).low,
            signatureAddress := (wireAddress signature).low, messageSize, signatureSize,
            scheme := a.scheme, flags := a.flags }, signature)

/-- **Preparing a request with `prepare` is staging it**, and laying out the task that comes of it. -/
theorem prepare_sign_eq (flavor : Flavor) (handle : UInt32) (a : SignOperation) :
    (Command.sign.prepare flavor handle (.sign a) : Registering σ (Prepared flavor .sign)) =
      (fun p => ⟨p.1.request flavor, p.2⟩) <$> stageSigning handle a := by
  rw [Command.prepare]
  unfold prepareSigning stageSigning
  simp only [map_bind, map_pure]
  cases flavor <;> rfl

end

namespace Registering

variable {α : Type} {flavor : Flavor}

/-- A check of the arguments does not notice the firmware of the device: `check` is `Unnoticed`. -/
theorem unnoticed_check (r : Except ClientError α) :
    Unnoticed (·.withFlavor flavor) (check r : Registering Device α) := by
  cases r <;> exact fun _ => rfl

/-- Registering a buffer does not notice the firmware of the device: `register` is `Unnoticed`. -/
theorem unnoticed_register (buffer : Bytes) (use : BufferUse) :
    Unnoticed (·.withFlavor flavor) (register buffer use : Registering Device (Option Address)) := by
  intro d
  unfold register
  split
  · rfl
  · have hmemory : (d.withFlavor flavor).machine.memory = d.machine.memory := rfl
    dsimp only [ExceptT.run, ExceptT.mk, Transport.dataBuffer]
    rw [hmemory]
    cases d.machine.memory.register buffer use <;> rfl

/-- **Staging does not depend on the firmware**: neither the checks nor the places of the buffers do. -/
theorem unnoticed_stageSigning (handle : UInt32) (a : SignOperation) :
    Unnoticed (·.withFlavor flavor)
      (stageSigning handle a : Registering Device (Engine.SignTask × Option Address)) := by
  refine unnoticed_bind (unnoticed_check _) fun _ => unnoticed_bind (unnoticed_check _) fun _ => ?_
  refine unnoticed_bind (unnoticed_register _ _) fun _ => ?_
  exact unnoticed_bind (unnoticed_register _ _) fun _ => unnoticed_pure _

/-- The task is about the scheme of the operation, and the size of its buffer fits the request. -/
theorem staged_of_stageSigning {handle : UInt32} {a : SignOperation} {task : Engine.SignTask}
    {output : Option Address} {d t : Device}
    (h : (stageSigning handle a).run d = (.ok (task, output), t)) :
    task.scheme = a.scheme ∧ a.signature.length < UInt16.size := by
  unfold stageSigning at h
  obtain ⟨_, _, -, h⟩ := run_bind_eq_ok_iff.mp h
  obtain ⟨_, _, hsize, h⟩ := run_bind_eq_ok_iff.mp h
  obtain ⟨_, _, -, h⟩ := run_bind_eq_ok_iff.mp h
  obtain ⟨_, _, -, h⟩ := run_bind_eq_ok_iff.mp h
  cases h
  -- A buffer that is too large for its field would have been refused before staging.
  refine ⟨rfl, Decidable.byContradiction fun hlarge => ?_⟩
  rw [halfSize, if_neg hlarge] at hsize
  cases hsize

end Registering

/-! ## (5) The exchange -/

namespace Device

variable {d : Device} {flavor : Flavor}

/-- Faults are queued and taken whatever the firmware is: `Device.takeFault` does the same
`withFlavor`. -/
theorem takeFault_withFlavor (d : Device) (flavor : Flavor) (p : Fault → Bool) :
    (d.withFlavor flavor).takeFault p = (d.takeFault p).map fun x => (x.1, x.2.withFlavor flavor) := by
  unfold takeFault
  rw [Option.map_map]
  rfl

/-- **How a signing request is exchanged**, with the result and the device afterwards in either layout. -/
inductive Swapped (scheme : SignatureScheme)
    (exchange : Flavor → (Except TransportError Unit × Bytes) × Device) : Prop
  | failed (t : Device) (written : Flavor → Bytes)
      (h : ∀ flavor, exchange flavor = ((.error failure, written flavor), t.withFlavor flavor))
  | answered (t : Device) (result : Except EngineError UInt16)
      (hsize : ∀ n, result = .ok n → n.toNat = scheme.signatureSize)
      (h : ∀ flavor, exchange flavor = ((.ok (), (t.machine.engine.replyOf .sign
        (result.map (Engine.SignTask.response · flavor))).bytes.take (Command.sign.responseSize flavor)),
        t.withFlavor flavor))

/-- A response without a checksum is sent as it is, since `corrupted` only damages one that has it. -/
theorem execute_of_unsealed {request : Bytes} {reply : Engine.Reply} {machine : Machine}
    (hrun : (Engine.execute request).run d.machine = (reply, machine)) (h : reply.isSealed = false) :
    d.execute request = (reply.bytes, { d with machine }) := by
  unfold execute
  rw [hrun]
  dsimp only
  rw [if_neg (by rw [h]; exact Bool.false_ne_true)]

/-- **How a device of either firmware exchanges a request for a task**: faults strike alike, and the
responses tell of the same result. -/
theorem swapped_exchange (channel : Channel) (d : Device) (task : Engine.SignTask) :
    Swapped task.scheme fun flavor =>
      (d.withFlavor flavor).exchange (task.frame channel flavor) (Command.sign.responseSize flavor) := by
  by_cases hclosed : d.closed = true
  · exact .failed d (fun _ => []) fun flavor => if_pos hclosed
  have hexchange (flavor : Flavor) (size : Nat) :
      (d.withFlavor flavor).exchange (task.frame channel flavor) size = _ := if_neg hclosed
  simp only [task.commandByte_frame channel] at hexchange
  -- The queue of faults is the same, so the same fault strikes, or none.
  generalize hlogged : ({ d with log := d.log ++ [Command.sign.code] } : Device) = logged
  have hlog (flavor : Flavor) : ({ d.withFlavor flavor with
      log := (d.withFlavor flavor).log ++ [Command.sign.code] } : Device) = logged.withFlavor flavor := by
    rw [← hlogged]
    rfl
  simp only [hlog, takeFault_withFlavor] at hexchange
  obtain ⟨result, after, hsize, hrun⟩ := Engine.exists_executed channel logged.machine task
  rcases hfailure : logged.takeFault (· == .transportFailure) with _ | ⟨fault, t⟩
  · rcases hreject : logged.takeFault (Fault.rejects Command.sign.code) with _ | ⟨fault, t⟩
    · refine .answered { logged with machine := after } result hsize fun flavor => ?_
      rw [hexchange, hfailure, hreject]
      have hexecute := execute_of_unsealed (d := logged.withFlavor flavor) (hrun flavor) (by
        cases result <;> rfl)
      dsimp only [Option.map]
      rw [hexecute]
      rfl
    · obtain ⟨hrejects, -⟩ := takeFault_eq_some hreject
      cases fault with
      | reject command e =>
        refine .answered t (.error e) nofun fun flavor => ?_
        rw [hexchange, hfailure, hreject]
        rfl
      | transportFailure | corruptChecksum => cases hrejects
  · refine .failed t (fun flavor => Bytes.overlay
      (List.replicate (Command.sign.responseSize flavor) 0x5A)
      (t.machine.engine.statusReply Command.sign.code ResponseCode.success).bytes) fun flavor => ?_
    rw [hexchange, hfailure]
    rfl

end Device

/-! ## (6) The layout of other firmware -/

/-- **Firmware does not read the layout of the other one**, whatever the message unit of the client, and
nothing changes. -/
theorem Engine.run_execute_foreign (channel : Channel) (machine : Machine)
    (hforeign : machine.engine.settings.flavor ≠ channel.flavor)
    (request : Command.sign.Request channel.flavor) :
    (execute (channel.frame Command.sign.code request)).run machine =
      (machine.engine.statusReply Command.sign.code
        (ResponseCode.failure Reason.invalidMessage.toError), machine) := by
  have haccept := machine.engine.accept_frame_eq channel (c := .sign) request
  rw [run_execute, Channel.commandByte_frame channel (c := .sign) request]
  -- Whether or not the frame is accepted, the error is the same.
  split at haccept
  · rw [run_answer_unread haccept (channel.decodeRequest_frame_foreign hforeign request)]
  · rw [run_answer_refused haccept]

namespace Device

variable {channel : Channel} {d t : Device}

/-- **The faults of a device spare a command**: no request for it is lost or refused unseen. -/
def Spares (d : Device) (c : Command) : Prop :=
  ∀ fault ∈ d.faults, fault ≠ .transportFailure ∧ fault.rejects c.code = false

/-- A request for a command that the faults of a device spare is not `Struck` by one. -/
theorem Spares.not_struck {c : Command} (h : d.Spares c) {request : Bytes}
    (hcommand : Engine.commandByte request = c.code) : ¬d.Struck request := by
  rintro ⟨fault, hmem, hstrikes⟩
  obtain ⟨hexchange, hrejects⟩ := h fault hmem
  rw [hcommand, hrejects] at hstrikes
  exact hstrikes.elim hexchange Bool.false_ne_true

/-- **How a device of other firmware answers a signing request**: with a refusal, if at all. The engine
stays as it is. -/
theorem declined_exchange (hforeign : d.machine.engine.settings.flavor ≠ channel.flavor)
    {request : Command.sign.Request channel.flavor} {size : Nat} {r : Except TransportError Unit × Bytes}
    (hexchange : d.exchange (channel.frame Command.sign.code request) size = (r, t)) :
    t.machine.engine = d.machine.engine ∧
      ((r.1 = .error failure ∧ (t = d ∨ ¬d.Spares .sign)) ∨
        ∃ e, r = (.ok (), (d.machine.engine.statusReply Command.sign.code
          (ResponseCode.failure e)).bytes.take size) ∧
          (d.Spares .sign → e = Reason.invalidMessage.toError)) := by
  have hcommand := Channel.commandByte_frame channel (c := .sign) request
  have hexecute := Engine.run_execute_foreign channel d.machine hforeign request
  have hx := exchanged d (channel.frame Command.sign.code request) size
  rw [hexchange] at hx
  cases hx with
  | closed => exact ⟨rfl, .inl ⟨rfl, .inl rfl⟩⟩
  | failed hs => exact ⟨rfl, .inl ⟨rfl, .inr fun h => h.not_struck hcommand hs⟩⟩
  | rejected hs =>
    exact ⟨rfl, .inr ⟨_, by rw [hcommand], fun h => absurd hs (h.not_struck hcommand)⟩⟩
  | executed hrun hbytes =>
    rw [hexecute] at hrun
    cases hrun
    -- A bare status has no checksum to be damaged.
    obtain rfl | ⟨hsealed, -⟩ := hbytes
    · exact ⟨rfl, .inr ⟨_, rfl, fun _ => rfl⟩⟩
    · cases hsealed

end Device

end SecureEngine
