import SecureEngine.Proofs.Orderly
import SecureEngine.Proofs.Overruns

/-! # Robustness against requests of anyone

An engine answers every byte string with a message of its own, and every access on the way is sound. The
one thing that can go wrong is a sum of an address and a length that does not fit 64 bits.

* **`Engine.Reply.Framed`** — a reply is a message: its header tells its number of words, its command and
  the tag of responses; **`Engine.framed_execute`** — so is every reply.
* **`Engine.Overruns`** — a byte string is read as a request that overruns.
* **`Engine.Robust`**, **`Engine.execute_robust`** — what holds whatever is executed, in every state of
  engine and memory.
* **`Engine.exists_overrun`** — some byte strings do overrun. -/

namespace SecureEngine

/-! ## (1) Replies -/

/-- Responses are made of words, and their number fits the header: `responseSize` is a multiple of 4 below
`4 * UInt8.size`. -/
theorem Command.responseSize_spec (flavor : Flavor) (c : Command) :
    c.responseSize flavor % 4 = 0 ∧ c.responseSize flavor < 4 * UInt8.size := by
  cases c with
  | openService kind | closeService kind => cases kind <;> cases flavor <;> decide
  | _ => cases flavor <;> decide

namespace Engine

/-- **A `Reply` is a message** to a client with some header values, for a command. -/
structure Reply.Framed (unit : Wire.MessageUnit) (command : UInt8) (reply : Reply) : Prop where
  /-- There is room for header and response code. -/
  length_ge : Command.statusSize ≤ reply.bytes.length
  /-- The header tells the number of words. -/
  size_eq : 4 * (Wire.Message.decode reply.bytes : Wire.Header).size.toNat = reply.bytes.length
  version_eq : (Wire.Message.decode reply.bytes : Wire.Header).version = unit.version
  command_eq : (Wire.Message.decode reply.bytes : Wire.Header).command = command
  tag_eq : (Wire.Message.decode reply.bytes : Wire.Header).tag = unit.responseTag
  /-- A reply that ends in a checksum carries the right one. -/
  check_eq : reply.isSealed = true → Checksum.check reply.bytes = .ok ()

/-- A response is a message if it is made of words: then `Engine.reply` is `Framed`, with its number of
words in the header. -/
theorem framed_reply (engine : Engine) (command : UInt8) (isSealed : Bool) {content : Bytes}
    (hcontent : 4 ≤ content.length)
    (hwords : (Wire.headerSize + content.length + (Wire.trailer isSealed).length) % 4 = 0)
    (hfew : Wire.headerSize + content.length + (Wire.trailer isSealed).length < 4 * UInt8.size) :
    (engine.reply command isSealed (Bytes.blank Wire.headerSize ++ content ++
      Wire.trailer isSealed)).Framed engine.settings.unit command := by
  have hblank : (Bytes.blank Wire.headerSize ++ content ++ Wire.trailer isSealed).length =
      Wire.headerSize + content.length + (Wire.trailer isSealed).length := by
    rw [List.length_append, List.length_append, Bytes.length_blank]
  have hlength : (engine.reply command isSealed (Bytes.blank Wire.headerSize ++ content ++
      Wire.trailer isSealed)).bytes.length =
      Wire.headerSize + content.length + (Wire.trailer isSealed).length := by
    rw [reply, Wire.length_finish, hblank]
  have hheader : (Wire.Message.decode (engine.reply command isSealed (Bytes.blank Wire.headerSize ++
      content ++ Wire.trailer isSealed)).bytes : Wire.Header) =
      Wire.header engine.settings.unit.version engine.settings.unit.responseTag command
        (Wire.headerSize + content.length + (Wire.trailer isSealed).length) := by
    obtain ⟨tail, -, h⟩ := Wire.finish_eq engine.settings.unit.version
      engine.settings.unit.responseTag command isSealed content
    rw [reply, h, Wire.Message.decode_encode_append]
  -- The length, the header field by field, and the checksum of a reply that has one.
  refine ⟨?_, ?_, ?_, ?_, ?_, fun hsealed => ?_⟩
  · rw [hlength, Command.statusSize]
    omega
  · rw [hheader, hlength, Wire.header, UInt8.toNat_ofNat_of_lt' (by omega)]
    omega
  · rw [hheader, Wire.header]
  · rw [hheader, Wire.header]
  · rw [hheader, Wire.header]
  · have hsealed : isSealed = true := hsealed
    subst hsealed
    have hlong : 4 ≤ (Bytes.blank Wire.headerSize ++ content ++ Wire.trailer true).length := by
      rw [hblank]
      omega
    rw [reply, Wire.check_finish _ _ _ hlong]

/-- **A bare status is a message**: `Engine.statusReply` is `Framed` for every command byte and every
response code. -/
theorem framed_statusReply (engine : Engine) (command : UInt8) (code : UInt32) :
    (engine.statusReply command code).Framed engine.settings.unit command := by
  have hcontent : (Bytes.ofWord code).length = 4 := Bytes.length_ofWord code
  have h : (engine.reply command false (Bytes.blank Wire.headerSize ++ Bytes.ofWord code ++
      Wire.trailer false)).Framed engine.settings.unit command := by
    apply framed_reply
    · exact Nat.le_of_eq hcontent.symm
    · rw [hcontent]
      decide
    · rw [hcontent]
      decide
  rwa [show Wire.trailer false = [] from rfl, List.append_nil] at h

/-- **A response with content is a message**: `Engine.reply` of what `encodeResponse` writes is
`Framed`. -/
theorem framed_response (engine : Engine) (command : UInt8) {flavor : Flavor} (c : Command)
    (code : UInt32) (response : c.Response flavor) :
    (engine.reply command c.responseSealed (c.encodeResponse code response)).Framed
      engine.settings.unit command := by
  obtain ⟨hwords, hfew⟩ := Command.responseSize_spec flavor c
  have hcontent : (Bytes.ofWord code ++ Wire.Message.encode response).length =
      4 + Wire.Message.size (c.Response flavor) := by
    rw [List.length_append, Bytes.length_ofWord, Wire.Message.length_encode]
  -- The sizes of responses are in words and below the largest that a header can say.
  rw [Command.responseSize, Command.statusSize, Nat.add_assoc Wire.headerSize] at hwords hfew
  rw [Command.encodeResponse, List.append_assoc (Bytes.blank Wire.headerSize)]
  refine engine.framed_reply command c.responseSealed ?_ ?_ ?_
  · rw [hcontent]
    exact Nat.le_add_right 4 _
  · rw [hcontent]
    exact hwords
  · rw [hcontent]
    exact hfew

/-- **Every byte string is answered by a message**: what `Engine.execute` replies is `Framed` for the byte
that asks for a command. -/
theorem framed_execute (request : Bytes) (machine : Machine) :
    ((execute request).run machine).1.Framed machine.engine.settings.unit (commandByte request) := by
  have hanswered := answered request machine
  revert hanswered
  generalize ((execute request).run machine).1 = reply
  generalize ((execute request).run machine).2 = after
  intro hanswered
  cases hanswered with
  | refused e => exact framed_statusReply _ _ _
  -- A handler keeps the settings, so the reply has the header values of before.
  | failed hreads hrun =>
    rename_i c m e
    have hsettings := (handled m machine).settings_eq
    have hframed := framed_statusReply after.engine (commandByte request) (ResponseCode.failure e)
    rw [hrun] at hsettings
    rwa [hsettings] at hframed
  | succeeded hreads hrun =>
    rename_i c m response
    have hsettings := (handled m machine).settings_eq
    have hframed := framed_response after.engine (commandByte request) c ResponseCode.success response
    rw [hrun] at hsettings
    rwa [hsettings] at hframed

/-! ## (2) Whatever is executed -/

open Handling

/-- **A byte string overruns** if it is read as a request that does: one that the engine `Reads` and for
which `Command.Overruns` holds. -/
def Overruns (machine : Machine) (request : Bytes) : Prop :=
  ∃ (c : Command) (m : c.Request machine.engine.settings.flavor),
    machine.engine.Reads request c m ∧ c.Overruns machine m

variable {machine : Machine} {request : Bytes} {accesses : List Access}

/-- A request that is read makes the accesses of its handler: `Makes` of `handle` carries over to
`answer`. -/
theorem Reads.makes_answer {c : Command} {m : c.Request machine.engine.settings.flavor}
    (h : machine.engine.Reads request c m)
    (hmakes : Makes (handle machine.engine.settings.flavor c m) machine accesses) :
    Makes (answer request) machine accesses := by
  have haccept (memory : SharedMemory) :
      (lift (machine.engine.accept request)).run ⟨machine.engine, memory⟩ =
        (.ok c, ⟨machine.engine, memory⟩) := by
    rw [h.accept_eq]
    rfl
  have hdecode (memory : SharedMemory) :
      (lift (c.decodeRequest machine.engine.settings.flavor request)).run ⟨machine.engine, memory⟩ =
        (.ok m, ⟨machine.engine, memory⟩) := by
    rw [h.decode_eq]
    rfl
  -- Accepting and decoding make no access, and neither does encoding the response.
  refine .blind_bind (fun _ => rfl) rfl ?_
  refine .blind_bind haccept rfl ?_
  refine .blind_bind hdecode rfl ?_
  exact hmakes.bind_blind fun response engine => ⟨_, engine, fun _ => rfl, rfl⟩

/-- **An engine reads what is sent to it** by a client that has its settings. -/
theorem reads_requestFor (engine : Engine) (c : Command) (m : c.Request engine.settings.flavor) :
    engine.Reads (engine.requestFor c m) c m := by
  let channel : Channel := ⟨.enabling [], engine.settings.unit, engine.settings.flavor⟩
  have hunit : channel.unit = engine.settings.unit := rfl
  have haccept : engine.accept (channel.frame c.code m) = .ok c := accept_frame hunit m
  have hdecode : c.decodeRequest channel.flavor (channel.frame c.code m) = .ok m :=
    channel.decodeRequest_frame_self m
  exact ⟨haccept, hdecode⟩

/-- A request is read in one way, so it `Overruns` just if the command that the engine `Reads` does. -/
theorem Reads.overruns_iff {c : Command} {m : c.Request machine.engine.settings.flavor}
    (h : machine.engine.Reads request c m) : Overruns machine request ↔ c.Overruns machine m := by
  refine ⟨?_, fun hoverruns => ⟨c, m, h, hoverruns⟩⟩
  rintro ⟨c', m', h', hoverruns⟩
  obtain rfl : c' = c := Except.ok.inj (h'.accept_eq.symm.trans h.accept_eq)
  obtain rfl : m' = m := Except.ok.inj (h'.decode_eq.symm.trans h.decode_eq)
  exact hoverruns

/-- **Every byte string makes accesses to the buffers that it names**, if it is read as a request, and one
of them overruns just if the byte string does. -/
theorem exists_accesses_answer (machine : Machine) (request : Bytes)
    (h : ∀ r ∈ machine.memory.registrations, r.InArea) :
    ∃ accesses, Makes (answer request) machine accesses ∧
      (∀ access ∈ accesses, ∃ (c : Command) (m : c.Request machine.engine.settings.flavor),
        machine.engine.Reads request c m ∧ access.Named machine.memory c m) ∧
      ((∃ access ∈ accesses, access.Overruns machine.memory) ↔ Overruns machine request) := by
  -- A request that is not accepted, or not decoded, touches nothing, and so overruns nothing.
  cases haccept : machine.engine.accept request with
  | error e =>
    have hrun (memory : SharedMemory) : (answer request).run ⟨machine.engine, memory⟩ =
        (.error e, ⟨machine.engine, memory⟩) := run_answer_refused haccept
    refine ⟨[], makes_nil hrun rfl, nofun, nofun, ?_⟩
    rintro ⟨c, m, hreads, -⟩
    rw [hreads.accept_eq] at haccept
    cases haccept
  | ok c =>
    cases hdecode : c.decodeRequest machine.engine.settings.flavor request with
    | error e =>
      have hrun (memory : SharedMemory) : (answer request).run ⟨machine.engine, memory⟩ =
          (.error e, ⟨machine.engine, memory⟩) := run_answer_unread haccept hdecode
      refine ⟨[], makes_nil hrun rfl, nofun, nofun, ?_⟩
      rintro ⟨c', m, hreads, -⟩
      obtain rfl : c' = c := Except.ok.inj (hreads.accept_eq.symm.trans haccept)
      rw [hreads.decode_eq] at hdecode
      cases hdecode
    | ok m =>
      have hreads : machine.engine.Reads request c m := ⟨haccept, hdecode⟩
      obtain ⟨accesses, hmakes, hnamed, hoverruns⟩ := exists_accesses c m h
      refine ⟨accesses, hreads.makes_answer hmakes, ?_, hoverruns.trans hreads.overruns_iff.symm⟩
      intro access haccess
      exact ⟨c, m, hreads, hnamed access haccess⟩

/-- **Trees are shallow**: services are opened on key stores at most, and those on sessions. -/
theorem Orderly.parentOf?_eq_none {engine : Engine} (h : engine.Orderly) {x y z : UInt32}
    (hy : parentOf? engine.objects x = some y) (hz : parentOf? engine.objects y = some z) :
    parentOf? engine.objects z = none := by
  obtain ⟨object, hobject, hparent⟩ := Option.bind_eq_some_iff.mp hy
  obtain ⟨parent, hfound, hparent'⟩ := Option.bind_eq_some_iff.mp hz
  have hfits := h.fits y parent hfound
  cases parent with
  | session => cases hparent'
  | keyStore session name =>
    obtain rfl : session = z := Option.some.inj hparent'
    rw [parentOf?_of_find? hfits.1]
    rfl
  | service kind root =>
    -- Nothing is opened on a service.
    have hfits := h.fits x object hobject
    cases object with
    | session => cases hparent
    | keyStore session name =>
      obtain rfl : session = y := Option.some.inj hparent
      rw [hfits.1] at hfound
      cases hfound
    | service kind' root' =>
      obtain rfl : root' = y := Option.some.inj hparent
      change IsParent engine.objects kind' root' at hfits
      unfold IsParent at hfits
      split at hfits
      · rw [hfits] at hfound
        cases hfound
      · obtain ⟨session, name, hkeyStore⟩ := hfits
        rw [hkeyStore] at hfound
        cases hfound

/-- **Executing a byte string is robust**: all that can go wrong is a sum that does not fit, which the
engine remembers as `overflowed`. An engine that checks its sums then ends without its reply; one that
lets them wrap around gives this one. -/
structure Robust (machine : Machine) (request : Bytes) (accesses : List Access) (reply : Reply)
    (after : Machine) : Prop where
  /-- These accesses are made. -/
  performs : ∃ result, Performs (answer request) machine accesses result after
  /-- The reply is a message for the command that is asked for. -/
  framed : reply.Framed machine.engine.settings.unit (commandByte request)
  /-- Chains of parents end, so what is removed with an object comes to an end. -/
  shallow : ∀ x y z, parentOf? machine.engine.objects x = some y →
    parentOf? machine.engine.objects y = some z → parentOf? machine.engine.objects z = none
  /-- Every access is to a buffer that the request names, and what is cut for it is long enough. -/
  named : ∀ access ∈ accesses, ∃ (c : Command) (m : c.Request machine.engine.settings.flavor),
    machine.engine.Reads request c m ∧ access.Named machine.memory c m
  /-- What is granted lies in one area. -/
  inside : ∀ access ∈ accesses, access.Inside machine.memory
  /-- Sums that wrap around grant nothing else. -/
  safelyWraps : ∀ access ∈ accesses, access.SafelyWraps machine.memory
  /-- Only requests that overrun take a sum that does not fit, and all of them do. -/
  overruns_iff : (∃ access ∈ accesses, access.Overruns machine.memory) ↔ Overruns machine request
  /-- The execution overflows just if the request overruns. -/
  overflowed_iff : after.engine.overflowed = true ↔
    machine.engine.overflowed = true ∨ Overruns machine request

/-- **Executing is robust**, whatever has been executed before, whatever the client has staged, and
whatever the byte string. -/
theorem execute_robust (settings : EngineSettings) (requests : List (SharedMemory × Bytes))
    {memory : SharedMemory} (h : memory.Reachable) (request : Bytes) :
    let machine : Machine := ⟨(start settings).afterAll requests, memory⟩
    ∃ accesses, Robust machine request accesses ((execute request).run machine).1
      ((execute request).run machine).2 := by
  intro machine
  -- The object tree is orderly whatever has been sent, and every registration lies in the area: all
  -- else is said of one request.
  have horderly : machine.engine.Orderly :=
    afterAll_induction orderly_step (orderly_start settings) requests
  obtain ⟨accesses, ⟨result, after, hperforms⟩, hnamed, hoverruns⟩ :=
    exists_accesses_answer machine request h.inArea
  have hafter : ((execute request).run machine).2 = after := by
    rw [machine_execute, hperforms.run_eq]
  rw [hafter]
  refine ⟨accesses, ?_⟩
  exact {
    performs := ⟨result, hperforms⟩
    framed := framed_execute request machine
    shallow := fun _ _ _ => horderly.parentOf?_eq_none
    named := hnamed
    inside := fun access _ => Access.inside_of_inArea h.inArea access
    safelyWraps := fun access _ => Access.safelyWraps_of_reachable h access
    overruns_iff := hoverruns
    overflowed_iff := hperforms.overflowed_iff.trans (or_congr_right hoverruns) }

/-! ## (3) A request that overruns -/

/-- An engine whose SHE generator has been started, by one request for `sheInitRng`. -/
def startedEngine : Engine :=
  (start {}).afterAll [({}, (start {}).requestFor .sheInitRng ())]

/-- A request for a random value at the last address, where any sixteen bytes end behind what 64 bits can
tell. -/
def lastAddressRequest : Bytes :=
  startedEngine.requestFor .sheRandom (⟨0xFFFFFFFF, 0xFFFFFFFF, 16⟩ : Wire.SplitBuffer)

/-- Staging an output of sixteen bytes works out: `SharedMemory.register` has an address for it at the
start. -/
theorem exists_staged : ∃ (a : Address) (memory : SharedMemory),
    ({} : SharedMemory).register (Bytes.blank 16) { output := true } = some (a, memory) := by
  have hsome : (({} : SharedMemory).register (Bytes.blank 16) { output := true }).isSome = true := by
    decide +kernel
  obtain ⟨⟨a, memory⟩, hregister⟩ := Option.isSome_iff_exists.mp hsome
  exact ⟨a, memory, hregister⟩

/-- Such an output is enough for `lastAddressRequest` to overrun, since every `Registration` is compared
with the end of the range. -/
theorem overruns_lastAddressRequest {a : Address} {memory : SharedMemory}
    (h : ({} : SharedMemory).register (Bytes.blank 16) { output := true } = some (a, memory)) :
    Overruns ⟨startedEngine, memory⟩ lastAddressRequest := by
  have hstarted : startedEngine.sheStarted = true := by decide +kernel
  have hregistrations := (SharedMemory.registers_of_register h).registrations_eq
  refine ⟨.sheRandom, _, reads_requestFor startedEngine _ _, ⟨hstarted, rfl⟩, by decide, ?_⟩
  change ∃ r ∈ memory.registrations, _
  rw [hregistrations]
  exact ⟨_, List.mem_append_right _ (List.mem_singleton_self _), rfl⟩

/-- The engine has executed one request, and no sum of it was too large. -/
theorem overflowed_startedEngine : startedEngine.overflowed = false := by decide +kernel

/-- The engine executes `lastAddressRequest` as `Robust` says, and the sum that does not fit leaves it
`overflowed`. -/
theorem execute_robust_lastAddress : ∃ (a : Address) (memory : SharedMemory),
    ({} : SharedMemory).register (Bytes.blank 16) { output := true } = some (a, memory) ∧
      memory.Reachable ∧ (∃ accesses, Robust ⟨startedEngine, memory⟩ lastAddressRequest accesses
        ((execute lastAddressRequest).run ⟨startedEngine, memory⟩).1
        ((execute lastAddressRequest).run ⟨startedEngine, memory⟩).2 ∧
          ∃ access ∈ accesses, access.Overruns memory) ∧
      startedEngine.overflowed = false ∧
      ((execute lastAddressRequest).run ⟨startedEngine, memory⟩).2.engine.overflowed = true := by
  obtain ⟨a, memory, h⟩ := exists_staged
  have hreachable : memory.Reachable := .register .start h
  have hexecuted : ∃ accesses, Robust ⟨startedEngine, memory⟩ lastAddressRequest accesses
      ((execute lastAddressRequest).run ⟨startedEngine, memory⟩).1
      ((execute lastAddressRequest).run ⟨startedEngine, memory⟩).2 :=
    execute_robust {} _ hreachable lastAddressRequest
  obtain ⟨accesses, hrobust⟩ := hexecuted
  have hoverruns := overruns_lastAddressRequest h
  exact ⟨a, memory, h, hreachable, ⟨accesses, hrobust, hrobust.overruns_iff.mpr hoverruns⟩,
    overflowed_startedEngine, hrobust.overflowed_iff.mpr (Or.inr hoverruns)⟩

/-- **Not every execution is free of overflow**: of an engine that has not overflowed before, whatever the
client has staged and whatever the byte string. -/
theorem exists_overrun :
    ¬∀ (settings : EngineSettings) (requests : List (SharedMemory × Bytes)) (memory : SharedMemory),
      memory.Reachable → ((start settings).afterAll requests).overflowed = false →
        ∀ request : Bytes, ((execute request).run
          ⟨(start settings).afterAll requests, memory⟩).2.engine.overflowed = false := by
  intro hfits
  obtain ⟨a, memory, h⟩ := exists_staged
  have hreachable : memory.Reachable := .register .start h
  obtain ⟨accesses, ⟨result, after, hperforms⟩, -, hiff⟩ :=
    exists_accesses_answer ⟨startedEngine, memory⟩ lastAddressRequest hreachable.inArea
  -- The machine has fitted in so far, and this request makes it overflow.
  have hoverruns := hiff.mpr (overruns_lastAddressRequest h)
  have hfit := hfits {} [({}, (start {}).requestFor .sheInitRng ())] memory hreachable
    overflowed_startedEngine lastAddressRequest
  rw [machine_execute] at hfit
  change ((answer lastAddressRequest).run ⟨startedEngine, memory⟩).2.engine.overflowed = false at hfit
  rw [hperforms.run_eq, hperforms.overflowed_iff.mpr (Or.inr hoverruns)] at hfit
  cases hfit

end Engine

end SecureEngine
