import SecureEngine.Proofs.BareRequests
import SecureEngine.Proofs.Truncation

/-! # Arguments of another command

Arguments are of many kinds, and each command is made for one of them. Commands that only name a handle,
or have no content, are prepared without a look at their arguments, so that they take any.

* **`Command.takes`** — the kind of arguments that a command is made for.
* **`Command.unread?`** — the request of a command that is prepared without a look at them.
* **`Channel.Mismatched`** — what comes of arguments of another kind: commands that read them refuse them
  and send nothing, all others are sent.
* **`Channel.process_mismatched`** — this holds over every transport;
  **`Channel.exists_mismatched_sent`** — so arguments of another kind can be sent, and can succeed. -/

namespace SecureEngine

/-! ## (1) Which arguments are for which command -/

/-- **Whether a command is made for some arguments**: the variant of `Arguments` is the one that its
request is prepared from. -/
def Command.takes : Command → Arguments → Bool
  | .openSession, .openSession _ | .closeSession, .close | .sharedBuffer, .sharedBuffer _
  | .openKeyStore, .openKeyStore _ | .closeKeyStore, .close
  | .openService _, .openService _ | .closeService _, .close
  | .generateKey, .generateKey _ | .generateKeyExt, .generateKey _ | .importKey, .importKey _
  | .deleteKey, .deleteKey _ | .manageKey, .manageKey _ | .mac, .mac _ | .cipher, .cipher _
  | .hash, .hash _ | .sign, .sign _ | .prepareSign, .prepareSign _ | .verify, .verify _
  | .random, .random _ | .sheGenerateMac, .sheGenerateMac _ | .sheVerifyMac, .sheVerifyMac _
  | .sheInitRng, .sheInitRng | .sheExtendSeed, .sheExtendSeed _ | .sheRandom, .sheRandom _
  | .sheStatus, .sheStatus _ | .sheIdentity, .sheIdentity _ => true
  | _, _ => false

/-- **The request of a command that is prepared without a look at its arguments.** -/
def Command.unread? (flavor : Flavor) (handle : UInt32) : (c : Command) → Option (c.Request flavor)
  | .closeSession => some handle
  | .sharedBuffer => some handle
  | .closeKeyStore => some handle
  | .closeService _ => some handle
  | .sheInitRng => some ()
  | .sheStatus => some ()
  | _ => none

section

variable {flavor : Flavor} {handle : UInt32} {c : Command} {arguments : Arguments}

/-- A command with a request in `unread?` is prepared from any arguments, and so is `Bare`. -/
theorem Command.bare_of_unread? {request : c.Request flavor}
    (h : c.unread? flavor handle = some request) (arguments : Arguments) :
    c.Bare flavor handle arguments request := by
  intro τ _
  cases c <;> cases h <;> rfl

/-- **A command that reads its arguments refuses those of another one**, whatever is in them. -/
theorem Command.prepare_of_not_takes {σ : Type} [Transport σ] (htakes : c.takes arguments = false)
    (hread : c.unread? flavor handle = none) :
    c.prepare flavor handle arguments =
      (throw (.validation .argumentsMismatch) : Registering σ (Prepared flavor c)) := by
  unfold Command.prepare
  split
  -- The last case is that of arguments of another command.
  case h_27 => rfl
  all_goals first
    | cases htakes
    | cases hread

/-- **What a command that does not read its arguments makes of a response**: the arguments have no place
for its content, if it has any. -/
theorem Command.complete_of_not_takes {request : c.Request flavor} (htakes : c.takes arguments = false)
    (hunread : c.unread? flavor handle = some request) (bytes : Bytes) :
    c.complete flavor bytes arguments =
      if c.responseSize flavor = statusSize then .ok arguments
      else .error (.validation .argumentsMismatch) := by
  cases c
  case sharedBuffer =>
    rw [if_neg (by cases flavor <;> decide)]
    cases arguments with
    | sharedBuffer => cases htakes
    | _ => rfl
  case sheStatus =>
    rw [if_neg (by cases flavor <;> decide)]
    cases arguments with
    | sheStatus => cases htakes
    | _ => rfl
  case closeSession | closeKeyStore | closeService | sheInitRng =>
    rw [if_pos (by cases flavor <;> rfl)]
    rfl
  all_goals cases hunread

end

/-! ## (2) What comes of other arguments -/

namespace Channel

variable {σ : Type} [Transport σ] {channel : Channel} {c : Command} {handle : UInt32}
  {arguments : Arguments}

/-- **How a request ends whose arguments have no place for the content of the response.** -/
def acknowledge (channel : Channel) (c : Command) (reply : Except TransportError Unit × Bytes) :
    Except ClientError Unit :=
  match reply with
  | (.error e, _) => .error (.transport e)
  | (.ok (), written) =>
    match channel.verdict c.code (channel.received c written) with
    | .error e => .error e
    | .ok () =>
      if c.responseSize channel.flavor = Command.statusSize then .ok ()
      else .error (.validation .argumentsMismatch)

/-- **What comes of arguments of another command**: a command that reads them refuses them, and one whose
request is in `unread?` is sent all the same. -/
structure Mismatched (channel : Channel) (c : Command) (handle : UInt32) (arguments : Arguments)
    (s : σ) : Prop where
  /-- A command that reads its arguments refuses them, and the transport is only told to drop its
  registrations. -/
  refused : c.unread? channel.flavor handle = none →
    (channel.process c.code handle arguments).run s =
      ((.error (.validation .argumentsMismatch), arguments), Transport.resetDataBuffers s)
  /-- All others are sent, and fail on their arguments only after a success, if at all. -/
  sent : ∀ request, c.unread? channel.flavor handle = some request →
    (channel.process c.code handle arguments).run s =
      ((channel.acknowledge c (Transport.sendAndReceive s (channel.frame c.code request)
          (c.responseSize channel.flavor)).1, arguments),
        Transport.resetDataBuffers (Transport.sendAndReceive s (channel.frame c.code request)
          (c.responseSize channel.flavor)).2)
  /-- So what goes on record is their request, and nothing for any other command. -/
  requests_eq : ((channel.process c.code handle arguments).run (⟨s, []⟩ : Recorder σ)).2.requests =
    ((c.unread? channel.flavor handle).map (channel.frame c.code)).toList
  /-- Other arguments, fitting or not, do not make another request. -/
  requests_eq_of_unread : (c.unread? channel.flavor handle).isSome = true → ∀ other,
    ((channel.process c.code handle arguments).run (⟨s, []⟩ : Recorder σ)).2.requests =
      ((channel.process c.code handle other).run (⟨s, []⟩ : Recorder σ)).2.requests

/-- Arguments of another command are refused by `argumentsMismatch`, unless the command does not look at
them. -/
theorem run_process_refused (hget : channel.table.get? c.code = some c)
    (htakes : c.takes arguments = false) (hread : c.unread? channel.flavor handle = none) (s : σ) :
    (channel.process c.code handle arguments).run s =
      ((.error (.validation .argumentsMismatch), arguments), Transport.resetDataBuffers s) := by
  have hroom := Command.requestSize_le_maxMessageSize channel.flavor c
  rw [run_process, DispatchTable.run_prepare_of_room hget hroom,
    Command.prepare_of_not_takes htakes hread]
  rfl

/-- A response for arguments of another command is acknowledged at most: they stay as they are. -/
theorem receive_of_not_takes {request : c.Request channel.flavor}
    (hget : channel.table.get? c.code = some c) (htakes : c.takes arguments = false)
    (hunread : c.unread? channel.flavor handle = some request)
    (reply : Except TransportError Unit × Bytes) :
    channel.receive c arguments reply = (channel.acknowledge c reply, arguments) := by
  obtain ⟨_ | _, written⟩ := reply
  · rfl
  unfold receive acknowledge
  dsimp only
  rw [received]
  cases channel.verdict c.code (Bytes.overlay (Bytes.blank (c.responseSize channel.flavor)) written) with
  | error e => rfl
  | ok _ =>
    dsimp only
    rw [conclude_eq hget, Command.complete_of_not_takes htakes hunread]
    -- A response that is only a status is acknowledged; a longer one has arguments to go to, and these
    -- do not fit.
    by_cases hsize : c.responseSize channel.flavor = Command.statusSize
    · rw [if_pos hsize, if_pos hsize]
    · rw [if_neg hsize, if_neg hsize]

/-- A command that does not read its arguments is one exchange: `Channel.process` sends its frame, and
`acknowledge` tells what comes of the response. -/
theorem run_process_unread {request : c.Request channel.flavor}
    (hget : channel.table.get? c.code = some c) (htakes : c.takes arguments = false)
    (hunread : c.unread? channel.flavor handle = some request) (s : σ) :
    (channel.process c.code handle arguments).run s =
      ((channel.acknowledge c (Transport.sendAndReceive s (channel.frame c.code request)
          (c.responseSize channel.flavor)).1, arguments),
        Transport.resetDataBuffers (Transport.sendAndReceive s (channel.frame c.code request)
          (c.responseSize channel.flavor)).2) := by
  rw [run_process_bare (Command.bare_of_unread? hunread arguments) hget,
    receive_of_not_takes hget htakes hunread]

/-- Its request goes on record, whatever the arguments: the `Recorder` has the one frame and nothing
else. -/
theorem requests_process_unread {request : c.Request channel.flavor}
    (hget : channel.table.get? c.code = some c)
    (hunread : c.unread? channel.flavor handle = some request) (arguments : Arguments) (s : σ) :
    ((channel.process c.code handle arguments).run (⟨s, []⟩ : Recorder σ)).2.requests =
      [channel.frame c.code request] := by
  rw [run_process_bare (Command.bare_of_unread? hunread arguments) hget]
  rfl

/-- **What comes of arguments of another command**, over every transport: the commands that read their
arguments refuse them and send nothing; for the others the answer to their request decides. -/
theorem process_mismatched (hget : channel.table.get? c.code = some c)
    (htakes : c.takes arguments = false) (handle : UInt32) (s : σ) :
    channel.Mismatched c handle arguments s where
  refused hread := run_process_refused hget htakes hread s
  sent _ hunread := run_process_unread hget htakes hunread s
  requests_eq := by
    -- A command that reads its arguments refuses them; one that does not sends the same frame for all.
    cases hrequest : c.unread? channel.flavor handle with
    | none =>
      rw [run_process_refused hget htakes hrequest]
      rfl
    | some request => exact requests_process_unread hget hrequest arguments s
  requests_eq_of_unread hunread other := by
    obtain ⟨request, hrequest⟩ := Option.isSome_iff_exists.mp hunread
    rw [requests_process_unread hget hrequest, requests_process_unread hget hrequest]

/-- A client that has enabled every family, those of `FamilySet.full`, for the legacy firmware. -/
def unrestricted : Channel := ⟨.enabling [.full], .standard, .legacy⟩

/-- The `unrestricted` table has every command under its code. -/
theorem get?_unrestricted (c : Command) : unrestricted.table.get? c.code = some c :=
  DispatchTable.get?_enabling_full c

/-- The answer to a request to start the generator is a success, whatever the arguments. -/
theorem acknowledge_sheInitRng :
    unrestricted.acknowledge .sheInitRng
      (.ok (), unrestricted.bareSuccess Command.sheInitRng.code) = .ok () := by
  decide +kernel

/-- Arguments for closing something do for `sheInitRng`, which is sent and succeeds, and not for `hash`,
which is refused. -/
theorem process_mismatched_close :
    let s : Playback := { reply := unrestricted.bareSuccess Command.sheInitRng.code }
    (unrestricted.Mismatched .hash 0 .close s ∧
        ((unrestricted.process Command.hash.code 0 .close).run s).1.1 =
          .error (.validation .argumentsMismatch)) ∧
      unrestricted.Mismatched .sheInitRng 0 .close s ∧
        ((unrestricted.process Command.sheInitRng.code 0 .close).run s).1.1 = .ok () := by
  intro s
  have hhash : unrestricted.Mismatched .hash 0 .close s :=
    process_mismatched (get?_unrestricted .hash) rfl 0 s
  have hrng : unrestricted.Mismatched .sheInitRng 0 .close s :=
    process_mismatched (get?_unrestricted .sheInitRng) rfl 0 s
  refine ⟨⟨hhash, by rw [hhash.refused rfl]⟩, hrng, ?_⟩
  rw [hrng.sent () rfl]
  exact acknowledge_sheInitRng

/-- **Arguments of another command can be sent**: the generator is started with arguments for closing
something, which does not fail; the status register is asked for with them, which may fail, but not before
the request has been sent. -/
theorem exists_mismatched_sent :
    (¬∀ (channel : Channel) (c : Command) (handle : UInt32) (arguments : Arguments) (s : Playback),
      channel.table.get? c.code = some c → c.takes arguments = false →
        ∃ complaint, ((channel.process c.code handle arguments).run s).1.1 =
          .error (.validation complaint)) ∧
    ¬∀ (channel : Channel) (c : Command) (handle : UInt32) (arguments : Arguments) (s : Playback),
      channel.table.get? c.code = some c → c.takes arguments = false →
        ((channel.process c.code handle arguments).run (⟨s, []⟩ : Recorder Playback)).2.requests =
          [] := by
  constructor
  · -- Starting the generator takes any arguments: it succeeds, where a complaint is claimed.
    intro hfails
    obtain ⟨complaint, hcomplaint⟩ := hfails unrestricted .sheInitRng 0 .close
      { reply := unrestricted.bareSuccess Command.sheInitRng.code } (get?_unrestricted _) rfl
    rw [run_process_unread (get?_unrestricted .sheInitRng) rfl rfl] at hcomplaint
    cases acknowledge_sheInitRng.symm.trans hcomplaint
  · -- Asking for the status sends its frame, where silence is claimed.
    intro hsilent
    have hnone := hsilent unrestricted .sheStatus 0 .close { reply := [] } (get?_unrestricted _) rfl
    rw [requests_process_unread (get?_unrestricted .sheStatus) rfl] at hnone
    cases hnone

end Channel

end SecureEngine
