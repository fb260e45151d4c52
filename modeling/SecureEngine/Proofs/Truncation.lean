import SecureEngine.Proofs.Checksum
import SecureEngine.Proofs.DispatchTable
import SecureEngine.Proofs.Framing
import SecureEngine.Proofs.Replies
import SecureEngine.Session.She

/-! # Replies that end too early

A client reads a response out of a blank buffer, so a reply that ends before the response does is filled
up with zeros, and nobody looks at the size that its header tells.

* **`Channel.Truncated`** — a reply that tells of success but ends too early.
* **`Channel.received_of_truncated`** — it is read as if it went on with zeros.
* **`Command.complete_ok_iff`** — what it takes to complete the arguments from a response of the right
  size: a place for the result, and the checksum if there should be one.
* **`Channel.process_truncated`** — such a reply counts as a success, with zeros for the result, except
  where a checksum shows the difference. -/

namespace SecureEngine

/-! ## (1) Bytes that are missing -/

namespace Bytes

/-- A short reply in a blank buffer goes on with zeros: `Bytes.overlay` leaves the rest of
`Bytes.blank`. -/
theorem overlay_blank {data : Bytes} {n : Nat} (h : data.length ≤ n) :
    overlay (blank n) data = data ++ blank (n - data.length) := by
  rw [overlay, length_blank, List.take_of_length_le h, blank, List.drop_replicate, blank]

end Bytes

namespace Checksum

/-- The checksum of zeros is zero, which is what makes a blank buffer pass for an intact response. -/
theorem compute_blank (n : Nat) : compute (Bytes.blank n) = 0 := by
  have hzero (k : Nat) : lane k (Bytes.blank n) = 0 :=
    lane_eq_zero (fun b hb => List.eq_of_mem_replicate hb) k
  simp only [compute_eq_lanes, hzero]
  rfl

/-- Zeros behind whole words leave the checksum as it is: `Checksum.compute` combines them without
effect. -/
theorem compute_append_blank {front : Bytes} (h : front.length % 4 = 0) (n : Nat) :
    compute (front ++ Bytes.blank n) = compute front := by
  -- By induction on the front in steps of four; zeros behind it change no sum.
  fun_induction compute front with
  | case1 => exact compute_blank n
  | case2 | case3 | case4 => simp at h
  | case5 a b c d rest ih =>
    have hrest : rest.length % 4 = 0 := by
      simp only [List.length_cons] at h
      omega
    rw [List.cons_append, List.cons_append, List.cons_append, List.cons_append, compute_cons₄,
      ih hrest]

end Checksum

namespace Channel

variable {channel : Channel} {code : UInt8} {c : Command} {reply : Bytes}

/-- Header and response code are at the front of a response, so `statusOf` does not see what follows. -/
theorem statusOf_append (h : Command.statusSize ≤ reply.length) (rest : Bytes) :
    statusOf (reply ++ rest) = statusOf reply := by
  match reply, h with
  | _ :: _ :: _ :: _ :: _ :: _ :: _ :: _ :: _, _ => rfl

/-- **A reply that tells of success but ends before the response does.** Its header is right, and tells
the words that there are. -/
structure Truncated (channel : Channel) (code : UInt8) (c : Command) (reply : Bytes) : Prop where
  command_eq : (statusOf reply).1.command = code
  tag_eq : (statusOf reply).1.tag = channel.unit.responseTag
  words : reply.length = 4 * (statusOf reply).1.size.toNat
  success : ResponseCode.status (statusOf reply).2 = ResponseCode.successStatus
  short : reply.length < c.responseSize channel.flavor

/-- Whoever tells of success has sent a response code: a `Truncated` reply has at least `statusSize`
bytes. -/
theorem Truncated.statusSize_le (h : channel.Truncated code c reply) :
    Command.statusSize ≤ reply.length := by
  refine Nat.not_lt.mp fun hlt => ?_
  have hwords := h.words
  -- A reply in words without a status word has a status of zero, which is no success.
  have hempty : reply.drop Wire.headerSize = [] := by
    rw [List.drop_eq_nil_iff]
    have hsize : Command.statusSize = 8 := rfl
    have hheader : Wire.headerSize = 4 := rfl
    omega
  have hsuccess : ResponseCode.status (Bytes.word (reply.drop Wire.headerSize)) =
    ResponseCode.successStatus := h.success
  rw [hempty] at hsuccess
  exact absurd hsuccess (by decide)

/-- **It is read as if it went on with zeros**: `Channel.received` fills a `Truncated` reply up to the
size of the response. -/
theorem received_of_truncated (h : channel.Truncated code c reply) :
    channel.received c reply =
      reply ++ Bytes.blank (c.responseSize channel.flavor - reply.length) :=
  Bytes.overlay_blank (Nat.le_of_lt h.short)

/-- **It is taken for a success**: `Channel.verdict` of a `Truncated` reply finds nothing wrong. -/
theorem verdict_of_truncated (h : channel.Truncated code c reply) :
    channel.verdict code (channel.received c reply) = .ok () := by
  unfold verdict
  rw [received_of_truncated h, statusOf_append h.statusSize_le]
  dsimp only
  rw [if_neg, ResponseCode.outcome, if_pos h.success]
  · rfl
  · rw [h.command_eq, h.tag_eq]
    simp

end Channel

/-! ## (2) Results -/

/-- The output has no part in it: `holdsResultOf` is the same for the arguments `withOutput` of any
buffer. -/
theorem Arguments.holdsResultOf_withOutput (arguments : Arguments) (buffer : Bytes) (c : Command) :
    (arguments.withOutput buffer).holdsResultOf c = arguments.holdsResultOf c := by
  cases arguments <;> cases c <;> rfl

/-- **The word that a request leaves as its result**, if it is one: a handle, an identifier, a size or the
status of a verification. -/
def Arguments.resultWord? : Arguments → Option UInt32
  | .openSession a => some a.session
  | .openKeyStore a => some a.handle
  | .openService a => some a.handle
  | .generateKey a => some a.identifier
  | .importKey a => some a.identifier
  | .manageKey a => some a.destination
  | .mac a => some a.status
  | .cipher a => some a.outputSize
  | .verify a => some a.status
  | .sheVerifyMac a => some a.status
  | _ => none

namespace Command

variable {flavor : Flavor} {c : Command} {bytes : Bytes} {arguments completed : Arguments}

/-- Responses have no content, one word, or the identity with its checksum: the three values of
`responseSize`. -/
theorem responseSize_cases (flavor : Flavor) (c : Command) :
    c.responseSize flavor = statusSize ∨
      (c.responseSealed = false ∧ c.responseSize flavor = statusSize + 4) ∨
        (c.responseSealed = true ∧ c.responseSize flavor = statusSize + 20) := by
  cases c with
  | openService kind | closeService kind => cases kind <;> cases flavor <;> decide
  | _ => cases flavor <;> decide

/-- A response of the right size is decoded, unless it should have a checksum and has a wrong one. -/
theorem decodeResponse_ok_iff (hl : bytes.length = c.responseSize flavor) :
    (∃ response, c.decodeResponse flavor bytes = .ok response) ↔
      (c.responseSealed = true → Checksum.check bytes = .ok ()) := by
  rw [decodeResponse_of_length hl]
  split
  · rename_i hsealed
    cases Checksum.check bytes with
    | ok _ => exact iff_of_true ⟨_, rfl⟩ fun _ => rfl
    | error m => exact iff_of_false nofun fun h => nomatch h hsealed
  · rename_i hopen
    exact iff_of_true ⟨_, rfl⟩ fun hsealed => absurd hsealed hopen

/-- Completing from a decoded response succeeds where `decodeResponse` does: unless it is sealed and
`Checksum.check` fails. -/
theorem bind_decodeResponse_ok_iff (f : c.Response flavor → Arguments)
    (hl : bytes.length = c.responseSize flavor) :
    (∃ completed, (do return f (← c.decodeResponse flavor bytes)) = Except.ok completed) ↔
      (c.responseSealed = true → Checksum.check bytes = .ok ()) := by
  rw [← decodeResponse_ok_iff hl]
  constructor
  · rintro ⟨completed, h⟩
    obtain ⟨response, hresponse, -⟩ := bind_eq_ok_iff.mp h
    exact ⟨response, hresponse⟩
  · rintro ⟨response, hresponse⟩
    exact ⟨_, bind_eq_ok_iff.mpr ⟨response, hresponse, rfl⟩⟩

/-- **What it takes to complete the arguments** from a response of the right size with content: a place for
the result, and the checksum if there should be one. -/
theorem complete_ok_iff (hl : bytes.length = c.responseSize flavor)
    (hcontent : statusSize < c.responseSize flavor) :
    (∃ completed, c.complete flavor bytes arguments = .ok completed) ↔
      arguments.holdsResultOf c = true ∧
        (c.responseSealed = true → Checksum.check bytes = .ok ()) := by
  -- The response has a content, so it is decoded where the arguments have a place for it.
  rcases c.complete_cases flavor bytes arguments with
    ⟨hholds, put, hput⟩ | ⟨hbare, -⟩ | ⟨hlacks, hrefused⟩
  · rw [hput, hholds, eq_self, true_and]
    exact bind_decodeResponse_ok_iff put hl
  · exact absurd hcontent (Nat.not_lt.mpr (Nat.le_of_eq hbare))
  · rw [hrefused, hlacks]
    exact iff_of_false nofun fun h => Bool.false_ne_true h.1

/-- **A result that is read from zeros is zero**: `Command.complete` puts the word of the response into
the arguments as it is. -/
theorem resultWord?_of_complete (hl : bytes.length = c.responseSize flavor)
    (hcontent : statusSize < c.responseSize flavor)
    (hblank : c.responseSealed = false → bytes.drop statusSize = Bytes.blank 4)
    (h : c.complete flavor bytes arguments = .ok completed) {w : UInt32}
    (hw : completed.resultWord? = some w) : w = 0 := by
  -- A response without a checksum is decoded from the zeros that the buffer was filled with.
  have hdecode (hopen : c.responseSealed = false) :
      c.decodeResponse flavor bytes = .ok (Wire.Message.decode (Bytes.blank 4)) := by
    rw [decodeResponse_of_length hl, hopen, hblank hopen]
    rfl
  unfold complete at h
  split at h
  case h_11 a =>
    cases flavor with
    | psa =>
      obtain ⟨response, -, hcompleted⟩ := bind_eq_ok_iff.mp h
      cases hcompleted
      cases hw
    | legacy => exact absurd hcontent (Nat.lt_irrefl _)
  case h_15 =>
    obtain ⟨response, -, hcompleted⟩ := bind_eq_ok_iff.mp h
    cases hcompleted
    cases hw
  all_goals first
    | exact absurd hcontent (Nat.lt_irrefl _)
    | (rw [hdecode rfl] at h
       cases h
       cases hw <;> rfl)
    | cases h

end Command

/-! ## (3) Bare successes -/

/-- **A transport that gives the same reply to everything**, and the same output wherever a `Transport` is
asked to read one back. -/
structure Playback where
  reply : Bytes
  output : Bytes := []

instance : Transport Playback where
  sendAndReceive p _ _ := ((.ok (), p.reply), p)
  dataBuffer p _ _ := (.ok 0, p)
  readDataBuffer p _ _ := (.ok p.output, p)
  resetDataBuffers p := p
  configureWindow p _ _ := (.ok (), p)
  close p := p

namespace Channel

/-- **A success and nothing else**: a header and `ResponseCode.success`, with the number of words that
these have. -/
def bareSuccess (channel : Channel) (code : UInt8) : Bytes :=
  Wire.Message.encode (Wire.header channel.unit.version channel.unit.responseTag code
    Command.statusSize) ++ Bytes.ofWord ResponseCode.success

/-- It ends too early for every command whose response has content, so `bareSuccess` is `Truncated` for
it. -/
theorem truncated_bareSuccess (channel : Channel) (code : UInt8) {c : Command}
    (hcontent : Command.statusSize < c.responseSize channel.flavor) :
    channel.Truncated code c (channel.bareSuccess code) := by
  have hlength : (channel.bareSuccess code).length = Command.statusSize := by
    rw [bareSuccess, List.length_append, Wire.length_encode_header, Bytes.length_ofWord]
    rfl
  have hheader : (statusOf (channel.bareSuccess code)).1 =
      Wire.header channel.unit.version channel.unit.responseTag code Command.statusSize := by
    rw [statusOf, bareSuccess, Wire.Message.decode_encode_append]
  have hstatus : (statusOf (channel.bareSuccess code)).2 = ResponseCode.success := by
    rw [statusOf, bareSuccess, List.drop_left' (Wire.length_encode_header _)]
    rfl
  refine ⟨by rw [hheader]; rfl, by rw [hheader]; rfl, by rw [hheader, hlength]; rfl, ?_, ?_⟩
  · rw [hstatus]
    rfl
  · rw [hlength]
    exact hcontent

end Channel

/-! ## (4) Round trips -/

namespace Channel

variable {σ : Type} [Transport σ] {channel : Channel} {code : UInt8} {handle : UInt32}
  {arguments : Arguments} {s t : σ} {c : Command} {p : Prepared channel.flavor c} {reply : Bytes}

/-- A `Truncated` reply to a command without a checksum has no content at all. -/
theorem Truncated.content_blank (h : channel.Truncated code c reply)
    (hopen : c.responseSealed = false) :
    (channel.received c reply).drop Command.statusSize = Bytes.blank 4 := by
  have hle := h.statusSize_le
  have hwords := h.words
  have hshort := h.short
  have hstatus : Command.statusSize = 8 := rfl
  rcases Command.responseSize_cases channel.flavor c with hsize | ⟨-, hsize⟩ | ⟨hsealed, -⟩
  · omega
  · -- The reply has whole words, so it is a header and a response code.
    have hlength : reply.length = Command.statusSize := by omega
    rw [received_of_truncated h, List.drop_left' hlength, hsize, hlength, Nat.add_sub_cancel_left]
  · rw [hopen] at hsealed
    cases hsealed

/-- A `Truncated` reply with zeros behind it carries a checksum just if its own words cancel out. -/
theorem Truncated.check_received (h : channel.Truncated code c reply) :
    Checksum.check (channel.received c reply) = .ok () ↔ Checksum.compute reply = 0 := by
  have hsize := channel.length_received c reply
  have hlong := c.statusSize_le_responseSize channel.flavor
  have hwords : (channel.received c reply).length % 4 = 0 := by
    have hstatus : Command.statusSize = 8 := rfl
    rcases Command.responseSize_cases channel.flavor c with h | ⟨-, h⟩ | ⟨-, h⟩ <;> omega
  rw [Checksum.check_eq_ok_iff hwords (by rw [hsize]; exact Nat.le_trans four_le_statusSize hlong),
    received_of_truncated h, Checksum.compute_append_blank (by rw [h.words]; omega)]

/-- What is read back does not change what the arguments have a place for. -/
theorem holdsResultOf_of_fetch {output : Option Address} {fetched : Arguments}
    (h : (fetch output arguments t).1 = .ok fetched) (c : Command) :
    fetched.holdsResultOf c = arguments.holdsResultOf c := by
  rcases fetch_ok h with rfl | ⟨buffer, rfl⟩
  · rfl
  · exact arguments.holdsResultOf_withOutput buffer c

/-- **What becomes of a reply that ends too early**: `Channel.process` succeeds just if the arguments
`holdsResultOf` the command and a sealed reply sums to zero, and then the result is zero. -/
theorem process_truncated (ha : channel.Answered code handle arguments s p reply t)
    (ht : channel.Truncated code c reply) :
    let outcome := ((channel.process code handle arguments).run s).1
    (∀ e, (fetch p.output arguments t).1 = .error e →
      outcome = (.error (.transport e), arguments)) ∧
    ∀ fetched, (fetch p.output arguments t).1 = .ok fetched →
      outcome = channel.conclude code
        (reply ++ Bytes.blank (c.responseSize channel.flavor - reply.length)) fetched ∧
      (outcome.1 = .ok () ↔ arguments.holdsResultOf c = true ∧
        (c.responseSealed = true → Checksum.compute reply = 0)) ∧
      (outcome.1 = .ok () → ∀ w, outcome.2.resultWord? = some w → w = 0) := by
  intro outcome
  -- A truncated reply passes the verdict, so the call ends with the read-back and with completing.
  have hprocess := run_process_of_answered ha
  rw [verdict_of_truncated ht] at hprocess
  refine ⟨fun e he => ?_, fun fetched hfetch => ?_⟩
  · rw [he] at hprocess
    exact hprocess
  rw [hfetch] at hprocess
  have houtcome : outcome = channel.conclude code (channel.received c reply) fetched := hprocess
  have hl := channel.length_received c reply
  have hcontent := Nat.lt_of_le_of_lt ht.statusSize_le ht.short
  refine ⟨by rw [houtcome, received_of_truncated ht], ?_, fun hok w hw => ?_⟩
  · rw [houtcome, ← holdsResultOf_of_fetch hfetch c, ← ht.check_received,
      ← Command.complete_ok_iff hl hcontent, conclude_eq ha.get?_eq]
    cases c.complete channel.flavor (channel.received c reply) fetched <;> simp
  · have hcomplete : c.complete channel.flavor (channel.received c reply) fetched =
        .ok outcome.2 := by
      rw [← conclude_eq_ok_iff ha.get?_eq, ← hok]
      exact houtcome.symm
    exact Command.resultWord?_of_complete hl hcontent ht.content_blank hcomplete hw

/-- A bare success for the verification of a MAC: `process` of `sheVerifyMac` succeeds, and its status is
zero. -/
theorem process_truncated_sheVerifyMac :
    let channel : Channel := ⟨.enabling [.full], .standard, .legacy⟩
    let a : SheMacVerification :=
      { extension := 0, key := 1, message := [], mac := Bytes.blank 16, macLength := 16, status := 1 }
    let s : Playback := { reply := channel.bareSuccess Command.sheVerifyMac.code }
    let outcome := ((channel.process Command.sheVerifyMac.code 1 (.sheVerifyMac a)).run s).1
    ∃ (p : Prepared channel.flavor .sheVerifyMac) (t : Playback),
      channel.Answered Command.sheVerifyMac.code 1 (.sheVerifyMac a) s p s.reply t ∧
      channel.Truncated Command.sheVerifyMac.code .sheVerifyMac s.reply ∧
      outcome.1 = .ok () ∧ ∀ w, outcome.2.resultWord? = some w → w = 0 := by
  intro channel a s outcome
  have hget : channel.table.get? Command.sheVerifyMac.code = some .sheVerifyMac := by decide +kernel
  -- The request that is prepared does not matter, only that one is: the reply is fixed beforehand.
  have hprepared : ((channel.table.prepare channel.flavor Command.sheVerifyMac.code 1
      Wire.maxMessageSize (.sheVerifyMac a)).run s).1.toBool = true ∧
      ((channel.table.prepare channel.flavor Command.sheVerifyMac.code 1
      Wire.maxMessageSize (.sheVerifyMac a)).run s).2.reply = s.reply := by decide +kernel
  rcases hprepare : (channel.table.prepare channel.flavor Command.sheVerifyMac.code 1
    Wire.maxMessageSize (.sheVerifyMac a)).run s with ⟨result, t⟩
  rw [hprepare] at hprepared
  obtain ⟨⟨c, p⟩, rfl⟩ := exists_eq_ok hprepared.1
  obtain rfl : Command.sheVerifyMac = c :=
    Option.some.inj (hget.symm.trans (DispatchTable.placed_of_prepare hprepare).1)
  have ha : channel.Answered Command.sheVerifyMac.code 1 (.sheVerifyMac a) s p s.reply t :=
    ⟨t, hprepare, by rw [← hprepared.2]; rfl⟩
  have ht := channel.truncated_bareSuccess Command.sheVerifyMac.code (c := .sheVerifyMac) (by decide)
  have hfetch : (fetch p.output (.sheVerifyMac a) t).1 = .ok (.sheVerifyMac a) := by
    unfold fetch
    cases p.output <;> rfl
  obtain ⟨-, hok, hzero⟩ := (process_truncated ha ht).2 _ hfetch
  have hsuccess : outcome.1 = .ok () := hok.mpr ⟨rfl, nofun⟩
  exact ⟨p, t, ha, ht, hsuccess, hzero hsuccess⟩

/-- A MAC that nobody has verified, and a service that nobody has opened: `bareSuccess` is enough for
`sheVerifyMac` and `openService`. -/
theorem exists_truncated_success :
    let channel : Channel := ⟨.enabling [.full], .standard, .legacy⟩
    let bare (c : Command) : Playback := { reply := channel.bareSuccess c.code }
    let a : SheMacVerification :=
      { extension := 0, key := 1, message := [], mac := Bytes.blank 16, macLength := 16, status := 1 }
    let session : Session Playback :=
      { transport := bare .sheVerifyMac, channel, identifier := 1, handles := { id := 1, capacity := 1 } }
    channel.Truncated Command.sheVerifyMac.code .sheVerifyMac (bare .sheVerifyMac).reply ∧
      ((channel.process Command.sheVerifyMac.code 1 (.sheVerifyMac a)).run (bare .sheVerifyMac)).1 =
        (.ok (), .sheVerifyMac { a with status := 0 }) ∧
      (Session.sheVerifyMac a session).1.1 = .ok 0 ∧
      channel.Truncated (Command.openService .hash).code (.openService .hash)
        (bare (.openService .hash)).reply ∧
      ((channel.process (Command.openService .hash).code 1 (.openService ⟨0, 7⟩)).run
        (bare (.openService .hash))).1 = (.ok (), .openService ⟨0, 0⟩) := by
  intro channel bare a session
  exact ⟨truncated_bareSuccess channel _ (by decide), by decide +kernel, by decide +kernel,
    truncated_bareSuccess channel _ (by decide), by decide +kernel⟩

end Channel

end SecureEngine
