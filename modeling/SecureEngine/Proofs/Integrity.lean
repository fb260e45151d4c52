import SecureEngine.Emulator.Device
import SecureEngine.Proofs.DispatchTable
import SecureEngine.Proofs.Replies
import SecureEngine.Session.She

/-! # What a wrong checksum leaves behind

Only the identity of the engine is answered with a checksum. The output has been read back when the
checksum is looked at, so a round trip that finds it wrong has replaced the MAC.

* **`Command.complete_integrityFailure`** — a checksum is looked at for the identity only.
* **`Channel.Unauthenticated`**, **`Channel.process_integrityFailure_iff`** — when a round trip fails on a
  checksum, and what it leaves: identity, status register and challenge as they were, and the MAC that was
  read back.
* **`Session.sheIdentity_integrityFailure`** — a session clears the MAC when that happens. -/

namespace SecureEngine

/-! ## (1) Checksums of responses -/

namespace Command

variable {flavor : Flavor} {c : Command} {bytes : Bytes} {m : Checksum.Mismatch}

/-- A response of the size of its layout is refused for its checksum just if it should have one and has
a wrong one. -/
theorem decodeResponse_integrityFailure_iff (hl : bytes.length = c.responseSize flavor) :
    c.decodeResponse flavor bytes = .error (.integrityFailure m) ↔
      c.responseSealed = true ∧ Checksum.check bytes = .error m := by
  rw [decodeResponse_of_length hl]
  split
  · rename_i hsealed
    cases Checksum.check bytes with
    | ok _ => simp [hsealed]
    | error m' => simp [hsealed]
  · rename_i hsealed
    simp [hsealed]

/-- Completing from a decoded response fails as decoding does: an `integrityFailure` comes from
`Checksum.check` of a response of the right length. -/
theorem bind_decodeResponse_integrityFailure {f : c.Response flavor → Arguments}
    (hl : bytes.length = c.responseSize flavor)
    (h : (do return f (← c.decodeResponse flavor bytes)) = Except.error (.integrityFailure m)) :
    c.responseSealed = true ∧ Checksum.check bytes = .error m := by
  rw [← decodeResponse_integrityFailure_iff hl]
  cases hd : c.decodeResponse flavor bytes with
  | ok response =>
    rw [hd] at h
    cases h
  | error e =>
    rw [hd] at h
    exact congrArg Except.error (Except.error.inj h)

/-- **A checksum is looked at for the identity only**: no other command has `responseSealed`, so
`Command.complete` fails in this way for `sheIdentity`. -/
theorem complete_integrityFailure {arguments : Arguments} (hl : bytes.length = c.responseSize flavor)
    (h : c.complete flavor bytes arguments = .error (.integrityFailure m)) :
    c = .sheIdentity ∧ Checksum.check bytes = .error m := by
  have hsealed (hc : c.responseSealed = true) : c = .sheIdentity := by
    cases c <;> first | rfl | cases hc
  -- A command completes by decoding the response, without it, or not at all with these arguments.
  rcases c.complete_cases flavor bytes arguments with ⟨-, put, hput⟩ | ⟨-, hne⟩ | ⟨-, hrefused⟩
  · obtain ⟨hc, hcheck⟩ := bind_decodeResponse_integrityFailure hl (hput.symm.trans h)
    exact ⟨hsealed hc, hcheck⟩
  · exact absurd h (hne m)
  · rw [hrefused] at h
    cases h

/-- A response of the right size whose checksum is wrong leaves the identity incomplete. -/
theorem complete_sheIdentity_of_check (a : SheIdentification)
    (hl : bytes.length = sheIdentity.responseSize flavor) (h : Checksum.check bytes = .error m) :
    sheIdentity.complete flavor bytes (.sheIdentity a) = .error (.integrityFailure m) := by
  have hdecode := (decodeResponse_integrityFailure_iff (c := .sheIdentity) hl).mpr ⟨rfl, h⟩
  simp only [complete, hdecode]
  rfl

end Command

/-! ## (2) The MAC of an identification -/

section

variable {σ : Type} [Transport σ]

/-- **A `Prepared` identification has its MAC staged** as the output. -/
theorem Prepared.Attaches.sheIdentity {flavor : Flavor} {arguments : Arguments}
    {p : Prepared flavor .sheIdentity} {placements : List Placement} {s t : σ}
    (h : p.Attaches arguments placements) (hplaced : Placed s placements t) :
    ∃ (a : SheIdentification) (address : Address),
      arguments = .sheIdentity a ∧ p.output = some address := by
  have hreferences := h.references_eq
  obtain ⟨q, rfl, hq⟩ := List.map_eq_singleton_iff.mp hreferences
  have hout : q.isOutput = true := congrArg BufferReference.output hq
  have hsize : q.attachment.size = Engine.sheSize := congrArg BufferReference.size hq
  -- The MAC has sixteen bytes, so it is not left out.
  have hne : q.attachment.buffer ≠ [] := by
    intro hempty
    have hfits := h.fits q (List.mem_singleton_self q)
    rw [hsize, hempty] at hfits
    exact absurd hfits (by decide)
  have hattachments := h.attachments_eq
  obtain ⟨a, rfl⟩ : ∃ a, arguments = .sheIdentity a := by
    cases arguments <;> first | exact ⟨_, rfl⟩ | cases hattachments
  refine ⟨a, ?_⟩
  have haddress : p.output = q.address := by
    have houtput := h.output
    generalize p.output = output at houtput ⊢
    cases houtput with
    | none hnone => simp [hout] at hnone
    | one hone haddress _ =>
      simp only [List.filter_cons_of_pos hout, List.filter_nil, List.cons.injEq, and_true] at hone
      rw [haddress, hone]
  cases hplaced with
  | leftOut hempty _ => exact absurd hempty hne
  | staged _ _ _ => exact ⟨_, rfl, haddress⟩

namespace Channel

variable {channel : Channel} {code : UInt8} {handle : UInt32} {arguments after : Arguments} {s : σ}
  {m : Checksum.Mismatch}

/-- An `Answered` identification has its MAC staged. -/
theorem Answered.sheIdentity {p : Prepared channel.flavor .sheIdentity} {reply : Bytes} {t : σ}
    (h : channel.Answered code handle arguments s p reply t) :
    ∃ (a : SheIdentification) (address : Address),
      arguments = .sheIdentity a ∧ p.output = some address := by
  obtain ⟨between, hprepare, -⟩ := h
  obtain ⟨-, placements, hplaced, hp⟩ := DispatchTable.placed_of_prepare hprepare
  exact hp.sheIdentity hplaced

/-- Fetching the output of an identification replaces its MAC by what `Transport.readDataBuffer` gave, and
leaves the rest of the `SheIdentification`. -/
theorem fetch_sheIdentity_iff {a : SheIdentification} {address : Address} {t : σ}
    {fetched : Arguments} :
    (fetch (some address) (.sheIdentity a) t).1 = .ok fetched ↔
      ∃ mac, (Transport.readDataBuffer t address a.mac).1 = .ok mac ∧
        fetched = .sheIdentity { a with mac := Bytes.overlay a.mac mac } := by
  unfold fetch
  dsimp only [Arguments.output?]
  rcases Transport.readDataBuffer t address a.mac with ⟨e | mac, u⟩
  · exact ⟨nofun, nofun⟩
  · constructor
    · rintro ⟨⟩
      exact ⟨mac, rfl, rfl⟩
    · rintro ⟨_, ⟨⟩, rfl⟩
      rfl

/-- **An identification was answered with a success whose checksum is wrong**, and its MAC was read back.
Afterwards the MAC is what was read; challenge, identity and status register are as before. -/
inductive Unauthenticated (channel : Channel) (code : UInt8) (handle : UInt32) (s : σ)
    (m : Checksum.Mismatch) : Arguments → Arguments → Prop
  | intro {a : SheIdentification} {p : Prepared channel.flavor .sheIdentity} {reply : Bytes} {t : σ}
      {address : Address} {mac : Bytes}
      (ha : channel.Answered code handle (.sheIdentity a) s p reply t)
      (hverdict : channel.verdict code (channel.received .sheIdentity reply) = .ok ())
      (hcheck : Checksum.check (channel.received .sheIdentity reply) = .error m)
      (hout : p.output = some address)
      (hread : (Transport.readDataBuffer t address a.mac).1 = .ok mac) :
      Unauthenticated channel code handle s m (.sheIdentity a)
        (.sheIdentity { a with mac := Bytes.overlay a.mac mac })

/-- A round trip of `process` fails on a checksum in no other way. -/
theorem unauthenticated_of_integrityFailure
    (h : ((channel.process code handle arguments).run s).1 = (.error (.integrityFailure m), after)) :
    channel.Unauthenticated code handle s m arguments after := by
  rcases channel.answered_or_failed code handle arguments s with
    ⟨c, p, reply, t, ha, hverdict⟩ | ⟨e, herror, hne⟩
  · rw [run_process_of_answered ha, hverdict] at h
    dsimp only at h
    cases hfetch : (fetch p.output arguments t).1 with
    | error e =>
      rw [hfetch] at h
      cases h
    | ok fetched =>
      rw [hfetch] at h
      dsimp only at h
      rw [conclude_eq ha.get?_eq] at h
      split at h
      · cases h
      rename_i e hcomplete
      cases h
      -- Only the identity of the engine is answered with a checksum.
      obtain ⟨rfl, hcheck⟩ := Command.complete_integrityFailure (length_received _ _ _) hcomplete
      obtain ⟨a, address, rfl, hout⟩ := ha.sheIdentity
      obtain ⟨mac, hread, rfl⟩ := fetch_sheIdentity_iff.mp (hout ▸ hfetch)
      exact .intro ha hverdict hcheck hout hread
  · -- Any other failure of a call is no failure of integrity.
    rw [herror] at h
    cases h
    exact absurd rfl (hne m)

/-- **When a round trip fails on a checksum, and what it leaves.** The MAC has been replaced by then, and
nothing else. -/
theorem process_integrityFailure_iff :
    ((channel.process code handle arguments).run s).1 = (.error (.integrityFailure m), after) ↔
      channel.Unauthenticated code handle s m arguments after := by
  constructor
  · exact unauthenticated_of_integrityFailure
  · rintro ⟨ha, hverdict, hcheck, hout, hread⟩
    have hfetch := fetch_sheIdentity_iff.mpr ⟨_, hread, rfl⟩
    rw [run_process_of_answered ha, hverdict, hout]
    dsimp only
    rw [hfetch]
    dsimp only
    rw [conclude_eq ha.get?_eq, Command.complete_sheIdentity_of_check _ (length_received _ _ _) hcheck]

/-- A device without a MAC key writes zeros over the MAC, and the fault spoils the checksum only. -/
theorem exists_mac_replaced : ∃ (channel : Channel) (d : Device) (a : SheIdentification)
    (m : Checksum.Mismatch) (after : Arguments),
    ((channel.process Command.sheIdentity.code 0 (.sheIdentity a)).run d).1 =
      (.error (.integrityFailure m), after) ∧ after ≠ .sheIdentity a := by
  let d : Device :=
    { machine :=
        { engine := .start {}
          memory := { window := some (0x20000000, 0x20000040), secureCursor := 0x20000000 } }
      faults := [.corruptChecksum] }
  let a : SheIdentification := { challenge := Vector.replicate 16 0, mac := List.replicate 16 0xFF }
  exact ⟨⟨.enabling [.full], .standard, .legacy⟩, d, a, ⟨0xBBE607D0, 0x44E607D0⟩,
    .sheIdentity { a with mac := Bytes.blank 16 }, by decide +kernel, by decide⟩

end Channel

/-- **A session hides what was read back**: the MAC that it leaves is blank. -/
theorem Session.sheIdentity_integrityFailure {s : Session σ} {a : SheIdentification}
    {m : Checksum.Mismatch} {after : Arguments}
    (h : (sheIdentity a s).1 = (.error (.integrityFailure m), after)) :
    after = .sheIdentity { a with mac := Bytes.blank a.mac.length } := by
  unfold sheIdentity yielding at h
  dsimp only at h
  rcases hask : ask .sheIdentity (.sheIdentity a) s with ⟨⟨outcome, arguments⟩, t⟩
  rw [hask] at h
  cases outcome with
  | ok _ =>
    -- A result of another kind is no matter of checksums.
    cases arguments <;> cases h
  | error e =>
    cases h
    unfold ask at hask
    cases haddress : s.address with
    | error e =>
      rw [haddress] at hask
      cases hask
      rfl
    | ok handle =>
      rw [haddress] at hask
      have hprocess : ((s.channel.process Command.sheIdentity.code handle (.sheIdentity a)).run
          s.transport).1 = (.error (.integrityFailure m), arguments) := congrArg Prod.fst hask
      cases Channel.unauthenticated_of_integrityFailure hprocess
      rfl

end

end SecureEngine
