import SecureEngine.Completion

/-! # When completing a request fails

* **`Command.CompletesIntact`** — once the output has been copied back, completing can only fail on
  the checksum of the response.
* A response of the right size is decoded unless its checksum is wrong, so this holds of every kind of
  request that has an output. -/

namespace SecureEngine.Command

/-- A response of the size of its layout is refused for its checksum only. -/
theorem decodeResponse_error {flavor : Flavor} {c : Command} {bytes : Bytes} {e : ClientError}
    (hl : bytes.length = c.responseSize flavor) (h : c.decodeResponse flavor bytes = .error e) :
    ∃ m, e = .integrityFailure m := by
  unfold decodeResponse at h
  dsimp only at h
  rw [if_neg (by omega)] at h
  split at h
  · split at h
    · exact absurd h (by simp)
    · rename_i m _
      exact ⟨m, by simpa using h.symm⟩
  · exact absurd h (by simp)

/-- Completing from a decoded response fails only where `decodeResponse` does, so for the checksum
only. -/
theorem bind_decodeResponse_error {flavor : Flavor} {c : Command} {bytes : Bytes} {e : ClientError}
    {f : c.Response flavor → Arguments} (hl : bytes.length = c.responseSize flavor)
    (h : (do return f (← c.decodeResponse flavor bytes) : Except ClientError Arguments) = .error e) :
    ∃ m, e = .integrityFailure m := by
  cases hd : c.decodeResponse flavor bytes with
  | error e' =>
    rw [hd] at h
    obtain rfl : e' = e := by simpa [bind, Except.bind] using h
    exact decodeResponse_error hl hd
  | ok m =>
    rw [hd] at h
    exact absurd h (by simp [bind, Except.bind, pure, Except.pure])

/-- **A request whose arguments, with any content of the output buffer, are completed from every
response of the right size**, unless the checksum of the response is wrong. -/
def CompletesIntact (flavor : Flavor) (c : Command) (arguments : Arguments) : Prop :=
  ∀ (out buffer bytes : Bytes) (e : ClientError), arguments.output? = some out →
    buffer.length = out.length → bytes.length = c.responseSize flavor →
    c.complete flavor bytes (arguments.withOutput buffer) = .error e →
    ∃ m, e = .integrityFailure m

variable {flavor : Flavor}

/-- Generating a key with `generateKey` is completed with the identifier in the response. -/
theorem completesIntact_generateKey (a : KeyGeneration) :
    generateKey.CompletesIntact flavor (.generateKey a) :=
  fun _ _ _ _ _ _ hl h => bind_decodeResponse_error hl h

/-- Generating a key with `generateKeyExt`, so with a minimal MAC length, is completed just as without. -/
theorem completesIntact_generateKeyExt (a : KeyGeneration) :
    generateKeyExt.CompletesIntact flavor (.generateKey a) :=
  fun _ _ _ _ _ _ hl h => bind_decodeResponse_error hl h

/-- A `MacOperation` is completed with the verdict in the response. -/
theorem completesIntact_mac (a : MacOperation) : mac.CompletesIntact flavor (.mac a) :=
  fun _ _ _ _ _ _ hl h => bind_decodeResponse_error hl h

/-- A `CipherOperation` is completed with the size in the response. -/
theorem completesIntact_cipher (a : CipherOperation) : cipher.CompletesIntact flavor (.cipher a) :=
  fun _ _ _ _ _ _ hl h => bind_decodeResponse_error hl h

/-- A digest has nothing to complete but its output, so `Command.CompletesIntact` holds for every
`HashOperation`. -/
theorem completesIntact_hash (a : HashOperation) : hash.CompletesIntact flavor (.hash a) :=
  fun _ _ _ _ _ _ _ h => absurd h (by simp [complete, Arguments.withOutput])

/-- Legacy firmware does not tell the size of a signature, so it is the size of the buffer, which
fitted when the request was prepared. -/
theorem completesIntact_sign {a : SignOperation} {n : UInt16}
    (ha : halfSize .signatureBuffer a.signature = .ok n) : sign.CompletesIntact flavor (.sign a) := by
  intro out buffer bytes e hout hb hl h
  cases flavor with
  | psa => exact bind_decodeResponse_error (c := .sign) hl h
  | legacy =>
    -- The legacy flavor only measures the buffer, which was measured before the request.
    obtain rfl : a.signature = out := by simpa [Arguments.output?] using hout
    have hsize : halfSize .signatureBuffer buffer = .ok n := by
      rw [← ha]
      simp only [halfSize, hb]
    simp [complete, Arguments.withOutput, hsize, bind, Except.bind, pure, Except.pure] at h

/-- A `random` request has nothing to complete but its output. -/
theorem completesIntact_random (output : Bytes) : random.CompletesIntact flavor (.random output) :=
  fun _ _ _ _ _ _ _ h => absurd h (by simp [complete, Arguments.withOutput])

/-- A `sheGenerateMac` request has nothing to complete but its output. -/
theorem completesIntact_sheGenerateMac (a : SheMacGeneration) :
    sheGenerateMac.CompletesIntact flavor (.sheGenerateMac a) :=
  fun _ _ _ _ _ _ _ h => absurd h (by simp [complete, Arguments.withOutput])

/-- A `sheRandom` request has nothing to complete but its output. -/
theorem completesIntact_sheRandom (output : Bytes) :
    sheRandom.CompletesIntact flavor (.sheRandom output) :=
  fun _ _ _ _ _ _ _ h => absurd h (by simp [complete, Arguments.withOutput])

/-- A `sheIdentity` request is completed with the identity and the status in the response. -/
theorem completesIntact_sheIdentity (a : SheIdentification) :
    sheIdentity.CompletesIntact flavor (.sheIdentity a) :=
  fun _ _ _ _ _ _ hl h => bind_decodeResponse_error hl h

/-! ## Failures of the engine -/

/-- Reading a response tells of no failure of the engine, but of a short or damaged response at most. -/
theorem bind_decodeResponse_ne_engine {c : Command} {bytes : Bytes} {x : EngineError}
    (f : c.Response flavor → Arguments) :
    (do return f (← c.decodeResponse flavor bytes)) ≠ Except.error (ClientError.engine x) := by
  intro h
  cases hd : c.decodeResponse flavor bytes with
  | ok m =>
    rw [hd] at h
    cases h
  | error e =>
    rw [hd] at h
    obtain rfl : e = .engine x := Except.error.inj h
    unfold decodeResponse at hd
    dsimp only at hd
    repeat' split at hd
    all_goals cases hd

/-- **Completing a request tells of no failure of the engine**; that is up to the response code. -/
theorem complete_ne_engine {c : Command} {bytes : Bytes} {arguments : Arguments} {x : EngineError} :
    c.complete flavor bytes arguments ≠ .error (.engine x) := by
  unfold complete
  split
  case h_11 a =>
    -- Legacy firmware does not tell the size of a signature.
    cases flavor with
    | psa => exact bind_decodeResponse_ne_engine (c := .sign) _
    | legacy =>
      dsimp only
      unfold halfSize
      split <;> nofun
  all_goals first | exact bind_decodeResponse_ne_engine _ | nofun

end SecureEngine.Command
