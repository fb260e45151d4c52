import SecureEngine.Proofs.Exchanges

/-! # Failure codes on the wire

An error is sent as one byte. The response code takes the low byte of the error's code, while the rating
of an error clamps wider codes to the byte of a general error; the two are the same for codes of one byte.

* **`EngineError.told`** — the error that a client should hear of: a catalogued one itself, and otherwise a
  general error.
* **`EngineError.PassesFor`** — a code is wider than a byte and ends in the byte of a reason.
* **`ResponseCode.Carries`** — what a failure code says of its error; **`ResponseCode.carries`** — so it is
  for every error: codes of one byte are told as they are, and wider ones by their low byte.
* **`ResponseCode.exists_miscarried`** — some error is told as another one that is catalogued. -/

namespace SecureEngine

/-! ## (1) Reasons by code -/

/-- The reason behind a byte is the one with this code: `Reason.ofCode?` and `Reason.code` are inverse to
each other. -/
theorem Reason.ofCode?_eq_some_iff {b : UInt8} {r : Reason} : ofCode? b = some r ↔ r.code = b := by
  constructor
  · intro h
    have hcode : (r.code == b) = true := List.find?_some (p := fun r : Reason => r.code == b) h
    exact eq_of_beq hcode
  · rintro rfl
    exact ofCode?_code r

namespace EngineError

/-- The reason of an error is the one that it is the error of. -/
theorem reason?_eq_some_iff {e : EngineError} {r : Reason} : e.reason? = some r ↔ e = r.toError := by
  constructor
  · intro h
    have hcode : (r.code.toUInt32 == e.code) = true :=
      List.find?_some (p := fun r : Reason => r.code.toUInt32 == e.code) h
    have hcode := eq_of_beq hcode
    obtain ⟨code, hne⟩ := e
    obtain rfl : r.code.toUInt32 = code := hcode
    rfl
  · rintro rfl
    exact r.reason?_toError

/-- **The error that a client should hear of**: a catalogued one itself, and otherwise a general error. -/
def told (e : EngineError) : EngineError :=
  if e.reason?.isSome then e else Reason.generalError.toError

/-- What a client is told of an error is the error of its reason, or `generalError` if its rating is that
of none. -/
theorem told_eq (e : EngineError) : e.told = (e.reason?.getD .generalError).toError := by
  unfold told
  cases h : e.reason? with
  | none => rfl
  | some r => exact reason?_eq_some_iff.mp h

/-- **An error passes for a reason**: its code has more than a byte, and ends in the byte of the reason. -/
def PassesFor (e : EngineError) (r : Reason) : Prop := 0x100 ≤ e.code ∧ e.code.toUInt8 = r.code

/-- A code of one byte is not changed by taking its low byte, as `ResponseCode.failure` does. -/
theorem toUInt32_toUInt8_code {e : EngineError} (h : e.code < 0x100) :
    e.code.toUInt8.toUInt32 = e.code := by
  have hlt : e.code.toNat < 256 := UInt32.lt_iff_toNat_lt.mp h
  apply UInt32.toNat_inj.mp
  rw [UInt8.toNat_toUInt32, UInt32.toNat_toUInt8]
  exact Nat.mod_eq_of_lt hlt

/-- A code of one byte has the reason of that byte, if `Reason.ofCode?` knows one. -/
theorem reason?_of_lt {e : EngineError} (h : e.code < 0x100) :
    e.reason? = Reason.ofCode? e.code.toUInt8 := by
  refine Option.ext fun r => ?_
  rw [reason?_eq_some_iff, Reason.ofCode?_eq_some_iff]
  constructor
  · rintro rfl
    exact (UInt8.toUInt8_toUInt32 r.code).symm
  · intro hcode
    -- A code below `0x100` comes back from a byte as it was.
    have hwide := toUInt32_toUInt8_code h
    rw [← hcode] at hwide
    obtain ⟨code, hne⟩ := e
    obtain rfl : r.code.toUInt32 = code := hwide
    rfl

/-- A wider code is not catalogued: `EngineError.reason?` looks at codes of one byte only. -/
theorem reason?_of_le {e : EngineError} (h : 0x100 ≤ e.code) : e.reason? = none := by
  refine Option.eq_none_iff_forall_ne_some.mpr fun r hr => ?_
  obtain rfl := reason?_eq_some_iff.mp hr
  have hle : 256 ≤ r.code.toUInt32.toNat := UInt32.le_iff_toNat_le.mp h
  rw [UInt8.toNat_toUInt32] at hle
  exact absurd r.code.toNat_lt (Nat.not_lt.mpr hle)

/-- The error behind a rating is that of its reason, if there is one. -/
theorem ofRating_of_code {b : UInt8} {r : Reason} (h : r.code = b) : ofRating b = r.toError := by
  rw [← h, ofRating_code]

/-- A rating stands for a general error just if no other reason has it. -/
theorem ofRating_eq_generalError_iff {b : UInt8} :
    ofRating b = Reason.generalError.toError ↔ ∀ r : Reason, r.code = b → r = .generalError := by
  constructor
  · intro h r hr
    rw [ofRating_of_code hr] at h
    exact Reason.toError_inj.mp h
  · intro h
    unfold ofRating
    cases hr : Reason.ofCode? b with
    | none => rfl
    | some r =>
      rw [h r (Reason.ofCode?_eq_some_iff.mp hr)]
      rfl

end EngineError

/-! ## (2) Response codes -/

namespace ResponseCode

open EngineError

/-- **What a failure code says of its error**, to whoever takes the code apart and to a client. -/
structure Carries (e : EngineError) : Prop where
  /-- The rating is that of the error, unless the code is cut and the rest is not the clamped byte. -/
  rating_eq_iff : rating (failure e) = e.rating ↔ 0x100 ≤ e.code → e.code.toUInt8 = 0xFF
  /-- The error is told as it should be, unless it passes for another reason. -/
  outcome_eq_iff : outcome (failure e) = .error e.told ↔ ∀ r, e.PassesFor r → r = .generalError
  /-- What passes for a reason is told as the error of that reason, which it is not. -/
  passes : ∀ r, e.PassesFor r → outcome (failure e) = .error r.toError ∧ e.reason? = none
  /-- A client that knows the header values of the engine is told the same, by a response of any size. -/
  verdict_eq : ∀ (channel : Channel) (engine : Engine) (command : UInt8) (size : Nat),
    channel.unit = engine.settings.unit → Command.statusSize ≤ size →
      channel.verdict command (Bytes.overlay (Bytes.blank size)
        ((engine.statusReply command (failure e)).bytes.take size)) =
          (outcome (failure e)).mapError .engine

/-- The rating byte of a failure is the lower byte of its code, because `ResponseCode.compose` puts it
there unchanged. -/
theorem rating_failure (e : EngineError) : rating (failure e) = e.code.toUInt8 := rating_compose _ _

/-- Low byte and clamped byte of a code: the rating of `ResponseCode.failure` is `EngineError.rating`,
unless the code is wider than a byte and its low byte is not `0xFF`. -/
theorem rating_failure_eq_iff (e : EngineError) :
    rating (failure e) = e.rating ↔ 0x100 ≤ e.code → e.code.toUInt8 = 0xFF := by
  rw [rating_failure, EngineError.rating]
  split
  · rename_i hlt
    exact iff_of_true rfl fun hle => absurd hlt (UInt32.not_lt.mpr hle)
  · rename_i hge
    exact ⟨fun h _ => h, fun h => h (UInt32.not_lt.mp hge)⟩

/-- The error told for a low byte, and the one that should be: the two agree unless the code `PassesFor` a
reason that is not the general one. -/
theorem outcome_failure_eq_iff (e : EngineError) :
    outcome (failure e) = .error e.told ↔ ∀ r, e.PassesFor r → r = .generalError := by
  rw [outcome_failure, Except.error.injEq, told_eq]
  by_cases hlt : e.code < 0x100
  · refine iff_of_true ?_ fun r hr => absurd hlt (UInt32.not_lt.mpr hr.1)
    rw [reason?_of_lt hlt]
    rfl
  · have hge : 0x100 ≤ e.code := UInt32.not_lt.mp hlt
    rw [reason?_of_le hge, Option.getD_none, ofRating_eq_generalError_iff]
    exact ⟨fun h r hr => h r hr.2.symm, fun h r hr => h r ⟨hge, hr.symm⟩⟩

/-- **What becomes of every error on the wire**: the code of a failure carries the low byte of the error,
so an error of one byte has its rating there and is told as it should be. A wider one has the rating there
that it should have just if it ends in this byte, and is told as another error than a general one just if
it ends in the byte of another reason. -/
theorem carries (e : EngineError) : Carries e where
  rating_eq_iff := rating_failure_eq_iff e
  outcome_eq_iff := outcome_failure_eq_iff e
  passes r hr := by
    refine ⟨?_, reason?_of_le hr.1⟩
    rw [outcome_failure, ofRating_of_code hr.2.symm]
  verdict_eq channel engine command size hunit hsize :=
    Channel.verdict_received (hunit ▸ engine.answers_statusReply command _) hsize

/-- A code with two bytes that ends in the one of an unknown handle. -/
def wideError : EngineError := ⟨0x107, by decide⟩

/-- An error of more than a byte passes for one with the same lower byte: this one for `unknownHandle`. -/
theorem passesFor_wideError : wideError.PassesFor .unknownHandle := by
  unfold EngineError.PassesFor
  decide

/-- It is told as an unknown handle: `wideError` has the code `0x107`, whose low byte is that of
`Reason.unknownHandle`. -/
theorem carries_wideError :
    wideError.PassesFor .unknownHandle ∧
      outcome (failure wideError) = .error Reason.unknownHandle.toError ∧ wideError.reason? = none :=
  ⟨passesFor_wideError, (carries wideError).passes .unknownHandle passesFor_wideError⟩

/-- **Some error does not survive**: neither is its rating in the response code, nor is it told as the
general error that an error outside the catalogue should be told as. -/
theorem exists_miscarried :
    (¬∀ e : EngineError, rating (failure e) = e.rating) ∧
      ¬∀ e : EngineError, outcome (failure e) = .error e.told := by
  refine ⟨fun h => absurd (h wideError) (by decide), fun h => ?_⟩
  have honly := (outcome_failure_eq_iff wideError).mp (h wideError)
  exact absurd (honly .unknownHandle passesFor_wideError) (by decide)

end ResponseCode

end SecureEngine
