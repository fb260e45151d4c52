import SecureEngine.EngineError

/-! # Response codes

Every response carries a word after its header: the status in the low byte, the rating in the next.

* **`ResponseCode.compose`**, **`ResponseCode.status`**, **`ResponseCode.rating`** — the two bytes,
  put together and taken apart.
* **`ResponseCode.success`**, **`ResponseCode.failure`** — the words an engine answers with.
* **`ResponseCode.outcome`** — what a word means: anything but the success status is a failure,
  named by the rating. -/

namespace SecureEngine.ResponseCode

/-- The status byte of a success. -/
def successStatus : UInt8 := 0xD6

/-- The status byte of a failure. -/
def failureStatus : UInt8 := 0x29

/-- The status byte of a response code. -/
def status (code : UInt32) : UInt8 := code.toUInt8

/-- The rating byte of a response code. -/
def rating (code : UInt32) : UInt8 := (code >>> 8).toUInt8

/-- A response code from its two bytes. -/
def compose (status rating : UInt8) : UInt32 := status.toUInt32 ||| (rating.toUInt32 <<< 8)

/-- The response code of a success. -/
def success : UInt32 := compose successStatus 0

/-- The response code of a failure: the low byte of the error code is the rating. -/
def failure (e : EngineError) : UInt32 := compose failureStatus e.code.toUInt8

/-- **What a response code means.** -/
def outcome (code : UInt32) : Except EngineError Unit :=
  if status code = successStatus then .ok () else .error (EngineError.ofRating (rating code))

/-- The success code means success. -/
@[simp] theorem outcome_success : outcome success = .ok () := rfl

end SecureEngine.ResponseCode
