import SecureEngine.Proofs.Effects

/-! # The course of a round trip

* **`Channel.verdict`** — what the header and the response code of a response say.
* **`Channel.frame`** — a request as it is sent.
* **`Channel.settle`** — what follows a success: the output is copied back and the arguments are
  completed.
* **`Channel.run_process`** — a round trip as one equation: it ends where preparing, sending or the
  verdict fails, and settles otherwise. -/

namespace SecureEngine.Channel

variable {σ : Type} [Transport σ]

/-- **What a client makes of a response** before it looks at the content: command and tag of the header,
and then `ResponseCode.outcome`. -/
def verdict (channel : Channel) (code : UInt8) (response : Bytes) : Except ClientError Unit :=
  let (header, status) := statusOf response
  if header.command ≠ code ∨ header.tag ≠ channel.unit.responseTag then
    .error (.unexpectedResponse code header.command)
  else (ResponseCode.outcome status).mapError .engine

/-- **A request as it is sent**: `Wire.finish` of its encoding, with the version and the tag of the
unit. -/
def frame (channel : Channel) {c : Command} (code : UInt8) (request : c.Request channel.flavor) :
    Bytes :=
  Wire.finish channel.unit.version channel.unit.commandTag code c.requestSealed
    (c.encodeRequest request)

/-- The arguments completed from a response, or left alone by a failure to complete them. -/
def conclude (channel : Channel) (code : UInt8) (response : Bytes) (arguments : Arguments) :
    Except ClientError Unit × Arguments :=
  match channel.table.complete channel.flavor code response arguments with
  | .ok completed => (.ok (), completed)
  | .error e => (.error e, arguments)

/-- **What follows a success**: the output buffer, if the request has one, is read back, and then
the arguments are completed. -/
def settle (channel : Channel) (code : UInt8) (output : Option Address) (response : Bytes)
    (arguments : Arguments) (s : σ) : (Except ClientError Unit × Arguments) × σ :=
  match output, arguments.output? with
  | some address, some out =>
    match Transport.readDataBuffer s address out with
    | (.ok written, s) =>
      (channel.conclude code response (arguments.withOutput (Bytes.overlay out written)), s)
    | (.error e, s) => ((.error (.transport e), arguments), s)
  | _, _ => (channel.conclude code response arguments, s)

/-! ## (1) The steps -/

/-- Preparing leaves the arguments alone: `Channel.prepare` runs `DispatchTable.prepare` on the
transport. -/
theorem run_prepare (channel : Channel) (code : UInt8) (handle : UInt32) (arguments : Arguments)
    (s : σ) :
    ((channel.prepare code handle).run arguments).run s =
      match (channel.table.prepare channel.flavor code handle Wire.maxMessageSize arguments).run s
      with
      | (r, t) => ((r, arguments), t) := rfl

/-- An exchange leaves the arguments alone: it is `Transport.sendAndReceive`, with what was written laid
over a blank response. -/
theorem run_exchange (request : Bytes) (size : Nat) (arguments : Arguments) (s : σ) :
    ((exchange request size).run arguments).run s =
      match Transport.sendAndReceive s request size with
      | ((.ok (), written), t) => ((.ok (Bytes.overlay (Bytes.blank size) written), arguments), t)
      | ((.error e, _), t) => ((.error (.transport e), arguments), t) := by
  simp only [exchange, ExceptT.run, ExceptT.mk, StateT.run]
  rcases Transport.sendAndReceive s request size with ⟨⟨_ | _, _⟩, _⟩ <;> rfl

omit [Transport σ] in
/-- The course of `Channel.complete` is that of `Channel.conclude`, and the transport stays as it was. -/
theorem run_complete (channel : Channel) (code : UInt8) (response : Bytes) (arguments : Arguments)
    (s : σ) :
    ((channel.complete code response).run arguments).run s =
      (channel.conclude code response arguments, s) := by
  simp only [complete, conclude, ExceptT.run, ExceptT.mk, StateT.run]
  cases channel.table.complete channel.flavor code response arguments <;> rfl

/-- Without an output buffer nothing is read back: `copyOutput` then does nothing. -/
theorem run_copyOutput_none {arguments : Arguments} (h : arguments.output? = none)
    (address : Address) (s : σ) :
    ((copyOutput address).run arguments).run s = ((.ok (), arguments), s) := by
  simp only [copyOutput, ExceptT.run, ExceptT.mk, StateT.run, h]

/-- An output buffer is replaced only if all of it could be read back. -/
theorem run_copyOutput_some {arguments : Arguments} {out : Bytes}
    (h : arguments.output? = some out) (address : Address) (s : σ) :
    ((copyOutput address).run arguments).run s =
      match Transport.readDataBuffer s address out with
      | (.ok written, t) => ((.ok (), arguments.withOutput (Bytes.overlay out written)), t)
      | (.error e, t) => ((.error (.transport e), arguments), t) := by
  simp only [copyOutput, ExceptT.run, ExceptT.mk, StateT.run, h]
  rcases Transport.readDataBuffer s address out with ⟨_ | _, _⟩ <;> rfl

/-- The end of a round trip with an output to read back: `copyOutput` and `complete` together are
`Channel.settle`. -/
theorem run_settle_some (channel : Channel) (code : UInt8) (address : Address) (response : Bytes)
    (arguments : Arguments) (s : σ) :
    ((copyOutput address >>= fun _ => channel.complete code response).run arguments).run s =
      channel.settle code (some address) response arguments s := by
  rw [Exchange.run_bind]
  -- Arguments without an output have nothing to copy to, and are completed at once.
  cases hout : arguments.output? with
  | none => simp only [run_copyOutput_none hout, run_complete, settle, hout]
  | some out =>
    simp only [run_copyOutput_some hout, settle, hout]
    rcases Transport.readDataBuffer s address out with ⟨_ | written, t⟩
    · rfl
    · exact run_complete channel code response _ t

/-! ## (2) The whole -/

/-- **The course of a round trip** by `Channel.process`. The registrations are dropped on every path. -/
theorem run_process (channel : Channel) (code : UInt8) (handle : UInt32) (arguments : Arguments)
    (s : σ) :
    (channel.process code handle arguments).run s =
      match (channel.table.prepare channel.flavor code handle Wire.maxMessageSize arguments).run s
      with
      | (.error e, s) => ((.error e, arguments), Transport.resetDataBuffers s)
      | (.ok ⟨c, prepared⟩, s) =>
        match Transport.sendAndReceive s (channel.frame code prepared.request)
          (c.responseSize channel.flavor) with
        | ((.error e, _), s) => ((.error (.transport e), arguments), Transport.resetDataBuffers s)
        | ((.ok (), written), s) =>
          let response := Bytes.overlay (Bytes.blank (c.responseSize channel.flavor)) written
          match channel.verdict code response with
          | .error e => ((.error e, arguments), Transport.resetDataBuffers s)
          | .ok () =>
            let (result, s) := channel.settle code prepared.output response arguments s
            (result, Transport.resetDataBuffers s) := by
  -- The registrations are cleared whatever the attempt gives, so it is enough to run the attempt.
  have hattempt : (channel.process code handle arguments).run s =
      ((((channel.attempt code handle).run arguments).run s).1,
        Transport.resetDataBuffers (((channel.attempt code handle).run arguments).run s).2) := rfl
  rw [hattempt, attempt, Exchange.run_bind, run_prepare]
  dsimp only
  rcases (channel.table.prepare channel.flavor code handle Wire.maxMessageSize arguments).run s with
    ⟨_ | ⟨c, prepared⟩, s₁⟩
  · rfl
  dsimp only
  rw [Exchange.run_bind, run_exchange, ← frame]
  rcases Transport.sendAndReceive s₁ (channel.frame code prepared.request)
    (c.responseSize channel.flavor) with ⟨⟨_ | _, written⟩, s₂⟩
  · rfl
  dsimp only [verdict]
  split
  · rfl
  cases ResponseCode.outcome
    (statusOf (Bytes.overlay (Bytes.blank (c.responseSize channel.flavor)) written)).2 with
  | error e => rfl
  | ok _ =>
    dsimp only [Except.mapError]
    cases prepared.output with
    | none =>
      rw [run_complete]
      rfl
    | some address => rw [run_settle_some]

end SecureEngine.Channel
