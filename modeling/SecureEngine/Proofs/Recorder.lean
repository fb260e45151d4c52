import SecureEngine.Proofs.RoundTrip

/-! # Transports that keep a record

Any transport can be wrapped so that every call on it is noted, with the state it was made in. What
a client sends is read off the record.

* **`TransportCall`** — a call of a transport with the state before it.
* **`Recorder`** — a transport with the calls made on it so far.
* **`SentRequest`**, **`Recorder.sent`** — the requests among the calls.
* **`Staged`** — a transport passes from one state to another by staging buffers. -/

namespace SecureEngine

/-- **A call of a transport**, with the state of the transport before it: one case for each operation of
`Transport`. -/
inductive TransportCall (σ : Type)
  | exchange (before : σ) (request : Bytes) (size : Nat)
  | stage (before : σ) (buffer : Bytes) (use : BufferUse)
  | readBack (before : σ) (address : Address) (out : Bytes)
  | reset (before : σ)
  | configure (before : σ) (offset size : UInt32)
  | close (before : σ)

/-- **A request** with the state of the transport before it is sent, so that its
`Transport.sendAndReceive` can be told. -/
structure SentRequest (σ : Type) where
  before : σ
  request : Bytes
  /-- The size of the response buffer. -/
  size : Nat

/-- The request that a call sends, if it is an `exchange`; all other calls send none. -/
def TransportCall.sent? {σ : Type} : TransportCall σ → Option (SentRequest σ)
  | .exchange before request size => some ⟨before, request, size⟩
  | _ => none

/-- An `exchange` is among some calls just if they send its request, so `sent?` loses none. -/
theorem TransportCall.exchange_mem_iff {σ : Type} {before : σ} {request : Bytes} {size : Nat}
    {calls : List (TransportCall σ)} :
    exchange before request size ∈ calls ↔ ⟨before, request, size⟩ ∈ calls.filterMap sent? := by
  rw [List.mem_filterMap]
  constructor
  · exact fun h => ⟨_, h, rfl⟩
  · rintro ⟨call, h, hsent⟩
    cases call with
    | exchange =>
      cases hsent
      exact h
    | _ => cases hsent

/-- **A transport with a record of the calls made on it**, oldest first. It is a `Transport` that does and
answers what the one inside it does. -/
structure Recorder (σ : Type) where
  transport : σ
  calls : List (TransportCall σ) := []

namespace Recorder

variable {σ : Type}

/-- The `Recorder` after a call that left the transport in another state. -/
def note (r : Recorder σ) (call : TransportCall σ) (after : σ) : Recorder σ :=
  ⟨after, r.calls ++ [call]⟩

/-- **The requests that were sent**, oldest first: the calls on the record for which `TransportCall.sent?`
has one. -/
def sent (r : Recorder σ) : List (SentRequest σ) := r.calls.filterMap TransportCall.sent?

instance [Transport σ] : Transport (Recorder σ) where
  sendAndReceive r request size :=
    let (reply, after) := Transport.sendAndReceive r.transport request size
    (reply, r.note (.exchange r.transport request size) after)
  dataBuffer r buffer use :=
    let (address, after) := Transport.dataBuffer r.transport buffer use
    (address, r.note (.stage r.transport buffer use) after)
  readDataBuffer r address out :=
    let (written, after) := Transport.readDataBuffer r.transport address out
    (written, r.note (.readBack r.transport address out) after)
  resetDataBuffers r := r.note (.reset r.transport) (Transport.resetDataBuffers r.transport)
  configureWindow r offset size :=
    let (configured, after) := Transport.configureWindow r.transport offset size
    (configured, r.note (.configure r.transport offset size) after)
  close r := r.note (.close r.transport) (Transport.close r.transport)

section

variable [Transport σ]

/-- A `Recorder` passes an exchange on, and notes the request and the state before it. -/
theorem sendAndReceive_eq (r : Recorder σ) (request : Bytes) (size : Nat) :
    Transport.sendAndReceive r request size =
      ((Transport.sendAndReceive r.transport request size).1,
        r.note (.exchange r.transport request size)
          (Transport.sendAndReceive r.transport request size).2) := rfl

/-- A `Recorder` passes a read-back on, and notes its `Address`. -/
theorem readDataBuffer_eq (r : Recorder σ) (address : Address) (out : Bytes) :
    Transport.readDataBuffer r address out =
      ((Transport.readDataBuffer r.transport address out).1,
        r.note (.readBack r.transport address out)
          (Transport.readDataBuffer r.transport address out).2) := rfl

/-- A `Recorder` passes a reset on, and notes it. -/
theorem resetDataBuffers_eq (r : Recorder σ) :
    Transport.resetDataBuffers r = r.note (.reset r.transport)
      (Transport.resetDataBuffers r.transport) := rfl

end

end Recorder

/-! ## Staging -/

section Staging

variable {σ : Type} [Transport σ]

/-- **A transport passes from one state to another by calls that stage buffers**, each of them a
`Transport.dataBuffer`, whatever it answers. -/
inductive Staged : σ → List (TransportCall σ) → σ → Prop
  | nil (s : σ) : Staged s [] s
  | cons {s t : σ} {rest : List (TransportCall σ)} (buffer : Bytes) (use : BufferUse)
      (h : Staged (Transport.dataBuffer s buffer use).2 rest t) :
      Staged s (.stage s buffer use :: rest) t

/-- Buffers that are `Staged` after others are staged with them, in this order. -/
theorem Staged.append {s t u : σ} {first second : List (TransportCall σ)}
    (h₁ : Staged s first t) (h₂ : Staged t second u) : Staged s (first ++ second) u := by
  induction h₁ with
  | nil => exact h₂
  | cons buffer use _ ih => exact .cons buffer use (ih h₂)

/-- Staging buffers sends nothing: `TransportCall.sent?` has none for the calls of `Staged`. -/
theorem Staged.filterMap_sent? {s t : σ} {calls : List (TransportCall σ)}
    (h : Staged s calls t) : calls.filterMap TransportCall.sent? = [] := by
  induction h with
  | nil => rfl
  | cons buffer use _ ih => exact ih

/-- What no `Transport.dataBuffer` changes, staging buffers does not change, by induction on the calls. -/
theorem Staged.invariant {α : Type} {f : σ → α}
    (hf : ∀ s buffer use, f (Transport.dataBuffer s buffer use).2 = f s) {s t : σ}
    {calls : List (TransportCall σ)} (h : Staged s calls t) : f t = f s := by
  induction h with
  | nil => rfl
  | cons buffer use _ ih => rw [ih, hf]

end Staging

end SecureEngine
