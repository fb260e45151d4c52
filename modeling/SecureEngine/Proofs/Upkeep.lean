import SecureEngine.Proofs.Recording

/-! # What the round trips of a session keep

All round trips of a session go over one channel, so what the round trips of this channel keep about the
transport holds throughout the session.

* **`Channel.Keeps`** — something about the transport outlasts every round trip of a channel;
  **`Channel.keeps_of_calls`** — what outlasts every call does.
* **`Session.Run.keeps`** — then it outlasts runs, whose instructions are made of such round trips;
  **`Session.establish_keeps`** — and coming up, if setting the window keeps it as well.
* **`Session.Run.exists_recorded`** — every run over a transport is one over a recorder. -/

namespace SecureEngine

variable {σ : Type} [Transport σ]

/-- **What every round trip of a channel keeps** about the transport, whatever the message byte, the
handle and the arguments. -/
def Channel.Keeps (channel : Channel) (p : σ → Prop) : Prop :=
  ∀ (code : UInt8) (handle : UInt32) (arguments : Arguments) (t : σ), p t →
    p ((channel.process code handle arguments).run t).2

/-- **What every call of a transport keeps, round trips keep**: `Channel.Keeps` from the four calls that
`Channel.process` makes. -/
theorem Channel.keeps_of_calls (channel : Channel) {p : σ → Prop}
    (hbuffer : ∀ t buffer use, p t → p (Transport.dataBuffer t buffer use).2)
    (hexchange : ∀ t request size, p t → p (Transport.sendAndReceive t request size).2)
    (hread : ∀ t address out, p t → p (Transport.readDataBuffer t address out).2)
    (hreset : ∀ t, p t → p (Transport.resetDataBuffers t)) : channel.Keeps p := by
  intro code handle arguments t h
  have hstaged {t u : σ} {calls : List (TransportCall σ)} (hs : Staged t calls u) (h : p t) : p u := by
    induction hs with
    | nil => exact h
    | cons buffer use _ ih => exact ih (hbuffer _ buffer use h)
  have hsent {t u : σ} {request : Bytes} {size : Nat} {answer : Except TransportError Unit × Bytes}
      (hx : Transport.sendAndReceive t request size = (answer, u)) (h : p t) : p u := by
    have hu := hexchange t request size h
    rwa [hx] at hu
  obtain ⟨result, calls, final, hcourse, hplain, -⟩ :=
    course_process channel code handle arguments ⟨t, []⟩
  rw [hplain]
  cases hcourse with
  | unprepared hs => exact hreset _ (hstaged hs h)
  | unanswered hs _ _ hx | refused hs _ _ hx => exact hreset _ (hsent hx (hstaged hs h))
  | @settled _ u _ _ _ _ _ _ hs _ _ hx _ hsettle =>
    have hu := hsent hx (hstaged hs h)
    refine hreset _ ?_
    -- Settling reads an output at most.
    unfold settle at hsettle
    split at hsettle
    · rename_i address out _ _
      have hfetched := hread u address out hu
      rcases hr : Transport.readDataBuffer u address out with ⟨_ | _, v⟩
      all_goals
        rw [hr] at hsettle hfetched
        cases hsettle
        exact hfetched
    · cases hsettle
      exact hu

namespace Session

variable {s t : Session σ} {p : σ → Prop} {r : Except ClientError Unit}

/-! ## (1) Runs -/

/-- What round trips keep about a device, acquiring a handle keeps: `Acquired` makes at most one
`Channel.process`. -/
theorem Acquired.keeps {kind : HandleKind} {parent : Option ServiceHandle} {address : UInt32}
    {arguments : Arguments} {r : Except ClientError ServiceHandle}
    (ha : Acquired kind parent address arguments s r t) (hp : s.channel.Keeps p)
    (h : p s.transport) : p t.transport := by
  cases ha with
  | full => exact h
  | refused | opened => exact hp _ _ _ _ h

/-- No `Move` leaves the channel. -/
theorem Move.channel_eq (hm : Move s r t) (hs : s.Sound) : t.channel = s.channel := by
  cases hm with
  | request hr => cases hr <;> rfl
  | openService _ ha => exact ha.channel_eq
  | closeHandle ho =>
    obtain ⟨handles, hrun, -⟩ := run_closeHandle_of_holds hs.wellFormed ho
    rw [hrun]
  | closeSession => rfl

/-- No `Move` leaves the window that was granted. -/
theorem Move.window_eq (hm : Move s r t) (hs : s.Sound) : t.window = s.window := by
  cases hm with
  | request hr => cases hr <;> rfl
  | openService _ ha => cases ha <;> rfl
  | closeHandle ho =>
    obtain ⟨handles, hrun, -⟩ := run_closeHandle_of_holds hs.wellFormed ho
    rw [hrun]
  | closeSession => rfl

/-- No number of `Moves` changes the window of a session. -/
theorem Moves.window_eq {outcomes : List (Except ClientError Unit)} (hm : Moves s outcomes t)
    (hs : s.Sound) : t.window = s.window := by
  induction hm with
  | nil => rfl
  | cons hmove _ ih => exact (ih (hmove.sound hs)).trans (hmove.window_eq hs)

/-- A `Move` is a round trip of the channel at most. -/
theorem Move.keeps (hm : Move s r t) (hs : s.Sound) (hp : s.channel.Keeps p) (h : p s.transport) :
    p t.transport := by
  cases hm with
  | request hr =>
    cases hr with
    | refused => exact h
    | sent => exact hp _ _ _ _ h
  | openService _ ha => exact ha.keeps hp h
  | closeHandle ho =>
    obtain ⟨handles, hrun, -⟩ := run_closeHandle_of_holds hs.wellFormed ho
    rw [hrun]
    exact hp _ _ _ _ h
  | closeSession => exact hp _ _ _ _ h

/-- What round trips keep about a device, any number of `Moves` keeps. -/
theorem Moves.keeps {outcomes : List (Except ClientError Unit)} (hm : Moves s outcomes t)
    (hs : s.Sound) (hp : s.channel.Keeps p) (h : p s.transport) :
    t.channel = s.channel ∧ p t.transport := by
  induction hm with
  | nil => exact ⟨rfl, h⟩
  | cons hmove _ ih =>
    have hchannel := hmove.channel_eq hs
    obtain ⟨hrest, hkept⟩ := ih (hmove.sound hs) (hchannel ▸ hp) (hmove.keeps hs hp h)
    exact ⟨hrest.trans hchannel, hkept⟩

variable {change : σ → σ → Prop}

/-- **What the round trips of its channel keep, a run keeps**, if the changes in between do. -/
theorem Run.keeps (hrun : Run change s t) (hs : s.Sound) (hp : s.channel.Keeps p)
    (hc : ∀ t u, change t u → p t → p u) (h : p s.transport) :
    t.channel = s.channel ∧ p t.transport := by
  have hkept : t.Sound ∧ t.channel = s.channel ∧ p t.transport := by
    -- The channel stays the same along the run, so the property is kept by the same calls throughout.
    refine hrun.induction (p := fun t => t.Sound ∧ t.channel = s.channel ∧ p t.transport)
      ⟨hs, rfl, h⟩ ?_ ?_
    · rintro i t ⟨ht, hchannel, hkept⟩
      obtain ⟨outcomes, hmoves, -⟩ := ht.perform i
      obtain ⟨hchannel', hkept'⟩ := hmoves.keeps ht (hchannel ▸ hp) hkept
      exact ⟨hmoves.sound ht, hchannel'.trans hchannel, hkept'⟩
    · rintro t transport hchange ⟨ht, hchannel, hkept⟩
      exact ⟨ht.withTransport transport, hchannel, hc _ _ hchange hkept⟩
  exact hkept.2

/-- **A run leaves the window** that was granted when the session came up: no `Instruction` sets
`Session.window`. -/
theorem Run.window_eq (hrun : Run change s t) (hs : s.Sound) : t.window = s.window := by
  refine (hrun.induction (p := fun t => t.Sound ∧ t.window = s.window) ⟨hs, rfl⟩ ?_ ?_).2
  · rintro i t ⟨ht, hwindow⟩
    obtain ⟨outcomes, hmoves, -⟩ := ht.perform i
    exact ⟨hmoves.sound ht, (hmoves.window_eq ht).trans hwindow⟩
  · rintro t transport _ ⟨ht, hwindow⟩
    exact ⟨ht.withTransport transport, hwindow⟩

/-- **Closing a session keeps it**, too: `Session.close` makes round trips, and nothing else with its
transport. -/
theorem Sound.close_keeps (hs : s.Sound) (hp : s.channel.Keeps p) (h : p s.transport) :
    p (close.run s).2.transport := by
  obtain ⟨outcomes, hmoves, -⟩ := hs.close_moves
  exact (hmoves.keeps hs hp h).2

/-! ## (2) Coming up -/

/-- **What coming up keeps**: the round trips of `establish` go over the channel, too, and the window is
set by `configureWindow`. -/
theorem establish_keeps (hwf : s.handles.WellFormed) (hp : s.channel.Keeps p)
    (hwindow : ∀ (t : σ) (offset size : UInt32), p t → p (Transport.configureWindow t offset size).2)
    (configuration : Configuration) (h : p s.transport) :
    ((establish configuration).run s).2.channel = s.channel ∧
      p ((establish configuration).run s).2.transport := by
  have hopened := hp Command.openSession.code 0 (.openSession { request := configuration.session })
    s.transport h
  rw [run_establish, process_eq]
  rcases hx : (s.channel.process Command.openSession.code 0
    (.openSession { request := configuration.session })).run s.transport with ⟨⟨_ | _, a⟩, t⟩
  all_goals rw [hx] at hopened; dsimp only at hopened ⊢
  · exact ⟨rfl, hopened⟩
  split
  · exact ⟨rfl, hopened⟩
  split
  · exact ⟨rfl, hopened⟩
  rename_i identifier _ _
  -- The table is well formed all along, which opening the key store asks for.
  have hkept := furnish_preserves
    (p := fun t : Session σ => t.handles.WellFormed ∧ t.channel = s.channel ∧ p t.transport)
    configuration (s := { s with transport := t, identifier }) ⟨hwf, rfl, hopened⟩
    (fun t ht => ⟨ht.1, ht.2.1, (ht.2.1 ▸ hp : t.channel.Keeps p) _ _ _ _ ht.2.2⟩)
    (fun t window ht => ⟨ht.1, ht.2.1, hwindow _ _ _ ht.2.2⟩)
    (fun t ht => ?_) (fun _ _ ht => ht)
  · exact hkept.2
  · have ha := acquired_acquire .keyStore none t.identifier (keyStoreOpening configuration) ht.1
    exact ⟨ha.wellFormed ht.1, ha.channel_eq.trans ht.2.1, ha.keeps (ht.2.1 ▸ hp) ht.2.2⟩

/-! ## (3) Runs with a record -/

end Session

/-- **A change of the transport beside the record**, which notes nothing: the calls of the `Recorder` are
as before. -/
def Recorder.Passes (change : σ → σ → Prop) (r r' : Recorder σ) : Prop :=
  change r.transport r'.transport ∧ r'.calls = r.calls

/-- **Every run is one over a `Recorder`**, without the record. -/
theorem Session.Run.exists_recorded {change : σ → σ → Prop} {s : Session (Recorder σ)}
    {t : Session σ} (h : Run change s.plain t) :
    ∃ u, Run (Recorder.Passes change) s u ∧ u.plain = t := by
  -- By induction on the run, step by step under the recorder.
  induction h with
  | refl => exact ⟨s, .refl, rfl⟩
  | perform i _ ih =>
    obtain ⟨u, hu, rfl⟩ := ih
    exact ⟨_, .perform i hu, (congrArg Prod.snd (plain_perform i u)).symm⟩
  | @change _ transport hc _ ih =>
    obtain ⟨u, hu, rfl⟩ := ih
    exact ⟨{ u with transport := ⟨transport, u.transport.calls⟩ }, .change ⟨hc, rfl⟩ hu, rfl⟩

end SecureEngine
