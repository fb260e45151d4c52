import SecureEngine.Proofs.BareRequests

/-! # Only signing depends on the firmware

The two generations of firmware have the same messages, but for the ones that sign.

* **`Command.exists_recast`** — every other command has the same requests, prepared alike and sent as the
  same bytes; `responseSize_flavor` and `complete_flavor`: it reads the same responses.
* **`Channel.process_flavor`** — so every other round trip is the same for a client of either
  generation. -/

namespace SecureEngine

variable {σ : Type} [Transport σ]

/-! ## (1) Messages -/

namespace Command

variable {c : Command}

/-- **A request that does not sign is the same request** for the other firmware: it is prepared by the
same steps, and sent as the same bytes. -/
theorem exists_recast (hc : c ≠ .sign) (flavor other : Flavor) :
    ∃ recast : c.Request flavor → c.Request other,
      (∀ m, c.encodeRequest (recast m) = c.encodeRequest m) ∧
      ∀ (handle : UInt32) (arguments : Arguments),
        (c.prepare other handle arguments : Registering σ (Prepared other c)) =
          (fun p => ⟨recast p.request, p.output⟩) <$> c.prepare flavor handle arguments := by
  cases c with
  | sign => exact absurd rfl hc
  | _ =>
    refine ⟨id, fun _ => rfl, fun handle arguments => ?_⟩
    cases arguments <;> simp only [prepare, map_pure, Functor.map_map, map_bind] <;> rfl

/-- Responses have the same size in either firmware, unless they are about signing: `Command.responseSize`
looks at the `Flavor` for `Command.sign` only. -/
theorem responseSize_flavor (hc : c ≠ .sign) (flavor other : Flavor) :
    c.responseSize other = c.responseSize flavor := by
  cases c with
  | sign => exact absurd rfl hc
  | _ => rfl

/-- Arguments are completed alike in either firmware, unless they are about signing: `Command.complete`
reads the same response. -/
theorem complete_flavor (hc : c ≠ .sign) (flavor other : Flavor) (bytes : Bytes)
    (arguments : Arguments) : c.complete other bytes arguments = c.complete flavor bytes arguments := by
  cases c with
  | sign => exact absurd rfl hc
  | _ => cases arguments <;> rfl

end Command

/-- **A message is prepared as its command prepares it**, for every request fits: `DispatchTable.prepare`
with room for any message is `Command.prepare`. -/
theorem DispatchTable.run_prepare {table : DispatchTable} {code : UInt8} {c : Command}
    (hget : table.get? code = some c) (flavor : Flavor) (handle : UInt32) (arguments : Arguments)
    (s : σ) :
    (table.prepare flavor code handle Wire.maxMessageSize arguments).run s =
      match (c.prepare flavor handle arguments).run s with
      | (.ok p, t) => (.ok ⟨c, p⟩, t)
      | (.error e, t) => (.error e, t) := by
  rw [run_prepare_of_room hget (Command.requestSize_le_maxMessageSize flavor c)]
  rcases (c.prepare flavor handle arguments).run s with ⟨_ | _, _⟩ <;> rfl

/-! ## (2) Round trips -/

namespace Channel

variable {channel : Channel} {code : UInt8} {c : Command}

/-- The channel of a client of the given firmware: the same table and unit, with another `Flavor`. -/
def withFlavor (channel : Channel) (flavor : Flavor) : Channel := { channel with flavor }

/-- Requests that are encoded alike have the same frame in either firmware, since `Channel.frame` depends
on the encoding only. -/
theorem frame_flavor {flavor : Flavor} {m : c.Request channel.flavor} {m' : c.Request flavor}
    (h : c.encodeRequest m' = c.encodeRequest m) :
    (channel.withFlavor flavor).frame code m' = channel.frame code m :=
  congrArg (Wire.finish channel.unit.version channel.unit.commandTag code c.requestSealed) h

/-- A success is concluded alike in either firmware, unless it is about signing: `Channel.conclude` then
completes the arguments from the same fields. -/
theorem conclude_flavor (hget : channel.table.get? code = some c) (hc : c ≠ .sign) (flavor : Flavor)
    (response : Bytes) (arguments : Arguments) :
    (channel.withFlavor flavor).conclude code response arguments =
      channel.conclude code response arguments := by
  unfold conclude DispatchTable.complete withFlavor
  simp only [hget, Command.complete_flavor hc channel.flavor]

/-- A success is settled alike in either firmware, unless it is about signing: `Channel.settle` reads back
and concludes as over the other one. -/
theorem settle_flavor (hget : channel.table.get? code = some c) (hc : c ≠ .sign) (flavor : Flavor)
    (output : Option Address) (response : Bytes) (arguments : Arguments) (s : σ) :
    (channel.withFlavor flavor).settle code output response arguments s =
      channel.settle code output response arguments s := by
  unfold settle
  simp only [conclude_flavor hget hc]

/-- **A round trip of `process` that does not sign is the same for either firmware.** -/
theorem process_flavor (hget : channel.table.get? code = some c) (hc : c ≠ .sign) (flavor : Flavor)
    (handle : UInt32) (arguments : Arguments) (s : σ) :
    ((channel.withFlavor flavor).process code handle arguments).run s =
      (channel.process code handle arguments).run s := by
  -- Only signing has two shapes; every other request is the same bytes for both flavors.
  obtain ⟨recast, hencode, hprepare⟩ := Command.exists_recast hc channel.flavor flavor (σ := σ)
  have hget' : (channel.withFlavor flavor).table.get? code = some c := hget
  have hrun : (c.prepare (channel.withFlavor flavor).flavor handle arguments).run s = _ :=
    (congrArg (fun x : Registering σ _ => x.run s) (hprepare handle arguments)).trans (run_map _ _ s)
  have hresponse : c.responseSize (channel.withFlavor flavor).flavor =
      c.responseSize channel.flavor := Command.responseSize_flavor hc channel.flavor flavor
  have hverdict (response : Bytes) : (channel.withFlavor flavor).verdict code response =
      channel.verdict code response := rfl
  rw [run_process, run_process, DispatchTable.run_prepare hget, DispatchTable.run_prepare hget', hrun]
  rcases (c.prepare channel.flavor handle arguments).run s with ⟨e | p, t⟩
  · rfl
  · simp only [frame_flavor (hencode p.request), hresponse, hverdict, settle_flavor hget hc]

end Channel

end SecureEngine
