import SecureEngine.RoundTrip

/-! # Running computations that may fail

How a computation in sequence with another one runs: what was done before a failure stays done, and
nothing is done after it. A sequence of look-ups has no state, and what it found is read off its
success. -/

namespace SecureEngine

section

variable {ε σ α β : Type}

/-- **A sequence stops at its first failure**, in the state that the failure left. -/
theorem run_bind (x : ExceptT ε (StateM σ) α) (f : α → ExceptT ε (StateM σ) β) (s : σ) :
    (x >>= f).run s = match x.run s with
      | (.ok a, t) => (f a).run t
      | (.error e, t) => (.error e, t) := by
  change (match x.run s with | (r, t) => ExceptT.bindCont f r t) = _
  rcases x.run s with ⟨_ | _, _⟩ <;> rfl

/-- A sequence whose first part succeeds goes on with the second, from the state and the value that the
first `run` leaves. -/
theorem run_bind_ok {x : ExceptT ε (StateM σ) α} {f : α → ExceptT ε (StateM σ) β} {s t : σ} {a : α}
    (h : x.run s = (.ok a, t)) : (x >>= f).run s = (f a).run t := by
  rw [run_bind, h]

/-- A sequence whose first part fails has failed, in the state that this part's `run` leaves. -/
theorem run_bind_error {x : ExceptT ε (StateM σ) α} {f : α → ExceptT ε (StateM σ) β} {s t : σ}
    {e : ε} (h : x.run s = (.error e, t)) : (x >>= f).run s = (.error e, t) := by
  rw [run_bind, h]

/-- **A sequence succeeds** just if both of its parts do, the second `run` from the state after the
first. -/
theorem run_bind_eq_ok_iff {x : ExceptT ε (StateM σ) α} {f : α → ExceptT ε (StateM σ) β} {s u : σ}
    {b : β} : (x >>= f).run s = (.ok b, u) ↔
      ∃ a t, x.run s = (.ok a, t) ∧ (f a).run t = (.ok b, u) := by
  rw [run_bind]
  rcases x.run s with ⟨e | a, t⟩
  · exact ⟨nofun, nofun⟩
  · refine ⟨fun h => ⟨a, t, rfl, h⟩, ?_⟩
    rintro ⟨a', t', ha, h⟩
    cases ha
    exact h

/-- What `f <$> x` makes of the result of a computation leaves its state and its failures alone. -/
theorem run_map (f : α → β) (x : ExceptT ε (StateM σ) α) (s : σ) :
    (f <$> x).run s = match x.run s with
      | (.ok a, t) => (.ok (f a), t)
      | (.error e, t) => (.error e, t) :=
  run_bind x (fun a => pure (f a)) s

/-- A value that is just returned with `pure` leaves the state as it was. -/
@[simp] theorem run_pure (a : α) (s : σ) :
    (pure a : ExceptT ε (StateM σ) α).run s = (.ok a, s) := rfl

/-- An error from `throw` leaves the state as it was, so nothing is undone and nothing is done. -/
@[simp] theorem run_throw (e : ε) (s : σ) :
    (throw e : ExceptT ε (StateM σ) α).run s = (.error e, s) := rfl

/-- Reading the state with `get` leaves it as it was, and succeeds with it. -/
@[simp] theorem run_get (s : σ) : (get : ExceptT ε (StateM σ) σ).run s = (.ok s, s) := rfl

/-- `modify` applies its function to the state. -/
@[simp] theorem run_modify (f : σ → σ) (s : σ) :
    (modify f : ExceptT ε (StateM σ) PUnit).run s = (.ok ⟨⟩, f s) := rfl

/-- `set` replaces the state. -/
@[simp] theorem run_set (s t : σ) :
    (set t : ExceptT ε (StateM σ) PUnit).run s = (.ok ⟨⟩, t) := rfl

/-- `ExceptT.lift` takes in a step that cannot fail. -/
@[simp] theorem run_lift (x : StateM σ α) (s : σ) :
    (ExceptT.lift x : ExceptT ε (StateM σ) α).run s = (.ok (x.run s).1, (x.run s).2) := rfl

end

/-- A result that is there is a success: `Except.toOption` forgets only which error it was. -/
theorem eq_ok_of_toOption {ε α : Type} {r : Except ε α} {a : α} (h : r.toOption = some a) :
    r = .ok a := by
  cases r with
  | error e => cases h
  | ok b => exact congrArg Except.ok (Option.some.inj h)

/-- A success has a value: `Except.toBool` is true just of what is `.ok`. -/
theorem exists_eq_ok {ε α : Type} {r : Except ε α} (h : r.toBool) : ∃ a, r = .ok a := by
  cases r with
  | ok a => exact ⟨a, rfl⟩
  | error e => cases h

/-- A failure has an error: `Except.toBool` is false just of what is `.error`. -/
theorem exists_eq_error {ε α : Type} {r : Except ε α} (h : r.toBool = false) : ∃ e, r = .error e := by
  cases r with
  | ok a => cases h
  | error e => exact ⟨e, rfl⟩

section

variable {ε α β : Type} {e : ε} {b : β}

/-- **A sequence of look-ups succeeds** just if each of them does. This is the inversion lemma for
`Except`. -/
theorem bind_eq_ok_iff {x : Except ε α} {f : α → Except ε β} :
    (x >>= f) = .ok b ↔ ∃ a, x = .ok a ∧ f a = .ok b := by
  cases x with
  | error e => exact ⟨nofun, nofun⟩
  | ok a =>
    refine ⟨fun h => ⟨a, rfl, h⟩, ?_⟩
    rintro ⟨a', ha, h⟩
    cases ha
    exact h

variable {c : Prop} [Decidable c] {x : Except ε β}

/-- What goes on only if a condition holds succeeds just if it does, and `throw`s otherwise. -/
theorem ite_throw_eq_ok_iff : (if c then x else throw e) = .ok b ↔ c ∧ x = .ok b := by
  by_cases hc : c
  · simp [hc]
  · simp only [hc, if_false, false_and, iff_false]
    exact nofun

/-- What goes on unless something is refused succeeds just if it is not. It is the form that an early
`throw` of a `do` block takes. -/
theorem throw_bind_ite_eq_ok_iff {f : α → Except ε β} :
    (if c then throw e >>= f else x) = .ok b ↔ ¬c ∧ x = .ok b := by
  by_cases hc : c
  · simp only [hc, if_true, not_true, false_and, iff_false]
    exact nofun
  · simp [hc]

end

/-- A sequence of exchanges stops at its first failure, with arguments and transport as they are
then. -/
theorem Channel.Exchange.run_bind {σ α β : Type} (x : Exchange σ α) (f : α → Exchange σ β)
    (a : Arguments) (s : σ) :
    ((x >>= f).run a).run s = match (x.run a).run s with
      | ((.ok v, b), t) => ((f v).run b).run t
      | ((.error e, b), t) => ((.error e, b), t) := by
  change (match (x.run a).run s with | (r, t) => ExceptT.bindCont f r.1 r.2 t) = _
  rcases (x.run a).run s with ⟨⟨_ | _, _⟩, _⟩ <;> rfl

end SecureEngine
