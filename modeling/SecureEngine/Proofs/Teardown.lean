import SecureEngine.Emulator.Device
import SecureEngine.Proofs.Closing

/-! # Teardown

* **`Session.Ready`** — an open session has its key store open.
* **`Session.OpenedBefore`** — on a run, one service was open before another.
* **`Session.close_complete`** — closing an open session closes everything it has open, most recent
  first and the key store last, and then the session; it reports the first failure. -/

namespace SecureEngine.Session

variable {σ : Type} {s t : Session σ}

/-! ## (1) The key store of an open session -/

/-- **An open session has its key store open**, and `Session.keyStore` is its handle. -/
def Ready (s : Session σ) : Prop :=
  s.identifier ≠ 0 → ∃ k, s.Holds k ∧ k.isKeyStore ∧ s.keyStore = some k.handle

/-- A session that has just come up has its key store open, so `Fresh` entails `Ready`. -/
theorem Fresh.ready (h : s.Fresh) : s.Ready := by
  intro _
  obtain ⟨k, hks, hk, -, hiff⟩ := h.keyStore
  exact ⟨k, (hiff k).mpr rfl, hk, hks⟩

/-- A session that keeps its identifier and its key store stays `Ready`, whatever else it opens or
closes. -/
theorem Ready.mono (h : s.Ready) (hid : t.identifier = s.identifier) (hks : t.keyStore = s.keyStore)
    (hkeep : ∀ k, s.Holds k → k.isKeyStore → t.Holds k) : t.Ready := by
  intro hne
  obtain ⟨k, hk, hkk, hkey⟩ := h (hid ▸ hne)
  exact ⟨k, hkeep k hk hkk, hkk, hks.trans hkey⟩

variable [Transport σ]

/-- What an instruction other than closing the session leaves alone, and how many services it opens
at most. -/
structure Steady (s t : Session σ) : Prop where
  identifier_eq : t.identifier = s.identifier
  keyStore_eq : t.keyStore = s.keyStore
  keeps : ∀ k, s.Holds k → k.isKeyStore → t.Holds k
  opened_le : t.handles.opened ≤ s.handles.opened + 1

/-- A single request leaves the handles alone, and with them all that `Steady` is about. -/
theorem Request.steady {r : Except ClientError Unit} (h : Request s r t) :
    s.Steady t ∧ t.handles = s.handles := by
  cases h with
  | refused => exact ⟨⟨rfl, rfl, fun _ hk _ => hk, Nat.le_succ _⟩, rfl⟩
  | sent => exact ⟨⟨rfl, rfl, fun _ hk _ => hk, Nat.le_succ _⟩, rfl⟩

/-- Opening a service with `openService` opens one at most, and closes nothing. -/
theorem Sound.steady_openService (h : s.Sound) (kind : Service) :
    s.Steady ((Session.openService kind).run s).2 := by
  rw [run_openService]
  split
  · exact ⟨rfl, rfl, fun _ hk _ => hk, Nat.le_succ _⟩
  · rename_i parent address _
    have ha := acquired_acquire (.service kind) parent address (.openService { flags := 0 })
      h.wellFormed
    revert ha
    generalize (acquire (.service kind) parent address (.openService { flags := 0 })).run s = x
    intro ha
    obtain ⟨r, t⟩ := x
    -- However it ends, opening a service closes nothing.
    cases ha with
    | full => exact ⟨rfl, rfl, fun _ hk _ => hk, Nat.le_succ _⟩
    | refused _ _ hn hopened =>
      exact ⟨rfl, rfl, fun k hk _ => (hopened k).mpr hk, Nat.le_succ_of_le (Nat.le_of_eq hn)⟩
    | opened _ _ _ _ hn hopened =>
      exact ⟨rfl, rfl, fun k hk _ => (hopened k).mpr (Or.inr hk), Nat.le_of_eq hn⟩

/-- Closing a service never closes the key store, which `closeService` has no kind for, and opens
nothing. -/
theorem Sound.steady_closeService (h : s.Sound) (handle : ServiceHandle) (kind : Service) :
    s.Steady ((Session.closeService handle kind).run s).2 ∧
      ((Session.closeService handle kind).run s).2.handles.opened = s.handles.opened := by
  rw [run_closeService]
  split
  · exact ⟨⟨rfl, rfl, fun _ hk _ => hk, Nat.le_succ _⟩, rfl⟩
  · rename_i address hr
    obtain ⟨context, stamp, hheld, hkind, -⟩ := HandleTable.resolveKind_eq_ok_iff.mp hr
    obtain ⟨handles, hrun, -, hn, hopened⟩ :=
      run_closeHandle_of_holds (o := ⟨handle, context, stamp⟩) h.wellFormed hheld
    rw [hrun]
    refine ⟨⟨rfl, rfl, fun k hk hks => (hopened k).mpr ⟨hk, ?_⟩, ?_⟩, hn⟩
    · -- What is closed is a service, and no key store.
      rintro rfl
      rw [Opening.isKeyStore, hkind] at hks
      cases hks
    · exact Nat.le_succ_of_le (Nat.le_of_eq hn)

omit [Transport σ] in
/-- What opens nothing may follow an instruction that opens a service, and the two are still `Steady`. -/
theorem Steady.trans {u : Session σ} (h : s.Steady t) (h' : t.Steady u)
    (hn : u.handles.opened = t.handles.opened) : s.Steady u where
  identifier_eq := h'.identifier_eq.trans h.identifier_eq
  keyStore_eq := h'.keyStore_eq.trans h.keyStore_eq
  keeps k hk hks := h'.keeps k (h.keeps k hk hks) hks
  opened_le := hn ▸ h.opened_le

/-- An operation with a SHE key opens and closes one service, so it is as `Steady` as opening one. -/
theorem Sound.steady_sheCipher (h : s.Sound) (a : SheCipher) : s.Steady (sheCipher a s).2 := by
  unfold sheCipher
  dsimp only
  split
  · exact ⟨rfl, rfl, fun _ hk _ => hk, Nat.le_succ _⟩
  have hopening := h.steady_openService .cipher
  obtain ⟨outcomes, hmoves, -⟩ := h.openService_moves .cipher
  split
  · rename_i e t hopen
    rw [hopen] at hopening
    exact hopening
  · rename_i handle t hopen
    rw [hopen] at hopening hmoves
    obtain ⟨r, hrequest, -⟩ := requests_cipher (s := t) handle a.operation
    rcases hcipher : cipher handle a.operation t with ⟨⟨outcome, arguments⟩, u⟩
    rw [hcipher] at hrequest
    obtain ⟨hsteady, hhandles⟩ := hrequest.steady
    have hu := (Move.request hrequest).sound (hmoves.sound h)
    obtain ⟨hclosing, hn⟩ := hu.steady_closeService handle .cipher
    -- Only the first of the three opens anything.
    have hall := (hopening.trans hsteady (by rw [hhandles])).trans hclosing hn
    dsimp only
    split
    · rename_i v hclose
      rw [hclose] at hall
      exact hall
    · rename_i e v hclose
      rw [hclose] at hall
      exact hall

/-- **Only closing the session closes its key store**, and no instruction opens two services that stay:
one case per `Instruction`. -/
theorem Sound.steady (h : s.Sound) {i : Instruction} (hi : i ≠ .close) :
    s.Steady (i.perform s).2 := by
  by_cases hr : i.isRequest
  · obtain ⟨r, hrequest, -⟩ := Instruction.request (s := s) hr
    exact hrequest.steady.1
  cases i with
  | openService kind => exact h.steady_openService kind
  | closeService handle kind => exact (h.steady_closeService handle kind).1
  | sheCipher a => exact h.steady_sheCipher a
  | close => exact absurd rfl hi
  | _ => exact absurd rfl hr

/-- Closing a session by `Session.close` leaves it closed, whatever comes of its requests. -/
theorem identifier_close (s : Session σ) : (close.run s).2.identifier = 0 := by
  rw [run_close]
  by_cases hid : s.identifier = 0
  · rw [if_pos hid, hid]
  · rw [if_neg hid]
    rfl

/-- Closing a handle with `closeHandle` opens nothing, so the times of opening do not move on. -/
theorem opened_closeHandle (handle : ServiceHandle) (s : Session σ) :
    ((closeHandle handle).run s).2.handles.opened = s.handles.opened := by
  rw [run_closeHandle]
  cases hdelete : s.handles.delete handle with
  | error e => rfl
  | ok deleted =>
    obtain ⟨context, handles⟩ := deleted
    obtain ⟨-, rfl⟩ := HandleTable.delete_eq_ok hdelete
    rfl

/-- Closing any number of handles with `closeAll` opens nothing. -/
theorem opened_closeAll (handles : List ServiceHandle) (s : Session σ) :
    ((closeAll handles).run s).2.handles.opened = s.handles.opened := by
  induction handles generalizing s with
  | nil => rfl
  | cons handle rest ih => rw [run_closeAll_cons, ih, opened_closeHandle]

/-- Closing a session opens nothing, whether it is open or not: `Session.close` leaves the number of
openings. -/
theorem opened_close (s : Session σ) : (close.run s).2.handles.opened = s.handles.opened := by
  rw [run_close]
  by_cases hid : s.identifier = 0
  · rw [if_pos hid]
  · rw [if_neg hid]
    exact opened_closeAll s.handles.newestFirst s

/-- **Between instructions, an open session has its key store open**, by induction on the run. -/
theorem Run.ready {change : σ → σ → Prop} (h : Run change s t) (hs : s.Sound) (hready : s.Ready) :
    t.Ready := by
  induction h with
  | refl => exact hready
  | @perform u i hrun ih =>
    -- Closing leaves no session that would have to be ready; anything else is steady.
    by_cases hi : i = .close
    · subst hi
      exact fun hid => absurd (identifier_close u) hid
    · have hsteady := (hrun.sound hs).steady hi
      exact ih.mono hsteady.identifier_eq hsteady.keyStore_eq hsteady.keeps
  | change _ _ ih => exact ih

/-! ## (2) The order of opening -/

/-- **Nothing comes up again**: what is open later was open before, or has opened since. -/
structure Grows (s t : Session σ) : Prop where
  opened_le : s.handles.opened ≤ t.handles.opened
  since : ∀ o, t.Holds o → s.Holds o ∨ s.handles.opened < o.stamp

omit [Transport σ] in
/-- What opens nothing grows, whatever it closes: `Grows` asks nothing of what the session `Holds`
already. -/
theorem Grows.of_holds (hn : t.handles.opened = s.handles.opened) (ho : ∀ o, t.Holds o → s.Holds o) :
    s.Grows t :=
  ⟨Nat.le_of_eq hn.symm, fun o h => Or.inl (ho o h)⟩

omit [Transport σ] in
/-- A session that does nothing `Grows`, by opening nothing. -/
theorem Grows.refl (s : Session σ) : s.Grows s := .of_holds rfl fun _ ho => ho

omit [Transport σ] in
/-- Growing twice in a row is growing: `Grows` is transitive, as stamps only get greater. -/
theorem Grows.trans {u : Session σ} (h : s.Grows t) (h' : t.Grows u) : s.Grows u := by
  refine ⟨Nat.le_trans h.opened_le h'.opened_le, fun o ho => ?_⟩
  rcases h'.since o ho with ho | hlt
  · exact h.since o ho
  · exact Or.inr (Nat.lt_of_le_of_lt h.opened_le hlt)

/-- Every `Move` of a session grows: what it opens has a later time of opening than all before. -/
theorem Move.grows {r : Except ClientError Unit} (h : Move s r t) (hs : s.Sound) : s.Grows t := by
  cases h with
  | request h =>
    cases h with
    | refused => exact .refl s
    | sent => exact .of_holds rfl fun _ ho => ho
  | openService hp ha =>
    cases ha with
    | full => exact .refl s
    | refused _ _ hn hopened => exact .of_holds hn fun o => (hopened o).mp
    | opened _ _ hstamp _ hn hopened =>
      refine ⟨hn ▸ Nat.le_succ _, fun o ho => ?_⟩
      rcases (hopened o).mp ho with rfl | ho
      · exact Or.inr (hstamp ▸ Nat.lt_succ_self _)
      · exact Or.inl ho
  | closeHandle ho hlast =>
    obtain ⟨handles, hrun, -, hn, hopened⟩ := run_closeHandle_of_holds hs.wellFormed ho
    rw [hrun]
    exact .of_holds hn fun p hp => ((hopened p).mp hp).1
  | closeSession => exact .of_holds rfl fun _ ho => ho

/-- Any number of `Moves` grows. -/
theorem Moves.grows {outcomes : List (Except ClientError Unit)} (h : Moves s outcomes t)
    (hs : s.Sound) : s.Grows t := by
  induction h with
  | nil => exact .refl _
  | cons hm _ ih => exact (hm.grows hs).trans (ih (hm.sound hs))

variable {change : σ → σ → Prop}

/-- Every run grows, so that no service that was closed comes up again: what a `Run` opens has a later
stamp. -/
theorem Run.grows (h : Run change s t) (hs : s.Sound) : s.Grows t := by
  induction h with
  | refl => exact .refl s
  | perform i hrun ih =>
    obtain ⟨outcomes, hmoves, -⟩ := (hrun.sound hs).perform i
    exact ih.trans (hmoves.grows (hrun.sound hs))
  | change _ _ ih => exact ih.trans (.of_holds rfl fun _ ho => ho)

/-- What is open now and opened before some earlier state was open in that state: `Run.grows` leaves no
other way. -/
theorem Run.holds_of_stamp_le (h : Run change s t) (hs : s.Sound) {o : Opening} (ho : t.Holds o)
    (hn : o.stamp ≤ s.handles.opened) : s.Holds o :=
  ((h.grows hs).since o ho).resolve_right (Nat.not_lt.mpr hn)

/-- Services open one at a time, so a run passes through every number of openings between its first and
its last. -/
theorem Run.exists_opened_eq (h : Run change s t) (hs : s.Sound) {n : Nat}
    (hle : s.handles.opened ≤ n) (hn : n ≤ t.handles.opened) :
    ∃ u, Run change s u ∧ Run change u t ∧ u.handles.opened = n := by
  induction h with
  | refl => exact ⟨s, .refl, .refl, Nat.le_antisymm hle hn⟩
  | @perform t i hrun ih =>
    -- Either the last instruction opened the service, or it was open before.
    rcases Nat.lt_or_ge t.handles.opened n with hlt | hge
    · have hsucc : (i.perform t).2.handles.opened ≤ t.handles.opened + 1 := by
        by_cases hi : i = .close
        · subst hi
          exact Nat.le_succ_of_le (Nat.le_of_eq (opened_close t))
        · exact ((hrun.sound hs).steady hi).opened_le
      exact ⟨_, .perform i hrun, .refl, by omega⟩
    · obtain ⟨u, hu, hut, hun⟩ := ih hge
      exact ⟨u, hu, .perform i hut, hun⟩
  | change hc hrun ih =>
    obtain ⟨u, hu, hut, hun⟩ := ih hn
    exact ⟨u, hu, .change hc hut, hun⟩

/-- **On a run, one service was open before another**: at some point the one was open and the other
was not. -/
def OpenedBefore (change : σ → σ → Prop) (start s : Session σ) (o p : Opening) : Prop :=
  ∃ u, Run change start u ∧ Run change u s ∧ u.Holds o ∧ ¬u.Holds p

/-- **Times of opening tell what was open before**: of two services on a run, the one with the earlier
stamp was open when the other was not. -/
theorem Run.openedBefore (h : Run change s t) (hs : s.Sound) (hn : s.handles.opened = 1)
    {o p : Opening} (ho : t.Holds o) (hp : t.Holds p) (hlt : o.stamp < p.stamp) :
    OpenedBefore change s t o p := by
  have hpos := (h.sound hs).wellFormed.stamp_pos _ _ _ ho
  have hle := (h.sound hs).wellFormed.stamp_le _ _ _ hp
  obtain ⟨u, hu, hut, hun⟩ :=
    h.exists_opened_eq hs (n := p.stamp - 1) (by omega) (by omega)
  refine ⟨u, hu, hut, hut.holds_of_stamp_le (hu.sound hs) ho (by omega), fun hup => ?_⟩
  have hstamp := (hu.sound hs).wellFormed.stamp_le _ _ _ hup
  omega

/-! ## (3) Closing -/

/-- **A complete teardown** of a session that has come from a state `start`, with the services it
closes in order. The exchanges are read off a record of closing. -/
structure CompleteTeardown (change : σ → σ → Prop) (start s : Session σ)
    (services : List Opening) : Prop where
  /-- Exactly the open services are closed. -/
  mem_iff : ∀ o, o ∈ services ↔ s.Holds o
  /-- What is closed later was open before; so no service is closed twice. -/
  newestFirst : services.Pairwise fun p o => OpenedBefore change start s o p
  /-- The key store comes last. -/
  keyStore_last : ∃ k, services.getLast? = some k ∧ k.isKeyStore ∧ s.keyStore = some k.handle
  /-- The record is one of what closing does. -/
  close_eq : close.run s = ((close.run s.recorded).1, (close.run s.recorded).2.plain)
  /-- One close request for each service, in order, and then one for the session. -/
  requests_eq : (close.run s.recorded).2.transport.sent.map (·.request) =
    services.map s.closingFrame ++ [s.channel.closingFrame .closeSession s.identifier]
  /-- Closing succeeds just if every exchange does. -/
  ok_iff : (close.run s).1 = .ok () ↔
    ∀ x ∈ (close.run s.recorded).2.transport.sent, s.channel.outcome x = .ok ()
  /-- Otherwise it fails as the first exchange that failed. -/
  first_error : ∀ e, (close.run s).1 = .error e →
    ∃ before x after, (close.run s.recorded).2.transport.sent = before ++ x :: after ∧
      (∀ y ∈ before, s.channel.outcome y = .ok ()) ∧ s.channel.outcome x = .error e
  /-- Nothing is open afterwards. -/
  closed : (close.run s).2.identifier = 0 ∧ (close.run s).2.keyStore = none ∧
    (close.run s).2.openServices = 0 ∧
    ∀ handle, (close.run s).2.handles.resolve handle = .error .unknownHandle
  /-- Closing again does nothing and succeeds. -/
  again : close.run (close.run s.recorded).2 = (.ok (), (close.run s.recorded).2) ∧
    close.run (close.run s).2 = (.ok (), (close.run s).2)

/-- Closing a closed session does nothing, and reports no failure: `Session.close` looks at the identifier
first. -/
theorem close_closed (h : s.identifier = 0) : close.run s = (.ok (), s) := by
  rw [run_close, if_pos h]

omit [Transport σ] in
/-- The key store is the last of the services in order, since it opened before all others. -/
theorem Lists.getLast?_eq (h : s.Sound) {services : List Opening} (hl : s.Lists services)
    {k : Opening} (hk : s.Holds k) (hks : k.isKeyStore) : services.getLast? = some k := by
  rcases List.eq_nil_or_concat services with rfl | ⟨first, last, hsplit⟩
  · exact absurd ((hl.mem_iff k).mpr hk) List.not_mem_nil
  obtain rfl := hsplit.trans List.concat_eq_append
  have hlast : s.Holds last := (hl.mem_iff last).mp List.mem_concat_self
  -- Were the key store not the last, it would be newer than the last, but it is the oldest.
  have hnewest := (List.pairwise_append.mp hl.newestFirst).2.2
  rw [List.getLast?_concat, Option.some.injEq]
  rcases List.mem_append.mp ((hl.mem_iff k).mpr hk) with hmem | hmem
  · have hlt := hnewest k hmem last List.mem_cons_self
    exact absurd (h.oldest k last hk hks hlast) (Nat.not_le.mpr hlt)
  · exact (List.mem_singleton.mp hmem).symm

/-- **Teardown is complete**: in every state that a session reaches over any transport, closing it
closes all it has open, most recent first and the key store last, and then the session itself, whatever
comes of each exchange; the first failure is what closing reports. -/
theorem close_complete {transport : σ} {configuration : Configuration} {sets : List FamilySet}
    {tableId : UInt32} {start s : Session σ}
    (hstart : startWith transport configuration (.enabling sets) tableId = .ok start)
    (hrun : Run (fun _ _ => True) start s) (hopen : s.identifier ≠ 0) :
    ∃ services, CompleteTeardown (fun _ _ => True) start s services := by
  obtain ⟨hsound, hfresh⟩ := sound_startWith (DispatchTable.lawful_enabling sets) hstart
  have hs := hrun.sound hsound
  obtain ⟨services, hl, hmap⟩ := hs.exists_lists
  obtain ⟨k, hk, hks, hkey⟩ := hrun.ready hsound hfresh.ready hopen
  -- The requests are read off the recorded run, and what the session is left with off the plain one;
  -- the record changes neither.
  rcases hclose : close.run s.recorded with ⟨r, t⟩
  have hplain : close.run s = (r, t.plain) := by
    have h := plain_close s.recorded
    rwa [hclose] at h
  obtain ⟨exchanges, hsent, hframes, hr, hid, hnokey, hnone⟩ :=
    hs.recorded.close_sent hopen ⟨hl.mem_iff, hl.newestFirst⟩ hmap hclose
  have hall : t.transport.sent = exchanges := hsent
  -- The key store is as old as anything that is open.
  have hlast : services.getLast? = some k := hl.getLast?_eq hs hk hks
  have hts : t.plain.Sound := by
    obtain ⟨outcomes, hmoves, -⟩ := hs.close_moves
    have h := hmoves.sound hs
    rwa [hplain] at h
  refine ⟨services, hl.mem_iff, ?_, ⟨k, hlast, hks, hkey⟩, ?_, ?_, ?_, ?_, ?_, ?_⟩
  · -- Newest by stamp is newest by the course of the run.
    refine hl.newestFirst.imp_of_mem fun hp ho hlt => ?_
    exact hrun.openedBefore hsound hfresh.opened ((hl.mem_iff _).mp ho) ((hl.mem_iff _).mp hp) hlt
  · rw [hplain, hclose]
  · rw [hclose, hall]
    exact hframes
  · rw [hplain, hclose, hall, hr, firstOf_eq_ok_iff]
    exact List.forall_mem_map
  · -- The first failure is reported, whatever comes after it.
    intro e he
    rw [hplain, hr] at he
    obtain ⟨before, after, hsplit, hok⟩ := of_firstOf_eq_error he
    obtain ⟨first, rest, rfl, rfl, hrest⟩ := List.map_eq_append_iff.mp hsplit
    obtain ⟨x, others, rfl, hx, -⟩ := List.map_eq_cons_iff.mp hrest
    rw [hclose]
    exact ⟨first, x, others, hall, List.forall_mem_map.mp hok, hx⟩
  · rw [hplain]
    exact ⟨hid, hnokey, HandleTable.size_eq_zero hts.wellFormed fun _ _ _ ho => hnone ⟨_, _, _⟩ ho,
      HandleTable.resolve_eq_error fun _ _ _ ho => hnone ⟨_, _, _⟩ ho⟩
  · rw [hclose, hplain]
    exact ⟨close_closed hid, close_closed hid⟩

/-- A session on a new device, after a hash service has been opened on it, is closed completely. -/
theorem close_complete_standard : ∃ (start : Session Device) (services : List Opening),
    startWith { machine := { engine := .start {} } } {} (.enabling [.full]) 1 = .ok start ∧
      CompleteTeardown (fun _ _ => True) start
        ((Instruction.openService .hash).perform start).2 services := by
  obtain ⟨start, hstart⟩ := exists_startWith
  obtain ⟨hsound, hfresh⟩ := sound_startWith (DispatchTable.lawful_enabling _) hstart
  have hopen : ((Instruction.openService .hash).perform start).2.identifier ≠ 0 := by
    have hsteady := hsound.steady (i := .openService .hash) (fun h => by cases h)
    rw [hsteady.identifier_eq]
    exact hfresh.identifier_ne_zero
  obtain ⟨services, h⟩ := close_complete hstart (.perform (.openService .hash) .refl) hopen
  exact ⟨start, services, hstart, h⟩

end SecureEngine.Session
