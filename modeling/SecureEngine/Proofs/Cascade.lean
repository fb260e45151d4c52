import SecureEngine.Proofs.Lifetime
import SecureEngine.Proofs.Robustness

/-! # Closing what was opened below

Closing an object goes down what was opened below it, and takes every object away after its children.
Handles are used again, so a child may have a lower handle than its parent, and neither the handles nor
the objects as a whole say how deep this goes.

* **`Engine.prune`** — going down a tree, with a bound on how deep.
* **`Engine.Within`** — how deep the chains below a root go; **`Engine.exists_prune`**: within that depth
  the way down ends, and what has been removed is what lies below the root.
* **`Engine.Orderly.prune_eq`** — in an engine in order, three levels are enough, and the way down comes
  to what `removeTree` leaves.
* **`Engine.closing_cascades`** — every accepted request to close removes exactly one tree. -/

namespace SecureEngine

namespace Engine

/-! ## (1) Going down a tree -/

/-- What was opened on a handle, by handle: the objects whose `parentOf?` is `root`, in the order of the
table. -/
def children (objects : IdMap EngineObject) (root : UInt32) : List UInt32 :=
  (objects.entries.filter fun entry => entry.2.parent? == some root).map (·.1)

/-- **Going down a tree**: what was opened on its root is listed, each of these trees is taken away, and
then the root. There is no result if the bound on the depth is met. -/
def prune : (depth : Nat) → (root : UInt32) → IdMap EngineObject → Option (IdMap EngineObject)
  | 0, _, _ => none
  | depth + 1, root, objects =>
    ((children objects root).foldlM (fun rest child => prune depth child rest) objects).map
      (·.erase root)

/-- **All chains down from a root have at most as many objects** as the depth says. It is by recursion on
the depth, one level of `parentOf?` at a time. -/
def Within (objects : IdMap EngineObject) : (depth : Nat) → (root : UInt32) → Prop
  | 0, _ => False
  | depth + 1, root => ∀ child, parentOf? objects child = some root → Within objects depth child

variable {objects rest : IdMap EngineObject} {root child handle : UInt32} {depth : Nat}

/-- The `children` of a root are what has the root as its parent. -/
theorem mem_children_iff :
    child ∈ children objects root ↔ parentOf? objects child = some root := by
  simp only [children, List.mem_map, List.mem_filter, beq_iff_eq, parentOf?, Option.bind_eq_some_iff,
    IdMap.find?_eq_some_iff, Prod.exists, exists_and_right, exists_eq_right]

/-- What lies below a root is the root, or lies below one of its `children`. -/
theorem below_iff_children :
    Below objects root handle ↔
      handle = root ∨ ∃ child ∈ children objects root, Below objects child handle := by
  constructor
  · intro h
    -- By induction on the path, which ends at the root itself or passes through one of its children.
    induction h with
    | refl => exact Or.inl rfl
    | @step handle parent hp _ ih =>
      rcases ih with rfl | ⟨child, hchild, hbelow⟩
      · exact Or.inr ⟨handle, mem_children_iff.mpr hp, .refl⟩
      · exact Or.inr ⟨child, hchild, .step hp hbelow⟩
  · rintro (rfl | ⟨child, hchild, hbelow⟩)
    · exact .refl
    · exact hbelow.trans (.step (mem_children_iff.mp hchild) .refl)

/-- What ends `Within` some levels ends within one more, by induction on the depth along the recursion of
the definition. -/
theorem Within.succ (h : Within objects depth root) : Within objects (depth + 1) root := by
  induction depth generalizing root with
  | zero => exact h.elim
  | succ depth ih => exact fun child hp => ih (h child hp)

/-- What ends `Within` some levels ends within more, by as many steps of `Within.succ`. -/
theorem Within.mono {bound : Nat} (h : Within objects depth root) (hle : depth ≤ bound) :
    Within objects bound root := by
  induction hle with
  | refl => exact h
  | step _ ih => exact ih.succ

/-! ## (2) What is left -/

/-- Removing a tree makes no other tree deeper: what `Removes` leaves has only parents that were there
before. -/
theorem Removes.within (h : Removes objects root rest) (hdepth : Within objects depth child) :
    Within rest depth child := by
  induction depth generalizing child with
  | zero => exact hdepth
  | succ depth ih => exact fun handle hp => ih (hdepth handle (h.of_parentOf?_eq hp).1)

/-- **What is left keeps its chain of parents**, because whatever the chain comes by has not been below
the root either. -/
theorem Removes.below_iff (h : Removes objects root rest) {top : UInt32} {object : EngineObject}
    (hleft : rest.find? handle = some object) :
    Below rest top handle ↔ Below objects top handle :=
  ⟨fun hbelow => hbelow.mono fun _ _ hp _ => (h.of_parentOf?_eq hp).1,
    fun hbelow => hbelow.of_removes h ((h handle object).mp hleft).2⟩

/-- **Taking trees away one after another** leaves what lies below none of their roots, if each of them
is taken away on its own. -/
theorem exists_foldlM_prune {depth : Nat}
    (hprune : ∀ (objects : IdMap EngineObject) (root : UInt32), Within objects depth root →
      ∃ rest, prune depth root objects = some rest ∧ Removes objects root rest)
    {roots : List UInt32} {objects : IdMap EngineObject}
    (h : ∀ root ∈ roots, Within objects depth root) :
    ∃ rest, roots.foldlM (fun rest root => prune depth root rest) objects = some rest ∧
      ∀ handle object, rest.find? handle = some object ↔
        objects.find? handle = some object ∧ ∀ root ∈ roots, ¬Below objects root handle := by
  -- By induction on the roots: pruning one of them leaves the others with the subtrees they had.
  induction roots generalizing objects with
  | nil => exact ⟨objects, rfl, fun handle object => by simp⟩
  | cons root roots ih =>
    obtain ⟨hroot, hroots⟩ := List.forall_mem_cons.mp h
    obtain ⟨next, hnext, hremoves⟩ := hprune objects root hroot
    obtain ⟨rest, hrest, hfind⟩ := ih fun other hother => hremoves.within (hroots other hother)
    refine ⟨rest, by rw [List.foldlM_cons, hnext]; exact hrest, fun handle object => ?_⟩
    rw [hfind, List.forall_mem_cons]
    constructor
    · rintro ⟨hleft, hothers⟩
      obtain ⟨hfound, hnot⟩ := (hremoves handle object).mp hleft
      refine ⟨hfound, hnot, fun other hother => ?_⟩
      rw [← hremoves.below_iff hleft]
      exact hothers other hother
    · rintro ⟨hfound, hnot, hothers⟩
      have hleft : next.find? handle = some object := (hremoves handle object).mpr ⟨hfound, hnot⟩
      refine ⟨hleft, fun other hother => ?_⟩
      rw [hremoves.below_iff hleft]
      exact hothers other hother

/-- **Within the depth of the tree the way down ends**, and it has removed what lies below the root. The
induction is on the depth: the children are within a depth that is one less, and taking one of them away
makes the trees of the others no deeper. -/
theorem exists_prune (h : Within objects depth root) :
    ∃ rest, prune depth root objects = some rest ∧ Removes objects root rest := by
  -- By induction on the depth: the children are one level lower, and are folded over first.
  induction depth generalizing objects root with
  | zero => exact h.elim
  | succ depth ih =>
    have hchildren : ∀ child ∈ children objects root, Within objects depth child :=
      fun child hchild => h child (mem_children_iff.mp hchild)
    obtain ⟨left, hfold, hfind⟩ := exists_foldlM_prune (fun _ _ hdepth => ih hdepth) hchildren
    refine ⟨left.erase root, by rw [prune, hfold, Option.map_some], fun handle object => ?_⟩
    rw [IdMap.find?_erase, below_iff_children, not_or]
    by_cases hroot : handle = root
    · simp [hroot]
    · rw [if_neg hroot, hfind]
      simp [hroot]

/-- `Removes` determines the objects that are left. -/
theorem Removes.unique {other : IdMap EngineObject} (h : Removes objects root rest)
    (h' : Removes objects root other) : rest = other := by
  refine IdMap.ext_find? fun handle => Option.ext fun object => ?_
  exact (h handle object).trans (h' handle object).symm

/-- What does not lie `Below` the root stays as it is, and is found under its handle as before. -/
theorem Removes.find?_eq (h : Removes objects root rest) (hnot : ¬Below objects root handle) :
    rest.find? handle = objects.find? handle :=
  Option.ext fun object => (h handle object).trans (and_iff_left hnot)

/-! ## (3) Engines in order -/

/-- **In an engine in order the chains are of three objects at most**: a service, its key store and its
session. -/
theorem Orderly.within {engine : Engine} (h : engine.Orderly) (root : UInt32) :
    Within engine.objects 3 root := by
  intro child hchild below hbelow last hlast
  have hnone := h.parentOf?_eq_none hlast hbelow
  rw [hchild] at hnone
  cases hnone

/-- **Going down three levels removes the tree**: in an `Orderly` engine no chain is longer, so `prune`
comes to an end and leaves the objects of `Engine.removeTree`. -/
theorem Orderly.prune_eq {engine : Engine} {object : EngineObject} (h : engine.Orderly)
    (hroot : engine.objects.find? root = some object) (hdepth : 3 ≤ depth) :
    prune depth root engine.objects = some (engine.removeTree root).objects := by
  obtain ⟨rest, hprune, hremoves⟩ := exists_prune ((h.within root).mono hdepth)
  rw [hprune, hremoves.unique fun _ _ => find?_removeTree hroot]

/-- Of two objects that something lies `Below`, one lies below the other, because going up by `parentOf?`
leaves no choice. -/
theorem below_or_below {top : UInt32} (h : Below objects root handle)
    (h' : Below objects top handle) : Below objects root top ∨ Below objects top root := by
  induction h with
  | refl => exact Or.inr h'
  | step hp hb ih =>
    rcases h'.eq_or_parent with rfl | ⟨parent, hp', hb'⟩
    · exact Or.inl (.step hp hb)
    · rw [hp] at hp'
      cases hp'
      exact ih hb'

/-- **Trees of sessions do not meet others**: what lies below a session does not lie below anything from
outside of it. -/
theorem not_below_of_session {session : UInt32}
    (hsession : objects.find? session = some .session) (houtside : ¬Below objects session root)
    (h : Below objects session handle) : ¬Below objects root handle := by
  intro hbelow
  rcases below_or_below h hbelow with hroot | htop
  · exact houtside hroot
  · -- A session has no parent, so it lies below itself only.
    have hself := htop.eq_of_parentOf?_eq_none (parentOf?_of_find? hsession)
    exact houtside (hself ▸ .refl)

/-- **Closing an object cascades**: everything that lies `Below` it goes with it, everything else stays,
and `prune` comes to an end with the objects that are left. -/
structure Cascades (before after : Engine) (root : UInt32) : Prop where
  /-- What is closed was open. -/
  exists_root : ∃ object, before.objects.find? root = some object
  /-- Going down its tree comes to an end, with the objects that are left. -/
  prune_eq : ∀ depth, 3 ≤ depth → prune depth root before.objects = some after.objects
  /-- What is gone is the root and all objects whose chains of parents come by it; all others are open
  as before, under the same handles. -/
  removes : Removes before.objects root after.objects
  /-- A session that the root is not below keeps all its key stores and services. -/
  find?_eq : ∀ session, before.objects.find? session = some .session →
    ¬Below before.objects session root → ∀ handle, Below before.objects session handle →
      after.objects.find? handle = before.objects.find? handle

/-- What `Closes` leaves is what the cascade of `prune` leaves, if objects are in order. -/
theorem Closes.cascades {before after : Engine} (horderly : before.Orderly)
    (h : Closes before after root) : Cascades before after root := by
  have hremoves := h.removes
  obtain ⟨⟨object, hroot⟩, hobjects, -⟩ := h
  refine ⟨⟨object, hroot⟩, fun depth hdepth => ?_, hremoves, ?_⟩
  · rw [hobjects]
    exact horderly.prune_eq hroot hdepth
  · intro session hsession houtside handle hbelow
    exact hremoves.find?_eq (not_below_of_session hsession houtside hbelow)

end Engine

/-! ## (4) Requests to close -/

/-- **The handle that a request asks to close**, if its command is one of the three that close
something. -/
def Command.closed? {flavor : Flavor} : (c : Command) → c.Request flavor → Option UInt32
  | .closeSession, root => some root
  | .closeKeyStore, root => some root
  | .closeService _, root => some root
  | _, _ => none

namespace Engine

/-- A command that closes something and succeeds has closed what `closed?` tells. -/
theorem Completes.closes {flavor : Flavor} {before after : Engine} {c : Command} {m : c.Request flavor}
    {root : UInt32} (h : Completes before after c m) (hclosed : c.closed? m = some root) :
    Closes before after root := by
  cases c with
  | closeSession | closeKeyStore | closeService kind =>
    cases hclosed
    exact h
  | _ => cases hclosed

/-- **Every accepted request to close removes exactly one tree**, whatever has been executed before. -/
theorem closing_cascades (settings : EngineSettings) (requests : List (SharedMemory × Bytes))
    (memory : SharedMemory) {request : Bytes} {c : Command} {root : UInt32}
    {m : c.Request ((start settings).afterAll requests).settings.flavor}
    (hreads : ((start settings).afterAll requests).Reads request c m)
    (hclosed : c.closed? m = some root)
    (haccepted : ¬((execute request).run ⟨(start settings).afterAll requests, memory⟩).1.Failed) :
    Cascades ((start settings).afterAll requests)
      ((execute request).run ⟨(start settings).afterAll requests, memory⟩).2.engine root := by
  have horderly : ((start settings).afterAll requests).Orderly := (orderly_afterAll settings requests).2
  cases execute_ends request ⟨(start settings).afterAll requests, memory⟩ with
  | failed hfailed => exact absurd hfailed haccepted
  | @succeeded _ c' m' hreads' hcompletes =>
    -- A request is read in one way only.
    obtain rfl : c' = c := Except.ok.inj (hreads'.accept_eq.symm.trans hreads.accept_eq)
    obtain rfl : m' = m := Except.ok.inj (hreads'.decode_eq.symm.trans hreads.decode_eq)
    exact (hcompletes.closes hclosed).cascades horderly

/-- Requests of which one closes a session, so that the next session has a key store under a handle
lower than its own; there is a third session. -/
def crossedRequests : List (SharedMemory × Bytes) :=
  let send (c : Command) (m : c.Request .legacy) : SharedMemory × Bytes :=
    ({}, (start {}).requestFor c m)
  [send .openSession (⟨1, 0, 0, 0, 0, 0⟩ : Wire.OpenSession),
    send .openSession (⟨1, 0, 0, 0, 0, 0⟩ : Wire.OpenSession),
    send .closeSession (0x100 : UInt32),
    send .openKeyStore (⟨0x101, 0x1234, 0x5678, 1⟩ : Wire.OpenKeyStore),
    send (.openService .cipher) (⟨0x100, 0⟩ : Wire.OpenService),
    send .openSession (⟨1, 0, 0, 0, 0, 0⟩ : Wire.OpenSession)]

/-- The engine after `crossedRequests`, run from the start with the default settings. -/
def crossedEngine : Engine := (start {}).afterAll crossedRequests

/-- Closing the second session takes the key store under the lower handle with it, and the service on
that; the third session stays. -/
theorem closing_cascades_crossed :
    crossedEngine.Reads (crossedEngine.requestFor .closeSession (0x101 : UInt32)) .closeSession
        (0x101 : UInt32) ∧
      ¬((execute (crossedEngine.requestFor .closeSession (0x101 : UInt32))).run
          ⟨crossedEngine, {}⟩).1.Failed ∧
      Cascades crossedEngine ((execute (crossedEngine.requestFor .closeSession (0x101 : UInt32))).run
        ⟨crossedEngine, {}⟩).2.engine 0x101 := by
  have hreads := reads_requestFor crossedEngine .closeSession (0x101 : UInt32)
  have haccepted : ¬((execute (crossedEngine.requestFor .closeSession (0x101 : UInt32))).run
      ⟨crossedEngine, {}⟩).1.Failed := by decide +kernel
  exact ⟨hreads, haccepted, closing_cascades {} crossedRequests {} hreads rfl haccepted⟩

end Engine

end SecureEngine
