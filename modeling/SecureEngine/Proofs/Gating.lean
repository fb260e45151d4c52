import SecureEngine.Proofs.Bootstrap
import SecureEngine.Proofs.Upkeep

/-! # Only what is enabled is sent

A client sends requests of the families that it was given or has enabled later, and of no other, whatever
it is asked for.

* **`DispatchTable.after`** — the table of a set of families after enabling further ones;
  **`DispatchTable.Enabled`** — the families enabled in it.
* **`DispatchTable.Lawful.get?_eq_some_iff`** — a byte stands for an enabled command with this code;
  **`DispatchTable.Lawful.eq_of_families_eq`** — the table depends on what is enabled only.
* **`Recorder.KeepsTo`** — only commands of some families are on record; **`Channel.keepsTo_process`** —
  no round trip sends another.
* **`DispatchTable.Gated`** — what is enabled decides what is sent, by every round trip and by every
  session; **`DispatchTable.gated_after`** — so it is for every table. -/

namespace SecureEngine

/-! ## (1) Tables -/

namespace DispatchTable

/-- **The table of a set of families after enabling further sets**, one after the other. -/
def after (families : FamilySet) (sets : List FamilySet) : DispatchTable :=
  sets.foldl enable (ofFamilies families)

/-- **A family is enabled**: it is in the first set, or in one that was enabled later. -/
def Enabled (families : FamilySet) (sets : List FamilySet) (f : Family) : Prop :=
  f ∈ families ∨ ∃ set ∈ sets, f ∈ set

/-- All these tables come about by enabling families, one set after the other, so `after` is a case of
`enabling`. -/
theorem after_eq_enabling (families : FamilySet) (sets : List FamilySet) :
    after families sets = enabling (families.toList.map .single ++ sets) := by
  rw [after, ofFamilies_eq_enabling, enabling, enabling, List.foldl_append]

/-- The families of a table are those it had and those that were enabled. -/
theorem mem_families_foldl_enable (sets : List FamilySet) (table : DispatchTable) (f : Family) :
    f ∈ (sets.foldl enable table).families ↔ f ∈ table.families ∨ ∃ set ∈ sets, f ∈ set := by
  induction sets generalizing table with
  | nil => simp
  | cons set rest ih =>
    rw [List.foldl_cons, ih]
    simp [enable, or_assoc]

/-- A table is `Lawful` whatever families have been enabled, one set after the other. -/
theorem lawful_after (families : FamilySet) (sets : List FamilySet) :
    (after families sets).Lawful := by
  rw [after_eq_enabling]
  exact lawful_enabling _

/-- A table that is made for some families has just these: `ofFamilies` enables no other. -/
theorem mem_families_ofFamilies (families : FamilySet) (f : Family) :
    f ∈ (ofFamilies families).families ↔ f ∈ families := by
  have hempty : f ∉ empty.families := FamilySet.not_mem_empty f
  -- Enabling the families one by one is enabling their union.
  rw [ofFamilies, ← List.foldl_map, mem_families_foldl_enable, or_iff_right hempty]
  constructor
  · rintro ⟨set, hset, hf⟩
    obtain ⟨g, hg, rfl⟩ := List.mem_map.mp hset
    obtain rfl := (FamilySet.mem_single f g).mp hf
    exact (FamilySet.mem_toList f families).mp hg
  · intro hf
    exact ⟨.single f, List.mem_map_of_mem ((FamilySet.mem_toList f families).mpr hf),
      (FamilySet.mem_single f f).mpr rfl⟩

/-- The families of a table are those it began with and those that were `Enabled` since. -/
theorem mem_families_after (families : FamilySet) (sets : List FamilySet) (f : Family) :
    f ∈ (after families sets).families ↔ Enabled families sets f := by
  rw [after, mem_families_foldl_enable, mem_families_ofFamilies, Enabled]

variable {table other : DispatchTable}

/-- **A byte stands for a command** just if it is its code and its family is enabled. -/
theorem Lawful.get?_eq_some_iff (h : table.Lawful) {code : UInt8} {c : Command} :
    table.get? code = some c ↔ c.code = code ∧ c.family ∈ table.families := by
  rw [h, Option.filter_eq_some_iff, decide_eq_true_iff]
  refine and_congr_left fun _ => ⟨Command.code_of_ofCode?, ?_⟩
  rintro rfl
  exact Command.ofCode?_code c

/-- **A table depends on what is enabled only**: two `Lawful` tables with the same families find the same
commands. -/
theorem Lawful.eq_of_families_eq (h : table.Lawful) (h' : other.Lawful)
    (hf : table.families = other.families) : table = other := by
  obtain ⟨entries, families⟩ := table
  obtain ⟨entries', _⟩ := other
  obtain rfl : families = _ := hf
  congr 1
  refine Vector.ext fun i hi => ?_
  -- The entry at a position is what the byte stands for.
  have hentry (table : DispatchTable) : table.entries[i] = table.get? (UInt8.ofNat i) := by
    have htoNat : (UInt8.ofNat i).toFin.val = i := UInt8.toNat_ofNat_of_lt' hi
    show _ = table.entries[(UInt8.ofNat i).toFin.val]
    simp only [htoNat]
  rw [hentry ⟨entries, families⟩, hentry ⟨entries', families⟩, h, h']

end DispatchTable

/-! ## (2) Round trips -/

variable {σ : Type}

/-- **Only commands of some families are on record**: each request names one of them. -/
def Recorder.KeepsTo (r : Recorder σ) (enabled : Family → Prop) : Prop :=
  ∀ request ∈ r.requests, ∃ c : Command, c.code = Engine.commandByte request ∧ enabled c.family

/-- What sends nothing sends nothing else: `KeepsTo` looks at the requests on record only. -/
theorem Recorder.KeepsTo.of_requests_eq {enabled : Family → Prop} {r r' : Recorder σ}
    (h : r.KeepsTo enabled) (heq : r'.requests = r.requests) : r'.KeepsTo enabled :=
  fun request hmem => h request (heq ▸ hmem)

variable [Transport σ]

/-- **No round trip sends a request of another family**: `Channel.process` refuses a code that its table
does not find. -/
theorem Channel.keepsTo_process {channel : Channel} {enabled : Family → Prop}
    (hl : channel.table.Lawful) (he : ∀ f ∈ channel.table.families, enabled f) :
    channel.Keeps fun r : Recorder σ => r.KeepsTo enabled := by
  intro code handle arguments r hr
  obtain ⟨result, calls, t, hcourse, -, hrun⟩ := course_process channel code handle arguments r
  have hrequests : ((channel.process code handle arguments).run r).2.requests =
      r.requests ++ (calls.filterMap TransportCall.sent?).map (·.request) := by
    rw [hrun, Recorder.requests, Recorder.sent, List.filterMap_append, List.map_append]
    rfl
  intro request hmem
  rw [hrequests] at hmem
  rcases List.mem_append.mp hmem with hmem | hmem
  · exact hr request hmem
  -- Staging and reading back send nothing, so the request is that of the command of this byte.
  cases hcourse with
  | unprepared hs => simp [hs.filterMap_sent?, TransportCall.sent?] at hmem
  | @unanswered _ _ _ c p _ _ hs hc | @refused _ _ _ c p _ _ hs hc
  | @settled _ _ _ _ c p _ _ hs hc =>
    obtain ⟨rfl, hfamily⟩ := hl.get?_eq_some_iff.mp hc
    obtain rfl : request = channel.frame c.code p.request := by
      simpa [hs.filterMap_sent?, filterMap_sent?_readBacks, TransportCall.sent?] using hmem
    exact ⟨c, (channel.commandByte_frame p.request).symm, he c.family hfamily⟩

/-! ## (3) Sessions -/

namespace Session

variable {s : Session (Recorder σ)} {enabled : Family → Prop}

/-- Giving a session up sends only what closing it sends, so `Session.release` keeps to the families of
its table. -/
theorem Sound.keepsTo_release (hs : s.Sound) (he : ∀ f ∈ s.channel.table.families, enabled f)
    (h : s.transport.KeepsTo enabled) : s.release.KeepsTo enabled :=
  (hs.close_keeps (Channel.keepsTo_process hs.lawful he) h).of_requests_eq
    (Recorder.requests_note rfl _)

/-- **Coming up sends requests of enabled families only**, however far `Session.establish` gets before it
fails. -/
theorem keepsTo_establish {table : DispatchTable} (hl : table.Lawful)
    (he : ∀ f ∈ table.families, enabled f) {transport : σ} {configuration : Configuration}
    {tableId : UInt32} {r : Except ClientError Unit}
    (hrun : (establish configuration).run
      (initial (⟨transport, []⟩ : Recorder σ) configuration table tableId) = (r, s)) :
    s.Sound ∧ s.channel.table = table ∧ s.transport.KeepsTo enabled := by
  have hinitial := sound_initial (⟨transport, []⟩ : Recorder σ) configuration tableId hl
  obtain ⟨hs, -⟩ := hinitial.establish rfl rfl hrun
  have hkept := establish_keeps hinitial.wellFormed (Channel.keepsTo_process hl he)
    (fun r offset size hr => hr.of_requests_eq (Recorder.requests_note rfl _)) configuration nofun
  rw [hrun] at hkept
  exact ⟨hs, congrArg Channel.table hkept.1, hkept.2⟩

/-- **A session sends requests of enabled families only**, on every run and when it is given up. -/
theorem Run.keepsTo {change : σ → σ → Prop} {t : Session (Recorder σ)}
    (hrun : Run (Recorder.Passes change) s t) (hs : s.Sound)
    (he : ∀ f ∈ s.channel.table.families, enabled f) (h : s.transport.KeepsTo enabled) :
    t.transport.KeepsTo enabled ∧ t.release.KeepsTo enabled := by
  obtain ⟨hchannel, hkept⟩ := hrun.keeps hs (Channel.keepsTo_process hs.lawful he)
    (fun r r' hpass hr => hr.of_requests_eq (by rw [Recorder.requests, Recorder.sent, hpass.2]; rfl)) h
  exact ⟨hkept, (hrun.sound hs).keepsTo_release (hchannel ▸ he) hkept⟩

end Session

/-! ## (4) The whole -/

namespace DispatchTable

/-- **What is `Enabled` decides what is sent**, over any transport of a kind. -/
structure Gated (σ : Type) [Transport σ] (families : FamilySet) (sets : List FamilySet) : Prop where
  /-- A byte stands for the enabled command with this code. -/
  get?_iff : ∀ code c, (after families sets).get? code = some c ↔
    c.code = code ∧ Enabled families sets c.family
  /-- Order, grouping and repetition of what is enabled do not matter. -/
  after_eq : ∀ others sets', (∀ f, Enabled families sets f ↔ Enabled others sets' f) →
    after families sets = after others sets'
  /-- A byte without an enabled command is refused, and the registrations are dropped. Nothing else is
  done. -/
  refused : ∀ (unit : Wire.MessageUnit) (flavor : Flavor) (code : UInt8) (handle : UInt32)
      (arguments : Arguments) (r : Recorder σ),
    (∀ c : Command, c.code = code → ¬Enabled families sets c.family) →
      (Channel.process ⟨after families sets, unit, flavor⟩ code handle arguments).run r =
        ((.error (.notSupported code), arguments),
          r.note (.reset r.transport) (Transport.resetDataBuffers r.transport))
  /-- A round trip sends nothing of another family, and does the same without a record. -/
  process_keepsTo : ∀ (unit : Wire.MessageUnit) (flavor : Flavor) (code : UInt8) (handle : UInt32)
      (arguments : Arguments) (transport : σ),
    ∃ result r, r.KeepsTo (Enabled families sets) ∧
      (Channel.process ⟨after families sets, unit, flavor⟩ code handle arguments).run
        (⟨transport, []⟩ : Recorder σ) = (result, r) ∧
      (Channel.process ⟨after families sets, unit, flavor⟩ code handle arguments).run transport =
        (result, r.transport)
  /-- Nor does a start that fails. -/
  start_keepsTo : ∀ (configuration : Configuration) (tableId : UInt32) (transport t : σ)
      (e : ClientError),
    Session.startWith transport configuration (after families sets) tableId = .error (e, t) →
      ∃ r : Recorder σ, r.KeepsTo (Enabled families sets) ∧ r.transport = t ∧
        Session.startWith (⟨transport, []⟩ : Recorder σ) configuration (after families sets) tableId =
          .error (e, r)
  /-- Nor does a session on any run, or when it is given up after one. -/
  run_keepsTo : ∀ (configuration : Configuration) (tableId : UInt32) (transport : σ)
      (change : σ → σ → Prop) (start s : Session σ),
    Session.startWith transport configuration (after families sets) tableId = .ok start →
    Session.Run change start s →
      ∃ start' s' : Session (Recorder σ), start'.plain = start ∧ s'.plain = s ∧
        Session.startWith (⟨transport, []⟩ : Recorder σ) configuration (after families sets) tableId =
          .ok start' ∧
        Session.Run (Recorder.Passes change) start' s' ∧
        s'.transport.KeepsTo (Enabled families sets) ∧ s'.release.KeepsTo (Enabled families sets)

/-- **Enabling families is all that lets requests through**: whatever families a table is made for and
whatever is enabled later, in any order, grouping and repetition, a byte stands for its command just if
the family of the command is among them, and no request of another family is sent over any transport. -/
theorem gated_after (σ : Type) [Transport σ] (families : FamilySet) (sets : List FamilySet) :
    Gated σ families sets := by
  have hl := lawful_after families sets
  have he (f : Family) := (mem_families_after families sets f).mp
  refine ⟨?_, ?_, ?_, ?_, ?_, ?_⟩
  · intro code c
    rw [hl.get?_eq_some_iff, mem_families_after]
  · intro others sets' hiff
    refine hl.eq_of_families_eq (lawful_after others sets') (FamilySet.ext (funext fun f => ?_))
    rw [Bool.eq_iff_iff]
    exact (mem_families_after _ _ f).trans ((hiff f).trans (mem_families_after _ _ f).symm)
  · -- Nothing is sent for a code that no enabled family has.
    intro unit flavor code handle arguments r hnone
    refine Channel.run_process_disabled ?_ r
    rw [Option.eq_none_iff_forall_ne_some]
    intro c hc
    obtain ⟨hcode, hfamily⟩ := hl.get?_eq_some_iff.mp hc
    exact hnone c hcode (he c.family hfamily)
  · -- Every frame that a call sends is of an enabled command.
    intro unit flavor code handle arguments transport
    obtain ⟨result, calls, t, -, hplain, hrecorded⟩ := Channel.course_process
      ⟨after families sets, unit, flavor⟩ code handle arguments (⟨transport, []⟩ : Recorder σ)
    have hkeeps : Channel.Keeps ⟨after families sets, unit, flavor⟩
        fun r : Recorder σ => r.KeepsTo (Enabled families sets) := Channel.keepsTo_process hl he
    have hkept := hkeeps code handle arguments ⟨transport, []⟩ nofun
    rw [hrecorded] at hkept
    exact ⟨result, _, hkept, hrecorded, hplain⟩
  · -- A start that fails has sent what it asked for and what it backed out with.
    intro configuration tableId transport t e hstart
    rw [Session.startWith_eq_plain] at hstart
    split at hstart
    · cases hstart
    rename_i e' r hrecorded
    cases hstart
    obtain ⟨s, hrun, rfl⟩ := Session.exists_of_startWith_eq_error hrecorded
    obtain ⟨hs, htable, hkept⟩ := Session.keepsTo_establish hl he hrun
    exact ⟨s.release, hs.keepsTo_release (htable ▸ he) hkept, rfl, hrecorded⟩
  · -- A start that succeeds, then any run of the session and its release.
    intro configuration tableId transport change start s hstart hrun
    rw [Session.startWith_eq_plain] at hstart
    split at hstart
    · rename_i start' hrecorded
      cases hstart
      obtain ⟨s', hrun', hplain⟩ := hrun.exists_recorded
      obtain ⟨hs, htable, hkept⟩ :=
        Session.keepsTo_establish hl he (Session.startWith_eq_ok_iff.mp hrecorded)
      obtain ⟨hkept', hrelease⟩ := hrun'.keepsTo hs (htable ▸ he) hkept
      exact ⟨start', s', rfl, hplain, hrecorded, hrun', hkept', hrelease⟩
    · cases hstart

end DispatchTable

end SecureEngine
