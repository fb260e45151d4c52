import SecureEngine.DispatchTable

/-! # The tables a client can have

* **`DispatchTable.enabling`** — the table after enabling some sets of families, one after the other;
  every table comes about this way, that of a single set included (`ofFamilies_eq_enabling`).
* **`DispatchTable.Lawful`** — a byte stands for the command it names, if the family of the command
  is enabled.
* Commands of one family are enabled together, so what was opened can be closed. -/

namespace SecureEngine.DispatchTable

/-- **The table after enabling some sets of families**, in this order, starting from
`DispatchTable.empty`. -/
def enabling (sets : List FamilySet) : DispatchTable := sets.foldl enable empty

/-- The table of a set of families is one of these: `ofFamilies` enables its families one by one. -/
theorem ofFamilies_eq_enabling (families : FamilySet) :
    ofFamilies families = enabling (families.toList.map .single) := by
  rw [ofFamilies, enabling, List.foldl_map]

/-- **A byte stands for the command it names**, if the family of the command is enabled. -/
def Lawful (table : DispatchTable) : Prop :=
  ∀ code, table.get? code = (Command.ofCode? code).filter fun c => decide (c.family ∈ table.families)

variable {table : DispatchTable}

/-- The empty table has no command: `DispatchTable.empty` finds nothing under any byte. -/
theorem get?_empty (code : UInt8) : empty.get? code = none := by
  simp [get?, empty, Vector.get]

/-- What a byte stands for after enabling some families: the command of that code if its family is among
them, otherwise what `get?` found before. -/
theorem get?_enable (families : FamilySet) (code : UInt8) :
    (table.enable families).get? code = match Command.ofCode? code with
      | some c => if c.family ∈ families then some c else table.get? code
      | none => table.get? code := by
  have hcode : UInt8.ofNat code.toFin.val = code := UInt8.ofNat_toNat
  show (Vector.ofFn _)[code.toFin.val] = _
  rw [Vector.getElem_ofFn]
  dsimp only [Fin.eta]
  rw [hcode]
  rfl

/-- The empty table is `Lawful`: it says nothing of any command. -/
theorem lawful_empty : empty.Lawful := by
  intro code
  rw [get?_empty]
  cases Command.ofCode? code with
  | none => rfl
  | some c =>
    have h : decide (c.family ∈ empty.families) = false :=
      decide_eq_false (FamilySet.not_mem_empty c.family)
    rw [Option.filter_some, h]
    rfl

/-- Enabling further families keeps to the law: `Lawful` holds of `DispatchTable.enable` with the union of
families. -/
theorem Lawful.enable (h : table.Lawful) (families : FamilySet) : (table.enable families).Lawful := by
  intro code
  rw [get?_enable, h code]
  cases hc : Command.ofCode? code with
  | none => rfl
  | some c =>
    by_cases hf : c.family ∈ families <;> by_cases ht : c.family ∈ table.families <;>
      simp [DispatchTable.enable, Option.filter, hf, ht]

/-- Every table that comes of enabling families is `Lawful`. -/
theorem lawful_enabling (sets : List FamilySet) : (enabling sets).Lawful := by
  have h (table : DispatchTable) (ht : table.Lawful) : (sets.foldl enable table).Lawful := by
    induction sets generalizing table with
    | nil => exact ht
    | cons families rest ih =>
      rw [List.foldl_cons]
      exact ih (table.enable families) (ht.enable families)
  exact h empty lawful_empty

/-- A command is enabled just if its family is: `get?` of its code finds it, or nothing. -/
theorem Lawful.get?_code (h : table.Lawful) (c : Command) :
    table.get? c.code = if c.family ∈ table.families then some c else none := by
  rw [h, Command.ofCode?_code]
  by_cases hf : c.family ∈ table.families <;> simp [Option.filter, hf]

/-- With all families enabled, every command is, so `get?` finds each under its code. -/
theorem get?_enabling_full (c : Command) : (enabling [.full]).get? c.code = some c := by
  have hmem : c.family ∈ (enabling [.full]).families :=
    (FamilySet.mem_union c.family empty.families .full).mpr (Or.inr (FamilySet.mem_full c.family))
  rw [(lawful_enabling [.full]).get?_code, if_pos hmem]

/-- The byte of an enabled command is its code: a `Lawful` table keeps every command where
`Command.ofCode?` has it. -/
theorem Lawful.code_of_get? (h : table.Lawful) {code : UInt8} {c : Command}
    (hc : table.get? code = some c) : c.code = code := by
  rw [h, Option.filter_eq_some_iff] at hc
  exact Command.code_of_ofCode? hc.1

/-- The code of a command stands for no other: what `get?` finds there in a `Lawful` table is that
command. -/
theorem Lawful.command_of_get? (h : table.Lawful) {c d : Command}
    (hd : table.get? c.code = some d) : d = c := by
  rw [h.get?_code] at hd
  split at hd
  · exact (Option.some.inj hd).symm
  · cases hd

/-- **Commands of one family are enabled together**: if `get?` finds one of them in a `Lawful` table, it
finds the other. -/
theorem Lawful.get?_code_of_family (h : table.Lawful) {c d : Command} (hf : c.family = d.family)
    (hc : table.get? c.code = some c) : table.get? d.code = some d := by
  rw [h.get?_code] at hc ⊢
  rw [← hf]
  split at hc
  · rename_i hm
    rw [if_pos hm]
  · cases hc

/-- Opening something and closing it belong to one `Family`, so whoever has opened a service can close
it. -/
theorem family_closing (kind : HandleKind) : kind.closing.family = kind.opening.family := by
  cases kind <;> rfl

end SecureEngine.DispatchTable
