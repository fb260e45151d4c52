/-! # Values of a configuration text

* **`Toml.Value`** — what a key can stand for. Floats and date-times are only recognised: nothing
  reads their contents.
* **`Toml.Origin`** — what brought a table about, which decides what may be added to it later.
* **`Toml.alter`** — a change to the table at the end of a path, where tables on the way are brought
  about as needed. -/

namespace SecureEngine.Toml

/-- What brought a table about. -/
inductive Origin
  /-- A table written in braces. -/
  | braces
  /-- A header that names the table, or the top of the document. -/
  | header
  /-- A header that names a table inside this one. -/
  | implied
  /-- A dotted key that names an entry inside this table. -/
  | dotted
deriving DecidableEq, Repr

/-- **What a key can stand for.** -/
inductive Value
  | string (text : String)
  | integer (number : Int)
  | boolean (value : Bool)
  | float
  | dateTime
  | array (items : List Value)
  | table (origin : Origin) (entries : List (String × Value))
  /-- The tables that headers in double brackets add, in order. -/
  | tables (list : List (List (String × Value)))
deriving Inhabited

/-- The entries of a table, in the order in which they appear. -/
abbrev Entries := List (String × Value)

/-- The `Entries` with the value of a key changed; a new key goes to the end. -/
def replace (key : String) (value : Value) : Entries → Entries
  | [] => [(key, value)]
  | entry :: entries =>
    if entry.1 = key then (key, value) :: entries else entry :: replace key value entries

/-- How a path is followed. -/
inductive Descent
  /-- The path of a header. -/
  | header
  /-- The path of a dotted key in the document. -/
  | dotted
  /-- The path of a dotted key inside braces. -/
  | braces
deriving DecidableEq, Repr

/-- What brings about the tables that a path names and that do not exist yet. -/
def Descent.created : Descent → Origin
  | .header => .implied
  | .dotted => .dotted
  | .braces => .braces

/-- Whether a path may lead through a table. A table in braces is complete outside its braces, and
a dotted key does not reach into a table that has a header of its own. -/
def Descent.passes : Descent → Origin → Bool
  | .header, origin => origin ≠ .braces
  | .dotted, origin => origin = .implied || origin = .dotted
  | .braces, origin => origin = .braces

/-- **A change to the table at the end of a path.** A path leads through the newest of several
tables of one name. Nothing is the result if the path is blocked or the change is refused. -/
def alter (descent : Descent) (change : Origin → Entries → Option Entries) :
    (path : List String) → Origin → Entries → Option Entries
  | [], origin, entries => change origin entries
  | key :: path, _, entries =>
    match entries.lookup key with
    | none => do
      let inner ← alter descent change path descent.created []
      some (replace key (.table descent.created inner) entries)
    | some (.table origin inner) =>
      if descent.passes origin then do
        let inner ← alter descent change path origin inner
        some (replace key (.table origin inner) entries)
      else none
    | some (.tables list) =>
      match list.getLast? with
      | none => none
      | some newest => do
        let newest ← alter descent change path .header newest
        some (replace key (.tables (list.dropLast ++ [newest])) entries)
    | some _ => none

/-- A key with its value added to a table; a key appears only once. -/
def define (key : String) (value : Value) (entries : Entries) : Option Entries :=
  if (entries.lookup key).isSome then none else some (replace key value entries)

/-- The table that some keys in braces and their values make up. -/
def ofPairs : (pairs : List ((List String × String) × Value)) → Entries → Option Entries
  | [], entries => some entries
  | ((path, key), value) :: pairs, entries => do
    let entries ← alter .braces (fun _ => define key value) path .braces entries
    ofPairs pairs entries

end SecureEngine.Toml
