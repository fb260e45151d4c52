import SecureEngine.Toml.Quotation
import SecureEngine.Toml.Scalar

/-! # Documents

* **`Toml.value`** — a value, in which arrays and tables may lie in each other up to a depth.
* **`Toml.Statement`** — what a line says, and **`Toml.statements`** — the lines of a document.
* **`Toml.read`** — the table that a document describes. -/

namespace SecureEngine.Toml

/-! ## (1) Keys -/

/-- A character of a key without quotation marks. -/
def isKeyChar (c : Char) : Bool := c.isAlphanum || c = '_' || c = '-'

/-- One part of a key. -/
def keyPart : List Char → Option (String × List Char)
  | '"' :: rest => Quotation.read ⟨true, false⟩ rest
  | '\'' :: rest => Quotation.read ⟨false, false⟩ rest
  | text =>
    let bare := text.takeWhile isKeyChar
    if bare.isEmpty then none else some (String.ofList bare, text.drop bare.length)

/-- How many parts a key may have, and how deep arrays and tables may lie in each other. -/
def maxDepth : Nat := 127

/-- A key of at most `parts` parts: the path to its table, and the last part. -/
def keyUpTo : (parts : Nat) → List Char → Option ((List String × String) × List Char)
  | 0, _ => none
  | parts + 1, text => do
    let (part, rest) ← keyPart (skipBlanks text)
    match skipBlanks rest with
    | '.' :: rest =>
      let ((path, last), rest) ← keyUpTo parts rest
      some ((part :: path, last), rest)
    | rest => some (([], part), rest)

/-- A key, with the blanks around it. -/
def key (text : List Char) : Option ((List String × String) × List Char) := keyUpTo maxDepth text

/-! ## (2) Values -/

section

variable (item : List Char → Option (Value × List Char))

/-- The rest of an array of at most `count` values. Line ends and comments may stand between them,
and a comma behind the last one. -/
def arrayItems : (count : Nat) → List Char → Option (List Value × List Char)
  | 0, _ => none
  | count + 1, text =>
    match skipTrivia false text with
    | ']' :: rest => some ([], rest)
    | text => do
      let (value, rest) ← item text
      match skipTrivia false rest with
      | ']' :: rest => some ([value], rest)
      | ',' :: rest =>
        let (values, rest) ← arrayItems count rest
        some (value :: values, rest)
      | _ => none

/-- A key and its value. -/
def pair (text : List Char) : Option (((List String × String) × Value) × List Char) := do
  let (key, rest) ← key text
  match rest with
  | '=' :: rest =>
    let (value, rest) ← item (skipBlanks rest)
    some ((key, value), rest)
  | _ => none

/-- The rest of a table in braces, with at most `count` pairs. -/
def pairs : (count : Nat) → List Char → Option (List ((List String × String) × Value) × List Char)
  | 0, _ => none
  | count + 1, text => do
    let (first, rest) ← pair item text
    match skipBlanks rest with
    | '\x7d' :: rest => some ([first], rest)
    | ',' :: rest =>
      let (others, rest) ← pairs count rest
      some (first :: others, rest)
    | _ => none

end

/-- The value in front of a text, in which arrays and tables lie in each other at most `depth`
deep. -/
def valueUpTo : (depth : Nat) → List Char → Option (Value × List Char)
  | 0, '[' :: _ => none
  | depth + 1, '[' :: rest => do
    let (items, rest) ← arrayItems (valueUpTo depth) (rest.length + 1) rest
    some (.array items, rest)
  | 0, '\x7b' :: _ => none
  | depth + 1, '\x7b' :: rest => do
    match skipBlanks rest with
    | '\x7d' :: rest => some (.table .braces [], rest)
    | rest =>
      let (pairs, rest) ← pairs (valueUpTo depth) (rest.length + 1) rest
      let entries ← ofPairs pairs []
      some (.table .braces entries, rest)
  | _, '"' :: '"' :: '"' :: rest =>
    (Quotation.read ⟨true, true⟩ rest).map fun (text, rest) => (.string text, rest)
  | _, '\'' :: '\'' :: '\'' :: rest =>
    (Quotation.read ⟨false, true⟩ rest).map fun (text, rest) => (.string text, rest)
  | _, '"' :: rest =>
    (Quotation.read ⟨true, false⟩ rest).map fun (text, rest) => (.string text, rest)
  | _, '\'' :: rest =>
    (Quotation.read ⟨false, false⟩ rest).map fun (text, rest) => (.string text, rest)
  | _, text => scalar text

/-- **The value in front of a text.** -/
def value (text : List Char) : Option (Value × List Char) := valueUpTo maxDepth text

/-! ## (3) Lines -/

/-- **What a line says.** -/
inductive Statement
  /-- A key of the current table has a value. -/
  | pair (path : List String) (key : String) (value : Value)
  /-- The current table is now this one. -/
  | table (path : List String) (key : String)
  /-- The current table is now a new one behind the others of this name. -/
  | nextTable (path : List String) (key : String)

/-- The `Statement` in front of a text. -/
def statement : List Char → Option (Statement × List Char)
  | '[' :: '[' :: rest => do
    let ((path, last), rest) ← key rest
    match rest with
    | ']' :: ']' :: rest => some (.nextTable path last, rest)
    | _ => none
  | '[' :: rest => do
    let ((path, last), rest) ← key rest
    match rest with
    | ']' :: rest => some (.table path last, rest)
    | _ => none
  | text => do
    let (((path, last), value), rest) ← pair value text
    some (.pair path last value, rest)

/-- At most `count` statements, each with a line of its own. -/
def statementsUpTo : (count : Nat) → List Char → Option (List Statement)
  | 0, _ => none
  | count + 1, text =>
    match skipTrivia false text with
    | [] => some []
    | text => do
      let (first, rest) ← statement text
      let rest ← endOfLine rest
      let others ← statementsUpTo count rest
      some (first :: others)

/-- **The statements of a text.** A byte order mark may stand in front of them. -/
def statements (text : String) : Option (List Statement) :=
  let characters := unifyLines text.toList
  let characters := if characters.head? = some '\ufeff' then characters.drop 1 else characters
  statementsUpTo (characters.length + 1) characters

/-! ## (4) Tables -/

/-- A header gives a table its own place, once. -/
def openTable (key : String) (entries : Entries) : Option Entries :=
  match entries.lookup key with
  | none => some (replace key (.table .header []) entries)
  | some (.table .implied inner) => some (replace key (.table .header inner) entries)
  | some _ => none

/-- A header in double brackets adds a table behind the others of its name. -/
def addTable (key : String) (entries : Entries) : Option Entries :=
  match entries.lookup key with
  | none => some (replace key (.tables [[]]) entries)
  | some (.tables list) => some (replace key (.tables (list ++ [[]])) entries)
  | some _ => none

/-- A pair in the current table. A dotted key only adds to tables that dotted keys have brought
about, and the current table is not one of those. -/
def addPair (path : List String) (key : String) (value : Value) (origin : Origin)
    (entries : Entries) : Option Entries :=
  alter .dotted
    (fun final entries =>
      if final = .dotted ↔ path = [] then none else define key value entries)
    path origin entries

/-- The table that statements describe, `current` being the path to the current table. -/
def build : (current : List String) → List Statement → Entries → Option Entries
  | _, [], root => some root
  | current, .pair path key value :: rest, root => do
    let root ← alter .header (addPair path key value) current .header root
    build current rest root
  | _, .table path key :: rest, root => do
    let root ← alter .header (fun _ => openTable key) path .header root
    build (path ++ [key]) rest root
  | _, .nextTable path key :: rest, root => do
    let root ← alter .header (fun _ => addTable key) path .header root
    build (path ++ [key]) rest root

/-- **The table that a document describes.** -/
def read (text : String) : Option Entries := do build [] (← statements text) []

end SecureEngine.Toml
