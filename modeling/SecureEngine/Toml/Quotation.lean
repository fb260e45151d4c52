import SecureEngine.Toml.Lexical

/-! # Quoted texts

* **`Toml.Quotation`** — the four kinds: between double or single marks, on one line or on several.
  Only texts between double marks have escapes.
* **`Toml.Quotation.read`** — the text behind an opening mark. -/

namespace SecureEngine.Toml

/-- **A kind of quoted text.** -/
structure Quotation where
  /-- Whether the marks are double marks. -/
  escapes : Bool
  /-- Whether the text stands between three marks each. -/
  multiline : Bool
deriving DecidableEq, Repr

namespace Quotation

/-- The mark on both sides of a text. -/
def mark (q : Quotation) : Char := if q.escapes then '"' else '\''

/-- What a reader of a quoted text is in the middle of. -/
inductive Within
  /-- Characters that stand for themselves. -/
  | plain
  /-- An escape, of which only the backslash has been read. -/
  | escape
  /-- An escape by number, of which some digits more than `left` are to come. -/
  | scalar (left value : Nat)
  /-- The space around a line end that a backslash removes, and whether that line end has come. -/
  | gap (ended : Bool)
deriving DecidableEq, Repr

/-- The character that a letter behind a backslash stands for. -/
def named? : Char → Option Char
  | 'b' => some '\x08'
  | 't' => some '\t'
  | 'n' => some '\n'
  | 'f' => some '\x0c'
  | 'r' => some '\r'
  | '"' => some '"'
  | '\\' => some '\\'
  | _ => none

/-- The character of a number, unless it is too large or one half of a pair. -/
def character? (n : Nat) : Option Char :=
  if n.isValidChar then some (Char.ofNat n) else none

/-- The marks in front of the closing ones that belong to the text, and what is left behind the
closing ones. At most two marks can stand directly in front of three closing marks. -/
def closing? (q : Quotation) (text : List Char) : Option (List Char × List Char) :=
  let run := (text.takeWhile (· = q.mark)).length
  if q.multiline then
    if run < 3 then none
    else some (List.replicate (min run 5 - 3) q.mark, text.drop (min run 5))
  else if run = 0 then none
  else some ([], text.drop 1)

/-- A character in front of what a reader has read. -/
def push (c : Char) : Option (List Char × List Char) → Option (List Char × List Char)
  | none => none
  | some (text, rest) => some (c :: text, rest)

/-- The characters of a text up to its closing marks. -/
def body (q : Quotation) : Within → List Char → Option (List Char × List Char)
  | _, [] => none
  | .escape, c :: rest =>
    match named? c with
    | some named => push named (q.body .plain rest)
    | none =>
      if c = 'u' then q.body (.scalar 3 0) rest
      else if c = 'U' then q.body (.scalar 7 0) rest
      else if q.multiline && isBlank c then q.body (.gap false) rest
      else if q.multiline && c = '\n' then q.body (.gap true) rest
      else none
  | .scalar left value, c :: rest =>
    match digit? 16 c with
    | none => none
    | some digit =>
      match left with
      | left + 1 => q.body (.scalar left (16 * value + digit)) rest
      | 0 =>
        match character? (16 * value + digit) with
        | none => none
        | some named => push named (q.body .plain rest)
  | .gap false, c :: rest =>
    if isBlank c then q.body (.gap false) rest
    else if c = '\n' then q.body (.gap true) rest
    else none
  | within, c :: rest =>
    if within = .gap true && (isBlank c || c = '\n') then q.body (.gap true) rest
    else
      -- A run of marks is judged as a whole, so this comes before the single characters.
      match q.closing? (c :: rest) with
      | some closed => some closed
      | none =>
        if q.escapes && c = '\\' then q.body .escape rest
        else if isPlain c || (q.multiline && c = '\n') then push c (q.body .plain rest)
        else none

/-- **The text behind an opening mark.** A line end directly behind three opening marks does not
belong to the text. -/
def read (q : Quotation) (text : List Char) : Option (String × List Char) :=
  let text := if q.multiline && text.head? = some '\n' then text.drop 1 else text
  (q.body .plain text).map fun (characters, rest) => (String.ofList characters, rest)

end Quotation

end SecureEngine.Toml
