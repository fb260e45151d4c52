/-! # The characters of a configuration text

Readers take the characters that are left and return what they have read together with the
characters that are then left, or nothing if the text is refused.

* **`Toml.unifyLines`** — every line ends in a line feed.
* **`Toml.skipTrivia`**, **`Toml.endOfLine`** — what may stand between entries and behind them. -/

namespace SecureEngine.Toml

/-- **The text with its line ends unified.** A carriage return that no line feed follows stays, and
no reader accepts it. -/
def unifyLines : List Char → List Char
  | [] => []
  | '\r' :: '\n' :: rest => '\n' :: unifyLines rest
  | c :: rest => c :: unifyLines rest

/-- A space or a tab. -/
def isBlank (c : Char) : Bool := c = ' ' || c = '\t'

/-- A character that may stand in a comment or a text: every one but the control characters, of
which only the tab is allowed. -/
def isPlain (c : Char) : Bool := c = '\t' || (0x20 ≤ c.toNat && c.toNat ≠ 0x7F)

/-- The characters behind spaces and tabs. -/
def skipBlanks (text : List Char) : List Char := text.dropWhile isBlank

/-- **What is left behind spaces, line ends and comments.** -/
def skipTrivia : (comment : Bool) → List Char → List Char
  | _, [] => []
  | true, c :: rest =>
    if isPlain c then skipTrivia true rest
    else if c = '\n' then skipTrivia false rest
    else c :: rest
  | false, c :: rest =>
    if isBlank c || c = '\n' then skipTrivia false rest
    else if c = '#' then skipTrivia true rest
    else c :: rest

/-- **What is left behind the end of a line**, in front of which a comment may stand. The text may
end instead of its last line. -/
def endOfLine (text : List Char) : Option (List Char) :=
  let rest := skipBlanks text
  match if rest.head? = some '#' then rest.dropWhile isPlain else rest with
  | [] => some []
  | '\n' :: rest => some rest
  | _ => none

/-- The value of a digit in some base up to sixteen. -/
def digit? (base : Nat) (c : Char) : Option Nat :=
  let value :=
    if c.isDigit then c.toNat - '0'.toNat
    else if 'a' ≤ c && c ≤ 'f' then c.toNat - 'a'.toNat + 10
    else if 'A' ≤ c && c ≤ 'F' then c.toNat - 'A'.toNat + 10
    else 16
  if value < base then some value else none

end SecureEngine.Toml
