import SecureEngine.Text.Hexadecimal
import SecureEngine.Text.Visible

/-! # Quoted text

* **`Text.quoted`** — a text between quotation marks. Marks and backslashes are escaped, common
  control characters have escapes of their own, and other characters that are not visible are given
  by number. -/

namespace SecureEngine.Text

/-- The hexadecimal digits of a number, without a mark in front. -/
def hexadecimalDigits (n : Nat) : List Char := Nat.toDigits 16 n

/-- A character as it appears in a quoted text. -/
def quotedChar (c : Char) : List Char :=
  match c with
  | '\x00' => ['\\', '0']
  | '\t' => ['\\', 't']
  | '\r' => ['\\', 'r']
  | '\n' => ['\\', 'n']
  | '"' => ['\\', '"']
  | '\\' => ['\\', '\\']
  | _ => if isVisible c then [c] else ['\\', 'u', '\x7b'] ++ hexadecimalDigits c.toNat ++ ['\x7d']

/-- **A text between quotation marks.** -/
def quoted (text : String) : String :=
  String.ofList ('"' :: (text.toList.flatMap quotedChar ++ ['"']))

end SecureEngine.Text
