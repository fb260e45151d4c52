/-! # Hexadecimal numerals

* **`hexadecimal digits n`** — `n` in lower-case base sixteen behind `0x`, padded with zeros to at
  least `digits` digits. -/

namespace SecureEngine.Text

/-- **`n` in base sixteen.** Codes are written with at least two digits, words with eight. -/
def hexadecimal (digits n : Nat) : String :=
  let shown := Nat.toDigits 16 n
  "0x" ++ String.ofList (List.replicate (digits - shown.length) '0' ++ shown)

end SecureEngine.Text
