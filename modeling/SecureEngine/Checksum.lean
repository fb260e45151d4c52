import SecureEngine.Bytes

/-! # Message checksums

The checksum of a byte string is the exclusive or of its little-endian words; a last word that is
not full is padded with zeros.

* **`Checksum.compute`** — the checksum of a byte string.
* **`Checksum.stamp`** — a message with the checksum of all before its last word in that word.
* **`Checksum.check`** — whether the last word of a message is the checksum of the rest; otherwise
  both words. -/

namespace SecureEngine.Checksum

/-- The word of four bytes, least significant first. -/
def wordOf (a b c d : UInt8) : UInt32 := Bytes.word [a, b, c, d]

/-- **The exclusive or of the words of a byte string.** -/
def compute : Bytes → UInt32
  | [] => 0
  | [a] => wordOf a 0 0 0
  | [a, b] => wordOf a b 0 0
  | [a, b, c] => wordOf a b c 0
  | a :: b :: c :: d :: rest => wordOf a b c d ^^^ compute rest

/-- The checksum of nothing is zero. -/
@[simp] theorem compute_nil : compute [] = 0 := by simp [compute]

/-- The first word of a byte string counts once. -/
theorem compute_cons₄ (a b c d : UInt8) (rest : Bytes) :
    compute (a :: b :: c :: d :: rest) = wordOf a b c d ^^^ compute rest := by
  simp [compute]

/-- All of a message but its last word. -/
def body (message : Bytes) : Bytes := message.take (message.length - 4)

/-- The last word of a message. -/
def carried (message : Bytes) : UInt32 := Bytes.word (message.drop (message.length - 4))

/-- **A message with its last word replaced by the checksum of the rest.** A message shorter than
a word is left as it is. -/
def stamp (message : Bytes) : Bytes :=
  if message.length < 4 then message
  else body message ++ Bytes.ofWord (compute (body message))

/-- The two words of a checksum that does not match. -/
structure Mismatch where
  /-- The checksum of the message body. -/
  computed : UInt32
  /-- The last word of the message. -/
  carried : UInt32
deriving DecidableEq, Repr

/-- **Whether a message carries its checksum.** A message shorter than a word is not, and shows two zeros. -/
def check (message : Bytes) : Except Mismatch Unit :=
  if message.length < 4 then .error ⟨0, 0⟩
  else if compute (body message) = carried message then .ok ()
  else .error ⟨compute (body message), carried message⟩

/-- Stamping keeps the length. -/
@[simp] theorem length_stamp (message : Bytes) : (stamp message).length = message.length := by
  unfold stamp
  split
  · rfl
  · simp only [body, List.length_append, List.length_take, Bytes.length_ofWord]
    omega

end SecureEngine.Checksum
