import SecureEngine.Proofs.Checksum

/-! # Messages that end in their checksum

Writing the checksum of a message and checking it are done apart, by spelling a word and by reading one.

* **`Checksum.wordSum`** — the checksum as it is described, piece by piece; **`Checksum.compute_eq_wordSum`**
  — it is what is computed, also where the last piece is not full.
* **`Checksum.stamp_append`**, **`Checksum.check_append_eq_ok_iff`** — stamping and checking a message that
  is taken apart into its body and its last word.
* **`Checksum.Determined`** — what is written, what passes and what is reported otherwise.
* **`Checksum.stamp_determined`** — it holds of every message of at least a word; a shorter one is left as
  it is and does not pass. -/

namespace SecureEngine

/-- Reading a word and spelling it again gives the four bytes back: `ofWord` inverts `word` on four
bytes. -/
theorem Bytes.ofWord_word {bytes : Bytes} (h : bytes.length = 4) : ofWord (word bytes) = bytes := by
  have hlt := toNat_lt bytes
  have hmodulus : modulus 4 = UInt32.size := rfl
  rw [h, hmodulus] at hlt
  rw [ofWord, word, List.take_of_length_le (Nat.le_of_eq h), UInt32.toNat_ofNat_of_lt' hlt, ← h]
  exact ofNat_toNat bytes

/-- A spelled word is read as it was: `word` inverts `ofWord`. -/
theorem Bytes.word_ofWord (w : UInt32) : word (ofWord w) = w := by
  rw [← List.append_nil (ofWord w)]
  exact word_ofWord_append w []

namespace Checksum

/-! ## (1) The checksum as it is described -/

/-- **The exclusive or of the words of a byte string**, cut into pieces of four; what is missing in the
last one counts as zero. -/
def wordSum (bytes : Bytes) : UInt32 :=
  (Bytes.chunks 4 bytes).foldl (fun sum piece => sum ^^^ Bytes.word piece) 0

/-- Adding up the pieces behind some sum adds up all of them: the fold over `Bytes.chunks`, generalized
over its start. -/
theorem foldl_word_eq (bytes : Bytes) (sum : UInt32) :
    (Bytes.chunks 4 bytes).foldl (fun sum piece => sum ^^^ Bytes.word piece) sum =
      sum ^^^ compute bytes := by
  -- By induction in steps of four, over any sum so far.
  fun_induction compute bytes generalizing sum with
  | case1 => simp
  | case2 | case3 | case4 => simp [Bytes.chunks, wordOf, Bytes.word]
  | case5 a b c d rest ih =>
    have hchunks : Bytes.chunks 4 (a :: b :: c :: d :: rest) = [a, b, c, d] :: Bytes.chunks 4 rest := by
      rw [Bytes.chunks]
      rfl
    rw [hchunks, List.foldl_cons, ih, wordOf, UInt32.xor_assoc]

/-- **What is computed is the checksum as it is described**: `Checksum.compute` is the exclusive or of all
words, `wordSum`. -/
theorem compute_eq_wordSum (bytes : Bytes) : compute bytes = wordSum bytes := by
  rw [wordSum, foldl_word_eq, UInt32.zero_xor]

/-! ## (2) A body and a last word -/

section

variable {last : Bytes} (h : last.length = 4) (front : Bytes)

include h

/-- A message of at least a word is long enough for a body and a last word. -/
theorem length_append_sub : (front ++ last).length - 4 = front.length := by
  rw [List.length_append, h, Nat.add_sub_cancel]

/-- The body of a message is all but its last four bytes, as `Checksum.body` cuts them off. -/
theorem body_append : body (front ++ last) = front := by
  rw [body, length_append_sub h]
  exact List.take_left' rfl

/-- The checksum that a message carries is spelled by its last four bytes, where `Checksum.carried` reads
it. -/
theorem carried_append : carried (front ++ last) = Bytes.word last := by
  rw [carried, length_append_sub h, List.drop_left' rfl]

/-- A message that ends in four bytes is long enough for a checksum, which is what `stamp` and `check` ask
first. -/
theorem not_length_append_lt : ¬(front ++ last).length < 4 := by
  rw [List.length_append, h]
  exact Nat.not_lt.mpr (Nat.le_add_left 4 _)

/-- Stamping replaces the last word by the checksum of what comes before it: `stamp` on a message that is
cut at its last word. -/
theorem stamp_append : stamp (front ++ last) = front ++ Bytes.ofWord (compute front) := by
  rw [stamp, body_append h, if_neg (not_length_append_lt h front)]

/-- **A message passes just if it ends in the checksum** of what comes before. -/
theorem check_append_eq_ok_iff :
    check (front ++ last) = .ok () ↔ last = Bytes.ofWord (compute front) := by
  rw [check, if_neg (not_length_append_lt h front), body_append h, carried_append h]
  constructor
  · intro hcheck
    split at hcheck
    · rename_i heq
      rw [heq, Bytes.ofWord_word h]
    · cases hcheck
  · intro hlast
    rw [if_pos]
    rw [hlast, Bytes.word_ofWord]

/-- **What is reported** of a message that does not pass are two different words: the checksum of the body,
and the word that the message ends in. -/
theorem of_check_append_eq_error {mismatch : Mismatch} (hcheck : check (front ++ last) = .error mismatch) :
    mismatch.computed = compute front ∧ Bytes.ofWord mismatch.carried = last ∧
      mismatch.computed ≠ mismatch.carried := by
  rw [check, if_neg (not_length_append_lt h front), body_append h, carried_append h] at hcheck
  split at hcheck
  · cases hcheck
  · rename_i hne
    cases hcheck
    exact ⟨rfl, Bytes.ofWord_word h, hne⟩

end

/-- A message of at least a word has a body and a last word. -/
theorem exists_eq_append {message : Bytes} (h : 4 ≤ message.length) :
    ∃ front last : Bytes, last.length = 4 ∧ message = front ++ last := by
  refine ⟨message.take (message.length - 4), message.drop (message.length - 4), ?_,
    (List.take_append_drop _ _).symm⟩
  rw [List.length_drop]
  omega

/-- A stamped message carries its checksum: `check` accepts what `stamp` makes of it. -/
theorem check_stamp {message : Bytes} (h : 4 ≤ message.length) : check (stamp message) = .ok () := by
  obtain ⟨front, last, hlast, rfl⟩ := exists_eq_append h
  rw [stamp_append hlast, check_append_eq_ok_iff (Bytes.length_ofWord _)]

/-- A message that is stamped is not changed by stamping it again, so `stamp` is idempotent. -/
theorem stamp_stamp {message : Bytes} (h : 4 ≤ message.length) :
    stamp (stamp message) = stamp message := by
  obtain ⟨front, last, hlast, rfl⟩ := exists_eq_append h
  rw [stamp_append hlast, stamp_append (Bytes.length_ofWord _)]

/-- Messages of one length that agree before their last words have the same body. -/
theorem exists_eq_append_of_getElem? {front last other : Bytes} (h : last.length = 4)
    (hlength : other.length = (front ++ last).length)
    (hsame : ∀ i, i + 4 < (front ++ last).length → other[i]? = (front ++ last)[i]?) :
    ∃ last' : Bytes, last'.length = 4 ∧ other = front ++ last' := by
  rw [List.length_append, h] at hlength hsame
  refine ⟨other.drop front.length, by rw [List.length_drop]; omega, ?_⟩
  -- All but the last four bytes are compared one by one.
  have htake : other.take front.length = front := by
    apply List.ext_getElem?
    intro i
    rw [List.getElem?_take]
    split
    · rename_i hlt
      rw [hsame i (by omega), List.getElem?_append_left hlt]
    · rename_i hge
      rw [List.getElem?_eq_none (Nat.not_lt.mp hge)]
  have hsplit := List.take_append_drop front.length other
  rw [htake] at hsplit
  exact hsplit.symm

/-! ## (3) Every message -/

/-- **Stamping and checking determine each other** on a message: `stamp` gives the one message with its
body that `check` accepts. -/
structure Determined (message : Bytes) : Prop where
  length_stamp : (stamp message).length = message.length
  /-- Stamping writes the last four bytes only. -/
  getElem?_stamp : ∀ i, i + 4 < message.length → (stamp message)[i]? = message[i]?
  /-- What it writes is the checksum of the bytes before, the least significant byte first. -/
  drop_stamp : (stamp message).drop (message.length - 4) =
    Bytes.ofWord (wordSum (message.take (message.length - 4)))
  stamp_stamp : stamp (stamp message) = stamp message
  /-- With these bytes the message passes, and with no others. -/
  check_eq_ok_iff : ∀ other : Bytes, other.length = message.length →
    (∀ i, i + 4 < message.length → other[i]? = message[i]?) →
      (check other = .ok () ↔ other = stamp message)
  /-- Otherwise the checksum and the word in its place are reported, and they are different. -/
  of_check_eq_error : ∀ mismatch, check message = .error mismatch →
    mismatch.computed = wordSum (message.take (message.length - 4)) ∧
      Bytes.ofWord mismatch.carried = message.drop (message.length - 4) ∧
        mismatch.computed ≠ mismatch.carried

/-- **Every message of at least a word is determined by its body**: stamping it writes the one last word
with which it passes. A shorter one is left as it is, and does not pass. -/
theorem stamp_determined (message : Bytes) :
    (4 ≤ message.length → Determined message) ∧
      (message.length < 4 → stamp message = message ∧ check message = .error ⟨0, 0⟩) := by
  refine ⟨fun hle => ?_, fun hlt => ⟨by rw [stamp, if_pos hlt], by rw [check, if_pos hlt]⟩⟩
  -- The message is split before its last word: stamping keeps the front and replaces the word.
  obtain ⟨front, last, hlast, rfl⟩ := exists_eq_append hle
  have htake : (front ++ last).take ((front ++ last).length - 4) = front := body_append hlast front
  have hdrop (word : Bytes) : (front ++ word).drop ((front ++ last).length - 4) = word := by
    rw [length_append_sub hlast, List.drop_left' rfl]
  refine ⟨length_stamp _, fun i hi => ?_, ?_, stamp_stamp hle, fun other hlength hsame => ?_,
    fun mismatch hcheck => ?_⟩
  · rw [List.length_append, hlast, Nat.add_lt_add_iff_right] at hi
    rw [stamp_append hlast, List.getElem?_append_left hi, List.getElem?_append_left hi]
  · rw [stamp_append hlast, hdrop, htake, compute_eq_wordSum]
  · obtain ⟨last', hlast', rfl⟩ := exists_eq_append_of_getElem? hlast hlength hsame
    rw [check_append_eq_ok_iff hlast', stamp_append hlast, List.append_cancel_left_eq]
  · rw [htake, hdrop, ← compute_eq_wordSum]
    exact of_check_append_eq_error hlast front hcheck

/-- A message of seven bytes, whose body ends in a piece that is not full: one last word passes, and any
other is reported. -/
theorem stamp_determined_partial :
    let message : Bytes := [0x06, 0x05, 0x30, 0xff, 0xff, 0xff, 0xff]
    Determined message ∧ stamp message = [0x06, 0x05, 0x30, 0x06, 0x05, 0x30, 0x00] ∧
      check message = .error ⟨0x00300506, 0xffffffff⟩ := by
  intro message
  exact ⟨(stamp_determined message).1 (by decide), by decide, rfl⟩

end Checksum

end SecureEngine
