import SecureEngine.Bytes

/-! # The random generator

A generator is a ChaCha key stream of twelve rounds and a position in it. Every draw starts at a
whole word: what a draw leaves of its last word is not used.

* **`Generator`** — a key and a position.
* **`Generator.ofNumber`**, **`Generator.ofSeed`** — the start of the key stream for a number or for
  32 bytes.
* **`Generator.bytes`**, **`Generator.advance`** — the next bytes, and the generator after they are
  drawn; **`Generator.draw`** — both. -/

namespace SecureEngine

/-- **A key stream and a position in it.** -/
structure Generator where
  /-- The key of the stream. -/
  key : Vector UInt32 8
  /-- The number of words drawn so far. -/
  position : Nat
deriving DecidableEq, Repr

namespace Generator

/-! ## (1) The key stream -/

/-- A word rotated to the left. -/
def rotate (w n : UInt32) : UInt32 := (w <<< n) ||| (w >>> (32 - n))

/-- One quarter round on four words of a block. -/
def quarter (s : Vector UInt32 16) (a b c d : Fin 16) : Vector UInt32 16 :=
  let s := s.set a (s[a] + s[b])
  let s := s.set d (rotate (s[d] ^^^ s[a]) 16)
  let s := s.set c (s[c] + s[d])
  let s := s.set b (rotate (s[b] ^^^ s[c]) 12)
  let s := s.set a (s[a] + s[b])
  let s := s.set d (rotate (s[d] ^^^ s[a]) 8)
  let s := s.set c (s[c] + s[d])
  s.set b (rotate (s[b] ^^^ s[c]) 7)

/-- Two rounds: quarter rounds on the columns of a block, then on its diagonals. -/
def doubleRound (s : Vector UInt32 16) : Vector UInt32 16 :=
  let s := quarter (quarter (quarter (quarter s 0 4 8 12) 1 5 9 13) 2 6 10 14) 3 7 11 15
  quarter (quarter (quarter (quarter s 0 5 10 15) 1 6 11 12) 2 7 8 13) 3 4 9 14

/-- The block before the rounds: four constants, the key, the number of the block and two zeros. -/
def input (key : Vector UInt32 8) (number : UInt64) : Vector UInt32 16 :=
  (#v[0x61707865, 0x3320646E, 0x79622D32, 0x6B206574] : Vector UInt32 4) ++ key
    ++ (#v[number.toUInt32, (number >>> 32).toUInt32, 0, 0] : Vector UInt32 4)

/-- **One block of the key stream.** -/
def block (key : Vector UInt32 8) (number : UInt64) : Vector UInt32 16 :=
  (input key number).zipWith (· + ·) (Nat.repeat doubleRound 6 (input key number))

/-! ## (2) Seeds -/

/-- The start of the key stream for 32 bytes. -/
def ofSeed (seed : Vector UInt8 32) : Generator where
  key := Vector.ofFn fun i : Fin 8 => Bytes.word (seed.toList.drop (4 * i))
  position := 0

/-- One step of the recurrence that spreads a number over a seed, with the word it yields. -/
def spread (state : UInt64) : UInt32 × UInt64 :=
  let next := state * 6364136223846793005 + 11634580027462260723
  let word := (((next >>> 18) ^^^ next) >>> 27).toUInt32
  let turn := (next >>> 59).toUInt32
  ((word >>> turn) ||| (word <<< (32 - turn)), next)

/-- The words that a number is spread to. -/
def spreadWords : (n : Nat) → UInt64 → Vector UInt32 n
  | 0, _ => #v[]
  | n + 1, state =>
    let (word, next) := spread state
    (#v[word] ++ spreadWords n next).cast (Nat.add_comm 1 n)

/-- The start of the key stream for a number. -/
def ofNumber (seed : UInt64) : Generator := ⟨spreadWords 8 seed, 0⟩

/-! ## (3) Draws -/

/-- The number of words that `n` bytes are taken from. -/
def wordCount (n : Nat) : Nat := (n + 3) / 4

/-- The words of the key stream from a block on. -/
def wordsFrom (key : Vector UInt32 8) (first count : Nat) : List UInt32 :=
  (List.range' first count).flatMap fun number => (block key (UInt64.ofNat number)).toList

/-- **The next `n` bytes.** -/
def bytes (g : Generator) (n : Nat) : Bytes :=
  let skipped := g.position % 16
  let blocks := (skipped + wordCount n + 15) / 16
  (((wordsFrom g.key (g.position / 16) blocks).drop skipped).flatMap Bytes.ofWord).take n

/-- **The generator after drawing `n` bytes.** -/
def advance (g : Generator) (n : Nat) : Generator :=
  { g with position := g.position + wordCount n }

/-- **Draws `n` bytes.** -/
def draw (g : Generator) (n : Nat) : Bytes × Generator := (g.bytes n, g.advance n)

/-- The words of whole blocks. -/
theorem length_wordsFrom (key : Vector UInt32 8) (first count : Nat) :
    (wordsFrom key first count).length = 16 * count := by
  induction count generalizing first with
  | zero => rfl
  | succ count ih =>
    have := ih (first + 1)
    simp only [wordsFrom] at this
    simp only [wordsFrom, List.range'_succ, List.flatMap_cons, List.length_append,
      Vector.length_toList, this]
    omega

/-- As many bytes are drawn as were asked for. -/
@[simp] theorem length_bytes (g : Generator) (n : Nat) : (g.bytes n).length = n := by
  simp only [bytes, List.length_take, List.length_flatMap, Bytes.length_ofWord, List.map_const',
    List.sum_replicate_nat, List.length_drop, length_wordsFrom, wordCount]
  omega

end Generator

end SecureEngine
