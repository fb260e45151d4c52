import SecureEngine.Toml.Lexical
import SecureEngine.Toml.Value

/-! # Numbers, truth values and times

* **`Toml.integer?`**, **`Toml.isFloat`** — numerals, in which an underscore may stand between two
  digits.
* **`Toml.isTime`**, **`Toml.isDate`** — times of day and days.
* **`Toml.scalar`** — the value at the front of a text that is neither quoted nor in brackets. -/

namespace SecureEngine.Toml

/-! ## (1) Numerals -/

/-- The values of digits, of which an underscore may separate any two. -/
def digits? (base : Nat) : List Char → Option (List Nat)
  | [] => none
  | c :: rest =>
    match digit? base c, rest with
    | none, _ => none
    | some digit, [] => some [digit]
    | some digit, '_' :: rest => (digits? base rest).map (digit :: ·)
    | some digit, c :: rest => (digits? base (c :: rest)).map (digit :: ·)

/-- The number that digits stand for, the most significant first. -/
def valueOf (base : Nat) (digits : List Nat) : Nat :=
  digits.foldl (fun value digit => base * value + digit) 0

/-- Whether a numeral has a minus, and what follows its sign. -/
def signed : List Char → Bool × List Char
  | '+' :: rest => (false, rest)
  | '-' :: rest => (true, rest)
  | text => (false, text)

/-- The digits of a number in base ten without a sign: only zero starts with a zero. -/
def decimal? (text : List Char) : Option (List Nat) :=
  match digits? 10 text with
  | some (0 :: _ :: _) => none
  | digits => digits

/-- An integer that fits in sixty-four bits with its sign. -/
def bounded? (n : Int) : Option Int :=
  if (Int64.ofInt n).toInt = n then some n else none

/-- **The integer that a word stands for.** Other bases than ten are marked in front and have no
sign. -/
def integer? : List Char → Option Int
  | '0' :: 'x' :: rest => (digits? 16 rest).bind fun digits => bounded? (valueOf 16 digits)
  | '0' :: 'o' :: rest => (digits? 8 rest).bind fun digits => bounded? (valueOf 8 digits)
  | '0' :: 'b' :: rest => (digits? 2 rest).bind fun digits => bounded? (valueOf 2 digits)
  | text =>
    let (negative, rest) := signed text
    (decimal? rest).bind fun digits =>
      bounded? (if negative then -(valueOf 10 digits : Int) else valueOf 10 digits)

/-- The number that digits stand for in base ten with zeros behind them. -/
def scaled (digits : List Nat) (zeros : Nat) : Nat := valueOf 10 (digits ++ List.replicate zeros 0)

/-- The least number that rounds to no double-precision number: halfway from the largest of these
to the next power of two. -/
def leastOverflow : Nat := (1 <<< 54 - 1) <<< 970

/-- Whether digits, with the point moved by `exponent` places behind them, are so large that they
round to no double-precision number. Very large and very small numbers are told apart by their
lengths. -/
def overflows (digits : List Nat) (exponent : Int) : Bool :=
  let digits := digits.dropWhile (· = 0)
  let magnitude := digits.length + exponent
  if digits.isEmpty || magnitude ≤ 308 then false
  else if 310 ≤ magnitude then true
  else if 0 ≤ exponent then leastOverflow ≤ scaled digits exponent.toNat
  else leastOverflow ≤ valueOf 10 (digits.take magnitude.toNat)

/-- The exponent that follows the digits of a number, zero if there is none. -/
def exponent? : List Char → Option Int
  | [] => some 0
  | c :: rest =>
    if c = 'e' || c = 'E' then
      let (negative, rest) := signed rest
      (digits? 10 rest).map fun digits =>
        if negative then -(valueOf 10 digits : Int) else valueOf 10 digits
    else none

/-- **Whether a word is a number with a fraction or an exponent**, infinite or undefined. A positive
number may not be too large. -/
def isFloat (text : List Char) : Bool :=
  let (negative, rest) := signed text
  if rest = ['i', 'n', 'f'] || rest = ['n', 'a', 'n'] then true
  else
    let isExponent c := c = 'e' || c = 'E'
    let whole := rest.takeWhile fun c => !(c = '.' || isExponent c)
    let fits (digits : List Nat) (exponent : Int) := negative || !overflows digits exponent
    match decimal? whole, rest.drop whole.length with
    | some _, [] => false
    | some digits, '.' :: rest =>
      let fraction := rest.takeWhile fun c => !isExponent c
      match digits? 10 fraction, exponent? (rest.drop fraction.length) with
      | some more, some exponent => fits (digits ++ more) (exponent - more.length)
      | _, _ => false
    | some digits, rest => (exponent? rest).any (fits digits)
    | none, _ => false

/-! ## (2) Times -/

/-- The number of two digits. -/
def pair? (c d : Char) : Option Nat := do
  some (10 * (← digit? 10 c) + (← digit? 10 d))

/-- Whether two digits are a number up to a bound. -/
def isUpTo (bound : Nat) (c d : Char) : Bool := (pair? c d).any (· ≤ bound)

/-- Whether two digits are a number from one up to a bound. -/
def isFromOneUpTo (bound : Nat) (c d : Char) : Bool :=
  (pair? c d).any fun n => 1 ≤ n && n ≤ bound

/-- **Whether a word is a day**, as `yyyy-mm-dd`. Every month may have thirty-one days. -/
def isDate : List Char → Bool
  | [y₁, y₂, y₃, y₄, '-', m₁, m₂, '-', d₁, d₂] =>
    (pair? y₁ y₂).isSome && (pair? y₃ y₄).isSome && isFromOneUpTo 12 m₁ m₂
      && isFromOneUpTo 31 d₁ d₂
  | _ => false

/-- What follows a time of day, as `hh:mm:ss` with or without a fraction. -/
def afterTime : List Char → Option (List Char)
  | h₁ :: h₂ :: ':' :: m₁ :: m₂ :: ':' :: s₁ :: s₂ :: rest =>
    if isUpTo 23 h₁ h₂ && isUpTo 59 m₁ m₂ && isUpTo 60 s₁ s₂ then
      match rest with
      | '.' :: c :: rest => if c.isDigit then some (rest.dropWhile Char.isDigit) else none
      | rest => some rest
    else none
  | _ => none

/-- Whether a word is the offset of a time zone, or nothing. -/
def isOffset : List Char → Bool
  | [] => true
  | [c] => c = 'Z' || c = 'z'
  | [sign, h₁, h₂, ':', m₁, m₂] =>
    (sign = '+' || sign = '-') && isUpTo 23 h₁ h₂ && isUpTo 59 m₁ m₂
  | _ => false

/-- **Whether a word is a time of day**, with or without a time zone. -/
def isTime (text : List Char) : Bool := (afterTime text).any isOffset

/-- Whether a word is a day or a time, or both with a letter between them. Without a day there is no
time zone. -/
def isDateTime (text : List Char) : Bool :=
  isDate text || afterTime text = some [] ||
    (isDate (text.take 10) &&
      match text.drop 10 with
      | c :: rest => (c = 'T' || c = 't') && isTime rest
      | [] => false)

/-! ## (3) Words -/

/-- A character of a number, a truth value or a time. -/
def isWordChar (c : Char) : Bool :=
  c.isAlphanum || c = '_' || c = '+' || c = '-' || c = '.' || c = ':'

/-- The value that a word stands for. -/
def word? (text : List Char) : Option Value :=
  if text = ['t', 'r', 'u', 'e'] then some (.boolean true)
  else if text = ['f', 'a', 'l', 's', 'e'] then some (.boolean false)
  else if isDateTime text then some .dateTime
  else if isFloat text then some .float
  else (integer? text).map .integer

/-- **The value at the front of a text** that is neither quoted nor in brackets. A time may follow
its day behind a space. -/
def scalar (text : List Char) : Option (Value × List Char) :=
  let word := text.takeWhile isWordChar
  let rest := text.drop word.length
  match isDate word, rest with
  | true, ' ' :: c :: more =>
    if c.isDigit then
      let time := (c :: more).takeWhile isWordChar
      if isTime time then some (.dateTime, (c :: more).drop time.length) else none
    else some (.dateTime, rest)
  | _, _ => (word? word).map (·, rest)

end SecureEngine.Toml
