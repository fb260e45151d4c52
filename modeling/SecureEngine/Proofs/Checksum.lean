import SecureEngine.Checksum

/-! # What the checksum detects

* **`Checksum.lane`** — the exclusive or of every fourth byte. The checksum is the word of the four
  lanes (`compute_eq_lanes`).
* **`Checksum.compute_difference`** — the checksum of a difference is the difference of the checksums.
* **`Checksum.check_eq_ok_iff`** — a message of whole words carries its checksum just if the checksum of
  all of it is zero.
* **`Bytes.Damaged`** — two byte strings differ, but only within four consecutive bytes.
* **`Checksum.compute_difference_ne_zero`** — such a difference meets each lane at most once, so it has a
  checksum.
* **`Checksum.detection`** — what passes beside a message that carries its checksum, and that damage in one
  place never does. -/

namespace SecureEngine

namespace Checksum

/-! ## (1) Words of bytes -/

/-- Numbers that end in the same number of bits are combined part by part. -/
theorem xor_add_mul (a b x y : Nat) (ha : a < 256) (hb : b < 256) :
    (a + 256 * x) ^^^ (b + 256 * y) = (a ^^^ b) + 256 * (x ^^^ y) := by
  have hab : a ^^^ b < 256 := Nat.xor_lt_two_pow (n := 8) ha hb
  -- The last byte and the rest do not mix: they are compared apart, as remainder and quotient.
  have hdiv : ((a + 256 * x) ^^^ (b + 256 * y)) / 256 = x ^^^ y := by
    have h := Nat.xor_div_two_pow (a := a + 256 * x) (b := b + 256 * y) (n := 8)
    rw [show (2 : Nat) ^ 8 = 256 from rfl] at h
    rw [h, show (a + 256 * x) / 256 = x by omega, show (b + 256 * y) / 256 = y by omega]
  have hmod : ((a + 256 * x) ^^^ (b + 256 * y)) % 256 = a ^^^ b := by
    have h := Nat.xor_mod_two_pow (a := a + 256 * x) (b := b + 256 * y) (n := 8)
    rw [show (2 : Nat) ^ 8 = 256 from rfl] at h
    rw [h, show (a + 256 * x) % 256 = a by omega, show (b + 256 * y) % 256 = b by omega]
  omega

/-- The first of the four bytes of a word counts least: the number of `wordOf` in powers of 256. -/
theorem toNat_wordOf (a b c d : UInt8) :
    (wordOf a b c d).toNat = a.toNat + 256 * (b.toNat + 256 * (c.toNat + 256 * d.toNat)) := by
  have ha := a.toNat_lt
  have hb := b.toNat_lt
  have hc := c.toNat_lt
  have hd := d.toNat_lt
  rw [wordOf, Bytes.word, UInt32.toNat_ofNat']
  simp only [List.take_succ_cons, List.take_zero, Bytes.toNat_cons, Bytes.toNat_nil]
  omega

/-- Words are combined byte by byte: `wordOf` takes the exclusive or of each pair of bytes to that of the
two words. -/
theorem wordOf_xor (a b c d a' b' c' d' : UInt8) :
    wordOf (a ^^^ a') (b ^^^ b') (c ^^^ c') (d ^^^ d') = wordOf a b c d ^^^ wordOf a' b' c' d' := by
  apply UInt32.toNat_inj.mp
  rw [UInt32.toNat_xor, toNat_wordOf, toNat_wordOf, toNat_wordOf,
    xor_add_mul _ _ _ _ a.toNat_lt a'.toNat_lt, xor_add_mul _ _ _ _ b.toNat_lt b'.toNat_lt,
    xor_add_mul _ _ _ _ c.toNat_lt c'.toNat_lt]
  simp only [UInt8.toNat_xor]

/-- A word is zero just if its bytes are, as `toNat_wordOf` shows for the number it stands for. -/
theorem wordOf_eq_zero_iff (a b c d : UInt8) :
    wordOf a b c d = 0 ↔ a = 0 ∧ b = 0 ∧ c = 0 ∧ d = 0 := by
  rw [← UInt32.toNat_inj, toNat_wordOf, ← UInt8.toNat_inj, ← UInt8.toNat_inj, ← UInt8.toNat_inj,
    ← UInt8.toNat_inj]
  simp only [UInt32.toNat_zero, UInt8.toNat_zero]
  omega

/-! ## (2) Lanes -/

/-- **The exclusive or of every fourth byte**, from position `k` on. -/
def lane : (k : Nat) → Bytes → UInt8
  | _, [] => 0
  | 0, b :: rest => b ^^^ lane 3 rest
  | k + 1, _ :: rest => lane k rest

/-- There is nothing in any `lane` of the empty byte string, so each of them combines to zero. -/
@[simp] theorem lane_nil (k : Nat) : lane k [] = 0 := by cases k <;> rfl

/-- The first byte is in lane 0, and the next one in this lane comes three bytes later. -/
@[simp] theorem lane_zero_cons (b : UInt8) (rest : Bytes) :
    lane 0 (b :: rest) = b ^^^ lane 3 rest := rfl

/-- The other lanes of a byte string are those of its rest, each one earlier. -/
@[simp] theorem lane_succ_cons (k : Nat) (b : UInt8) (rest : Bytes) :
    lane (k + 1) (b :: rest) = lane k rest := rfl

/-- **The checksum is the word of the four lanes, one `lane` each.** -/
theorem compute_eq_lanes (message : Bytes) :
    compute message = wordOf (lane 0 message) (lane 1 message) (lane 2 message)
      (lane 3 message) := by
  -- By induction in steps of four, with the three short rests as cases of their own.
  fun_induction compute message with
  | case1 => rfl
  | case2 a => simp
  | case3 a b => simp
  | case4 a b c => simp
  | case5 a b c d rest ih =>
    rw [ih, ← wordOf_xor]
    simp

/-- Two byte strings combined byte by byte by exclusive or: zero where they agree, and as long as the
shorter one. -/
def difference (a b : Bytes) : Bytes := List.zipWith (· ^^^ ·) a b

/-- The lanes of a `difference` are the differences of the lanes. -/
theorem lane_difference (k : Nat) {a b : Bytes} (h : a.length = b.length) :
    lane k (difference a b) = lane k a ^^^ lane k b := by
  induction a generalizing k b with
  | nil =>
    obtain rfl := List.length_eq_zero_iff.mp h.symm
    simp [difference]
  | cons x a ih =>
    cases b with
    | nil => simp at h
    | cons y b =>
      have hl : a.length = b.length := by simpa using h
      have hd : difference (x :: a) (y :: b) = (x ^^^ y) :: difference a b := rfl
      rw [hd]
      cases k with
      | zero =>
        rw [lane_zero_cons, lane_zero_cons, lane_zero_cons, ih 3 hl]
        -- Both sides combine the same four bytes.
        ac_rfl
      | succ k => exact ih k hl

/-- **The checksum of a `difference` is the difference of the checksums.** -/
theorem compute_difference {a b : Bytes} (h : a.length = b.length) :
    compute (difference a b) = compute a ^^^ compute b := by
  rw [compute_eq_lanes, compute_eq_lanes a, compute_eq_lanes b, ← wordOf_xor]
  simp only [lane_difference _ h]

/-! ## (3) Messages of whole words -/

/-- A last word is combined with the checksum of what comes before it, if that is a whole number of words:
`Checksum.compute` then splits at the word. -/
theorem compute_append_word {front : Bytes} (h : front.length % 4 = 0) (last : Bytes)
    (hl : last.length = 4) : compute (front ++ last) = compute front ^^^ Bytes.word last := by
  -- By induction on the front in steps of four, as `compute` takes it; a rest of one to three bytes is
  -- excluded.
  fun_induction compute front with
  | case1 =>
    match last, hl with
    | [a, b, c, d], _ => simp [compute, wordOf]
  | case2 | case3 | case4 => simp at h
  | case5 a b c d rest ih =>
    have hrest : rest.length % 4 = 0 := by
      simp only [List.length_cons] at h
      omega
    rw [List.cons_append, List.cons_append, List.cons_append, List.cons_append, compute_cons₄,
      ih hrest, UInt32.xor_assoc]

/-- **A message of whole words carries its checksum** just if the checksum of all of it is zero. -/
theorem check_eq_ok_iff {message : Bytes} (hwords : message.length % 4 = 0)
    (hle : 4 ≤ message.length) : check message = .ok () ↔ compute message = 0 := by
  have hbody : (body message).length % 4 = 0 := by
    rw [body, List.length_take]
    omega
  have hlast : (message.drop (message.length - 4)).length = 4 := by
    rw [List.length_drop]
    omega
  -- The checksum of the whole is that of the body against the word at the end.
  have hsplit : compute message = compute (body message) ^^^ carried message := by
    rw [carried, ← compute_append_word hbody _ hlast, body, List.take_append_drop]
  rw [check, if_neg (by omega), hsplit, UInt32.xor_eq_zero_iff]
  split
  · rename_i h
    exact iff_of_true rfl h
  · rename_i h
    exact iff_of_false (fun he => by cases he) h

end Checksum

/-! ## (4) Damage in one place -/

/-- **A byte string is damaged in one place**: another one of the same length differs from it, but only
within four consecutive bytes. -/
structure Bytes.Damaged (original damaged : Bytes) : Prop where
  length_eq : damaged.length = original.length
  ne : damaged ≠ original
  within : ∃ start, ∀ i, i < start ∨ start + 4 ≤ i → damaged[i]? = original[i]?

namespace Checksum

/-- Bytes that are all zero have no checksum: each `lane` of them combines zeros. -/
theorem lane_eq_zero {bytes : Bytes} (h : ∀ b ∈ bytes, b = 0) (k : Nat) : lane k bytes = 0 := by
  induction bytes generalizing k with
  | nil => exact lane_nil k
  | cons b rest ih =>
    have hb : b = 0 := h b List.mem_cons_self
    have hrest := ih fun c hc => h c (List.mem_cons_of_mem _ hc)
    cases k with
    | zero => rw [lane_zero_cons, hb, hrest, UInt8.xor_self]
    | succ k => exact hrest k

/-- A `lane` starts at its first byte. -/
theorem lane_eq_lane_drop (k : Nat) (bytes : Bytes) : lane k bytes = lane 0 (bytes.drop k) := by
  induction k generalizing bytes with
  | zero => rfl
  | succ k ih =>
    cases bytes with
    | nil => rfl
    | cons b rest => exact ih rest

/-- A `lane` is its first byte if there are only zeros from the next one on. -/
theorem lane_eq_of_drop {bytes : Bytes} {k : Nat} {b : UInt8} (hb : bytes[k]? = some b)
    (hzero : ∀ c ∈ bytes.drop (k + 4), c = 0) : lane k bytes = b := by
  obtain ⟨hlt, rfl⟩ := List.getElem?_eq_some_iff.mp hb
  have hrest : lane 3 (bytes.drop (k + 1)) = 0 := by
    rw [lane_eq_lane_drop, List.drop_drop]
    exact lane_eq_zero hzero 0
  rw [lane_eq_lane_drop, List.drop_eq_getElem_cons hlt, lane_zero_cons, hrest, UInt8.xor_zero]

/-- **Four consecutive bytes meet each lane once**, so they are zero if their lanes are. -/
theorem eq_zero_of_lanes {bytes : Bytes} {start : Nat}
    (hout : ∀ i b, i < start ∨ start + 4 ≤ i → bytes[i]? = some b → b = 0)
    (hlanes : ∀ k, k < 4 → lane k bytes = 0) : ∀ b ∈ bytes, b = 0 := by
  induction start generalizing bytes with
  | succ start ih =>
    cases bytes with
    | nil => nofun
    | cons x rest =>
      -- The first byte is outside, and the lanes of the others are the same.
      have hx : x = 0 := hout 0 x (Or.inl (Nat.succ_pos _)) rfl
      have hrest : ∀ b ∈ rest, b = 0 := by
        refine ih (fun i b hi hb => hout (i + 1) b (by omega) hb) fun k hk => ?_
        rcases Nat.lt_or_eq_of_le (Nat.le_of_lt_succ hk) with hk | rfl
        · exact hlanes (k + 1) (by omega)
        · have h := hlanes 0 (by decide)
          rw [lane_zero_cons, hx] at h
          simpa using h
      intro b hb
      rcases List.mem_cons.mp hb with rfl | hb
      · exact hx
      · exact hrest b hb
  | zero =>
    -- Behind the first four bytes there are only zeros, so each lane is one of the four.
    intro b hb
    obtain ⟨i, hi⟩ := List.mem_iff_getElem?.mp hb
    rcases Nat.lt_or_ge i 4 with hlt | hge
    · have hbehind : ∀ c ∈ bytes.drop (i + 4), c = 0 := by
        intro c hc
        obtain ⟨j, hj⟩ := List.mem_iff_getElem?.mp hc
        rw [List.getElem?_drop] at hj
        exact hout (i + 4 + j) c (Or.inr (by omega)) hj
      rw [← lane_eq_of_drop hi hbehind]
      exact hlanes i hlt
    · exact hout i b (Or.inr (by omega)) hi

/-- Every byte of a `difference` is one of two bytes at its position. -/
theorem getElem?_difference {a b : Bytes} {i : Nat} {x : UInt8} (h : (difference a b)[i]? = some x) :
    ∃ y z, a[i]? = some y ∧ b[i]? = some z ∧ y ^^^ z = x := by
  rw [difference, List.getElem?_zipWith] at h
  split at h
  · rename_i y z hy hz
    exact ⟨y, z, hy, hz, Option.some.inj h⟩
  · cases h

/-- Byte strings of one length that differ in nothing are equal: all bytes of their `difference` are
zero. -/
theorem eq_of_difference {a b : Bytes} (hl : a.length = b.length)
    (h : ∀ x ∈ difference a b, x = 0) : a = b := by
  induction a generalizing b with
  | nil => exact (List.length_eq_zero_iff.mp hl.symm).symm
  | cons x a ih =>
    cases b with
    | nil => simp at hl
    | cons y b =>
      have hd : difference (x :: a) (y :: b) = (x ^^^ y) :: difference a b := rfl
      rw [hd] at h
      have hxy : x = y := UInt8.xor_eq_zero_iff.mp (h _ List.mem_cons_self)
      rw [hxy, ih (by simpa using hl) fun c hc => h c (List.mem_cons_of_mem _ hc)]

/-- **A `difference` that is damage in one place has a checksum**, whatever the length of the message. -/
theorem compute_difference_ne_zero {message damaged : Bytes} (h : message.Damaged damaged) :
    compute (difference message damaged) ≠ 0 := by
  intro hzero
  have hl := h.length_eq.symm
  rw [compute_eq_lanes, wordOf_eq_zero_iff] at hzero
  obtain ⟨start, hwithin⟩ := h.within
  -- Four bytes in a row have each lane once, so a lane that sums to zero has its byte undamaged.
  refine h.ne (eq_of_difference hl (@eq_zero_of_lanes _ start ?_ ?_)).symm
  · intro i x hi hx
    obtain ⟨y, z, hy, hz, rfl⟩ := getElem?_difference hx
    rw [hwithin i hi, hy] at hz
    rw [Option.some.inj hz, UInt8.xor_self]
  · intro k hk
    match k, hk with
    | 0, _ => exact hzero.1
    | 1, _ => exact hzero.2.1
    | 2, _ => exact hzero.2.2.1
    | 3, _ => exact hzero.2.2.2

/-- **Beside a message that carries its checksum**, another one of its length does so just if they differ
by something without a checksum. -/
theorem check_eq_ok_iff_difference {message other : Bytes} (hwords : message.length % 4 = 0)
    (hle : 4 ≤ message.length) (hcheck : check message = .ok ())
    (hl : other.length = message.length) :
    check other = .ok () ↔ compute (difference message other) = 0 := by
  rw [check_eq_ok_iff hwords hle] at hcheck
  rw [check_eq_ok_iff (by rw [hl]; exact hwords) (by rw [hl]; exact hle), compute_difference hl.symm,
    hcheck, UInt32.zero_xor]

/-- **Damage in one place is always found**, also where it meets the checksum itself. -/
theorem check_damaged {message damaged : Bytes} (hwords : message.length % 4 = 0)
    (hle : 4 ≤ message.length) (hcheck : check message = .ok ()) (h : message.Damaged damaged) :
    check damaged ≠ .ok () := by
  rw [Ne, check_eq_ok_iff_difference hwords hle hcheck h.length_eq]
  exact compute_difference_ne_zero h

/-- **What a checksum detects.** Beside a message of whole words that carries its checksum, another one of
its length passes just if the checksum of their difference is zero; so one that is `Damaged` in one place,
wherever that is, never does. -/
theorem detection {message : Bytes} (hwords : message.length % 4 = 0) (hpos : 0 < message.length)
    (hcheck : check message = .ok ()) :
    (∀ other : Bytes, other.length = message.length →
      (check other = .ok () ↔ compute (difference message other) = 0)) ∧
    ∀ damaged : Bytes, message.Damaged damaged → ∃ mismatch, check damaged = .error mismatch := by
  have hle : 4 ≤ message.length := by omega
  refine ⟨fun other hl => check_eq_ok_iff_difference hwords hle hcheck hl, fun damaged hdamaged => ?_⟩
  cases hresult : check damaged with
  | ok _ => exact absurd hresult (check_damaged hwords hle hcheck hdamaged)
  | error mismatch => exact ⟨mismatch, rfl⟩

/-- A message of three words: damage on both sides of the start of its checksum is found, while two bits
that are turned over in one lane pass. -/
theorem detection_straddling :
    let message : Bytes := [0x06, 0x05, 0x30, 0x17, 0x11, 0x22, 0x33, 0x44, 0x17, 0x27, 0x03, 0x53]
    let damaged : Bytes := [0x06, 0x05, 0x30, 0x17, 0x11, 0x22, 0x32, 0x45, 0x16, 0x26, 0x03, 0x53]
    let turned : Bytes := [0x07, 0x05, 0x30, 0x17, 0x10, 0x22, 0x33, 0x44, 0x17, 0x27, 0x03, 0x53]
    message.length % 4 = 0 ∧ 0 < message.length ∧ check message = .ok () ∧
      (∃ mismatch, check damaged = .error mismatch) ∧ check turned = .ok () := by
  intro message damaged turned
  have hwords : message.length % 4 = 0 := by decide
  have hpos : 0 < message.length := by decide
  have hcheck : check message = .ok () := rfl
  have hsame : ∀ i < message.length, i < 6 ∨ 6 + 4 ≤ i → damaged[i]? = message[i]? := by decide
  have hdamaged : message.Damaged damaged := by
    refine ⟨rfl, by decide, 6, fun i hi => ?_⟩
    -- Inside the message the bytes are compared; behind its end neither has one.
    rcases Nat.lt_or_ge i message.length with hlt | hge
    · exact hsame i hlt hi
    · have hout : damaged[i]? = none := List.getElem?_eq_none hge
      rw [hout, List.getElem?_eq_none hge]
  obtain ⟨hpasses, hfound⟩ := detection hwords hpos hcheck
  exact ⟨hwords, hpos, hcheck, hfound damaged hdamaged, (hpasses turned rfl).mpr rfl⟩

end Checksum

end SecureEngine
