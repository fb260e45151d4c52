import SecureEngine.Proofs.BareRequests
import SecureEngine.Proofs.Truncation

/-! # Messages lose nothing

Seen as a whole, with its reserved fields and its checksum, a message and its bytes say the same.

* **`Wire.Shape`** — the layout of a whole message; **`Wire.Shape.Whole`** — a message with all its
  fields; **`Wire.Shape.populate`** — its bytes with the checksum filled in.
* **`Wire.Shape.Lossless`** — encoding and decoding undo each other; **`Wire.Shape.lossless`** — in every
  shape of whole words.
* **`Command.requestShape`**, **`Command.responseShape`** — the shapes of the catalogue.
* **`Command.decodeRequest_eq_ok_iff`** — an engine accepts byte strings of the right size with the right
  checksum; **`Command.decodeResponse_eq_ok_iff`** — a client reads the front of what it got.
* **`Command.messages_lossless`** — the whole, for every command and either firmware. -/

namespace SecureEngine

namespace Wire

/-! ## (1) Whole messages -/

/-- The front of a byte string is the encoding of what `Layout.decode` makes of it. -/
theorem Layout.encode_decode_take (layout : Layout) {bytes : Bytes} (h : layout.size ≤ bytes.length) :
    layout.encode (layout.decode bytes) = bytes.take layout.size := by
  have hlength : (bytes.take layout.size).length = layout.size := by
    rw [List.length_take]
    omega
  have hfront := decode_encode_append layout (layout.decode (bytes.take layout.size))
    (bytes.drop layout.size)
  rw [encode_decode layout hlength, List.take_append_drop] at hfront
  rw [hfront, encode_decode layout hlength]

/-- The layout of a checksum, if there is one: a single `word`, otherwise nothing. -/
def trailerLayout : (isSealed : Bool) → Layout
  | true => [.word]
  | false => []

/-- The layout of a checksum has the size of the trailer that `finish` makes room for. -/
theorem size_trailerLayout (isSealed : Bool) :
    (trailerLayout isSealed).size = (trailer isSealed).length := by
  cases isSealed <;> rfl

/-- **The layout of a whole message**: what stands between its header and its checksum, and whether it
ends in a checksum. -/
structure Shape where
  content : Layout
  isSealed : Bool

namespace Shape

/-- **A message with all its fields**, the reserved ones and the checksum included, for a `Shape` of
message. -/
@[ext] structure Whole (shape : Shape) where
  header : Header
  fields : shape.content.Values
  checksum : (trailerLayout shape.isSealed).Values

variable (shape : Shape)

/-- The number of bytes of a whole message: those of the header, of the content and of the
`trailerLayout`. -/
def size : Nat := headerSize + shape.content.size + (trailerLayout shape.isSealed).size

/-- The bytes of a `Whole` message: header, content and checksum as they are, one behind the other. -/
def encode (whole : shape.Whole) : Bytes :=
  Message.encode whole.header ++
    (shape.content.encode whole.fields ++ (trailerLayout shape.isSealed).encode whole.checksum)

/-- The `Whole` message that a byte string spells, each field from where the `Shape` has it. -/
def decode (bytes : Bytes) : shape.Whole where
  header := Message.decode bytes
  fields := shape.content.decode (bytes.drop headerSize)
  checksum := (trailerLayout shape.isSealed).decode (bytes.drop (headerSize + shape.content.size))

/-- **A byte string with the checksum filled in**, if it ends in one: `Checksum.stamp` of the sealed
shapes, the others as they are. -/
def populate (bytes : Bytes) : Bytes := if shape.isSealed then Checksum.stamp bytes else bytes

/-- **Encoding and decoding lose nothing**: `Shape.decode` takes `Shape.encode` back, and the other way
round for byte strings of the right size. -/
structure Lossless : Prop where
  /-- A message is as long as its layout, which is a whole number of words and not too large. -/
  length_encode : ∀ whole, (shape.encode whole).length = shape.size
  words : shape.size % 4 = 0
  fits : shape.size ≤ maxMessageSize
  /-- What is encoded is decoded again. -/
  decode_encode : ∀ whole, shape.decode (shape.encode whole) = whole
  /-- With its checksum filled in, it comes back but for the checksum, which is right then. -/
  decode_populate : ∀ whole, ∃ checksum,
    shape.decode (shape.populate (shape.encode whole)) = { whole with checksum } ∧
      (shape.isSealed → Checksum.check (shape.populate (shape.encode whole)) = .ok ())
  /-- What is decoded is encoded again. -/
  encode_decode : ∀ bytes : Bytes, bytes.length = shape.size →
    shape.encode (shape.decode bytes) = bytes

variable {shape}

/-- A whole message has the bytes of its shape: the length of `Shape.encode` is `Shape.size`. -/
theorem length_encode (whole : shape.Whole) : (shape.encode whole).length = shape.size := by
  rw [encode, List.length_append, List.length_append, length_encode_header, Layout.length_encode,
    Layout.length_encode, size, Nat.add_assoc]

/-- A whole message is read as what it was written from: `Shape.decode` after `Shape.encode` is the
identity. -/
theorem decode_encode (whole : shape.Whole) : shape.decode (shape.encode whole) = whole := by
  have hheader := length_encode_header whole.header
  have hcontent : (Message.encode whole.header ++ shape.content.encode whole.fields).length =
      headerSize + shape.content.size := by
    rw [List.length_append, hheader, Layout.length_encode]
  -- The three parts are found by their lengths: the header, the content behind it, the checksum behind
  -- both.
  refine Whole.ext (Message.decode_encode_append _ _) ?_ ?_
  · show shape.content.decode ((shape.encode whole).drop headerSize) = whole.fields
    rw [encode, List.drop_left' hheader, Layout.decode_encode_append]
  · show (trailerLayout shape.isSealed).decode
      ((shape.encode whole).drop (headerSize + shape.content.size)) = whole.checksum
    rw [encode, ← List.append_assoc, List.drop_left' hcontent,
      ← List.append_nil (Layout.encode _ whole.checksum), Layout.decode_encode_append]

/-- A byte string of the size of a shape is what is written for the message that it spells: no two spell
the same. -/
theorem encode_decode {bytes : Bytes} (h : bytes.length = shape.size) :
    shape.encode (shape.decode bytes) = bytes := by
  have hsize : bytes.length = headerSize + shape.content.size + (trailerLayout shape.isSealed).size := h
  have hheader : Message.encode (Message.decode bytes : Header) = bytes.take headerSize :=
    Layout.encode_decode_take (Message.layout Header)
      (hsize ▸ Nat.le_trans (Nat.le_add_right headerSize _) (Nat.le_add_right _ _))
  have hcontent : shape.content.encode (shape.content.decode (bytes.drop headerSize)) =
      (bytes.drop headerSize).take shape.content.size :=
    Layout.encode_decode_take shape.content (by rw [List.length_drop]; omega)
  have htrailer : (trailerLayout shape.isSealed).encode
      ((trailerLayout shape.isSealed).decode (bytes.drop (headerSize + shape.content.size))) =
        bytes.drop (headerSize + shape.content.size) :=
    Layout.encode_decode _ (by rw [List.length_drop]; omega)
  -- The three parts follow one another.
  rw [encode, decode, hheader, hcontent, htrailer, ← List.drop_drop, List.take_append_drop,
    List.take_append_drop]

/-- A checksum changes nothing but itself, neither the header nor a field: `Shape.populate` of an encoded
message is another encoded one. -/
theorem exists_populate_encode (whole : shape.Whole) :
    ∃ checksum, shape.populate (shape.encode whole) = shape.encode { whole with checksum } := by
  obtain ⟨content, isSealed⟩ := shape
  cases isSealed with
  | false => exact ⟨whole.checksum, rfl⟩
  | true =>
    -- The checksum stands at the end, and populating overwrites just that word.
    obtain ⟨header, fields, word, -⟩ := whole
    refine ⟨(Checksum.compute (Message.encode header ++ content.encode fields), ()), ?_⟩
    show Checksum.stamp (Message.encode header ++ (content.encode fields ++ (Bytes.ofWord word ++ []))) =
      Message.encode header ++ (content.encode fields ++ (Bytes.ofWord _ ++ []))
    rw [List.append_nil, List.append_nil, ← List.append_assoc, ← List.append_assoc,
      Checksum.stamp_append (Bytes.length_ofWord word)]

/-- A message whose checksum has been filled in by `Shape.populate` passes `Checksum.check`. -/
theorem check_populate_encode (hs : shape.isSealed) (whole : shape.Whole) :
    Checksum.check (shape.populate (shape.encode whole)) = .ok () := by
  rw [populate, if_pos hs, Checksum.check_stamp]
  rw [length_encode, size, Nat.add_assoc]
  exact Nat.le_add_right headerSize _

/-- **Every shape of whole words loses nothing**, if its size fits a message: the premises of `Lossless`
are on `Shape.size` alone. -/
theorem lossless (hwords : shape.size % 4 = 0) (hfits : shape.size ≤ maxMessageSize) :
    shape.Lossless where
  length_encode := length_encode
  words := hwords
  fits := hfits
  decode_encode := decode_encode
  decode_populate whole := by
    obtain ⟨checksum, heq⟩ := exists_populate_encode whole
    refine ⟨checksum, ?_, fun hs => check_populate_encode hs whole⟩
    rw [heq, decode_encode]
  encode_decode _ := encode_decode

/-- **A finished message is a whole one**, with its header and its checksum: `Wire.finish` gives what
`Shape.encode` writes. -/
theorem exists_finish_eq (version tag command : UInt8) (fields : shape.content.Values) :
    ∃ checksum, finish version tag command shape.isSealed
        (Bytes.blank headerSize ++ shape.content.encode fields ++ trailer shape.isSealed) =
      shape.encode ⟨header version tag command shape.size, fields, checksum⟩ := by
  obtain ⟨tail, hlength, heq⟩ := finish_eq version tag command shape.isSealed
    (shape.content.encode fields)
  refine ⟨(trailerLayout shape.isSealed).decode tail, ?_⟩
  rw [heq, encode, Layout.encode_decode _ (by rw [hlength, size_trailerLayout]),
    Layout.length_encode, size, size_trailerLayout]

end Shape

end Wire

/-! ## (2) The catalogue -/

namespace Command

open Wire

variable {flavor : Flavor} {c : Command} {bytes : Bytes}

/-- The `Shape` of the request for a command: the layout of its fields, and whether it is sealed. -/
def requestShape (flavor : Flavor) (c : Command) : Shape where
  content := Message.layout (c.Request flavor)
  isSealed := c.requestSealed

/-- The shape of the response to a command, which begins with the response code. -/
def responseShape (flavor : Flavor) (c : Command) : Shape where
  content := .word :: Message.layout (c.Response flavor)
  isSealed := c.responseSealed

/-- The shape of a request has the size that `Command.requestSize` tells. -/
theorem size_requestShape (flavor : Flavor) (c : Command) :
    (c.requestShape flavor).size = c.requestSize flavor := by
  rw [Shape.size, size_trailerLayout]
  rfl

/-- The shape of a response has the size that `Command.responseSize` tells. -/
theorem size_responseShape (flavor : Flavor) (c : Command) :
    (c.responseShape flavor).size = c.responseSize flavor := by
  have hcontent : (c.responseShape flavor).content.size = 4 + Message.size (c.Response flavor) := rfl
  rw [Shape.size, size_trailerLayout, hcontent, ← Nat.add_assoc]
  rfl

/-- Every request has a shape that loses nothing, in either `Flavor`. The sizes are checked command by
command. -/
theorem lossless_requestShape (flavor : Flavor) (c : Command) : (c.requestShape flavor).Lossless := by
  refine Shape.lossless ?_ ?_
  · rw [size_requestShape]
    exact (requestSize_spec flavor c).1
  · rw [size_requestShape]
    exact requestSize_le_maxMessageSize flavor c

/-- Every response has a shape that loses nothing, in either `Flavor`, with the response code in front of
its fields. -/
theorem lossless_responseShape (flavor : Flavor) (c : Command) : (c.responseShape flavor).Lossless := by
  have hsize : (c.responseShape flavor).size % 4 = 0 ∧
      (c.responseShape flavor).size ≤ maxMessageSize := by
    rw [size_responseShape]
    rcases c.responseSize_cases flavor with h | ⟨-, h⟩ | ⟨-, h⟩ <;> rw [h] <;> decide
  exact Shape.lossless hsize.1 hsize.2

/-- A checksum is looked at where there should be one, and nowhere else: the test before decoding, and
what it means for `Checksum.check`. -/
theorem not_and_check_iff {isSealed : Bool} :
    ¬(isSealed = true ∧ (Checksum.check bytes).toBool = false) ↔
      (isSealed = true → Checksum.check bytes = .ok ()) := by
  rw [not_and]
  refine forall_congr' fun _ => ?_
  cases Checksum.check bytes with
  | ok _ => exact iff_of_true nofun rfl
  | error m => exact iff_of_false (fun h => h rfl) nofun

/-- **An engine accepts** byte strings of the size of the request, with the right checksum if it ends in
one, and reads what they spell. -/
theorem decodeRequest_eq_ok_iff {m : c.Request flavor} :
    decodeRequest flavor c bytes = .ok m ↔ bytes.length = (c.requestShape flavor).size ∧
      (c.requestSealed → Checksum.check bytes = .ok ()) ∧
        Message.ofValues ((c.requestShape flavor).decode bytes).fields = m := by
  rw [size_requestShape, decodeRequest]
  -- The length is checked first, then the checksum where there is one; decoding itself cannot fail.
  by_cases hlength : bytes.length = c.requestSize flavor
  · rw [if_neg (not_not_intro hlength), ← not_and_check_iff]
    by_cases hcheck : c.requestSealed = true ∧ (Checksum.check bytes).toBool = false
    · rw [if_pos hcheck]
      exact iff_of_false (fun he => by cases he) fun h => h.2.1 hcheck
    · rw [if_neg hcheck, Except.ok.injEq]
      exact ⟨fun h => ⟨hlength, hcheck, h⟩, fun h => h.2.2⟩
  · rw [if_pos hlength]
    exact iff_of_false (fun he => by cases he) fun h => hlength h.1

/-- The content of a response is behind its response code: `Shape.decode` reads it as `Message.decode`
does from `statusSize` on. -/
theorem ofValues_decode_responseShape (front : Bytes) :
    Message.ofValues ((c.responseShape flavor).decode front).fields.2 =
      (Message.decode (front.drop statusSize) : c.Response flavor) := by
  show Message.ofValues (Layout.decode _ ((front.drop headerSize).drop 4)) = _
  rw [List.drop_drop]
  rfl

/-- **A client reads the front of a response**, as long as its layout, with the right checksum if it ends
in one, and what it spells behind the response code. -/
theorem decodeResponse_eq_ok_iff {m : c.Response flavor} :
    decodeResponse flavor c bytes = .ok m ↔ (c.responseShape flavor).size ≤ bytes.length ∧
      (c.responseSealed → Checksum.check (bytes.take (c.responseShape flavor).size) = .ok ()) ∧
        Message.ofValues
          ((c.responseShape flavor).decode (bytes.take (c.responseShape flavor).size)).fields.2 = m := by
  rw [ofValues_decode_responseShape, size_responseShape, decodeResponse]
  -- The length is checked first, then the checksum where there is one; decoding itself cannot fail.
  by_cases hlength : bytes.length < c.responseSize flavor
  · rw [if_pos hlength]
    exact iff_of_false (fun he => by cases he) fun h => absurd h.1 (Nat.not_le.mpr hlength)
  rw [if_neg hlength]
  have hle := Nat.not_lt.mp hlength
  by_cases hsealed : c.responseSealed
  · rw [if_pos hsealed]
    cases Checksum.check (bytes.take (c.responseSize flavor)) with
    | ok _ => simp [hle]
    | error mismatch => simp [hsealed]
  · rw [if_neg hsealed, Except.ok.injEq]
    exact ⟨fun h => ⟨hle, fun hs => absurd hs hsealed, h⟩, fun h => h.2.2⟩

/-- **A request is sent with all its fields** and its checksum: `finish` comes to the encoding of a whole
message. -/
theorem exists_finish_encodeRequest (version tag command : UInt8) (m : c.Request flavor) :
    ∃ checksum, finish version tag command c.requestSealed (c.encodeRequest m) =
      (c.requestShape flavor).encode
        ⟨header version tag command (c.requestSize flavor), Message.toValues m, checksum⟩ := by
  rw [← size_requestShape]
  exact @Shape.exists_finish_eq (c.requestShape flavor) version tag command (Message.toValues m)

/-- **So is a response**, its response code in front of its fields: `Wire.finish` of `encodeResponse` is a
whole message. -/
theorem exists_finish_encodeResponse (version tag command : UInt8) (code : UInt32)
    (m : c.Response flavor) :
    ∃ checksum, finish version tag command c.responseSealed (c.encodeResponse code m) =
      (c.responseShape flavor).encode
        ⟨header version tag command (c.responseSize flavor), (code, Message.toValues m), checksum⟩ := by
  rw [← size_responseShape, encodeResponse, List.append_assoc (Bytes.blank headerSize)]
  exact @Shape.exists_finish_eq (c.responseShape flavor) version tag command (code, Message.toValues m)

/-- **What is sent is accepted**, under any header: `decodeRequest` gives back the request that
`encodeRequest` wrote. -/
theorem decodeRequest_finish (version tag command : UInt8) (m : c.Request flavor) :
    decodeRequest flavor c (finish version tag command c.requestSealed (c.encodeRequest m)) = .ok m := by
  refine decodeRequest_eq_ok_iff.mpr ⟨?_, fun hsealed => ?_, ?_⟩
  · rw [length_finish, length_encodeRequest, size_requestShape]
  · rw [hsealed]
    refine check_finish version tag command ?_
    rw [length_encodeRequest]
    exact (requestSize_spec flavor c).2.2
  · obtain ⟨checksum, heq⟩ := exists_finish_encodeRequest version tag command m
    rw [heq, Shape.decode_encode, Message.ofValues_toValues]

/-- **What is answered is read**, under any header and whatever follows: `decodeResponse` gives back the
content that `encodeResponse` wrote. -/
theorem decodeResponse_finish (version tag command : UInt8) (code : UInt32) (m : c.Response flavor)
    (rest : Bytes) :
    decodeResponse flavor c
      (finish version tag command c.responseSealed (c.encodeResponse code m) ++ rest) = .ok m := by
  have hlength : (finish version tag command c.responseSealed (c.encodeResponse code m)).length =
      (c.responseShape flavor).size := by
    rw [length_finish, length_encodeResponse, size_responseShape]
  rw [decodeResponse_eq_ok_iff, List.take_left' hlength]
  refine ⟨?_, fun hsealed => ?_, ?_⟩
  · rw [List.length_append, hlength]
    exact Nat.le_add_right _ _
  · rw [hsealed]
    refine check_finish version tag command ?_
    rw [length_encodeResponse]
    exact Nat.le_trans four_le_statusSize (c.statusSize_le_responseSize flavor)
  · obtain ⟨checksum, heq⟩ := exists_finish_encodeResponse version tag command code m
    rw [heq, Shape.decode_encode, Message.ofValues_toValues]

/-! ## (3) The whole -/

/-- **The messages of a command lose nothing**, and each side reads what the other one has written. -/
structure Lossless (flavor : Flavor) (c : Command) : Prop where
  /-- Both layouts are lossless, and as long as the messages are. -/
  request : (c.requestShape flavor).Lossless
  response : (c.responseShape flavor).Lossless
  size_request : (c.requestShape flavor).size = c.requestSize flavor
  size_response : (c.responseShape flavor).size = c.responseSize flavor
  /-- A request is sent with all its fields and its checksum. -/
  sent : ∀ version tag command (m : c.Request flavor), ∃ checksum,
    finish version tag command c.requestSealed (c.encodeRequest m) = (c.requestShape flavor).encode
      ⟨header version tag command (c.requestSize flavor), Message.toValues m, checksum⟩
  /-- So is a response. -/
  answered : ∀ version tag command code (m : c.Response flavor), ∃ checksum,
    finish version tag command c.responseSealed (c.encodeResponse code m) =
      (c.responseShape flavor).encode
        ⟨header version tag command (c.responseSize flavor), (code, Message.toValues m), checksum⟩
  /-- The engine accepts byte strings of this size with the right checksum, and reads their fields. -/
  accepted_iff : ∀ (bytes : Bytes) (m : c.Request flavor), decodeRequest flavor c bytes = .ok m ↔
    bytes.length = (c.requestShape flavor).size ∧
      (c.requestSealed → Checksum.check bytes = .ok ()) ∧
        Message.ofValues ((c.requestShape flavor).decode bytes).fields = m
  /-- The client reads as many bytes as the layout has, and no others. -/
  read_iff : ∀ (bytes : Bytes) (m : c.Response flavor), decodeResponse flavor c bytes = .ok m ↔
    (c.responseShape flavor).size ≤ bytes.length ∧
      (c.responseSealed → Checksum.check (bytes.take (c.responseShape flavor).size) = .ok ()) ∧
        Message.ofValues
          ((c.responseShape flavor).decode (bytes.take (c.responseShape flavor).size)).fields.2 = m
  /-- What was sent is read, whatever the header and whatever follows a response. -/
  decode_sent : ∀ version tag command (m : c.Request flavor),
    decodeRequest flavor c (finish version tag command c.requestSealed (c.encodeRequest m)) = .ok m
  decode_answered : ∀ version tag command code (m : c.Response flavor) (rest : Bytes),
    decodeResponse flavor c
      (finish version tag command c.responseSealed (c.encodeResponse code m) ++ rest) = .ok m

/-- **Every message layout is a lossless code**, for every command and either firmware, as the fields of
`Command.Lossless` spell it out. -/
theorem messages_lossless (flavor : Flavor) (c : Command) : c.Lossless flavor where
  request := lossless_requestShape flavor c
  response := lossless_responseShape flavor c
  size_request := size_requestShape flavor c
  size_response := size_responseShape flavor c
  sent := exists_finish_encodeRequest
  answered := exists_finish_encodeResponse
  accepted_iff _ _ := decodeRequest_eq_ok_iff
  read_iff _ _ := decodeResponse_eq_ok_iff
  decode_sent := decodeRequest_finish
  decode_answered := decodeResponse_finish

end Command

end SecureEngine
