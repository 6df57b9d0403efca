/-!
# Text as bytes

Output arrives as bytes and is shown as text.  A decoder reads one byte at a time and keeps, between
two bytes, the part of a character it still waits for.  What cannot be the start of a character, and a
character that breaks off, is shown as one replacement character.
-/
namespace Transcripts.Text

/-- The bytes of an interpreter's input or output. -/
abbrev Bytes := List UInt8

/-- Shown in place of bytes that are no character. -/
def replacement : Char := '\ufffd'

/-- The UTF-8 encoding of a list of characters. -/
def encode (cs : List Char) : Bytes := cs.flatMap String.utf8EncodeChar

/-- The UTF-8 encoding of a string. -/
def bytes (s : String) : Bytes := encode s.toList

/-! ## The shape of an encoded character -/

/-- Ends of an interval of bytes that may come next. -/
abbrev ByteRange := UInt8 × UInt8

def ByteRange.holds (r : ByteRange) (b : UInt8) : Bool := r.1 ≤ b && b ≤ r.2

/-- Any byte that continues a character. -/
def tailByte : ByteRange := (0x80, 0xBF)

/-- What has to follow a first byte: its payload bits and the admitted ranges of the bytes after it.
The narrowed second ranges rule out overlong forms, surrogates and values past the last character. -/
def lead (b : UInt8) : Option (Nat × List ByteRange) :=
  if b < 0x80 then some (b.toNat, [])
  else if b < 0xC2 then none
  else if b < 0xE0 then some (b.toNat % 32, [tailByte])
  else if b < 0xF0 then
    let second := if b = 0xE0 then (0xA0, 0xBF) else if b = 0xED then (0x80, 0x9F) else tailByte
    some (b.toNat % 16, [second, tailByte])
  else if b < 0xF5 then
    let second := if b = 0xF0 then (0x90, 0xBF) else if b = 0xF4 then (0x80, 0x8F) else tailByte
    some (b.toNat % 8, [second, tailByte, tailByte])
  else none

/-- Appends the six payload bits of a continuing byte. -/
def extend (value : Nat) (b : UInt8) : Nat := value * 64 + b.toNat % 64

/-! ## Decoding -/

/-- Between two bytes either nothing is open or a character waits for bytes in the given ranges. -/
inductive Decoder where
  | idle
  | waiting (value : Nat) (next : ByteRange) (later : List ByteRange)
deriving Repr, DecidableEq

/-- Reads a byte where a character may start. -/
def Decoder.begin (b : UInt8) : List Char × Decoder :=
  match lead b with
  | none => ([replacement], .idle)
  | some (value, []) => ([Char.ofNat value], .idle)
  | some (value, r :: rs) => ([], .waiting value r rs)

/-- Reads one byte: the characters it completes, and the state after it. -/
def Decoder.step : Decoder → UInt8 → List Char × Decoder
  | .idle, b => begin b
  | .waiting value r rs, b =>
    if r.holds b then
      match rs with
      | [] => ([Char.ofNat (extend value b)], .idle)
      | r' :: rs' => ([], .waiting (extend value b) r' rs')
    else
      let (cs, d) := begin b
      (replacement :: cs, d)

/-- What is shown for a character that the end of the bytes cuts off. -/
def Decoder.finish : Decoder → List Char
  | .idle => []
  | .waiting .. => [replacement]

/-- Decodes from a given state to the end of the bytes. -/
def Decoder.run : Decoder → Bytes → List Char
  | d, [] => d.finish
  | d, b :: bs => (d.step b).1 ++ run (d.step b).2 bs

/-- The text shown for some bytes. -/
def decode (bs : Bytes) : List Char := Decoder.run .idle bs

/-- The text shown for some bytes, as a string. -/
def shown (bs : Bytes) : String := String.ofList (decode bs)

/-- Decodes bytes that are text throughout, and refuses any others. -/
def decodeStrict : Bytes → Decoder → Option (List Char)
  | [], .idle => some []
  | [], .waiting .. => none
  | b :: bs, .idle =>
    match lead b with
    | none => none
    | some (value, []) => (decodeStrict bs .idle).map (Char.ofNat value :: ·)
    | some (value, r :: rs) => decodeStrict bs (.waiting value r rs)
  | b :: bs, .waiting value r rs =>
    if r.holds b then
      match rs with
      | [] => (decodeStrict bs .idle).map (Char.ofNat (extend value b) :: ·)
      | r' :: rs' => decodeStrict bs (.waiting (extend value b) r' rs')
    else none

/-- The string that some bytes encode, if they encode one. -/
def text? (bs : Bytes) : Option String := (decodeStrict bs .idle).map String.ofList

/-! ## The character at a place -/

/-- Completes a character whose first bytes are read; `n` counts the bytes so far. -/
def complete : List ByteRange → Nat → Bytes → Nat → Option (Char × Nat)
  | [], value, _, n => some (Char.ofNat value, n)
  | r :: rs, value, b :: bs, n =>
    if r.holds b then complete rs (extend value b) bs (n + 1) else none
  | _ :: _, _, [], _ => none

/-- The character that some bytes start with, and its length. -/
def firstChar : Bytes → Option (Char × Nat)
  | [] => none
  | b :: bs => (lead b).bind fun (value, rs) => complete rs value bs 1

/-! ## Laws -/

theorem encode_append (xs ys : List Char) : encode (xs ++ ys) = encode xs ++ encode ys := by
  simp [encode]

@[simp] theorem encode_nil : encode [] = [] := rfl

@[simp] theorem decode_nil : decode [] = [] := rfl

end Transcripts.Text
