import Transcripts.Text.Utf8

/-!
# Text that is decoded from its own bytes

Decoding is the inverse of encoding: the decoder reads the bytes of each character back to that character
and is idle again, so that text which was written as bytes is shown as it was.
-/
namespace Transcripts.Text

/-! ## Bytes by their numbers -/

theorem toNat_ofNat_of_lt {n : Nat} (h : n < 256) : (UInt8.ofNat n).toNat = n := by
  rw [UInt8.toNat_ofNat']; omega

theorem lead_one {n : Nat} (h : n < 0x80) : lead (UInt8.ofNat n) = some (n, []) := by
  have hn := toNat_ofNat_of_lt (n := n) (by omega)
  simp [lead, UInt8.lt_iff_toNat_lt, hn, h]

theorem lead_two {n : Nat} (h2 : 2 ≤ n) (h : n < 32) :
    lead (UInt8.ofNat (n + 0xC0)) = some (n, [tailByte]) := by
  have hn := toNat_ofNat_of_lt (n := n + 0xC0) (by omega)
  simp only [lead, UInt8.lt_iff_toNat_lt, hn, UInt8.reduceToNat]
  rw [if_neg (by omega), if_neg (by omega), if_pos (by omega)]
  simp; omega

/-- What may come second in a character of three bytes whose first four bits are given. -/
def secondOfThree (n : Nat) : ByteRange :=
  if n = 0 then (0xA0, 0xBF) else if n = 13 then (0x80, 0x9F) else tailByte

theorem lead_three {n : Nat} (h : n < 16) :
    lead (UInt8.ofNat (n + 0xE0)) = some (n, [secondOfThree n, tailByte]) := by
  have hn := toNat_ofNat_of_lt (n := n + 0xE0) (by omega)
  simp only [lead, UInt8.lt_iff_toNat_lt, ← UInt8.toNat_inj, hn, UInt8.reduceToNat]
  rw [if_neg (by omega), if_neg (by omega), if_neg (by omega), if_pos (by omega)]
  simp only [secondOfThree, Option.some.injEq, Prod.mk.injEq, List.cons.injEq, and_true]
  exact ⟨by omega, by split <;> simp_all⟩

/-- What may come second in a character of four bytes whose first three bits are given. -/
def secondOfFour (n : Nat) : ByteRange :=
  if n = 0 then (0x90, 0xBF) else if n = 4 then (0x80, 0x8F) else tailByte

theorem lead_four {n : Nat} (h : n < 5) :
    lead (UInt8.ofNat (n + 0xF0)) = some (n, [secondOfFour n, tailByte, tailByte]) := by
  have hn := toNat_ofNat_of_lt (n := n + 0xF0) (by omega)
  simp only [lead, UInt8.lt_iff_toNat_lt, ← UInt8.toNat_inj, hn, UInt8.reduceToNat]
  rw [if_neg (by omega), if_neg (by omega), if_neg (by omega), if_neg (by omega), if_pos (by omega)]
  simp only [secondOfFour, Option.some.injEq, Prod.mk.injEq, List.cons.injEq, and_true]
  exact ⟨by omega, by split <;> simp_all⟩

theorem holds_iff {lo hi : UInt8} {n : Nat} (h : n < 256) :
    ByteRange.holds (lo, hi) (UInt8.ofNat n) = true ↔ lo.toNat ≤ n ∧ n ≤ hi.toNat := by
  simp [ByteRange.holds, UInt8.le_iff_toNat_le, toNat_ofNat_of_lt h]

theorem tailByte_holds (n : Nat) : tailByte.holds (UInt8.ofNat (n % 64 + 0x80)) = true := by
  rw [tailByte, holds_iff (by omega)]
  simp only [UInt8.reduceToNat]
  omega

theorem extend_ofNat (value n : Nat) : extend value (UInt8.ofNat (n % 64 + 0x80)) = value * 64 + n % 64 := by
  rw [extend, toNat_ofNat_of_lt (by omega)]
  omega

/-! ## Decoding one character -/

theorem run_idle_char {b : UInt8} {v : Nat} (h : lead b = some (v, [])) (bs : Bytes) :
    Decoder.run .idle (b :: bs) = Char.ofNat v :: Decoder.run .idle bs := by
  simp [Decoder.run, Decoder.step, Decoder.begin, h]

theorem run_idle_waiting {b : UInt8} {v : Nat} {r : ByteRange} {rs : List ByteRange}
    (h : lead b = some (v, r :: rs)) (bs : Bytes) :
    Decoder.run .idle (b :: bs) = Decoder.run (.waiting v r rs) bs := by
  simp [Decoder.run, Decoder.step, Decoder.begin, h]

theorem run_waiting_next {b : UInt8} {v : Nat} {r r' : ByteRange} {rs : List ByteRange}
    (h : r.holds b = true) (bs : Bytes) :
    Decoder.run (.waiting v r (r' :: rs)) (b :: bs) = Decoder.run (.waiting (extend v b) r' rs) bs := by
  simp [Decoder.run, Decoder.step, h]

theorem run_waiting_last {b : UInt8} {v : Nat} {r : ByteRange} (h : r.holds b = true) (bs : Bytes) :
    Decoder.run (.waiting v r []) (b :: bs) = Char.ofNat (extend v b) :: Decoder.run .idle bs := by
  simp [Decoder.run, Decoder.step, h]

/-- Overlong forms and surrogates are what the narrowed ranges rule out; a character is neither. -/
theorem secondOfThree_holds {v : Nat} (h : 0x800 ≤ v) (hv : v < 0xD800 ∨ 0xDFFF < v) :
    (secondOfThree (v / 4096)).holds (UInt8.ofNat (v / 64 % 64 + 0x80)) = true := by
  unfold secondOfThree
  split
  · rw [holds_iff (by omega)]; simp only [UInt8.reduceToNat]; omega
  split
  · rw [holds_iff (by omega)]; simp only [UInt8.reduceToNat]; omega
  · exact tailByte_holds _

theorem secondOfFour_holds {v : Nat} (h : 0x10000 ≤ v) (hv : v < 0x110000) :
    (secondOfFour (v / 262144)).holds (UInt8.ofNat (v / 4096 % 64 + 0x80)) = true := by
  unfold secondOfFour
  split
  · rw [holds_iff (by omega)]; simp only [UInt8.reduceToNat]; omega
  split
  · rw [holds_iff (by omega)]; simp only [UInt8.reduceToNat]; omega
  · exact tailByte_holds _

/-- The bytes of a character are read back to it, whatever follows. -/
theorem run_utf8EncodeChar (c : Char) (bs : Bytes) :
    Decoder.run .idle (String.utf8EncodeChar c ++ bs) = c :: Decoder.run .idle bs := by
  have hc : Char.ofNat c.val.toNat = c := Char.ofNat_toNat c
  have hv : c.val.toNat < 0xD800 ∨ 0xDFFF < c.val.toNat ∧ c.val.toNat < 0x110000 := c.valid
  unfold String.utf8EncodeChar
  generalize c.val.toNat = v at hc hv
  simp only
  split
  · rw [List.singleton_append, run_idle_char (lead_one (by omega)), hc]
  split
  · rw [Nat.mod_eq_of_lt (a := v / 64) (by omega)]
    simp only [List.cons_append, List.nil_append]
    rw [run_idle_waiting (lead_two (by omega) (by omega)), run_waiting_last (tailByte_holds v), extend_ofNat,
      Nat.div_add_mod', hc]
  split
  · rw [Nat.mod_eq_of_lt (a := v / 4096) (by omega)]
    simp only [List.cons_append, List.nil_append]
    rw [run_idle_waiting (lead_three (by omega)),
      run_waiting_next (secondOfThree_holds (by omega) (by omega)), run_waiting_last (tailByte_holds v),
      extend_ofNat, extend_ofNat, show (v / 4096 * 64 + v / 64 % 64) * 64 + v % 64 = v by omega, hc]
  · rw [Nat.mod_eq_of_lt (a := v / 262144) (by omega)]
    simp only [List.cons_append, List.nil_append]
    rw [run_idle_waiting (lead_four (by omega)),
      run_waiting_next (secondOfFour_holds (by omega) (by omega)), run_waiting_next (tailByte_holds (v / 64)),
      run_waiting_last (tailByte_holds v), extend_ofNat, extend_ofNat, extend_ofNat,
      show ((v / 262144 * 64 + v / 4096 % 64) * 64 + v / 64 % 64) * 64 + v % 64 = v by omega, hc]

/-! ## Decoding text -/

/-- The text in front of other bytes is read back, whatever they are. -/
theorem decode_encode_append (cs : List Char) (bs : Bytes) : decode (encode cs ++ bs) = cs ++ decode bs := by
  induction cs with
  | nil => rfl
  | cons c cs ih =>
    have hcons : encode (c :: cs) ++ bs = String.utf8EncodeChar c ++ (encode cs ++ bs) := by
      simp only [encode, List.flatMap_cons, List.append_assoc]
    rw [hcons, decode, run_utf8EncodeChar]
    exact congrArg (c :: ·) ih

theorem decode_encode (cs : List Char) : decode (encode cs) = cs := by
  have h := decode_encode_append cs []
  rwa [List.append_nil, decode_nil, List.append_nil] at h

theorem bytes_append (s t : String) : bytes (s ++ t) = bytes s ++ bytes t := by
  simp [bytes, encode]

/-- **Text is shown as it was written.** -/
theorem shown_bytes (s : String) : shown (bytes s) = s := by
  rw [shown, bytes, decode_encode, String.ofList_toList]

/-! ## Basic characters -/

/-- Basic characters are encoded by one byte each; the one whose number is zero is left out. -/
def Basic (c : Char) : Prop := 0 < c.toNat ∧ c.toNat < 0x80

instance (c : Char) : Decidable (Basic c) := inferInstanceAs (Decidable (0 < c.toNat ∧ c.toNat < 0x80))

theorem utf8EncodeChar_small {c : Char} (h : c.toNat < 0x80) : String.utf8EncodeChar c = [UInt8.ofNat c.toNat] := by
  unfold String.utf8EncodeChar
  exact if_pos (Nat.le_of_lt_succ h)

theorem Basic.encode_eq {c : Char} (h : Basic c) : String.utf8EncodeChar c = [UInt8.ofNat c.toNat] :=
  utf8EncodeChar_small h.2

end Transcripts.Text
