import Transcripts.Pattern.Search
import Transcripts.Proofs.Text.Utf8

/-!
# Places between two characters

The first byte of a character differs from all that continue one.  So a place of an encoded text at which a
first byte stands lies between two characters (`exists_split_of_leading`), and a text that stands anywhere in the
bytes of another stands in that text itself (`exists_split_of_occurs`), wherever the bytes were cut.
-/
namespace Transcripts.Text

open Transcripts.Pattern.Input (isLeading)

/-! ## First bytes -/

theorem isLeading_ofNat {n : Nat} (h : n < 256) : isLeading (UInt8.ofNat n) = true ↔ n < 0x80 ∨ 0xC0 ≤ n := by
  simp [isLeading, UInt8.lt_iff_toNat_lt, UInt8.le_iff_toNat_le, toNat_ofNat_of_lt h]

theorem isLeading_tail (n : Nat) : isLeading (UInt8.ofNat (n % 64 + 0x80)) = false := by
  rw [← Bool.not_eq_true, isLeading_ofNat (by omega)]
  omega

/-- The bytes of a character: a first one, and some that continue it. -/
theorem utf8EncodeChar_shape (c : Char) :
    ∃ b rest, String.utf8EncodeChar c = b :: rest ∧ isLeading b = true ∧ ∀ x ∈ rest, isLeading x = false := by
  have hv : c.val.toNat < 0x110000 := by rcases c.valid with h | h <;> omega
  unfold String.utf8EncodeChar
  generalize c.val.toNat = v at hv
  simp only
  split
  · exact ⟨_, _, rfl, (isLeading_ofNat (by omega)).2 (by omega), nofun⟩
  split
  · refine ⟨_, _, rfl, (isLeading_ofNat (by omega)).2 (by omega), ?_⟩
    rw [List.forall_mem_singleton]
    exact isLeading_tail _
  split
  · refine ⟨_, _, rfl, (isLeading_ofNat (by omega)).2 (by omega), ?_⟩
    simp only [List.mem_cons, List.not_mem_nil, or_false, forall_eq_or_imp, forall_eq]
    exact ⟨isLeading_tail _, isLeading_tail _⟩
  · refine ⟨_, _, rfl, (isLeading_ofNat (by omega)).2 (by omega), ?_⟩
    simp only [List.mem_cons, List.not_mem_nil, or_false, forall_eq_or_imp, forall_eq]
    exact ⟨isLeading_tail _, isLeading_tail _, isLeading_tail _⟩

theorem encode_cons (c : Char) (cs : List Char) : encode (c :: cs) = String.utf8EncodeChar c ++ encode cs := rfl

theorem encode_eq_nil {cs : List Char} (h : encode cs = []) : cs = [] := by
  rw [← decode_encode cs, h, decode_nil]

/-! ## Places at which a character starts -/

/-- A place of an encoded text where a first byte stands has whole characters before it. -/
theorem exists_split_of_leading {cs : List Char} {i : Nat} {b : UInt8} (hi : (encode cs)[i]? = some b)
    (hb : isLeading b = true) : ∃ pre post, cs = pre ++ post ∧ i = (encode pre).length := by
  induction cs generalizing i with
  | nil => simp at hi
  | cons c cs ih =>
    obtain ⟨first, rest, hc, -, hrest⟩ := utf8EncodeChar_shape c
    rw [encode_cons] at hi
    by_cases hlt : i < (String.utf8EncodeChar c).length
    · rw [List.getElem?_append_left hlt, hc] at hi
      cases i with
      | zero => exact ⟨[], c :: cs, rfl, rfl⟩
      | succ i =>
        rw [List.getElem?_cons_succ] at hi
        rw [hrest b (List.mem_of_getElem? hi)] at hb
        cases hb
    · rw [List.getElem?_append_right (Nat.le_of_not_lt hlt)] at hi
      obtain ⟨pre, post, rfl, hpre⟩ := ih hi
      refine ⟨c :: pre, post, rfl, ?_⟩
      rw [encode_cons, List.length_append]
      omega

theorem encode_isPrefix {xs ys : List Char} (h : encode xs <+: encode ys) : xs <+: ys := by
  obtain ⟨rest, hrest⟩ := h
  refine ⟨decode rest, ?_⟩
  rw [← decode_encode_append, hrest, decode_encode]

/-- Of two parts of a text that begin with it, the one with fewer bytes begins the other. -/
theorem isPrefix_of_encode_length_le {xs ys cs : List Char} (hx : xs <+: cs) (hy : ys <+: cs)
    (hle : (encode xs).length ≤ (encode ys).length) : xs <+: ys := by
  rcases List.prefix_or_prefix_of_prefix hx hy with h | ⟨more, rfl⟩
  · exact h
  · rw [encode_append, List.length_append] at hle
    have hmore : more = [] := encode_eq_nil (List.eq_nil_of_length_eq_zero (by omega))
    exact ⟨[], by rw [hmore, List.append_nil, List.append_nil]⟩

theorem eq_of_encode_length {xs ys cs : List Char} (hx : xs <+: cs) (hy : ys <+: cs)
    (hlen : (encode xs).length = (encode ys).length) : xs = ys := by
  have h := isPrefix_of_encode_length_le hx hy (Nat.le_of_eq hlen)
  have h' := isPrefix_of_encode_length_le hy hx (Nat.le_of_eq hlen.symm)
  exact h.eq_of_length_le h'.length_le

/-- **A text that stands in the bytes of another** stands in it between two characters. -/
theorem exists_split_of_occurs {key cs : List Char} {i : Nat} (hkey : key ≠ []) (h : encode key <+: (encode cs).drop i) :
    ∃ pre post, cs = pre ++ key ++ post ∧ i = (encode pre).length := by
  obtain ⟨c, key', rfl⟩ := List.exists_cons_of_ne_nil hkey
  obtain ⟨b, rest, hc, hb, -⟩ := utf8EncodeChar_shape c
  have hi : (encode cs)[i]? = some b := by
    obtain ⟨more, hmore⟩ := h
    rw [encode_cons, hc] at hmore
    rw [← List.head?_drop, ← hmore]
    rfl
  obtain ⟨pre, post, rfl, rfl⟩ := exists_split_of_leading hi hb
  rw [encode_append, List.drop_left] at h
  obtain ⟨post', rfl⟩ := encode_isPrefix h
  exact ⟨pre, post', (List.append_assoc _ _ _).symm, rfl⟩

/-! ## The first character -/

/-- The bytes of a character start with it, whatever follows. -/
theorem firstChar_utf8EncodeChar (c : Char) (bs : Bytes) :
    firstChar (String.utf8EncodeChar c ++ bs) = some (c, (String.utf8EncodeChar c).length) := by
  have hc : Char.ofNat c.val.toNat = c := Char.ofNat_toNat c
  have hv : c.val.toNat < 0xD800 ∨ 0xDFFF < c.val.toNat ∧ c.val.toNat < 0x110000 := c.valid
  unfold String.utf8EncodeChar
  generalize c.val.toNat = v at hc hv
  simp only
  split
  · simp only [List.cons_append, List.nil_append, firstChar]
    rw [lead_one (by omega), Option.bind_some, complete, hc]
    rfl
  split
  · rw [Nat.mod_eq_of_lt (a := v / 64) (by omega)]
    simp only [List.cons_append, List.nil_append, firstChar]
    rw [lead_two (by omega) (by omega), Option.bind_some, complete, if_pos (tailByte_holds v), complete, extend_ofNat,
      Nat.div_add_mod', hc]
    rfl
  split
  · rw [Nat.mod_eq_of_lt (a := v / 4096) (by omega)]
    simp only [List.cons_append, List.nil_append, firstChar]
    rw [lead_three (by omega), Option.bind_some, complete, if_pos (secondOfThree_holds (by omega) (by omega)), complete,
      if_pos (tailByte_holds v), complete, extend_ofNat, extend_ofNat,
      show (v / 4096 * 64 + v / 64 % 64) * 64 + v % 64 = v by omega, hc]
    rfl
  · rw [Nat.mod_eq_of_lt (a := v / 262144) (by omega)]
    simp only [List.cons_append, List.nil_append, firstChar]
    rw [lead_four (by omega), Option.bind_some, complete, if_pos (secondOfFour_holds (by omega) (by omega)), complete,
      if_pos (tailByte_holds (v / 64)), complete, if_pos (tailByte_holds v), complete, extend_ofNat, extend_ofNat,
      extend_ofNat, show ((v / 262144 * 64 + v / 4096 % 64) * 64 + v / 64 % 64) * 64 + v % 64 = v by omega, hc]
    rfl

theorem toNat_ofNat_of_valid {n : Nat} (h : n.isValidChar) : (Char.ofNat n).toNat = n := by
  rw [Char.ofNat, dif_pos h]
  rfl

/-- What a first byte asks for, by the number of bytes of its character. -/
theorem lead_cases {b : UInt8} {value : Nat} {rs : List ByteRange} (h : lead b = some (value, rs)) :
    (b.toNat < 0x80 ∧ value = b.toNat ∧ rs = []) ∨ (2 ≤ value ∧ value < 32 ∧ rs = [tailByte]) ∨
      (value < 16 ∧ rs = [secondOfThree value, tailByte]) ∨
      (value < 5 ∧ rs = [secondOfFour value, tailByte, tailByte]) := by
  unfold lead at h
  simp only [UInt8.lt_iff_toNat_lt, ← UInt8.toNat_inj, UInt8.reduceToNat] at h
  split at h
  · cases h
    exact .inl ⟨by omega, rfl, rfl⟩
  split at h
  · cases h
  split at h
  · cases h
    exact .inr (.inl ⟨by omega, by omega, rfl⟩)
  split at h
  · cases h
    refine .inr (.inr (.inl ⟨by omega, ?_⟩))
    have hlow : b.toNat % 16 = 0 ↔ b.toNat = 224 := by omega
    have hsurrogate : b.toNat % 16 = 13 ↔ b.toNat = 237 := by omega
    simp only [secondOfThree, hlow, hsurrogate]
  split at h
  · cases h
    refine .inr (.inr (.inr ⟨by omega, ?_⟩))
    have hlow : b.toNat % 8 = 0 ↔ b.toNat = 240 := by omega
    have hhigh : b.toNat % 8 = 4 ↔ b.toNat = 244 := by omega
    simp only [secondOfFour, hlow, hhigh]
  · cases h

theorem holds_secondOfThree {value : Nat} {b : UInt8} (h : (secondOfThree value).holds b = true) :
    0x80 ≤ b.toNat ∧ b.toNat ≤ 0xBF ∧ (value = 0 → 0xA0 ≤ b.toNat) ∧ (value = 13 → b.toNat ≤ 0x9F) := by
  unfold secondOfThree tailByte at h
  simp only [ByteRange.holds, Bool.and_eq_true, decide_eq_true_eq, UInt8.le_iff_toNat_le] at h
  split at h
  · simp only [UInt8.reduceToNat] at h; omega
  split at h <;> simp only [UInt8.reduceToNat] at h <;> omega

theorem holds_secondOfFour {value : Nat} {b : UInt8} (h : (secondOfFour value).holds b = true) :
    0x80 ≤ b.toNat ∧ b.toNat ≤ 0xBF ∧ (value = 0 → 0x90 ≤ b.toNat) ∧ (value = 4 → b.toNat ≤ 0x8F) := by
  unfold secondOfFour tailByte at h
  simp only [ByteRange.holds, Bool.and_eq_true, decide_eq_true_eq, UInt8.le_iff_toNat_le] at h
  split at h
  · simp only [UInt8.reduceToNat] at h; omega
  split at h <;> simp only [UInt8.reduceToNat] at h <;> omega

theorem complete_cons_eq_some {r : ByteRange} {rs : List ByteRange} {value n : Nat} {bs : Bytes} {found : Char × Nat}
    (h : complete (r :: rs) value bs n = some found) :
    ∃ b bs', bs = b :: bs' ∧ r.holds b = true ∧ complete rs (extend value b) bs' (n + 1) = some found := by
  cases bs with
  | nil => cases h
  | cons b bs =>
    obtain ⟨hb, h⟩ := Option.ite_none_right_eq_some.1 h
    exact ⟨b, bs, rfl, hb, h⟩

/-- The number in a first byte, and the bits that tell how many bytes follow it. -/
theorem byte_of_lead {b : UInt8} {value : Nat} {rs : List ByteRange} (h : lead b = some (value, rs)) :
    b.toNat = value + (match rs with | [] => 0 | [_] => 0xC0 | [_, _] => 0xE0 | _ => 0xF0) := by
  unfold lead at h
  simp only [UInt8.lt_iff_toNat_lt, ← UInt8.toNat_inj, UInt8.reduceToNat] at h
  repeat' split at h
  all_goals cases h
  all_goals simp only
  all_goals omega

theorem holds_tailByte {b : UInt8} (h : tailByte.holds b = true) : 0x80 ≤ b.toNat ∧ b.toNat ≤ 0xBF := by
  simpa only [tailByte, ByteRange.holds, Bool.and_eq_true, decide_eq_true_eq, UInt8.le_iff_toNat_le, UInt8.reduceToNat]
    using h

section

variable {value : Nat} {b x y z : UInt8}

theorem ofNat_of_toNat {n : Nat} (h : b.toNat = n) : UInt8.ofNat n = b := by
  rw [← h, UInt8.ofNat_toNat]

theorem encode_one (hb : b.toNat = value) (h : value < 0x80) : String.utf8EncodeChar (Char.ofNat value) = [b] := by
  have hv : (Char.ofNat value).val.toNat = value := toNat_ofNat_of_valid (.inl (by omega))
  simp only [String.utf8EncodeChar, hv]
  rw [if_pos (by omega), ofNat_of_toNat hb]

theorem encode_two (hb : b.toNat = value + 0xC0) (h : 2 ≤ value ∧ value < 32) (hx : tailByte.holds x = true) :
    String.utf8EncodeChar (Char.ofNat (extend value x)) = [b, x] := by
  have hx := holds_tailByte hx
  unfold extend
  have hv : (Char.ofNat (value * 64 + x.toNat % 64)).val.toNat = value * 64 + x.toNat % 64 :=
    toNat_ofNat_of_valid (.inl (by omega))
  simp only [String.utf8EncodeChar, hv]
  rw [if_neg (by omega), if_pos (by omega)]
  simp only [List.cons.injEq, and_true]
  exact ⟨ofNat_of_toNat (by omega), ofNat_of_toNat (by omega)⟩

theorem encode_three (hb : b.toNat = value + 0xE0) (h : value < 16) (hx : (secondOfThree value).holds x = true)
    (hy : tailByte.holds y = true) : String.utf8EncodeChar (Char.ofNat (extend (extend value x) y)) = [b, x, y] := by
  have hx := holds_secondOfThree hx
  have hy := holds_tailByte hy
  unfold extend
  have hv : (Char.ofNat ((value * 64 + x.toNat % 64) * 64 + y.toNat % 64)).val.toNat =
      (value * 64 + x.toNat % 64) * 64 + y.toNat % 64 := toNat_ofNat_of_valid (by unfold Nat.isValidChar; omega)
  simp only [String.utf8EncodeChar, hv]
  rw [if_neg (by omega), if_neg (by omega), if_pos (by omega)]
  simp only [List.cons.injEq, and_true]
  exact ⟨ofNat_of_toNat (by omega), ofNat_of_toNat (by omega), ofNat_of_toNat (by omega)⟩

theorem encode_four (hb : b.toNat = value + 0xF0) (h : value < 5) (hx : (secondOfFour value).holds x = true)
    (hy : tailByte.holds y = true) (hz : tailByte.holds z = true) :
    String.utf8EncodeChar (Char.ofNat (extend (extend (extend value x) y) z)) = [b, x, y, z] := by
  have hx := holds_secondOfFour hx
  have hy := holds_tailByte hy
  have hz := holds_tailByte hz
  unfold extend
  have hv : (Char.ofNat (((value * 64 + x.toNat % 64) * 64 + y.toNat % 64) * 64 + z.toNat % 64)).val.toNat =
      ((value * 64 + x.toNat % 64) * 64 + y.toNat % 64) * 64 + z.toNat % 64 :=
    toNat_ofNat_of_valid (by unfold Nat.isValidChar; omega)
  simp only [String.utf8EncodeChar, hv]
  rw [if_neg (by omega), if_neg (by omega), if_neg (by omega)]
  simp only [List.cons.injEq, and_true]
  exact ⟨ofNat_of_toNat (by omega), ofNat_of_toNat (by omega), ofNat_of_toNat (by omega), ofNat_of_toNat (by omega)⟩

end

/-- **The first character** of some bytes is the one whose encoding they start with. -/
theorem firstChar_eq_some_iff {bs : Bytes} {c : Char} {k : Nat} :
    firstChar bs = some (c, k) ↔ ∃ rest, bs = String.utf8EncodeChar c ++ rest ∧ k = (String.utf8EncodeChar c).length := by
  constructor
  · intro h
    cases bs with
    | nil => cases h
    | cons b bs =>
      obtain ⟨⟨value, rs⟩, hlead, h⟩ := Option.bind_eq_some_iff.1 h
      have hb := byte_of_lead hlead
      rcases lead_cases hlead with ⟨hsmall, rfl, rfl⟩ | ⟨htwo, hvalue, rfl⟩ | ⟨hvalue, rfl⟩ | ⟨hvalue, rfl⟩
      · cases h
        rw [encode_one rfl hsmall]
        exact ⟨bs, rfl, rfl⟩
      · obtain ⟨x, bs, rfl, hx, h⟩ := complete_cons_eq_some h
        cases h
        rw [encode_two hb ⟨htwo, hvalue⟩ hx]
        exact ⟨bs, rfl, rfl⟩
      · obtain ⟨x, bs, rfl, hx, h⟩ := complete_cons_eq_some h
        obtain ⟨y, bs, rfl, hy, h⟩ := complete_cons_eq_some h
        cases h
        rw [encode_three hb hvalue hx hy]
        exact ⟨bs, rfl, rfl⟩
      · obtain ⟨x, bs, rfl, hx, h⟩ := complete_cons_eq_some h
        obtain ⟨y, bs, rfl, hy, h⟩ := complete_cons_eq_some h
        obtain ⟨z, bs, rfl, hz, h⟩ := complete_cons_eq_some h
        cases h
        rw [encode_four hb hvalue hx hy hz]
        exact ⟨bs, rfl, rfl⟩
  · rintro ⟨rest, rfl, rfl⟩
    exact firstChar_utf8EncodeChar c rest

theorem utf8EncodeChar_length_le (c : Char) : (String.utf8EncodeChar c).length ≤ 4 := by
  rw [String.length_utf8EncodeChar]
  exact Char.utf8Size_le_four c

/-! ## The character at a place -/

/-- **The character at a place** of some bytes is the one whose encoding stands there. -/
theorem charAt_eq_some_iff {input : Pattern.Input} {i k : Nat} {c : Char} :
    input.charAt i = some (c, k) ↔
      String.utf8EncodeChar c <+: input.toList.drop i ∧ k = (String.utf8EncodeChar c).length := by
  have hfour : (input.extract i (i + 4)).toList = (input.toList.drop i).take 4 := by
    rw [Array.toList_extract, List.extract_eq_take_drop, Nat.add_sub_cancel_left]
  rw [Pattern.Input.charAt, hfour, firstChar_eq_some_iff]
  constructor
  · rintro ⟨rest, hrest, hk⟩
    exact ⟨(List.prefix_append _ rest).trans (hrest ▸ List.take_prefix 4 _), hk⟩
  · rintro ⟨⟨rest, hrest⟩, hk⟩
    rw [← hrest, List.take_append, List.take_of_length_le (utf8EncodeChar_length_le c)]
    exact ⟨_, rfl, hk⟩

theorem charAt_append (pre : List Char) (c : Char) (post : List Char) :
    (Pattern.Input.ofBytes (encode (pre ++ c :: post))).charAt (encode pre).length =
      some (c, (String.utf8EncodeChar c).length) := by
  refine charAt_eq_some_iff.2 ⟨?_, rfl⟩
  rw [Pattern.Input.ofBytes, encode_append, List.drop_left, encode_cons]
  exact List.prefix_append _ _

/-- The character at a place of an encoded text is one of its characters, and stands there in full. -/
theorem charAt_encode_iff {cs : List Char} {i k : Nat} {c : Char} :
    (Pattern.Input.ofBytes (encode cs)).charAt i = some (c, k) ↔
      ∃ pre post, cs = pre ++ c :: post ∧ i = (encode pre).length ∧ k = (String.utf8EncodeChar c).length := by
  constructor
  · intro h
    obtain ⟨hhere, rfl⟩ := charAt_eq_some_iff.1 h
    have hone : encode [c] = String.utf8EncodeChar c := by rw [encode_cons, encode_nil, List.append_nil]
    rw [← hone] at hhere
    obtain ⟨pre, post, rfl, rfl⟩ := exists_split_of_occurs (List.cons_ne_nil c []) hhere
    exact ⟨pre, post, by rw [List.append_assoc]; rfl, rfl, rfl⟩
  · rintro ⟨pre, post, rfl, rfl, rfl⟩
    exact charAt_append pre c post

end Transcripts.Text
