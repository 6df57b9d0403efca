import Transcripts.Json.Printer
import Transcripts.Json.Reader

/-!
# Strings

A string is read back from the way it is written (`readString_flatMap`).  Each character stands for itself, or for what
follows a backslash: a letter, or the number of a character below the space.
-/
namespace Transcripts.Json

/-- Which characters stand for themselves. -/
theorem printChar_eq_self_iff (c : Char) : printChar c = [c] ↔ c ≠ '"' ∧ c ≠ '\\' ∧ 0x20 ≤ c.toNat := by
  unfold printChar
  split
  case h_8 hquote hslash _ _ _ _ _ =>
    split
    · rename_i hlow
      exact ⟨fun h => by simp at h, fun h => absurd hlow (Nat.not_lt.2 h.2.2)⟩
    · rename_i hhigh
      exact ⟨fun _ => ⟨hquote, hslash, Nat.not_lt.1 hhigh⟩, fun _ => rfl⟩
  all_goals decide

/-- An escape by number, of a character that is no half of another. -/
theorem readString_unit {a b c d : Char} {u : Nat} (hu : unit? a b c d = some u) (hlt : u < 0xD800)
    (done tail : List Char) :
    readString done ('\\' :: 'u' :: a :: b :: c :: d :: tail) = readString (Char.ofNat u :: done) tail := by
  have hwhole : u < 0xD800 ∨ 0xE000 ≤ u := .inl hlt
  rw [readString.eq_def]
  split
  case h_1 heq => simp at heq
  case h_2 heq =>
    simp only [List.cons.injEq, true_and] at heq
    obtain ⟨rfl, rfl, rfl, rfl, rfl⟩ := heq
    simp only [hu, if_pos hwhole]
  case h_3 heq =>
    simp only [List.cons.injEq, true_and] at heq
    obtain ⟨rfl, rfl, rfl, rfl, rfl⟩ := heq
    simp only [hu, if_pos hwhole]
  case h_4 hnone heq =>
    simp only [List.cons.injEq, true_and] at heq
    exact (hnone _ _ _ _ _ heq.1.symm heq.2.symm).elim
  case h_5 hnone _ heq =>
    simp only [List.cons.injEq] at heq
    exact (hnone _ _ _ _ _ heq.1.symm heq.2.symm).elim
  case h_6 heq => cases heq

theorem readString_escape {c x : Char} (hx : escape? c = some x) (done tail : List Char) :
    readString done ('\\' :: c :: tail) = readString (x :: done) tail := by
  have hu : c ≠ 'u' := by
    rintro rfl
    cases hx
  rw [readString.eq_def]
  split
  case h_1 heq => simp at heq
  case h_2 heq =>
    simp only [List.cons.injEq, true_and] at heq
    exact absurd heq.1 hu
  case h_3 heq =>
    simp only [List.cons.injEq, true_and] at heq
    exact absurd heq.1 hu
  case h_4 heq =>
    simp only [List.cons.injEq, true_and] at heq
    obtain ⟨rfl, rfl⟩ := heq
    simp only [hx]
  case h_5 hnone heq =>
    simp only [List.cons.injEq] at heq
    exact (hnone _ _ heq.1.symm heq.2.symm).elim
  case h_6 heq => cases heq

theorem readString_plain {c : Char} (hquote : c ≠ '"') (hslash : c ≠ '\\') (hc : 0x20 ≤ c.toNat)
    (done tail : List Char) : readString done (c :: tail) = readString (c :: done) tail := by
  rw [readString.eq_def]
  split
  case h_5 heq =>
    cases heq
    rw [if_neg (Nat.not_lt.2 hc)]
  case h_6 heq => cases heq
  all_goals
    rename_i heq
    simp only [List.cons.injEq] at heq
    first | exact absurd heq.1 hquote | exact absurd heq.1 hslash

/-- The numbers below the space, as they are written. -/
theorem unit?_low : ∀ n < 0x20, ∃ x, Text.hexOf (n % 16) = [x] ∧
    unit? '0' '0' (Char.ofNat (n / 16 + '0'.toNat)) x = some n := by
  intro n hn
  have hall : ∀ n < 0x20, Text.hexOf (n % 16) = [(Text.hexOf (n % 16)).headD ' '] ∧
      unit? '0' '0' (Char.ofNat (n / 16 + '0'.toNat)) ((Text.hexOf (n % 16)).headD ' ') = some n := by decide
  exact ⟨_, hall n hn⟩

/-- Each character is read back from the way it is written. -/
theorem readString_printChar (c : Char) (done tail : List Char) :
    readString done (printChar c ++ tail) = readString (c :: done) tail := by
  unfold printChar
  split
  case h_8 hquote hslash _ _ _ _ _ =>
    split
    · rename_i hlow
      obtain ⟨x, hx, hu⟩ := unit?_low c.toNat hlow
      simp only [hx, List.cons_append, List.nil_append]
      rw [readString_unit hu (by omega), Char.ofNat_toNat]
    · rename_i hlow
      exact readString_plain hquote hslash (Nat.not_lt.1 hlow) done tail
  all_goals exact readString_escape rfl done tail

theorem readString_flatMap (cs done tail : List Char) :
    readString done (cs.flatMap printChar ++ '"' :: tail) = some (done.reverse ++ cs, tail) := by
  induction cs generalizing done with
  | nil =>
    rw [List.append_nil]
    exact readString.eq_1 done tail
  | cons c cs ih =>
    rw [List.flatMap_cons, List.append_assoc, readString_printChar, ih, List.reverse_cons, List.append_assoc,
      List.singleton_append]

theorem printString_append (s : String) (tail : List Char) :
    printString s ++ tail = '"' :: (s.toList.flatMap printChar ++ '"' :: tail) := by
  simp [printString]

end Transcripts.Json
