import Transcripts.Proofs.Text.Utf8
import Transcripts.Text.Lines

/-!
# Line feeds

A physical line holds no line feed, and encoding neither adds one nor loses one.
-/
namespace Transcripts.Text

theorem mem_closeLine {c : Char} : ∀ {line : List Char}, c ∈ closeLine line → c ∈ line := by
  intro line h
  unfold closeLine at h
  split at h
  · exact List.mem_cons_of_mem _ (List.mem_reverse.1 h)
  · exact List.mem_reverse.1 h

theorem physicalLinesFrom_no_feed : ∀ (cs line : List Char), '\n' ∉ line →
    ∀ l ∈ physicalLinesFrom line cs, '\n' ∉ l := by
  intro cs
  induction cs with
  | nil =>
    intro line hline l hl
    simp only [physicalLinesFrom] at hl
    split at hl
    · cases hl
    · rw [List.mem_singleton.1 hl, List.mem_reverse]
      exact hline
  | cons c cs ih =>
    intro line hline l hl
    simp only [physicalLinesFrom] at hl
    split at hl
    · rcases List.mem_cons.1 hl with rfl | hl
      · exact fun h => hline (mem_closeLine h)
      · exact ih [] (by simp) l hl
    · rename_i hc
      refine ih (c :: line) (fun h => ?_) l hl
      rcases List.mem_cons.1 h with h | h
      · exact hc h.symm
      · exact hline h

/-- Only the empty text has no lines. -/
theorem physicalLines_eq_nil {cs : List Char} : physicalLines cs = [] ↔ cs = [] := by
  have hfrom (line cs : List Char) : physicalLinesFrom line cs = [] ↔ line = [] ∧ cs = [] := by
    induction cs generalizing line with
    | nil =>
      rw [physicalLinesFrom]
      cases line <;> simp
    | cons c cs ih =>
      rw [physicalLinesFrom]
      split <;> simp [ih]
  rw [physicalLines, hfrom]
  exact and_iff_right rfl

theorem physicalLines_no_feed {cs l : List Char} (h : l ∈ physicalLines cs) : '\n' ∉ l :=
  physicalLinesFrom_no_feed cs [] (by simp) l h

theorem mem_trimEnd {c : Char} {cs : List Char} (h : c ∈ trimEnd cs) : c ∈ cs :=
  List.mem_reverse.1 ((List.dropWhile_sublist isBlank).mem (List.mem_reverse.1 h))

theorem ofNat_ne_feed {n : Nat} (h : n < 256) (hn : n ≠ 0x0A) : UInt8.ofNat n ≠ 0x0A := by
  intro heq
  have hnat := congrArg UInt8.toNat heq
  rw [toNat_ofNat_of_lt h] at hnat
  exact hn hnat

/-- All bytes of a character are large, but for a basic character, which is its own byte. -/
theorem utf8EncodeChar_count_feed (c : Char) : (String.utf8EncodeChar c).count 0x0A = [c].count '\n' := by
  by_cases hc : c = '\n'
  · subst hc; rfl
  have hv : c.val.toNat ≠ 0x0A := fun h => hc (Char.ext (UInt32.toNat_inj.1 h))
  have hlt : c.val.toNat < 0x110000 := by rcases c.valid with h | h <;> omega
  have hne : ∀ b ∈ String.utf8EncodeChar c, b ≠ 0x0A := by
    unfold String.utf8EncodeChar
    generalize c.val.toNat = v at hv hlt
    simp only
    split
    · simp only [List.mem_singleton, forall_eq]
      exact ofNat_ne_feed (by omega) hv
    split
    · simp only [List.mem_cons, List.not_mem_nil, or_false, forall_eq_or_imp, forall_eq]
      exact ⟨ofNat_ne_feed (by omega) (by omega), ofNat_ne_feed (by omega) (by omega)⟩
    split
    · simp only [List.mem_cons, List.not_mem_nil, or_false, forall_eq_or_imp, forall_eq]
      exact ⟨ofNat_ne_feed (by omega) (by omega), ofNat_ne_feed (by omega) (by omega), ofNat_ne_feed (by omega) (by omega)⟩
    · simp only [List.mem_cons, List.not_mem_nil, or_false, forall_eq_or_imp, forall_eq]
      exact ⟨ofNat_ne_feed (by omega) (by omega), ofNat_ne_feed (by omega) (by omega),
        ofNat_ne_feed (by omega) (by omega), ofNat_ne_feed (by omega) (by omega)⟩
  rw [List.count_eq_zero.2 fun h => hne _ h rfl, List.count_eq_zero.2 (by simpa using Ne.symm hc)]
/-- An encoded text has as many line feeds as the text. -/
theorem bytes_count_feed (s : String) : (bytes s).count 0x0A = s.toList.count '\n' := by
  unfold bytes encode
  induction s.toList with
  | nil => rfl
  | cons c cs ih =>
    rw [List.flatMap_cons, List.count_append, utf8EncodeChar_count_feed, ih, ← List.count_append]
    rfl

end Transcripts.Text
