import Transcripts.Proofs.Prompt.Exact
import Transcripts.Proofs.Prompt.Nonempty
import Transcripts.Proofs.Stream.Account

/-!
# Prompts within a line

Where prompts may stand within a line, each of them is looked for twice: behind a line ending, and bare.  A line ending
that stands in front of a prompt belongs to a match that starts before the bare prompt, and so the prompt is never taken
without it.
-/
namespace Transcripts

open Transcripts.Text (Bytes OccursAt)

/-- What ends where another list starts stands in front of it. -/
theorem Text.OccursAt.behind {α : Type} {front key xs : List α} {i : Nat} (hfront : front <:+ xs.take i)
    (hi : i ≤ xs.length) (h : OccursAt key xs i) : ∃ j, j + front.length = i ∧ OccursAt (front ++ key) xs j := by
  obtain ⟨before, hbefore⟩ := hfront
  obtain ⟨rest, hrest⟩ := h
  refine ⟨before.length, ?_, rest, ?_⟩
  · rw [← List.length_append, hbefore, List.length_take, Nat.min_eq_left hi]
  · calc front ++ key ++ rest = front ++ xs.drop i := by rw [List.append_assoc, hrest]
      _ = (before ++ (front ++ xs.drop i)).drop before.length := by rw [List.drop_left]
      _ = xs.drop before.length := by rw [← List.append_assoc, hbefore, List.take_append_drop]

namespace Profile

variable {p : Profile}

/-- First come the prompts behind the line ending. -/
theorem searchTerms_getElem?_of_lt {index : Nat} (h : index < p.promptPatterns.length) :
    p.searchTerms[index]? = p.promptPatterns[index]?.map (p.lineEnding ++ ·) := by
  rw [searchTerms, List.getElem?_append_left (by simpa using h), List.getElem?_map]

/-- Then come the bare prompts. -/
theorem searchTerms_getElem?_of_ge (hallow : p.allowMatchWithoutNewline = true) {index : Nat}
    (h : p.promptPatterns.length ≤ index) :
    p.searchTerms[index]? = p.promptPatterns[index - p.promptPatterns.length]? := by
  rw [searchTerms, List.getElem?_append_right (by simpa using h), List.length_map, if_pos hallow]

end Profile

/-- No text stands before the match that is taken. -/
theorem Earliest.not_before {terms : List String} {bs : Bytes} {f : Found} (h : Earliest (PromptMatcher.TextAt terms bs) f)
    {t : String} (ht : t ∈ terms) {i : Nat} (ho : OccursAt (Text.bytes t) bs i) : f.start ≤ i := by
  obtain ⟨index, hindex⟩ := List.getElem?_of_mem ht
  have := h.first index i _ ⟨t, hindex, ho, rfl⟩
  omega

namespace Session

variable {p : Profile} {s : Session}

/-- **A bare prompt leaves no line ending behind.**  Let the prompts be texts that may stand within a line.  Whatever
output a wait has before it, and in whatever pieces more arrives, if it takes a prompt behind a line ending, it takes
both, and if it takes a bare prompt, there is no line ending in front of it.  Nothing that it takes has a line ending
and a prompt before the match. -/
theorem bare_prompt_leaves_no_line_ending (hs : Session.ofProfile p = .ok s) (hre : p.promptRegex = none)
    (hallow : p.allowMatchWithoutNewline = true) (hle : p.lineEnding ≠ "") (x : Stream) (t : Timeout)
    {before matched : Bytes} {index : Nat} (h : (x.await s.prompts t).1 = .taken before matched index) :
    (if index < p.promptPatterns.length then
      ∃ prompt, p.promptPatterns[index]? = some prompt ∧ matched = Text.bytes (p.lineEnding ++ prompt)
    else
      (∃ prompt, p.promptPatterns[index - p.promptPatterns.length]? = some prompt ∧ matched = Text.bytes prompt) ∧
      ¬ Text.bytes p.lineEnding <:+ before) ∧
    ∀ prompt ∈ p.promptPatterns, ∀ i, OccursAt (Text.bytes (p.lineEnding ++ prompt)) (before ++ matched) i →
      before.length ≤ i := by
  obtain ⟨f, hf, rfl, rfl, rfl, -⟩ := (Stream.await_reports x s.prompts t).taken before matched index h
  generalize x.buffer ++ (x.receipts s.prompts t).flatMap Receipt.bytes = bs at hf ⊢
  obtain ⟨hle_stop, hstop_le⟩ := PromptMatcher.find_mem hf
  rw [prompts_of_texts hs hre] at hf
  have hearliest := PromptMatcher.literal_find_some.1 hf
  have hlines {prompt : String} (hprompt : prompt ∈ p.promptPatterns) : p.lineEnding ++ prompt ∈ p.searchTerms :=
    Profile.mem_searchTerms.2 (.inl ⟨prompt, hprompt, rfl⟩)
  have hlength : (bs.take f.start).length = f.start := by
    rw [List.length_take]
    omega
  obtain ⟨term, hterm, ⟨rest, hrest⟩, hstop⟩ := hearliest.here
  have hmatched : (bs.take f.stop).drop f.start = Text.bytes term := by
    rw [List.drop_take, hstop, Nat.add_sub_cancel_left, ← hrest, List.take_left]
  refine ⟨?_, fun prompt hprompt i ho => ?_⟩
  · split
    · rename_i hlt
      rw [Profile.searchTerms_getElem?_of_lt hlt, Option.map_eq_some_iff] at hterm
      obtain ⟨prompt, hprompt, rfl⟩ := hterm
      exact ⟨prompt, hprompt, hmatched⟩
    · rename_i hge
      rw [Profile.searchTerms_getElem?_of_ge hallow (Nat.le_of_not_lt hge)] at hterm
      refine ⟨⟨term, hterm, hmatched⟩, ?_⟩
      -- behind the line ending the prompt would have been found earlier
      intro hends
      obtain ⟨i, hi, ho⟩ := OccursAt.behind hends (by omega) ⟨rest, hrest⟩
      rw [← Text.bytes_append] at ho
      have hearly := hearliest.not_before (hlines (List.mem_of_getElem? hterm)) ho
      have hempty : Text.bytes p.lineEnding = [] := List.eq_nil_of_length_eq_zero (by omega)
      exact hle (String.toList_eq_nil_iff.1 (Text.encode_eq_nil hempty))
  · rw [hlength]
    have hall : bs.take f.start ++ (bs.take f.stop).drop f.start = bs.take f.stop := by
      rw [← Nat.min_eq_left hle_stop, ← List.take_take, Nat.min_eq_left hle_stop, List.take_append_drop]
    rw [hall] at ho
    exact hearliest.not_before (hlines hprompt) (ho.trans ((List.take_prefix f.stop bs).drop i))

/-- A bare prompt that arrives in two pieces. -/
theorem bare_prompt_leaves_no_line_ending_pieces :
    let p : Profile := { name := "sh", command := "sh", allowMatchWithoutNewline := true }
    let x : Stream := { buffer := Text.bytes "1 ", arrivals := [⟨0, .data (Text.bytes ">")⟩, ⟨0, .data (Text.bytes ">> ")⟩] }
    ∃ s, Session.ofProfile p = .ok s ∧ p.promptRegex = none ∧ p.allowMatchWithoutNewline = true ∧ p.lineEnding ≠ "" ∧
      (x.await s.prompts (.seconds 1)).1 = .taken (Text.bytes "1 ") (Text.bytes ">>>") 2 ∧
      ¬ Text.bytes p.lineEnding <:+ Text.bytes "1 " := by
  intro p x
  have hs : Session.ofProfile p = .ok ⟨.literal p.searchTerms, .literal p.searchTerms, p.lineEnding⟩ :=
    (Session.ofProfile_literal rfl rfl).2 ⟨by decide, rfl⟩
  have hle : p.lineEnding ≠ "" := by decide
  have hx : (x.await (.literal p.searchTerms) (.seconds 1)).1 = .taken (Text.bytes "1 ") (Text.bytes ">>>") 2 := by
    decide
  have hbare := (bare_prompt_leaves_no_line_ending hs rfl rfl hle x (.seconds 1) hx).1
  rw [if_neg (by decide)] at hbare
  exact ⟨_, hs, rfl, rfl, hle, hx, hbare.2⟩

end Session

end Transcripts
