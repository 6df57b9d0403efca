import Mathlib.Data.List.DropRight
import Transcripts.Proofs.Profile.Usable
import Transcripts.Proofs.Text.Split
import Transcripts.Proofs.Trim.Recognized

/-!
# Stripped texts

A trimmer keeps the longest part of the lines, from the first on, that does not end in a line it recognizes.  These are
the lines of the stripped text as well, since the last of them is not empty (`splitLines_strip`); so stripping again
changes nothing, and all that is said about the lines that are kept is said about the text (`strip_exact`).
-/
namespace Transcripts.Trimmer

open Transcripts.Pattern (Regex)
open Transcripts.Text (splitLines terminators)

/-! ## Lines that are kept -/

variable {t : Trimmer}

theorem keep_eq (t : Trimmer) (lines : List (List Char)) : t.keep lines = lines.rdropWhile t.line.matchesIn := rfl

/-- The last line that is kept is not recognized. -/
theorem keep_last {lines : List (List Char)} {line : List Char} (h : (t.keep lines).getLast? = some line) :
    t.line.matchesIn line = false := by
  rw [keep_eq] at h
  have hne : lines.rdropWhile t.line.matchesIn ≠ [] := by
    intro hnil
    rw [hnil] at h
    cases h
  have hlast := List.rdropWhile_last_not t.line.matchesIn lines hne
  rw [List.getLast?_eq_some_getLast hne] at h
  cases h
  simpa using hlast

theorem keep_isPrefix (t : Trimmer) (lines : List (List Char)) : t.keep lines <+: lines :=
  List.rdropWhile_prefix t.line.matchesIn lines

theorem keep_of_last {lines : List (List Char)}
    (h : ∀ line, lines.getLast? = some line → t.line.matchesIn line = false) : t.keep lines = lines := by
  rw [keep_eq, List.rdropWhile_eq_self_iff]
  intro hne
  rw [h _ (List.getLast?_eq_some_getLast hne)]
  exact Bool.false_ne_true

/-- What ends in a line that is not recognized is kept. -/
theorem isPrefix_keep {lines other : List (List Char)} (h : other <+: lines)
    (hlast : ∀ line, other.getLast? = some line → t.line.matchesIn line = false) : other <+: t.keep lines := by
  obtain ⟨rest, rfl⟩ := h
  induction rest using List.reverseRecOn with
  | nil => rw [List.append_nil, keep_of_last hlast]
  | append_singleton rest line ih =>
    rw [← List.append_assoc, keep_eq, List.rdropWhile_concat]
    split
    · exact ih
    · rw [List.append_assoc]
      exact List.prefix_append _ _

/-- What is not kept is recognized. -/
theorem of_mem_drop_keep {lines : List (List Char)} {line : List Char}
    (h : line ∈ lines.drop (t.keep lines).length) : t.line.matchesIn line = true := by
  have hsplit : t.keep lines ++ lines.rtakeWhile t.line.matchesIn = lines := List.rdropWhile_append_rtakeWhile
  have hdrop : lines.drop (t.keep lines).length = lines.rtakeWhile t.line.matchesIn := by
    have hleft : (t.keep lines ++ lines.rtakeWhile t.line.matchesIn).drop (t.keep lines).length = _ := List.drop_left
    rwa [hsplit] at hleft
  rw [hdrop] at h
  exact List.mem_rtakeWhile_imp h

/-! ## Stripping -/

theorem strip_toList (t : Trimmer) (text lineEnding : String) :
    (t.strip text lineEnding).toList = Text.join lineEnding.toList (t.keep (splitLines text.toList)) :=
  String.toList_ofList

/-- The lines of a stripped text are those that were kept, if the trimmer recognizes the empty line. -/
theorem splitLines_strip (hempty : t.line.matchesIn [] = true) (text : String) {lineEnding : String}
    (h : lineEnding.toList ∈ terminators) :
    splitLines (t.strip text lineEnding).toList = t.keep (splitLines text.toList) := by
  rw [strip_toList, Text.splitLines_join h]
  · exact fun l hl => Text.splitLines_oneLine ((keep_isPrefix t _).subset hl)
  · intro hlast
    rw [keep_last hlast] at hempty
    cases hempty

theorem strip_strip (hempty : t.line.matchesIn [] = true) (text : String) {lineEnding : String}
    (h : lineEnding.toList ∈ terminators) : t.strip (t.strip text lineEnding) lineEnding = t.strip text lineEnding := by
  rw [← String.toList_inj, strip_toList, splitLines_strip hempty text h, keep_of_last fun _ => keep_last, strip_toList]

/-- There is no last line, or it is neither blank nor a bare prompt. -/
def Finished (pattern : String) (lines : List (List Char)) : Prop :=
  ∀ line, lines.getLast? = some line → ¬ BlankLine line ∧ ¬ PromptLine pattern line

/-- **What stripping leaves.**  The lines of the stripped text are the longest part of the lines, from the first on, that
has no line or ends in one that is neither blank nor a bare prompt; the stripped text is these lines, joined by the line
ending.  So every line that is dropped is blank or a bare prompt, a line that is neither is kept with all before it, and
stripping again changes nothing. -/
theorem strip_exact {pattern : String} {r : Regex} {t : Trimmer} (hr : Regex.text pattern = .ok r)
    (ht : ofPattern pattern = .ok t) {lineEnding : String} (hend : lineEnding ∈ ["\n", "\r\n", "\r"]) (text : String) :
    let lines := splitLines text.toList
    let kept := splitLines (t.strip text lineEnding).toList
    (kept <+: lines ∧ Finished pattern kept ∧ ∀ other, other <+: lines → Finished pattern other → other <+: kept) ∧
    (t.strip text lineEnding).toList = Text.join lineEnding.toList kept ∧
    (∀ line ∈ lines.drop kept.length, BlankLine line ∨ PromptLine pattern line) ∧
    (∀ before line after, lines = before ++ line :: after → ¬ BlankLine line → ¬ PromptLine pattern line →
      before ++ [line] <+: kept) ∧
    t.strip (t.strip text lineEnding) lineEnding = t.strip text lineEnding := by
  intro lines kept
  have hsep : lineEnding.toList ∈ terminators := by
    simp only [List.mem_cons, List.not_mem_nil, or_false] at hend
    rcases hend with rfl | rfl | rfl <;> decide
  have hempty : t.line.matchesIn [] = true := (recognizes_iff hr ht []).2 (.inl nofun)
  have hkept : kept = t.keep lines := splitLines_strip hempty text hsep
  have hother {other : List (List Char)} (h : other <+: lines) (hfinished : Finished pattern other) : other <+: kept := by
    rw [hkept]
    refine isPrefix_keep h fun line hline => Bool.eq_false_iff.2 fun hmatch => ?_
    rcases (recognizes_iff hr ht line).1 hmatch with hblank | hprompt
    · exact (hfinished line hline).1 hblank
    · exact (hfinished line hline).2 hprompt
  refine ⟨⟨?_, ?_, fun other => hother⟩, ?_, ?_, ?_, strip_strip hempty text hsep⟩
  · rw [hkept]
    exact keep_isPrefix t lines
  · intro line hline
    rw [hkept] at hline
    have hmatch := keep_last hline
    rw [Bool.eq_false_iff, Ne, recognizes_iff hr ht, not_or] at hmatch
    exact hmatch
  · rw [hkept]
    exact strip_toList t text lineEnding
  · intro line hline
    rw [hkept] at hline
    exact (recognizes_iff hr ht line).1 (of_mem_drop_keep hline)
  · intro before line after hlines hblank hprompt
    refine hother ⟨after, by rw [hlines, List.append_assoc]; rfl⟩ fun last hlast => ?_
    rw [List.getLast?_concat] at hlast
    cases hlast
    exact ⟨hblank, hprompt⟩

/-- The usual prompt. -/
theorem strip_usual_prompt :
    ∃ r t, Regex.text ">>>" = .ok r ∧ ofPattern ">>>" = .ok t ∧ "\r\n" ∈ ["\n", "\r\n", "\r"] ∧
      t.strip (t.strip ">>> 1\r1\n>>> \r\n\t\n" "\r\n") "\r\n" = t.strip ">>> 1\r1\n>>> \r\n\t\n" "\r\n" := by
  obtain ⟨r, hr⟩ : ∃ r, Regex.text ">>>" = .ok r := Regex.compile_ok rfl rfl (by decide)
  obtain ⟨line, hline⟩ := Regex.text_usual
  have ht : ofPattern ">>>" = .ok ⟨line⟩ := by
    rw [ofPattern, hline]
    rfl
  exact ⟨r, ⟨line⟩, hr, ht, by decide, (strip_exact hr ht (by decide) _).2.2.2.2⟩

end Transcripts.Trimmer
