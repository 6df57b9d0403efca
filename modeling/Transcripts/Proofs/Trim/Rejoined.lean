import Transcripts.Proofs.Profile.Usable
import Transcripts.Proofs.Trim.Stripped

/-!
# Stripping twice

A stripped text is joined by the line ending of the profile, which may be any text, and stripping it again cuts it by
the three terminators.  It changes nothing, and leaves no prompt at the end, just if the line ending is a terminator, or
joins no two lines, or holds no terminator and makes no bare prompt of the lines (`strip_settled_iff`).
-/
namespace Transcripts

open Transcripts.Pattern (Regex)
open Transcripts.Text (OneLine splitLines terminators)

namespace Trimmer

section

variable {t : Trimmer} (hempty : t.line.matchesIn [] = true)
include hempty

theorem keep_getLast_ne (lines : List (List Char)) : (t.keep lines).getLast? ≠ some [] := by
  intro hlast
  rw [keep_last hlast] at hempty
  cases hempty

/-- A line that was kept alone is not joined to anything. -/
theorem splitLines_strip_of_short {text lineEnding : String} (h : (t.keep (splitLines text.toList)).length ≤ 1) :
    splitLines (t.strip text lineEnding).toList = t.keep (splitLines text.toList) := by
  rw [strip_toList]
  have hlast := keep_getLast_ne hempty (splitLines text.toList)
  have hone : ∀ l ∈ t.keep (splitLines text.toList), OneLine l :=
    fun l hl => Text.splitLines_oneLine ((keep_isPrefix t _).subset hl)
  generalize t.keep (splitLines text.toList) = kept at *
  match kept with
  | [] =>
    rw [Text.join_nil]
    rfl
  | [x] =>
    have hx : x ≠ [] := fun h => hlast (by rw [h]; rfl)
    rw [Text.join_singleton, Text.splitLines_of_oneLine (hone x List.mem_cons_self) hx]
  | _ :: _ :: _ => exact absurd h (by simp)

/-- If a text without terminators joins some lines, they become one line. -/
theorem splitLines_strip_of_oneLine {text lineEnding : String} (hline : OneLine lineEnding.toList)
    (h : t.keep (splitLines text.toList) ≠ []) :
    splitLines (t.strip text lineEnding).toList = [(t.strip text lineEnding).toList] := by
  rw [strip_toList]
  have hone : ∀ l ∈ t.keep (splitLines text.toList), OneLine l :=
    fun l hl => Text.splitLines_oneLine ((keep_isPrefix t _).subset hl)
  refine Text.splitLines_of_oneLine (hline.join hone) fun hnil => ?_
  obtain ⟨before, hbefore⟩ := Text.exists_join_eq lineEnding.toList (List.getLast?_eq_some_getLast h)
  rw [hnil] at hbefore
  refine keep_getLast_ne hempty (splitLines text.toList) ?_
  rw [List.getLast?_eq_some_getLast h, (List.append_eq_nil_iff.1 hbefore.symm).2]

/-- Lines that come out again although another text than a terminator joins them are at most one. -/
theorem mem_terminators_of_settled {lines : List (List Char)} {sep : List Char} (hkeep : t.keep lines = lines)
    (hsplit : splitLines (Text.join sep lines) = lines) (hmany : 1 < lines.length) : sep ∈ terminators :=
  Text.mem_terminators_of_splitLines_join (hkeep ▸ keep_getLast_ne hempty lines) hmany hsplit

end

variable {pattern : String} {r : Regex} {t : Trimmer}

theorem finished_iff (hr : Regex.text pattern = .ok r) (ht : ofPattern pattern = .ok t) {lines : List (List Char)} :
    Finished pattern lines ↔ t.keep lines = lines := by
  constructor
  · intro h
    refine keep_of_last fun line hline => Bool.eq_false_iff.2 fun hmatch => ?_
    rcases (recognizes_iff hr ht line).1 hmatch with hblank | hprompt
    · exact (h line hline).1 hblank
    · exact (h line hline).2 hprompt
  · intro h line hline
    rw [← h] at hline
    have hmatch := keep_last hline
    rw [Bool.eq_false_iff, Ne, recognizes_iff hr ht, not_or] at hmatch
    exact hmatch

/-- A stripped text is settled if its lines are kept and make up the text again. -/
theorem settled_iff (hr : Regex.text pattern = .ok r) (ht : ofPattern pattern = .ok t) (text lineEnding : String) :
    (t.strip text lineEnding = text ∧ Finished pattern (splitLines text.toList)) ↔
      t.keep (splitLines text.toList) = splitLines text.toList ∧
        Text.join lineEnding.toList (splitLines text.toList) = text.toList := by
  rw [finished_iff hr ht, and_comm]
  refine and_congr_right fun hkeep => ?_
  rw [← String.toList_inj, strip_toList, hkeep]

/-- Joined lines are not blank, since the last of them is not. -/
theorem not_blankLine_strip (hr : Regex.text pattern = .ok r) (ht : ofPattern pattern = .ok t) {text : String}
    (lineEnding : String) (h : t.keep (splitLines text.toList) ≠ []) : ¬ BlankLine (t.strip text lineEnding).toList := by
  intro hblank
  have hsome := List.getLast?_eq_some_getLast h
  obtain ⟨before, hbefore⟩ := Text.exists_join_eq lineEnding.toList hsome
  rw [strip_toList, hbefore] at hblank
  have hkeep : t.keep (t.keep (splitLines text.toList)) = t.keep (splitLines text.toList) :=
    keep_of_last fun _ => keep_last
  exact ((finished_iff hr ht).2 hkeep _ hsome).1 fun c hc => hblank c (List.mem_append_right before hc)

/-- A settled text that joins two lines or more joins them by a terminator, or to one line that is no prompt. -/
theorem joined_of_settled (hr : Regex.text pattern = .ok r) (ht : ofPattern pattern = .ok t)
    {text lineEnding : String} (hmany : 1 < (t.keep (splitLines text.toList)).length)
    (hkeep : t.keep (splitLines (t.strip text lineEnding).toList) = splitLines (t.strip text lineEnding).toList)
    (hsame : Text.join lineEnding.toList (splitLines (t.strip text lineEnding).toList) =
      (t.strip text lineEnding).toList) :
    lineEnding.toList ∈ terminators ∨
      OneLine lineEnding.toList ∧ ¬ PromptLine pattern (t.strip text lineEnding).toList := by
  have hempty : t.line.matchesIn [] = true := (recognizes_iff hr ht []).2 (.inl nofun)
  by_cases hline : OneLine lineEnding.toList
  · refine .inr ⟨hline, fun hprompt => ?_⟩
    rw [splitLines_strip_of_oneLine hempty hline (List.ne_nil_of_length_pos (Nat.lt_of_succ_lt hmany))] at hkeep
    exact ((finished_iff hr ht).2 hkeep _ List.getLast?_singleton).2 hprompt
  · -- what holds a terminator was joined, so that there are two lines again
    refine .inl (mem_terminators_of_settled hempty hkeep (by rw [hsame]) ?_)
    by_contra hfew
    have hone : OneLine (t.strip text lineEnding).toList := by
      rw [← hsame]
      exact Text.oneLine_join_of_short _ (Nat.le_of_not_lt hfew) fun l hl => Text.splitLines_oneLine hl
    exact hline (OneLine.of_join hmany (strip_toList t text lineEnding ▸ hone))

/-- Lines that are joined to one are settled if it is no prompt. -/
theorem settled_of_oneLine (hr : Regex.text pattern = .ok r) (ht : ofPattern pattern = .ok t)
    {text lineEnding : String} (hnil : t.keep (splitLines text.toList) ≠ []) (hline : OneLine lineEnding.toList)
    (hprompt : ¬ PromptLine pattern (t.strip text lineEnding).toList) :
    t.keep (splitLines (t.strip text lineEnding).toList) = splitLines (t.strip text lineEnding).toList ∧
      Text.join lineEnding.toList (splitLines (t.strip text lineEnding).toList) =
        (t.strip text lineEnding).toList := by
  have hempty : t.line.matchesIn [] = true := (recognizes_iff hr ht []).2 (.inl nofun)
  rw [splitLines_strip_of_oneLine hempty hline hnil, Text.join_singleton]
  refine ⟨(finished_iff hr ht).1 fun line hlast => ?_, rfl⟩
  rw [List.getLast?_singleton, Option.some_inj] at hlast
  rw [← hlast]
  exact ⟨not_blankLine_strip hr ht lineEnding hnil, hprompt⟩

end Trimmer

theorem Text.toList_mem_terminators {lineEnding : String} :
    lineEnding.toList ∈ terminators ↔ lineEnding ∈ ["\n", "\r\n", "\r"] := by
  simp only [terminators, List.mem_cons, List.not_mem_nil, or_false, ← String.toList_inj]
  rfl

/-- **When stripping settles a text.**  Let a profile pass its checks and its trimmer compile.  Stripping a stripped text
changes nothing, and its last line is neither blank nor a bare prompt, exactly if

* the line ending of the profile is a terminator,
* or no two lines were kept, so that nothing was joined,
* or the line ending holds no terminator, and the one line that it makes of those that were kept is no bare prompt. -/
theorem Profile.strip_settled_iff {p : Profile} (hv : p.validate = .ok ()) {t : Trimmer} (ht : p.trimmer = .ok t)
    (text : String) :
    let kept := t.keep (splitLines text.toList)
    let stripped := t.strip text p.lineEnding
    (t.strip stripped p.lineEnding = stripped ∧ Trimmer.Finished p.trimPrompt (splitLines stripped.toList)) ↔
      p.lineEnding ∈ ["\n", "\r\n", "\r"] ∨ kept.length ≤ 1 ∨
        OneLine p.lineEnding.toList ∧ ¬ Trimmer.PromptLine p.trimPrompt stripped.toList := by
  intro kept stripped
  obtain ⟨r, hr⟩ := validate_patterns hv .trimPrompt p.trimPrompt (mem_patternFields.2 (.inr (.inr (.inl ⟨rfl, rfl⟩))))
  replace ht : Trimmer.ofPattern p.trimPrompt = .ok t := Except.mapError_eq_ok ht
  have hempty : t.line.matchesIn [] = true := (Trimmer.recognizes_iff hr ht []).2 (.inl nofun)
  have hkept : t.keep kept = kept := Trimmer.keep_of_last fun _ => Trimmer.keep_last
  have hjoin : stripped.toList = Text.join p.lineEnding.toList kept := Trimmer.strip_toList t text p.lineEnding
  have hsettled (hsplit : splitLines stripped.toList = kept) :
      t.keep (splitLines stripped.toList) = splitLines stripped.toList ∧
        Text.join p.lineEnding.toList (splitLines stripped.toList) = stripped.toList := by
    rw [hsplit, hjoin]
    exact ⟨hkept, rfl⟩
  rw [Trimmer.settled_iff hr ht stripped p.lineEnding, ← Text.toList_mem_terminators]
  constructor
  · rintro ⟨hkeep, hsame⟩
    by_cases hshort : kept.length ≤ 1
    · exact .inr (.inl hshort)
    · exact (Trimmer.joined_of_settled hr ht (Nat.lt_of_not_le hshort) hkeep hsame).imp_right .inr
  · rintro (hterm | hshort | ⟨hline, hprompt⟩)
    · exact hsettled (Trimmer.splitLines_strip hempty text hterm)
    · exact hsettled (Trimmer.splitLines_strip_of_short hempty hshort)
    · by_cases hshort : kept.length ≤ 1
      · exact hsettled (Trimmer.splitLines_strip_of_short hempty hshort)
      have hnil : kept ≠ [] := List.ne_nil_of_length_pos (Nat.lt_of_succ_lt (Nat.lt_of_not_le hshort))
      exact Trimmer.settled_of_oneLine hr ht hnil hline hprompt

/-- A semicolon joins two lines to one that is no prompt. -/
theorem Profile.strip_settled_semicolon :
    let p : Profile := { name := "x", command := "sh", lineEnding := ";" }
    p.validate = .ok () ∧ ∃ t, p.trimmer = .ok t ∧ t.strip "a\n>>> b\n>>> " p.lineEnding = "a;>>> b" ∧
      t.strip (t.strip "a\n>>> b\n>>> " p.lineEnding) p.lineEnding = t.strip "a\n>>> b\n>>> " p.lineEnding := by
  have hp : Profile.validate { name := "x", command := "sh", lineEnding := ";" } = .ok () := rfl
  obtain ⟨r, hr⟩ : ∃ r, Regex.text ">>>" = .ok r := ⟨_, Pattern.Regex.compile_eq rfl rfl (by decide)⟩
  obtain ⟨line, hline, hstrip, hother⟩ : ∃ line, Regex.text (Trimmer.linePattern ">>>") = .ok line ∧
      Trimmer.strip ⟨line⟩ "a\n>>> b\n>>> " ";" = "a;>>> b" ∧ line.matchesIn "a;>>> b".toList = false :=
    ⟨_, Pattern.Regex.compile_eq rfl rfl (by decide), by decide +kernel, by decide +kernel⟩
  have ht : Trimmer.ofPattern ">>>" = .ok ⟨line⟩ := by
    rw [Trimmer.ofPattern, hline]
    rfl
  refine ⟨hp, ⟨line⟩, trimmer_ok hline, hstrip,
    ((strip_settled_iff hp (trimmer_ok hline) _).2 (.inr (.inr ⟨by decide, fun hprompt => ?_⟩))).1⟩
  rw [hstrip] at hprompt
  have hmatch := (Trimmer.recognizes_iff hr ht _).2 (.inr hprompt)
  cases hother.symm.trans hmatch

/-- A line ending of two line feeds is doubled each time, and an empty one makes a bare prompt of two lines. -/
theorem Profile.joined_lines_change :
    let p : Profile := { name := "x", command := "sh", lineEnding := "\n\n" }
    let q : Profile := { name := "x", command := "sh", lineEnding := "" }
    p.validate = .ok () ∧ q.validate = .ok () ∧ ∃ t, p.trimmer = .ok t ∧ q.trimmer = .ok t ∧
      t.strip "a\nb" p.lineEnding = "a\n\nb" ∧
      t.strip (t.strip "a\nb" p.lineEnding) p.lineEnding = "a\n\n\n\nb" ∧
      t.strip ">\n>>" q.lineEnding = ">>>" ∧ t.strip (t.strip ">\n>>" q.lineEnding) q.lineEnding = "" := by
  have hp : Profile.validate { name := "x", command := "sh", lineEnding := "\n\n" } = .ok () := rfl
  have hq : Profile.validate { name := "x", command := "sh", lineEnding := "" } = .ok () := rfl
  have hr : Regex.text (Trimmer.linePattern ">>>") = .ok _ := Pattern.Regex.compile_eq rfl rfl (by decide)
  refine ⟨hp, hq, ⟨_⟩, trimmer_ok hr, trimmer_ok hr, ?_, ?_, ?_, ?_⟩ <;> decide +kernel

end Transcripts
