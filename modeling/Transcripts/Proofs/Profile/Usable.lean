import Transcripts.Proofs.Pattern.Cost
import Transcripts.Proofs.Pattern.Escaped
import Transcripts.Proofs.Pattern.Output
import Transcripts.Proofs.Pattern.Wrapped
import Transcripts.Proofs.Prompt.Nonempty
import Transcripts.Run

/-!
# Profiles that can be used

The checks of a profile compile its patterns as they are.  A session and a trimmer compile other patterns, with a line
ending in front or within the pattern for a line.  What passes the checks compiles there, too, up to the limits for
patterns, with one exception: a pattern to trim that ends in a comment, which takes the rest of the line.
-/
namespace Transcripts

open Transcripts.Pattern

/-! ## Matchers -/

theorem PromptMatcher.compile_ok {p : Profile} {field : PatternField} {sources : List String}
    (h : ∀ source ∈ sources, ∃ r, Regex.output source = .ok r) : ∃ m, compile p field sources = .ok m := by
  obtain ⟨m, hm⟩ := regex_ok_iff.2 h
  exact ⟨m, by rw [compile, hm]; rfl⟩

/-! ## Trimmers -/

/-- The usual prompt makes a pattern for lines. -/
theorem Pattern.Regex.text_usual : ∃ r, Regex.text (Trimmer.linePattern ">>>") = .ok r :=
  Regex.compile_ok rfl rfl (by decide)

/-- The usual prompt makes a trimmer. -/
theorem Profile.trimmer_usual {p : Profile} (h : p.trimPrompt = ">>>") : ∃ t, p.trimmer = .ok t := by
  obtain ⟨r, hr⟩ := Regex.text_usual
  exact ⟨⟨r⟩, by rw [trimmer, h, Trimmer.ofPattern, hr]; rfl⟩

namespace Pattern

theorem lineAst_hasMeaning {a : Ast} {gs : Flags} (h : a.HasMeaning .text {} gs) :
    (lineAst a).HasMeaning .text {} {} := by
  have hanchor (x : Anchor) : (Ast.anchor x).HasMeaning .text {} {} := ⟨_, rfl⟩
  have hblanks : blanks.HasMeaning .text {} {} := Ast.hasMeaning_repetition.2 ⟨_, rfl⟩
  have hgroup : (Ast.group [] a).HasMeaning .text {} {} := Ast.hasMeaning_group.2 ⟨rfl, gs, h⟩
  have hend : (Ast.concat [blanks, .anchor .lineEnd]).HasMeaning .text {} {} :=
    Ast.hasMeaning_seq.2 ⟨{}, hblanks, hanchor .lineEnd⟩
  have hline : (Ast.concat [.group [] a, blanks, .anchor .lineEnd]).HasMeaning .text {} {} :=
    Ast.hasMeaning_seq.2 ⟨{}, hgroup, hend⟩
  refine Ast.hasMeaning_alt.2 ⟨{}, Ast.hasMeaning_seq.2 ⟨{}, hanchor .lineStart, ?_⟩,
    Ast.hasMeaning_seq.2 ⟨{}, hanchor .lineStart, hend⟩⟩
  exact Ast.hasMeaning_seq.2 ⟨{}, hblanks, hline⟩

/-- A pattern for text can be made one for lines, unless it ends in a comment. -/
theorem linePattern_limit {pattern : String} {r : Regex} (h : Regex.text pattern = .ok r)
    (hcomment : ¬ EndsInComment pattern.toList) : FailsOnlyByLimit (Regex.text (Trimmer.linePattern pattern)) := by
  obtain ⟨a, gs, ha, hmeaning⟩ := Regex.text_eq_ok h
  rcases read_linePattern ha with ⟨-, hread⟩ | ⟨hends, -⟩
  · by_cases hdepth : (lineAst a).depth .none > nestingLimit
    · rw [if_pos hdepth] at hread
      exact Regex.compile_nesting hread
    · rw [if_neg hdepth] at hread
      exact Regex.compile_limit hread (lineAst_hasMeaning hmeaning)
  · exact absurd hends hcomment

theorem linePattern_unclosed {pattern : String} {r : Regex} (h : Regex.text pattern = .ok r)
    (hcomment : EndsInComment pattern.toList) :
    Regex.text (Trimmer.linePattern pattern) = .error .groupUnclosed ∧ '#' ∈ pattern.toList := by
  obtain ⟨a, gs, ha, -⟩ := Regex.text_eq_ok h
  rcases read_linePattern ha with ⟨hends, -⟩ | ⟨-, hhash, hread⟩
  · exact absurd hcomment hends
  · refine ⟨?_, hhash⟩
    rw [Regex.text, Regex.compile, hread]
    rfl

end Pattern

/-! ## Profiles -/

namespace Profile

variable {p : Profile}

/-- The patterns for output that a session compiles; a prompt that is a text has a pattern, too. -/
def outputPatterns (p : Profile) : List String :=
  p.initialPrompt.toList ++ if p.usesRegex then p.searchTerms else p.searchTerms.map escape

theorem mem_patternFields {field : PatternField} {pattern : String} :
    (field, pattern) ∈ p.patternFields ↔
      (p.promptRegex = some pattern ∧ .promptRegex = field) ∨ (p.initialPrompt = some pattern ∧ .initialPrompt = field) ∨
      (p.trimPrompt = pattern ∧ .trimPrompt = field) ∨ (p.stripPattern = some pattern ∧ .stripPattern = field) := by
  simp [patternFields]

/-- A session is made if its patterns compile. -/
theorem session_ok (h : ∀ source ∈ p.outputPatterns, ∃ r, Regex.output source = .ok r) :
    ∃ s, Session.ofProfile p = .ok s := by
  have hlines : ∃ m, PromptMatcher.forLines p = .ok m := by
    unfold PromptMatcher.forLines
    by_cases hre : p.usesRegex = true
    · rw [if_pos hre]
      refine PromptMatcher.compile_ok fun source hs => h source ?_
      rw [outputPatterns, if_pos hre]
      exact List.mem_append_right _ hs
    · rw [if_neg hre]
      have hshort : ∀ t ∈ p.searchTerms, (Text.bytes t).length ≤ longestText := by
        intro t ht
        have hmem : escape t ∈ p.outputPatterns := by
          rw [outputPatterns, if_neg hre]
          exact List.mem_append_right _ (List.mem_map_of_mem ht)
        obtain ⟨r, hr⟩ := h _ hmem
        exact Regex.output_escape_ok.1 ⟨r, hr⟩
      rw [PromptMatcher.texts_eq_ok.2 ⟨hshort, rfl⟩]
      exact ⟨_, rfl⟩
  obtain ⟨prompts, hprompts⟩ := hlines
  have hstart : ∃ m, PromptMatcher.forStart p = .ok m := by
    unfold PromptMatcher.forStart
    cases hi : p.initialPrompt with
    | none => exact ⟨prompts, hprompts⟩
    | some pattern =>
      refine PromptMatcher.compile_ok fun source hs => h source ?_
      rw [outputPatterns, hi]
      exact List.mem_append_left _ hs
  obtain ⟨initial, hinitial⟩ := hstart
  exact ⟨_, by rw [Session.ofProfile, hinitial, hprompts]; rfl⟩

/-- The patterns of a session compile if the profile passes its checks. -/
theorem outputPatterns_limit (hv : p.validate = .ok ())
    (hle : p.lineEnding = "\n" ∨ p.lineEnding = "\r\n" ∨ p.lineEnding = "\r")
    {source : String} (hs : source ∈ p.outputPatterns) : FailsOnlyByLimit (Regex.output source) := by
  have hplain : p.lineEnding.toList.all isPlain = true := by
    rcases hle with hle | hle | hle <;> rw [hle] <;> rfl
  rw [List.all_eq_true] at hplain
  have hbare {field : PatternField} {pattern : String} (hmem : (field, pattern) ∈ p.patternFields) :
      FailsOnlyByLimit (Regex.output pattern) := by
    obtain ⟨r, hr⟩ := validate_patterns hv field pattern hmem
    have := Regex.output_limit hr "" nofun
    rwa [String.empty_append] at this
  rcases List.mem_append.1 hs with hi | hterm
  · exact hbare (mem_patternFields.2 (.inr (.inl ⟨Option.mem_toList.1 hi, rfl⟩)))
  · by_cases hre : p.usesRegex = true
    · rw [if_pos hre] at hterm
      obtain ⟨pattern, hp⟩ := Option.isSome_iff_exists.1 hre
      have hpatterns : p.promptPatterns = [pattern] := by rw [promptPatterns, hp]
      have hmem : (PatternField.promptRegex, pattern) ∈ p.patternFields := mem_patternFields.2 (.inl ⟨hp, rfl⟩)
      obtain ⟨r, hr⟩ := validate_patterns hv _ _ hmem
      rcases mem_searchTerms.1 hterm with ⟨prompt, hprompt, rfl⟩ | ⟨-, hprompt⟩
      · rw [hpatterns, List.mem_singleton] at hprompt
        subst hprompt
        exact Regex.output_limit hr p.lineEnding hplain
      · rw [hpatterns, List.mem_singleton] at hprompt
        subst hprompt
        exact hbare hmem
    · rw [if_neg hre] at hterm
      obtain ⟨t, -, rfl⟩ := List.mem_map.1 hterm
      exact Regex.output_escape_limit t

theorem trimmer_ok {r : Regex} (h : Regex.text (Trimmer.linePattern p.trimPrompt) = .ok r) :
    p.trimmer = .ok ⟨r⟩ := by
  rw [trimmer, Trimmer.ofPattern, h]
  rfl

/-- **What passes the checks can be used.** A profile that passes its checks and ends its lines as usual makes a session
and a trimmer, up to the limits for the size and the depth of patterns, unless the pattern to trim ends in a comment.  A
comment takes the parenthesis that the trimmer writes behind the pattern, so that there is none to close the group. -/
theorem validate_usable (hv : p.validate = .ok ())
    (hle : p.lineEnding = "\n" ∨ p.lineEnding = "\r\n" ∨ p.lineEnding = "\r") :
    ((∃ s, Session.ofProfile p = .ok s) ∨
      ∃ source ∈ p.outputPatterns, ∃ f, Regex.output source = .error f ∧ f.IsLimit) ∧
    (¬ EndsInComment p.trimPrompt.toList →
      (∃ t, p.trimmer = .ok t) ∨ ∃ f, Regex.text (Trimmer.linePattern p.trimPrompt) = .error f ∧ f.IsLimit) ∧
    (EndsInComment p.trimPrompt.toList →
      Regex.text (Trimmer.linePattern p.trimPrompt) = .error .groupUnclosed ∧
      p.trimmer = .error (.invalidPattern p.name .trimPrompt)) ∧
    ('#' ∉ p.trimPrompt.toList → ¬ EndsInComment p.trimPrompt.toList) := by
  obtain ⟨r, hr⟩ := validate_patterns hv .trimPrompt p.trimPrompt (mem_patternFields.2 (.inr (.inr (.inl ⟨rfl, rfl⟩))))
  refine ⟨?_, fun hcomment => ?_, fun hcomment => ?_, fun hhash hcomment => hhash (linePattern_unclosed hr hcomment).2⟩
  · by_cases hall : ∀ source ∈ p.outputPatterns, ∃ r, Regex.output source = .ok r
    · exact .inl (session_ok hall)
    · obtain ⟨source, hs, hfails⟩ := not_forall₂.1 hall
      rcases (outputPatterns_limit hv hle hs).ok_or with ⟨r, hok⟩ | hfault
      · exact absurd ⟨r, hok⟩ hfails
      · exact .inr ⟨source, hs, hfault⟩
  · rcases (linePattern_limit hr hcomment).ok_or with ⟨line, hline⟩ | hfault
    · exact .inl ⟨_, trimmer_ok hline⟩
    · exact .inr hfault
  · obtain ⟨hline, -⟩ := linePattern_unclosed hr hcomment
    refine ⟨hline, ?_⟩
    rw [trimmer, Trimmer.ofPattern, hline]
    rfl

/-- A profile with a pattern for prompts and one for the first prompt. -/
theorem validate_usable_dollar :
    let p : Profile := { name := "sh", command := "sh", promptRegex := some "[$] ", initialPrompt := some "[$] $" }
    p.validate = .ok () ∧ p.lineEnding = "\n" ∧ (∃ s, Session.ofProfile p = .ok s) ∧
    ¬ EndsInComment p.trimPrompt.toList ∧ ∃ t, p.trimmer = .ok t := by
  intro p
  have hv : Profile.validate
      { name := "sh", command := "sh", promptRegex := some "[$] ", initialPrompt := some "[$] $" } = .ok () := rfl
  obtain ⟨hsession, htrim, -, hhash⟩ := validate_usable hv (.inl rfl)
  have hcomment := hhash (by decide)
  refine ⟨hv, rfl, ?_, hcomment, ?_⟩
  · rcases hsession with hsession | ⟨source, hs, f, hf, -⟩
    · exact hsession
    have hsources : ∀ source ∈ p.outputPatterns, (Regex.output source).toOption.isSome = true := by decide
    have := hsources source hs
    rw [hf] at this
    cases this
  · rcases htrim hcomment with htrim | ⟨f, hf, -⟩
    · exact htrim
    obtain ⟨r, hr⟩ := Regex.text_usual
    cases hr.symm.trans hf

/-- A comment at the end of the pattern to trim. -/
theorem comment_closes_no_group :
    let p : Profile := { name := "x", command := "sh", trimPrompt := "(?x)>>> # prompt" }
    p.validate = .ok () ∧ p.lineEnding = "\n" ∧
    Regex.text (Trimmer.linePattern p.trimPrompt) = .error .groupUnclosed ∧
    p.trimmer = .error (.invalidPattern "x" .trimPrompt) :=
  ⟨rfl, rfl, rfl, rfl⟩

end Profile

end Transcripts
