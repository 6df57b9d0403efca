import Transcripts.Proofs.Pattern.Reading
import Transcripts.Session

/-!
# What is prepared for a run

A session that was made of a profile holds what the profile says: its patterns compiled, and its search terms
in the order in which the profile lists them.
-/
namespace Transcripts

open Transcripts.Pattern (Regex)

/-! ## Matchers -/

namespace PromptMatcher

theorem literal_sources (sources : List String) : (literal sources).sources = sources := by
  induction sources with
  | nil => rfl
  | cons s rest ih => exact congrArg (s :: ·) ih

/-- Texts are refused only for their length. -/
theorem texts_eq_ok {sources : List String} {m : PromptMatcher} :
    texts sources = .ok m ↔ (∀ s ∈ sources, (Text.bytes s).length ≤ Pattern.longestText) ∧ m = literal sources := by
  unfold texts
  by_cases h : ∀ s ∈ sources, (Text.bytes s).length ≤ Pattern.longestText
  · rw [if_pos (by simpa using h)]
    exact ⟨fun hm => ⟨h, (Except.ok.inj hm).symm⟩, fun hm => by rw [hm.2]⟩
  · rw [if_neg (by simpa using h)]
    exact ⟨nofun, fun hm => absurd hm.1 h⟩

/-- Each pattern of a list is one of the prompts, compiled. -/
theorem mapM_ofPattern {sources : List String} {prompts : List Prompt}
    (h : sources.mapM Prompt.ofPattern = .ok prompts) :
    prompts.map Prompt.source = sources ∧ ∀ q ∈ prompts, ∃ source ∈ sources, Prompt.ofPattern source = .ok q := by
  have hall := Except.mapM_eq_ok_iff.1 h
  refine ⟨?_, fun q hq => Except.exists_mem_of_forall₂ hall hq⟩
  clear h
  induction hall with
  | nil => rfl
  | cons hq _ ih =>
    obtain ⟨regex, -, rfl⟩ := Except.map_eq_ok hq
    rw [List.map_cons, ih]
    rfl

theorem regex_eq_ok {sources : List String} {m : PromptMatcher} (h : regex sources = .ok m) :
    m.sources = sources ∧ ∀ q ∈ m.prompts, ∃ source ∈ sources, Prompt.ofPattern source = .ok q := by
  obtain ⟨prompts, hp, rfl⟩ := Except.map_eq_ok h
  exact mapM_ofPattern hp

/-- Patterns make a matcher just if each of them compiles. -/
theorem regex_ok_iff {sources : List String} :
    (∃ m, regex sources = .ok m) ↔ ∀ source ∈ sources, ∃ r, Regex.output source = .ok r := by
  have hprompts : (∃ m, regex sources = .ok m) ↔ ∃ prompts, sources.mapM Prompt.ofPattern = .ok prompts := by
    constructor
    · rintro ⟨m, hm⟩
      obtain ⟨prompts, hp, -⟩ := Except.map_eq_ok hm
      exact ⟨prompts, hp⟩
    · rintro ⟨prompts, hp⟩
      exact ⟨⟨prompts⟩, by rw [regex, hp]; rfl⟩
  rw [hprompts, Except.exists_mapM_eq_ok_iff]
  refine forall₂_congr fun source _ => ?_
  constructor
  · rintro ⟨q, hq⟩
    obtain ⟨r, hr, -⟩ := Except.map_eq_ok hq
    exact ⟨r, hr⟩
  · rintro ⟨r, hr⟩
    exact ⟨.regex source r, by rw [Prompt.ofPattern, hr]; rfl⟩

/-- The matcher for the waits after lines holds the profile's search terms, as patterns or as texts. -/
theorem forLines_eq_ok {p : Profile} {m : PromptMatcher} (h : forLines p = .ok m) :
    m.sources = p.searchTerms ∧
    ((p.usesRegex = true ∧ ∀ q ∈ m.prompts, ∃ source ∈ p.searchTerms, Prompt.ofPattern source = .ok q) ∨
      (p.usesRegex = false ∧ m = literal p.searchTerms)) := by
  unfold forLines at h
  cases hre : p.usesRegex with
  | true =>
    rw [hre, if_pos rfl] at h
    obtain ⟨hs, hmem⟩ := regex_eq_ok (Except.mapError_eq_ok h)
    exact ⟨hs, .inl ⟨rfl, hmem⟩⟩
  | false =>
    rw [hre, if_neg Bool.false_ne_true] at h
    obtain ⟨-, rfl⟩ := texts_eq_ok.1 (Except.mapError_eq_ok h)
    exact ⟨literal_sources _, .inr ⟨rfl, rfl⟩⟩

end PromptMatcher

/-! ## Sessions -/

/-- A session waits for what its profile says, and ends its lines as its profile does. -/
theorem Session.ofProfile_eq_ok {p : Profile} {s : Session} (h : Session.ofProfile p = .ok s) :
    PromptMatcher.forStart p = .ok s.initial ∧ PromptMatcher.forLines p = .ok s.prompts ∧
    s.lineEnding = p.lineEnding := by
  obtain ⟨initial, hi, h⟩ := Except.bind_eq_ok h
  obtain ⟨prompts, hp, h⟩ := Except.bind_eq_ok h
  cases h
  exact ⟨hi, hp, rfl⟩

/-- A session whose prompts are texts looks for the search terms as they are. -/
theorem Session.prompts_of_texts {p : Profile} {s : Session} (hs : Session.ofProfile p = .ok s) (hp : p.promptRegex = none) :
    s.prompts = .literal p.searchTerms := by
  obtain ⟨-, hprompts, -⟩ := Session.ofProfile_eq_ok hs
  rcases (PromptMatcher.forLines_eq_ok hprompts).2 with ⟨hre, -⟩ | ⟨-, hlit⟩
  · rw [Profile.usesRegex, hp] at hre
    cases hre
  · exact hlit

/-- Without patterns a session looks for the profile's search terms, at the start as after a line, and is refused
only if one of them is too long. -/
theorem Session.ofProfile_literal {p : Profile} {s : Session} (hre : p.promptRegex = none) (hip : p.initialPrompt = none) :
    Session.ofProfile p = .ok s ↔ (∀ t ∈ p.searchTerms, (Text.bytes t).length ≤ Pattern.longestText) ∧
      s = ⟨.literal p.searchTerms, .literal p.searchTerms, p.lineEnding⟩ := by
  have husesRegex : p.usesRegex = false := by rw [Profile.usesRegex, hre]; rfl
  have hlines {m : PromptMatcher} : PromptMatcher.forLines p = .ok m ↔
      (∀ t ∈ p.searchTerms, (Text.bytes t).length ≤ Pattern.longestText) ∧ m = .literal p.searchTerms := by
    rw [PromptMatcher.forLines, husesRegex, if_neg Bool.false_ne_true, ← PromptMatcher.texts_eq_ok]
    exact ⟨Except.mapError_eq_ok, fun hm => by rw [hm]; rfl⟩
  have hstart : PromptMatcher.forStart p = PromptMatcher.forLines p := by rw [PromptMatcher.forStart, hip]
  constructor
  · intro h
    obtain ⟨hi, hp, he⟩ := Session.ofProfile_eq_ok h
    obtain ⟨hlength, hprompts⟩ := hlines.1 hp
    cases s
    exact ⟨hlength, Session.mk.injEq .. ▸ ⟨(hlines.1 (hstart ▸ hi)).2, hprompts, he⟩⟩
  · rintro ⟨hlength, rfl⟩
    have hp := hlines.2 ⟨hlength, rfl⟩
    rw [Session.ofProfile, hstart, hp]
    rfl

theorem Session.ofProfile_searchTerms {p : Profile} {s : Session} (h : Session.ofProfile p = .ok s) :
    s.searchTerms = p.searchTerms := by
  obtain ⟨-, hp, -⟩ := Session.ofProfile_eq_ok h
  exact (PromptMatcher.forLines_eq_ok hp).1

end Transcripts
