import Transcripts.Profile.Check
import Transcripts.Proofs.Pattern.Opening
import Transcripts.Proofs.Prompt.Find
import Transcripts.Proofs.Prompt.Prepared

/-!
# Prompts behind a line ending

Unless a profile lets prompts stand within a line, each search term is a prompt behind the line ending.  For
prompts that are texts that is all there is to say: what matches starts with the line ending.  A pattern is
read together with the line ending as one text, so that the line ending becomes part of its first choice
only.  A pattern that is no choice is found behind a line ending, and nowhere else.
-/
namespace Transcripts

open Transcripts.Pattern (Ast Regex isPlain spelled)
open Transcripts.Text (Basic Bytes)

/-! ## Prompts -/

namespace Prompt

/-- Whatever the prompt matches starts with `key`. -/
def OpensWith (key : Bytes) (q : Prompt) : Prop :=
  ∀ bs s e, q.find bs = some (s, e) → key <+: (bs.take e).drop s

theorem literal_opensWith (pre text : String) : (literal (pre ++ text)).OpensWith (Text.bytes pre) := by
  intro bs s e h
  simp only [Prompt.find, Option.map_eq_some_iff, Prod.mk.injEq] at h
  obtain ⟨i, hi, rfl, rfl⟩ := h
  obtain ⟨-, hoccurs, -⟩ := Text.findSub_eq_some_iff.1 hi
  rw [List.drop_take, Nat.add_sub_cancel_left, List.prefix_take_iff, Text.bytes_append, List.length_append]
  rw [Text.bytes_append] at hoccurs
  exact ⟨(List.prefix_append _ _).trans hoccurs, Nat.le_add_right _ _⟩

theorem ofPattern_opensWith {pre text : String} {a : Ast} {q : Prompt} (hne : pre.toList ≠ [])
    (hpre : ∀ c ∈ pre.toList, isPlain c = true ∧ Basic c) (ha : Pattern.read text.toList = .ok a)
    (hone : ∀ x y, a ≠ .alt x y) (hq : ofPattern (pre ++ text) = .ok q) : q.OpensWith (Text.bytes pre) := by
  obtain ⟨r, hr, rfl⟩ := Except.map_eq_ok hq
  exact fun bs s e h => Regex.output_opens hne hpre ha hone hr h

end Prompt

theorem PromptMatcher.find_opensWith {m : PromptMatcher} {key bs : Bytes} {f : Found}
    (hm : ∀ q ∈ m.prompts, q.OpensWith key) (h : m.find bs = some f) : key <+: (bs.take f.stop).drop f.start := by
  obtain ⟨⟨q, hq, hf⟩, -⟩ := PromptMatcher.find_eq_some_iff.1 h
  exact hm q (List.mem_of_getElem? hq) bs _ _ hf

/-! ## Profiles -/

namespace Profile

/-- The patterns of a profile that passes its checks are patterns. -/
theorem validate_patterns {p : Profile} (h : p.validate = .ok ()) :
    ∀ field pattern, (field, pattern) ∈ p.patternFields → ∃ r, Regex.text pattern = .ok r := by
  intro field pattern hmem
  unfold validate at h
  simp only at h
  split at h
  · obtain ⟨u, hthrow, -⟩ := Except.bind_eq_ok h; cases hthrow
  split at h
  · obtain ⟨u, hthrow, -⟩ := Except.bind_eq_ok h; cases hthrow
  obtain ⟨u, hall, -⟩ := Except.bind_eq_ok h
  have hcheck := Except.forM_eq_ok hall _ hmem
  simp only at hcheck
  unfold checkPattern at hcheck
  split at hcheck
  · rename_i r hr; exact ⟨r, hr⟩
  · cases hcheck

/-- Each search term is a prompt behind the line ending, if no prompt may stand within a line. -/
theorem searchTerms_eq {p : Profile} (h : p.allowMatchWithoutNewline = false) :
    p.searchTerms = p.promptPatterns.map (p.lineEnding ++ ·) := by
  rw [searchTerms, h, if_neg Bool.false_ne_true, List.append_nil]

theorem searchTerms_regex {p : Profile} {pattern : String} (h : p.allowMatchWithoutNewline = false)
    (hp : p.promptRegex = some pattern) : p.searchTerms = [p.lineEnding ++ pattern] := by
  rw [searchTerms_eq h, promptPatterns, hp]
  rfl

theorem read_promptRegex {p : Profile} {pattern : String} (h : p.validate = .ok ()) (hp : p.promptRegex = some pattern) :
    ∃ a, Pattern.read pattern.toList = .ok a := by
  have hmem : (PatternField.promptRegex, pattern) ∈ p.patternFields := by
    simp only [patternFields, hp, List.filterMap_cons, Option.map_some]
    exact List.mem_cons_self
  obtain ⟨r, hr⟩ := validate_patterns h _ _ hmem
  obtain ⟨a, ha, -⟩ := Except.bind_eq_ok hr
  exact ⟨a, ha⟩

end Profile

namespace Session

variable {p : Profile} {s : Session}

theorem ofPattern_promptRegex {pattern : String} (hs : Session.ofProfile p = .ok s)
    (hnl : p.allowMatchWithoutNewline = false) (hp : p.promptRegex = some pattern) :
    (∀ q ∈ s.prompts.prompts, Prompt.ofPattern (p.lineEnding ++ pattern) = .ok q) ∧ s.prompts.prompts ≠ [] := by
  obtain ⟨-, hprompts, -⟩ := Session.ofProfile_eq_ok hs
  obtain ⟨hsources, hmem⟩ := PromptMatcher.forLines_eq_ok hprompts
  rw [Profile.searchTerms_regex hnl hp] at hsources hmem
  refine ⟨fun q hq => ?_, fun hnil => ?_⟩
  · rcases hmem with ⟨-, hmem⟩ | ⟨hre, -⟩
    · obtain ⟨source, hsource, hq⟩ := hmem q hq
      rwa [List.mem_singleton.1 hsource] at hq
    · rw [Profile.usesRegex, hp] at hre
      cases hre
  · rw [PromptMatcher.sources, hnil] at hsources
    cases hsources

/-- Whatever the prompts after a line match starts with the line ending. -/
theorem prompts_opensWith (hv : p.validate = .ok ()) (hs : Session.ofProfile p = .ok s)
    (hnl : p.allowMatchWithoutNewline = false) (hne : p.lineEnding.toList ≠ [])
    (hle : ∀ c ∈ p.lineEnding.toList, isPlain c = true ∧ Basic c)
    (hone : ∀ pattern, p.promptRegex = some pattern → ∀ a b, Pattern.read pattern.toList ≠ .ok (.alt a b)) :
    ∀ q ∈ s.prompts.prompts, q.OpensWith (Text.bytes p.lineEnding) := by
  intro q hq
  cases hp : p.promptRegex with
  | some pattern =>
    obtain ⟨a, ha⟩ := Profile.read_promptRegex hv hp
    exact Prompt.ofPattern_opensWith hne hle ha (fun x y hxy => hone pattern hp x y (hxy ▸ ha))
      ((ofPattern_promptRegex hs hnl hp).1 q hq)
  | none =>
    rw [prompts_of_texts hs hp, Profile.searchTerms_eq hnl, PromptMatcher.literal] at hq
    obtain ⟨term, hterm, rfl⟩ := List.mem_map.1 hq
    obtain ⟨text, -, rfl⟩ := List.mem_map.1 hterm
    exact Prompt.literal_opensWith p.lineEnding text

end Session

end Transcripts
