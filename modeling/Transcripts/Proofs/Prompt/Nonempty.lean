import Transcripts.Proofs.Pattern.Progress
import Transcripts.Proofs.Prompt.Find
import Transcripts.Proofs.Prompt.LineEnding

/-!
# Prompts that are something

A search that succeeds has found at least one byte, if none of the prompts matches the empty text.  The check of a
profile does not see to that: it asks for one prompt that is not empty, and an empty one beside it is searched
for too.  Behind a line ending it does no harm; where prompts may also stand within a line it is found in nothing.
-/
namespace Transcripts

open Transcripts.Pattern (Ast Regex)
open Transcripts.Text (Bytes)

/-! ## Bytes that are shown -/

/-- Nothing but no bytes is shown as no text. -/
theorem Text.run_eq_nil {d : Text.Decoder} {bs : Bytes} (h : d.run bs = []) : d = .idle ∧ bs = [] := by
  induction bs generalizing d with
  | nil =>
    cases d with
    | idle => exact ⟨rfl, rfl⟩
    | waiting value r rs => cases h
  | cons b bs ih =>
    obtain ⟨hstep, hrun⟩ := List.append_eq_nil_iff.1 h
    obtain ⟨hidle, -⟩ := ih hrun
    -- a byte that shows nothing leaves a character open
    have hbegin : (Text.Decoder.begin b).1 = [] → (Text.Decoder.begin b).2 ≠ .idle := by
      unfold Text.Decoder.begin
      split
      · exact nofun
      · exact nofun
      · exact fun _ => nofun
    cases d with
    | idle => exact absurd hidle (hbegin hstep)
    | waiting value r rs =>
      simp only [Text.Decoder.step] at hstep hidle
      split at hstep
      · rename_i hr
        rw [if_pos hr] at hidle
        cases rs with
        | nil => cases hstep
        | cons r' rs => cases hidle
      · cases hstep

theorem Text.shown_eq_empty {bs : Bytes} (h : Text.shown bs = "") : bs = [] := by
  refine (Text.run_eq_nil (d := .idle) ?_).2
  have hlist := congrArg String.toList h
  rwa [Text.shown, String.toList_ofList] at hlist

theorem Text.bytes_eq_nil {s : String} : Text.bytes s = [] ↔ s = "" := by
  constructor
  · intro h
    rw [← Text.shown_bytes s, h]
    rfl
  · rintro rfl
    rfl

/-! ## Prompts that read -/

namespace Prompt

/-- Whatever the prompt matches has at least one byte. -/
def Reads (q : Prompt) : Prop := ∀ bs s e, q.find bs = some (s, e) → s < e

theorem literal_reads {text : String} (h : text ≠ "") : (literal text).Reads := by
  intro bs s e hf
  obtain ⟨i, -, heq⟩ := Option.map_eq_some_iff.1 hf
  cases heq
  have hne : Text.bytes text ≠ [] := fun hnil => h (Text.bytes_eq_nil.1 hnil)
  exact Nat.lt_add_of_pos_right (List.length_pos_iff.2 hne)

/-- The pattern cannot match the empty text. -/
def NeverEmpty (source : String) : Prop :=
  ∀ n, (Pattern.read source.toList >>= Ast.node .bytes { dotAll := true }) = .ok n → n.nullable = false

theorem ofPattern_reads {source : String} {q : Prompt} (h : NeverEmpty source) (hq : ofPattern source = .ok q) :
    q.Reads := by
  obtain ⟨r, hr, rfl⟩ := Except.map_eq_ok hq
  obtain ⟨n, hn, -⟩ := Regex.compile_eq_ok hr
  intro bs s e hf
  exact Regex.output_reads hr hn (h n hn) hf

end Prompt

/-- If one of its prompts is found in nothing, a matcher finds one there. -/
theorem PromptMatcher.exists_find_nil {m : PromptMatcher} {q : Prompt} (hq : q ∈ m.prompts) (hfind : q.find [] ≠ none) :
    ∃ f, m.find [] = some f := by
  obtain ⟨j, hj⟩ := List.getElem?_of_mem hq
  obtain ⟨⟨start, stop⟩, hspan⟩ := Option.ne_none_iff_exists'.1 hfind
  have hmatch : m.MatchAt [] j start stop := ⟨q, hj, hspan⟩
  have hbest := find_best m []
  cases hf : m.find [] with
  | some f => exact ⟨f, rfl⟩
  | none =>
    rw [hf] at hbest
    exact absurd hmatch (hbest j hmatch.index_lt start stop)

namespace Profile

variable {p : Profile}

theorem mem_searchTerms {term : String} :
    term ∈ p.searchTerms ↔ (∃ prompt ∈ p.promptPatterns, p.lineEnding ++ prompt = term) ∨
      (p.allowMatchWithoutNewline = true ∧ term ∈ p.promptPatterns) := by
  unfold searchTerms
  rw [List.mem_append, List.mem_map]
  by_cases h : p.allowMatchWithoutNewline = true
  · simp [h]
  · simp [h]

/-- One of the prompts is not empty. -/
theorem validate_prompts (h : p.validate = .ok ()) : ∃ prompt ∈ p.promptPatterns, prompt ≠ "" := by
  unfold validate at h
  simp only at h
  split at h
  · obtain ⟨u, hthrow, -⟩ := Except.bind_eq_ok h
    cases hthrow
  split at h
  · obtain ⟨u, hthrow, -⟩ := Except.bind_eq_ok h
    cases hthrow
  · rename_i hall
    rw [List.all_eq_true] at hall
    push Not at hall
    obtain ⟨prompt, hmem, hne⟩ := hall
    exact ⟨prompt, hmem, fun hempty => hne (hempty ▸ rfl)⟩

/-- Of the prompts that are texts only one in a list can be empty: a single one is not. -/
theorem empty_mem_promptPatterns (h : p.validate = .ok ()) (hp : p.promptRegex = none) :
    "" ∈ p.promptPatterns ↔ p.prompt = none ∧ "" ∈ p.prompts := by
  obtain ⟨prompt, hmem, hne⟩ := validate_prompts h
  unfold promptPatterns at hmem ⊢
  rw [hp] at hmem ⊢
  cases hsingle : p.prompt with
  | none => simp
  | some single =>
    rw [hsingle, List.mem_singleton] at hmem
    simp [← hmem, Ne.symm hne]

/-- Behind a line ending no search term is empty. -/
theorem empty_mem_searchTerms (hle : p.lineEnding ≠ "") :
    "" ∈ p.searchTerms ↔ p.allowMatchWithoutNewline = true ∧ "" ∈ p.promptPatterns := by
  rw [mem_searchTerms]
  refine or_iff_right ?_
  rintro ⟨prompt, -, hprompt⟩
  have hlist := congrArg String.toList hprompt
  rw [String.toList_append] at hlist
  exact hle (String.toList_eq_nil_iff.1 (List.append_eq_nil_iff.1 hlist).1)

end Profile

end Transcripts
