import Transcripts.Channel.Child
import Transcripts.Channel.Script
import Transcripts.Proofs.Prompt.Nonempty
import Transcripts.Proofs.Stream.Account

/-!
# What the waits of a session find

Whatever channel a session has, what a wait of it finds is what its prompts find in the output of some stream
(`Channel.Streamed`).  So what is known of the prompts of a profile is known of every wait: where the prompt stands
(`prompt_follows_line_ending`), and whether it is anything at all (`prompt_is_something`).
-/
namespace Transcripts

open Transcripts.Pattern (Ast isPlain spelled)
open Transcripts.Text (Basic Bytes)

/-! ## Channels -/

/-- Whatever a wait of a channel finds, a wait of some stream finds too. -/
def Channel.Streamed {σ : Type} (c : Channel σ) : Prop :=
  ∀ m t st, ∃ x : Stream, (c.await m t st).1 = (x.await m t).1.result

theorem Script.channel_streamed (script : Script) : script.channel.Streamed := fun _ _ st => ⟨st.stream, rfl⟩

theorem Child.awaitFrom_streamed (m : PromptMatcher) (t : Timeout) (st : Child.State) (stop : Nat) :
    ∀ (fuel length : Nat) (far : Machine), ∃ x : Stream,
      (Child.awaitFrom m t st stop fuel length far).1 = (x.await m t).1 := by
  intro fuel
  induction fuel with
  | zero => intro length far; exact ⟨_, rfl⟩
  | succ fuel ih =>
    intro length far
    rw [Child.awaitFrom]
    simp only
    split
    · exact ⟨_, rfl⟩
    · exact ih _ _

theorem Child.channel_streamed : Child.channel.Streamed := by
  intro m t st
  obtain ⟨x, hx⟩ := Child.awaitFrom_streamed m t st _ Child.waits 4 st.machine
  exact ⟨x, congrArg Outcome.result hx⟩

/-! ## Streams -/

/-- The text that a wait hands out as its prompt is what the search finds in the output that it has read. -/
theorem Stream.await_matched {s : Stream} {m : PromptMatcher} {t : Timeout} {found : PromptMatch}
    (h : (s.await m t).1.result = .ok found) :
    ∃ bs f, m.find bs = some f ∧ found.matched = Text.shown ((bs.take f.stop).drop f.start) := by
  cases hx : (s.await m t).1 with
  | taken before matched index =>
    rw [hx] at h
    cases h
    obtain ⟨f, hf, -, rfl, -⟩ := (await_reports s m t).taken before matched index hx
    exact ⟨_, f, hf, rfl⟩
  | timedOut | endOfStream | fault | endless | beyondClock =>
    rw [hx] at h
    cases h

/-- A wait whose prompts all start with a text finds what starts with it. -/
theorem Stream.await_opensWith {s : Stream} {m : PromptMatcher} {t : Timeout} {pre : String} {found : PromptMatch}
    (hm : ∀ q ∈ m.prompts, q.OpensWith (Text.bytes pre)) (h : (s.await m t).1.result = .ok found) :
    pre.toList <+: found.matched.toList := by
  obtain ⟨bs, f, hf, hmatched⟩ := await_matched h
  obtain ⟨rest, hrest⟩ := PromptMatcher.find_opensWith hm hf
  rw [hmatched, ← hrest, Text.shown, String.toList_ofList, Text.bytes, Text.decode_encode_append]
  exact List.prefix_append _ _

/-- A wait for prompts that read takes at least one byte. -/
theorem Stream.await_reads {s : Stream} {m : PromptMatcher} {t : Timeout} {found : PromptMatch}
    (hm : ∀ q ∈ m.prompts, q.Reads) (h : (s.await m t).1.result = .ok found) : found.matched ≠ "" := by
  obtain ⟨bs, f, hf, hmatched⟩ := await_matched h
  intro hempty
  have hnone := Text.shown_eq_empty (hmatched.symm.trans hempty)
  have hspan := PromptMatcher.find_mem hf
  obtain ⟨⟨q, hq, hfind⟩, -⟩ := PromptMatcher.find_eq_some_iff.1 hf
  have hlt := hm q (List.mem_of_getElem? hq) bs _ _ hfind
  have hlen := congrArg List.length hnone
  rw [List.length_drop, List.length_take, List.length_nil] at hlen
  omega

/-- A wait for prompts of which one is found in nothing takes nothing from output in which nothing is left. -/
theorem Stream.await_nothing {s : Stream} {m : PromptMatcher} {t : Timeout} {q : Prompt} (ht : s.inClock t)
    (hq : q ∈ m.prompts) (hfind : q.find [] ≠ none) (hs : s.buffer = []) :
    ∃ index, (s.await m t).1 = .taken [] [] index := by
  obtain ⟨f, hf⟩ := PromptMatcher.exists_find_nil hq hfind
  rw [← hs] at hf
  refine ⟨f.index, ?_⟩
  rw [(await_of_found ht hf).1, take, hs]
  simp

/-! ## Sessions -/

namespace Session

variable {p : Profile} {s : Session}

/-- The session of a profile and what a wait of it finds, if both can be worked out. -/
theorem exists_found {σ : Type} {c : Channel σ} {t : Timeout} {st : σ} {text : String}
    (h : ((ofProfile p).toOption.bind fun s => (s.awaitPrompt c t st).1.toOption.map (·.matched)) = some text) :
    ∃ s found, ofProfile p = .ok s ∧ (s.awaitPrompt c t st).1 = .ok found ∧ found.matched = text := by
  cases hs : ofProfile p with
  | error f => rw [hs] at h; cases h
  | ok s =>
    rw [hs] at h
    replace h : (s.awaitPrompt c t st).1.toOption.map (·.matched) = some text := h
    cases hfound : (s.awaitPrompt c t st).1 with
    | error f => rw [hfound] at h; cases h
    | ok found => rw [hfound] at h; cases h; exact ⟨s, found, rfl, hfound, rfl⟩

/-- **Where a prompt is found.**  Let no prompt be allowed to stand within a line, and let lines end in a line
feed, or in a carriage return and a line feed.

* If the prompts are a pattern, it is read with the line ending in front of its first choice, and of no other.
* If the prompts are texts, or a pattern that is no choice, then whatever a wait after a line finds starts with
  the line ending. -/
theorem prompt_follows_line_ending (hv : p.validate = .ok ()) (hs : Session.ofProfile p = .ok s)
    (hnl : p.allowMatchWithoutNewline = false) (hle : p.lineEnding = "\n" ∨ p.lineEnding = "\r\n") :
    (∀ pattern, p.promptRegex = some pattern → ∃ first rest,
      Pattern.read pattern.toList = .ok (Ast.choice (Ast.concat first :: rest)) ∧
      Pattern.read (p.lineEnding ++ pattern).toList =
        .ok (Ast.choice (Ast.concat (spelled p.lineEnding.toList ++ first) :: rest))) ∧
    ((∀ pattern, p.promptRegex = some pattern → ∀ a b, Pattern.read pattern.toList ≠ .ok (.alt a b)) →
      ∀ {σ : Type} (c : Channel σ), c.Streamed → ∀ (t : Timeout) (st : σ) (found : PromptMatch),
        (s.awaitPrompt c t st).1 = .ok found → p.lineEnding.toList <+: found.matched.toList) := by
  have hne : p.lineEnding.toList ≠ [] := by rcases hle with h | h <;> rw [h] <;> decide
  have hplain : ∀ c ∈ p.lineEnding.toList, isPlain c = true ∧ Basic c := by
    intro c hc
    rcases hle with h | h <;> rw [h] at hc
    · rw [List.mem_singleton.1 (show c ∈ ['\n'] from hc)]
      decide
    · rcases List.mem_pair.1 (show c ∈ ['\r', '\n'] from hc) with rfl | rfl <;> decide
  refine ⟨fun pattern hp => ?_, fun hone σ c hc t st found hfound => ?_⟩
  · obtain ⟨a, ha⟩ := Profile.read_promptRegex hv hp
    obtain ⟨hprompts, hsome⟩ := ofPattern_promptRegex hs hnl hp
    obtain ⟨q, rest, hq⟩ := List.exists_cons_of_ne_nil hsome
    obtain ⟨r, hr, -⟩ := Except.map_eq_ok (hprompts q (hq ▸ List.mem_cons_self))
    obtain ⟨b, hb, -⟩ := Except.bind_eq_ok hr
    rw [String.toList_append] at hb ⊢
    obtain ⟨first, rest, rfl, rfl⟩ := Pattern.read_behind (fun c hc => (hplain c hc).1) ha hb
    exact ⟨first, rest, ha, hb⟩
  · obtain ⟨x, hx⟩ := hc s.prompts t st
    exact Stream.await_opensWith (prompts_opensWith hv hs hnl hne hplain hone) (hx.symm.trans hfound)

/-- A prompt that is a pattern, behind a line. -/
theorem prompt_follows_line_ending_dollar :
    let p : Profile := { name := "sh", command := "sh", promptRegex := some "[$] " }
    let script : Script := { banner := [⟨.send (.data (Text.bytes "1\n$ ")), 0⟩] }
    ∃ s found, Session.ofProfile p = .ok s ∧
      (s.awaitPrompt script.channel (.seconds 1) script.start).1 = .ok found ∧ found.matched = "\n$ " ∧
      p.lineEnding.toList <+: found.matched.toList := by
  intro p script
  have hmatched : ((ofProfile p).toOption.bind fun s =>
      (s.awaitPrompt script.channel (.seconds 1) script.start).1.toOption.map (·.matched)) = some "\n$ " := by
    decide +kernel
  obtain ⟨s, found, hs, hfound, htext⟩ := exists_found hmatched
  have hv : Profile.validate { name := "sh", command := "sh", promptRegex := some "[$] " } = .ok () := rfl
  have hread : Pattern.read "[$] ".toList =
      .ok (.seq (.brackets false (.char ⟨'$', false⟩)) (.char ⟨' ', false⟩)) := rfl
  refine ⟨s, found, hs, hfound, htext, ?_⟩
  refine (prompt_follows_line_ending hv hs rfl (.inl rfl)).2 (fun pattern hp a b hab => ?_) script.channel
    (Script.channel_streamed script) (.seconds 1) script.start found hfound
  cases hp
  cases hread.symm.trans hab

/-- The second choice of a pattern is found within a line: the line ending is part of the first only. -/
theorem choice_found_within_line :
    let p : Profile := { name := "sh", command := "sh", promptRegex := some "[$] |[#] " }
    let script : Script := { banner := [⟨.send (.data (Text.bytes "# ")), 0⟩, ⟨.send .eof, 0⟩] }
    p.validate = .ok () ∧ p.allowMatchWithoutNewline = false ∧ p.lineEnding = "\n" ∧
    ∃ s found, Session.ofProfile p = .ok s ∧
      (s.awaitPrompt script.channel (.seconds 1) script.start).1 = .ok found ∧ found.matched = "# " ∧
      ¬ p.lineEnding.toList <+: found.matched.toList := by
  intro p script
  have hmatched : ((ofProfile p).toOption.bind fun s =>
      (s.awaitPrompt script.channel (.seconds 1) script.start).1.toOption.map (·.matched)) = some "# " := by
    decide +kernel
  obtain ⟨s, found, hs, hfound, htext⟩ := exists_found hmatched
  have hv : Profile.validate { name := "sh", command := "sh", promptRegex := some "[$] |[#] " } = .ok () := rfl
  exact ⟨hv, rfl, rfl, s, found, hs, hfound, htext, by rw [htext]; decide⟩

theorem awaitPrompt_reads (hm : ∀ q ∈ s.prompts.prompts, q.Reads) {σ : Type} (c : Channel σ) (hc : c.Streamed)
    (t : Timeout) (st : σ) (found : PromptMatch) (h : (s.awaitPrompt c t st).1 = .ok found) :
    found.matched ≠ "" := by
  obtain ⟨x, hx⟩ := hc s.prompts t st
  exact Stream.await_reads hm (hx.symm.trans h)

/-- **A prompt that is found is something**, where no prompt matches the empty text.  Let a profile pass its
checks and let its line ending not be empty.

* If the prompts are texts, each wait after a line that succeeds has found at least one byte, unless prompts may
  stand within a line and the list of prompts, being in force, has an empty one.
* If the prompts are a pattern, each wait that succeeds has found at least one byte as long as none of the search
  terms can match the empty text.
* In the excepted case, and if a pattern is found in nothing, a wait succeeds with nothing whenever no output is
  left, also before there is any. -/
theorem prompt_is_something (hv : p.validate = .ok ()) (hs : Session.ofProfile p = .ok s) (hle : p.lineEnding ≠ "") :
    (p.promptRegex = none → ¬ (p.allowMatchWithoutNewline = true ∧ p.prompt = none ∧ "" ∈ p.prompts) →
      ∀ {σ : Type} (c : Channel σ), c.Streamed → ∀ (t : Timeout) (st : σ) (found : PromptMatch),
        (s.awaitPrompt c t st).1 = .ok found → found.matched ≠ "") ∧
    (p.promptRegex ≠ none → (∀ term ∈ p.searchTerms, Prompt.NeverEmpty term) →
      ∀ {σ : Type} (c : Channel σ), c.Streamed → ∀ (t : Timeout) (st : σ) (found : PromptMatch),
        (s.awaitPrompt c t st).1 = .ok found → found.matched ≠ "") ∧
    ((p.promptRegex = none ∧ p.allowMatchWithoutNewline = true ∧ p.prompt = none ∧ "" ∈ p.prompts) ∨
        (∃ q ∈ s.prompts.prompts, q.find [] ≠ none) →
      ∀ (script : Script) (t : Timeout) (st : Script.State), st.stream.inClock t → st.stream.buffer = [] →
        ∃ index, (s.awaitPrompt script.channel t st).1 = .ok ⟨"", "", index⟩) := by
  refine ⟨fun hp hexcept => ?_, fun hp hterms => ?_, fun hempty => ?_⟩
  · rw [← Profile.empty_mem_promptPatterns hv hp, ← Profile.empty_mem_searchTerms hle] at hexcept
    refine awaitPrompt_reads fun q hq => ?_
    rw [prompts_of_texts hs hp] at hq
    obtain ⟨term, hterm, rfl⟩ := List.mem_map.1 hq
    exact Prompt.literal_reads fun hnil => hexcept (hnil ▸ hterm)
  · refine awaitPrompt_reads fun q hq => ?_
    obtain ⟨-, hprompts, -⟩ := Session.ofProfile_eq_ok hs
    rcases (PromptMatcher.forLines_eq_ok hprompts).2 with ⟨-, hmem⟩ | ⟨hre, -⟩
    · obtain ⟨term, hterm, hq⟩ := hmem q hq
      exact Prompt.ofPattern_reads (hterms term hterm) hq
    · rw [Profile.usesRegex, Option.isSome_eq_false_iff, Option.isNone_iff_eq_none] at hre
      exact absurd hre hp
  · have hfound : ∃ q ∈ s.prompts.prompts, q.find [] ≠ none := by
      rcases hempty with ⟨hp, hexcept⟩ | hfound
      · rw [← Profile.empty_mem_promptPatterns hv hp, ← Profile.empty_mem_searchTerms hle] at hexcept
        rw [prompts_of_texts hs hp]
        exact ⟨.literal "", List.mem_map.2 ⟨"", hexcept, rfl⟩, Option.some_ne_none _⟩
      · exact hfound
    obtain ⟨q, hq, hfind⟩ := hfound
    intro script t st ht hst
    obtain ⟨index, hindex⟩ := Stream.await_nothing ht hq hfind hst
    exact ⟨index, congrArg Outcome.result hindex⟩

/-- A prompt that is a pattern and may stand within a line. -/
theorem prompt_is_something_dollar :
    let p : Profile := { name := "sh", command := "sh", promptRegex := some "[$] ", allowMatchWithoutNewline := true }
    let script : Script := { banner := [⟨.send (.data (Text.bytes "1$ ")), 0⟩] }
    p.validate = .ok () ∧ p.lineEnding ≠ "" ∧ (∀ term ∈ p.searchTerms, Prompt.NeverEmpty term) ∧
    ∃ s found, Session.ofProfile p = .ok s ∧
      (s.awaitPrompt script.channel (.seconds 1) script.start).1 = .ok found ∧ found.matched ≠ "" := by
  intro p script
  have hv : Profile.validate
      { name := "sh", command := "sh", promptRegex := some "[$] ", allowMatchWithoutNewline := true } = .ok () := rfl
  have hle : p.lineEnding ≠ "" := by decide
  have hterms : ∀ term ∈ p.searchTerms, Prompt.NeverEmpty term := by
    have hnull : ∀ term ∈ p.searchTerms,
        (Pattern.read term.toList >>= Ast.node .bytes { dotAll := true }).toOption.map (·.nullable) = some false := by
      decide +kernel
    intro term hterm n hn
    have := hnull term hterm
    rw [hn] at this
    exact Option.some.inj this
  have hmatched : ((ofProfile p).toOption.bind fun s =>
      (s.awaitPrompt script.channel (.seconds 1) script.start).1.toOption.map (·.matched)) = some "$ " := by
    decide +kernel
  obtain ⟨s, found, hs, hfound, -⟩ := exists_found hmatched
  obtain ⟨-, hpattern, -⟩ := prompt_is_something hv hs hle
  exact ⟨hv, hle, hterms, s, found, hs, hfound,
    hpattern nofun hterms script.channel (Script.channel_streamed script) (.seconds 1) script.start found hfound⟩

/-- An empty prompt beside another one is found before there is any output. -/
theorem empty_prompt_found_in_nothing :
    let p : Profile := { name := "x", command := "sh", prompts := ["", ">>>"], allowMatchWithoutNewline := true }
    let script : Script := { banner := [⟨.send .eof, 0⟩] }
    p.validate = .ok () ∧ p.lineEnding ≠ "" ∧
    ∃ s found, Session.ofProfile p = .ok s ∧
      (s.awaitPrompt script.channel (.seconds 1) script.start).1 = .ok found ∧ found.matched = "" := by
  intro p script
  have hmatched : ((ofProfile p).toOption.bind fun s =>
      (s.awaitPrompt script.channel (.seconds 1) script.start).1.toOption.map (·.matched)) = some "" := by
    decide +kernel
  have hv : Profile.validate
      { name := "x", command := "sh", prompts := ["", ">>>"], allowMatchWithoutNewline := true } = .ok () := rfl
  obtain ⟨s, found, hs, hfound, htext⟩ := exists_found hmatched
  exact ⟨hv, by decide, s, found, hs, hfound, htext⟩

end Session

end Transcripts
