import Transcripts.Proofs.Prompt.Prepared
import Transcripts.Proofs.Run.Carry
import Transcripts.Proofs.Stream.Queued
import Transcripts.Proofs.Text.Utf8

/-!
# Sessions that go well

An interpreter prints a banner and answers every write, each time with a prompt that is the first one to
be seen.  The transcripts of a run are then known: the section that sends the lines from one number to
another has the prompt before the first of them and what was seen after each, with the prompts in between
(`drive_segments`).
-/
namespace Transcripts

open Transcripts.Text (Bytes OccursAt)

variable {σ : Type}

/-- What an interpreter prints at the start or after a write: a prompt, and text on both sides of it. -/
structure Answer where
  before : String
  prompt : String
  after : String
deriving Repr, DecidableEq

def Answer.text (a : Answer) : String := a.before ++ a.prompt ++ a.after

/-- What stands before the prompt of an answer: what the answer before it left, and its own text. -/
def lead (x : Nat → Answer) : Nat → String
  | 0 => (x 0).before
  | i + 1 => (x i).after ++ (x (i + 1)).before

/-- The prompt of an answer, and what was seen from there to the next prompt. -/
def heard (x : Nat → Answer) (i : Nat) : String := (x i).prompt ++ unechoed (lead x (i + 1))

/-- What was seen from the prompt numbered `i` to the one that is `n` prompts further on. -/
def heardFrom (x : Nat → Answer) (i n : Nat) : String := String.join ((List.range' i n).map (heard x))

theorem foldl_append_eq (acc : String) (xs : List String) :
    xs.foldl (· ++ ·) acc = acc ++ String.join xs := by
  induction xs generalizing acc with
  | nil => simp [String.join]
  | cons x xs ih =>
    rw [String.join, List.foldl_cons, List.foldl_cons, ih, ih ("" ++ x), String.empty_append, String.append_assoc]

theorem heardFrom_succ (x : Nat → Answer) (i n : Nat) :
    heardFrom x i (n + 1) = heard x i ++ heardFrom x (i + 1) n := by
  rw [heardFrom, heardFrom, List.range'_succ, List.map_cons, String.join, List.foldl_cons, foldl_append_eq,
    String.empty_append]

namespace Runner

/-- A channel whose waits give the prompts of `x` one after the other and that takes `n` writes.  Its states
are in `Asked i` before the wait numbered `i`, and in `Heard i` after it. -/
structure Answers (r : Runner) (s : Session) (c : Channel σ) (x : Nat → Answer) (n : Nat)
    (Asked Heard : Nat → σ → Prop) : Prop where
  start : ∀ {st}, Asked 0 st → ∃ index st', Heard 0 st' ∧
    c.await s.initial r.profile.initialPromptTimeout st = (.ok ⟨lead x 0, (x 0).prompt, index⟩, st')
  wait : ∀ {i st}, i < n → Asked (i + 1) st → ∃ index st', Heard (i + 1) st' ∧
    c.await s.prompts r.profile.lineTimeout st = (.ok ⟨lead x (i + 1), (x (i + 1)).prompt, index⟩, st')
  write : ∀ {i st}, i < n → Heard i st → ∀ bs, ∃ st', Asked (i + 1) st' ∧ c.write bs st = (.ok (), st')

variable {r : Runner} {s : Session} {c : Channel σ} {x : Nat → Answer} {n : Nat}
  {Asked Heard : Nat → σ → Prop}

theorem sendLine_answered (h : Answers r s c x n Asked Heard) {i : Nat} (hi : i < n) {st : σ} (hst : Heard i st)
    (key line : String) (d : Draft) :
    ∃ st', Heard (i + 1) st' ∧ r.sendLine s c key line d st =
      (.ok ⟨d.transcript ++ d.carry ++ unechoed (lead x (i + 1)), (x (i + 1)).prompt, false⟩, st') := by
  obtain ⟨st₁, hasked, hw⟩ := h.write hi hst (Text.bytes (s.wireText line))
  obtain ⟨index, st₂, hheard, ha⟩ := h.wait hi hasked
  refine ⟨st₂, hheard, ?_⟩
  simp only [sendLine, Session.send, hw, mapError_ok, Session.awaitPrompt, ha]
  rfl

theorem sendLines_answered (h : Answers r s c x n Asked Heard) (key : String) :
    ∀ (lines : List String) (i : Nat) (transcript : String) (st : σ), Heard i st → i + lines.length ≤ n →
      ∃ st', Heard (i + lines.length) st' ∧
        r.sendLines s c key lines ⟨transcript, (x i).prompt, false⟩ st =
          (.ok ⟨transcript ++ heardFrom x i lines.length, (x (i + lines.length)).prompt, false⟩, st') := by
  intro lines
  induction lines with
  | nil => intro i transcript st hst _; exact ⟨st, hst, by simp [sendLines, heardFrom, String.join]⟩
  | cons line rest ih =>
    intro i transcript st hst hn
    rw [List.length_cons] at hn
    obtain ⟨st₁, hheard, hline⟩ := sendLine_answered h (by omega) hst key line ⟨transcript, (x i).prompt, false⟩
    obtain ⟨st₂, hheard', hrest⟩ := ih (i + 1) (transcript ++ heard x i) st₁ hheard (by omega)
    refine ⟨st₂, by rw [List.length_cons, ← Nat.add_assoc, Nat.add_right_comm]; exact hheard', ?_⟩
    have hheard₁ : transcript ++ (x i).prompt ++ unechoed (lead x (i + 1)) = transcript ++ heard x i :=
      String.append_assoc
    have hlen : i + 1 + rest.length = i + (rest.length + 1) := by omega
    simp only [sendLines, hline, Bool.false_eq_true, if_false]
    rw [hheard₁, hrest, List.length_cons, heardFrom_succ, ← String.append_assoc, hlen]

/-- Where the prompt before a section is kept does not matter. -/
theorem sendLines_carry (key : String) {lines : List String} (hl : lines ≠ []) (transcript carry : String)
    (st : σ) :
    r.sendLines s c key lines ⟨transcript ++ carry, "", false⟩ st =
      r.sendLines s c key lines ⟨transcript, carry, false⟩ st := by
  have habsorb : ∀ y, r.absorb s key ⟨transcript ++ carry, "", false⟩ y =
      r.absorb s key ⟨transcript, carry, false⟩ y := by
    intro y
    cases y with
    | ok m => simp only [absorb, String.append_empty]
    | error f => cases f <;> simp only [absorb, String.append_empty]
  cases lines with
  | nil => exact absurd rfl hl
  | cons line rest => simp only [sendLines, sendLine, habsorb]

theorem runSections_answered (h : Answers r s c x n Asked Heard) (hstrip : r.strip = none) :
    ∀ (sections : List Section) (i : Nat) (before last : String) (st : σ), Heard i st →
      i + r.profile.linesBefore sections sections.length ≤ n →
      (r.runSections s c sections ⟨before ++ (x i).prompt, false, last⟩ st).1 =
        sections.mapIdx fun k sec => ⟨sec.key,
          (if k = 0 then before else "") ++ heardFrom x (i + r.profile.linesBefore sections k) (r.profile.lineCount sec)⟩ := by
  intro sections
  induction sections with
  | nil => intro i before last st _ _; rfl
  | cons sec rest ih =>
    intro i before last st hst hn
    rw [List.length_cons, Profile.linesBefore_cons] at hn
    -- the prompt that the section begins with is kept apart, as it is after each of its lines
    obtain ⟨st', hheard, hlines⟩ := sendLines_answered h sec.key (r.profile.linesOf sec.text) i before st hst
      (by rw [Profile.lineCount] at hn; omega)
    have hrest := ih (i + r.profile.lineCount sec) "" (before ++ heardFrom x i (r.profile.lineCount sec)) st' hheard
      (by omega)
    simp only [runSections, runSection, Bool.false_eq_true, if_false,
      sendLines_carry sec.key (r.profile.linesOf_ne_nil sec.text), hlines, clean, hstrip]
    simp only [String.empty_append, ite_self] at hrest
    rw [List.mapIdx_cons]
    simp only [Profile.linesBefore_cons, Profile.linesBefore_zero, if_true, Nat.add_one_ne_zero, if_false, ← Nat.add_assoc,
      String.empty_append, Nat.add_zero]
    congr 1

theorem drive_answered (h : Answers r s c x n Asked Heard) (hstrip : r.strip = none) {sections : List Section}
    (hn : r.profile.linesBefore sections sections.length ≤ n) {st : σ} (hst : Asked 0 st) :
    (r.drive s c sections st).1 =
      sections.mapIdx fun k sec => ⟨sec.key,
        (if k = 0 then (x 0).before else "") ++ heardFrom x (r.profile.linesBefore sections k) (r.profile.lineCount sec)⟩ := by
  obtain ⟨index, st', hheard, ha⟩ := h.start hst
  have hrun := runSections_answered h hstrip sections 0 (x 0).before "" st' hheard (by omega)
  simp only [Nat.zero_add] at hrun
  simp only [drive, Session.awaitStart, ha, mapError_ok, lead]
  rw [← hrun]
  split
  · rename_i heq; rw [heq]
  · rename_i heq; rw [heq]

end Runner

/-! ## Scripts that answer -/

namespace Script

/-- Some cues send a text in pieces, at once. -/
def Cuts (cues : List Cue) (text : String) : Prop :=
  ∃ pieces : List Bytes, cues = pieces.map (fun bs => ⟨.send (.data bs), 0⟩) ∧ pieces.flatten = Text.bytes text

theorem Cuts.feedOf {cues : List Cue} {text : String} (h : Cuts cues text) (written : Bytes) :
    feedOf written cues = .ofBytes (Text.bytes text) := by
  obtain ⟨pieces, rfl, hp⟩ := h
  rw [← hp]
  clear hp
  induction pieces with
  | nil => rfl
  | cons bs rest ih =>
    rw [List.flatten_cons, ← Feed.ofBytes_append, ← ih]
    rfl

theorem Cuts.refusal {cues : List Cue} {text : String} (h : Cuts cues text) : refusal? cues = none := by
  obtain ⟨pieces, rfl, -⟩ := h
  rw [refusal?, List.findSome?_eq_none_iff]
  intro cue hcue
  obtain ⟨bs, -, rfl⟩ := List.mem_map.1 hcue
  rfl

theorem Cuts.delay {cues : List Cue} {text : String} (h : Cuts cues text) : ∀ cue ∈ cues, cue.delay = 0 := by
  obtain ⟨pieces, rfl, -⟩ := h
  intro cue hcue
  obtain ⟨bs, -, rfl⟩ := List.mem_map.1 hcue
  rfl

/-- A script prints `x 0`, and answers the first `n` writes with what follows it in `x`. -/
structure Plays (script : Script) (x : Nat → Answer) (n : Nat) : Prop where
  banner : Cuts script.banner (x 0).text
  reply : ∀ i < n, Cuts (script.reply i) (x (i + 1)).text

/-- In what was left by the answer before it and its own text, the prompt of an answer is the first of the
terms to stand. -/
structure PromptsFirst (terms : List String) (x : Nat → Answer) (i : Nat) : Prop where
  mem : (x i).prompt ∈ terms
  first : ∀ t ∈ terms, ∀ j,
    OccursAt (Text.bytes t) (Text.bytes (lead x i ++ (x i).prompt ++ (x i).after)) j →
    (Text.bytes (lead x i)).length ≤ j

/-- Before the wait numbered `i` the answer can be read, behind what the one before it left, and no time has passed. -/
structure Asked (x : Nat → Answer) (i : Nat) (st : State) : Prop where
  ready : st.stream.Ready
  feed : st.stream.feed = .ofBytes (Text.bytes (lead x i ++ (x i).prompt ++ (x i).after))
  clock : st.stream.inClock = Stream.inClock {}
  tried : st.tried = i

/-- After it what stands behind the prompt is left. -/
structure Heard (x : Nat → Answer) (i : Nat) (st : State) : Prop where
  ready : st.stream.Ready
  feed : st.stream.feed = .ofBytes (Text.bytes (x i).after)
  clock : st.stream.inClock = Stream.inClock {}
  tried : st.tried = i

variable {script : Script} {x : Nat → Answer} {n : Nat}

theorem start_asked (h : script.Plays x n) : Asked x 0 script.start := by
  obtain ⟨hr, hf, hc⟩ := performAll_ready [] script.banner {} Stream.ready_empty h.banner.delay
  exact ⟨hr, by rw [start, hf, h.banner.feedOf, Stream.feed_empty, Feed.nil_append]; rfl, hc, rfl⟩

theorem await_asked {terms : List String} (hsep : PromptMatcher.Separated terms) {t : Timeout}
    (ht : Stream.inClock {} t) {i : Nat} (hp : PromptsFirst terms x i) {st : State} (h : Asked x i st) :
    ∃ index st', Heard x i st' ∧
      await (.literal terms) t st = (.ok ⟨lead x i, (x i).prompt, index⟩, st') := by
  have hbytes : st.stream.feed.bytes =
      Text.bytes (lead x i) ++ (Text.bytes (x i).prompt ++ Text.bytes (x i).after) := by
    rw [h.feed, Feed.ofBytes, Text.bytes_append, Text.bytes_append, List.append_assoc]
  obtain ⟨index, hfind⟩ : ∃ index, (PromptMatcher.literal terms).find st.stream.feed.bytes =
      some ⟨index, (Text.bytes (lead x i)).length,
        (Text.bytes (lead x i)).length + (Text.bytes (x i).prompt).length⟩ := by
    refine PromptMatcher.find_first hsep hp.mem (by rw [hbytes, List.length_append]; omega) ?_ fun t ht j hj ho => ?_
    · rw [hbytes, OccursAt, List.drop_left]
      exact List.prefix_append _ _
    · rw [h.feed] at ho
      exact absurd (hp.first t ht j ho) (by omega)
  obtain ⟨hout, hr, hf, hc⟩ :=
    Stream.await_found (PromptMatcher.literal_steady hsep) (h.clock ▸ ht) h.ready hfind
  refine ⟨index, { st with stream := (st.stream.await (.literal terms) t).2 },
    ⟨hr, ?_, hc.trans h.clock, h.tried⟩, ?_⟩
  · rw [hf, h.feed, Feed.drop, Feed.ofBytes, Text.bytes_append, Text.bytes_append, ← List.length_append, List.drop_left]
    rfl
  · have hmid : ((st.stream.feed.bytes).take ((Text.bytes (lead x i)).length + (Text.bytes (x i).prompt).length)).drop
        (Text.bytes (lead x i)).length = Text.bytes (x i).prompt := by
      rw [hbytes, ← List.append_assoc, ← List.length_append, List.take_left, List.drop_left]
    simp only [await, hout, Outcome.result, hmid]
    rw [hbytes, List.take_left, Text.shown_bytes, Text.shown_bytes]

theorem write_heard (h : script.Plays x n) {i : Nat} (hi : i < n) {st : State} (hst : Heard x i st) (bs : Bytes) :
    ∃ st', Asked x (i + 1) st' ∧ script.write bs st = (.ok (), st') := by
  have hcuts := h.reply i hi
  rw [← hst.tried] at hcuts
  obtain ⟨hr, hf, hc⟩ := performAll_ready bs _ _ hst.ready hcuts.delay
  refine ⟨_, ⟨hr, ?_, hc.trans hst.clock, ?_⟩, by rw [write, hcuts.refusal]⟩
  · rw [hf, hst.feed, hcuts.feedOf, Feed.ofBytes_append, ← Text.bytes_append, hst.tried]
    simp only [lead, Answer.text, String.append_assoc]
  · simp only [hst.tried]

end Script

namespace Runner

/-- **The transcripts of a session that goes well.**  Let the profile's prompts be texts, none of which stands inside
another one less its last byte, let nothing be stripped, and let a session be made of it.  Let the interpreter print
`x 0` and answer the write numbered `i` with `x i`, cut in any way, and let the prompt of each answer be the first that
is seen.  Then every section is emitted once, in order.  Its text is what was heard from the prompt
before its first line to the one after its last line, which is left to the next section; the first text of
all also has what stands before the first prompt. -/
theorem drive_segments {p : Profile} {s : Session} (hv : p.validate = .ok ()) (hs : Session.ofProfile p = .ok s)
    (hre : p.promptRegex = none) (hip : p.initialPrompt = none) (hstrip : p.stripPattern = none)
    (hsep : PromptMatcher.Separated p.searchTerms) (hti : Stream.inClock {} p.initialPromptTimeout)
    (htl : Stream.inClock {} p.lineTimeout) {sections : List Section} {script : Script} {x : Nat → Answer}
    (hx : script.Plays x (p.linesBefore sections sections.length))
    (hp : ∀ i, i ≤ p.linesBefore sections sections.length → Script.PromptsFirst p.searchTerms x i) :
    ∃ r, Runner.ofProfile p = .ok r ∧
      (r.drive s script.channel sections script.start).1 =
        sections.mapIdx fun k sec => ⟨sec.key,
          (if k = 0 then (x 0).before else "") ++ heardFrom x (p.linesBefore sections k) (p.lineCount sec)⟩ := by
  obtain ⟨-, rfl⟩ := (Session.ofProfile_literal hre hip).1 hs
  refine ⟨⟨p, none⟩, ?_, ?_⟩
  · simp only [ofProfile, hv, hstrip]
    rfl
  · have hanswers : Answers ⟨p, none⟩ ⟨.literal p.searchTerms, .literal p.searchTerms, p.lineEnding⟩
        script.channel x (p.linesBefore sections sections.length) (Script.Asked x) (Script.Heard x) :=
      ⟨fun h => Script.await_asked hsep hti (hp 0 (Nat.zero_le _)) h,
        fun hi h => Script.await_asked hsep htl (hp _ hi) h,
        fun hi h bs => Script.write_heard hx hi h bs⟩
    exact drive_answered hanswers rfl (Nat.le_refl _) (Script.start_asked hx)

/-- Two sections of one line each, which a blank line follows; the banner and the answers are cut. -/
theorem drive_segments_two :
    let p : Profile := { name := "sh", command := "sh" }
    let sections : List Section := [⟨"a", "1"⟩, ⟨"b", "2"⟩]
    let script : Script := {
      banner := [⟨.send (.data (Text.bytes "hello\n>")), 0⟩, ⟨.send (.data (Text.bytes ">> ")), 0⟩]
      otherwise := [⟨.send (.data (Text.bytes "1\n>>")), 0⟩, ⟨.send (.data (Text.bytes "> ")), 0⟩] }
    let x : Nat → Answer := fun
      | 0 => ⟨"hello", "\n>>>", " "⟩
      | _ + 1 => ⟨"1", "\n>>>", " "⟩
    (p.validate = .ok () ∧ script.Plays x (p.linesBefore sections sections.length) ∧
      ∀ i, Script.PromptsFirst p.searchTerms x i) ∧
    ∃ r s, Runner.ofProfile p = .ok r ∧ Session.ofProfile p = .ok s ∧
      (r.drive s script.channel sections script.start).1 =
        [⟨"a", "hello\n>>> 1\n>>> 1"⟩, ⟨"b", "\n>>> 1\n>>> 1"⟩] := by
  intro p sections script x
  have hv : Profile.validate { name := "sh", command := "sh" } = .ok () := rfl
  have hreply (i : Nat) : script.reply i = script.otherwise := by rw [Script.reply]; rfl
  have hx : script.Plays x (p.linesBefore sections sections.length) := by
    refine ⟨⟨[Text.bytes "hello\n>", Text.bytes ">> "], rfl, by decide⟩, fun i _ => ?_⟩
    rw [hreply]
    have hpieces : [Text.bytes "1\n>>", Text.bytes "> "].flatten = Text.bytes (Answer.text ⟨"1", "\n>>>", " "⟩) := by
      decide
    exact ⟨_, rfl, hpieces⟩
  have hfirst (before : String) (hb : before = "hello" ∨ before = " 1") (t : String) (ht : t ∈ p.searchTerms)
      (j : Nat) (ho : OccursAt (Text.bytes t) (Text.bytes (before ++ "\n>>>" ++ " ")) j) :
      (Text.bytes before).length ≤ j := by
    by_contra hlt
    have hnone : ∀ t ∈ p.searchTerms, ∀ j < (Text.bytes before).length,
        ¬ Text.bytes t <+: (Text.bytes (before ++ "\n>>>" ++ " ")).drop j := by
      rcases hb with rfl | rfl <;> decide
    exact hnone t ht j (Nat.lt_of_not_le hlt) ho
  have hp (i : Nat) : Script.PromptsFirst p.searchTerms x i := by
    cases i with
    | zero => exact ⟨by decide, hfirst _ (.inl rfl)⟩
    | succ i => cases i <;> exact ⟨List.mem_cons_self, hfirst _ (.inr (by rfl))⟩
  have hs : Session.ofProfile p = .ok ⟨.literal p.searchTerms, .literal p.searchTerms, "\n"⟩ :=
    (Session.ofProfile_literal rfl rfl).2 ⟨by decide, rfl⟩
  obtain ⟨r, hr, hem⟩ := drive_segments hv hs rfl rfl rfl (by decide) (by decide) (by decide) hx fun i _ => hp i
  exact ⟨⟨hv, hx, hp⟩, r, _, hr, hs, by rw [hem]; decide⟩

end Runner

end Transcripts
