import Transcripts.Channel.Script
import Transcripts.Proofs.Prompt.Prepared
import Transcripts.Proofs.Run.Stops
import Transcripts.Proofs.Text.Lines

/-!
# One prompt for each line

A line is only sent once the prompt after the line before it was found, and nothing is sent or waited for
once a write or a wait has failed.  All this can be read off the calls of a run: they are a beginning of a
plan that is known in advance, and only the last of them can have failed.
-/
namespace Transcripts

open Transcripts.Text (Bytes)

theorem Exchange.failed_of_endsOutput {x : Exchange} (h : x.endsOutput = true) : x.failed = true := by
  match x, h with
  | .wait _ _ (.error (.endOfStream _)), _ => rfl

/-- A beginning of a plan was asked for, and nothing after a failure. -/
structure Paced (plan : List Call) (asked : List Exchange) : Prop where
  calls : asked.map Exchange.call <+: plan
  succeeded : ∀ x ∈ asked.dropLast, x.failed = false

theorem Answered.paced {plan : List Call} {log : List Exchange} (h : Answered plan log) : Paced plan log :=
  ⟨h.calls ▸ List.prefix_rfl, fun x hx => h.succeeded x (List.dropLast_subset log hx)⟩

theorem Answered.cons {m : PromptMatcher} {t : Timeout} {plan : List Call} {log : List Exchange}
    (h : Answered plan log) (found : PromptMatch) :
    Answered (.wait m t :: plan) (.wait m t (.ok found) :: log) := by
  refine ⟨congrArg (_ :: ·) h.calls, fun x hx => ?_⟩
  rcases List.mem_cons.1 hx with rfl | hx
  · rfl
  · exact h.succeeded x hx

theorem BrokenOff.paced {plan : List Call} {front : List Exchange} {x : Exchange} (h : BrokenOff plan front x) :
    Paced plan (front ++ [x]) :=
  ⟨h.calls, fun y hy => h.succeeded y (by rwa [List.dropLast_concat] at hy)⟩

/-- A wait that found its prompt, before others. -/
theorem Paced.cons {m : PromptMatcher} {t : Timeout} {plan : List Call} {log : List Exchange}
    (h : Paced plan log) (found : PromptMatch) :
    Paced (.wait m t :: plan) (.wait m t (.ok found) :: log) := by
  refine ⟨List.prefix_cons_inj _ |>.2 h.calls, fun x hx => ?_⟩
  cases log with
  | nil => cases hx
  | cons y ys =>
    rw [List.dropLast_cons_cons] at hx
    rcases List.mem_cons.1 hx with rfl | hx
    · rfl
    · exact h.succeeded x hx

/-- An exchange that others follow did not fail. -/
theorem Paced.not_failed {plan : List Call} (before : List Exchange) {after : List Exchange} {x : Exchange}
    (h : Paced plan (before ++ x :: after)) (ha : after ≠ []) : x.failed = false := by
  obtain ⟨y, rest, rfl⟩ := List.exists_cons_of_ne_nil ha
  refine h.succeeded x ?_
  rw [List.dropLast_append_cons, List.dropLast_cons_cons]
  exact List.mem_append_right _ List.mem_cons_self

/-- Nothing is written before the first wait has found its prompt. -/
theorem Paced.first {m : PromptMatcher} {t : Timeout} {plan : List Call} {before after : List Exchange} {bs : Bytes}
    {result : Except String Unit} (h : Paced (.wait m t :: plan) (before ++ .write bs result :: after)) :
    ∃ found rest, before = .wait m t (.ok found) :: rest ∧
      (rest ++ .write bs result :: after).map Exchange.call <+: plan := by
  cases before with
  | nil => cases (List.cons_prefix_cons.1 h.calls).1
  | cons x rest =>
    obtain ⟨hcall, hrest⟩ := List.cons_prefix_cons.1 h.calls
    have hok : x.failed = false := Paced.not_failed [] h (by simp)
    cases x with
    | wait m' t' answer =>
      cases hcall
      cases answer with
      | ok found => exact ⟨found, rest, rfl, hrest⟩
      | error f => cases hok
    | write bs answer => cases hcall
    | close code => cases hcall

/-- What stands in a list before its end stands in its first part. -/
theorem split_of_append {α : Type} {xs ending before after : List α} {x : α} (h : xs ++ ending = before ++ x :: after)
    (hx : x ∉ ending) : ∃ rest, xs = before ++ x :: rest ∧ after = rest ++ ending := by
  rcases List.append_eq_append_iff.1 h with ⟨mid, hb, he⟩ | ⟨mid, hx', ha⟩
  · exact absurd (he ▸ List.mem_append_right _ List.mem_cons_self) hx
  · cases mid with
    | nil =>
      rw [List.nil_append] at ha
      exact absurd (ha ▸ List.mem_cons_self) hx
    | cons y rest =>
      cases ha
      exact ⟨rest, hx', rfl⟩

namespace Runner

variable {r : Runner} {s : Session}

/-- What follows a write is the wait for its prompt. -/
theorem call_after_write : ∀ (lines : List String) {before after : List Exchange} {bs : Bytes}
    {result : Except String Unit} {y : Exchange},
    (before ++ .write bs result :: y :: after).map Exchange.call <+: lines.flatMap (r.lineCalls s) →
    y.call = .wait s.prompts r.profile.lineTimeout := by
  intro lines
  induction lines with
  | nil =>
    intro before after bs result y h
    rw [List.flatMap_nil, List.prefix_nil] at h
    simp at h
  | cons line rest ih =>
    intro before after bs result y h
    rw [List.flatMap_cons, lineCalls, List.cons_append, List.cons_append, List.nil_append] at h
    -- the write is the first of the plan, or it stands behind the wait that comes after the first
    rcases before with _ | ⟨u, _ | ⟨v, before⟩⟩
    · exact ((List.cons_prefix_cons.1 (List.cons_prefix_cons.1 h).2).1)
    · have hcall := (List.cons_prefix_cons.1 (List.cons_prefix_cons.1 h).2).1
      cases hcall
    · exact ih (List.cons_prefix_cons.1 (List.cons_prefix_cons.1 h).2).2

/-! ## Runs -/

/-- A runner has the profile that it was made of, and that profile passed its checks. -/
theorem ofProfile_eq_ok {p : Profile} {r : Runner} (h : ofProfile p = .ok r) :
    p.validate = .ok () ∧ r.profile = p := by
  obtain ⟨u, hv, h⟩ := Except.bind_eq_ok h
  refine ⟨hv, ?_⟩
  split at h
  · cases h; rfl
  split at h
  · cases h; rfl
  · cases h

/-- All that a run asks for if nothing fails, but for the end of the interpreter. -/
def plan (r : Runner) (s : Session) (sections : List Section) : List Call :=
  .wait s.initial r.profile.initialPromptTimeout :: r.sectionCalls s sections

theorem sectionCalls_eq (r : Runner) (s : Session) (sections : List Section) :
    r.sectionCalls s sections = (sections.flatMap fun sec => r.profile.linesOf sec.text).flatMap (r.lineCalls s) :=
  (List.flatMap_assoc ..).symm

/-- A line is sent without the blanks at its end and with the session's line ending. -/
theorem plan_eq (r : Runner) (s : Session) (sections : List Section) :
    r.plan s sections = .wait s.initial r.profile.initialPromptTimeout ::
      (sections.flatMap fun sec => r.profile.linesOf sec.text).flatMap fun line =>
        [.write (Text.bytes (String.ofList (Text.trimEnd line.toList) ++ s.lineEnding)),
          .wait s.prompts r.profile.lineTimeout] := by
  rw [plan, sectionCalls_eq]
  rfl

/-- Between two writes a wait finds its prompt. -/
theorem wait_between_writes {sections : List Section} {before between after : List Exchange} {bs bs' : Bytes}
    {result result' : Except String Unit}
    (h : Paced (r.plan s sections) (before ++ .write bs result :: (between ++ .write bs' result' :: after))) :
    ∃ found, Exchange.wait s.prompts r.profile.lineTimeout (.ok found) ∈ between := by
  obtain ⟨found, rest, rfl, hcalls⟩ := h.first
  rw [sectionCalls_eq] at hcalls
  cases between with
  | nil => cases call_after_write _ hcalls
  | cons y between =>
    have hcall := call_after_write _ hcalls
    have hok : y.failed = false := by
      rw [List.append_cons, List.cons_append] at h
      exact h.not_failed _ (by simp)
    cases y with
    | wait m t answer =>
      cases hcall
      cases answer with
      | ok found => exact ⟨found, List.mem_cons_self⟩
      | error f => cases hok
    | write bs answer => cases hcall
    | close code => cases hcall

/-- Whatever is written is a line of a section, without the blanks at its end and with the line ending. -/
theorem written_line {sections : List Section} {asked : List Exchange} {bs : Bytes} {result : Except String Unit}
    (h : asked.map Exchange.call <+: r.plan s sections) (hx : .write bs result ∈ asked) :
    ∃ sec ∈ sections, ∃ line ∈ r.profile.linesOf sec.text, bs = Text.bytes (s.wireText line) := by
  have hmem : Call.write bs ∈ r.plan s sections := h.mem (List.mem_map.2 ⟨_, hx, rfl⟩)
  simp only [plan, sectionCalls, lineCalls, List.mem_cons, List.mem_flatMap, reduceCtorEq, false_or,
    List.not_mem_nil, or_false, Call.write.injEq] at hmem
  exact hmem

/-- How a run that asked for something came to its end: with a failure, after which nothing was asked for,
or with the end of the interpreter. -/
inductive Closing (r : Runner) (s : Session) (sections : List Section) :
    (asked ending : List Exchange) → Prop where
  | failed (front : List Exchange) {x : Exchange} : x.failed = true →
      (front = [] ∨ (x.endsOutput = true → r.profile.ignoreErrors = false)) →
      Closing r s sections (front ++ [x]) []
  | answered {asked : List Exchange} (code : Except CloseWarning (Option Nat)) :
      Answered (r.plan s sections) asked → Closing r s sections asked [.close code]
  | ended (front : List Exchange) {x : Exchange} (code : Except CloseWarning (Option Nat)) :
      r.profile.ignoreErrors = true → front ≠ [] → x.endsOutput = true →
      Closing r s sections (front ++ [x]) [.close code]

/-- A run asked for `asked`, and it came to its end with `ending`. -/
structure Conducted (r : Runner) (s : Session) (sections : List Section) (log asked ending : List Exchange) : Prop where
  log_eq : log = asked ++ ending
  paced : Paced (r.plan s sections) asked
  closing : Closing r s sections asked ending

theorem Stop.endsOutput {key : String} {x : Exchange} {f : RunFault} (h : Stop r s key x (some f)) :
    x.endsOutput = true → r.profile.ignoreErrors = false := by
  intro hx
  cases h with
  | refused bs e => cases hx
  | @failed w hw =>
    cases w with
    | endOfStream received => exact hw received rfl
    | _ => cases hx

/-- What a run asks for. -/
theorem Ending.conducted {sections : List Section} {log : List Exchange} {emitted : List Section}
    {result : Except RunFault Summary} (h : Ending r s sections log emitted result) :
    ∃ asked ending, Conducted r s sections log asked ending := by
  cases h with
  | unstarted f =>
    exact ⟨_, [], (List.append_nil _).symm, ⟨⟨_, rfl⟩, fun x hx => by cases hx⟩,
      .failed [] rfl (.inl rfl)⟩
  | answered first code _ hall =>
    have hans : Answered (r.plan s sections) _ := hall.answered.cons first
    exact ⟨_, [.close code], rfl, hans.paced, .answered code hans⟩
  | @failed first _ _ _ front x f hstop =>
    have hpaced := hstop.broken.paced.cons (m := s.initial) (t := r.profile.initialPromptTimeout) first
    exact ⟨_, [], (List.append_nil _).symm, hpaced,
      .failed (_ :: front) hstop.broken.failed (.inr hstop.stop.endsOutput)⟩
  | @cut first _ _ _ _ front x code hstop =>
    have hpaced := hstop.broken.paced.cons (m := s.initial) (t := r.profile.initialPromptTimeout) first
    have hstopped := hstop.stop
    refine ⟨_, [.close code], rfl, hpaced, ?_⟩
    cases hstopped with
    | ended received hi => exact .ended (_ :: front) code hi (by simp) rfl

/-- The text of a line of a section holds the line feeds of the line ending and no other, if the section is
cut at its line feeds. -/
theorem wireText_count_feed {sec : Section} {line : String} (hsplit : r.profile.lineSplit = .physical)
    (h : line ∈ r.profile.linesOf sec.text) :
    (Text.bytes (s.wireText line)).count 0x0A = s.lineEnding.toList.count '\n' := by
  have hfeed : '\n' ∉ line.toList := by
    simp only [Profile.linesOf, hsplit, List.mem_map, List.mem_append, List.mem_singleton] at h
    obtain ⟨cs, hcs | rfl, rfl⟩ := h
    · rw [String.toList_ofList]; exact Text.physicalLines_no_feed hcs
    · simp
  have htrim : (Text.trimEnd line.toList).count '\n' = 0 :=
    List.count_eq_zero.2 fun h => hfeed (Text.mem_trimEnd h)
  rw [Text.bytes_count_feed, Session.wireText, String.toList_append, List.count_append, String.toList_ofList, htrim,
    Nat.zero_add]

namespace Conducted

variable {sections : List Section} {log asked ending : List Exchange}

/-- All that a run ends with is the end of the interpreter. -/
theorem closes (h : Conducted r s sections log asked ending) : ∀ x ∈ ending, ∃ code, x = .close code := by
  intro x hx
  cases h.closing with
  | failed => cases hx
  | answered code => exact ⟨code, List.mem_singleton.1 hx⟩
  | ended front code => exact ⟨code, List.mem_singleton.1 hx⟩

theorem write_not_mem (h : Conducted r s sections log asked ending) (bs : Bytes) (result : Except String Unit) :
    Exchange.write bs result ∉ ending := by
  intro hmem
  obtain ⟨code, hx⟩ := h.closes _ hmem
  cases hx

/-- The interpreter is ended once, after the whole plan or after the end of the output that the profile lets pass, and
not at all after another failure. -/
theorem ends (h : Conducted r s sections log asked ending) :
    (log = asked ∧ ∃ front x, asked = front ++ [x] ∧ x.failed = true ∧
      (front = [] ∨ (x.endsOutput = true → r.profile.ignoreErrors = false))) ∨
    ∃ code, log = asked ++ [.close code] ∧
      ((asked.map Exchange.call = r.plan s sections ∧ ∀ x ∈ asked, x.failed = false) ∨
        (r.profile.ignoreErrors = true ∧ ∃ front x, asked = front ++ [x] ∧ front ≠ [] ∧ x.endsOutput = true)) := by
  have hlog := h.log_eq
  cases h.closing with
  | failed front hfailed hends => exact .inl ⟨by rw [hlog, List.append_nil], _, _, rfl, hfailed, hends⟩
  | answered code hans => exact .inr ⟨code, hlog, .inl ⟨hans.calls, hans.succeeded⟩⟩
  | ended front code hi hne hends => exact .inr ⟨code, hlog, .inr ⟨hi, _, _, rfl, hne, hends⟩⟩

/-- Nothing is written before the first prompt was found. -/
theorem started (h : Conducted r s sections log asked ending) {before after : List Exchange} {bs : Bytes}
    {result : Except String Unit} (hw : log = before ++ .write bs result :: after) :
    ∃ found rest, before = .wait s.initial r.profile.initialPromptTimeout (.ok found) :: rest := by
  obtain ⟨rest, hasked, -⟩ := split_of_append (h.log_eq.symm.trans hw) (h.write_not_mem bs result)
  obtain ⟨found, rest, hbefore, -⟩ := (hasked ▸ h.paced).first
  exact ⟨found, rest, hbefore⟩

/-- Between two writes a wait has found its prompt. -/
theorem prompted (h : Conducted r s sections log asked ending) {before between after : List Exchange} {bs bs' : Bytes}
    {result result' : Except String Unit}
    (hw : log = before ++ .write bs result :: (between ++ .write bs' result' :: after)) :
    ∃ found, Exchange.wait s.prompts r.profile.lineTimeout (.ok found) ∈ between := by
  rw [← List.cons_append, ← List.append_assoc] at hw
  obtain ⟨rest, hasked, -⟩ := split_of_append (h.log_eq.symm.trans hw) (h.write_not_mem bs' result')
  rw [List.append_assoc, List.cons_append] at hasked
  exact wait_between_writes (hasked ▸ h.paced)

/-- After the end of the output there is only the end of the interpreter. -/
theorem silent (h : Conducted r s sections log asked ending) {before after : List Exchange} {x : Exchange}
    (hx : log = before ++ x :: after) (hends : x.endsOutput = true) : ∀ y ∈ after, ∃ code, y = .close code := by
  have hmem : x ∉ ending := fun hm => by
    obtain ⟨code, rfl⟩ := h.closes x hm
    cases hends
  obtain ⟨rest, hasked, rfl⟩ := split_of_append (h.log_eq.symm.trans hx) hmem
  cases rest with
  | nil => exact h.closes
  | cons y rest =>
    have hok := (hasked ▸ h.paced).not_failed _ (List.cons_ne_nil y rest)
    rw [Exchange.failed_of_endsOutput hends] at hok
    cases hok

/-- A run in which nothing fails carries out its whole plan. -/
theorem whole (h : Conducted r s sections log asked ending) (hall : ∀ x ∈ log, x.failed = false) :
    log.map Exchange.call = r.plan s sections ++ [.close] := by
  have hok (x : Exchange) (hx : x ∈ asked) : x.failed = false := by
    refine hall x ?_
    rw [h.log_eq]
    exact List.mem_append_left _ hx
  rw [h.log_eq, List.map_append]
  cases h.closing with
  | failed front hfailed => rw [hok _ List.mem_concat_self] at hfailed; cases hfailed
  | answered code hans => rw [hans.calls]; rfl
  | ended front code _ _ hends =>
    have hfailed := Exchange.failed_of_endsOutput hends
    rw [hok _ List.mem_concat_self] at hfailed
    cases hfailed

/-- Of sections that are cut at their line feeds each write holds the line feeds of the line ending. -/
theorem count_feed (h : Conducted r s sections log asked ending) (hsplit : r.profile.lineSplit = .physical) {bs : Bytes}
    {result : Except String Unit} (hx : Exchange.write bs result ∈ log) :
    bs.count 0x0A = s.lineEnding.toList.count '\n' := by
  rw [h.log_eq] at hx
  rcases List.mem_append.1 hx with hx | hx
  · obtain ⟨sec, -, line, hline, hbs⟩ := written_line h.paced.calls hx
    rw [hbs, wireText_count_feed hsplit hline]
  · exact absurd hx (h.write_not_mem bs result)

end Conducted

variable {σ : Type} {p : Profile}

/-- **One prompt for each line.**  Let a run's plan be to wait for the first prompt, and then, for each line
of each section in order, to write the line without the blanks at its end and with the line ending, and to
wait for a prompt.  Whatever the channel answers:

* The run asks for a beginning of its plan, and nothing in it failed but possibly the last.  If that failed
  the run asks for nothing more, not even the end of the interpreter.  The end of the output is no such
  failure after a line, if the profile lets it pass: then, and after the whole plan, the run ends the
  interpreter, once, and asks for nothing more.
* So nothing is written before the first prompt was found, and between two writes a wait has found its
  prompt.
* After the end of the output nothing is written or waited for.
* If nothing fails the whole plan is carried out, so that every line is written once.
* If sections are cut at their line feeds and the line ending holds one line feed, so does each write. -/
theorem drive_keeps_pace (hr : Runner.ofProfile p = .ok r) (hs : Session.ofProfile p = .ok s) (c : Channel σ)
    (sections : List Section) (st : σ) :
    let log := r.log s c sections st
    let lines := sections.flatMap fun sec => p.linesOf sec.text
    let plan := Call.wait s.initial p.initialPromptTimeout :: lines.flatMap fun line =>
      [.write (Text.bytes (String.ofList (Text.trimEnd line.toList) ++ p.lineEnding)), .wait s.prompts p.lineTimeout]
    (PromptMatcher.forStart p = .ok s.initial ∧ PromptMatcher.forLines p = .ok s.prompts) ∧
    (∃ asked : List Exchange, asked.map Exchange.call <+: plan ∧ (∀ x ∈ asked.dropLast, x.failed = false) ∧
      ((log = asked ∧ ∃ front x, asked = front ++ [x] ∧ x.failed = true ∧
          (front = [] ∨ (x.endsOutput = true → p.ignoreErrors = false))) ∨
        ∃ code, log = asked ++ [.close code] ∧
          ((asked.map Exchange.call = plan ∧ ∀ x ∈ asked, x.failed = false) ∨
            (p.ignoreErrors = true ∧ ∃ front x, asked = front ++ [x] ∧ front ≠ [] ∧ x.endsOutput = true)))) ∧
    (∀ before bs result after, log = before ++ .write bs result :: after →
      ∃ found rest, before = .wait s.initial p.initialPromptTimeout (.ok found) :: rest) ∧
    (∀ before bs result between bs' result' after,
      log = before ++ .write bs result :: (between ++ .write bs' result' :: after) →
      ∃ found, Exchange.wait s.prompts p.lineTimeout (.ok found) ∈ between) ∧
    (∀ before x after, log = before ++ x :: after → x.endsOutput = true → ∀ y ∈ after, ∃ code, y = .close code) ∧
    ((∀ x ∈ log, x.failed = false) → log.map Exchange.call = plan ++ [.close]) ∧
    (p.lineSplit = .physical → p.lineEnding.toList.count '\n' = 1 →
      ∀ bs result, Exchange.write bs result ∈ log → bs.count 0x0A = 1) := by
  intro log lines plan
  obtain ⟨-, rfl⟩ := Runner.ofProfile_eq_ok hr
  obtain ⟨hinitial, hprompts, hending⟩ := Session.ofProfile_eq_ok hs
  have hplan : r.plan s sections = plan := by rw [plan_eq, hending]
  obtain ⟨asked, ending, h⟩ := (drive_ending r s c sections st).conducted
  rw [← hplan]
  exact ⟨⟨hinitial, hprompts⟩, ⟨asked, h.paced.calls, h.paced.succeeded, h.ends⟩, fun _ _ _ _ => h.started,
    fun _ _ _ _ _ _ _ => h.prompted, fun _ _ _ => h.silent, h.whole,
    fun hsplit hfeed _ _ hx => by rw [h.count_feed hsplit hx, hending, hfeed]⟩

/-- Two sections, a line of one of which ends in blanks: three lines with the blank line after each section
that is cut at its line feeds. -/
theorem drive_keeps_pace_two :
    let p : Profile := { name := "sh", command := "sh" }
    let m : PromptMatcher := .literal ["\n>>>", "\n..."]
    let s : Session := ⟨m, m, "\n"⟩
    let script : Script := {
      banner := [⟨.send (.data (Text.bytes "hello\n>>> ")), 0⟩]
      otherwise := [⟨.echo, 0⟩, ⟨.send (.data (Text.bytes "\n>>> ")), 0⟩] }
    let log := Runner.log ⟨p, none⟩ s script.channel [⟨"a", "1  "⟩, ⟨"b", ""⟩] script.start
    (Runner.ofProfile p = .ok ⟨p, none⟩ ∧ Session.ofProfile p = .ok s ∧ ∀ x ∈ log, x.failed = false) ∧
    log.map Exchange.call = [.wait m (.seconds 5), .write [0x31, 0x0A], .wait m (.seconds 10), .write [0x0A],
      .wait m (.seconds 10), .write [0x0A], .wait m (.seconds 10), .close] := by
  intro p m s script log
  have hv : Profile.validate { name := "sh", command := "sh" } = .ok () := rfl
  have hr : Runner.ofProfile p = .ok ⟨p, none⟩ := by rw [Runner.ofProfile, hv]; rfl
  have hs : Session.ofProfile p = .ok s := (Session.ofProfile_literal rfl rfl).2 ⟨by decide, rfl⟩
  have hall : ∀ x ∈ log, x.failed = false := by decide
  have hcalls := (drive_keeps_pace hr hs script.channel [⟨"a", "1  "⟩, ⟨"b", ""⟩] script.start).2.2.2.2.2.1
  have hlines : ([⟨"a", "1  "⟩, ⟨"b", ""⟩] : List Section).flatMap (fun sec => p.linesOf sec.text) = ["1  ", "", ""] := by
    decide
  have hone : Text.bytes (String.ofList (Text.trimEnd "1  ".toList) ++ "\n") = [0x31, 0x0A] := by decide
  have hempty : Text.bytes (String.ofList (Text.trimEnd "".toList) ++ "\n") = [0x0A] := by decide
  refine ⟨⟨hr, hs, hall⟩, (hcalls hall).trans ?_⟩
  simp only [hlines, List.flatMap_cons, List.flatMap_nil, p, hone, hempty]
  rfl

end Runner

end Transcripts
