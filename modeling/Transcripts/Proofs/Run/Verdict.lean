import Transcripts.Proofs.Run.Calls
import Transcripts.Proofs.Stream.Account
import Transcripts.Proofs.Text.Split

/-!
# What a run reports

The first failure that the profile does not let pass decides what a run reports (`Stop.verdict`); without one it is
the exit code (`conclude_reports`).  An exit code is reported with the transcript of the last section to which
something was sent, which is not the last of all if the output was over early.
-/
namespace Transcripts

/-! ## The text of a wait that was given up -/

namespace Stream

/-- A wait that is given up hands out all that was read and not yet taken. -/
theorem await_timedOut {s : Stream} {m : PromptMatcher} {t : Timeout} {received : String}
    (h : (s.await m t).1.result = .error (.timedOut received)) : received = (s.await m t).2.pending := by
  cases ho : (s.await m t).1 with
  | timedOut bs =>
    obtain ⟨-, hbs, hbuffer⟩ := (await_reports s m t).timedOut bs ho
    rw [ho] at h
    cases h
    rw [pending, hbuffer, hbs]
  | taken | endOfStream | fault | endless | beyondClock => rw [ho] at h; cases h

end Stream

/-! ## The report -/

namespace Runner

variable {r : Runner} {s : Session} {p : Profile}

/-- What is reported once the interpreter was ended: its exit code, if that has to be zero and is not, with the text
`transcript`, and else success. -/
structure ReportsExit (p : Profile) (code : Except CloseWarning (Option Nat)) (transcript : String) (count : Nat)
    (ended : Bool) (result : Except RunFault Summary) : Prop where
  nonZero : ∀ n, p.checkReturnCode = true → code = .ok (some n) → n ≠ 0 → result = .error (.nonZeroExit n transcript)
  success : (p.checkReturnCode = true → ∀ n, code = .ok (some n) → n = 0) →
    result = .ok ⟨count, code.toOption.join, ended⟩

theorem conclude_reports (r : Runner) (emitted : List Section) (q : Progress)
    (code : Except CloseWarning (Option Nat)) :
    ReportsExit r.profile code q.last emitted.length q.ended (r.conclude emitted q code.toOption.join) where
  nonZero n hcheck hcode hn := by
    obtain ⟨n, rfl⟩ := Nat.exists_eq_succ_of_ne_zero hn
    subst hcode
    simp only [conclude, hcheck, Except.toOption, Option.join_some]
  success h := by
    unfold conclude
    split
    · rename_i n hcheck hcode
      cases code with
      | error w => cases hcode
      | ok exit =>
        cases hcode
        cases h hcheck _ rfl
    · rfl

/-- What a failure in the section `key` makes of a run that it ends. -/
theorem Stop.verdict {key : String} {x : Exchange} {f : RunFault} (h : Stop r s key x (some f)) :
    (∃ bs e, x = .write bs (.error e) ∧ f = .process ("failed to send line: " ++ e)) ∨
    (∃ w, x = .wait s.prompts r.profile.lineTimeout (.error w) ∧
      (∀ received, w = .endOfStream received → r.profile.ignoreErrors = false) ∧
      f = match w with
        | .timedOut received =>
          .promptTimeout r.profile.lineTimeout received (Text.charDump received) s.searchTerms
        | .endOfStream received => .endOfStream key received
        | .fault message => .process message
        | .endless => .endless
        | .beyondClock => .beyondClock) := by
  cases h with
  | refused bs e => exact .inl ⟨bs, e, rfl, rfl⟩
  | @failed w hw => exact .inr ⟨w, rfl, hw, by cases w <;> rfl⟩

/-- What is reported if every line was answered. -/
theorem AllAnswered.reports {sections : List Section} {q q' : Progress} {log : List Exchange} {emitted : List Section}
    (h : AllAnswered r s sections q log emitted (.ok q')) (hq : q.last = "") (code : Except CloseWarning (Option Nat)) :
    ReportsExit r.profile code ((emitted.getLast?.map (·.text)).getD "") sections.length false
      (r.conclude emitted q' code.toOption.join) := by
  obtain ⟨after, hres, hended, hlast⟩ := h.result
  cases hres
  rw [← hq, ← hlast, ← h.emitted_length, ← hended]
  exact conclude_reports r emitted q' code

/-- What is reported if the output was over in the section numbered `k`, and the profile lets that pass. -/
theorem StoppedIn.reports {sections : List Section} {q : Progress} {log front : List Exchange} {emitted : List Section}
    {k : Nat} {sec : Section} {x : Exchange} (h : StoppedIn r s sections log emitted (.ok q) k sec front x none)
    (code : Except CloseWarning (Option Nat)) :
    emitted.length = sections.length ∧ ∃ transcript, emitted[k]?.map (·.text) = some transcript ∧
      ReportsExit r.profile code transcript sections.length true (r.conclude emitted q code.toOption.join) := by
  obtain ⟨after, hres, hended, hlength, hlast⟩ := h.passes rfl
  cases hres
  refine ⟨hlength, q.last, hlast, ?_⟩
  rw [← hlength, ← hended]
  exact conclude_reports r emitted q code

variable {σ : Type}

/-- **What a run reports.**  One of three things happens, whatever the channel answers:

* The wait for the first prompt fails, and the report says how.
* A write or a wait of the section `sec` fails, and the profile does not let that pass.  The report says how:
  with the line timeout, all that was received, its dump and the search terms if the time was up; with the
  key of the section if the output was over.
* The interpreter is ended, after every line was answered or after the end of the output that the profile
  lets pass.  An exit code other than zero is reported if the profile checks it, with the text that was
  emitted for the last section to which something was sent.  Otherwise the run succeeds, with the exit code
  if it is known.

What a wait that was given up received is all that was pending, and its dump has one line for each character of it, in
order, which gives the character's number and its code. -/
theorem drive_verdict (hr : Runner.ofProfile p = .ok r) (hs : Session.ofProfile p = .ok s) (c : Channel σ)
    (sections : List Section) (st : σ) :
    let log := r.log s c sections st
    let emitted := (r.drive s c sections st).1
    let result := (r.drive s c sections st).2.1
    ((∃ w, log = [.wait s.initial p.initialPromptTimeout (.error w)] ∧
        result = .error (match w with
          | .timedOut received =>
            .initialPromptTimeout p.initialPromptTimeout received (Text.charDump received) s.initial.sources
          | .endOfStream received => .endOfStream "<initial prompt>" received
          | .fault message => .process message
          | .endless => .endless
          | .beyondClock => .beyondClock)) ∨
      (∃ first front x k sec, log = .wait s.initial p.initialPromptTimeout (.ok first) :: (front ++ [x]) ∧
        (∀ y ∈ front, y.failed = false) ∧ sections[k]? = some sec ∧ p.LineIn sections (waitsOf front).length k ∧
        ((∃ bs e, x = .write bs (.error e) ∧ result = .error (.process ("failed to send line: " ++ e))) ∨
          ∃ w, x = .wait s.prompts p.lineTimeout (.error w) ∧
            (∀ received, w = .endOfStream received → p.ignoreErrors = false) ∧
            result = .error (match w with
              | .timedOut received => .promptTimeout p.lineTimeout received (Text.charDump received) p.searchTerms
              | .endOfStream received => .endOfStream sec.key received
              | .fault message => .process message
              | .endless => .endless
              | .beyondClock => .beyondClock))) ∨
      ∃ first asked code transcript ended,
        log = .wait s.initial p.initialPromptTimeout (.ok first) :: (asked ++ [.close code]) ∧
        emitted.length = sections.length ∧
        (((∀ y ∈ asked, y.failed = false) ∧ ended = false ∧
            transcript = (emitted.getLast?.map (·.text)).getD "") ∨
          (p.ignoreErrors = true ∧ ended = true ∧ ∃ front received k,
            asked = front ++ [.wait s.prompts p.lineTimeout (.error (.endOfStream received))] ∧
            (∀ y ∈ front, y.failed = false) ∧ p.LineIn sections (waitsOf front).length k ∧
            emitted[k]?.map (·.text) = some transcript)) ∧
        ReportsExit p code transcript sections.length ended result) ∧
    (∀ (x : Stream) (m : PromptMatcher) (t : Timeout) (received : String),
      (x.await m t).1.result = .error (.timedOut received) → received = (x.await m t).2.pending) ∧
    ∀ received : String,
      Text.charDump received = String.join ((received.toList.mapIdx fun i c =>
        "chr " ++ ((if i < 10 then "0" else "") ++ toString i) ++ ": " ++ toString c.toNat).map (· ++ "\n")) ∧
      (Text.splitLines (Text.charDump received).toList).length = received.length := by
  intro log emitted result
  refine ⟨?_, fun x m t received h => Stream.await_timedOut h, fun received => ?_⟩
  · obtain ⟨-, rfl⟩ := Runner.ofProfile_eq_ok hr
    have hend : Ending r s sections log emitted result := drive_ending r s c sections st
    clear_value log emitted result
    cases hend with
    | unstarted w => exact .inl ⟨w, rfl, by cases w <;> rfl⟩
    | @failed first _ k sec front x f hstop =>
      refine .inr (.inl ⟨first, front, x, k, sec, rfl, hstop.broken.succeeded, hstop.section_eq, hstop.line, ?_⟩)
      rcases hstop.stop.verdict with ⟨bs, e, rfl, rfl⟩ | ⟨w, rfl, hw, rfl⟩
      · exact .inl ⟨bs, e, rfl, rfl⟩
      · exact .inr ⟨w, rfl, hw, by rw [Session.ofProfile_searchTerms hs]⟩
    | @answered first q q' asked _ code hq hall =>
      exact .inr (.inr ⟨first, asked, code, _, false, rfl, hall.emitted_length,
        .inl ⟨hall.answered.succeeded, rfl, rfl⟩, hall.reports hq code⟩)
    | @cut first q _ k sec front x code hstop =>
      obtain ⟨hlength, transcript, htext, hreports⟩ := hstop.reports code
      have hstopped := hstop.stop
      cases hstopped with
      | ended received hi =>
        exact .inr (.inr ⟨first, _, code, transcript, true, rfl, hlength,
          .inr ⟨hi, rfl, front, received, k, rfl, hstop.broken.succeeded, hstop.line, htext⟩, hreports⟩)
  · obtain ⟨hdump, hlines⟩ := Text.charDump_lines received
    exact ⟨hdump, by rw [hlines, List.length_map, List.length_mapIdx, String.length_toList]⟩

/-- An interpreter that answers a line without a prompt: the report holds what it answered, character by character. -/
theorem drive_verdict_two :
    let p : Profile := { name := "sh", command := "sh" }
    let m : PromptMatcher := .literal ["\n>>>", "\n..."]
    let s : Session := ⟨m, m, "\n"⟩
    let script : Script := {
      banner := [⟨.send (.data (Text.bytes "hello\n>>> ")), 0⟩]
      otherwise := [⟨.send (.data (Text.bytes "1\r")), 0⟩] }
    let x := Runner.drive ⟨p, none⟩ s script.channel [⟨"a", "1"⟩, ⟨"b", "2"⟩] script.start
    (Runner.ofProfile p = .ok ⟨p, none⟩ ∧ Session.ofProfile p = .ok s) ∧ x.1 = [] ∧
    x.2.1 = .error (.promptTimeout (.seconds 10) " 1\r" "chr 00: 32\nchr 01: 49\nchr 02: 13\n" ["\n>>>", "\n..."]) := by
  intro p m s script x
  have hv : Profile.validate { name := "sh", command := "sh" } = .ok () := rfl
  have hr : Runner.ofProfile p = .ok ⟨p, none⟩ := by rw [Runner.ofProfile, hv]; rfl
  have hs : Session.ofProfile p = .ok s := (Session.ofProfile_literal rfl rfl).2 ⟨by decide, rfl⟩
  refine ⟨⟨hr, hs⟩, by decide, ?_⟩
  have hlast : ((Runner.log ⟨p, none⟩ s script.channel [⟨"a", "1"⟩, ⟨"b", "2"⟩] script.start).getLast?.bind
      Exchange.wait?) = some (.error (.timedOut " 1\r")) := by
    decide
  have hstarted : (Runner.log ⟨p, none⟩ s script.channel [⟨"a", "1"⟩, ⟨"b", "2"⟩] script.start).head?.map
      Exchange.failed = some false := by
    decide
  obtain ⟨⟨w, hlog, -⟩ | ⟨first, front, y, k, sec, hlog, -, -, -, hy⟩ |
    ⟨first, asked, code, transcript, ended, hlog, -⟩, -⟩ :=
      drive_verdict hr hs script.channel [⟨"a", "1"⟩, ⟨"b", "2"⟩] script.start
  · rw [hlog] at hstarted
    cases hstarted
  · rw [hlog, ← List.cons_append, List.getLast?_concat] at hlast
    rcases hy with ⟨bs, e, rfl, -⟩ | ⟨w, rfl, -, hresult⟩
    · cases hlast
    · cases hlast
      have hdump : Text.charDump " 1\r" = "chr 00: 32\nchr 01: 49\nchr 02: 13\n" := by decide +kernel
      have hterms : p.searchTerms = ["\n>>>", "\n..."] := by decide
      rw [← hdump, ← hterms, hresult]
  · rw [hlog, ← List.cons_append, List.getLast?_concat] at hlast
    cases hlast

end Runner

end Transcripts
