import Transcripts.Proofs.Run.Carry

/-!
# Where a run stops

What a run may ask of its channel is known before it starts: a wait for the first prompt, and then a write
and a wait for each line of each section.  It asks for these things in order until one of them fails.  A
failure either ends the run or, if it is the end of the output and the profile lets that pass, only ends
the sending.  `Course.stops` says this of the sections, and where the failure leaves them.
-/
namespace Transcripts

open Transcripts.Text (Bytes)

/-- What is asked of a channel. -/
inductive Call where
  | wait (prompts : PromptMatcher) (timeout : Timeout)
  | write (bs : Bytes)
  | close

namespace Exchange

/-- An exchange without the answer. -/
def call : Exchange → Call
  | .wait prompts timeout _ => .wait prompts timeout
  | .write bs _ => .write bs
  | .close _ => .close

/-- Whether a wait or a write failed. -/
def failed : Exchange → Bool
  | .wait _ _ (.error _) => true
  | .write _ (.error _) => true
  | _ => false

/-- Whether a wait reported the end of the output. -/
def endsOutput : Exchange → Bool
  | .wait _ _ (.error (.endOfStream _)) => true
  | _ => false

end Exchange

/-! ## Plans -/

/-- All that a plan asks for was asked for, and nothing failed. -/
structure Answered (plan : List Call) (log : List Exchange) : Prop where
  calls : log.map Exchange.call = plan
  succeeded : ∀ x ∈ log, x.failed = false

/-- What a plan asks for was asked for up to `x`, which failed. -/
structure BrokenOff (plan : List Call) (front : List Exchange) (x : Exchange) : Prop where
  calls : (front ++ [x]).map Exchange.call <+: plan
  succeeded : ∀ y ∈ front, y.failed = false
  failed : x.failed = true

theorem Answered.nil : Answered [] [] := ⟨rfl, fun _ h => by cases h⟩

theorem Answered.append {plan more : List Call} {log rest : List Exchange} (h : Answered plan log)
    (hr : Answered more rest) : Answered (plan ++ more) (log ++ rest) := by
  refine ⟨by rw [List.map_append, h.calls, hr.calls], fun x hx => ?_⟩
  rcases List.mem_append.1 hx with hx | hx
  · exact h.succeeded x hx
  · exact hr.succeeded x hx

theorem Answered.brokenOff {plan more : List Call} {log front : List Exchange} {x : Exchange}
    (h : Answered plan log) (hr : BrokenOff more front x) : BrokenOff (plan ++ more) (log ++ front) x := by
  refine ⟨?_, fun y hy => ?_, hr.failed⟩
  · rw [List.append_assoc, List.map_append, h.calls]
    exact (List.prefix_append_right_inj plan).2 hr.calls
  · rcases List.mem_append.1 hy with hy | hy
    · exact h.succeeded y hy
    · exact hr.succeeded y hy

theorem BrokenOff.extend {plan : List Call} {front : List Exchange} {x : Exchange} (h : BrokenOff plan front x)
    (more : List Call) : BrokenOff (plan ++ more) front x :=
  ⟨h.calls.trans (List.prefix_append plan more), h.succeeded, h.failed⟩

namespace Profile

/-- The line numbered `j` of all that are sent belongs to the section numbered `k`. -/
def LineIn (p : Profile) (sections : List Section) (j k : Nat) : Prop :=
  p.linesBefore sections k ≤ j ∧ j < p.linesBefore sections (k + 1)

theorem LineIn.zero {p : Profile} {sec : Section} (rest : List Section) {j : Nat} (h : j < p.lineCount sec) :
    p.LineIn (sec :: rest) j 0 := by
  refine ⟨by rw [linesBefore_zero]; exact Nat.zero_le j, ?_⟩
  rw [linesBefore_cons, linesBefore_zero]
  exact h

theorem LineIn.succ {p : Profile} (sec : Section) {rest : List Section} {j k : Nat} (h : p.LineIn rest j k) :
    p.LineIn (sec :: rest) (p.lineCount sec + j) (k + 1) := by
  refine ⟨?_, ?_⟩
  · rw [linesBefore_cons]; exact Nat.add_le_add_left h.1 _
  · rw [linesBefore_cons]; exact Nat.add_lt_add_left h.2 _

end Profile

namespace Runner

variable {r : Runner} {s : Session}

/-- What is asked for a line: to write it, and to wait for the prompt after it. -/
def lineCalls (r : Runner) (s : Session) (line : String) : List Call :=
  [.write (Text.bytes (s.wireText line)), .wait s.prompts r.profile.lineTimeout]

/-- What is asked for all lines of some sections. -/
def sectionCalls (r : Runner) (s : Session) (sections : List Section) : List Call :=
  sections.flatMap fun sec => (r.profile.linesOf sec.text).flatMap (r.lineCalls s)

/-! ## Failures -/

/-- What a failure in a section makes of the run: the fault that it ends with, or nothing if the profile
lets the failure pass. -/
inductive Stop (r : Runner) (s : Session) (key : String) : Exchange → Option RunFault → Prop where
  | refused (bs : Bytes) (e : String) :
      Stop r s key (.write bs (.error e)) (some (.process ("failed to send line: " ++ e)))
  | failed {f : WaitFault} : (∀ received, f = .endOfStream received → r.profile.ignoreErrors = false) →
      Stop r s key (.wait s.prompts r.profile.lineTimeout (.error f)) (some (r.lineFault s key f))
  | ended (received : String) : r.profile.ignoreErrors = true →
      Stop r s key (.wait s.prompts r.profile.lineTimeout (.error (.endOfStream received))) none

theorem Stop.exchange_failed {key : String} {x : Exchange} {o : Option RunFault} (h : Stop r s key x o) :
    x.failed = true := by
  cases h <;> rfl

/-! ## One section -/

/-- All lines were answered, and the output is not over. -/
structure LinesAnswered (r : Runner) (s : Session) (lines : List String) (log : List Exchange)
    (result : Except RunFault Draft) : Prop where
  answered : Answered (lines.flatMap (r.lineCalls s)) log
  waits : (waitsOf log).length = lines.length
  result : ∃ after, result = .ok after ∧ after.ended = false

/-- One of the lines met with a failure, and none after it was sent. -/
structure LinesStopped (r : Runner) (s : Session) (key : String) (lines : List String) (log : List Exchange)
    (result : Except RunFault Draft) (front : List Exchange) (x : Exchange) (o : Option RunFault) : Prop where
  log_eq : log = front ++ [x]
  broken : BrokenOff (lines.flatMap (r.lineCalls s)) front x
  waits : (waitsOf front).length < lines.length
  stop : Stop r s key x o
  fails : ∀ f, o = some f → result = .error f
  passes : o = none → ∃ after, result = .ok after ∧ after.ended = true

theorem answered_line (line : String) (m : PromptMatch) :
    Answered (r.lineCalls s line) [.write (Text.bytes (s.wireText line)) (.ok ()),
      .wait s.prompts r.profile.lineTimeout (.ok m)] := by
  refine ⟨rfl, fun x hx => ?_⟩
  simp only [List.mem_cons, List.not_mem_nil, or_false] at hx
  rcases hx with rfl | rfl <;> rfl

/-- A wait after a line that failed, when the line was written. -/
theorem LinesStopped.wait {key line : String} (rest : List String) {x : WaitResult} {o : Option RunFault}
    {result : Except RunFault Draft} (hs : Stop r s key (.wait s.prompts r.profile.lineTimeout x) o)
    (hf : ∀ f, o = some f → result = .error f) (hp : o = none → ∃ after, result = .ok after ∧ after.ended = true) :
    LinesStopped r s key (line :: rest)
      [.write (Text.bytes (s.wireText line)) (.ok ()), .wait s.prompts r.profile.lineTimeout x] result
      [.write (Text.bytes (s.wireText line)) (.ok ())] (.wait s.prompts r.profile.lineTimeout x) o where
  log_eq := rfl
  broken := by
    refine ⟨List.prefix_append (r.lineCalls s line) _, fun y hy => ?_, hs.exchange_failed⟩
    rw [List.mem_singleton.1 hy]
    rfl
  waits := Nat.succ_pos rest.length
  stop := hs
  fails := hf
  passes := hp

/-- A line that was answered, before others. -/
theorem LinesStopped.cons {key line : String} {rest : List String} {m : PromptMatch} {log : List Exchange}
    {result : Except RunFault Draft} {front : List Exchange} {x : Exchange} {o : Option RunFault}
    (h : LinesStopped r s key rest log result front x o) :
    LinesStopped r s key (line :: rest)
      ([.write (Text.bytes (s.wireText line)) (.ok ()), .wait s.prompts r.profile.lineTimeout (.ok m)] ++ log) result
      ([.write (Text.bytes (s.wireText line)) (.ok ()), .wait s.prompts r.profile.lineTimeout (.ok m)] ++ front) x o where
  log_eq := by rw [h.log_eq, List.append_assoc]
  broken := (answered_line line m).brokenOff h.broken
  waits := by
    rw [List.cons_append, List.cons_append, List.nil_append, waitsOf_line]
    exact Nat.succ_lt_succ h.waits
  stop := h.stop
  fails := h.fails
  passes := h.passes

theorem Dialogue.stops {key : String} {lines : List String} {d : Draft} {log : List Exchange}
    {result : Except RunFault Draft} (h : Dialogue r s key lines d log result) (hd : d.ended = false) :
    LinesAnswered r s lines log result ∨ ∃ front x o, LinesStopped r s key lines log result front x o := by
  induction h with
  | done d => exact .inl ⟨Answered.nil, rfl, d, rfl, hd⟩
  | refused line rest d e =>
    have hbegins := List.prefix_append [Call.write (Text.bytes (s.wireText line))]
      (.wait s.prompts r.profile.lineTimeout :: rest.flatMap (r.lineCalls s))
    exact .inr ⟨[], _, _, rfl, ⟨hbegins, fun y hy => (by cases hy), rfl⟩, Nat.succ_pos rest.length, .refused _ e,
      fun f hf => (by cases hf; rfl), fun hn => (by cases hn)⟩
  | failed line rest ha =>
    obtain ⟨w, rfl, rfl, hw⟩ := absorb_error ha
    exact .inr ⟨_, _, _, .wait rest (.failed hw) (fun f hf => by cases hf; rfl) (fun hn => by cases hn)⟩
  | @ended line rest d after x ha he =>
    obtain ⟨-, -, -, hcut⟩ := absorb_ok ha
    obtain ⟨hi, received, rfl⟩ := hcut he
    exact .inr ⟨_, _, _, .wait rest (.ended received hi) (fun f hf => by cases hf) (fun _ => ⟨after, rfl, he⟩)⟩
  | @next line rest d after x log result ha he _ ih =>
    obtain ⟨-, -, hfound, -⟩ := absorb_ok ha
    obtain ⟨m, rfl⟩ := hfound he
    rcases ih he with hall | ⟨front, y, o, hstop⟩
    · refine .inl ⟨(answered_line line m).append hall.answered, ?_, hall.result⟩
      rw [List.cons_append, List.cons_append, List.nil_append, waitsOf_line]
      exact congrArg Nat.succ hall.waits
    · exact .inr ⟨_, y, o, hstop.cons⟩

/-! ## All sections -/

/-- Every line of every section was answered, and the output is not over. -/
structure AllAnswered (r : Runner) (s : Session) (sections : List Section) (p : Progress) (log : List Exchange)
    (emitted : List Section) (result : Except RunFault Progress) : Prop where
  answered : Answered (r.sectionCalls s sections) log
  waits : (waitsOf log).length = r.profile.linesBefore sections sections.length
  emitted_length : emitted.length = sections.length
  result : ∃ after, result = .ok after ∧ after.ended = false ∧
    after.last = (emitted.getLast?.map (·.text)).getD p.last

/-- A line of the section `sec`, which is the one numbered `k`, met with a failure.  If that ends the run,
the sections before this one are emitted; if not, all are. -/
structure StoppedIn (r : Runner) (s : Session) (sections : List Section) (log : List Exchange)
    (emitted : List Section) (result : Except RunFault Progress) (k : Nat) (sec : Section)
    (front : List Exchange) (x : Exchange) (o : Option RunFault) : Prop where
  log_eq : log = front ++ [x]
  broken : BrokenOff (r.sectionCalls s sections) front x
  section_eq : sections[k]? = some sec
  line : r.profile.LineIn sections (waitsOf front).length k
  stop : Stop r s sec.key x o
  fails : ∀ f, o = some f → result = .error f ∧ emitted.length = k
  passes : o = none → ∃ after, result = .ok after ∧ after.ended = true ∧ emitted.length = sections.length ∧
    emitted[k]?.map (·.text) = some after.last

/-- A section whose lines were answered, before others. -/
theorem AllAnswered.cons {sec done : Section} {rest : List Section} {p q : Progress} {log more : List Exchange}
    {emitted : List Section} {result : Except RunFault Progress}
    (ha : Answered ((r.profile.linesOf sec.text).flatMap (r.lineCalls s)) log)
    (hw : (waitsOf log).length = r.profile.lineCount sec) (hlast : q.last = done.text)
    (h : AllAnswered r s rest q more emitted result) :
    AllAnswered r s (sec :: rest) p (log ++ more) (done :: emitted) result where
  answered := ha.append h.answered
  waits := by rw [waitsOf_append, List.length_append, List.length_cons, Profile.linesBefore_cons, hw, h.waits]
  emitted_length := congrArg Nat.succ h.emitted_length
  result := by
    obtain ⟨after, hres, he, hl⟩ := h.result
    refine ⟨after, hres, he, ?_⟩
    cases emitted with
    | nil => rw [hl, hlast]; rfl
    | cons y ys => rw [hl, List.getLast?_cons_cons, List.getLast?_eq_some_getLast (List.cons_ne_nil y ys)]; rfl

theorem StoppedIn.cons {sec done sec' : Section} {rest : List Section} {log more : List Exchange}
    {emitted : List Section} {result : Except RunFault Progress} {k : Nat} {front : List Exchange}
    {x : Exchange} {o : Option RunFault}
    (ha : Answered ((r.profile.linesOf sec.text).flatMap (r.lineCalls s)) log)
    (hw : (waitsOf log).length = r.profile.lineCount sec)
    (h : StoppedIn r s rest more emitted result k sec' front x o) :
    StoppedIn r s (sec :: rest) (log ++ more) (done :: emitted) result (k + 1) sec' (log ++ front) x o where
  log_eq := by rw [h.log_eq, List.append_assoc]
  broken := ha.brokenOff h.broken
  section_eq := h.section_eq
  line := by
    rw [waitsOf_append, List.length_append, hw]
    exact h.line.succ sec
  stop := h.stop
  fails f hf := ⟨(h.fails f hf).1, congrArg Nat.succ (h.fails f hf).2⟩
  passes hn := by
    obtain ⟨after, hr, he, hlen, hl⟩ := h.passes hn
    exact ⟨after, hr, he, congrArg Nat.succ hlen, hl⟩

/-- Once the output is over nothing more is sent that could count as the last of all. -/
theorem Course.ended_last {sections : List Section} {p after : Progress} {log : List Exchange}
    {emitted : List Section} {result : Except RunFault Progress} (h : Course r s sections p log emitted result)
    (he : p.ended = true) (hr : result = .ok after) : after.ended = true ∧ after.last = p.last := by
  induction h with
  | done p => cases hr; exact ⟨he, rfl⟩
  | silent _ _ _ ih => exact ih he hr
  | failed _ _ hne => rw [he] at hne; cases hne
  | next _ hne => rw [he] at hne; cases hne

/-- **Where the sections of a run stop.** -/
theorem Course.stops {sections : List Section} {p : Progress} {log : List Exchange} {emitted : List Section}
    {result : Except RunFault Progress} (h : Course r s sections p log emitted result) (he : p.ended = false) :
    AllAnswered r s sections p log emitted result ∨
    ∃ k sec front x o, StoppedIn r s sections log emitted result k sec front x o := by
  induction h with
  | done p => exact .inl ⟨Answered.nil, by simp [waitsOf_nil], rfl, p, rfl, he, rfl⟩
  | silent _ hend => rw [he] at hend; cases hend
  | failed sec rest _ hd =>
    rcases hd.stops rfl with hall | ⟨front, x, o, hstop⟩
    · obtain ⟨after, hres, -⟩ := hall.result
      cases hres
    · refine .inr ⟨0, sec, front, x, o, hstop.log_eq, hstop.broken.extend _, rfl, .zero rest hstop.waits,
        hstop.stop, fun f hf => ?_, fun hn => ?_⟩
      · cases hstop.fails f hf; exact ⟨rfl, rfl⟩
      · obtain ⟨after, hres, -⟩ := hstop.passes hn
        cases hres
  | @next sec rest p d log more emitted result _ hd hc ih =>
    rcases hd.stops rfl with hall | ⟨front, x, o, hstop⟩
    · obtain ⟨after, hres, hend⟩ := hall.result
      cases hres
      rcases ih hend with hrest | ⟨k, sec', front, x, o, hrest⟩
      · exact .inl (hrest.cons hall.answered hall.waits rfl)
      · exact .inr ⟨k + 1, sec', _, x, o, hrest.cons hall.answered hall.waits⟩
    · -- the section came to its end, so that it was the end of the output; the others are silent
      cases o with
      | some f => cases hstop.fails f rfl
      | none =>
        obtain ⟨after, hres, hend⟩ := hstop.passes rfl
        cases hres
        have htells := hd.tells rfl (r.profile.linesOf_ne_nil sec.text)
        have hcarry : d.carry = "" := by rw [htells.carry, (htells.cut hend).2.1.lastPrompt]
        obtain ⟨hmore, hem, after, hres⟩ := hc.ended_silent hend hcarry
        obtain ⟨hend', hlast⟩ := hc.ended_last hend hres
        refine .inr ⟨0, sec, front, x, none, ?_, hstop.broken.extend _, rfl, .zero rest hstop.waits, hstop.stop,
          fun f hf => (by cases hf), fun _ => ⟨after, hres, hend', ?_, ?_⟩⟩
        · rw [hmore, List.append_nil, hstop.log_eq]
        · rw [hem]; simp
        · rw [hlast]; rfl

/-! ## A whole run -/

/-- How a run goes: all that it asks of its channel, the transcripts, and what it reports. -/
inductive Ending (r : Runner) (s : Session) (sections : List Section) :
    List Exchange → List Section → Except RunFault Summary → Prop where
  | unstarted (f : WaitFault) :
      Ending r s sections [.wait s.initial r.profile.initialPromptTimeout (.error f)] []
        (.error (s.startFault r.profile.initialPromptTimeout f))
  | answered (first : PromptMatch) {p q : Progress} {log : List Exchange} {emitted : List Section}
      (code : Except CloseWarning (Option Nat)) : p.last = "" →
      AllAnswered r s sections p log emitted (.ok q) →
      Ending r s sections (.wait s.initial r.profile.initialPromptTimeout (.ok first) :: (log ++ [.close code])) emitted
        (r.conclude emitted q code.toOption.join)
  | failed (first : PromptMatch) {emitted : List Section} {k : Nat} {sec : Section} {front : List Exchange}
      {x : Exchange} {f : RunFault} :
      StoppedIn r s sections (front ++ [x]) emitted (.error f) k sec front x (some f) →
      Ending r s sections (.wait s.initial r.profile.initialPromptTimeout (.ok first) :: (front ++ [x])) emitted (.error f)
  | cut (first : PromptMatch) {q : Progress} {emitted : List Section} {k : Nat} {sec : Section}
      {front : List Exchange} {x : Exchange} (code : Except CloseWarning (Option Nat)) :
      StoppedIn r s sections (front ++ [x]) emitted (.ok q) k sec front x none →
      Ending r s sections (.wait s.initial r.profile.initialPromptTimeout (.ok first) :: (front ++ [x] ++ [.close code]))
        emitted (r.conclude emitted q code.toOption.join)

variable {σ : Type}

/-- **How every run goes.** -/
theorem drive_ending (r : Runner) (s : Session) (c : Channel σ) (sections : List Section) (st : σ) :
    Ending r s sections (r.log s c sections st) (r.drive s c sections st).1 (r.drive s c sections st).2.1 := by
  rcases drive_course r s c sections st with ⟨f, hlog, hem, hres⟩ | ⟨first, log, result, hc, hres⟩
  · rw [hlog, hem, hres]
    exact .unstarted f
  · have hstops := hc.stops rfl
    cases result with
    | error f =>
      obtain ⟨hlog, hres⟩ := hres
      rw [hlog, hres]
      rcases hstops with hall | ⟨k, sec, front, x, o, hstop⟩
      · obtain ⟨after, hne, -⟩ := hall.result
        cases hne
      · cases o with
        | some g =>
          cases (hstop.fails g rfl).1
          cases hstop.log_eq
          exact .failed first hstop
        | none =>
          obtain ⟨after, hne, -⟩ := hstop.passes rfl
          cases hne
    | ok q =>
      obtain ⟨code, hlog, hres⟩ := hres
      rw [hlog, hres, List.cons_append]
      rcases hstops with hall | ⟨k, sec, front, x, o, hstop⟩
      · exact .answered first code rfl hall
      · cases o with
        | some g => cases (hstop.fails g rfl).1
        | none =>
          cases hstop.log_eq
          exact .cut first code hstop

end Runner

end Transcripts
