import Transcripts.Proofs.Run.Simulation

/-!
# Recorded runs

A channel can be told to write down every call and its result.  That changes nothing else about a run
(`drive_recorded`), and what was written down is what the run did: `Dialogue` and `Course` say which
calls a section and a list of sections make, and what comes of them, without a word about the channel.
-/
namespace Transcripts

open Transcripts.Text (Bytes)

variable {σ τ : Type}

/-- One call and its result. -/
inductive Exchange where
  | wait (prompts : PromptMatcher) (timeout : Timeout) (result : WaitResult)
  | write (bs : Bytes) (result : Except String Unit)
  | close (result : Except CloseWarning (Option Nat))

def Exchange.wait? : Exchange → Option WaitResult
  | .wait _ _ result => some result
  | _ => none

/-- The results of the waits, in order. -/
def waitsOf (log : List Exchange) : List WaitResult := log.filterMap Exchange.wait?

theorem waitsOf_nil : waitsOf [] = [] := rfl

theorem waitsOf_line (bs : Bytes) (sent : Except String Unit) (m : PromptMatcher) (t : Timeout) (x : WaitResult)
    (log : List Exchange) : waitsOf (.write bs sent :: .wait m t x :: log) = x :: waitsOf log := rfl

theorem waitsOf_append (xs ys : List Exchange) : waitsOf (xs ++ ys) = waitsOf xs ++ waitsOf ys :=
  List.filterMap_append ..

/-- A channel that writes down every call behind a log. -/
def Channel.recorded (c : Channel σ) : Channel (σ × List Exchange) where
  await m t x := ((c.await m t x.1).1, (c.await m t x.1).2, x.2 ++ [.wait m t (c.await m t x.1).1])
  write bs x := ((c.write bs x.1).1, (c.write bs x.1).2, x.2 ++ [.write bs (c.write bs x.1).1])
  close x := ((c.close x.1).1, (c.close x.1).2, x.2 ++ [.close (c.close x.1).1])

@[simp] theorem Channel.recorded_await (c : Channel σ) (m : PromptMatcher) (t : Timeout) (st : σ)
    (log : List Exchange) :
    c.recorded.await m t (st, log) =
      ((c.await m t st).1, (c.await m t st).2, log ++ [.wait m t (c.await m t st).1]) := rfl

@[simp] theorem Channel.recorded_write (c : Channel σ) (bs : Bytes) (st : σ) (log : List Exchange) :
    c.recorded.write bs (st, log) = ((c.write bs st).1, (c.write bs st).2, log ++ [.write bs (c.write bs st).1]) :=
  rfl

@[simp] theorem Channel.recorded_close (c : Channel σ) (st : σ) (log : List Exchange) :
    c.recorded.close (st, log) = ((c.close st).1, (c.close st).2, log ++ [.close (c.close st).1]) := rfl

theorem recorded_alike (s : Session) (c : Channel σ) :
    Alike s c.recorded c (fun x st => x.1 = st) (fun x st => x.1 = st) where
  weaken h := h
  await h _ _ _ := by subst h; exact ⟨rfl, rfl, fun _ _ _ => rfl⟩
  write h _ := by subst h; exact ⟨rfl, rfl, fun _ _ _ => rfl⟩
  close h := by subst h; exact ⟨rfl, rfl⟩

/-- Channels that answer alike do so while they are recorded, and their logs are the same. -/
theorem Alike.recorded {s : Session} {c : Channel σ} {d : Channel τ} {Live Over : σ → τ → Prop}
    (h : Alike s c d Live Over) :
    Alike s c.recorded d.recorded (fun x y => Live x.1 y.1 ∧ x.2 = y.2) (fun x y => Over x.1 y.1 ∧ x.2 = y.2) where
  weaken hab := ⟨h.weaken hab.1, hab.2⟩
  await := by
    rintro ⟨a, log⟩ ⟨b, log'⟩ ⟨hab, hlog⟩ m hm t
    simp only at hab hlog
    subst hlog
    obtain ⟨hr, ho, hl⟩ := h.await hab m hm t
    exact ⟨hr, ⟨ho, by simp only [Channel.recorded_await, hr]⟩,
      fun v hv hne => ⟨hl v hv hne, by simp only [Channel.recorded_await, hr]⟩⟩
  write := by
    rintro ⟨a, log⟩ ⟨b, log'⟩ ⟨hab, hlog⟩ bs
    simp only at hab hlog
    subst hlog
    obtain ⟨hr, ho, hl⟩ := h.write hab bs
    exact ⟨hr, ⟨ho, by simp only [Channel.recorded_write, hr]⟩,
      fun v hv hne => ⟨hl v hv hne, by simp only [Channel.recorded_write, hr]⟩⟩
  close := by
    rintro ⟨a, log⟩ ⟨b, log'⟩ ⟨hab, hlog⟩
    simp only at hab hlog
    subst hlog
    obtain ⟨hr, ho⟩ := h.close hab
    exact ⟨hr, ho, by simp only [Channel.recorded_close, hr]⟩

namespace Runner

/-- All that a run asks of its channel, with the answers. -/
def log (r : Runner) (s : Session) (c : Channel σ) (sections : List Section) (st : σ) : List Exchange :=
  (r.drive s c.recorded sections (st, [])).2.2.2

/-- Recording a run does not change it. -/
theorem drive_recorded (r : Runner) (s : Session) (c : Channel σ) (sections : List Section) (st : σ) :
    let x := r.drive s c.recorded sections (st, [])
    x.1 = (r.drive s c sections st).1 ∧ x.2.1 = (r.drive s c sections st).2.1 ∧
    x.2.2.1 = (r.drive s c sections st).2.2 :=
  drive_alike (recorded_alike s c) r sections (a := (st, [])) rfl

/-- A run asks the same of channels that answer alike. -/
theorem log_alike {s : Session} {c : Channel σ} {d : Channel τ} {Live Over : σ → τ → Prop}
    (h : Alike s c d Live Over) (r : Runner) (sections : List Section) {a : σ} {b : τ} (hab : Live a b) :
    r.log s c sections a = r.log s d sections b :=
  (drive_alike h.recorded r sections (a := (a, [])) (b := (b, [])) ⟨hab, rfl⟩).2.2.2

/-! ## What a run asks -/

/-- The lines of a section, the draft before them, what is asked of the channel, and what comes of it. -/
inductive Dialogue (r : Runner) (s : Session) (key : String) :
    List String → Draft → List Exchange → Except RunFault Draft → Prop where
  | done (d : Draft) : Dialogue r s key [] d [] (.ok d)
  | refused (line : String) (rest : List String) (d : Draft) (e : String) :
      Dialogue r s key (line :: rest) d [.write (Text.bytes (s.wireText line)) (.error e)]
        (.error (.process ("failed to send line: " ++ e)))
  | failed (line : String) (rest : List String) {d : Draft} {x : WaitResult} {f : RunFault} :
      r.absorb s key d x = .error f →
      Dialogue r s key (line :: rest) d
        [.write (Text.bytes (s.wireText line)) (.ok ()), .wait s.prompts r.profile.lineTimeout x] (.error f)
  | ended (line : String) (rest : List String) {d after : Draft} {x : WaitResult} :
      r.absorb s key d x = .ok after → after.ended = true →
      Dialogue r s key (line :: rest) d
        [.write (Text.bytes (s.wireText line)) (.ok ()), .wait s.prompts r.profile.lineTimeout x] (.ok after)
  | next (line : String) {rest : List String} {d after : Draft} {x : WaitResult} {log : List Exchange}
      {result : Except RunFault Draft} :
      r.absorb s key d x = .ok after → after.ended = false → Dialogue r s key rest after log result →
      Dialogue r s key (line :: rest) d
        ([.write (Text.bytes (s.wireText line)) (.ok ()), .wait s.prompts r.profile.lineTimeout x] ++ log) result

/-- Sections, the progress before them, what is asked of the channel, the transcripts, and what comes of
it all. -/
inductive Course (r : Runner) (s : Session) :
    List Section → Progress → List Exchange → List Section → Except RunFault Progress → Prop where
  | done (p : Progress) : Course r s [] p [] [] (.ok p)
  | silent (sec : Section) {rest : List Section} {p : Progress} {log : List Exchange} {emitted : List Section}
      {result : Except RunFault Progress} :
      p.ended = true → Course r s rest { p with carry := "" } log emitted result →
      Course r s (sec :: rest) p log (⟨sec.key, r.clean p.carry⟩ :: emitted) result
  | failed (sec : Section) (rest : List Section) {p : Progress} {log : List Exchange} {f : RunFault} :
      p.ended = false →
      Dialogue r s sec.key (r.profile.linesOf sec.text) ⟨p.carry, "", false⟩ log (.error f) →
      Course r s (sec :: rest) p log [] (.error f)
  | next (sec : Section) {rest : List Section} {p : Progress} {d : Draft} {log more : List Exchange}
      {emitted : List Section} {result : Except RunFault Progress} :
      p.ended = false →
      Dialogue r s sec.key (r.profile.linesOf sec.text) ⟨p.carry, "", false⟩ log (.ok d) →
      Course r s rest ⟨d.carry, d.ended, r.clean d.transcript⟩ more emitted result →
      Course r s (sec :: rest) p (log ++ more) (⟨sec.key, r.clean d.transcript⟩ :: emitted) result

/-! ## Runs ask this -/

variable {r : Runner} {s : Session} {c : Channel σ}

theorem sendLines_dialogue (key : String) : ∀ (lines : List String) (d : Draft) (st : σ) (log : List Exchange),
    ∃ new st', (r.sendLines s c.recorded key lines d (st, log)).2 = (st', log ++ new) ∧
      Dialogue r s key lines d new (r.sendLines s c.recorded key lines d (st, log)).1 := by
  intro lines
  induction lines with
  | nil => intro d st log; exact ⟨[], st, by simp [sendLines], .done d⟩
  | cons line rest ih =>
    intro d st log
    simp only [sendLines, sendLine, Session.send, Session.awaitPrompt, Channel.recorded_write]
    cases hw : (c.write (Text.bytes (s.wireText line)) st).1 with
    | error e => exact ⟨_, _, rfl, .refused line rest d e⟩
    | ok u =>
      simp only [mapError_ok, Channel.recorded_await, List.append_assoc, List.singleton_append]
      generalize hx : c.await s.prompts r.profile.lineTimeout (c.write (Text.bytes (s.wireText line)) st).2 = x
      obtain ⟨x, st'⟩ := x
      simp only
      cases ha : r.absorb s key d x with
      | error f => exact ⟨_, _, rfl, .failed line rest ha⟩
      | ok after =>
        cases he : after.ended with
        | true =>
          simp only [he, if_true]
          exact ⟨_, _, rfl, .ended line rest ha he⟩
        | false =>
          simp only [he, Bool.false_eq_true, if_false]
          obtain ⟨new, st'', hlog, hd⟩ := ih after st' (log ++ [.write (Text.bytes (s.wireText line)) (.ok u),
            .wait s.prompts r.profile.lineTimeout x])
          exact ⟨_, st'', by rw [← List.append_assoc]; exact hlog, .next line ha he hd⟩

theorem runSections_course : ∀ (sections : List Section) (p : Progress) (st : σ) (log : List Exchange),
    ∃ new st', (r.runSections s c.recorded sections p (st, log)).2.2 = (st', log ++ new) ∧
      Course r s sections p new (r.runSections s c.recorded sections p (st, log)).1
        (r.runSections s c.recorded sections p (st, log)).2.1 := by
  intro sections
  induction sections with
  | nil => intro p st log; exact ⟨[], st, by simp [runSections], .done p⟩
  | cons sec rest ih =>
    intro p st log
    cases he : p.ended with
    | true =>
      simp only [runSections, runSection, he, if_true]
      obtain ⟨new, st', hlog, hc⟩ := ih { p with carry := "" } st log
      simp only [he] at hlog hc
      exact ⟨new, st', hlog, .silent sec he (by simp only [he]; exact hc)⟩
    | false =>
      obtain ⟨new, st', hlog, hd⟩ := sendLines_dialogue (r := r) (s := s) (c := c) sec.key
        (r.profile.linesOf sec.text) ⟨p.carry, "", false⟩ st log
      simp only [runSections, runSection, he, Bool.false_eq_true, if_false]
      generalize hx : r.sendLines s c.recorded sec.key (r.profile.linesOf sec.text) ⟨p.carry, "", false⟩
        (st, log) = x at hlog hd ⊢
      obtain ⟨res, x⟩ := x
      simp only at hlog hd
      subst hlog
      cases res with
      | error f => exact ⟨new, st', rfl, .failed sec rest he hd⟩
      | ok d =>
        obtain ⟨more, st'', hlog, hc⟩ := ih ⟨d.carry, d.ended, r.clean d.transcript⟩ st' (log ++ new)
        exact ⟨new ++ more, st'', by rw [← List.append_assoc]; exact hlog, .next sec he hd hc⟩

/-- **What a run asks.**  It waits for the first prompt, runs its course, and ends the channel if nothing
failed. -/
theorem drive_course (r : Runner) (s : Session) (c : Channel σ) (sections : List Section) (st : σ) :
    (∃ f, r.log s c sections st = [.wait s.initial r.profile.initialPromptTimeout (.error f)] ∧
      (r.drive s c sections st).1 = [] ∧
      (r.drive s c sections st).2.1 = .error (s.startFault r.profile.initialPromptTimeout f)) ∨
    ∃ first log result,
      Course r s sections { carry := first.pre ++ first.matched } log (r.drive s c sections st).1 result ∧
      match result with
      | .error f =>
        r.log s c sections st = .wait s.initial r.profile.initialPromptTimeout (.ok first) :: log ∧
        (r.drive s c sections st).2.1 = .error f
      | .ok p => ∃ code,
        r.log s c sections st =
          .wait s.initial r.profile.initialPromptTimeout (.ok first) :: log ++ [.close code] ∧
        (r.drive s c sections st).2.1 = r.conclude (r.drive s c sections st).1 p code.toOption.join := by
  obtain ⟨hem, hres, -⟩ := drive_recorded r s c sections st
  rw [← hem, ← hres]
  clear hem hres
  unfold log
  simp only [drive, Session.awaitStart, Channel.recorded_await, List.nil_append]
  generalize hx : c.await s.initial r.profile.initialPromptTimeout st = x
  obtain ⟨x, st'⟩ := x
  cases x with
  | error f => exact .inl ⟨f, rfl, rfl, rfl⟩
  | ok first =>
    simp only [mapError_ok]
    obtain ⟨new, st'', hlog, hc⟩ := runSections_course (r := r) (s := s) (c := c) sections
      { carry := first.pre ++ first.matched } st' [.wait s.initial r.profile.initialPromptTimeout (.ok first)]
    generalize hy : r.runSections s c.recorded sections { carry := first.pre ++ first.matched }
      (st', [.wait s.initial r.profile.initialPromptTimeout (.ok first)]) = y at hlog hc ⊢
    obtain ⟨emitted, result, y⟩ := y
    simp only at hlog hc
    subst hlog
    cases result with
    | error f => exact .inr ⟨first, new, .error f, hc, rfl, rfl⟩
    | ok p => exact .inr ⟨first, new, .ok p, hc, (c.close st'').1, rfl, rfl⟩

end Runner

end Transcripts
