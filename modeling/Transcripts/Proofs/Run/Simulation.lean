import Transcripts.Run

/-!
# Channels that answer alike

Two channels answer alike if their states can be paired so that every call gives the same result.  A
run cannot tell them apart (`drive_alike`).  Once a wait or a write has failed nothing more is asked of a
channel but its end, so that less has to hold of the states from then on.
-/
namespace Transcripts

open Transcripts.Text (Bytes)

variable {σ τ : Type}

theorem mapError_ok {ε δ α : Type} (f : ε → δ) (v : α) : (Except.ok v).mapError f = .ok v := rfl

/-- Two steps have the same result.  Their states are paired by `Over`, and by `Live` if the step
succeeded with something that is not the last. -/
structure SameStep {ε α : Type} (Live Over : σ → τ → Prop) (last : α → Bool) (x : Except ε α × σ)
    (y : Except ε α × τ) : Prop where
  result : x.1 = y.1
  done : Over x.2 y.2
  live : ∀ v, x.1 = .ok v → last v = false → Live x.2 y.2

theorem SameStep.pair {ε α : Type} {Live Over : σ → τ → Prop} {last : α → Bool} {x : Except ε α × σ}
    {y : Except ε α × τ} (h : SameStep Live Over last x y) :
    ∃ res a b, x = (res, a) ∧ y = (res, b) ∧ Over a b ∧
      ∀ v, res = .ok v → last v = false → Live a b := by
  obtain ⟨hr, ho, hl⟩ := h
  exact ⟨x.1, x.2, y.2, rfl, by rw [hr], ho, hl⟩

/-- The channels `c` and `d` answer alike while their states are paired by `Live`, and after a failure they
are still paired by `Over`. -/
structure Alike (s : Session) (c : Channel σ) (d : Channel τ) (Live Over : σ → τ → Prop) : Prop where
  weaken : ∀ {a b}, Live a b → Over a b
  await : ∀ {a b}, Live a b → ∀ m, m = s.initial ∨ m = s.prompts → ∀ t,
    SameStep Live Over (fun _ => false) (c.await m t a) (d.await m t b)
  write : ∀ {a b}, Live a b → ∀ bs, SameStep Live Over (fun _ => false) (c.write bs a) (d.write bs b)
  close : ∀ {a b}, Over a b → (c.close a).1 = (d.close b).1 ∧ Over (c.close a).2 (d.close b).2

namespace Runner

variable {s : Session} {c : Channel σ} {d : Channel τ} {Live Over : σ → τ → Prop}

/-- A section goes on after a wait that found its prompt, and if the profile lets that pass it ends well
with the output. -/
theorem absorb_cases {r : Runner} {key : String} {draft after : Draft} {x : WaitResult}
    (h : r.absorb s key draft x = .ok after) :
    (∃ m, x = .ok m ∧ after = ⟨draft.transcript ++ draft.carry ++ String.ofList (Text.removeEcho m.pre.toList),
      m.matched, false⟩) ∨
    (r.profile.ignoreErrors = true ∧ ∃ received, x = .error (.endOfStream received) ∧
      after = ⟨draft.transcript ++ draft.carry ++ String.ofList (Text.removeEcho received.toList), "", true⟩) := by
  cases x with
  | ok m => cases h; exact .inl ⟨m, rfl, rfl⟩
  | error f =>
    cases f with
    | endOfStream received =>
      simp only [absorb] at h
      split at h
      · rename_i hi; cases h; exact .inr ⟨hi, received, rfl, rfl⟩
      · cases h
    | timedOut received => cases h
    | fault message => cases h
    | endless => cases h
    | beyondClock => cases h

theorem sendLine_alike (h : Alike s c d Live Over) (r : Runner) (key line : String) (draft : Draft)
    {a : σ} {b : τ} (hab : Live a b) :
    SameStep Live Over Draft.ended (r.sendLine s c key line draft a) (r.sendLine s d key line draft b) := by
  obtain ⟨res, a', b', hx, hy, ho, hl⟩ := (h.write hab (Text.bytes (s.wireText line))).pair
  simp only [sendLine, Session.send, Session.awaitPrompt, hx, hy]
  cases res with
  | error e => exact ⟨rfl, ho, fun v hv => by cases hv⟩
  | ok u =>
    have hw := h.await (hl u rfl rfl) s.prompts (.inr rfl) r.profile.lineTimeout
    obtain ⟨out, a'', b'', hx', hy', ho', hl'⟩ := hw.pair
    simp only [mapError_ok, hx', hy']
    refine ⟨rfl, ho', fun v hv he => ?_⟩
    rcases absorb_cases hv with ⟨m, hm, -⟩ | ⟨-, received, -, rfl⟩
    · exact hl' m hm rfl
    · cases he

theorem sendLines_alike (h : Alike s c d Live Over) (r : Runner) (key : String) :
    ∀ (lines : List String) (draft : Draft) (a : σ) (b : τ), Live a b →
      SameStep Live Over Draft.ended (r.sendLines s c key lines draft a) (r.sendLines s d key lines draft b) := by
  intro lines
  induction lines with
  | nil => intro draft a b hab; exact ⟨rfl, h.weaken hab, fun _ _ _ => hab⟩
  | cons line rest ih =>
    intro draft a b hab
    obtain ⟨res, a', b', hx, hy, ho, hl⟩ := (sendLine_alike h r key line draft hab).pair
    simp only [sendLines, hx, hy]
    cases res with
    | error f => exact ⟨rfl, ho, fun v hv => by cases hv⟩
    | ok after =>
      -- once the output is over no line is sent, so that the states need not be paired by `Live`
      cases he : after.ended with
      | true =>
        simp only [he, if_true]
        exact ⟨rfl, ho, fun v hv hne => by cases hv; rw [he] at hne; cases hne⟩
      | false =>
        simp only [he, Bool.false_eq_true, if_false]
        exact ih after a' b' (hl after rfl he)

theorem runSection_alike (h : Alike s c d Live Over) (r : Runner) (sec : Section) (p : Progress)
    {a : σ} {b : τ} (ho : Over a b) (hl : p.ended = false → Live a b) :
    SameStep Live Over (·.2.ended) (r.runSection s c sec p a) (r.runSection s d sec p b) := by
  cases he : p.ended with
  | true =>
    simp only [runSection, he, if_true]
    exact ⟨rfl, ho, fun v hv hne => by cases hv; cases hne⟩
  | false =>
    have hs := sendLines_alike h r sec.key (r.profile.linesOf sec.text) ⟨p.carry, "", false⟩ a b (hl he)
    obtain ⟨res, a', b', hx, hy, ho', hl'⟩ := hs.pair
    simp only [runSection, he, Bool.false_eq_true, if_false, hx, hy]
    cases res with
    | error f => exact ⟨rfl, ho', fun v hv => by cases hv⟩
    | ok draft => exact ⟨rfl, ho', fun v hv hne => by cases hv; exact hl' draft rfl hne⟩

theorem runSections_alike (h : Alike s c d Live Over) (r : Runner) :
    ∀ (sections : List Section) (p : Progress) (a : σ) (b : τ), Over a b → (p.ended = false → Live a b) →
      let x := r.runSections s c sections p a
      let y := r.runSections s d sections p b
      x.1 = y.1 ∧ x.2.1 = y.2.1 ∧ Over x.2.2 y.2.2 := by
  intro sections
  induction sections with
  | nil => intro p a b ho _; exact ⟨rfl, rfl, ho⟩
  | cons sec rest ih =>
    intro p a b ho hl
    obtain ⟨res, a', b', hx, hy, ho', hl'⟩ := (runSection_alike h r sec p ho hl).pair
    simp only [runSections, hx, hy]
    cases res with
    | error f => exact ⟨rfl, rfl, ho'⟩
    | ok done =>
      obtain ⟨hem, hres, hst⟩ := ih done.2 a' b' ho' (hl' done rfl)
      exact ⟨by simp only [hem], hres, hst⟩

/-- **A run cannot tell apart channels that answer alike.** -/
theorem drive_alike (h : Alike s c d Live Over) (r : Runner) (sections : List Section) {a : σ} {b : τ}
    (hab : Live a b) :
    let x := r.drive s c sections a
    let y := r.drive s d sections b
    x.1 = y.1 ∧ x.2.1 = y.2.1 ∧ Over x.2.2 y.2.2 := by
  obtain ⟨res, a', b', hx, hy, ho, hl⟩ :=
    (h.await hab s.initial (.inl rfl) r.profile.initialPromptTimeout).pair
  simp only [drive, Session.awaitStart, hx, hy]
  cases res with
  | error f => exact ⟨rfl, rfl, ho⟩
  | ok m =>
    obtain ⟨hem, hres, hst⟩ := runSections_alike h r sections { carry := m.pre ++ m.matched } a' b' ho
      fun _ => hl m rfl rfl
    simp only [mapError_ok]
    cases hx' : r.runSections s c sections { carry := m.pre ++ m.matched } a' with
    | mk emitted x =>
      cases hy' : r.runSections s d sections { carry := m.pre ++ m.matched } b' with
      | mk emitted' y =>
        obtain ⟨res, a''⟩ := x
        obtain ⟨res', b''⟩ := y
        simp only [hx', hy'] at hem hres hst
        subst hem hres
        cases res with
        | error f => exact ⟨rfl, rfl, hst⟩
        | ok p =>
          obtain ⟨hc, hco⟩ := h.close hst
          exact ⟨rfl, by simp only [hc], hco⟩

end Runner

end Transcripts
