import Transcripts.Channel.Script
import Transcripts.Proofs.Prompt.Prepared
import Transcripts.Proofs.Run.Carry
import Transcripts.Proofs.Text.Occurrences

/-!
# Echoes that are removed

Of what a wait after a line received, every echo artifact is taken out and all else is kept (`removeEcho_eq_flatten`).
The carriage return that such an artifact stood before is kept as well, and so is a blank before the artifact; then the
two of them look like another artifact (`echo_infix_removeEcho_iff`).  This is how an artifact can get into a transcript
from within what was received after a line, and the only one (`drive_removes_echoes`); what was printed before the first
line was sent is no echo, and nothing is taken out of it.
-/
namespace Transcripts

namespace Text

/-- What a terminal leaves behind where an echoed line was wrapped. -/
def echo : List Char := [' ', '\r']

/-- A blank and a carriage return with nothing but artifacts between them, one at least. -/
def HidesEcho (cs : List Char) : Prop := ∃ n, ' ' :: ((List.replicate (n + 1) echo).flatten ++ ['\r']) <:+: cs

/-! ## What is taken out -/

theorem removeEcho_eq_replaceAll (cs : List Char) : removeEcho cs = replaceAll echo [] cs := by
  fun_induction removeEcho cs with
  | case1 cs ih =>
    have hfront : replaceAll echo [] (echo ++ cs) = replaceAll echo [] cs := replaceAll_append (List.cons_ne_nil _ _) cs
    rw [ih]
    exact hfront.symm
  | case2 c cs hpair ih =>
    rw [ih, replaceAll_cons]
    rintro ⟨rest, hrest⟩
    obtain ⟨rfl, rfl⟩ := List.cons.inj hrest
    exact hpair rest rfl rfl
  | case3 => exact replaceAll_nil.symm

theorem join_nil_sep (pieces : List (List Char)) : join [] pieces = pieces.flatten := by
  induction pieces with
  | nil => exact join_nil []
  | cons x rest ih =>
    cases rest with
    | nil => simp [join_singleton]
    | cons y rest => rw [join_cons_cons, ih, List.nil_append, List.flatten_cons (l := x)]

/-- **Every artifact is removed**, and what stood between them is what is left. -/
theorem removeEcho_eq_flatten (cs : List Char) :
    ∃ pieces, cs = join echo pieces ∧ (∀ p ∈ pieces, ¬ echo <:+: p) ∧ removeEcho cs = pieces.flatten := by
  refine ⟨cut echo cs, (join_cutFrom 0 [] cs).symm, fun p hp => not_infix_of_mem_cut (List.cons_ne_nil _ _) hp, ?_⟩
  rw [removeEcho_eq_replaceAll, replaceAll, join_nil_sep]

/-- Nothing but artifacts is removed. -/
theorem removeEcho_eq_self_iff {cs : List Char} : removeEcho cs = cs ↔ ¬ echo <:+: cs := by
  obtain ⟨pieces, hcs, hnone, hleft⟩ := removeEcho_eq_flatten cs
  constructor
  · intro h
    -- each separator that was removed makes the text shorter
    have hlen := join_length echo pieces
    rw [← hcs, ← hleft, h] at hlen
    have hshort : pieces.length - 1 = 0 := by
      simp only [echo, List.length_cons, List.length_nil] at hlen
      omega
    match pieces with
    | [] => simp [hcs, join_nil, echo]
    | [x] =>
      rw [hcs, join_singleton]
      exact hnone x List.mem_cons_self
    | _ :: _ :: _ => simp at hshort
  · intro h
    match pieces with
    | [] => rw [hleft, hcs, join_nil, List.flatten_nil]
    | [x] => rw [hleft, hcs, join_singleton, List.flatten_singleton]
    | x :: y :: rest =>
      rw [join_cons_cons] at hcs
      exact absurd ⟨x, join echo (y :: rest), by rw [hcs, List.append_assoc]⟩ h

/-! ## What comes together -/

/-- A carriage return comes to the front behind artifacts only. -/
theorem removeEcho_head_iff {cs : List Char} :
    (removeEcho cs).head? = some '\r' ↔ ∃ n, (List.replicate n echo).flatten ++ ['\r'] <+: cs := by
  fun_induction removeEcho cs with
  | case1 cs ih =>
    rw [ih]
    constructor
    · rintro ⟨n, hn⟩
      refine ⟨n + 1, ?_⟩
      rw [List.replicate_succ, List.flatten_cons, List.append_assoc]
      exact (List.prefix_append_right_inj echo).2 hn
    · rintro ⟨n, hn⟩
      cases n with
      | zero => simp at hn
      | succ n =>
        rw [List.replicate_succ, List.flatten_cons, List.append_assoc] at hn
        exact ⟨n, (List.prefix_append_right_inj echo).1 hn⟩
  | case2 c cs hpair ih =>
    rw [List.head?_cons, Option.some_inj]
    constructor
    · rintro rfl
      exact ⟨0, by simp⟩
    · rintro ⟨n, rest, hn⟩
      cases n with
      | zero => exact (List.cons.inj hn).1.symm
      | succ n =>
        obtain ⟨rfl, rfl⟩ := List.cons.inj hn
        exact absurd rfl (hpair _ rfl)
  | case3 => simp

/-- **An artifact is left** just if removing others brings its two characters together. -/
theorem echo_infix_removeEcho_iff {cs : List Char} : echo <:+: removeEcho cs ↔ HidesEcho cs := by
  unfold HidesEcho
  fun_induction removeEcho cs with
  | case1 cs ih =>
    rw [ih]
    refine exists_congr fun n => ?_
    -- neither the blank nor the carriage return of an artifact at the start begins another one
    simp [List.infix_cons_iff, List.replicate_succ, echo]
  | case2 c cs hpair ih =>
    have hhead : (c = ' ' ∧ (removeEcho cs).head? = some '\r') ↔
        ∃ n, ' ' :: ((List.replicate (n + 1) echo).flatten ++ ['\r']) <+: c :: cs := by
      rw [removeEcho_head_iff]
      simp only [List.cons_prefix_cons]
      constructor
      · rintro ⟨rfl, n, hn⟩
        cases n with
        | zero =>
          obtain ⟨rest, rfl⟩ := hn
          exact absurd rfl (hpair rest rfl)
        | succ n => exact ⟨n, rfl, hn⟩
      · rintro ⟨n, rfl, hn⟩
        exact ⟨rfl, n + 1, hn⟩
    have hfront : echo <+: c :: removeEcho cs ↔ c = ' ' ∧ (removeEcho cs).head? = some '\r' := by
      rw [echo, List.cons_prefix_cons, eq_comm (a := ' ')]
      refine and_congr_right fun _ => ?_
      cases removeEcho cs <;> simp [eq_comm]
    simp only [List.infix_cons_iff, hfront, hhead, ih, exists_or]
  | case3 => simp [echo]

theorem removeEcho_removeEcho_iff {cs : List Char} : removeEcho (removeEcho cs) = removeEcho cs ↔ ¬ HidesEcho cs := by
  rw [removeEcho_eq_self_iff, echo_infix_removeEcho_iff]

end Text

namespace Runner

open Transcripts.Text (echo HidesEcho removeEcho)

variable {σ : Type}

/-- A transcript is what the waits of its section tell. -/
theorem drive_text {r : Runner} {s : Session} {c : Channel σ} {sections : List Section} {st : σ} {k : Nat} {x : Section}
    (h : (r.drive s c sections st).1[k]? = some x) :
    ∃ sec initial log, sections[k]? = some sec ∧
      r.log s c sections st = .wait s.initial r.profile.initialPromptTimeout (.ok initial) :: log ∧
      x = ⟨sec.key, r.clean (r.rawText (initial.pre ++ initial.matched) sections (waitsOf log) k)⟩ := by
  rcases drive_course r s c sections st with ⟨f, -, hem, -⟩ | ⟨initial, log, result, hc, hres⟩
  · rw [hem] at h
    cases h
  · obtain ⟨sec, hsec, htext, -⟩ := (hc.carried rfl).text h
    cases result with
    | error f => exact ⟨sec, initial, log, hsec, hres.1, htext⟩
    | ok p =>
      obtain ⟨code, hlog, -⟩ := hres
      have hwaits : waitsOf (log ++ [.close code]) = waitsOf log := by
        rw [waitsOf_append]
        exact List.append_nil _
      exact ⟨sec, initial, log ++ [.close code], hsec, by rw [hlog, List.cons_append], by rw [hwaits]; exact htext⟩

/-- **What is left of echoes.**  Every artifact that stands in a text is removed, and what stood between them is kept in
order.  What is left holds an artifact, and changes if artifacts are removed again, exactly if the text holds a blank and
a carriage return with nothing but artifacts between them, one at least.

So let the section numbered `k` be emitted in a run.  Before the profile's pattern is taken out, its text is what its own
waits received, each text without its artifacts, with the prompts between; and what such a text adds to it holds an
artifact exactly if the wait received one that was hidden like this.  In front of the first of all stands what was printed
before the first line was sent, as it is. -/
theorem drive_removes_echoes (r : Runner) (s : Session) (c : Channel σ) (sections : List Section) (st : σ) :
    (∀ cs : List Char,
      (∃ pieces, cs = Text.join echo pieces ∧ (∀ p ∈ pieces, ¬ echo <:+: p) ∧ removeEcho cs = pieces.flatten) ∧
      (echo <:+: removeEcho cs ↔ HidesEcho cs) ∧
      (removeEcho (removeEcho cs) = removeEcho cs ↔ ¬ HidesEcho cs)) ∧
    ∀ k x, (r.drive s c sections st).1[k]? = some x → ∃ sec initial log, sections[k]? = some sec ∧
      r.log s c sections st = .wait s.initial r.profile.initialPromptTimeout (.ok initial) :: log ∧
      let own := r.ownWaits sections (waitsOf log) k
      let before := r.carryInto (initial.pre ++ initial.matched) sections (waitsOf log) k
      x = ⟨sec.key, r.clean (spoken before own)⟩ ∧
      ∀ w ∈ own, echo <:+: (unechoed w.text).toList ↔ HidesEcho w.text.toList := by
  constructor
  · intro cs
    exact ⟨Text.removeEcho_eq_flatten cs, Text.echo_infix_removeEcho_iff, Text.removeEcho_removeEcho_iff⟩
  · intro k x hx
    obtain ⟨sec, initial, log, hsec, hlog, htext⟩ := drive_text hx
    refine ⟨sec, initial, log, hsec, hlog, htext, fun w _ => ?_⟩
    rw [unechoed, String.toList_ofList]
    exact Text.echo_infix_removeEcho_iff

/-- A blank at the end of an echoed line, and the end of a line behind the artifact, come together; and the banner is
taken as it is. -/
theorem drive_leaves_echoes :
    let p : Profile := { name := "sh", command := "sh" }
    let s : Session := ⟨.literal ["\n>>>", "\n..."], .literal ["\n>>>", "\n..."], "\n"⟩
    let script : Script := {
      banner := [⟨.send (.data (Text.bytes "hi \r\n>>>")), 0⟩]
      otherwise := [⟨.send (.data (Text.bytes "  \r\r\n>>>")), 0⟩] }
    Session.ofProfile p = .ok s ∧ Runner.ofProfile p = .ok ⟨p, none⟩ ∧
    (waitsOf (Runner.log ⟨p, none⟩ s script.channel [⟨"a", "1"⟩] script.start)).map WaitResult.text =
      ["hi \r", "  \r\r", "  \r\r"] ∧
    (Runner.drive ⟨p, none⟩ s script.channel [⟨"a", "1"⟩] script.start).1 = [⟨"a", "hi \r\n>>> \r\n>>> \r"⟩] ∧
    echo <:+: removeEcho "  \r\r".toList ∧ removeEcho (removeEcho "  \r\r".toList) ≠ removeEcho "  \r\r".toList := by
  intro p s script
  have hv : Profile.validate { name := "sh", command := "sh" } = .ok () := rfl
  have hr : Runner.ofProfile p = .ok ⟨p, none⟩ := by rw [Runner.ofProfile, hv]; rfl
  have hs : Session.ofProfile p = .ok s := (Session.ofProfile_literal rfl rfl).2 ⟨by decide, rfl⟩
  exact ⟨hs, hr, by decide, by decide, by decide, by decide⟩

end Runner

end Transcripts
