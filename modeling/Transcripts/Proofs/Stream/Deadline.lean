import Mathlib.Order.Bounds.Defs
import Transcripts.Proofs.Stream.Account

/-!
# Waits with a deadline

A wait with a timeout has a deadline: the end of the timeout, rounded up to the next tick of the clock.  What can be
received before it is settled when the wait starts (`incoming`), and after each of these receipts there may be a verdict:
a match, an end of the output that comes next, or the deadline if nothing comes.  A wait ends with the first verdict
(`Waits.endsWith`): reading a chunk leaves the verdicts that follow as they are (`verdict_succ`).
-/
namespace Transcripts

open Transcripts.Text (Bytes)

namespace Stream

/-! ## Arrivals in order of time -/

/-- The arrivals come in order of time. -/
def Ordered (s : Stream) : Prop := s.arrivals.Pairwise (·.due ≤ ·.due)

instance (s : Stream) : Decidable s.Ordered := inferInstanceAs (Decidable (s.arrivals.Pairwise (·.due ≤ ·.due)))

end Stream

namespace Stream

/-! ## Deadlines -/

theorem giveUp_of_le {s : Stream} {deadline : Nat} (hs : s.now ≤ deadline) :
    s.giveUp (some deadline) = (.timedOut s.buffer, { s with now := deadline }) := by
  simp only [giveUp, Nat.max_eq_right hs]

/-- A chunk that is read in time does not take the clock past the deadline. -/
theorem now_le_of_inTime {s : Stream} {a : Arrival} {deadline : Nat} (hs : s.now ≤ deadline)
    (h : s.inTime (some deadline) a = true) : max s.now a.due ≤ deadline := by
  simp only [inTime, Option.all_some, Bool.or_eq_true, decide_eq_true_eq] at h
  omega

end Stream

/-- Whether a chunk is there already or due before a deadline. -/
def Arrival.before (now deadline : Nat) (a : Arrival) : Bool := a.due ≤ now || a.due < deadline

theorem Arrival.before_iff {now deadline : Nat} {a : Arrival} :
    a.before now deadline ↔ a.due ≤ now ∨ a.due < deadline := by
  simp [before]

namespace Stream

/-- What can be received before a deadline: the chunks that are due by then and, if these are all and the sender is
gone, the news of that. -/
def incoming (s : Stream) (deadline : Nat) : List Receipt :=
  (s.arrivals.filter (·.before s.now deadline)).map (.chunk ·.chunk) ++
    if s.closed && s.arrivals.all (·.before s.now deadline) then [.hangup] else []

/-- The stream after the first `k` arrivals were read, at the time of the last of them. -/
def readUpTo (s : Stream) (k : Nat) : Stream :=
  { s with
    now := ((s.arrivals.take k).map (·.due)).foldl max s.now
    buffer := s.buffer ++ (s.arrivals.take k).flatMap fun a => (Receipt.chunk a.chunk).bytes
    arrivals := s.arrivals.drop k }

@[simp] theorem readUpTo_zero (s : Stream) : s.readUpTo 0 = s := by simp [readUpTo]

theorem readUpTo_succ {s : Stream} {a : Arrival} {rest : List Arrival} (ha : s.arrivals = a :: rest) (k : Nat) :
    s.readUpTo (k + 1) = (s.read a rest).readUpTo k := by
  simp [readUpTo, read, ha]

theorem readUpTo_of_nil {s : Stream} (ha : s.arrivals = []) (k : Nat) : s.readUpTo k = s := by
  have hself : { s with arrivals := [] } = s := by rw [← ha]
  simp [readUpTo, ha, hself]

section

variable {s : Stream} {a : Arrival} {rest : List Arrival} {deadline : Nat}

theorem Ordered.head_le (hord : s.Ordered) (ha : s.arrivals = a :: rest) : ∀ b ∈ rest, a.due ≤ b.due := by
  rw [Ordered, ha] at hord
  exact (List.pairwise_cons.1 hord).1

theorem Ordered.read (hord : s.Ordered) (ha : s.arrivals = a :: rest) : (s.read a rest).Ordered := by
  rw [Ordered, ha] at hord
  exact (List.pairwise_cons.1 hord).2

theorem incoming_nil (ha : s.arrivals = []) (deadline : Nat) :
    s.incoming deadline = if s.closed then [.hangup] else [] := by
  simp [incoming, ha]

/-- Once a chunk is read that came in time, the same ones are still in time. -/
theorem before_read (hord : s.Ordered) (ha : s.arrivals = a :: rest) (hb : a.before s.now deadline) :
    ∀ b ∈ rest, b.before (s.read a rest).now deadline = b.before s.now deadline := by
  intro b hrest
  have hle := hord.head_le ha b hrest
  rw [Arrival.before_iff] at hb
  rw [Bool.eq_iff_iff, Arrival.before_iff, Arrival.before_iff, read_now]
  omega

theorem incoming_cons (hord : s.Ordered) (ha : s.arrivals = a :: rest) (hb : a.before s.now deadline) :
    s.incoming deadline = .chunk a.chunk :: (s.read a rest).incoming deadline := by
  have hsame := before_read hord ha hb
  have hfilter : rest.filter (·.before (s.read a rest).now deadline) = rest.filter (·.before s.now deadline) :=
    List.filter_congr hsame
  have hall : rest.all (·.before (s.read a rest).now deadline) = rest.all (·.before s.now deadline) := by
    rw [Bool.eq_iff_iff, List.all_eq_true, List.all_eq_true]
    exact forall₂_congr fun b hb => by rw [hsame b hb]
  have hread : (s.read a rest).arrivals = rest := rfl
  rw [incoming, incoming, hread, hfilter, hall, ha, List.filter_cons_of_pos hb, List.all_cons, hb, Bool.true_and]
  rfl

/-- If the next chunk does not come in time nothing does. -/
theorem incoming_of_late (hord : s.Ordered) (ha : s.arrivals = a :: rest) (hb : a.before s.now deadline = false) :
    s.incoming deadline = [] := by
  have hlate : ∀ b ∈ s.arrivals, b.before s.now deadline = false := by
    intro b hmem
    rw [ha] at hmem
    rcases List.mem_cons.1 hmem with rfl | hrest
    · exact hb
    · have hle : a.due ≤ b.due := hord.head_le ha b hrest
      simp only [Arrival.before, Bool.or_eq_false_iff, decide_eq_false_iff_not] at *
      omega
  have hfilter : s.arrivals.filter (·.before s.now deadline) = [] :=
    List.filter_eq_nil_iff.2 fun b hmem => by simp [hlate b hmem]
  have hall : s.arrivals.all (·.before s.now deadline) = false := by
    rw [ha, List.all_cons, hb, Bool.false_and]
  simp [incoming, hfilter, hall]

end

/-! ## Verdicts -/

/-- What ends a wait after its first `k` receipts, if they did not: a match, an end that is received next, or the
deadline if nothing is. -/
def verdict (s : Stream) (m : PromptMatcher) (deadline k : Nat) : Option (Outcome × Stream) :=
  match m.find (s.readUpTo k).buffer, (s.incoming deadline)[k]? with
  | some f, _ => some ((s.readUpTo k).take f)
  | none, some x => x.end?.map fun e => { s.readUpTo (k + 1) with ended := some e }.finish e
  | none, none => some (.timedOut (s.readUpTo k).buffer, { s.readUpTo k with now := deadline })

section

variable {s : Stream} {m : PromptMatcher} {a : Arrival} {rest : List Arrival} {deadline k : Nat}

theorem verdict_of_found {f : Found} (hf : m.find (s.readUpTo k).buffer = some f) :
    s.verdict m deadline k = some ((s.readUpTo k).take f) := by
  simp only [verdict, hf]

theorem verdict_of_receipt {x : Receipt} (hf : m.find (s.readUpTo k).buffer = none)
    (hx : (s.incoming deadline)[k]? = some x) :
    s.verdict m deadline k =
      x.end?.map fun e => { s.readUpTo (k + 1) with ended := some e }.finish e := by
  simp only [verdict, hf, hx]

theorem verdict_of_silence (hf : m.find (s.readUpTo k).buffer = none) (hx : (s.incoming deadline)[k]? = none) :
    s.verdict m deadline k = some (.timedOut (s.readUpTo k).buffer, { s.readUpTo k with now := deadline }) := by
  simp only [verdict, hf, hx]

/-- The verdicts after a chunk that is read in time are those of the stream that has read it. -/
theorem verdict_succ (hord : s.Ordered) (ha : s.arrivals = a :: rest) (hb : a.before s.now deadline) (k : Nat) :
    s.verdict m deadline (k + 1) = (s.read a rest).verdict m deadline k := by
  simp only [verdict, readUpTo_succ ha, incoming_cons hord ha hb, List.getElem?_cons_succ]

/-- A chunk can be read exactly if it comes before the deadline, unless it comes at that very time. -/
theorem inTime_eq_before (htie : s.now < a.due → a.due ≠ deadline) :
    s.inTime (some deadline) a = a.before s.now deadline := by
  rw [Bool.eq_iff_iff, Arrival.before_iff]
  simp only [inTime, Option.all_some, Bool.or_eq_true, decide_eq_true_eq]
  omega

/-- Some receipts bring no verdict, and what comes after them brings this one. -/
def EndsWith (s : Stream) (m : PromptMatcher) (deadline : Nat) (r : Outcome × Stream) : Prop :=
  ∃ k, (∀ j < k, s.verdict m deadline j = none) ∧ s.verdict m deadline k = some r

theorem EndsWith.unique {r r' : Outcome × Stream} (h : EndsWith s m deadline r) (h' : EndsWith s m deadline r') :
    r = r' := by
  obtain ⟨j, hj, hr⟩ := h
  obtain ⟨k, hk, hr'⟩ := h'
  have hle : k ≤ j := Nat.not_lt.1 fun hlt => by cases hr.symm.trans (hk j hlt)
  have hge : j ≤ k := Nat.not_lt.1 fun hlt => by cases hr'.symm.trans (hj k hlt)
  obtain rfl := Nat.le_antisymm hge hle
  exact Option.some.inj (hr.symm.trans hr')

theorem EndsWith.at_once {r : Outcome × Stream} (h : s.verdict m deadline 0 = some r) : EndsWith s m deadline r :=
  ⟨0, fun j hj => absurd hj (Nat.not_lt_zero j), h⟩

theorem EndsWith.of_found {f : Found} (hf : m.find s.buffer = some f) : EndsWith s m deadline (s.take f) :=
  .at_once (by rw [verdict_of_found (by rwa [readUpTo_zero]), readUpTo_zero])

theorem EndsWith.of_silence (hf : m.find s.buffer = none) (hin : s.incoming deadline = []) :
    EndsWith s m deadline (.timedOut s.buffer, { s with now := deadline }) :=
  .at_once (by rw [verdict_of_silence (by rwa [readUpTo_zero]) (by rw [hin]; rfl), readUpTo_zero])

/-- A chunk of output decides nothing, and the wait goes on as one of the stream that has read it. -/
theorem EndsWith.of_read (hord : s.Ordered) (ha : s.arrivals = a :: rest) (hb : a.before s.now deadline)
    (hend : (Receipt.chunk a.chunk).end? = none) (hf : m.find s.buffer = none) {r : Outcome × Stream}
    (h : EndsWith (s.read a rest) m deadline r) : EndsWith s m deadline r := by
  obtain ⟨k, hk, hr⟩ := h
  refine ⟨k + 1, ?_, by rw [verdict_succ hord ha hb, hr]⟩
  rintro (_ | j) hj
  · have hfirst : (s.incoming deadline)[0]? = some (.chunk a.chunk) := by rw [incoming_cons hord ha hb]; rfl
    rw [verdict_of_receipt (by rwa [readUpTo_zero]) hfirst, hend]
    rfl
  · rw [verdict_succ hord ha hb]
    exact hk j (Nat.lt_of_succ_lt_succ hj)

/-- An end that is received at once. -/
theorem EndsWith.of_end (hord : s.Ordered) (ha : s.arrivals = a :: rest) (hb : a.before s.now deadline)
    {e : StreamEnd} (hend : (Receipt.chunk a.chunk).end? = some e) (hf : m.find s.buffer = none) :
    EndsWith s m deadline
      ({ s with now := max s.now a.due, arrivals := rest, ended := some e }.finish e) := by
  have hfirst : (s.incoming deadline)[0]? = some (.chunk a.chunk) := by rw [incoming_cons hord ha hb]; rfl
  refine .at_once ?_
  rw [verdict_of_receipt (by rwa [readUpTo_zero]) hfirst, hend, readUpTo_succ ha, readUpTo_zero, read,
    Receipt.bytes_of_end hend, List.append_nil]
  rfl

theorem EndsWith.of_hangup (ha : s.arrivals = []) (hclosed : s.closed) (hf : m.find s.buffer = none) :
    EndsWith s m deadline ({ s with ended := some .eof }.finish .eof) := by
  have hfirst : (s.incoming deadline)[0]? = some .hangup := by rw [incoming_nil ha, if_pos hclosed]; rfl
  refine .at_once ?_
  rw [verdict_of_receipt (by rwa [readUpTo_zero]) hfirst, readUpTo_of_nil ha]
  rfl

/-- A wait ends with the first verdict. -/
theorem Waits.endsWith {rs : List Receipt} {r : Outcome × Stream} (h : Waits m (some deadline) s rs r)
    (hord : s.Ordered) (hs : s.now ≤ deadline)
    (htie : ∀ a ∈ s.arrivals, s.now < a.due → a.due ≠ deadline) : EndsWith s m deadline r := by
  have hbefore {s : Stream} {a : Arrival} {rest : List Arrival} (ha : s.arrivals = a :: rest)
      (htie : ∀ a ∈ s.arrivals, s.now < a.due → a.due ≠ deadline) :
      s.inTime (some deadline) a = a.before s.now deadline :=
    inTime_eq_before (htie a (ha ▸ List.mem_cons_self))
  induction h with
  | found hf => exact .of_found hf
  | hangup hf ha hclosed => exact .of_hangup ha hclosed hf
  | silence hf ha hopen =>
    rw [giveUp_of_le hs]
    exact .of_silence hf (by rw [incoming_nil ha, if_neg (Bool.eq_false_iff.1 hopen)])
  | late hf ha htime =>
    rw [giveUp_of_le hs]
    exact .of_silence hf (incoming_of_late hord ha ((hbefore ha htie).symm.trans htime))
  | ended hf ha htime hend => exact .of_end hord ha ((hbefore ha htie).symm.trans htime) hend hf
  | @read s a rest _ _ hf ha htime hend _ ih =>
    have hties : ∀ b ∈ rest, (s.read a rest).now < b.due → b.due ≠ deadline := fun b hrest hlt =>
      htie b (ha ▸ List.mem_cons_of_mem a hrest) (Nat.lt_of_le_of_lt (Nat.le_max_left ..) hlt)
    refine .of_read hord ha ((hbefore ha htie).symm.trans htime) hend hf ?_
    exact ih (hord.read ha) (now_le_of_inTime hs htime) hties

end

/-! ## The decision -/

/-- The first `k` receipts leave a wait undecided: no end is among them, and before the last of them there is no
match. -/
structure Undecided (s : Stream) (m : PromptMatcher) (deadline k : Nat) : Prop where
  le : k ≤ (s.incoming deadline).length
  noEnd : ∀ x ∈ (s.incoming deadline).take k, x.end? = none
  noMatch : ∀ j < k, m.find (s.readUpTo j).buffer = none

/-- How a wait with a deadline ends. -/
inductive Decided (s : Stream) (m : PromptMatcher) (deadline : Nat) : Outcome × Stream → Prop where
  /-- The shortest extension of the buffer that has a match is there before an end is.  The match is taken at the
  time of the last chunk that it needs, and the other chunks stay unread. -/
  | found {k : Nat} {f : Found} : Undecided s m deadline k → m.find (s.readUpTo k).buffer = some f →
      Decided s m deadline ((s.readUpTo k).take f)
  /-- An end comes before there is a match. -/
  | ended {k : Nat} {x : Receipt} {e : StreamEnd} : Undecided s m deadline k →
      m.find (s.readUpTo k).buffer = none → (s.incoming deadline)[k]? = some x → x.end? = some e →
      Decided s m deadline ({ s.readUpTo (k + 1) with ended := some e }.finish e)
  /-- Neither comes in time.  The wait is given up at the deadline, with all the output in the buffer. -/
  | late {k : Nat} : Undecided s m deadline k → m.find (s.readUpTo k).buffer = none →
      k = (s.incoming deadline).length →
      Decided s m deadline (.timedOut (s.readUpTo k).buffer, { s.readUpTo k with now := deadline })

section

variable {s : Stream} {m : PromptMatcher} {deadline k : Nat} {r : Outcome × Stream}

/-- As long as nothing is decided there is no verdict. -/
theorem Undecided.verdict (h : Undecided s m deadline k) : ∀ j < k, s.verdict m deadline j = none := by
  intro j hj
  have hlt : j < (s.incoming deadline).length := Nat.lt_of_lt_of_le hj h.le
  have hmem : (s.incoming deadline)[j] ∈ (s.incoming deadline).take k :=
    List.mem_take_iff_getElem.2 ⟨j, by omega, rfl⟩
  rw [verdict_of_receipt (h.noMatch j hj) (List.getElem?_eq_getElem hlt), h.noEnd _ hmem]
  rfl

theorem Decided.endsWith (h : Decided s m deadline r) : EndsWith s m deadline r := by
  cases h with
  | @found k f hu hf => exact ⟨k, hu.verdict, verdict_of_found hf⟩
  | @ended k x e hu hf hx he => exact ⟨k, hu.verdict, by rw [verdict_of_receipt hf hx, he]; rfl⟩
  | @late k hu hf hk =>
    exact ⟨k, hu.verdict, verdict_of_silence hf (List.getElem?_eq_none (Nat.le_of_eq hk.symm))⟩

end

end Stream

end Transcripts
