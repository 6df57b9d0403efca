import Transcripts.Stream
import Transcripts.Proofs.Prompt.Find

/-!
# An account of the output

A stream is used by sending chunks to it and by waiting.  How a wait goes is told by a relation with one case for
each way in which it ends and one in which it reads on (`Waits`), and what a wait keeps is shown by induction on it.

Beside the stream an account is kept of all that its waits received and of how they ended.  The account balances
after any number of steps in any order: what the waits took, with what the buffer still holds, is what the received
chunks held (`step_balanced`, `run_balanced`), and an end of the output is the last thing that is received.
-/
namespace Transcripts

open Transcripts.Text (Bytes)

/-- What a wait receives: a chunk, or the news that the sender is gone and nothing is left. -/
inductive Receipt where
  | chunk (c : Chunk)
  | hangup
deriving Repr, DecidableEq

namespace Receipt

/-- The output that a receipt brings. -/
def bytes : Receipt → Bytes
  | .chunk (.data bs) => bs
  | _ => []

/-- The end that a receipt brings. -/
def end? : Receipt → Option StreamEnd
  | .chunk (.data _) => none
  | .chunk .eof => some .eof
  | .chunk (.fault message) => some (.fault message)
  | .hangup => some .eof

def chunk? : Receipt → Option Chunk
  | .chunk c => some c
  | .hangup => none

theorem bytes_of_end {x : Receipt} {e : StreamEnd} (h : x.end? = some e) : x.bytes = [] := by
  cases x with
  | chunk c =>
    cases c with
    | data bs => cases h
    | eof => rfl
    | fault message => rfl
  | hangup => rfl

/-- Receipts that bring output until they bring the end `e`, and nothing after it. -/
def Orderly : List Receipt → Option StreamEnd → Prop
  | [], e => e = none
  | x :: rest, e => match x.end? with
    | none => Orderly rest e
    | some e' => rest = [] ∧ e = some e'

theorem Orderly.append {rs more : List Receipt} {e : Option StreamEnd} (h : Orderly rs none)
    (hm : Orderly more e) : Orderly (rs ++ more) e := by
  induction rs with
  | nil => exact hm
  | cons x rest ih =>
    simp only [List.cons_append, Orderly] at h ⊢
    split
    · rename_i hx; rw [hx] at h; exact ih h
    · rename_i hx; rw [hx] at h; cases h.2

/-- The end that was received is the end that is known. -/
theorem Orderly.eq_of_mem {rs : List Receipt} {e : Option StreamEnd} (h : Orderly rs e) {x : Receipt}
    (hx : x ∈ rs) (hend : x.end?.isSome) : e = x.end? := by
  induction rs with
  | nil => cases hx
  | cons y rest ih =>
    simp only [Orderly] at h
    rcases List.mem_cons.1 hx with rfl | hx
    · split at h
      · rename_i hy; rw [hy] at hend; cases hend
      · rename_i hy; rw [h.2, hy]
    · split at h
      · exact ih h hx
      · rw [h.1] at hx; cases hx

end Receipt

/-- The output that a wait takes.  It takes none if the time is up or the output broke off. -/
def Outcome.bytes : Outcome → Bytes
  | .taken before matched _ => before ++ matched
  | .endOfStream received => received
  | _ => []

namespace Stream

/-! ## One wait -/

/-- What `awaitFrom` receives. -/
def receiptsFrom (m : PromptMatcher) (deadline : Option Nat) (s : Stream) :
    List Arrival → List Receipt
  | [] =>
    match m.find s.buffer with
    | some _ => []
    | none => if s.closed then [.hangup] else []
  | a :: rest =>
    match m.find s.buffer with
    | some _ => []
    | none =>
      if s.inTime deadline a then
        .chunk a.chunk :: match a.chunk with
          | .data bs =>
            receiptsFrom m deadline
              { s with now := max s.now a.due, arrivals := rest, buffer := s.buffer ++ bs } rest
          | _ => []
      else []

section

variable (m : PromptMatcher) (deadline : Option Nat) {s : Stream}

/-- What a wait does with a chunk, before others that it may read. -/
def receive (s : Stream) (rest : List Arrival) : Chunk → Outcome × Stream
  | .data bs => awaitFrom m deadline { s with buffer := s.buffer ++ bs } rest
  | .eof => finish { s with ended := some .eof } .eof
  | .fault message => finish { s with ended := some (.fault message) } (.fault message)

/-- What is found in the buffer is taken before anything is read. -/
theorem awaitFrom_of_found {f : Found} (hf : m.find s.buffer = some f) :
    awaitFrom m deadline s s.arrivals = s.take f := by
  cases ha : s.arrivals with
  | nil =>
    have hself : { s with arrivals := [] } = s := by rw [← ha]
    simp only [awaitFrom, hself, hf]
  | cons a rest =>
    have hself : { s with arrivals := a :: rest } = s := by rw [← ha]
    simp only [awaitFrom, hself, hf]

/-- Nor is anything received before it is taken. -/
theorem receiptsFrom_of_found {f : Found} (hf : m.find s.buffer = some f) (as : List Arrival) :
    receiptsFrom m deadline s as = [] := by
  cases as <;> simp only [receiptsFrom, hf]

theorem awaitFrom_nil (ha : s.arrivals = []) (hf : m.find s.buffer = none) :
    awaitFrom m deadline s [] =
      if s.closed then finish { s with ended := some .eof } .eof else s.giveUp deadline := by
  have hself : { s with arrivals := [] } = s := by rw [← ha]
  simp only [awaitFrom, hself, hf, ha]

theorem awaitFrom_cons {a : Arrival} {rest : List Arrival} (ha : s.arrivals = a :: rest)
    (hf : m.find s.buffer = none) :
    awaitFrom m deadline s (a :: rest) =
      if s.inTime deadline a then
        receive m deadline { s with now := max s.now a.due, arrivals := rest } rest a.chunk
      else s.giveUp deadline := by
  have hself : { s with arrivals := a :: rest } = s := by rw [← ha]
  simp only [awaitFrom, hself, hf]
  cases a.chunk <;> rfl

end

/-- One chunk read. -/
def read (s : Stream) (a : Arrival) (rest : List Arrival) : Stream :=
  { s with now := max s.now a.due, arrivals := rest, buffer := s.buffer ++ (Receipt.chunk a.chunk).bytes }

@[simp] theorem read_now (s : Stream) (a : Arrival) (rest : List Arrival) : (s.read a rest).now = max s.now a.due := rfl

/-- How a wait goes, with what it receives: it takes a match if there is one, and else it receives an end, is given up
while nothing comes, or reads a chunk and goes on. -/
inductive Waits (m : PromptMatcher) (deadline : Option Nat) :
    Stream → List Receipt → Outcome × Stream → Prop where
  | found {s : Stream} {f : Found} : m.find s.buffer = some f → Waits m deadline s [] (s.take f)
  | hangup {s : Stream} : m.find s.buffer = none → s.arrivals = [] → s.closed = true →
      Waits m deadline s [.hangup] (finish { s with ended := some .eof } .eof)
  | silence {s : Stream} : m.find s.buffer = none → s.arrivals = [] → s.closed = false →
      Waits m deadline s [] (s.giveUp deadline)
  | late {s : Stream} {a : Arrival} {rest : List Arrival} : m.find s.buffer = none → s.arrivals = a :: rest →
      s.inTime deadline a = false → Waits m deadline s [] (s.giveUp deadline)
  | ended {s : Stream} {a : Arrival} {rest : List Arrival} {e : StreamEnd} : m.find s.buffer = none →
      s.arrivals = a :: rest → s.inTime deadline a = true → (Receipt.chunk a.chunk).end? = some e →
      Waits m deadline s [.chunk a.chunk]
        (finish { s with now := max s.now a.due, arrivals := rest, ended := some e } e)
  | read {s : Stream} {a : Arrival} {rest : List Arrival} {rs : List Receipt} {r : Outcome × Stream} :
      m.find s.buffer = none → s.arrivals = a :: rest → s.inTime deadline a = true →
      (Receipt.chunk a.chunk).end? = none → Waits m deadline (s.read a rest) rs r →
      Waits m deadline s (.chunk a.chunk :: rs) r

/-- `awaitFrom` goes as a wait goes. -/
theorem awaitFrom_waits (m : PromptMatcher) (deadline : Option Nat) :
    ∀ (as : List Arrival) (s : Stream), s.arrivals = as →
      Waits m deadline s (receiptsFrom m deadline s as) (awaitFrom m deadline s as) := by
  intro as
  induction as with
  | nil =>
    intro s ha
    simp only [receiptsFrom]
    cases hf : m.find s.buffer with
    | some f => rw [← ha, awaitFrom_of_found m deadline hf]; exact .found hf
    | none =>
      rw [awaitFrom_nil m deadline ha hf]
      simp only
      split
      · rename_i hclosed
        exact .hangup hf ha hclosed
      · rename_i hopen
        exact .silence hf ha (Bool.eq_false_iff.2 hopen)
  | cons a rest ih =>
    intro s ha
    simp only [receiptsFrom]
    cases hf : m.find s.buffer with
    | some f => rw [← ha, awaitFrom_of_found m deadline hf]; exact .found hf
    | none =>
      rw [awaitFrom_cons m deadline ha hf]
      cases htime : s.inTime deadline a with
      | false => exact .late hf ha htime
      | true =>
        obtain ⟨due, chunk⟩ := a
        cases chunk with
        | data bs => exact .read hf ha htime rfl (ih _ rfl)
        | eof | fault message => exact .ended hf ha htime rfl

/-- What a wait receives. -/
def receipts (s : Stream) (m : PromptMatcher) (timeout : Timeout) : List Receipt :=
  if s.inClock timeout then
    match s.ended with
    | some _ => []
    | none => s.receiptsFrom m (timeout.nanos?.map s.deadline) s.arrivals
  else []

/-- What a wait does to a stream, given what it receives: it takes chunks from the front of the queue,
hears of the sender's going only when nothing is left and does not bring it about, keeps in the buffer what it
does not take, and remembers the end. -/
structure Settles (s : Stream) (rs : List Receipt) (r : Outcome × Stream) : Prop where
  queue : rs.filterMap Receipt.chunk? ++ r.2.arrivals.map (·.chunk) = s.arrivals.map (·.chunk)
  closed : r.2.closed = s.closed
  hangup : .hangup ∈ rs → s.closed = true ∧ r.2.arrivals = []
  bytes : r.1.bytes ++ r.2.buffer = s.buffer ++ rs.flatMap Receipt.bytes
  orderly : s.ended = none → Receipt.Orderly rs r.2.ended
  ended : s.ended.isSome → rs = [] ∧ r.2.ended = s.ended

theorem take_settles (s : Stream) {m : PromptMatcher} {f : Found} (hf : m.find s.buffer = some f) :
    Settles s [] (s.take f) := by
  refine ⟨rfl, rfl, fun h => (by cases h), ?_, fun h => h, fun _ => ⟨rfl, rfl⟩⟩
  have hle : f.start ≤ f.stop := (PromptMatcher.find_mem hf).1
  have htake : (s.buffer.take f.stop).take f.start = s.buffer.take f.start := by
    rw [List.take_take, Nat.min_eq_left hle]
  simp only [take, Outcome.bytes, List.flatMap_nil, List.append_nil]
  rw [← htake, List.take_append_drop, List.take_append_drop]

theorem giveUp_settles (s : Stream) (deadline : Option Nat) : Settles s [] (s.giveUp deadline) := by
  cases deadline <;>
    exact ⟨rfl, rfl, fun h => (by cases h), by simp [giveUp, Outcome.bytes], fun h => h, fun _ => ⟨rfl, rfl⟩⟩

theorem finish_bytes (s : Stream) (e : StreamEnd) :
    (s.finish e).1.bytes ++ (s.finish e).2.buffer = s.buffer := by
  cases e <;> simp [finish, Outcome.bytes]

theorem finish_rest (s : Stream) (e : StreamEnd) :
    (s.finish e).2.arrivals = s.arrivals ∧ (s.finish e).2.ended = s.ended ∧ (s.finish e).2.closed = s.closed := by
  cases e <;> exact ⟨rfl, rfl, rfl⟩

/-- The wait that receives an end is over with it. -/
theorem finish_settles {s s' : Stream} {x : Receipt} {e : StreamEnd} (hx : x.end? = some e)
    (hh : x = .hangup → s.closed = true ∧ s'.arrivals = []) (hb : s'.buffer = s.buffer)
    (hc : s'.closed = s.closed) (he : s'.ended = some e) (hs : s.ended = none)
    (hq : x.chunk?.toList ++ s'.arrivals.map (·.chunk) = s.arrivals.map (·.chunk)) :
    Settles s [x] (s'.finish e) := by
  obtain ⟨ha, hend, hclosed⟩ := finish_rest s' e
  refine ⟨?_, by rw [hclosed, hc], fun h => ?_, ?_, fun _ => ?_, fun h => by rw [hs] at h; cases h⟩
  · rw [ha, ← hq]; cases x <;> rfl
  · rw [ha]; exact hh (List.mem_singleton.1 h).symm
  · rw [finish_bytes, hb]; simp [Receipt.bytes_of_end hx]
  · simp only [Receipt.Orderly, hx]; exact ⟨trivial, by rw [hend, he]⟩

theorem Waits.settles {m : PromptMatcher} {deadline : Option Nat} {s : Stream} {rs : List Receipt}
    {r : Outcome × Stream} (h : Waits m deadline s rs r) (hs : s.ended = none) : Settles s rs r := by
  induction h with
  | found hf => exact take_settles _ hf
  | silence | late => exact giveUp_settles _ deadline
  | hangup hf ha hclosed => exact finish_settles (x := .hangup) rfl (fun _ => ⟨hclosed, ha⟩) rfl rfl rfl hs rfl
  | ended hf ha _ hend => exact finish_settles hend nofun rfl rfl rfl hs (by rw [ha]; rfl)
  | read hf ha _ hend _ ih =>
    obtain ⟨hq, hclosed, hh, hb, ho, -⟩ := ih hs
    refine ⟨?_, hclosed, fun h => hh ((List.mem_cons.1 h).resolve_left nofun), ?_, fun _ => ?_,
      fun h => by rw [hs] at h; cases h⟩
    · rw [ha, List.map_cons]
      exact congrArg (_ :: ·) hq
    · rw [hb, Stream.read, List.append_assoc, List.flatMap_cons]
    · simp only [Receipt.Orderly, hend]
      exact ho hs

/-- Every wait settles what it received. -/
theorem await_settles (s : Stream) (m : PromptMatcher) (timeout : Timeout) :
    Settles s (s.receipts m timeout) (s.await m timeout) := by
  unfold receipts await
  split
  · cases he : s.ended with
    | none => exact (awaitFrom_waits m _ s.arrivals s rfl).settles he
    | some e =>
      simp only
      split
      · rename_i f hf; exact take_settles s hf
      · obtain ⟨ha, hend, hclosed⟩ := finish_rest s e
        exact ⟨by rw [ha]; rfl, hclosed, fun h => (by cases h), by rw [finish_bytes]; simp,
          fun h => (by rw [he] at h; cases h), fun _ => ⟨rfl, hend⟩⟩
  · exact ⟨rfl, rfl, fun h => (by cases h), by simp [Outcome.bytes], fun h => h, fun _ => ⟨rfl, rfl⟩⟩

/-- How a wait ends that has the output `bs` before it at last: the clock refuses it, it takes a match, or it finds
none and the output is over or it is given up. -/
inductive Ends (m : PromptMatcher) (bs : Bytes) : Outcome × Stream → Prop where
  | refused {s : Stream} : s.buffer = bs → Ends m bs (.beyondClock, s)
  | found {s : Stream} {f : Found} : s.buffer = bs → m.find bs = some f → Ends m bs (s.take f)
  | finished {s : Stream} (e : StreamEnd) : s.buffer = bs → m.find bs = none → s.ended = some e → Ends m bs (s.finish e)
  | givenUp {s : Stream} (deadline : Option Nat) : s.buffer = bs → m.find bs = none → Ends m bs (s.giveUp deadline)

theorem Waits.ends {m : PromptMatcher} {deadline : Option Nat} {s : Stream} {rs : List Receipt}
    {r : Outcome × Stream} (h : Waits m deadline s rs r) : Ends m (s.buffer ++ rs.flatMap Receipt.bytes) r := by
  induction h with
  | found hf => rw [List.flatMap_nil, List.append_nil]; exact .found rfl hf
  | hangup hf => simp only [List.flatMap_singleton, Receipt.bytes, List.append_nil]; exact .finished _ rfl hf rfl
  | silence hf | late hf => rw [List.flatMap_nil, List.append_nil]; exact .givenUp deadline rfl hf
  | ended hf _ _ hend =>
    rw [List.flatMap_singleton, Receipt.bytes_of_end hend, List.append_nil]
    exact .finished _ rfl hf rfl
  | read _ _ _ _ _ ih => rw [List.flatMap_cons, ← List.append_assoc]; exact ih

theorem inClock_iff {s : Stream} {t : Timeout} : s.inClock t ↔ ∀ n, t.nanos? = some n → s.now + n < s.clockEnd := by
  unfold inClock
  cases t.nanos? <;> simp

theorem await_of_inClock {s : Stream} {t : Timeout} (ht : s.inClock t) (m : PromptMatcher) :
    s.await m t = match s.ended with
      | some e => (match m.find s.buffer with
        | some f => s.take f
        | none => s.finish e)
      | none => awaitFrom m (t.nanos?.map s.deadline) s s.arrivals := by
  unfold await
  refine (if_pos ht).trans ?_
  cases s.ended <;> rfl

theorem await_of_not_inClock {s : Stream} {t : Timeout} (ht : ¬ s.inClock t) (m : PromptMatcher) :
    s.await m t = (.beyondClock, s) := if_neg ht

theorem receipts_of_inClock {s : Stream} {t : Timeout} (ht : s.inClock t) (m : PromptMatcher) :
    s.receipts m t = match s.ended with
      | some _ => []
      | none => s.receiptsFrom m (t.nanos?.map s.deadline) s.arrivals := if_pos ht

theorem await_ends (s : Stream) (m : PromptMatcher) (timeout : Timeout) :
    Ends m (s.buffer ++ (s.receipts m timeout).flatMap Receipt.bytes) (s.await m timeout) := by
  by_cases ht : s.inClock timeout
  · rw [await_of_inClock ht, receipts_of_inClock ht]
    cases he : s.ended with
    | none => exact (awaitFrom_waits m _ s.arrivals s rfl).ends
    | some e =>
      simp only [List.flatMap_nil, List.append_nil]
      split
      · rename_i f hf; exact .found rfl hf
      · rename_i hf; exact .finished e rfl hf he
  · rw [await_of_not_inClock ht, receipts, if_neg ht, List.flatMap_nil, List.append_nil]
    exact .refused rfl

/-- A match that is in the buffer already is taken, and nothing is received. -/
theorem await_of_found {s : Stream} {t : Timeout} (ht : s.inClock t) {m : PromptMatcher} {f : Found}
    (hf : m.find s.buffer = some f) : s.await m t = s.take f ∧ s.receipts m t = [] := by
  rw [await_of_inClock ht, receipts_of_inClock ht]
  cases s.ended with
  | some e => simp only [hf, and_self]
  | none => exact ⟨awaitFrom_of_found m _ hf, receiptsFrom_of_found m _ hf _⟩

/-- What the outcome of a wait says of the output `bs` that it had before it at last, and what it leaves of it. -/
structure Reports (m : PromptMatcher) (bs : Bytes) (r : Outcome × Stream) : Prop where
  taken : ∀ before matched index, r.1 = .taken before matched index → ∃ f, m.find bs = some f ∧
    before = bs.take f.start ∧ matched = (bs.take f.stop).drop f.start ∧ index = f.index ∧ r.2.buffer = bs.drop f.stop
  timedOut : ∀ received, r.1 = .timedOut received → m.find bs = none ∧ received = bs ∧ r.2.buffer = bs
  endOfStream : ∀ received, r.1 = .endOfStream received →
    m.find bs = none ∧ received = bs ∧ r.2.buffer = [] ∧ r.2.ended = some .eof
  fault : ∀ message, r.1 = .fault message → m.find bs = none ∧ r.2.buffer = bs

theorem Ends.reports {m : PromptMatcher} {bs : Bytes} {r : Outcome × Stream} (h : Ends m bs r) : Reports m bs r := by
  cases h with
  | refused => exact ⟨nofun, nofun, nofun, nofun⟩
  | @found s f hs hf =>
    subst hs
    exact ⟨fun _ _ _ h => by cases h; exact ⟨f, hf, rfl, rfl, rfl, rfl⟩, nofun, nofun, nofun⟩
  | @finished s e hs hf he =>
    subst hs
    cases e with
    | eof => exact ⟨nofun, nofun, fun _ h => by cases h; exact ⟨hf, rfl, rfl, he⟩, nofun⟩
    | fault message => exact ⟨nofun, nofun, nofun, fun _ _ => ⟨hf, rfl⟩⟩
  | @givenUp s deadline hs hf =>
    subst hs
    cases deadline with
    | none => exact ⟨nofun, nofun, nofun, nofun⟩
    | some d => exact ⟨nofun, fun _ h => by cases h; exact ⟨hf, rfl, rfl⟩, nofun, nofun⟩

/-- Every wait reports on the output that it held at first and what it received. -/
theorem await_reports (s : Stream) (m : PromptMatcher) (timeout : Timeout) :
    Reports m (s.buffer ++ (s.receipts m timeout).flatMap Receipt.bytes) (s.await m timeout) :=
  (await_ends s m timeout).reports

end Stream

/-! ## Any number of steps -/

/-- What can happen to a stream. -/
inductive StreamStep where
  | send (delay : Nat) (c : Chunk)
  | drop
  | await (m : PromptMatcher) (timeout : Timeout)

/-- A stream, all that its waits received so far, and how they ended. -/
structure Account where
  stream : Stream := {}
  received : List Receipt := []
  outcomes : List Outcome := []

namespace Account

/-- A stream from which nothing was read yet, at some time of a clock. -/
def start (now clockEnd : Nat) : Account := { stream := { now, clockEnd } }

def step (a : Account) : StreamStep → Account
  | .send delay c => { a with stream := a.stream.send delay c }
  | .drop => { a with stream := a.stream.drop }
  | .await m timeout =>
    { stream := (a.stream.await m timeout).2
      received := a.received ++ a.stream.receipts m timeout
      outcomes := a.outcomes ++ [(a.stream.await m timeout).1] }

def run (a : Account) (steps : List StreamStep) : Account := steps.foldl step a

/-- What was taken, with what is left, is what was received; and nothing is received after an end. -/
structure Balanced (a : Account) : Prop where
  bytes : a.outcomes.flatMap Outcome.bytes ++ a.stream.buffer = a.received.flatMap Receipt.bytes
  orderly : Receipt.Orderly a.received a.stream.ended

theorem send_rest (s : Stream) (delay : Nat) (c : Chunk) :
    (s.send delay c).buffer = s.buffer ∧ (s.send delay c).ended = s.ended := by
  unfold Stream.send
  split <;> exact ⟨rfl, rfl⟩

theorem step_balanced {a : Account} (h : a.Balanced) (x : StreamStep) : (a.step x).Balanced := by
  cases x with
  | send delay c =>
    obtain ⟨hb, he⟩ := send_rest a.stream delay c
    exact ⟨by simp only [step, hb]; exact h.bytes, by simp only [step, he]; exact h.orderly⟩
  | drop => exact ⟨h.bytes, h.orderly⟩
  | await m timeout =>
    have hw := Stream.await_settles a.stream m timeout
    refine ⟨?_, ?_⟩
    · simp only [step, List.flatMap_append, List.flatMap_singleton, List.append_assoc]
      rw [hw.bytes, ← List.append_assoc, h.bytes]
    · simp only [step]
      cases he : a.stream.ended with
      | none =>
        have ho := h.orderly
        rw [he] at ho
        exact ho.append (hw.orderly he)
      | some e =>
        obtain ⟨hrs, hend⟩ := hw.ended (by rw [he]; rfl)
        rw [hrs, List.append_nil, hend]
        exact h.orderly

theorem run_balanced {a : Account} (h : a.Balanced) (steps : List StreamStep) : (a.run steps).Balanced := by
  induction steps generalizing a with
  | nil => exact h
  | cons x steps ih => exact ih (step_balanced h x)

theorem start_balanced (now clockEnd : Nat) : (start now clockEnd).Balanced := ⟨rfl, rfl⟩

/-- After an end nothing more is received, in however many steps. -/
theorem run_ended {a : Account} (h : a.stream.ended.isSome) (steps : List StreamStep) :
    (a.run steps).received = a.received := by
  induction steps generalizing a with
  | nil => rfl
  | cons x steps ih =>
    cases x with
    | send delay c =>
      have he := (send_rest a.stream delay c).2
      exact ih (a := a.step (.send delay c)) (by simp only [step, he]; exact h)
    | drop => exact ih (a := a.step .drop) h
    | await m timeout =>
      obtain ⟨hrs, hend⟩ := (Stream.await_settles a.stream m timeout).ended h
      have hrec : (a.step (.await m timeout)).received = a.received := by
        simp only [step, hrs, List.append_nil]
      exact (ih (a := a.step (.await m timeout)) (by simp only [step, hend]; exact h)).trans hrec

/-- **No output is lost, doubled or moved.**  Whatever the clock says at first, and after any steps whatever:

* what was taken, in order, and then the buffer, is the output received so far;
* a wait receives chunks from the front of the queue in their order, and hears that the sender is gone only
  when nothing is left; a match that is in the buffer already is taken, and nothing is received;
* what a wait takes is the match that is found in the output before it, with all that stands in front of the
  match; it takes nothing if the time is up or the output broke off, and everything if it reports the end of the
  output, and then no match is left;
* once an end was received nothing more ever is, and each wait takes the match that the buffer still holds
  or else reports that end. -/
theorem no_output_lost (now clockEnd : Nat) (steps : List StreamStep) :
    let a := run (start now clockEnd) steps
    a.outcomes.flatMap Outcome.bytes ++ a.stream.buffer = a.received.flatMap Receipt.bytes ∧
    (∀ (m : PromptMatcher) (t : Timeout),
      let r := a.stream.await m t
      let new := a.stream.receipts m t
      let output := a.stream.buffer ++ new.flatMap Receipt.bytes
      new.filterMap Receipt.chunk? ++ r.2.arrivals.map (·.chunk) = a.stream.arrivals.map (·.chunk) ∧
      (.hangup ∈ new → a.stream.closed = true ∧ r.2.arrivals = []) ∧
      (a.stream.inClock t → ∀ f, m.find a.stream.buffer = some f → r = a.stream.take f ∧ new = []) ∧
      (∀ before matched index, r.1 = .taken before matched index → ∃ f, m.find output = some f ∧
        before = output.take f.start ∧ matched = (output.take f.stop).drop f.start ∧ index = f.index ∧
        r.2.buffer = output.drop f.stop) ∧
      ((∃ bs, r.1 = .timedOut bs) ∨ (∃ message, r.1 = .fault message) → r.2.buffer = output) ∧
      (∀ bs, r.1 = .endOfStream bs → bs = output ∧ r.2.buffer = [] ∧ m.find bs = none) ∧
      (∀ message, r.1 = .fault message → m.find r.2.buffer = none)) ∧
    (∀ x ∈ a.received, ∀ e, x.end? = some e →
      (∀ more, (run (start now clockEnd) (steps ++ more)).received = a.received) ∧
      ∀ (m : PromptMatcher) (t : Timeout), a.stream.inClock t →
        a.stream.await m t = match m.find a.stream.buffer with
          | some f => a.stream.take f
          | none => a.stream.finish e) := by
  intro a
  have hb : a.Balanced := run_balanced (start_balanced now clockEnd) steps
  refine ⟨hb.bytes, fun m t => ?_, fun x hx e hend => ?_⟩
  · have hw := Stream.await_settles a.stream m t
    have hr := Stream.await_reports a.stream m t
    refine ⟨hw.queue, hw.hangup, fun ht f hf => Stream.await_of_found ht hf, hr.taken, ?_, fun bs h => ?_,
      fun message h => ?_⟩
    · rintro (⟨bs, h⟩ | ⟨message, h⟩)
      · exact (hr.timedOut bs h).2.2
      · exact (hr.fault message h).2
    · obtain ⟨hnone, hall, hempty, -⟩ := hr.endOfStream bs h
      exact ⟨hall, hempty, hall ▸ hnone⟩
    · obtain ⟨hnone, hall⟩ := hr.fault message h
      exact hall ▸ hnone
  · have he : a.stream.ended = some e := by rw [hb.orderly.eq_of_mem hx (by rw [hend]; rfl), hend]
    refine ⟨fun more => ?_, fun m t ht => ?_⟩
    · rw [run, List.foldl_append]
      exact run_ended (by exact (congrArg Option.isSome he)) more
    · rw [Stream.await_of_inClock ht, he]

end Account

end Transcripts
