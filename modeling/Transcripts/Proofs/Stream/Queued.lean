import Transcripts.Channel.Script
import Transcripts.Proofs.Stream.Account

/-!
# Queued output

A stream is ready if all that was sent to it can be read at once.  What a wait on it does then depends
only on its feed: the output up to its end and how it ends.  How the output was cut into chunks, and how
much of it was read before, does not matter, provided that more output never changes a match that was
found in less (`await_found`, `await_missing`).
-/
namespace Transcripts

open Transcripts.Text (Bytes)

/-- Output up to its end, and the end if there is one. -/
structure Feed where
  bytes : Bytes := []
  stop : Option StreamEnd := none
deriving Repr, DecidableEq

namespace Feed

/-- What comes after an end is never read. -/
def append (f g : Feed) : Feed :=
  match f.stop with
  | none => ⟨f.bytes ++ g.bytes, g.stop⟩
  | some _ => f

instance : Append Feed := ⟨append⟩

theorem append_of_none {f : Feed} (h : f.stop = none) (g : Feed) : f ++ g = ⟨f.bytes ++ g.bytes, g.stop⟩ := by
  show f.append g = _
  simp only [append, h]

theorem append_of_some {f : Feed} {e : StreamEnd} (h : f.stop = some e) (g : Feed) : f ++ g = f := by
  show f.append g = _
  simp only [append, h]

@[simp] theorem nil_append (f : Feed) : ({} : Feed) ++ f = f := append_of_none rfl f

@[simp] theorem append_nil (f : Feed) : f ++ ({} : Feed) = f := by
  cases h : f.stop with
  | none => rw [append_of_none h, List.append_nil, ← h]
  | some e => exact append_of_some h _

theorem append_assoc (f g h : Feed) : f ++ g ++ h = f ++ (g ++ h) := by
  cases hf : f.stop with
  | some e => rw [append_of_some hf, append_of_some hf, append_of_some hf]
  | none =>
    rw [append_of_none hf g, append_of_none hf (g ++ h)]
    cases hg : g.stop with
    | some e => rw [append_of_some (f := ⟨f.bytes ++ g.bytes, some e⟩) rfl, append_of_some hg, hg]
    | none =>
      rw [append_of_none (f := ⟨f.bytes ++ g.bytes, none⟩) rfl, append_of_none hg, List.append_assoc]

/-- One feed after the other. -/
def join : List Feed → Feed := List.foldr (· ++ ·) {}

@[simp] theorem join_nil : join [] = {} := rfl

@[simp] theorem join_cons (f : Feed) (fs : List Feed) : join (f :: fs) = f ++ join fs := rfl

theorem join_concat (fs : List Feed) (g : Feed) : join (fs ++ [g]) = join fs ++ g := by
  induction fs with
  | nil => rw [List.nil_append, join_cons, join_nil, append_nil, nil_append]
  | cons f fs ih => rw [List.cons_append, join_cons, join_cons, ih, append_assoc]

/-- Output that goes on. -/
def ofBytes (bs : Bytes) : Feed := ⟨bs, none⟩

theorem ofBytes_append (bs more : Bytes) : ofBytes bs ++ ofBytes more = ofBytes (bs ++ more) := rfl

/-- The feed behind the first bytes. -/
def drop (n : Nat) (f : Feed) : Feed := { f with bytes := f.bytes.drop n }

end Feed

/-- What a chunk adds to a feed. -/
def Chunk.feed : Chunk → Feed
  | .data bs => .ofBytes bs
  | .eof => ⟨[], some .eof⟩
  | .fault message => ⟨[], some (.fault message)⟩

theorem Chunk.feed_eq (c : Chunk) : c.feed = ⟨(Receipt.chunk c).bytes, (Receipt.chunk c).end?⟩ := by
  cases c <;> rfl

namespace Stream

/-- What there is to read once the sender is gone. -/
def hangup (closed : Bool) : Feed := if closed then ⟨[], some .eof⟩ else {}

/-- What a stream still has to give. -/
def feed (s : Stream) : Feed :=
  .ofBytes s.buffer ++ (.join (s.arrivals.map (·.chunk.feed)) ++ hangup s.closed)

/-- Nothing stands in the way of reading all that was sent. -/
structure Ready (s : Stream) : Prop where
  open_ : s.ended = none
  due : ∀ a ∈ s.arrivals, a.due ≤ s.now

theorem ready_empty : ({} : Stream).Ready := ⟨rfl, fun _ h => by cases h⟩

theorem feed_empty : ({} : Stream).feed = {} := rfl

theorem feed_bytes (s : Stream) :
    s.feed.bytes = s.buffer ++ (Feed.join (s.arrivals.map (·.chunk.feed)) ++ hangup s.closed).bytes := rfl

theorem feed_stop (s : Stream) :
    s.feed.stop = (Feed.join (s.arrivals.map (·.chunk.feed)) ++ hangup s.closed).stop := rfl

/-! ## Sending -/

theorem insertArrival_last {a : Arrival} {as : List Arrival} (h : ∀ b ∈ as, b.due ≤ a.due) :
    insertArrival a as = as ++ [a] := by
  induction as with
  | nil => rfl
  | cons b rest ih =>
    rw [insertArrival, if_pos (h b List.mem_cons_self), ih fun c hc => h c (List.mem_cons_of_mem _ hc)]
    rfl

theorem feed_closed {s : Stream} (h : s.closed = true) (f : Feed) : s.feed ++ f = s.feed := by
  have hstop : ∃ e, s.feed.stop = some e := by
    rw [feed_stop, h]
    cases hj : (Feed.join (s.arrivals.map (·.chunk.feed))).stop with
    | none => rw [Feed.append_of_none hj]; exact ⟨_, rfl⟩
    | some e => rw [Feed.append_of_some hj]; exact ⟨_, hj⟩
  obtain ⟨e, he⟩ := hstop
  exact Feed.append_of_some he f

/-- A chunk that is sent without delay comes behind all that was sent before. -/
theorem send_ready {s : Stream} (h : s.Ready) (c : Chunk) :
    (s.send 0 c).Ready ∧ (s.send 0 c).feed = s.feed ++ c.feed ∧ (s.send 0 c).inClock = s.inClock := by
  unfold send
  split
  · rename_i hc
    exact ⟨h, (feed_closed hc _).symm, rfl⟩
  · rename_i hc
    rw [Nat.add_zero, insertArrival_last h.due]
    refine ⟨⟨h.open_, fun a ha => ?_⟩, ?_, rfl⟩
    · rcases List.mem_append.1 ha with ha | ha
      · exact h.due a ha
      · rw [List.mem_singleton.1 ha]
    · simp only [feed, hangup, hc, Bool.false_eq_true, if_false, Feed.append_nil, List.map_append,
        List.map_cons, List.map_nil, Feed.join_concat, Feed.append_assoc]

theorem drop_ready {s : Stream} (h : s.Ready) :
    s.drop.Ready ∧ s.drop.feed = s.feed ++ ⟨[], some .eof⟩ ∧ s.drop.inClock = s.inClock := by
  refine ⟨⟨h.open_, h.due⟩, ?_, rfl⟩
  cases hc : s.closed with
  | true =>
    have hself : s.drop = s := by rw [drop, ← hc]
    rw [hself, feed_closed hc]
  | false =>
    simp only [feed, drop, hc, hangup, if_true, Bool.false_eq_true, if_false, Feed.append_nil, Feed.append_assoc]

/-! ## Waiting -/

end Stream

/-- More output never changes what was found. -/
def PromptMatcher.Steady (m : PromptMatcher) : Prop :=
  ∀ ⦃bs : Bytes⦄ ⦃f : Found⦄, m.find bs = some f → ∀ more, m.find (bs ++ more) = some f

theorem PromptMatcher.literal_steady {terms : List String} (h : Separated terms) : (literal terms).Steady :=
  fun _ _ hf more => find_append h hf more

namespace Stream

/-- The bytes before a match that was found in a part of the output, and the match. -/
theorem take_append {m : PromptMatcher} {bs : Bytes} {f : Found} (hf : m.find bs = some f) (more : Bytes) :
    (bs ++ more).take f.start = bs.take f.start ∧
    ((bs ++ more).take f.stop).drop f.start = (bs.take f.stop).drop f.start ∧
    (bs ++ more).drop f.stop = bs.drop f.stop ++ more := by
  obtain ⟨hle, hlen⟩ := PromptMatcher.find_mem hf
  exact ⟨List.take_append_of_le_length (by omega), by rw [List.take_append_of_le_length hlen],
    List.drop_append_of_le_length hlen⟩

theorem take_found {s : Stream} {m : PromptMatcher} {f : Found} (h : s.Ready) (hf : m.find s.buffer = some f) :
    (s.take f).1 = .taken (s.feed.bytes.take f.start) ((s.feed.bytes.take f.stop).drop f.start) f.index ∧
    (s.take f).2.Ready ∧ (s.take f).2.feed = s.feed.drop f.stop ∧ (s.take f).2.inClock = s.inClock := by
  obtain ⟨htake, hmid, hdrop⟩ := take_append hf
    (Feed.join (s.arrivals.map (·.chunk.feed)) ++ hangup s.closed).bytes
  refine ⟨?_, ⟨h.open_, h.due⟩, ?_, rfl⟩
  · rw [feed_bytes, htake, hmid]; rfl
  · have hb : (s.take f).2.feed.bytes = (s.feed.drop f.stop).bytes := hdrop.symm
    have hs : (s.take f).2.feed.stop = (s.feed.drop f.stop).stop := rfl
    cases hx : (s.take f).2.feed
    cases hy : s.feed.drop f.stop
    rw [hx, hy] at hb hs
    simp only at hb hs
    rw [hb, hs]

/-- Reading a chunk of output moves it from the queue into the buffer. -/
theorem read_ready {s : Stream} {a : Arrival} {rest : List Arrival} (h : s.Ready) (ha : s.arrivals = a :: rest)
    (hend : (Receipt.chunk a.chunk).end? = none) :
    (s.read a rest).Ready ∧ (s.read a rest).feed = s.feed ∧ (s.read a rest).inClock = s.inClock := by
  have hnow : (s.read a rest).now = s.now := Nat.max_eq_left (h.due a (by rw [ha]; exact List.mem_cons_self))
  refine ⟨⟨h.open_, fun b hb => ?_⟩, ?_, by unfold inClock; rw [hnow]; rfl⟩
  · exact Nat.le_trans (h.due b (by rw [ha]; exact List.mem_cons_of_mem _ hb)) (Nat.le_max_left ..)
  · have hc : a.chunk.feed = .ofBytes (Receipt.chunk a.chunk).bytes := by rw [Chunk.feed_eq, hend]; rfl
    simp only [feed, read, ha, List.map_cons, hc, Feed.join_cons]
    rw [← Feed.ofBytes_append, Feed.append_assoc, Feed.append_assoc]

/-- An end at the front of the queue ends the feed. -/
theorem feed_end {s : Stream} {a : Arrival} {rest : List Arrival} {e : StreamEnd} (ha : s.arrivals = a :: rest)
    (hend : (Receipt.chunk a.chunk).end? = some e) : s.feed = ⟨s.buffer, some e⟩ := by
  have hc : a.chunk.feed = ⟨[], some e⟩ := by rw [Chunk.feed_eq, Receipt.bytes_of_end hend, hend]
  have hj : Feed.join (s.arrivals.map (·.chunk.feed)) = ⟨[], some e⟩ := by
    rw [ha, List.map_cons, Feed.join_cons, Feed.append_of_some (by rw [hc]), hc]
  have hcat : (⟨[], some e⟩ : Feed) ++ hangup s.closed = ⟨[], some e⟩ := Feed.append_of_some rfl _
  rw [feed, hj, hcat, Feed.append_of_none rfl]
  simp [Feed.ofBytes]

theorem feed_nil {s : Stream} (ha : s.arrivals = []) :
    s.feed = ⟨s.buffer, if s.closed then some .eof else none⟩ := by
  rw [feed, ha]
  cases s.closed <;> simp [hangup, Feed.ofBytes, Feed.append_of_none]

theorem inTime_ready {s : Stream} {a : Arrival} {rest : List Arrival} (h : s.Ready) (ha : s.arrivals = a :: rest)
    (deadline : Option Nat) : s.inTime deadline a = true := by
  simp [inTime, h.due a (by rw [ha]; exact List.mem_cons_self)]

theorem Waits.feed_found {m : PromptMatcher} (hm : m.Steady) {deadline : Option Nat} {s : Stream}
    {rs : List Receipt} {r : Outcome × Stream} (h : Waits m deadline s rs r) (hr : s.Ready) {f : Found}
    (hf : m.find s.feed.bytes = some f) :
    r.1 = .taken (s.feed.bytes.take f.start) ((s.feed.bytes.take f.stop).drop f.start) f.index ∧
    r.2.Ready ∧ r.2.feed = s.feed.drop f.stop ∧ r.2.inClock = s.inClock := by
  induction h with
  | found hb =>
    -- what was found in the buffer is what is found in the whole feed
    cases hf.symm.trans (hm hb _)
    exact take_found hr hb
  | hangup hb ha | silence hb ha =>
    rw [feed_nil ha] at hf
    cases hf.symm.trans hb
  | late _ ha htime => cases htime.symm.trans (inTime_ready hr ha deadline)
  | ended hb ha _ hend =>
    rw [feed_end ha hend] at hf
    cases hf.symm.trans hb
  | read _ ha _ hend _ ih =>
    obtain ⟨hr', hfeed, hclock⟩ := read_ready hr ha hend
    rw [← hfeed] at hf ⊢
    rw [← hclock]
    exact ih hr' hf

/-- The outcome of a wait for what is not there, if it is given up at some time or never. -/
def missing (f : Feed) (deadline : Option Nat) : Outcome :=
  match f.stop, deadline with
  | some .eof, _ => .endOfStream f.bytes
  | some (.fault message), _ => .fault message
  | none, some _ => .timedOut f.bytes
  | none, none => .endless

theorem missing_ne_taken (f : Feed) (deadline : Option Nat) (before matched : Bytes) (index : Nat) :
    missing f deadline ≠ .taken before matched index := by
  unfold missing
  split <;> simp

/-- When a wait is given up does not matter to its outcome. -/
theorem missing_map (f : Feed) (nanos : Option Nat) (g : Nat → Nat) : missing f (nanos.map g) = missing f nanos := by
  rcases f with ⟨bs, _ | (_ | message)⟩ <;> cases nanos <;> rfl

theorem giveUp_missing (s : Stream) (deadline : Option Nat) :
    (s.giveUp deadline).1 = missing ⟨s.buffer, none⟩ deadline := by
  cases deadline <;> rfl

theorem finish_missing (s : Stream) (e : StreamEnd) (deadline : Option Nat) :
    (s.finish e).1 = missing ⟨s.buffer, some e⟩ deadline := by
  cases e <;> rfl

theorem Waits.feed_missing {m : PromptMatcher} (hm : m.Steady) {deadline : Option Nat} {s : Stream}
    {rs : List Receipt} {r : Outcome × Stream} (h : Waits m deadline s rs r) (hr : s.Ready)
    (hf : m.find s.feed.bytes = none) : r.1 = missing s.feed deadline := by
  induction h with
  | found hb => cases hf.symm.trans (hm hb _)
  | hangup _ ha hclosed => rw [feed_nil ha, if_pos hclosed, finish_missing _ _ deadline]
  | silence _ ha hopen => rw [feed_nil ha, hopen, giveUp_missing]; rfl
  | late _ ha htime => cases htime.symm.trans (inTime_ready hr ha deadline)
  | ended _ ha _ hend => rw [feed_end ha hend, finish_missing _ _ deadline]
  | read _ ha _ hend _ ih =>
    obtain ⟨hr', hfeed, -⟩ := read_ready hr ha hend
    rw [← hfeed] at hf ⊢
    exact ih hr' hf

variable {s : Stream} {m : PromptMatcher} {t : Timeout}

/-- A wait takes the first match of all that there is to read, at once. -/
theorem await_found (hm : m.Steady) (ht : s.inClock t) (hr : s.Ready) {f : Found}
    (hf : m.find s.feed.bytes = some f) :
    (s.await m t).1 = .taken (s.feed.bytes.take f.start) ((s.feed.bytes.take f.stop).drop f.start) f.index ∧
    (s.await m t).2.Ready ∧ (s.await m t).2.feed = s.feed.drop f.stop ∧ (s.await m t).2.inClock = s.inClock := by
  rw [await_of_inClock ht, hr.open_]
  exact (awaitFrom_waits m _ s.arrivals s rfl).feed_found hm hr hf

/-- A wait that finds nothing ends with the output, or else when it is given up. -/
theorem await_missing (hm : m.Steady) (ht : s.inClock t) (hr : s.Ready) (hf : m.find s.feed.bytes = none) :
    (s.await m t).1 = missing s.feed t.nanos? := by
  rw [await_of_inClock ht, hr.open_, ← missing_map _ t.nanos? s.deadline]
  exact (awaitFrom_waits m _ s.arrivals s rfl).feed_missing hm hr hf

/-- Readable output is waited for alike, however it was cut. -/
theorem await_alike (hm : m.Steady) {s' : Stream} (hr : s.Ready) (hr' : s'.Ready) (hfeed : s.feed = s'.feed)
    (hclock : s.inClock = s'.inClock) :
    (s.await m t).1 = (s'.await m t).1 ∧
    ((∃ before matched index, (s.await m t).1 = .taken before matched index) →
      (s.await m t).2.Ready ∧ (s'.await m t).2.Ready ∧ (s.await m t).2.feed = (s'.await m t).2.feed ∧
        (s.await m t).2.inClock = (s'.await m t).2.inClock) := by
  by_cases ht : s.inClock t
  · have ht' : s'.inClock t := hclock ▸ ht
    cases hf : m.find s.feed.bytes with
    | some f =>
      obtain ⟨ho, hr₁, hf₁, hc₁⟩ := await_found hm ht hr hf
      obtain ⟨ho', hr₂, hf₂, hc₂⟩ := await_found hm ht' hr' (hfeed ▸ hf)
      exact ⟨by rw [ho, ho', hfeed], fun _ => ⟨hr₁, hr₂, by rw [hf₁, hf₂, hfeed], by rw [hc₁, hc₂, hclock]⟩⟩
    | none =>
      have ho := await_missing hm ht hr hf
      refine ⟨by rw [ho, await_missing hm ht' hr' (hfeed ▸ hf), hfeed], fun ⟨before, matched, index, h⟩ => ?_⟩
      exact (missing_ne_taken _ _ before matched index (ho.symm.trans h)).elim
  · rw [await_of_not_inClock ht, await_of_not_inClock (hclock ▸ ht)]
    exact ⟨rfl, fun ⟨_, _, _, h⟩ => by cases h⟩

end Stream

/-! ## Scripts -/

/-- What a cue adds to a feed after a write. -/
def Cue.feed (written : Bytes) (cue : Cue) : Feed :=
  match cue.action with
  | .send c => c.feed
  | .echo => .ofBytes written
  | .drop => ⟨[], some .eof⟩
  | .refuse _ => {}

namespace Script

/-- What some cues add to a feed after a write. -/
def feedOf (written : Bytes) (cues : List Cue) : Feed := .join (cues.map (Cue.feed written))

theorem perform_ready {s : Stream} (h : s.Ready) (written : Bytes) {cue : Cue} (hd : cue.delay = 0) :
    (perform written s cue).Ready ∧ (perform written s cue).feed = s.feed ++ cue.feed written ∧
      (perform written s cue).inClock = s.inClock := by
  cases ha : cue.action with
  | send c => simp only [perform, Cue.feed, ha, hd, Nat.zero_mul]; exact Stream.send_ready h c
  | echo => simp only [perform, Cue.feed, ha, hd, Nat.zero_mul]; exact Stream.send_ready h (.data written)
  | drop => simp only [perform, Cue.feed, ha]; exact Stream.drop_ready h
  | refuse message => simp only [perform, Cue.feed, ha]; exact ⟨h, (Feed.append_nil _).symm, trivial⟩

theorem performAll_ready (written : Bytes) : ∀ (cues : List Cue) (s : Stream), s.Ready →
    (∀ cue ∈ cues, cue.delay = 0) →
    (performAll written s cues).Ready ∧ (performAll written s cues).feed = s.feed ++ feedOf written cues ∧
      (performAll written s cues).inClock = s.inClock := by
  intro cues
  induction cues with
  | nil => intro s h _; exact ⟨h, (Feed.append_nil _).symm, rfl⟩
  | cons cue rest ih =>
    intro s h hd
    obtain ⟨hr, hf, hc⟩ := perform_ready h written (hd cue List.mem_cons_self)
    obtain ⟨hr', hf', hc'⟩ := ih _ hr fun c hc => hd c (List.mem_cons_of_mem _ hc)
    refine ⟨hr', hf'.trans ?_, hc'.trans hc⟩
    rw [hf, Feed.append_assoc]
    rfl

end Script

end Transcripts
