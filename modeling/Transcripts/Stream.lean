import Transcripts.Prompt
import Transcripts.Text.Utf8

/-!
# Output streams

Output arrives in chunks and is held until a wait takes it.  A wait looks for a prompt before each
chunk; it takes the output up to the end of the match, or it ends without one because the time is up or
the output is over.  Time is counted in nanoseconds and moves only inside a wait that has nothing to
read; a wait is given up at a tick of the clock, of which there is one every millisecond.
-/
namespace Transcripts

open Transcripts.Text (Bytes)

/-- One piece of output (`OutputChunk`). -/
inductive Chunk where
  | data (bs : Bytes)
  | eof
  /-- Reading failed. -/
  | fault (message : String)
deriving Repr, DecidableEq

/-- A chunk and the time at which it can be read. -/
structure Arrival where
  due : Nat
  chunk : Chunk
deriving Repr, DecidableEq

/-- How a stream came to its end (`StreamEnd`). -/
inductive StreamEnd where
  | eof
  | fault (message : String)
deriving Repr, DecidableEq

/-- A clock that starts at nothing holds fewer seconds than this. -/
def clockSeconds : Nat := 0x8000000000000000

/-- Output that was read and output that is to come (`OutputStream`), with the clock that waits go by. -/
structure Stream where
  /-- What the clock says, in nanoseconds since a tick. -/
  now : Nat := 0
  /-- What was read and not yet taken. -/
  buffer : Bytes := []
  ended : Option StreamEnd := none
  /-- What is still to be read, in order of time. -/
  arrivals : List Arrival := []
  /-- Whether nothing will be added to the arrivals. -/
  closed : Bool := false
  /-- The first time that the clock cannot say. -/
  clockEnd : Nat := clockSeconds * Timeout.nanosPerSecond
deriving Repr, DecidableEq

/-- How a wait ends, or that it does not (`PromptMatch` and `WaitError`, before the output is read as
text). -/
inductive Outcome where
  /-- A prompt was found; it is taken with all that comes before it. -/
  | taken (before matched : Bytes) (index : Nat)
  | timedOut (received : Bytes)
  /-- The output is over; what was left is taken. -/
  | endOfStream (received : Bytes)
  | fault (message : String)
  /-- The wait goes on for ever: it is never given up, and nothing more will be sent. -/
  | endless
  /-- The clock cannot say the time at which the wait would be given up, and the program ends. -/
  | beyondClock
deriving Repr, DecidableEq

/-! ## Sending -/

/-- Puts an arrival behind all that are due no later. -/
def insertArrival (a : Arrival) : List Arrival → List Arrival
  | [] => [a]
  | b :: rest => if b.due ≤ a.due then b :: insertArrival a rest else a :: b :: rest

namespace Stream

/-- A chunk that can be read after some time. -/
def send (s : Stream) (delay : Nat) (c : Chunk) : Stream :=
  if s.closed then s else { s with arrivals := insertArrival ⟨s.now + delay, c⟩ s.arrivals }

/-- The sender goes away; what was sent can still be read. -/
def drop (s : Stream) : Stream := { s with closed := true }

/-- What was read and not yet taken, as a text (`OutputStream.pending`). -/
def pending (s : Stream) : String := Text.shown s.buffer

/-! ## The clock -/

/-- Nanoseconds from one tick of the clock to the next. -/
def nanosPerTick : Nat := 1000000

/-- The first tick that does not come before a time. -/
def tickFrom (time : Nat) : Nat := (time + (nanosPerTick - 1)) / nanosPerTick * nanosPerTick

/-- When a wait that starts now is given up: at the first tick that does not come before the end of its
timeout. -/
def deadline (s : Stream) (nanos : Nat) : Nat := tickFrom (s.now + nanos)

/-- Whether the clock can say when the timeout of a wait that starts now is over. -/
def inClock (s : Stream) (timeout : Timeout) : Bool := timeout.nanos?.all (s.now + · < s.clockEnd)

/-! ## Waiting -/

/-- Takes a match from the buffer (`OutputStream.take`). -/
def take (s : Stream) (f : Found) : Outcome × Stream :=
  (.taken (s.buffer.take f.start) ((s.buffer.take f.stop).drop f.start) f.index,
    { s with buffer := s.buffer.drop f.stop })

/-- The end of a wait after which the output is over. -/
def finish (s : Stream) : StreamEnd → Outcome × Stream
  | .eof => (.endOfStream s.buffer, { s with buffer := [] })
  | .fault message => (.fault message, s)

/-- The end of a wait during which nothing more can be read: it is given up at its deadline, if it has one. -/
def giveUp (s : Stream) : Option Nat → Outcome × Stream
  | none => (.endless, s)
  | some deadline => (.timedOut s.buffer, { s with now := max s.now deadline })

/-- Whether a chunk can be read: at once, or in time. -/
def inTime (s : Stream) (deadline : Option Nat) (a : Arrival) : Bool :=
  a.due ≤ s.now || deadline.all (a.due ≤ ·)

/-- Waits while the chunks of a list arrive (the loop of `OutputStream.read_until`). -/
def awaitFrom (m : PromptMatcher) (deadline : Option Nat) (s : Stream) : List Arrival → Outcome × Stream
  | [] =>
    let s := { s with arrivals := [] }
    match m.find s.buffer with
    | some f => s.take f
    | none =>
      if s.closed then finish { s with ended := some .eof } .eof
      else s.giveUp deadline
  | a :: rest =>
    match m.find s.buffer with
    | some f => { s with arrivals := a :: rest }.take f
    | none =>
      if s.inTime deadline a then
        let s := { s with now := max s.now a.due, arrivals := rest }
        match a.chunk with
        | .data bs => awaitFrom m deadline { s with buffer := s.buffer ++ bs } rest
        | .eof => finish { s with ended := some .eof } .eof
        | .fault message => finish { s with ended := some (.fault message) } (.fault message)
      else { s with arrivals := a :: rest }.giveUp deadline

/-- Waits for a prompt (`OutputStream.read_until`).  Once the end was read nothing more is. -/
def await (s : Stream) (m : PromptMatcher) (timeout : Timeout) : Outcome × Stream :=
  if s.inClock timeout then
    match s.ended with
    | some e =>
      match m.find s.buffer with
      | some f => s.take f
      | none => s.finish e
    | none => awaitFrom m (timeout.nanos?.map s.deadline) s s.arrivals
  else (.beyondClock, s)

end Stream

end Transcripts
