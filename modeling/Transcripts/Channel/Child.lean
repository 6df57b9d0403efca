import Transcripts.Channel
import Transcripts.Child

/-!
# Child processes as channels

What a child process shows arrives in chunks, a moment after it is shown.  A wait runs the machine of the
child ahead until it is clear how the wait ends, and then keeps what the machine was at that time, so
that what is written next finds it there.
-/
namespace Transcripts.Child

open Transcripts.Text (Bytes)

/-- A session with a child process (`PtyChannel`). -/
structure State where
  stream : Stream := {}
  /-- The machine as it is now; it holds what was shown and not yet read. -/
  machine : Machine

/-- The time of the machine, which counts the ticks of the clock. -/
def State.time (st : State) : Nat := st.stream.now / Stream.nanosPerTick

/-- The most bytes that are read at once. -/
def chunkSize : Nat := 4096

/-- The time that passes until what is shown can be read. -/
def delivery : Nat := 1

/-- Joins what is shown at the same time. -/
def joined : List (Nat × Bytes) → List (Nat × Bytes)
  | [] => []
  | (t, bs) :: rest =>
    match joined rest with
    | (u, cs) :: more => if t = u then (t, bs ++ cs) :: more else (t, bs) :: (u, cs) :: more
    | [] => [(t, bs)]

/-- Bytes in chunks that can be read at once. -/
def chunks (due : Nat) : Nat → Bytes → List Arrival
  | 0, _ => []
  | fuel + 1, bs =>
    if bs.isEmpty then []
    else ⟨due * Stream.nanosPerTick, .data (bs.take chunkSize)⟩ :: chunks due fuel (bs.drop chunkSize)

/-- What can be read of a machine. -/
def arrivals (m : Machine) : List Arrival :=
  let data := (joined m.shown.reverse).flatMap fun (t, bs) =>
    chunks (t + delivery) (bs.length / chunkSize + 1) bs
  data ++ (m.ended.map fun (t, _) => Arrival.mk ((t + delivery) * Stream.nanosPerTick) .eof).toList

/-- The bytes of some arrivals. -/
def sizeOf (as : List Arrival) : Nat :=
  as.foldl (fun n a => match a.chunk with
    | .data bs => n + bs.length
    | _ => n) 0

/-- Leaves out some bytes at the start. -/
def dropBytes : Nat → List (Nat × Bytes) → List (Nat × Bytes)
  | _, [] => []
  | n, (t, bs) :: rest =>
    if n < bs.length then (t, bs.drop n) :: rest else dropBytes (n - bs.length) rest

/-- More rounds than a machine takes in the time of a wait. -/
def rounds : Nat := 200000

/-- The machine at some later time. -/
def ahead (limit : Nat) (m : Machine) : Machine := m.advance Programs.table limit rounds

/-- What becomes of a session when a wait comes to an outcome that the machine `far` decides. -/
def settle (st : State) (far : Machine) (stream : Stream) : State :=
  let read := sizeOf (arrivals far) - sizeOf stream.arrivals
  let m := ahead (stream.now / Stream.nanosPerTick) st.machine
  { stream := { stream with arrivals := [] }
    machine := { m with shown := (dropBytes read m.shown.reverse).reverse } }

/-- Whether nothing that a machine does after `limit` can change how a wait went. -/
def isDecided (limit : Nat) : Outcome → Stream → Bool
  | .endless, _ => false
  | _, stream => stream.now ≤ limit * Stream.nanosPerTick

/-- Waits with a machine that runs ahead, further in each round, until nothing later can change the
outcome. -/
def awaitFrom (p : PromptMatcher) (timeout : Timeout) (st : State) (stop : Nat) :
    Nat → Nat → Machine → Outcome × State
  | 0, _, far =>
    let (outcome, stream) := { st.stream with arrivals := arrivals far }.await p timeout
    (outcome, settle st far stream)
  | fuel + 1, length, far =>
    let limit := min stop (st.time + length)
    let far := ahead limit far
    let (outcome, stream) := { st.stream with arrivals := arrivals far }.await p timeout
    if isDecided limit outcome stream || stop ≤ limit then (outcome, settle st far stream)
    else awaitFrom p timeout st stop fuel (length * 4) far

/-- More rounds than a wait has. -/
def waits : Nat := 64

/-- How far a machine is run ahead for a wait that is never given up. -/
def patience : Nat := 100000000000

/-- When a wait that starts now is given up, in the time of the machine. -/
def stopOf (timeout : Timeout) (st : State) : Nat :=
  match timeout.nanos? with
  | some n => st.stream.deadline n / Stream.nanosPerTick
  | none => st.time + patience

/-- Waits for a prompt (`PtyChannel.read_until`). -/
def await (p : PromptMatcher) (timeout : Timeout) (st : State) : WaitResult × State :=
  let (outcome, st) := awaitFrom p timeout st (stopOf timeout st) waits 4 st.machine
  (outcome.result, st)

/-- Types some bytes now. -/
def type (bs : Bytes) (st : State) : State :=
  { st with machine := { st.machine with typed := st.machine.typed ++ [(st.time, bs)] } }

/-- Writes to the terminal (`PtyChannel.write_all`). -/
def write (bs : Bytes) (st : State) : Except String Unit × State := (.ok (), type bs st)

/-- The byte that ends the input (`EOT`). -/
def endOfInput : UInt8 := 0x04

/-- How long a child process may take to end after its input has ended. -/
def grace : Nat := 1950

/-- Ends the input, and gives the child process some time to end too before it is killed
(`PtyChannel.close_inner`). -/
def closeWithin (millis : Nat) (st : State) : Except CloseWarning (Option Nat) × State :=
  let st := type [endOfInput] st
  let limit := st.time + millis
  let m := ahead limit st.machine
  let code := m.ended.bind fun (t, how) => if t ≤ limit then some (exitCode how) else none
  (.ok code, { st with machine := m })

/-- The session with a child process that was just started. -/
def begin_ (c : Child) : State := { machine := c.machine }

/-- A child process that is talked to. -/
def channel : Channel State := ⟨await, write, closeWithin grace⟩

end Transcripts.Child
