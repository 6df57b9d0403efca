import Transcripts.Machine.Step

/-!
# Running machines

Processes take turns.  When all of them wait, the clock moves to the next time at which something
happens; a process that works without waiting makes it move too.
-/
namespace Transcripts.Machine

open Transcripts.Text (Bytes)
open Transcripts.Process

/-- Time between an event and what a process does about it. -/
def latency : Nat := 1

/-- The steps that a process takes in one turn. -/
def turnSteps : Nat := 500

/-- What a turn comes to: the machine, whether anything was done, and whether there was no end to it. -/
structure Turn where
  machine : Machine
  moved : Bool := false
  busy : Bool := false
  /-- When the process goes on if nothing else happens. -/
  deadline : Option Nat := none

/-- Lets one process do some steps. -/
def turn (table : Programs) (pid : Nat) : Nat → Bool → Machine → Turn
  | 0, moved, m => { machine := m, moved, busy := true }
  | fuel + 1, moved, m =>
    match m.entry? pid with
    | none => { machine := m, moved }
    | some e =>
      if e.stopped.isSome || m.ended.isSome then { machine := m, moved }
      else
        match step table m e with
        | .done m => turn table pid fuel true m
        | .waits deadline => { machine := m, moved, deadline }

/-- The earlier one of two times. -/
def earlier : Option Nat → Option Nat → Option Nat
  | some a, some b => some (min a b)
  | some a, none => some a
  | none, b => b

/-- Gives each of some processes a turn. -/
def turns (table : Programs) (t : Turn) : List Nat → Turn
  | [] => t
  | pid :: rest =>
    let u := turn table pid turnSteps false t.machine
    turns table ⟨u.machine, t.moved || u.moved, t.busy || u.busy, earlier t.deadline u.deadline⟩ rest

/-- Types what is typed by now. -/
def receiveDue (m : Machine) : List (Nat × Bytes) → Machine × Bool
  | [] => ({ m with typed := [] }, false)
  | (t, bs) :: rest =>
    if t ≤ m.now then ((receiveDue (m.receive bs) rest).1, true)
    else ({ m with typed := (t, bs) :: rest }, false)

/-- Runs a machine up to some time.  When it has worked for too long without a pause it is left as it
is. -/
def advance (table : Programs) (limit : Nat) : Nat → Machine → Machine
  | 0, m => m
  | fuel + 1, m =>
    if m.ended.isSome then m
    else
      let (m, received) := m.receiveDue m.typed
      let m := if received then { m with now := m.now + latency } else m
      if limit < m.now then m
      else
        let t := turns table { machine := m } (m.processes.map (·.pid))
        if t.busy then advance table limit fuel { t.machine with now := t.machine.now + 1 }
        else if t.moved then advance table limit fuel t.machine
        else
          match earlier t.deadline (m.typed.head?.map (·.1)) with
          | none => m
          | some time =>
            if time ≤ limit then advance table limit fuel { m with now := max m.now time } else m

end Transcripts.Machine
