import Transcripts.Process

/-!
# Machines

Processes with the files that they share, one terminal and a clock: what a machine holds, and how
signals and ends of processes reach the others.
-/
namespace Transcripts

open Transcripts.Text (Bytes)
open Transcripts.Process

namespace Machine

/-- What an open file is about. -/
inductive Source where
  | terminal
  | pipe (id : Nat)
  | node (id : Nat)
deriving Repr, DecidableEq

/-- A file while it is open. -/
structure OpenFile where
  source : Source
  access : Files.Access
  /-- Where it is read or written next. -/
  place : Nat := 0
deriving Repr, DecidableEq

/-- Bytes that were written and are not yet read. -/
structure Pipe where
  front : Bytes := []
  /-- What comes behind the front, last first. -/
  back : List Bytes := []
  size : Nat := 0
  /-- How often it was opened to read and to write. -/
  readers : Nat := 0
  writers : Nat := 0
deriving Repr, DecidableEq

namespace Pipe

/-- The most bytes that a pipe holds. -/
def room : Nat := 65536

def append (p : Pipe) (bs : Bytes) : Pipe :=
  { p with back := bs :: p.back, size := p.size + bs.length }

/-- Takes at most some bytes. -/
def take (p : Pipe) (count : Nat) : Bytes × Pipe :=
  let front := if p.back.isEmpty then p.front else p.front ++ p.back.reverse.flatten
  let bs := front.take count
  (bs, { p with front := front.drop count, back := [], size := p.size - bs.length })

end Pipe

/-- A descriptor: the open file, and whether programs that are run keep it. -/
structure Descriptor where
  file : Nat
  kept : Bool := true
deriving Repr, DecidableEq

/-- A process and what the system knows of it. -/
structure Entry where
  pid : Nat
  parent : Nat
  group : Nat
  code : Process
  here : Nat
  mask : Nat := 0o22
  descriptors : List (Nat × Descriptor) := []
  provisions : List (Signal × Provision) := []
  /-- Signals that were caught and not taken up. -/
  caught : List Signal := []
  /-- The signal that has stopped it. -/
  stopped : Option Signal := none
  /-- Signals that came while it was stopped. -/
  pending : List Signal := []
  /-- What has become of children, in order. -/
  reports : List (Nat × Change) := []
  /-- When the present wait for input began. -/
  since : Option Nat := none
  /-- A pipe with a name that is being opened, and how often the other side was opened before. -/
  opening : Option (Nat × Nat) := none

end Machine

structure Machine where
  now : Nat := 0
  files : Files
  terminal : Terminal := {}
  foreground : Nat
  /-- What is still to be typed, with the times. -/
  typed : List (Nat × Bytes) := []
  /-- What the terminal has shown, last first. -/
  shown : List (Nat × Bytes) := []
  processes : List Machine.Entry := []
  /-- The files that were opened, by number. -/
  opened : List (Nat × Machine.OpenFile) := []
  pipes : List (Nat × Machine.Pipe) := []
  /-- The pipes of nodes that are pipes. -/
  named : List (Nat × Nat) := []
  /-- A number that nothing has. -/
  next : Nat
  /-- The first process, with which everything ends. -/
  leader : Nat
  /-- When and how that came. -/
  ended : Option (Nat × Ending) := none

namespace Machine

/-! ## Looking up -/

def entry? (m : Machine) (pid : Nat) : Option Entry := m.processes.find? (·.pid == pid)

/-- Puts a process in the place of what it was. -/
def put (m : Machine) (e : Entry) : Machine :=
  { m with processes := m.processes.map fun f => if f.pid = e.pid then e else f }

def update (m : Machine) (pid : Nat) (f : Entry → Entry) : Machine :=
  { m with processes := m.processes.map fun e => if e.pid = pid then f e else e }

/-- The open file of a descriptor. -/
def file? (m : Machine) (e : Entry) (fd : Nat) : Option (Nat × OpenFile) := do
  let d ← e.descriptors.lookup fd
  let f ← m.opened.lookup d.file
  return (d.file, f)

def setFile (m : Machine) (id : Nat) (f : OpenFile) : Machine :=
  { m with opened := m.opened.map fun (k, g) => if k = id then (k, f) else (k, g) }

def setPipe (m : Machine) (id : Nat) (p : Pipe) : Machine :=
  { m with pipes := m.pipes.map fun (k, q) => if k = id then (k, p) else (k, q) }

/-- Whether a process has a pipe open to read, or to write. -/
def holds (m : Machine) (pipe : Nat) (writes : Bool) : Bool :=
  m.processes.any fun e => e.descriptors.any fun (_, d) =>
    match m.opened.lookup d.file with
    | some f => f.source == .pipe pipe && (if writes then f.access.writes else f.access.reads)
    | none => false

/-- Forgets open files and pipes that no process has. -/
def tidy (m : Machine) : Machine :=
  let used := m.processes.flatMap fun e => e.descriptors.map (·.2.file)
  let opened := m.opened.filter fun (id, _) => used.contains id
  { m with
    opened
    pipes := m.pipes.filter fun (id, _) => opened.any fun (_, f) => f.source == .pipe id
    named := m.named.filter fun (_, id) => opened.any fun (_, f) => f.source == .pipe id }

def leadOf (f : OpenFile) : Lead :=
  match f.source with
  | .terminal => .terminal
  | .pipe _ => .pipe
  | .node id => .node id

/-- What a process can see. -/
def view (m : Machine) (e : Entry) : View :=
  { now := m.now, files := m.files, terminal := m.terminal, foreground := m.foreground, pid := e.pid
    parent := e.parent, group := e.group, here := e.here, mask := e.mask
    descriptors := e.descriptors.filterMap fun (fd, d) =>
      (m.opened.lookup d.file).map fun f => (fd, leadOf f)
    provisions := e.provisions }

/-! ## The terminal -/

/-- Shows some bytes now. -/
def show_ (m : Machine) (bs : Bytes) : Machine :=
  if bs.isEmpty then m else { m with shown := (m.now, bs) :: m.shown }

/-- Shows what the terminal does not hold back any more. -/
def drain (m : Machine) : Machine :=
  let (bs, terminal) := m.terminal.drain
  { m with terminal }.show_ bs

/-- Writes to the terminal. -/
def display (m : Machine) (bs : Bytes) : Machine :=
  let (out, terminal) := m.terminal.write bs
  { m with terminal }.show_ out

/-! ## Ends and signals -/

/-- Tells a process what has become of a child. -/
def report (m : Machine) (pid child : Nat) (c : Change) : Machine :=
  m.update pid fun e =>
    { e with
      reports := e.reports.filter (fun r => r.1 != child) ++ [(child, c)]
      caught := if e.provisions.lookup .child == some .caught && !e.caught.contains .child then
        e.caught ++ [.child] else e.caught }

/-- Ends a process. -/
def finish (m : Machine) (pid : Nat) (how : Ending) : Machine :=
  match m.entry? pid with
  | none => m
  | some e =>
    let others := (m.processes.filter (·.pid != pid)).map fun f =>
      if f.parent = pid then { f with parent := 0 } else f
    let m := { m with processes := others }.report e.parent pid (.ended how)
    let m := if m.pipes.isEmpty then m else m.tidy
    if pid = m.leader then { m with ended := some (m.now, how) } else m

/-- Whether nobody who could see to it cares for a group of processes. -/
def isOrphaned (m : Machine) (group : Nat) : Bool :=
  m.processes.all fun e =>
    e.group != group || (match m.entry? e.parent with
      | some p => p.group == group
      | none => true)

def provisionOf (e : Entry) (s : Signal) : Provision :=
  if s.isAvoidable then (e.provisions.lookup s).getD .none_ else .none_

/-- Sends a signal to a process that is not stopped. -/
def meet (m : Machine) (e : Entry) (s : Signal) : Machine :=
  match provisionOf e s with
  | .ignored => m
  | .caught =>
    m.update e.pid fun e => if e.caught.contains s then e else { e with caught := e.caught ++ [s] }
  | .none_ =>
    match s.effect with
    | .passes => m
    | .continues => m
    | .ends => m.finish e.pid (.killed s)
    | .stops =>
      if s != .stop && m.isOrphaned e.group then m
      else (m.update e.pid fun e => { e with stopped := some s }).report e.parent e.pid (.stopped s)

/-- Sends a signal to a process. -/
def signal (m : Machine) (pid : Nat) (s : Signal) : Machine :=
  match m.entry? pid with
  | none => m
  | some e =>
    if s = .kill then m.finish pid (.killed s)
    else if s = .continue_ then
      match e.stopped with
      | none => m.meet e s
      | some _ =>
        let m := m.update pid fun e => { e with stopped := none, pending := [] }
        let m := (m.report e.parent pid .continued)
        let m := m.update e.parent fun p => { p with reports := p.reports.filter (·.2 != .continued) }
        e.pending.foldl (fun m t => match m.entry? pid with
          | some e => m.meet e t
          | none => m) m
    else if e.stopped.isSome then
      m.update pid fun e =>
        if e.pending.contains s || s.effect == .stops then e else { e with pending := e.pending ++ [s] }
    else m.meet e s

/-- Sends a signal to all processes of a group. -/
def signalGroup (m : Machine) (group : Nat) (s : Signal) : Machine :=
  ((m.processes.filter (·.group == group)).map (·.pid)).foldl (fun m pid => m.signal pid s) m

/-! ## Typing -/

/-- Types some bytes. -/
def receive (m : Machine) (bs : Bytes) : Machine :=
  let (terminal, signals) := m.terminal.type bs
  let m := { m with terminal }.drain
  signals.foldl (fun m s => m.signalGroup m.foreground s) m

end Machine

end Transcripts
