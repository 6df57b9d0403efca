import Transcripts.Machine

/-!
# Steps of a machine

What the system does with one request of a process.  A request that cannot be met yet leaves everything
as it is.
-/
namespace Transcripts.Machine

open Transcripts.Text (Bytes)
open Transcripts.Process

/-- The programs of the system, by name: what a program is with its words and variables. -/
abbrev Programs := List (String × (List Str → Variables → Process))

/-- What a request comes to. -/
inductive Answer where
  | done (m : Machine)
  /-- Nothing can be done before some time, or before something else happens. -/
  | waits (deadline : Option Nat)

/-- Goes on with a process. -/
def goOn (m : Machine) (e : Entry) (code : Process) : Answer :=
  .done (m.put { e with code, since := none, opening := none })

/-- A wait that a caught signal breaks off. -/
def waitOr (m : Machine) (e : Entry) (interrupted : Process) (deadline : Option Nat) : Answer :=
  if e.caught.isEmpty then .waits deadline else goOn m e interrupted

/-! ## Reading and writing -/

/-- Whether a process may not use the terminal as it likes, and what comes of trying. -/
def fromBehind (m : Machine) (e : Entry) (s : Signal) (refused : Process) : Option Answer :=
  if e.group = m.foreground then none
  else
    match provisionOf e s with
    | .ignored => some (goOn m e refused)
    | _ =>
      if m.isOrphaned e.group then some (goOn m e refused)
      else some (.done (m.signalGroup e.group s))

def readTerminal (m : Machine) (e : Entry) (count : Nat) (k : Except SystemFault Bytes → Process) :
    Answer :=
  match fromBehind m e .backgroundRead (k (.error .inputOutput)) with
  | some a => a
  | none =>
    match m.terminal.read count with
    | .bytes bs terminal => goOn { m with terminal } e (k (.ok bs))
    | .wait none => waitOr m e (k (.error .interrupted)) none
    | .wait (some millis) =>
      let since := e.since.getD m.now
      if since + millis ≤ m.now then goOn m e (k (.ok []))
      else if e.since.isNone then .done (m.put { e with since := some since })
      else waitOr m e (k (.error .interrupted)) (some (since + millis))

def readPipe (m : Machine) (e : Entry) (id count : Nat) (k : Except SystemFault Bytes → Process) :
    Answer :=
  match m.pipes.lookup id with
  | none => goOn m e (k (.ok []))
  | some p =>
    if 0 < p.size then
      let (bs, p) := p.take count
      goOn (m.setPipe id p) e (k (.ok bs))
    else if m.holds id true then waitOr m e (k (.error .interrupted)) none
    else goOn m e (k (.ok []))

/-- What is read from a node. -/
def nodeBytes (m : Machine) (id place count : Nat) : Except SystemFault Bytes :=
  match m.files.content? id with
  | some (.file bs) => .ok ((bs.drop place).take count)
  | some (.directory ..) => .error .isDirectory
  | some (.device .null) => .ok []
  | some (.device (.descriptor _)) => .ok []
  | some (.device _) => .ok (List.replicate count 0)
  | _ => .ok []

def read (m : Machine) (e : Entry) (fd count : Nat) (k : Except SystemFault Bytes → Process) : Answer :=
  match m.file? e fd with
  | none => goOn m e (k (.error .badDescriptor))
  | some (id, f) =>
    if !f.access.reads then goOn m e (k (.error .badDescriptor))
    else if count = 0 then goOn m e (k (.ok []))
    else
      match f.source with
      | .terminal => readTerminal m e count k
      | .pipe p => readPipe m e p count k
      | .node n =>
        match nodeBytes m n f.place count with
        | .ok bs => goOn (m.setFile id { f with place := f.place + bs.length }) e (k (.ok bs))
        | .error fault => goOn m e (k (.error fault))

/-- Bytes with others written over them from some place on. -/
def overwrite (old : Bytes) (place : Nat) (bs : Bytes) : Bytes :=
  old.take place ++ List.replicate (place - old.length) 0 ++ bs ++ old.drop (place + bs.length)

/-- Writes to a node: the place behind what was written, and the machine. -/
def writeNode (m : Machine) (id : Nat) (f : OpenFile) (bs : Bytes) :
    Except SystemFault (Nat × Machine) :=
  match m.files.content? id with
  | some (.file old) =>
    let place := if f.access.appends then old.length else f.place
    let files := m.files.modify id fun n =>
      { n with content := .file (overwrite old place bs), time := m.now }
    .ok (place + bs.length, { m with files })
  | some (.device .full) => .error .noSpace
  | some (.device _) => .ok (f.place, m)
  | _ => .error .badDescriptor

def writePipe (m : Machine) (e : Entry) (id fd : Nat) (bs : Bytes)
    (k : Except SystemFault Unit → Process) : Answer :=
  match m.pipes.lookup id with
  | none => goOn m e (k (.error .brokenPipe))
  | some p =>
    if !m.holds id false then
      match provisionOf e .pipe with
      | .none_ => .done (m.finish e.pid (.killed .pipe))
      | .ignored => goOn m e (k (.error .brokenPipe))
      | .caught => goOn m { e with caught := e.caught ++ [.pipe] } (k (.error .brokenPipe))
    else if p.size + bs.length ≤ Pipe.room then goOn (m.setPipe id (p.append bs)) e (k (.ok ()))
    else if p.size < Pipe.room then
      let n := Pipe.room - p.size
      .done ((m.setPipe id (p.append (bs.take n))).put { e with code := .write fd (bs.drop n) k })
    else waitOr m e (k (.error .interrupted)) none

def write (m : Machine) (e : Entry) (fd : Nat) (bs : Bytes) (k : Except SystemFault Unit → Process) :
    Answer :=
  match m.file? e fd with
  | none => goOn m e (k (.error .badDescriptor))
  | some (id, f) =>
    if !f.access.writes then goOn m e (k (.error .badDescriptor))
    else if bs.isEmpty then goOn m e (k (.ok ()))
    else
      match f.source with
      | .terminal =>
        match if m.terminal.has .tostop then
            fromBehind m e .backgroundWrite (k (.error .inputOutput)) else none with
        | some a => a
        | none =>
          if m.terminal.stopped then waitOr m e (k (.error .interrupted)) none
          else goOn (m.display bs) e (k (.ok ()))
      | .pipe p => writePipe m e p fd bs k
      | .node n =>
        match writeNode m n f bs with
        | .ok (place, m) => goOn (m.setFile id { f with place }) e (k (.ok ()))
        | .error fault => goOn m e (k (.error fault))

/-! ## Descriptors -/

/-- The first descriptor from some number on that is free. -/
def freeFrom (e : Entry) : Nat → Nat → Nat
  | 0, fd => fd
  | fuel + 1, fd => if (e.descriptors.lookup fd).isSome then freeFrom e fuel (fd + 1) else fd

def free (e : Entry) (least : Nat) : Nat := freeFrom e (e.descriptors.length + 1) least

def setDescriptor (e : Entry) (fd : Nat) (d : Descriptor) : Entry :=
  { e with descriptors := e.descriptors.filter (·.1 != fd) ++ [(fd, d)] }

/-- So many open files are kept before those that nobody has are forgotten. -/
def openedLimit : Nat := 64

/-- Adds an open file and a descriptor for it. -/
def open_ (m : Machine) (e : Entry) (f : OpenFile) : Nat × Machine × Entry :=
  let m := if openedLimit < m.opened.length then (m.put e).tidy else m
  let fd := free e 0
  (fd, { m with opened := m.opened ++ [(m.next, f)], next := m.next + 1 },
    setDescriptor e fd { file := m.next })

/-- The pipe of a node that is one. -/
def namedPipe (m : Machine) (node : Nat) : Nat × Machine :=
  match m.named.lookup node with
  | some id => (id, m)
  | none =>
    (m.next, { m with
      named := m.named ++ [(node, m.next)], pipes := m.pipes ++ [(m.next, {})], next := m.next + 1 })

/-- Opens a pipe that has a name, which needs somebody on the other side. -/
def openNamed (m : Machine) (e : Entry) (node : Nat) (a : Files.Access)
    (k : Except SystemFault Nat → Process) : Answer :=
  match e.opening with
  | some (fd, before) =>
    match m.file? e fd with
    | some (_, ⟨.pipe id, _, _⟩) =>
      let p := (m.pipes.lookup id).getD {}
      if (a.reads && a.writes) || before < (if a.writes then p.readers else p.writers)
          || m.holds id (!a.writes) then
        goOn m e (k (.ok fd))
      else if e.caught.isEmpty then .waits none
      else
        goOn m { e with descriptors := e.descriptors.filter (·.1 != fd) } (k (.error .interrupted))
    | _ => goOn m e (k (.error .badDescriptor))
  | none =>
    let (id, m) := namedPipe m node
    let p := (m.pipes.lookup id).getD {}
    let before := if a.writes then p.readers else p.writers
    let p := { p with
      readers := p.readers + (if a.reads then 1 else 0)
      writers := p.writers + (if a.writes then 1 else 0) }
    let (fd, m, e) := open_ (m.setPipe id p) e ⟨.pipe id, a, 0⟩
    .done (m.put { e with opening := some (fd, before) })

def openPath (m : Machine) (e : Entry) (path : Str) (a : Files.Access)
    (k : Except SystemFault Nat → Process) : Answer :=
  let opened (m : Machine) (source : Source) : Answer :=
    let (fd, m, e) := open_ m e ⟨source, a, 0⟩
    goOn m e (k (.ok fd))
  match m.files.openAt e.here path a (0o666 &&& (0o777 - e.mask)) m.now with
  | .error fault => goOn m e (k (.error fault))
  | .ok (id, files) =>
    let m := { m with files }
    match files.content? id with
    | some (.device .terminal) => opened m .terminal
    | some .fifo => openNamed m e id a k
    | some (.device (.descriptor n)) =>
      match m.file? e n with
      | none => goOn m e (k (.error .missing))
      | some (_, f) => opened m f.source
    | _ => opened m (.node id)

def copy (m : Machine) (e : Entry) (fd least : Nat) (k : Except SystemFault Nat → Process) : Answer :=
  match e.descriptors.lookup fd with
  | none => goOn m e (k (.error .badDescriptor))
  | some d =>
    let n := free e least
    goOn m (setDescriptor e n { d with kept := false }) (k (.ok n))

def copyTo (m : Machine) (e : Entry) (fd target : Nat) (k : Except SystemFault Unit → Process) :
    Answer :=
  match e.descriptors.lookup fd with
  | none => goOn m e (k (.error .badDescriptor))
  | some d =>
    let e := if fd = target then e else setDescriptor e target { d with kept := true }
    goOn (if m.pipes.isEmpty then m else (m.put e).tidy) e (k (.ok ()))

def close (m : Machine) (e : Entry) (fd : Nat) (k : Except SystemFault Unit → Process) : Answer :=
  match e.descriptors.lookup fd with
  | none => goOn m e (k (.error .badDescriptor))
  | some _ =>
    let e := { e with descriptors := e.descriptors.filter (·.1 != fd) }
    goOn (if m.pipes.isEmpty then m else (m.put e).tidy) e (k (.ok ()))

def makePipe (m : Machine) (e : Entry) (k : Nat × Nat → Process) : Answer :=
  let id := m.next
  let m := { m with pipes := m.pipes ++ [(id, {})], next := id + 1 }
  let (r, m, e) := open_ m e ⟨.pipe id, { reads := true }, 0⟩
  let (w, m, e) := open_ m e ⟨.pipe id, { writes := true }, 0⟩
  goOn m e (k (r, w))

def seek (m : Machine) (e : Entry) (fd place : Nat) (k : Except SystemFault Unit → Process) : Answer :=
  match m.file? e fd with
  | none => goOn m e (k (.error .badDescriptor))
  | some (id, f) =>
    match f.source with
    | .node _ => goOn (m.setFile id { f with place }) e (k (.ok ()))
    | _ => goOn m e (k (.error .noSeek))

def tell (m : Machine) (e : Entry) (fd : Nat) (k : Except SystemFault Nat → Process) : Answer :=
  match m.file? e fd with
  | none => goOn m e (k (.error .badDescriptor))
  | some (_, f) =>
    match f.source with
    | .node _ => goOn m e (k (.ok f.place))
    | _ => goOn m e (k (.error .noSeek))

def resize (m : Machine) (e : Entry) (fd size : Nat) (k : Except SystemFault Unit → Process) : Answer :=
  match m.file? e fd with
  | none => goOn m e (k (.error .badDescriptor))
  | some (_, f) =>
    match f.source with
    | .node id =>
      match m.files.content? id with
      | some (.file bs) =>
        let bs := bs.take size ++ List.replicate (size - bs.length) 0
        let files := m.files.modify id fun n => { n with content := .file bs, time := m.now }
        goOn { m with files } e (k (.ok ()))
      | _ => goOn m e (k (.error .invalid))
    | _ => goOn m e (k (.error .invalid))

/-! ## Processes -/

def fork (m : Machine) (e : Entry) (child : Unit → Process) (k : Nat → Process) : Answer :=
  let pid := m.next
  let born := { e with
    pid, parent := e.pid, code := .pause child, caught := [], reports := [], pending := []
    since := none, opening := none }
  let m := (m.put { e with code := k pid, since := none, opening := none })
  .done { m with processes := m.processes ++ [born], next := pid + 1 }

/-- The interpreter that the first line of a script names, and what it is given. -/
def interpreter? (bs : Bytes) : Option (Str × List Str) :=
  match Str.ofBytes bs with
  | '#' :: '!' :: rest =>
    let line := (rest.take 254).takeWhile (· != '\n')
    let blank (c : Char) : Bool := c == ' ' || c == '\t'
    let line := ((line.dropWhile blank).reverse.dropWhile blank).reverse
    let path := line.takeWhile (!blank ·)
    let arg := (line.drop path.length).dropWhile blank
    if path.isEmpty then none else some (path, if arg.isEmpty then [] else [arg])
  | _ => none

/-- What running a path comes to. -/
def load (table : Programs) (fs : Files) (here : Nat) : Nat → Str → List Str → Variables →
    Except SystemFault Process
  | 0, _, _, _ => .error .linkLoop
  | fuel + 1, path, args, env => do
    let id ← fs.find here path true
    if !fs.isRunnable id then throw .denied
    match fs.content? id with
    | some (.program name) =>
      match table.lookup (Str.toString name) with
      | some f => return f args env
      | none => throw .missing
    | some (.file bs) =>
      match interpreter? bs with
      | some (program, extra) => load table fs here fuel program (program :: extra ++ path :: args.drop 1) env
      | none => throw .notAProgram
    | _ => throw .denied

def run (table : Programs) (m : Machine) (e : Entry) (path : Str) (args : List Str) (env : Variables)
    (k : SystemFault → Process) : Answer :=
  match load table m.files e.here 5 path args env with
  | .error fault => goOn m e (k fault)
  | .ok code =>
    let e := { e with
      descriptors := e.descriptors.filter (·.2.kept)
      provisions := e.provisions.filter (·.2 == .ignored), caught := [] }
    goOn (if m.pipes.isEmpty then m else (m.put e).tidy) e code

def wait (m : Machine) (e : Entry) (w : Waiting)
    (k : Except SystemFault (Option (Nat × Change)) → Process) : Answer :=
  let meant (pid : Nat) : Bool := w.pid.all (· == pid)
  let counts (r : Nat × Change) : Bool := meant r.1 && (w.stops || match r.2 with
    | .ended _ => true
    | _ => false)
  match e.reports.find? counts with
  | some r =>
    goOn m { e with reports := e.reports.filter (·.1 != r.1) } (k (.ok (some r)))
  | none =>
    if !m.processes.any (fun p => p.parent == e.pid && meant p.pid) then goOn m e (k (.error .noChild))
    else if !w.blocks || w.deadline.any (· ≤ m.now) then goOn m e (k (.ok none))
    else waitOr m e (k (.error .interrupted)) w.deadline

/-- Sends a signal; zero only asks whether there is somebody. -/
def send (m : Machine) (e : Entry) (t : Target) (n : Nat) (k : Except SystemFault Unit → Process) :
    Answer :=
  let there := match t with
    | .process pid => (m.entry? pid).isSome || e.reports.any (·.1 == pid)
    | .group id => m.processes.any (·.group == id)
    | .ownGroup => true
  if !there then goOn m e (k (.error .noProcess))
  else if 64 < n then goOn m e (k (.error .invalid))
  else
    let m := m.put { e with code := k (.ok ()), since := none }
    if n = 0 then .done m
    else
      let s : Signal := ⟨n⟩
      .done (match t with
        | .process pid => m.signal pid s
        | .group id => m.signalGroup id s
        | .ownGroup => m.signalGroup e.group s)

def provide (m : Machine) (e : Entry) (s : Signal) (p : Provision) (k : Unit → Process) : Answer :=
  let others := e.provisions.filter (·.1 != s)
  let e := { e with
    provisions := if p = .none_ then others else others ++ [(s, p)]
    caught := if p = .caught then e.caught else e.caught.filter (· != s) }
  goOn m e (k ())

def setGroup (m : Machine) (e : Entry) (pid group : Nat) (k : Unit → Process) : Answer :=
  let pid := if pid = 0 then e.pid else pid
  let group := if group = 0 then pid else group
  let m := m.put { e with code := k () }
  .done (m.update pid fun e => { e with group })

/-- What the system does with the request of a process. -/
def step (table : Programs) (m : Machine) (e : Entry) : Answer :=
  match e.code with
  | .exit n => .done (m.finish e.pid (.exited (n % 256)))
  | .pause k => goOn m e (k ())
  | .look k => goOn m e (k (m.view e))
  | .read fd count k => read m e fd count k
  | .write fd bs k => write m e fd bs k
  | .openPath path a k => openPath m e path a k
  | .close fd k => close m e fd k
  | .copy fd least k => copy m e fd least k
  | .copyTo fd target k => copyTo m e fd target k
  | .pipe k => makePipe m e k
  | .seek fd place k => seek m e fd place k
  | .resize fd size k => resize m e fd size k
  | .tell fd k => tell m e fd k
  | .fork child k => fork m e child k
  | .run path args env k => run table m e path args env k
  | .wait w k => wait m e w k
  | .sleep time k =>
    if time ≤ m.now then goOn m e (k (.ok ()))
    else waitOr m e (k (.error .interrupted)) (some time)
  | .send t n k => send m e t n k
  | .provide s p k => provide m e s p k
  | .caught k => goOn m { e with caught := [] } (k e.caught)
  | .setGroup pid group k => setGroup m e pid group k
  | .setForeground group k => goOn { m with foreground := group } e (k ())
  | .enter path k =>
    match m.files.find e.here path true with
    | .error fault => goOn m e (k (.error fault))
    | .ok id =>
      if m.files.isDir id then goOn m { e with here := id } (k (.ok ()))
      else goOn m e (k (.error .notDirectory))
  | .setMask mask k => goOn m { e with mask } (k ())
  | .change f k =>
    match f m.files e.here m.now with
    | .ok files => goOn { m with files } e (k (.ok ()))
    | .error fault => goOn m e (k (.error fault))
  | .configure fd f k =>
    match m.file? e fd with
    | none => goOn m e (k (.error .badDescriptor))
    | some (_, file) =>
      if file.source != .terminal then goOn m e (k (.error .notATerminal))
      else
        match fromBehind m e .backgroundWrite (k (.ok ())) with
        | some a => if provisionOf e .backgroundWrite = .ignored then
            goOn { m with terminal := f m.terminal }.drain e (k (.ok ())) else a
        | none => goOn { m with terminal := f m.terminal }.drain e (k (.ok ()))

end Transcripts.Machine
