import Transcripts.Shell.Listing
import Transcripts.Shell.Services

/-!
# Jobs

Commands that are started as processes of their own, one by one or together, and what a shell knows of
them afterwards.
-/
namespace Transcripts.Shell

open Transcripts.Process (Change Ending Provision)

namespace Job

/-- What is said of a change. -/
def words : Change → String
  | .ended (.exited 0) => "Done"
  | .ended (.exited n) => "Done(" ++ toString n ++ ")"
  | .ended (.killed s) => s.words
  | .stopped s => s.words
  | .continued => "Running"

/-- The status of a change. -/
def statusOf : Change → Nat
  | .ended (.exited n) => n
  | .ended (.killed s) => 128 + s.number
  | .stopped s => 128 + s.number
  | .continued => 0

/-- What has become of the last process. -/
def lastChange? (j : Job) : Option Change := j.members.getLast?.bind (·.change)

/-- The status of a job is that of its last process. -/
def status (j : Job) : Nat := (j.lastChange?.map statusOf).getD 0

/-- Notes what has become of a process. -/
def note (j : Job) (pid : Nat) (c : Change) : Job :=
  let members := j.members.map fun m => if m.pid = pid then { m with change := some c } else m
  let stops := members.filterMap fun m => match m.change with
    | some (.stopped s) => some s
    | _ => none
  let state : JobState :=
    if members.any (·.change.isNone) then .running
    else if stops.isEmpty then .done
    else .stopped
  if state = .running then { j with members }
  else { j with members, state, changed := true, stop := stops.getLast?.or j.stop }

/-- The texts of a job's commands. -/
def text (j : Job) : Str := Text.join " | ".toList (j.members.map (·.text))

/-- The column in which the texts of commands start. -/
def textColumn : Nat := 33

/-- How a job is shown in a list: by its number, a mark, what has become of it and its commands, each
process on a line of its own if their numbers are to be shown too. -/
def shown (j : Job) (mark : Char) (pids : Bool) : Str :=
  let number := "[".toList ++ Str.decimal j.number ++ "] ".toList ++ [mark, ' ']
  let state := match j.state with
    | .running => "Running"
    | .stopped => (j.stop.map Signal.words).getD ""
    | .done => (j.lastChange?.map words).getD ""
  let pidText (m : Member) : Str := if pids then Str.decimal m.pid ++ [' '] else []
  let first := number ++ (j.members.head?.map pidText).getD [] ++ state.toList
  let fill (s : Str) : Str := s ++ List.replicate (max 1 (textColumn - s.length)) ' '
  if !pids then fill first ++ j.text ++ ['\n']
  else
    let later := (j.members.drop 1).map fun m =>
      let s := List.replicate number.length ' ' ++ pidText m
      " |\n".toList ++ s ++ List.replicate (max 1 (textColumn - s.length)) ' ' ++ m.text
    fill first ++ (j.members.head?.map (·.text)).getD [] ++ later.flatten ++ ['\n']

end Job

namespace Jobs

/-! ## Provisions for signals -/

/-- What a shell provides for a signal: what it was told to, and otherwise what keeps a shell with
prompts alive. -/
def provisionFor (st : State) (s : Signal) : Provision :=
  match st.trap? s.number with
  | some [] => .ignored
  | some _ => .caught
  | none =>
    if st.isCopy then .none_
    else if s = .interrupt then (if st.isInteractive || !st.has 's' then .caught else .none_)
    else if s = .quit ∨ s = .terminate then (if st.isInteractive then .ignored else .none_)
    else if s = .suspend ∨ s = .backgroundWrite then (if st.has 'm' then .ignored else .none_)
    else .none_

/-- Provides for a signal, unless nobody can make the shell hear it. -/
def provide (s : Signal) : Act Unit := do
  let st ← Act.get
  if st.deaf.contains s.number then return ()
  Act.ask (Process.provide s (provisionFor st s))

/-- Ignores a signal for good. -/
def deafen (s : Signal) : Act Unit := do
  Act.ask (Process.provide s .ignored)
  Act.modify fun st => { st with deaf := s.number :: st.deaf }

/-! ## Starting -/

/-- How a process is started. -/
inductive Mode where
  /-- As a part of the shell's own work. -/
  | apart
  | foreground
  | background
deriving Repr, DecidableEq

/-- The first number from some number on that no job needs. -/
def freeNumber (st : State) : Nat → Nat → Nat
  | 0, n => n
  | fuel + 1, n =>
    match st.job? n with
    | none => n
    | some j =>
      if j.state = .done && j.waited && !st.controlsJobs then n else freeNumber st fuel (n + 1)

/-- Opens a job without processes. -/
def open_ : Act Nat := do
  let st ← Act.get
  let number := freeNumber st (st.jobs.length + 1) 1
  let st := st.removeJob number
  Act.set { st with jobs := { number, grouped := st.controlsJobs } :: st.jobs }
  return number

/-- What a copy of a shell does first.  It forgets what its shell does about signals and the jobs that
its shell has started. -/
def settle (mode : Mode) (grouped : Bool) (first : Option Nat) : Act Unit := do
  let before ← Act.get
  Act.set { before with
    isCopy := true, jobs := [], signals := [], output := [], before := none
    traps := before.traps.filter (·.2.isEmpty) }
  (before.traps.filter fun t => !t.2.isEmpty && t.1 != 0).forM fun t => provide ⟨t.1⟩
  if mode ≠ .apart ∧ grouped ∧ !before.isCopy then do
    let v ← Act.view
    let group := first.getD v.pid
    Act.ask (Process.setGroup 0 group)
    if mode = .foreground then Act.ask (Process.setForeground group)
    provide .suspend
    provide .backgroundWrite
  else if mode = .background then do
    deafen .interrupt
    deafen .quit
    if first.isNone then do
      let _ ← Act.ask (Process.close 0)
      let _ ← Act.ask (Process.openPath "/dev/null".toList .read)
  if before.isInteractive && !before.isCopy then do
    provide .interrupt
    provide .quit
    provide .terminate

/-- Starts a process of a job. -/
def fork (number : Nat) (mode : Mode) (text : Str) (child : Act Unit) : Act Nat := do
  let st ← Act.get
  let job? := st.job? number
  let grouped := job?.any (·.grouped)
  let first := job?.bind fun j => j.members.head?.map (·.pid)
  let pid ← Act.fork do
    settle mode grouped first
    child
  if mode ≠ .apart ∧ grouped then Act.ask (Process.setGroup pid (first.getD pid))
  Act.modify fun st =>
    let st := st.updateJob number fun j => { j with
      members := j.members ++ [{ pid, text := if st.controlsJobs then text else [] }] }
    if mode = .background then
      match st.job? number with
      | some j => { st with
          background := some pid, jobs := State.placeRunning j (st.removeJob number).jobs }
      | none => { st with background := some pid }
    else st
  return pid

/-! ## Waiting -/

/-- Notes what has become of a process, and gives the job that it belongs to. -/
def note (pid : Nat) (c : Change) : Act (Option Nat) := do
  let st ← Act.get
  match st.jobs.find? fun j => j.state != .done && j.members.any (·.pid == pid) with
  | none => return none
  | some old => do
    let j := old.note pid c
    let st := st.updateJob j.number fun _ => j
    Act.set (if j.state = .stopped ∧ old.state ≠ .stopped then
      { st with jobs := j :: (st.removeJob j.number).jobs } else st)
    return some j.number

/-- Tells of a process that a signal has ended, unless the reason is plain. -/
def tell : Change → Act Unit
  | .ended (.killed s) =>
    if s = .interrupt ∨ s = .pipe then return ()
    else do
      let _ ← Act.writeTo 2 (s.words.toList ++ ['\n'])
      return ()
  | _ => return ()

def isRunning (st : State) (number : Nat) : Bool := (st.job? number).any (·.state == .running)

/-- Waits until a job does not run any more, and notes whatever happens until then. -/
def awaitEnd (number : Nat) : Nat → Act Unit
  | 0 => return ()
  | fuel + 1 => do
    let st ← Act.get
    match ← Act.ask (Process.wait { blocks := isRunning st number, stops := st.controlsJobs }) with
    | .error .interrupted => do
      Services.takeUp
      awaitEnd number fuel
    | .ok (some (pid, c)) => do
      if (← note pid c) = some number then tell c
      awaitEnd number fuel
    | _ => return ()

/-- Notes what has happened, without waiting. -/
def poll : Nat → Act Unit
  | 0 => return ()
  | fuel + 1 => do
    let st ← Act.get
    match ← Act.ask (Process.wait { blocks := false, stops := st.controlsJobs }) with
    | .ok (some (pid, c)) => do
      let _ ← note pid c
      poll fuel
    | _ => return ()

/-- Waits for a job in the foreground, and gives its status. -/
def await (number : Nat) : Act Nat := do
  awaitEnd number Act.rounds
  let st ← Act.get
  match st.job? number with
  | none => return st.status
  | some j => do
    if j.grouped then do
      let v ← Act.view
      Act.ask (Process.setForeground v.group)
      if j.lastChange? = some (.ended (.killed .interrupt)) ∧ provisionFor st .interrupt = .caught then
        Act.modify fun st => { st with signals := st.signals ++ [.interrupt] }
    if j.state = .done then Act.modify (·.removeJob number)
    Services.checkInterrupt
    return j.status

/-! ## Listing -/

/-- The mark of a job: one for the current job, and one for the one that was it before. -/
def markOf (st : State) (number : Nat) : Char :=
  match st.jobs with
  | a :: rest =>
    if a.number = number then '+'
    else if (rest.head?.map (·.number)) = some number then '-' else ' '
  | [] => ' '

/-- Shows a job; one that is done is forgotten afterwards. -/
def show_ (number : Nat) (pids : Bool) (write : Str → Act Unit) : Act Unit := do
  let st ← Act.get
  match st.job? number with
  | none => return ()
  | some j => do
    write (j.shown (markOf st number) pids)
    Act.modify fun st =>
      if j.state = .done then st.removeJob number
      else st.updateJob number fun j => { j with changed := false }

/-- Shows all jobs, or only those that have changed. -/
def showAll (onlyChanged pids : Bool) (write : Str → Act Unit) : Act Unit := do
  poll Act.rounds
  let st ← Act.get
  (st.jobs.filter fun j => !onlyChanged || j.changed).forM fun j => show_ j.number pids write

/-- Writes about jobs to the one who types. -/
def toUser (s : Str) : Act Unit := do
  let _ ← Act.writeTo 2 s
  return ()

/-- Tells of jobs that have changed, before a prompt. -/
def tellChanges : Act Unit := showAll true false toUser

/-- Whether the current job is stopped, of which the one who types is told once. -/
def hasStopped : Act Bool := do
  let st ← Act.get
  if !st.isInteractive || st.warnings ≠ 0 then return false
  else if (st.jobs.head?.map (·.state)) = some .stopped then do
    toUser "You have stopped jobs.\n".toList
    Act.modify ({ · with warnings := 2 })
    return true
  else return false

/-! ## Ending -/

/-- Waits until the terminal belongs to the shell's group, and gives that group. -/
def becomeForeground : Nat → Act Nat
  | 0 => return 0
  | fuel + 1 => do
    let v ← Act.view
    if v.foreground = v.group then return v.group
    let _ ← Act.ask (Process.send .ownGroup Signal.backgroundRead.number)
    becomeForeground fuel

/-- Takes the terminal, to lend it to jobs. -/
def takeControl : Act Unit := do
  match ← Act.ask (Process.openPath "/dev/tty".toList { reads := true, writes := true }) with
  | .error _ => do
    Act.complain "can't access tty; job control turned off".toList
    Act.modify (·.setOption 'm' false)
  | .ok fd => do
    let _ ← Act.ask (Process.close fd)
    let before ← becomeForeground Act.rounds
    Act.modify ({ · with control := some before })
    provide .suspend
    provide .backgroundWrite
    let v ← Act.view
    Act.ask (Process.setGroup 0 v.pid)
    Act.ask (Process.setForeground v.pid)

/-- Gives the terminal back to whom it belonged. -/
def dropControl : Act Unit := do
  let st ← Act.get
  match st.control with
  | some group =>
    if !st.isCopy then do
      Act.set { (st.setOption 'm' false) with control := none }
      Act.ask (Process.setForeground group)
      provide .suspend
      provide .backgroundWrite
      Act.ask (Process.setGroup 0 group)
  | none => return ()

/-- The status of a shell that was broken off. -/
def finalStatus (st : State) : Flow → Nat
  | .exited n => n
  | .aborted n => n
  | .returned n => n
  | .interrupted => Services.signalStatus .interrupt
  | _ => st.status

/-- Does what is to be done at the end of a shell; its status is that of the shell. -/
def finish (o : Services) (status : Nat) : Act Unit := do
  let st ← Act.get
  Act.set { st with status, output := [], traps := st.traps.filter (·.1 != 0), before := some status }
  match st.trap? 0 with
  | some (c :: cs) =>
    match ← Act.attempt (o.script {} { rest := c :: cs, aliases := st.aliases }) with
    | .error (.exited n) => Act.modify ({ · with status := n })
    | _ => Act.modify ({ · with status })
  | _ => pure ()
  dropControl

/-- Runs a copy of a shell to its end. -/
def runToEnd (o : Services) (work : Act Nat) : Act Unit := do
  match ← Act.attempt work with
  | .ok n => finish o n
  | .error f => finish o (finalStatus (← Act.get) f)

end Jobs

end Transcripts.Shell
