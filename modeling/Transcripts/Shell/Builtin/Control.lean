import Transcripts.Shell.Builtin

/-!
# Commands for jobs and signals
-/
namespace Transcripts.Shell.Builtin

/-! ## Jobs -/

/-- Whether a text occurs in another one. -/
def occurs (key s : Str) : Bool := (Text.findSub key s).isSome

/-- The job that a word means, or why there is none. -/
def findJob (st : State) (word : Option Str) : Except Str Job :=
  let current : Except Str Job := match st.jobs.head? with
    | some j => .ok j
    | none => .error "No current job".toList
  match word with
  | none => current
  | some w =>
    let unknown : Except Str Job := .error ("No such job: ".toList ++ w)
    match w with
    | '%' :: rest =>
      if rest = [] ∨ rest = ['+'] ∨ rest = ['%'] then current
      else if rest = ['-'] then
        match st.jobs with
        | _ :: j :: _ => .ok j
        | _ => .error "No previous job".toList
      else
        match (Str.nat? rest).bind st.job? with
        | some j => .ok j
        | none =>
          if (Str.nat? rest).isSome then unknown
          else
            let isMeant (j : Job) : Bool :=
              let text := (j.members.head?.map (·.text)).getD []
              match rest with
              | '?' :: key => occurs key text
              | key => key.isPrefixOf text
            match st.jobs.filter isMeant with
            | [] => unknown
            | [j] => .ok j
            | _ => .error (w ++ ": ambiguous".toList)
    | _ => unknown

/-- The job that a word means. -/
def job (word : Option Str) : Act Job := do
  match findJob (← Act.get) word with
  | .ok j => return j
  | .error message => Act.abort message

/-- The job that a word means, which has a group of its own. -/
def groupedJob (word : Option Str) : Act Job := do
  let j ← job word
  if !j.grouped then
    Act.abort ("job ".toList ++ word.getD [] ++ " not created under job control".toList)
  return j

def jobs (args : List Str) : Act Nat := do
  let (given, words) ← options ['l', 'p'] [] (args.length + 1) args
  let pids := given.any (·.1 == 'l')
  let show_ (j : Job) : Act Unit :=
    if given.any (·.1 == 'p') then
      Act.write ((j.members.head?.map fun m => Str.decimal m.pid).getD [] ++ ['\n'])
    else Jobs.show_ j.number pids Act.write
  if words.isEmpty then do
    Jobs.poll Act.rounds
    let st ← Act.get
    st.jobs.forM show_
  else words.forM fun w => do show_ (← job (some w))
  return 0

/-- Lets a job go on, and gives its status if it is waited for. -/
def resume (j : Job) (waits : Bool) : Act Nat := do
  if j.state ≠ .done then
    let group := (j.members.head?.map (·.pid)).getD 0
    Act.modify fun st => st.updateJob j.number fun j => { j with
      state := .running
      members := j.members.map fun m => match m.change with
        | some (.stopped _) => { m with change := none }
        | _ => m }
    if waits then Act.ask (Process.setForeground group)
    let _ ← Act.ask (Process.send (.group group) Signal.continue_.number)
  if waits then Jobs.await j.number else return 0

/-- Lets jobs go on, in front or behind. -/
def resumeAll (waits : Bool) (args : List Str) : Act Nat := do
  let words ← operands args
  let words : List (Option Str) := if words.isEmpty then [none] else words.map some
  words.foldlM (fun _ w => do
    let j ← groupedJob w
    if !waits then do
      Act.modify fun st => { st with jobs := State.placeRunning j (st.removeJob j.number).jobs }
      Act.write ("[".toList ++ Str.decimal j.number ++ "] ".toList)
    Act.write (j.text ++ ['\n'])
    let _ ← Act.flush
    resume j waits) 0

/-- Waits until a job has ended, or all jobs have; a signal breaks the wait off. -/
def awaitJobs (number? : Option Nat) : Nat → Act Bool
  | 0 => return true
  | fuel + 1 => do
    let st ← Act.get
    let isOver : Bool := match number? with
      | some n => !Jobs.isRunning st n
      | none => st.jobs.all (·.state != .running)
    if isOver then do
      Jobs.poll Act.rounds
      return true
    match ← Act.ask (Process.wait { stops := st.controlsJobs }) with
    | .ok (some (pid, c)) => do
      let n? ← Jobs.note pid c
      if n?.isSome && n? = number? then Jobs.tell c
      awaitJobs number? fuel
    | .error .interrupted => do
      Services.takeUp
      Services.checkInterrupt
      let st ← Act.get
      if st.signals.isEmpty then awaitJobs number? fuel else return false
    | _ => return true

/-- The status of a wait that a signal has broken off. -/
def brokenStatus (st : State) : Nat := 128 + (st.signals.getLast?.map (·.number)).getD 0

/-- Waits for each of some jobs. -/
def waitEach : List Str → Nat → Act Nat
  | [], status => return status
  | w :: rest, status => do
    let st ← Act.get
    let number? ← if w.head? = some '%' then do
        let j ← job (some w)
        pure (some j.number)
      else do
        let pid ← number w
        pure ((st.jobs.find? fun j => (j.members.getLast?.map (·.pid)) == some pid).map (·.number))
    match number? with
    | none => waitEach rest status
    | some n =>
      if ← awaitJobs (some n) Act.rounds then do
        let st ← Act.get
        let status := ((st.job? n).map Job.status).getD 0
        Act.set (st.updateJob n fun j => { j with waited := true })
        waitEach rest status
      else return brokenStatus (← Act.get)

def wait (args : List Str) : Act Nat := do
  let words ← operands args
  if words.isEmpty then
    if ← awaitJobs none Act.rounds then do
      Act.modify fun st => { st with jobs := st.jobs.map fun j => { j with waited := true } }
      return 0
    else return brokenStatus (← Act.get)
  else waitEach words 127

/-! ## Signals -/

/-- The signal that a word means by its number, or by its name if the number is at least so great. -/
def signal? (least : Nat) (w : Str) : Option Signal :=
  match Str.nat? w with
  | some n => if n ≤ Signal.realTime.2 then some ⟨n⟩ else none
  | none => (Signal.ofName? (String.ofList (Str.upper w))).filter fun s => least ≤ s.number

/-- How signals are sent, in short. -/
def killUsage : Str :=
  ("Usage: kill [-s sigspec | -signum | -sigspec] [pid | job]... or\n" ++
    "kill -l [exitstatus]").toList

/-- The name of a signal in lists. -/
def signalName (s : Signal) : Str := (s.name?.getD (toString s.number)).toList

/-- Names signals. -/
def listSignals : List Str → Act Nat
  | [] => do
    Act.write ("0\n".toList ++ (List.range Signal.realTime.2).flatMap fun n =>
      signalName ⟨n + 1⟩ ++ ['\n'])
    return 0
  | w :: _ => do
    let n ← number w
    let n := if 128 < n then n - 128 else n
    if n = 0 ∨ Signal.realTime.2 < n then
      Act.abort ("invalid signal number or exit status: ".toList ++ w)
    Act.write (signalName ⟨n⟩ ++ ['\n'])
    return 0

/-- Sends a signal to each of some processes, groups or jobs. -/
def sendEach (s : Signal) : List Str → Nat → Act Nat
  | [], status => return status
  | w :: rest, status => do
    let target ← match w with
      | '%' :: _ => do
        let j ← job (some w)
        pure (Process.Target.group ((j.members.head?.map (·.pid)).getD 0))
      | '-' :: digits => do pure (Process.Target.group (← number digits))
      | digits => do
        let n ← number digits
        pure (if n = 0 then .ownGroup else .process n)
    match ← Act.ask (Process.send target s.number) with
    | .ok _ => sendEach s rest status
    | .error f => do
      Act.complain (f.message.toList ++ ['\n'])
      sendEach s rest 1

def kill (args : List Str) : Act Nat := do
  match args with
  | [] => Act.abort killUsage
  | ('-' :: name) :: rest =>
    match signal? 1 name with
    | some s => if rest.isEmpty then Act.abort killUsage else sendEach s rest 0
    | none => do
      let (given, words) ← options ['l'] ['s'] (args.length + 1) args
      let named ← (given.filterMap fun g => if g.1 = 's' then g.2 else none).mapM fun w =>
        match signal? 1 w with
        | some s => (return s : Act Signal)
        | none => Act.abort ("invalid signal number or name: ".toList ++ w)
      if given.any (·.1 == 'l') then
        if named.isEmpty then listSignals words else Act.abort killUsage
      else if words.isEmpty then Act.abort killUsage
      else sendEach (named.getLast?.getD .terminate) words 0
  | words => sendEach .terminate words 0

/-- Sets what is done about a signal; nothing stands for what is usual. -/
def setTrap (action : Option Str) (s : Signal) : Act Unit := do
  Act.modify fun st =>
    let others := st.traps.filter (·.1 != s.number)
    { st with traps := match action with
        | some a => others ++ [(s.number, a)]
        | none => others }
  if s.number ≠ 0 then Jobs.provide s

/-- Sets what is done about some signals. -/
def setTraps (action : Option Str) : List Str → Act Nat
  | [] => return 0
  | w :: rest =>
    match signal? 0 w with
    | some s => do
      let action := if action = some ['-'] then none else action
      setTrap action s
      setTraps action rest
    | none => do
      let _ ← Act.writeTo 2 ("trap: ".toList ++ w ++ ": bad trap\n".toList)
      return 1

def trap (args : List Str) : Act Nat := do
  let words ← operands args
  match words with
  | [] => do
    let st ← Act.get
    let sorted := st.traps.mergeSort fun a b => a.1 ≤ b.1
    Act.write (sorted.flatMap fun (n, a) =>
      "trap -- ".toList ++ quoted a ++ ' ' :: signalName ⟨n⟩ ++ ['\n'])
    return 0
  | [_] => setTraps none words
  | action :: signals =>
    if ((Str.nat? action).any (· ≤ Signal.realTime.2)) then setTraps none words
    else setTraps (some action) signals

end Transcripts.Shell.Builtin
