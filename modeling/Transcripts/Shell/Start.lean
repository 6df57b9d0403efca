import Transcripts.Shell.Exec

/-!
# Starting a shell

What a shell is called with, what it knows at the start, and where its commands come from: from a text, a
file, or from the input, with prompts if somebody types them.
-/
namespace Transcripts.Shell.Start

open Transcripts.Process (View)

/-! ## Variables -/

/-- A variable that has a value unless one was given. -/
def usual (name value : String) (vars : List (Str × Variable)) : List (Str × Variable) :=
  State.update name.toList (fun
    | some v => v
    | none => ⟨some value.toList, false, false⟩) vars

/-- The variables at the start. -/
def startVariables (v : View) (env : Variables) : List (Str × Variable) × Str :=
  let own : List (Str × Variable) :=
    [("IFS", " \t\n"), ("PATH", Search.usualPath), ("PS1", "# "), ("PS2", "> "), ("PS4", "+ "),
      ("OPTIND", "1")].map fun (k, s) => (k.toList, ⟨some s.toList, false, false⟩)
  let vars := env.foldl (fun vars (k, s) =>
    if isName k then State.update k (fun _ => ⟨some s, true, false⟩) vars else vars) own
  let fixed (name value : Str) : List (Str × Variable) → List (Str × Variable) :=
    State.update name fun old => { (old.getD ⟨none, false, false⟩) with value := some value }
  let vars := fixed "IFS".toList " \t\n".toList (fixed "OPTIND".toList ['1'] vars)
  let vars := fixed "PPID".toList (Str.decimal v.parent) vars
  let given := ((env.lookup "PWD".toList).filter fun p =>
    p.head? = some '/' && (match v.files.find v.here p true with
      | .ok id => id == v.here
      | .error _ => false))
  let directory := given.getD (v.files.pathOf v.here)
  (State.update "PWD".toList (fun _ => ⟨some directory, true, false⟩) vars, directory)

/-! ## Invocation -/

/-- What a shell is called with. -/
structure Invocation where
  /-- A text is run. -/
  isText : Bool := false
  isLogin : Bool := false
  words : List Str := []

/-- Takes the options in one word. -/
def letters (on : Bool) : Str → List Str → Invocation → Act (List Str × Invocation)
  | [], rest, i => return (rest, i)
  | c :: cs, rest, i =>
    match c, rest with
    | 'c', rest => letters on cs rest { i with isText := true }
    | 'l', rest => letters on cs rest { i with isLogin := true }
    | 'o', name :: rest => do
      Builtin.switchName on name
      letters on cs rest i
    | 'o', [] => do
      let st ← Act.get
      Act.write (Builtin.optionListing st on)
      letters on cs rest i
    | c, rest => do
      Builtin.switchLetter on c
      letters on cs rest i

/-- Takes the options in front of the words. -/
def invocation : Nat → List Str → Invocation → Act Invocation
  | 0, words, i => return { i with words }
  | fuel + 1, words, i =>
    match words with
    | ['-'] :: rest => return { i with words := rest }
    | ['-', '-'] :: rest => return { i with words := rest }
    | ('-' :: cs) :: rest => do
      let (rest, i) ← letters true cs rest i
      invocation fuel rest i
    | ('+' :: cs) :: rest => do
      let (rest, i) ← letters false cs rest i
      invocation fuel rest i
    | words => return { i with words }

/-! ## Commands from the input -/

/-- The most bytes that are read at once. -/
def blockSize : Nat := 8191

/-- Text that was read and is not yet looked at, and the number of its first line. -/
structure Input where
  fd : Nat := 0
  ahead : Str := []
  line : Nat := 1

/-- Shows a prompt. -/
def prompt (o : Services) (name : String) : Act Unit := do
  let st ← Act.get
  let text ← Exec.shownText o ((st.value? name.toList).getD [])
  let _ ← Act.writeTo 2 text
  return ()

/-- Reads some text. -/
def readBlock (fd : Nat) : Nat → Act Str
  | 0 => return []
  | fuel + 1 => do
    match ← Act.ask (Process.read fd blockSize) with
    | .ok bs => return Str.ofBytes bs
    | .error .interrupted => do
      Services.takeUp
      Services.checkInterrupt
      readBlock fd fuel
    | .error _ => return []

/-- The next line, or what there is of it; nothing at the end. -/
def nextLine (input : Input) : Act (Str × Input) := do
  let text ← if input.ahead.isEmpty then readBlock input.fd Act.rounds else pure input.ahead
  let line := text.takeWhile (· != '\n')
  let line := line ++ (text.drop line.length).take 1
  let st ← Act.get
  if st.has 'v' then
    let _ ← Act.writeTo 2 line
  return (line, { input with ahead := text.drop line.length })

/-- What was read: commands, the end of the input, or something that cannot be understood. -/
inductive Reading where
  | commands (cs : List Command)
  | finish
  | malformed (line : Nat) (reason : String)

/-- Reads the next commands; `source` is what was read of them. -/
def readCommands (o : Services) (prompts : Bool) : Nat → Source → Input → Act (Reading × Input)
  | 0, _, input => return (.finish, input)
  | fuel + 1, source, input => do
    let st ← Act.get
    let ended := !source.more
    match { source with aliases := st.aliases }.next with
    | .ok (some (cs, rest)) => return (.commands cs, { input with ahead := rest.rest ++ input.ahead, line := rest.line })
    | .ok none => return (.finish, input)
    | .error (.malformed line reason) => return (.malformed line reason, { input with line })
    | .error .unfinished => do
      if ended then return (.finish, input)
      if prompts && source.rest.getLast? = some '\n' then prompt o "PS2"
      let (text, input) ← nextLine input
      if text.isEmpty then readCommands o prompts fuel { source with more := false } input
      else readCommands o prompts fuel { source with rest := source.rest ++ text } input

/-- What a shell does after commands that were broken off: it goes on if somebody types them. -/
def recover (input : Input) (f : Flow) : Act (Except Nat Input) := do
  let st ← Act.get
  if !st.isInteractive || st.isCopy then Act.stop f
  match f with
  | .aborted n => do
    Act.modify ({ · with status := n, loops := 0, command := none, output := [] })
    return .ok { input with ahead := [] }
  | .interrupted => do
    Act.modify ({ · with loops := 0, command := none, output := [] })
    let _ ← Act.writeTo 2 ['\n']
    return .ok { input with ahead := [] }
  | f => Act.stop f

/-- Runs the commands of the input, each line as soon as it is complete. -/
def commandLoop (o : Services) : Nat → Nat → Input → Act Nat
  | 0, status, _ => return status
  | fuel + 1, status, input => do
    let st ← Act.get
    let prompts := st.isInteractive
    let result ← Act.attempt do
      if st.controlsJobs then Jobs.tellChanges
      if prompts then prompt o "PS1"
      readCommands o prompts Act.rounds { rest := [], line := input.line, more := true } input
    match result with
    | .error f => do
      match ← recover input f with
      | .ok input => commandLoop o fuel (← Act.get).status input
      | .error n => return n
    | .ok (.finish, input) => do
      if ← Jobs.hasStopped then commandLoop o fuel status input
      else if !prompts then return status
      else if (← Act.get).has 'I' then do
        Jobs.toUser "\nUse \"exit\" to leave shell.\n".toList
        commandLoop o fuel status input
      else do
        Jobs.toUser ['\n']
        return (← Act.get).status
    | .ok (.malformed line reason, input) => do
      match ← Act.attempt (Exec.malformed (α := Unit) line reason) with
      | .ok _ => return status
      | .error f =>
        match ← recover input f with
        | .ok input => commandLoop o fuel (← Act.get).status input
        | .error n => return n
    | .ok (.commands cs, input) => do
      Act.modify fun st => { st with warnings := st.warnings - 1 }
      if cs.isEmpty then commandLoop o fuel status input
      else
        match ← Act.attempt (o.execAll {} cs) with
        | .ok n => commandLoop o fuel n input
        | .error (.returned n) => return n
        | .error f =>
          match ← recover input f with
          | .ok input => commandLoop o fuel (← Act.get).status input
          | .error n => return n

/-! ## All of it -/

/-- Runs the file that a variable names, if there is one. -/
def readProfile (o : Services) : Act Unit := do
  let st ← Act.get
  match st.value? "ENV".toList with
  | none => return ()
  | some [] => return ()
  | some name => do
    let path ← Exec.shownText o name
    match ← Act.ask (Process.openPath path .read) with
    | .error _ => return ()
    | .ok fd => do
      let text ← Expand.readRest fd Act.rounds []
      let _ ← Act.ask (Process.close fd)
      let st ← Act.get
      match ← Act.attempt (Exec.script o {} true Act.rounds 0 { rest := text, aliases := st.aliases }) with
      | .ok _ => return ()
      | .error (.returned _) => return ()
      | .error f => do
        let _ ← recover {} f
        return ()

/-- Settles the options of a shell that was called. -/
def settle (i : Invocation) : Act Unit := do
  let v ← Act.view
  let st ← Act.get
  if i.words.isEmpty then
    if i.isText then Act.abort "-c requires an argument".toList
    Act.modify (·.setOption 's' true)
  let typed := (← Act.get).has 's' && !i.isText && v.isTerminal 0 && v.isTerminal 2
  if !st.has 'i' && typed then Act.modify (·.setOption 'i' true)
  if (← Act.get).has 'i' then Act.modify (·.setOption 'm' true)

/-- Runs what a shell was called for. -/
def work (o : Services) (args : List Str) : Act Nat := do
  let i ← invocation (args.length + 1) args {}
  settle i
  let st ← Act.get
  let fromInput := st.has 's'
  if i.isText then
    match i.words with
    | [] => return 0
    | text :: rest => do
      Act.modify fun st => { st with name := rest.headD st.name, args := rest.drop 1, line := 1 }
      Builtin.settleOptions
      if st.has 'i' then readProfile o
      let n ← Exec.script o { last := !fromInput } false Act.rounds 0 { rest := text }
      if fromInput then commandLoop o Act.rounds n {} else return n
  else
    match i.words, fromInput with
    | path :: args, false => do
      let fd ← Builtin.openScript path
      Act.modify fun st => { st with name := path, args, line := 1 }
      Builtin.settleOptions
      if st.has 'i' then readProfile o
      if st.has 'i' then commandLoop o Act.rounds 0 { fd }
      else do
        let text ← Expand.readRest fd Act.rounds []
        Exec.script o {} true Act.rounds 0 { rest := text }
    | args, _ => do
      Act.modify fun st => { st with args, line := 1 }
      Builtin.settleOptions
      if st.has 'i' then readProfile o
      commandLoop o Act.rounds 0 {}

/-- A shell as a program. -/
def process (args : List Str) (env : Variables) : Process :=
  .look fun v =>
    let (vars, directory) := startVariables v env
    let st : State :=
      { vars, directory, name := args.headD "sh".toList, line := 0, pid := v.pid
        deaf := (v.provisions.filter (·.2 == .ignored)).map (·.1.number) }
    let o := Exec.services Exec.depth
    Jobs.runToEnd o (do
      let n ← work o (args.drop 1)
      return n) st (fun _ st => .exit st.status) (fun _ st => .exit st.status)

end Transcripts.Shell.Start
