import Transcripts.Shell.Builtin.Basic
import Transcripts.Shell.Builtin.Control
import Transcripts.Shell.Redirection

/-!
# Running commands

What commands do, from simple ones to loops.
-/
namespace Transcripts.Shell.Exec

open Transcripts.Shell.Redirection (Saved)

/-! ## Programs -/

/-- Says why a program cannot be run, and ends. -/
def refuse {α : Type} (name : Str) (f : SystemFault) : Act α := do
  Act.complain (name ++ Str.ofString (": " ++ Search.reason f))
  Act.stop (.exited (Search.status f))

/-- Runs scripts that do not say what they are for. -/
def scriptShell : Str := "/bin/sh".toList

/-- Becomes a program that is searched on a path. -/
def become {α : Type} (path : Str) : List Str → Act α
  | [] => Act.stop (.exited 0)
  | name :: args => do
    let st ← Act.get
    let v ← Act.view
    let file := if name.contains '/' then .ok name else Search.find v path name
    match file with
    | .error f => refuse name f
    | .ok p => do
      let f ← Act.ask (Process.run p (name :: args) st.environment)
      if f = .notAProgram then do
        let f ← Act.ask (Process.run scriptShell (scriptShell :: p :: args) st.environment)
        refuse name f
      else refuse name f

/-- Whether something is to be done when a signal comes or when the shell ends. -/
def hasTraps (st : State) : Bool := st.traps.any (!·.2.isEmpty)

/-- Runs a program, and waits for it unless nothing is left to do. -/
def program (s : Setting) (text : Str) (usualPath : Bool) (words : List Str) : Act Nat := do
  let st ← Act.get
  let v ← Act.view
  let name := words.headD []
  let path := if usualPath then Str.ofString Search.usualPath else Search.path st
  let start : Act Nat := do
    let st ← Act.get
    if s.last && !hasTraps st then become path words
    else do
      let job ← Jobs.open_
      let _ ← Jobs.fork job .foreground text do
        match ← Act.attempt (become (α := Unit) path words) with
        | .ok _ => return ()
        | .error f => Act.modify fun st => { st with status := Jobs.finalStatus st f }
      Jobs.await job
  if name.contains '/' then start
  else
    match Search.find v path name with
    | .error f => do
      Act.complain (name ++ Str.ofString (": " ++ Search.reason f))
      return 127
    | .ok p => do
      if !usualPath then
        Act.modify fun st => { st with found :=
          if (st.found.lookup name).isSome then st.found else st.found ++ [(name, p)] }
      start

/-- Becomes the program that some words name, if there are any. -/
def exec_ (args : List Str) : Act Nat := do
  let words ← Builtin.operands args
  if words.isEmpty then return 0
  Act.modify fun st => (st.setOption 'i' false).setOption 'm' false
  Builtin.settleOptions
  let st ← Act.get
  become (Search.path st) words

/-! ## Builtin commands and functions -/

/-- What a builtin command does. -/
def builtin? (name : Str) : Option (Services → Setting → List Str → Act Nat) :=
  match String.ofList name with
  | ":" => some fun _ _ _ => return 0
  | "." => some fun o _ => Builtin.source o
  | "[" => some fun _ _ => Builtin.test name
  | "alias" => some fun _ _ => Builtin.alias_
  | "bg" => some fun _ _ => Builtin.resumeAll false
  | "break" => some fun _ _ => Builtin.jump .leave
  | "cd" => some fun _ _ => Builtin.cd
  | "chdir" => some fun _ _ => Builtin.cd
  | "command" => some fun _ _ => Builtin.command
  | "continue" => some fun _ _ => Builtin.jump .again
  | "echo" => some fun _ _ => Builtin.echo
  | "eval" => some Builtin.eval
  | "exec" => some fun _ _ => exec_
  | "exit" => some fun _ _ => Builtin.exit
  | "export" => some fun _ _ => Builtin.export_
  | "false" => some fun _ _ _ => return 1
  | "fg" => some fun _ _ => Builtin.resumeAll true
  | "getopts" => some fun _ _ => Builtin.getopts
  | "hash" => some fun _ _ => Builtin.hash
  | "jobs" => some fun _ _ => Builtin.jobs
  | "kill" => some fun _ _ => Builtin.kill
  | "local" => some fun _ _ => Builtin.local_
  | "printf" => some fun _ _ => Builtin.printf
  | "pwd" => some fun _ _ => Builtin.pwd
  | "read" => some fun _ _ => Builtin.read
  | "readonly" => some fun _ _ => Builtin.readonly_
  | "return" => some fun _ _ => Builtin.return_
  | "set" => some fun _ _ => Builtin.set
  | "shift" => some fun _ _ => Builtin.shift
  | "test" => some fun _ _ => Builtin.test name
  | "times" => some fun _ _ _ => Builtin.times
  | "trap" => some fun _ _ => Builtin.trap
  | "true" => some fun _ _ _ => return 0
  | "type" => some fun _ _ => Builtin.type
  | "ulimit" => some fun _ _ => Builtin.ulimit
  | "umask" => some fun _ _ => Builtin.umask
  | "unalias" => some fun _ _ => Builtin.unalias
  | "unset" => some fun _ _ => Builtin.unset
  | "wait" => some fun _ _ => Builtin.wait
  | _ => none

/-- Runs a builtin command, whose output is written when it has ended. -/
def callBuiltin (o : Services) (s : Setting) (name : Str) (args : List Str) : Act Nat := do
  let before := (← Act.get).command
  Act.modify ({ · with command := some name })
  let result ← Act.attempt (match builtin? name with
    | some f => f o s args
    | none => return 127)
  let written ← Act.flush
  let status ← match result with
    | .ok n =>
      if written then pure n
      else do
        Act.complain (name ++ ": I/O error".toList)
        pure (n ||| 1)
    | .error _ => pure 0
  Act.modify ({ · with command := before })
  match result with
  | .ok _ => return status
  | .error f => Act.stop f

/-- Calls a function. -/
def callFunction (o : Services) (s : Setting) (line : Nat) (body : Command) (args : List Str) :
    Act Nat := do
  let before ← Act.get
  Act.set { before with
    args, optionIndex := 1, optionPlace := 0, loops := 0, functionLine := line
    calls := before.calls + 1 }
  let result ← Act.attempt (o.exec { tested := s.tested } body)
  Act.modify fun st => { st with
    args := before.args, optionIndex := before.optionIndex, optionPlace := before.optionPlace
    loops := before.loops, functionLine := before.functionLine, calls := before.calls }
  match result with
  | .ok n => return n
  | .error (.returned n) => return n
  | .error f => Act.stop f

/-! ## Simple commands -/

/-- The text that a variable's value stands for when it is shown, with what its parameters and commands
stand for; what cannot be read is shown as it is. -/
def shownText (o : Services) (text : Str) : Act Str := do
  match Source.quotedWord text with
  | none => return text
  | some w =>
    match ← Act.attempt (o.expand false w) with
    | .ok pieces => return Piece.text pieces
    | .error (.aborted n) => do
      Act.modify ({ · with status := n })
      return text
    | .error f => Act.stop f

/-- Shows a command before it is run, if that is asked for. -/
def trace (o : Services) (fd : Nat) (words : List Str) : Act Unit := do
  let st ← Act.get
  if st.has 'x' && !st.tracing then do
    Act.set { st with tracing := true }
    let start ← shownText o ((st.value? "PS4".toList).getD [])
    Act.modify ({ · with tracing := false })
    let _ ← Act.writeTo fd (start ++ Text.join [' '] words ++ ['\n'])
    return ()

/-- Expands the words of a command.  Where the command takes assignments, these are no fields. -/
def expandWords (o : Services) : List Word → List Str → Act (List Str)
  | [], fields => return fields
  | w :: rest, fields => do
    let st ← Act.get
    if (Search.call st fields).declares st && (Word.assignment? w).isSome then do
      let value ← Expand.value o w
      expandWords o rest (fields ++ [value])
    else do
      let here ← Expand.fields o w
      expandWords o rest (fields ++ here)

/-- Gives variables the values of words, for the time of a command or for good. -/
def assignAll (o : Services) (hides exports : Bool) : List (Str × Word) → Act (List Str)
  | [] => return []
  | (name, w) :: rest => do
    let value ← Expand.value o w
    if hides then Builtin.hide name
    Expand.assign name value
    if hides || exports then Act.modify (·.share name)
    let more ← assignAll o hides exports rest
    return (name ++ '=' :: value) :: more

/-- Puts variables back that were hidden. -/
def unhide : Act Unit :=
  Act.modify fun st =>
    match st.hidden with
    | [] => st
    | top :: rest => { st with
        hidden := rest
        vars := top.foldl (fun vars (name, old) =>
          match old with
          | some v => State.update name (fun _ => v) vars
          | none => vars.filter (·.1 != name)) st.vars }

/-- Runs the words of a command. -/
def callWords (o : Services) (s : Setting) (text : Str) (isSpecial : Bool) (c : Search.Call) : Act Nat := do
  let st ← Act.get
  match c.words with
  | [] => return st.substituted
  | name :: args =>
    match c.function? st with
    | some (line, body) => callFunction o s line body args
    | none =>
      if Search.isBuiltin name then do
        match ← Act.attempt (callBuiltin o s name args) with
        | .ok n => return n
        | .error (.aborted n) => if isSpecial then Act.stop (.aborted n) else return n
        | .error f => Act.stop f
      else program s text c.usualPath (name :: args)

/-- Notes the line of a command. -/
def atLine (line : Nat) : Act Unit := Act.modify ({ · with line })

/-- Runs a simple command. -/
def simple (o : Services) (s : Setting) (line : Nat) (assigns : List (Str × Word)) (words : List Word)
    (rs : List Redirect) : Act Nat := do
  Act.modify ({ · with line, substituted := 0 })
  let fields ← expandWords o words []
  let st ← Act.get
  let c := Search.call st fields
  let isSpecial := match fields with
    | name :: _ => (st.functions.lookup name).isNone && Search.isSpecial name
    | [] => false
  let isExec := (c.function? st).isNone && c.words.head? == some "exec".toList
  let hides := !fields.isEmpty && !isSpecial
  if hides then Act.modify fun st => { st with hidden := [] :: st.hidden }
  let work : Act Nat := do
    let ts ← Redirection.targets o rs
    let (saved, fault) ← Redirection.apply o true ts []
    let inner : Act Nat := match fault with
      | some (.aborted n) => if isSpecial then Act.stop (.aborted n) else return n
      | some f => Act.stop f
      | none => do
        let shown ← assignAll o hides (isExec && 1 < c.words.length) assigns
        let errors := ((saved.lookup 2).bind id).getD 2
        trace o errors (shown ++ fields)
        let text := Listing.command (.simple line assigns words rs)
        callWords o s text isSpecial c
    Act.finally_ inner (Redirection.restore isExec saved)
  let n ← Act.finally_ work (if hides then unhide else return ())
  let st ← Act.get
  if st.isInteractive && st.calls = 0 then
    match fields.getLast? with
    | some last => Act.set (st.assign ['_'] last)
    | none => pure ()
  return n

/-! ## Processes -/

/-- Runs commands in a copy of the shell, or in the shell itself if nothing is left to do. -/
def apart (o : Services) (s : Setting) (background : Bool) (line : Nat) (rs : List Redirect) (text : Str)
    (work : Setting → Act Nat) : Act Nat := do
  atLine line
  let ts ← Redirection.targets o rs
  let redirected (s : Setting) : Act Nat := do
    let (_, fault) ← Redirection.apply o false ts []
    match fault with
    | some f => Act.stop f
    | none => work s
  let st ← Act.get
  if !background && s.last && !hasTraps st then redirected s
  else do
    let job ← Jobs.open_
    let mode : Jobs.Mode := if background then .background else .foreground
    let _ ← Jobs.fork job mode text
      (Jobs.runToEnd o (redirected { tested := s.tested && !background, last := true }))
    if background then return 0 else Jobs.await job

/-- Starts the commands of a pipe; each reads what the one before it writes. -/
def startAll (o : Services) (s : Setting) (job : Nat) (mode : Jobs.Mode) (input : Option Nat) :
    List Command → Act Unit
  | [] => return ()
  | c :: rest => do
    let next ← if rest.isEmpty then pure none else some <$> Act.ask Process.pipe
    let _ ← Jobs.fork job mode (Listing.command c) (Jobs.runToEnd o do
      match next with
      | some (r, _) => do
        let _ ← Act.ask (Process.close r)
        pure ()
      | none => pure ()
      match input with
      | some n => do
        let _ ← Act.ask (Process.copyTo n 0)
        let _ ← Act.ask (Process.close n)
        pure ()
      | none => pure ()
      match next with
      | some (_, w) => do
        let _ ← Act.ask (Process.copyTo w 1)
        if w ≠ 1 then
          let _ ← Act.ask (Process.close w)
      | none => pure ()
      o.exec { tested := s.tested, last := true } c)
    match input with
    | some n => do
      let _ ← Act.ask (Process.close n)
      pure ()
    | none => pure ()
    match next with
    | some (r, w) => do
      let _ ← Act.ask (Process.close w)
      startAll o s job mode (some r) rest
    | none => return ()

/-- Runs a pipe. -/
def pipeline (o : Services) (s : Setting) (background : Bool) (cs : List Command) : Act Nat := do
  let job ← Jobs.open_
  startAll o s job (if background then .background else .foreground) none cs
  if background then return 0 else Jobs.await job

/-- Starts a command behind the shell. -/
def background (o : Services) (s : Setting) (line : Nat) (c : Command) : Act Nat :=
  match c with
  | .pipeline cs => pipeline o s true cs
  | .redirected line (.subshell inner body) rs =>
    apart o s true line [] (Listing.command c) fun s =>
      o.exec s (.redirected line (.subshell inner body) rs)
  | .redirected line inner rs =>
    apart o s true line rs (Listing.command c) fun s => o.exec s inner
  | c => apart o s true line [] (Listing.command c) fun s => o.exec s c

/-! ## Compound commands -/

/-- Runs something inside a loop. -/
def inLoop (x : Act Nat) : Act Nat := do
  Act.modify fun st => { st with loops := st.loops + 1 }
  Act.finally_ x (Act.modify fun st => { st with loops := st.loops - 1 })

/-- What comes of one round of a loop: its status, and whether it was the last one. -/
structure Round where
  status : Nat
  last : Bool := false

/-- Runs one round of a loop, which may be left. -/
def round (x : Act Round) : Act Round := do
  match ← Act.attempt x with
  | .ok r => return r
  | .error (.leave n) => if n ≤ 1 then return ⟨0, true⟩ else Act.stop (.leave (n - 1))
  | .error (.again n) => if n ≤ 1 then return ⟨0, false⟩ else Act.stop (.again (n - 1))
  | .error f => Act.stop f

/-- Repeats a body as long as a condition succeeds, or until it does. -/
def repeatWhile (o : Services) (s : Setting) (onSuccess : Bool) (condition body : List Command) :
    Nat → Nat → Act Nat
  | 0, status => return status
  | fuel + 1, status => do
    let r ← round do
      let n ← o.execAll { tested := true } condition
      if (n == 0) = onSuccess then do
        let n ← o.execAll s body
        return ⟨n, false⟩
      else return ⟨status, true⟩
    if r.last then return r.status else repeatWhile o s onSuccess condition body fuel r.status

/-- Runs a body for each of some items. -/
def forEach (o : Services) (s : Setting) (name : Str) (body : List Command) :
    List Str → Nat → Act Nat
  | [], status => return status
  | item :: rest, _ => do
    let r ← round do
      Expand.assign name item
      let n ← o.execAll s body
      return ⟨n, false⟩
    if r.last then return r.status else forEach o s name body rest r.status

/-- Runs the first branch whose condition holds. -/
def branch (o : Services) (s : Setting) (otherwise : Option (List Command)) :
    List (List Command × List Command) → Act Nat
  | [] => match otherwise with
    | some cs => o.execAll s cs
    | none => return 0
  | (condition, body) :: rest => do
    let n ← o.execAll { tested := true } condition
    if n = 0 then o.execAll s body else branch o s otherwise rest

/-- Whether a text is meant by one of some patterns. -/
def isMeant (o : Services) (subject : Str) : List Word → Act Bool
  | [] => return false
  | w :: rest => do
    let pattern ← Expand.pattern o w
    if Glob.accepts pattern subject then return true else isMeant o subject rest

/-- Runs the first case that means a text. -/
def chosen (o : Services) (s : Setting) (subject : Str) : List (List Word × List Command) → Act Nat
  | [] => return 0
  | (patterns, body) :: rest => do
    if ← isMeant o subject patterns then o.execAll s body else chosen o s subject rest

/-- What a command does. -/
def perform (o : Services) (s : Setting) : Command → Act Nat
  | .simple line assigns words rs => simple o s line assigns words rs
  | .pipeline cs => pipeline o s false cs
  | .negate c => do
    let n ← o.exec { tested := true } c
    return if n = 0 then 1 else 0
  | .and a b => do
    let n ← o.exec { tested := true } a
    if n = 0 then o.exec s b else return n
  | .or a b => do
    let n ← o.exec { tested := true } a
    if n = 0 then return 0 else o.exec s b
  | .background line c => background o s line c
  | .block body => o.execAll s body
  | .subshell line body =>
    apart o s false line [] (Listing.command (.block body)) fun s => o.execAll s body
  | .redirected _ (.subshell line body) rs =>
    apart o s false line rs (Listing.command (.block body)) fun s => o.execAll s body
  | .redirected line c rs => do
    atLine line
    Redirection.within o rs (o.exec { tested := s.tested } c)
  | .conditional branches otherwise => branch o s otherwise branches
  | .loop onSuccess condition body =>
    inLoop (repeatWhile o { tested := s.tested } onSuccess condition body Act.rounds 0)
  | .each line name words body => do
    atLine line
    let st ← Act.get
    let items ← match words with
      | some ws => Expand.allFields o ws
      | none => pure st.args
    inLoop (forEach o { tested := s.tested } name body items 0)
  | .choose line word cases => do
    atLine line
    let subject ← Expand.text o word
    chosen o s subject cases
  | .define line name body => do
    Act.modify fun st =>
      { st with functions := (name, line, body) :: st.functions.filter (·.1 != name) }
    return 0

/-- Whether the failure of a command can end a shell that stops on failures. -/
def isStrict : Command → Bool
  | .simple .. => true
  | .pipeline _ => true
  | .subshell .. => true
  | .redirected _ (.subshell ..) _ => true
  | _ => false

/-- Runs a command, which gives the shell its status. -/
def command (o : Services) (s : Setting) (c : Command) : Act Nat := do
  let st ← Act.get
  if st.has 'n' then return 0
  o.meet
  let stops := (← Act.get).has 'e' && !s.tested && isStrict c
  let n ← perform o s c
  Act.modify ({ · with status := n })
  if n ≠ 0 ∧ stops then Act.stop (.exited n)
  o.meet
  return (← Act.get).status

/-! ## Scripts -/

/-- Says what is wrong with a script, and breaks off. -/
def malformed {α : Type} (line : Nat) (reason : String) : Act α := do
  atLine line
  Act.abort (Str.ofString ("Syntax error: " ++ reason))

/-- Runs a script; what is read is shown if that is asked for. -/
def script (o : Services) (s : Setting) (shows : Bool) : Nat → Nat → Source → Act Nat
  | 0, status, _ => return status
  | fuel + 1, status, source => do
    let st ← Act.get
    match { source with aliases := st.aliases }.next with
    | .ok none => return status
    | .ok (some (cs, rest)) => do
      if shows && st.has 'v' then
        let _ ← Act.writeTo 2 (source.rest.take (source.rest.length - rest.rest.length))
      if cs.isEmpty then script o s shows fuel status rest
      else do
        let n ← o.execAll { s with last := s.last && rest.atEnd } cs
        script o s shows fuel n rest
    | .error (.malformed line reason) => malformed line reason
    | .error .unfinished => return status

/-- The parts of a shell, that many levels deep. -/
def services : Nat → Services
  | 0 => .nothing
  | n + 1 =>
    let o := services n
    { exec := command o
      expand := fun splits w => Expand.word o splits splits w
      script := fun s source => script o s false Act.rounds 0 source }

/-- The levels that commands may be nested. -/
def depth : Nat := 1000

end Transcripts.Shell.Exec
