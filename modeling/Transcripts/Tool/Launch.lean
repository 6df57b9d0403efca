import Transcripts.Format
import Transcripts.Tool

/-!
# Launching programs

Tools that run other programs: with other variables, in other circumstances, for some time, or once for
each of many words.
-/
namespace Transcripts.Tool.Launch

/-! ## Finding programs -/

/-- Where programs are looked for if nothing says so. -/
def usualPath : Str := "/bin:/usr/bin".toList

/-- Becomes the program at the first of some paths that can be run. -/
def tryPaths (args : List Str) (env : Variables) : List Str → SystemFault → Tool SystemFault
  | [], fault => return fault
  | path :: rest, fault => do
    match ← ask (Process.run path args env) with
    | .missing => tryPaths args env rest fault
    | .notDirectory => tryPaths args env rest fault
    | .denied => tryPaths args env rest .denied
    | .notAProgram => do
      let shell := "/bin/sh".toList
      ask (Process.run shell (shell :: path :: args.drop 1) env)
    | f => return f

/-- Becomes a program with some words; only a failure comes back. -/
def become (args : List Str) (env : Variables) : Tool SystemFault := do
  let name := args.headD []
  if name.isEmpty then return .missing
  else if name.contains '/' then tryPaths args env [name] .missing
  else
    let dirs := Text.splitOnChar ':' ((env.lookup "PATH".toList).getD usualPath)
    tryPaths args env (dirs.map fun d => if d.isEmpty then name else d ++ '/' :: name) .missing

/-- The status of a program that could not be run. -/
def statusOf (f : SystemFault) : Nat := if f = .missing then 127 else 126

/-- Becomes a program, or ends with a message of which the fault is the end. -/
def launch (args : List Str) (env : Variables) (before : Str) : Tool Unit := do
  flush
  let f ← become args env
  warn (before ++ quoted (args.headD []) ++ Str.ofString (": " ++ f.message))
  quit (statusOf f)

/-! ## Variables -/

/-- Gives a variable a value, in its place if it has one. -/
def setVariable (name value : Str) : Variables → Variables
  | [] => [(name, value)]
  | (k, v) :: rest => if k = name then (k, value) :: rest else (k, v) :: setVariable name value rest

/-- The name and the value of a word that sets a variable. -/
def setting? (s : Str) : Option (Str × Str) :=
  if s.contains '=' then
    let name := s.takeWhile (· != '=')
    some (name, s.drop (name.length + 1))
  else none

/-- Words that a text is split into, between blanks and by quotes. -/
def splitText : Nat → Option Str → Option Char → Str → List Str
  | 0, open_, _, _ => (open_.map List.reverse).toList
  | _, open_, _, [] => (open_.map List.reverse).toList
  | fuel + 1, open_, quote, c :: rest =>
    match quote, c with
    | none, '\'' => splitText fuel (some (open_.getD [])) (some '\'') rest
    | none, '"' => splitText fuel (some (open_.getD [])) (some '"') rest
    | some q, c =>
      if c = q then splitText fuel open_ none rest else splitText fuel (some (c :: open_.getD [])) quote rest
    | none, c =>
      if Str.isSpace c then (open_.map List.reverse).toList ++ splitText fuel none none rest
      else splitText fuel (some (c :: open_.getD [])) none rest

def envForms : List OptionForm :=
  switches ["i:ignore-environment", "0:null", "v:debug"] ++ values ["u:unset", "C:chdir", "S:split-string"]
    ++ [.long "block-signal" .maybe, .long "default-signal" .maybe, .long "ignore-signal" .maybe]

/-- Runs a program with other variables, or shows them. -/
def env (args : List Str) : Tool Unit := do
  let args := args.flatMap fun a =>
    if a.startsWith "-S" && 2 < a.length then splitText (a.length + 1) none none (a.drop 2) else [a]
  let w ← match Words.ofArgs (envForms ++ everywhere) false args with
    | .ok w => if w.has "help" || w.has "version" then quit 0 else pure w
    | .error f => do
      warn (Str.ofString f.message)
      if f = .invalid ' ' then say "env: use -[v]S to pass options in shebang lines".toList
      say (hint (← desk).name)
      quit 125
  let (bare, operands) := match w.operands with
    | ['-'] :: rest => (true, rest)
    | ops => (false, ops)
  let own := (← desk).env
  let base := if bare || w.has "i" then [] else own
  let base := (w.valuesOf "u").foldl (fun vs name => vs.filter (·.1 != name)) base
  let settings := (operands.takeWhile fun s => s.contains '=').filterMap setting?
  let vars := settings.foldl (fun vs (k, v) => setVariable k v vs) base
  match operands.dropWhile fun s => s.contains '=' with
  | [] => do
    if w.has "C" then
      warn "must specify command with --chdir (-C)".toList
      say (hint (← desk).name)
      quit 125
    vars.forM fun (k, v) => put (k ++ '=' :: v ++ (if w.has "0" then ['\x00'] else ['\n']))
  | command => do
    if w.has "0" then
      warn "cannot specify --null (-0) with command".toList
      say (hint (← desk).name)
      quit 125
    match w.value? "C" with
    | none => pure ()
    | some dir =>
      match ← ask (Process.enter dir) with
      | .ok _ => pure ()
      | .error f => die 125 (faultOf "cannot change directory to " dir f)
    launch command vars []

def printenv (args : List Str) : Tool Unit := do
  let w ← words (switches ["0:null"]) false 2 args
  let vars := (← desk).env
  let ending : Str := if w.has "0" then ['\x00'] else ['\n']
  if w.operands.isEmpty then vars.forM fun (k, v) => put (k ++ '=' :: v ++ ending)
  else
    w.operands.forM fun name =>
      match vars.lookup name with
      | some v => put (v ++ ending)
      | none => note 1

/-! ## Times -/

/-- The milliseconds of a time with its unit. -/
def millis? (s : Str) : Option (Option Nat) :=
  match Format.real? s with
  | none => none
  | some (x, rest) =>
    let unit : Option Nat := match rest with
      | [] => some 1
      | ['s'] => some 1
      | ['m'] => some 60
      | ['h'] => some 3600
      | ['d'] => some 86400
      | _ => none
    match unit, x with
    | none, _ => none
    | some _, .infinite false => some none
    | some k, .finite negative num den =>
      if negative && num != 0 then none else some (some ((num * k * 1000 + den - 1) / den))
    | _, _ => none

/-- Sleeps for some time, or for ever. -/
def sleepFor (time : Option Nat) : Tool Unit := do
  let v ← view
  let _ ← ask (Process.sleep (v.now + time.getD 100000000000))
  return ()

def sleep (args : List Str) : Tool Unit := do
  let w ← words [] true 1 args
  if w.operands.isEmpty then misuse 1 "missing operand"
  let times ← w.operands.mapM fun s => do
    match millis? s with
    | some t => return some t
    | none => do
      warn ("invalid time interval ".toList ++ marked s)
      return none
  if times.any Option.isNone then
    say (hint (← desk).name)
    quit 1
  sleepFor (times.foldl (fun sum t => do return (← sum) + (← t.join)) (some 0))

/-! ## Limited time -/

/-- The signal that a word names. -/
def signal? (s : Str) : Option Nat :=
  match Str.nat? s with
  | some n => if n < 65 then some n else none
  | none =>
    let name := Str.upper s
    let name := if name.startsWith "SIG" then name.drop 3 else name
    (Signal.ofName? (String.ofList name)).map (·.number)

/-- A limit of time for a program. -/
structure Limit where
  signal : Nat
  /-- When it is killed if that does not help. -/
  killAfter : Option Nat
  foreground : Bool
  verbose : Bool
  preserves : Bool

/-- The name of a signal by its number. -/
def signalName (n : Nat) : String := ((Signal.mk n).name?).getD (toString n)

/-- Sends a signal to a program and to what it has started. -/
def strike (l : Limit) (pid n : Nat) (command : Str) : Tool Unit := do
  if l.verbose then
    warn (Str.ofString ("sending signal " ++ signalName n ++ " to command ") ++ quoted command)
  let _ ← ask (Process.send (.process pid) n)
  if !l.foreground then
    let _ ← ask (Process.provide ⟨n⟩ .ignored)
    let _ ← ask (Process.send .ownGroup n)
    if n != 9 && n != 18 then
      let _ ← ask (Process.send (.process pid) 18)
      let _ ← ask (Process.send .ownGroup 18)

/-- Waits for a program and ends with its status; `hit` tells whether its time was up. -/
def watch (l : Limit) (pid : Nat) (command : Str) : Nat → Bool → Option Nat → Option Nat → Tool Unit
  | 0, _, _, _ => return ()
  | fuel + 1, hit, deadline, killAt => do
    match ← ask (Process.wait { pid := some pid, deadline }) with
    | .error .interrupted => watch l pid command fuel hit deadline killAt
    | .error _ => quit 125
    | .ok (some (_, .ended how)) =>
      match how with
      | .exited n => quit (if hit && !l.preserves then 124 else n)
      | .killed s =>
        if hit then quit (if s.number = 9 || l.preserves then 128 + s.number else 124)
        else do
          let _ ← ask (Process.provide s .none_)
          let _ ← ask (Process.send (.process (← view).pid) s.number)
          quit (128 + s.number)
    | .ok (some _) => watch l pid command fuel hit deadline killAt
    | .ok none => do
      if hit then
        strike l pid 9 command
        watch l pid command fuel true none none
      else
        strike l pid l.signal command
        let v ← view
        watch l pid command fuel true (l.killAfter.map (v.now + ·)) none

def timeout (args : List Str) : Tool Unit := do
  let w ← words (switches ["f:foreground", "p:preserve-status", "v:verbose"]
    ++ values ["k:kill-after", "s:signal"]) false 125 args
  let interval (s : Str) : Tool (Option Nat) := do
    match millis? s with
    | some (some n) => return if n = 0 then none else some n
    | some none => return none
    | none => do
      warn ("invalid time interval ".toList ++ marked s)
      say (hint (← desk).name)
      quit 125
  let killAfter ← match w.value? "k" with
    | some s => interval s
    | none => pure none
  let n ← match w.value? "s" with
    | none => pure 15
    | some s =>
      match signal? s with
      | some n => pure n
      | none => do
        warn (marked s ++ ": invalid signal".toList)
        say (hint (← desk).name)
        quit 125
  match w.operands with
  | duration :: command :: rest => do
    let time ← interval duration
    let l : Limit :=
      { signal := n, killAfter, foreground := w.has "f", verbose := w.has "v", preserves := w.has "p" }
    let v ← view
    if !l.foreground then
      let _ ← ask (Process.setGroup v.pid v.pid)
    let vars := (← desk).env
    let child : Tool Unit := do
      let f ← become (command :: rest) vars
      warn (faultOf "failed to run command " command f)
      quit (statusOf f)
    let d ← desk
    let pid ← ask (Process.fork fun _ => child d fun _ _ => .exit 125)
    watch l pid command rounds false (time.map (v.now + ·)) none
  | _ => do
    say (hint (← desk).name)
    quit 125

/-! ## Other circumstances -/

def nice (args : List Str) : Tool Unit := do
  let w ← words (values ["n:adjustment"]) false 125 (match args with
    | ('-' :: ds) :: rest =>
      if !ds.isEmpty && (ds.dropWhile fun c => c = '-' || c = '+').all Char.isDigit then "-n".toList :: ds :: rest
      else args
    | _ => args)
  match w.value? "n" with
  | some s => if (Str.int? s).isNone then die 125 ("invalid adjustment ".toList ++ marked s)
  | none => pure ()
  match w.operands with
  | [] =>
    if w.has "n" then
      warn "a command must be given with an adjustment".toList
      say (hint (← desk).name)
      quit 125
    else putLine ['0']
  | command => launch command (← desk).env []

def nohup (args : List Str) : Tool Unit := do
  let w ← words [] false 125 args
  if w.operands.isEmpty then misuse 125 "missing operand"
  let v ← view
  let input := v.isTerminal 0
  let output := v.isTerminal 1
  let errors := v.isTerminal 2
  let replace (fd : Nat) (path : Str) (a : Files.Access) : Tool Bool := do
    match ← ask (Process.openPath path a) with
    | .error f => do
      fail (faultOf "failed to open " path f)
      return false
    | .ok k => do
      let _ ← ask (Process.copyTo k fd)
      close k
      return true
  if input then
    let _ ← replace 0 "/dev/null".toList { writes := true }
    if !output && !errors then warn "ignoring input".toList
  if output then
    let message := (if input then "ignoring input and " else "") ++ "appending output to 'nohup.out'"
    warn (Str.ofString message)
    if !(← replace 1 "nohup.out".toList .append) then quit 125
  if errors then
    if !output then
      warn (Str.ofString ((if input then "ignoring input and " else "") ++ "redirecting stderr to stdout"))
    let _ ← ask (Process.copyTo 1 2)
  let _ ← ask (Process.provide .hangup .ignored)
  launch w.operands (← desk).env "failed to run command ".toList

def setsid (args : List Str) : Tool Unit := do
  let w ← words (switches ["c:ctty", "f:fork", "w:wait"]) false 1 args
  if w.operands.isEmpty then
    warn "no command specified".toList
    say (hint (← desk).name)
    quit 1
  let v ← view
  let _ ← ask (Process.setGroup v.pid v.pid)
  launch w.operands (← desk).env "failed to execute ".toList

/-- Writes a line again and again. -/
def yes (args : List Str) : Tool Unit := do
  let args := if args.head? = some ['-', '-'] then args.drop 1 else args
  let line := (if args.isEmpty then ['y'] else Text.join [' '] args) ++ ['\n']
  let block := (List.replicate (max 1 (8192 / line.length)) line).flatten
  let rec write (fuel : Nat) : Tool Unit :=
    match fuel with
    | 0 => return ()
    | fuel + 1 => do
      match ← putTo 1 block with
      | .ok _ => write fuel
      | .error f => die 1 (Str.ofString ("standard output: " ++ f.message))
  write rounds

/-! ## Many words -/

/-- Words of an input, by blanks and quotes; a fault is told of by its quote. -/
def inputWords : Nat → Option Str → Str → Except Str (List Str)
  | 0, open_, _ => .ok (open_.map List.reverse).toList
  | _, open_, [] => .ok (open_.map List.reverse).toList
  | fuel + 1, open_, c :: rest =>
    if c = '\\' then
      match rest with
      | d :: rest => inputWords fuel (some (d :: open_.getD [])) rest
      | [] => .error "backslash at EOF".toList
    else if c = '\'' ∨ c = '"' then
      let body := rest.takeWhile fun d => d != c && d != '\n'
      match rest.drop body.length with
      | d :: rest =>
        if d = c then inputWords fuel (some (body.reverse ++ open_.getD [])) rest else unmatched c
      | [] => unmatched c
    else if Str.isSpace c then
      (inputWords fuel none rest).map fun ws => (open_.map List.reverse).toList ++ ws
    else inputWords fuel (some (c :: open_.getD [])) rest
where
  unmatched (c : Char) : Except Str (List Str) :=
    .error (Str.ofString ("unmatched " ++ (if c = '"' then "double" else "single")
      ++ " quote; by default quotes are special to xargs unless you use the -0 option"))

/-- A text with all occurrences of another one replaced. -/
def replaceAll (old new : Str) : Nat → Str → Str
  | 0, s => s
  | _, [] => []
  | fuel + 1, c :: cs =>
    if !old.isEmpty && old.isPrefixOf (c :: cs) then new ++ replaceAll old new fuel ((c :: cs).drop old.length)
    else c :: replaceAll old new fuel cs

/-- Groups of at most so many. -/
def groupsOf {α : Type} (n : Nat) : Nat → List α → List (List α)
  | 0, _ => []
  | fuel + 1, xs => if xs.isEmpty then [] else xs.take n :: groupsOf n fuel (xs.drop n)

/-- Runs a command and waits for it; gives the status that the tool ends with, and whether it goes on. -/
def runOne (verbose : Bool) (command : List Str) : Tool (Nat × Bool) := do
  if verbose then say (Text.join [' '] (command.map nameOf))
  flush
  let d ← desk
  let child : Tool Unit := do
    match ← ask (Process.openPath "/dev/null".toList .read) with
    | .ok fd => do
      let _ ← ask (Process.copyTo fd 0)
      close fd
    | .error _ => pure ()
    let f ← become command d.env
    warn (command.headD [] ++ Str.ofString (": " ++ f.message))
    quit (statusOf f)
  let pid ← ask (Process.fork fun _ => child d fun _ _ => .exit 1)
  let rec wait (fuel : Nat) : Tool (Nat × Bool) :=
    match fuel with
    | 0 => return (0, true)
    | fuel + 1 => do
      match ← ask (Process.wait { pid := some pid }) with
      | .ok (some (_, .ended (.exited n))) =>
        if n = 0 then return (0, true)
        else if n = 255 then do
          warn (nameOf (command.headD []) ++ ": exited with status 255; aborting".toList)
          return (124, false)
        else if n = 126 ∨ n = 127 then return (n, false)
        else return (123, true)
      | .ok (some (_, .ended (.killed s))) => do
        warn (nameOf (command.headD []) ++ Str.ofString s!": terminated by signal {s.number}")
        return (125, false)
      | .error .noChild => return (0, true)
      | _ => wait fuel
  wait rounds

/-- Runs commands one after the other. -/
def runAll (verbose : Bool) : List (List Str) → Nat → Tool Nat
  | [], status => return status
  | c :: rest, status => do
    let (n, more) ← runOne verbose c
    if more then runAll verbose rest (max status n) else return n

def xargs (args : List Str) : Tool Unit := do
  let w ← words (switches ["0:null", "r:no-run-if-empty", "t:verbose", "p:interactive", "x:exit", "o:open-tty"]
    ++ values ["n:max-args", "I", "L", "d:delimiter", "P:max-procs", "s:max-chars", "a:arg-file", "E"]
    ++ [.short 'i' "replace" .maybe, .short 'l' "max-lines" .maybe, .short 'e' "eof" .maybe]) false 1 args
  let command := if w.operands.isEmpty then ["echo".toList] else w.operands
  let fd ← match w.value? "a" with
    | none => pure 0
    | some path =>
      match ← openRead path with
      | .ok fd => pure fd
      | .error f => die 1 ("Cannot open input file ".toList ++ quoted path ++ Str.ofString (": " ++ f.message))
  let s ← match ← readAll fd with
    | .ok s => pure s
    | .error f => die 1 (Str.ofString ("read error: " ++ f.message))
  let count (id : String) : Tool (Option Nat) := do
    match w.value? id with
    | none => return none
    | some v =>
      match Str.nat? v with
      | some n =>
        if 0 < n then return some n
        else die 1 (Str.ofString ("value " ++ Str.toString v ++ " for -" ++ id ++ " option should be >= 1"))
      | none => die 1 (Str.ofString ("invalid number \"" ++ Str.toString v ++ "\" for -" ++ id ++ " option"))
  let most ← count "n"
  let lines ← count "L"
  let place := if w.has "I" then w.value? "I" else if w.has "i" then some ((w.value? "i").getD ['\x7b', '\x7d']) else none
  let between? : Option Char := if w.has "0" then some '\x00' else (w.value? "d").map fun d =>
    match d with
    | ['\\', 'n'] => '\n'
    | ['\\', 't'] => '\t'
    | ['\\', '0'] => '\x00'
    | d => d.headD '\n'
  let split (s : Str) : Tool (List Str) := do
    match between? with
    | some c => return (Str.pieces c s).map (Str.chomp c)
    | none =>
      match inputWords (s.length + 1) none s with
      | .ok ws => return ws
      | .error message => die 1 message
  let commands ← match place with
    | some mark => do
      let rows ← match between? with
        | some _ => split s
        | none => pure ((Str.lines s).map (·.dropWhile fun c => c = ' ' || c = '\t') |>.filter (!·.isEmpty))
      pure (rows.map fun row => command.map fun c => replaceAll mark row (c.length + 1) c)
    | none => do
      let groups ← match lines with
        | some n => do
          let rows ← ((Str.lines s).filter (!·.all Str.isSpace)).mapM split
          pure ((groupsOf n (rows.length + 1) rows).map List.flatten)
        | none => do
          let ws ← split s
          match most with
          | some n => pure (groupsOf n (ws.length + 1) ws)
          | none => pure (if ws.isEmpty then [] else [ws])
      let groups := if groups.isEmpty && !w.has "r" then [[]] else groups
      pure (groups.map (command ++ ·))
  let status ← runAll (w.has "t") commands 0
  quit status

end Transcripts.Tool.Launch
