import Transcripts.Mode
import Transcripts.Shell.Builtin.Variables
import Transcripts.Shell.Condition
import Transcripts.Shell.Printing

/-!
# Commands for flow, output and directories
-/
namespace Transcripts.Shell.Builtin

/-! ## Flow -/

def exit (args : List Str) : Act Nat := do
  if ← Jobs.hasStopped then return 0
  let st ← Act.get
  match args with
  | [] => Act.stop (.exited (st.before.getD st.status))
  | s :: _ => do
    let n ← number s
    Act.stop (.exited (n % 256))

def return_ (args : List Str) : Act Nat := do
  let st ← Act.get
  match args with
  | [] => Act.stop (.returned st.status)
  | s :: _ => do
    let n ← number s
    Act.stop (.returned n)

/-- Leaves loops or goes on with them, at most as many as are open. -/
def jump (flow : Nat → Flow) (args : List Str) : Act Nat := do
  let n ← match args with
    | [] => pure 1
    | s :: _ => do
      let n ← number s
      if n = 0 then Act.abort ("Illegal number: ".toList ++ s)
      pure n
  let st ← Act.get
  if st.loops = 0 then return 0
  Act.stop (flow (min n st.loops))

def eval (o : Services) (s : Setting) (args : List Str) : Act Nat := do
  let st ← Act.get
  let words ← operands args
  if words.isEmpty then return 0
  o.script { tested := s.tested } { rest := Text.join [' '] words, aliases := st.aliases }

/-- The path of a script that is named without a directory. -/
def findScript (name : Str) : Act Str := do
  if name.contains '/' then return name
  let st ← Act.get
  let v ← Act.view
  let readable (p : Str) : Bool := match v.files.find v.here p true with
    | .ok id => (v.files.bytes? id).isSome
    | .error _ => false
  match (Search.candidates (Search.path st) name).find? readable with
  | some p => return p
  | none => Act.abort (name ++ ": not found".toList)

/-- Opens a script, and moves it out of the way of what is redirected. -/
def openScript (path : Str) : Act Nat := do
  match ← Act.ask (Process.openPath path .read) with
  | .error .missing => Act.abort ("cannot open ".toList ++ path ++ ": No such file".toList)
  | .error .notDirectory => Act.abort ("cannot open ".toList ++ path ++ ": No such file".toList)
  | .error f => Act.abort ("cannot open ".toList ++ path ++ Str.ofString (": " ++ f.message))
  | .ok fd => do
    match ← Act.ask (Process.copy fd 10) with
    | .ok n => do
      let _ ← Act.ask (Process.close fd)
      return n
    | .error _ => return fd

/-- Runs a script in the shell itself. -/
def source (o : Services) (args : List Str) : Act Nat := do
  let words ← operands args
  match words with
  | [] => return 0
  | name :: _ => do
    let path ← findScript name
    let fd ← openScript path
    let text ← Expand.readRest fd Act.rounds []
    let _ ← Act.ask (Process.close fd)
    Act.modify ({ · with command := some path })
    let st ← Act.get
    match ← Act.attempt (o.script {} { rest := text, aliases := st.aliases }) with
    | .ok n => return n
    | .error (.returned n) => return n
    | .error f => Act.stop f

/-! ## Output -/

/-- Writes its arguments, in which escapes are replaced. -/
def echo (args : List Str) : Act Nat := do
  let (newline, args) := match args with
    | ['-', 'n'] :: rest => (false, rest)
    | rest => (true, rest)
  let s := Text.join [' '] args
  let (shown, stopped) := Printing.unescape (s.length + 1) s
  Act.write (if newline && !stopped then shown ++ ['\n'] else shown)
  return 0

def printf (args : List Str) : Act Nat := do
  let words ← operands args
  match words with
  | [] => Act.abort "usage: printf format [arg ...]".toList
  | fmt :: args => do
    let r := Printing.format fmt args
    r.warnings.forM Act.complain
    Act.write r.shown.reverse.flatten
    match r.fault with
    | some message => Act.abort message
    | none => return if r.warnings.isEmpty then 0 else 1

def test (name : Str) (args : List Str) : Act Nat := do
  let v ← Act.view
  let words ← if name = ['['] then
      if args.getLast? = some [']'] then pure args.dropLast else Act.abort "missing ]".toList
    else pure args
  match Condition.eval v (words.length + 1) words with
  | .ok b => return if b then 0 else 1
  | .error fault => Act.abort fault.message

/-! ## Directories -/

/-- Whether options ask for the directory as it is, without the links that lead there. -/
def isPhysical (given : Given) : Bool := (given.getLast?.map (·.1)) == some 'P'

def pwd (args : List Str) : Act Nat := do
  let (given, _) ← options ['L', 'P'] [] (args.length + 1) args
  let st ← Act.get
  let v ← Act.view
  Act.write ((if isPhysical given then v.files.pathOf v.here else st.directory) ++ ['\n'])
  return 0

/-- A path in which parts that lead back have been taken away, from a directory that is given by its
path. -/
def logical (from_ path : Str) : Str :=
  let isAbsolute := path.head? = some '/'
  let double := isAbsolute && (path.drop 1).head? == some '/' && (path.drop 2).head? != some '/'
  let start := if isAbsolute then [] else (Text.splitOnChar '/' from_).filter (!·.isEmpty)
  let walked := ((Text.splitOnChar '/' path).filter (!·.isEmpty)).foldl (fun parts part =>
    if part = ['.'] then parts
    else if part = ['.', '.'] then parts.dropLast
    else parts ++ [part]) start
  (if double || (!isAbsolute && "//".toList.isPrefixOf from_) then "//".toList else ['/'])
    ++ Text.join ['/'] walked

/-- Makes a directory the working one. -/
def enter (path : Str) (physical : Bool) : Act Bool := do
  let st ← Act.get
  let target := if physical then path else logical st.directory path
  match ← Act.ask (Process.enter target) with
  | .error _ => return false
  | .ok _ => do
    let v ← Act.view
    let shown := if physical then v.files.pathOf v.here else target
    Act.modify fun st =>
      let st := (st.assign "OLDPWD".toList st.directory).share "OLDPWD".toList
      let st := { st with directory := shown }
      (st.assign "PWD".toList shown).share "PWD".toList
    return true

/-- Whether a path says itself where it starts. -/
def isAnchored (path : Str) : Bool :=
  path.head? = some '/' ∨ path = ['.'] ∨ path = ['.', '.'] ∨ "./".toList.isPrefixOf path
    ∨ "../".toList.isPrefixOf path

/-- Tries a directory at each of some places. -/
def enterOne (dest : Str) (physical : Bool) : List Str → Act (Option Bool)
  | [] => return none
  | place :: rest => do
    let path := if place.isEmpty then dest else place ++ '/' :: dest
    let v ← Act.view
    match v.files.find v.here path true with
    | .ok id =>
      if v.files.isDir id then do
        if ← enter path physical then return some (!place.isEmpty) else return none
      else enterOne dest physical rest
    | .error _ => enterOne dest physical rest

def cd (args : List Str) : Act Nat := do
  let (given, words) ← options ['L', 'P'] [] (args.length + 1) args
  let physical := isPhysical given
  let st ← Act.get
  let (dest, shows) := match words with
    | [] => ((st.value? "HOME".toList).getD [], false)
    | ['-'] :: _ => ((st.value? "OLDPWD".toList).getD [], true)
    | path :: _ => (path, false)
  let found ← match st.value? "CDPATH".toList with
    | some places =>
      if isAnchored dest then pure none
      else enterOne (if dest.isEmpty then ['.'] else dest) physical (Text.splitOnChar ':' places)
    | none => pure none
  let shows ← match found with
    | some elsewhere => pure (shows || elsewhere)
    | none => do
      if !(← enter (if dest.isEmpty then ['.'] else dest) physical) then
        Act.abort ("can't cd to ".toList ++ dest)
      pure shows
  if shows then
    let st ← Act.get
    Act.write (st.directory ++ ['\n'])
  return 0

/-! ## The rest -/

def umask (args : List Str) : Act Nat := do
  let (given, words) ← options ['S'] [] (args.length + 1) args
  let v ← Act.view
  match words with
  | [] => do
    let rights := Mode.rights (0o777 &&& Mode.without v.mask)
    let letters (n : Nat) : Str := ((rights.drop n).take 3).filter (· != '-')
    Act.write (if given.isEmpty then Str.padStart 4 '0' (Nat.toDigits 8 v.mask) ++ ['\n']
      else "u=".toList ++ letters 0 ++ ",g=".toList ++ letters 3 ++ ",o=".toList ++ letters 6 ++ ['\n'])
    return 0
  | w :: _ => do
    if (w.head?.map Char.isDigit).getD false then
      if !w.all (Whole.isDigit 8) then Act.abort ("Illegal number: ".toList ++ w)
      Act.ask (Process.setMask (Str.ofDigits 8 w &&& 0o777))
    else
      match Mode.parse w with
      | some cs => do
        let mode := Mode.apply cs false 0 (0o777 &&& Mode.without v.mask)
        Act.ask (Process.setMask (0o777 &&& Mode.without mode))
      | none => Act.abort ("Illegal mode: ".toList ++ w)
    return 0

/-- Says what some names stand for. -/
def describeAll (path : Option Str) (long : Bool) : List Str → Nat → Act Nat
  | [], status => return status
  | name :: rest, status => do
    let st ← Act.get
    let v ← Act.view
    match Search.describe st v (path.getD (Search.path st)) name long with
    | some s => do
      Act.write (s ++ ['\n'])
      match Search.find v (Search.path st) name with
      | .ok p => if path.isNone && !Search.isBuiltin name && !name.contains '/' then
          Act.modify fun st => { st with found := (name, p) :: st.found.filter (·.1 != name) }
      | .error _ => pure ()
      describeAll path long rest status
    | none => do
      if long then Act.write (name ++ ": not found\n".toList)
      describeAll path long rest 127

def type (args : List Str) : Act Nat := describeAll none true args 0

/-- Says what a command would run. -/
def command (args : List Str) : Act Nat := do
  let (given, words) ← options ['p', 'v', 'V'] [] (args.length + 1) args
  let path := if given.any (·.1 == 'p') then some (Str.ofString Search.usualPath) else none
  let long := given.any (·.1 == 'V')
  if long || given.any (·.1 == 'v') then describeAll path long (words.take 1) 0 else return 0

def hash (args : List Str) : Act Nat := do
  let (given, words) ← options ['r', 'v'] [] (args.length + 1) args
  if given.any (·.1 == 'r') then do
    Act.modify ({ · with found := [] })
    return 0
  else if words.isEmpty then do
    let st ← Act.get
    Act.write ((State.byHash st.found).flatMap fun (_, path) => path ++ ['\n'])
    return 0
  else
    words.foldlM (fun status name => do
      let st ← Act.get
      let v ← Act.view
      if name.contains '/' || Search.isBuiltin name || (st.functions.lookup name).isSome then
        return status
      else
        match Search.find v (Search.path st) name with
        | .ok p => do
          Act.modify fun st => { st with found := st.found.filter (·.1 != name) ++ [(name, p)] }
          return status
        | .error f => do
          Act.complain (name ++ Str.ofString (": " ++ Search.reason f))
          return 1) 0

/-- The time that was used, of which there is none to speak of. -/
def times : Act Nat := do
  Act.write "0m0.000000s 0m0.000000s\n0m0.000000s 0m0.000000s\n".toList
  return 0

def ulimit (args : List Str) : Act Nat := do
  let (_, words) ← options
    ['H', 'S', 'a', 't', 'f', 'd', 's', 'c', 'm', 'l', 'p', 'n', 'v', 'w', 'r'] [] (args.length + 1) args
  if words.isEmpty then Act.write "unlimited\n".toList
  return 0

end Transcripts.Shell.Builtin
