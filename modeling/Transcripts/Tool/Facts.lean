import Transcripts.Terminal.Report
import Transcripts.Tool

/-!
# Facts

What is known of the system, of the user and of the terminal, whose settings can be changed too.
-/
namespace Transcripts.Tool.Facts

/-! ## The system -/

/-- The facts about the system, in order. -/
def systemFacts : List (String × String) :=
  [("s", "Linux"), ("n", "localhost"), ("r", "6.1.0"), ("v", "#1 SMP"), ("m", "x86_64"), ("p", "unknown"),
    ("i", "unknown"), ("o", "GNU/Linux")]

def uname (args : List Str) : Tool Unit := do
  let w ← words (switches ["a:all", "s:kernel-name", "n:nodename", "r:kernel-release", "v:kernel-version",
    "m:machine", "p:processor", "i:hardware-platform", "o:operating-system"]) true 1 args
  match w.operands with
  | extra :: _ => misuse 1 ("extra operand " ++ Str.toString (marked extra))
  | [] =>
    let asked := systemFacts.filter fun (id, value) =>
      if w.has "a" then value != "unknown"
      else if w.options.isEmpty then id = "s"
      else w.has id
    putLine (Text.join [' '] (asked.map fun (_, value) => value.toList))

def arch (args : List Str) : Tool Unit := do
  let _ ← words [] true 1 args
  putLine "x86_64".toList

/-! ## The user -/

def whoami (args : List Str) : Tool Unit := do
  let w ← words [] true 1 args
  match w.operands with
  | extra :: _ => misuse 1 ("extra operand " ++ Str.toString (marked extra))
  | [] => putLine "root".toList

def id (args : List Str) : Tool Unit := do
  let w ← words (switches ["u:user", "g:group", "G:groups", "n:name", "r:real", "z:zero", "a"]) true 1 args
  let choice := w.last? ["u", "g", "G"]
  if choice.isNone && (w.has "n" || w.has "r") then
    die 1 "cannot print only names or real IDs in default format".toList
  match w.operands.find? (· != "root".toList) with
  | some name => fail (marked name ++ ": no such user".toList)
  | none =>
    putLine (match choice with
      | some _ => if w.has "n" then "root".toList else ['0']
      | none => "uid=0(root) gid=0(root) groups=0(root)".toList)

def groups (args : List Str) : Tool Unit := do
  let w ← words [] true 1 args
  if w.operands.isEmpty then putLine "root".toList
  else w.operands.forM fun name => putLine (name ++ " : root".toList)

def logname (args : List Str) : Tool Unit := do
  let _ ← words [] true 1 args
  die 1 "no login name".toList

/-! ## The terminal -/

/-- The name of the terminal. -/
def terminalName : Str := "/dev/pts/0".toList

def tty (args : List Str) : Tool Unit := do
  let w ← words (switches ["s:silent"] ++ [⟨"s", none, "quiet", .nothing⟩]) true 2 args
  match w.operands with
  | extra :: _ => misuse 2 ("extra operand " ++ Str.toString (marked extra))
  | [] => do
    let is := (← view).isTerminal 0
    if !w.has "s" then putLine (if is then terminalName else "not a tty".toList)
    quit (if is then 0 else 1)

/-- The options of a call and the words that stand for settings. -/
structure Request where
  all : Bool := false
  saves : Bool := false
  device : Option Str := none
  settings : List Str := []

/-- Sorts the words of a call; settings may start with a dash too. -/
def Request.ofWords : Nat → Request → List Str → Except OptionFault Request
  | 0, r, _ => .ok r
  | _, r, [] => .ok r
  | fuel + 1, r, w :: rest =>
    match String.ofList w with
    | "-a" => ofWords fuel { r with all := true } rest
    | "--all" => ofWords fuel { r with all := true } rest
    | "-g" => ofWords fuel { r with saves := true } rest
    | "--save" => ofWords fuel { r with saves := true } rest
    | "-F" =>
      match rest with
      | d :: rest => ofWords fuel { r with device := some d } rest
      | [] => .error (.needsValue 'F')
    | _ =>
      if w.startsWith "-F" then ofWords fuel { r with device := some (w.drop 2) } rest
      else if w.startsWith "--file=" then ofWords fuel { r with device := some (w.drop 7) } rest
      else if w.startsWith "--" && 2 < w.length then .error (.unrecognized w)
      else ofWords fuel { r with settings := r.settings ++ [w] } rest

def stty (args : List Str) : Tool Unit := do
  let r ← match Request.ofWords (args.length + 1) {} args with
    | .ok r => pure r
    | .error f => misuse 1 f.message
  if r.all && r.saves then
    die 1 "the options for verbose and stty-readable output styles are\nmutually exclusive".toList
  if !r.settings.isEmpty && (r.all || r.saves) then
    die 1 "when specifying an output style, modes may not be set".toList
  let change (t : Terminal) : Except Terminal.Report.Fault Terminal :=
    Terminal.Report.change t (r.settings.length + 1) r.settings
  let v ← view
  let explain (f : Terminal.Report.Fault) : Tool Unit := misuse 1 f.message
  let shows := r.settings = ["size".toList] || r.settings = ["speed".toList]
  match change v.terminal with
  | .error f => if !shows then explain f
  | .ok _ => pure ()
  let (fd, name) ← match r.device with
    | none => pure (0, "standard input".toList)
    | some path =>
      match ← openRead path with
      | .ok fd => pure (fd, path)
      | .error f => die 1 (labelled path ++ Str.ofString (": " ++ f.message))
  let v ← view
  if !v.isTerminal fd then
    die 1 ((if r.device.isNone then marked name else labelled name)
      ++ Str.ofString (": " ++ SystemFault.message .notATerminal))
  let t := v.terminal
  match r.settings.map String.ofList with
  | [] =>
    let width := t.columns
    put (Str.ofString (if r.saves then Terminal.Report.saved t.settings ++ "\n"
      else if r.all then Terminal.Report.full t width else Terminal.Report.unusual t width))
  | ["size"] => put (Str.ofString s!"{t.rows} {t.columns}\n")
  | ["speed"] => put "38400\n".toList
  | _ =>
    match change t with
    | .error f => explain f
    | .ok new => do
      let wanted := new.settings
      let taken := Terminal.Report.possible wanted
      let _ ← ask (Process.configure fd fun t => { t with settings := taken, rows := new.rows, columns := new.columns })
      return ()

end Transcripts.Tool.Facts
