import Transcripts.Machine
import Transcripts.Shell.Expand

/-!
# Redirections

Commands get descriptors that lead elsewhere.  What the descriptors led to before is kept under other
numbers, so that they can be put back.
-/
namespace Transcripts.Shell.Redirection

/-- Descriptors from here on are the shell's own. -/
def ownDescriptors : Nat := 10

/-- What some descriptors were before: they were closed, or are kept under another number. -/
abbrev Saved := List (Nat × Option Nat)

/-- A redirection whose words have been expanded. -/
inductive Target where
  | path (s : Str)
  /-- Another descriptor, or none. -/
  | descriptor (n : Option Nat)
  | text (w : Word)

/-! ## Targets -/

/-- The descriptor that a word means. -/
def descriptor (s : Str) : Act Target :=
  match s with
  | ['-'] => return .descriptor none
  | [c] =>
    if c.isDigit then return .descriptor (some (c.toNat - '0'.toNat))
    else Act.abort "Syntax error: Bad fd number".toList
  | _ => Act.abort "Syntax error: Bad fd number".toList

/-- Expands the words of redirections. -/
def targets (o : Services) : List Redirect → Act (List (Nat × RedirectOp × Target))
  | [] => return []
  | .mk fd op word :: rest => do
    let t ← match op with
      | .here => pure (Target.text word)
      | .copyIn => do descriptor (← Expand.text o word)
      | .copyOut => do descriptor (← Expand.text o word)
      | _ => do pure (Target.path (← Expand.text o word))
    return (fd, op, t) :: (← targets o rest)

/-! ## Opening -/

/-- Why a file cannot be opened, or made, in words. -/
def reason (f : SystemFault) (makes : Bool) : String :=
  match f with
  | .missing => if makes then "Directory nonexistent" else "No such file"
  | .notDirectory => if makes then "Directory nonexistent" else "No such file"
  | f => f.message

def openFile (path : Str) (a : Files.Access) : Act Nat := do
  match ← Act.ask (Process.openPath path a) with
  | .ok fd => return fd
  | .error f =>
    let verb := if a.creates then "create " else "open "
    Act.abort (Str.ofString ("cannot " ++ verb) ++ path ++ Str.ofString (": " ++ reason f a.creates))

/-- Opens a file to be written over, unless it is to be spared. -/
def openOutput (path : Str) : Act Nat := do
  let st ← Act.get
  if !st.has 'C' then openFile path .write
  else do
    let v ← Act.view
    match v.files.find v.here path true with
    | .error _ => openFile path { writes := true, creates := true, exclusive := true }
    | .ok id =>
      if (v.files.bytes? id).isSome then
        Act.abort ("cannot create ".toList ++ path ++ ": File exists".toList)
      else openFile path { writes := true }

/-- A descriptor from which a text can be read. -/
def openText (s : Str) : Act Nat := do
  let (r, w) ← Act.ask Process.pipe
  if s.length ≤ Machine.Pipe.room then do
    if !s.isEmpty then
      let _ ← Act.ask (Process.write w (Str.toBytes s))
  else do
    let _ ← Act.ask (Process.fork fun _ =>
      .close r fun _ => .write w (Str.toBytes s) fun _ => .exit 0)
  let _ ← Act.ask (Process.close w)
  return r

/-- Opens what a redirection leads to; none if it leads nowhere. -/
def open_ (o : Services) (op : RedirectOp) : Target → Act (Option Nat)
  | .descriptor n => return n
  | .text w => do
    let s := Piece.text (← o.expand false w)
    return some (← openText s)
  | .path path => do
    let fd ← match op with
      | .input => openFile path .read
      | .both => openFile path { reads := true, writes := true, creates := true }
      | .append => openFile path .append
      | .clobber => openFile path .write
      | _ => openOutput path
    return some fd

/-- Keeps what a descriptor leads to. -/
def keep (fd : Nat) : Act (Option Nat) := do
  match ← Act.ask (Process.copy fd ownDescriptors) with
  | .ok n => do
    let _ ← Act.ask (Process.close fd)
    return some n
  | .error _ => return none

/-- Points a descriptor to what was opened. -/
def point (fd : Nat) (isCopy : Bool) (new : Option Nat) : Act Unit := do
  match new with
  | none => do
    let _ ← Act.ask (Process.close fd)
    return ()
  | some n => do
    let r ← Act.ask (Process.copyTo n fd)
    if !isCopy then
      let _ ← Act.ask (Process.close n)
    match r with
    | .ok _ => return ()
    | .error f => Act.abort (Str.decimal n ++ Str.ofString (": " ++ f.message))

/-- Does redirections in order.  The result holds what the descriptors were before, unless nobody wants
to know, and how the work was broken off, if it was. -/
def apply (o : Services) (keeps : Bool) :
    List (Nat × RedirectOp × Target) → Saved → Act (Saved × Option Flow)
  | [], saved => return (saved, none)
  | (fd, op, t) :: rest, saved => do
    match ← Act.attempt (open_ o op t) with
    | .error f => return (saved, some f)
    | .ok new => do
      let isCopy := match t with
        | .descriptor _ => true
        | _ => false
      if isCopy && new == some fd then apply o keeps rest saved
      else do
        let saved ← if keeps && saved.all (·.1 != fd) then do
            let before ← if new = some fd then pure none else keep fd
            pure ((fd, before) :: saved)
          else pure saved
        if new = some fd then apply o keeps rest saved
        else
          match ← Act.attempt (point fd isCopy new) with
          | .error f => return (saved, some f)
          | .ok _ => apply o keeps rest saved

/-- Puts descriptors back, or forgets only what they were before. -/
def restore (forgets : Bool) (saved : Saved) : Act Unit :=
  saved.forM fun (fd, before) => do
    match before with
    | none => if !forgets then
        let _ ← Act.ask (Process.close fd)
    | some n => do
      if !forgets then
        let _ ← Act.ask (Process.copyTo n fd)
      let _ ← Act.ask (Process.close n)

/-- The status of a redirection that cannot be done; other reasons to break off stay what they are. -/
def refused (f : Flow) : Act Nat :=
  match f with
  | .aborted _ => return Act.faultStatus
  | f => Act.stop f

/-- Does something with redirections, which end with it. -/
def within (o : Services) (rs : List Redirect) (work : Act Nat) : Act Nat := do
  let ts ← targets o rs
  let (saved, fault) ← apply o true ts []
  Act.finally_ (match fault with
    | some f => refused f
    | none => work) (restore false saved)

end Transcripts.Shell.Redirection
