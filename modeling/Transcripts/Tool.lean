import Transcripts.Process
import Transcripts.Tool.Options

/-!
# Tools

Programs that read, write and end.  What a tool writes is held until a line is complete if somebody
watches, and until there is enough of it otherwise.
-/
namespace Transcripts

open Transcripts.Text (Bytes)
open Transcripts.Process (View Lead)

namespace Tool

/-- A tool while it works. -/
structure Desk where
  /-- The name that it reports by. -/
  name : String
  args : List Str
  env : Variables
  /-- What is still to be written, last piece first. -/
  held : List Str := []
  size : Nat := 0
  /-- Whether each line is written as soon as it is complete. -/
  byLine : Bool := false
  /-- Why something could not be written. -/
  fault : Option SystemFault := none
  status : Nat := 0
  /-- The status of a failure to write. -/
  failure : Nat := 1

end Tool

/-- Work with a result. -/
def Tool (α : Type) : Type := Tool.Desk → (α → Tool.Desk → Process) → Process

namespace Tool

instance : Monad Tool where
  pure a := fun d k => k a d
  bind x f := fun d k => x d fun a d => f a d k

/-- Asks the system for something. -/
def ask {α : Type} (f : (α → Process) → Process) : Tool α := fun d k => f fun a => k a d

def desk : Tool Desk := fun d k => k d d

def modify (f : Desk → Desk) : Tool Unit := fun d k => k () (f d)

def view : Tool View := ask Process.look

/-- More rounds than any work takes. -/
def rounds : Nat := 1000000000

/-! ## Writing -/

/-- Writes what is held. -/
def flush : Tool Unit := fun d k =>
  if d.held.isEmpty then k () d
  else
    .write 1 (Str.toBytes d.held.reverse.flatten) fun r =>
      k () { d with
        held := [], size := 0
        fault := match r with
          | .ok _ => d.fault
          | .error f => d.fault <|> some f }

/-- So many bytes are held at most. -/
def heldLimit : Nat := 4096

/-- Writes a text. -/
def put (s : Str) : Tool Unit := fun d k =>
  if s.isEmpty then k () d
  else
    let d := { d with held := s :: d.held, size := d.size + s.length }
    if (d.byLine && s.contains '\n') || heldLimit ≤ d.size then flush d k else k () d

def putLine (s : Str) : Tool Unit := put (s ++ ['\n'])

/-- Writes a text at once. -/
def putNow (s : Str) : Tool Unit := do
  put s
  flush

/-- Writes to another descriptor than that of the output. -/
def putTo (fd : Nat) (s : Str) : Tool (Except SystemFault Unit) :=
  ask (Process.write fd (Str.toBytes s))

/-- Says something about the work, behind all that was written. -/
def say (s : Str) : Tool Unit := do
  flush
  let _ ← putTo 2 (s ++ ['\n'])
  return ()

/-- Says something by the tool's name. -/
def warn (message : Str) : Tool Unit := do
  let d ← desk
  say (Str.ofString d.name ++ ": ".toList ++ message)

/-- Notes a status that is kept unless a later one is higher. -/
def note (status : Nat) : Tool Unit := modify fun d => { d with status := max d.status status }

/-- Says that something failed. -/
def fail (message : Str) : Tool Unit := do
  warn message
  let d ← desk
  note d.failure

/-- Ends the work. -/
def quit {α : Type} (status : Nat) : Tool α := fun d _ =>
  flush d fun _ d =>
    match d.fault with
    | none => .exit status
    | some f =>
      .write 2 (Str.toBytes (Str.ofString (d.name ++ ": write error: " ++ f.message ++ "\n"))) fun _ =>
        .exit d.failure

/-- Ends the work after a message. -/
def die {α : Type} (status : Nat) (message : Str) : Tool α := do
  warn message
  quit status

/-- Whether a byte cannot be shown as it is. -/
def isOdd (c : Char) : Bool := c < ' ' || '\x7f' ≤ c

/-- The escape of a byte behind a backslash. -/
def escape (c : Char) : Str :=
  match ([('\x07', 'a'), ('\x08', 'b'), ('\t', 't'), ('\n', 'n'), ('\x0b', 'v'), ('\x0c', 'f'),
      ('\r', 'r')] : List (Char × Char)).lookup c with
  | some e => ['\\', e]
  | none => '\\' :: Str.padStart 3 '0' (Nat.toDigits 8 c.toNat)

/-- Text between single quotes, with what cannot stand there in between. -/
def betweenQuotes (escaping : Bool) : Str → Str
  | [] => ['\'']
  | c :: cs =>
    if c = '\'' then "'\\''".toList ++ betweenQuotes false cs
    else if isOdd c then (if escaping then [] else "'$'".toList) ++ escape c ++ betweenQuotes true cs
    else (if escaping then "''".toList else []) ++ c :: betweenQuotes false cs

/-- Whether a character means the same between double quotes as between single ones. -/
def isTame (c : Char) : Bool :=
  c.isAlphanum || " '%+,-./:]_@".toList.contains c

/-- A name between quotes, in a way that a shell would read. -/
def quoted (s : Str) : Str :=
  let rest := if s.head? = some '#' ∨ s.head? = some '~' then s.drop 1 else s
  if s.contains '\'' && rest.all isTame then '"' :: s ++ ['"'] else '\'' :: betweenQuotes false s

/-- A word between quotes. -/
def marked (s : Str) : Str :=
  '\'' :: s.flatMap (fun c =>
    if c = '\'' ∨ c = '\\' then ['\\', c] else if isOdd c then escape c else [c]) ++ ['\'']

/-- What is said about a file that something cannot be done with. -/
def faultOf (what : String) (path : Str) (f : SystemFault) : Str :=
  Str.ofString what ++ quoted path ++ Str.ofString (": " ++ f.message)

/-- The characters that mean something to a shell wherever they stand. -/
def special : Str := " !\"$&()*;<=>[^\x60|'\\?".toList

/-- A name, between quotes only if a shell would not read it otherwise. -/
def nameOf (s : Str) : Str :=
  let bad := s.isEmpty || s.any (fun c => isOdd c || special.contains c) || s.head? = some '#'
    || s.head? = some '~' || s = ['\x7b'] || s = ['\x7d']
  if bad then quoted s else s

/-- A path in front of a message, between quotes only if it needs them. -/
def labelled (path : Str) : Str := if path.contains ':' then quoted path else nameOf path

/-- Says why something failed at a path. -/
def failAt (path : Str) (f : SystemFault) : Tool Unit :=
  fail (labelled path ++ Str.ofString (": " ++ f.message))

/-- Says that something could not be done with a path, and why. -/
def cannot (what : String) (path : Str) (f : SystemFault) : Tool Unit :=
  fail (faultOf ("cannot " ++ what ++ " ") path f)

/-! ## Options -/

/-- How to learn more about a tool. -/
def hint (name : String) : Str := Str.ofString ("Try '" ++ name ++ " --help' for more information.")

/-- Ends the work that nobody asked for in this way. -/
def misuse {α : Type} (status : Nat) (message : String) : Tool α := do
  let d ← desk
  warn (Str.ofString message)
  say (hint d.name)
  quit status

/-- Options that every tool has. -/
def everywhere : List OptionForm := [.long "help" .nothing, .long "version" .nothing]

/-- The options and operands that a tool is called with. -/
def words (forms : List OptionForm) (mixed : Bool) (status : Nat) (args : List Str) : Tool Words := do
  match Words.ofArgs (forms ++ everywhere) mixed args with
  | .ok w => if w.has "help" || w.has "version" then quit 0 else return w
  | .error f => misuse status f.message

/-! ## Reading -/

/-- How much is read at once. -/
def blockSize : Nat := 65536

/-- Reads what is there, but at most so much; nothing at the end. -/
def readUpTo (fd count : Nat) : Tool (Except SystemFault Str) :=
  ask fun k => .read fd count fun r => k (r.map Str.ofBytes)

/-- Reads what is there; nothing at the end. -/
def readSome (fd : Nat) : Tool (Except SystemFault Str) := readUpTo fd blockSize

/-- Reads everything; what was read so far comes last piece first. -/
def readRest (fd : Nat) : Nat → List Str → Tool (Except SystemFault Str)
  | 0, read => return .ok read.reverse.flatten
  | fuel + 1, read => do
    match ← readSome fd with
    | .error f => return .error f
    | .ok [] => return .ok read.reverse.flatten
    | .ok s => readRest fd fuel (s :: read)

def readAll (fd : Nat) : Tool (Except SystemFault Str) := readRest fd rounds []

def openRead (path : Str) : Tool (Except SystemFault Nat) :=
  ask (Process.openPath path .read)

def close (fd : Nat) : Tool Unit := do
  let _ ← ask (Process.close fd)
  return ()

/-- Gives back what was read too much, where that can be done. -/
def unread (fd count : Nat) : Tool Unit := do
  if count = 0 then return ()
  else
    match ← ask (Process.tell fd) with
    | .error _ => return ()
    | .ok place => do
      let _ ← ask (Process.seek fd (place - count))
      return ()

/-- Opens what a path leads to, or the input for a dash; gives the descriptor and what to call it. -/
def openOr (path : Str) (f : SystemFault → Tool Unit) : Tool (Option Nat) := do
  if path = ['-'] then return some 0
  else
    match ← openRead path with
    | .ok fd => return some fd
    | .error e => do
      f e
      return none

/-- What an input is called: the path, or other words for a dash. -/
def titleOf (path : Str) : Str := if path = ['-'] then "standard input".toList else path

/-- Ends the use of what a path was opened by. -/
def release (path : Str) (fd : Nat) : Tool Unit := if path = ['-'] then return () else close fd

/-- Hands on some pieces until no more are wanted. -/
def foldSome {σ : Type} (f : σ → Str → Tool (σ × Bool)) : List Str → σ → Tool (σ × Bool)
  | [], s => return (s, true)
  | p :: ps, s => do
    let (s, more) ← f s p
    if more then foldSome f ps s else return (s, false)

/-- Hands on pieces of the input with a state, as long as they are wanted; `rest` is the open piece. -/
def foldPiecesFrom {σ : Type} (fd : Nat) (mark : Char) (f : σ → Str → Tool (σ × Bool)) :
    Nat → Str → σ → Tool (Except SystemFault Unit × σ)
  | 0, _, s => return (.ok (), s)
  | fuel + 1, rest, s => do
    match ← readSome fd with
    | .error e => return (.error e, s)
    | .ok [] => do
      if rest.isEmpty then return (.ok (), s)
      else
        let (s, _) ← f s rest
        return (.ok (), s)
    | .ok text => do
      let ps := Str.pieces mark (rest ++ text)
      let (whole, open_) := if (ps.getLast?.bind List.getLast?) = some mark then (ps, [])
        else (ps.dropLast, ps.getLast?.getD [])
      let (s, more) ← foldSome f whole s
      if more then foldPiecesFrom fd mark f fuel open_ s else return (.ok (), s)

/-- Hands on the pieces of the input, each with the mark that ends it, and a state. -/
def foldPieces {σ : Type} (fd : Nat) (mark : Char) (f : σ → Str → Tool (σ × Bool)) (s : σ) :
    Tool (Except SystemFault Unit × σ) :=
  foldPiecesFrom fd mark f rounds [] s

/-- Hands on the pieces of the input, each with the mark that ends it. -/
def eachPiece (fd : Nat) (mark : Char) (f : Str → Tool Bool) : Tool (Except SystemFault Unit) := do
  let (r, _) ← foldPieces fd mark (fun (_ : Unit) p => do
    let more ← f p
    return ((), more)) ()
  return r

/-- Does something with what each path leads to; what cannot be read is told of. -/
def eachFile (paths : List Str) (f : Str → Nat → Tool (Except SystemFault Unit)) : Tool Unit :=
  (if paths.isEmpty then [['-']] else paths).forM fun path => do
    let failed (e : SystemFault) : Tool Unit := failAt path e
    match ← openOr path failed with
    | none => return ()
    | some fd => do
      match ← f path fd with
      | .ok _ => release path fd
      | .error e => do
        failed e
        release path fd

/-- All that the paths lead to, one behind the other. -/
def contents (paths : List Str) : Tool Str := do
  let paths := if paths.isEmpty then [['-']] else paths
  paths.foldlM (fun text path => do
    let failed (e : SystemFault) : Tool Unit := failAt path e
    match ← openOr path failed with
    | none => return text
    | some fd => do
      match ← readAll fd with
      | .ok s => do
        release path fd
        return text ++ s
      | .error e => do
        failed e
        release path fd
        return text) []

/-! ## Starting -/

/-- The process of a tool, which reports by the name that it is called by. -/
def toProcess (failure : Nat) (work : List Str → Tool Unit) (args : List Str) (env : Variables) :
    Process :=
  .look fun v =>
    work (args.drop 1)
      { name := Str.toString (args.headD []), args, env, byLine := v.isTerminal 1, failure } fun _ d =>
      quit (α := Unit) d.status d fun _ _ => .exit d.status

end Tool

end Transcripts
