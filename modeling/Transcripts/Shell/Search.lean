import Transcripts.Shell.Reader
import Transcripts.Shell.State

/-!
# What commands are called

A name stands for a function, for a builtin command, or for a program in one of the directories that are
searched.
-/
namespace Transcripts.Shell.Search

open Transcripts.Process (View)

/-- Builtin commands whose faults end a shell without prompts, and whose assignments last. -/
def special : List String := "local" :: reservedNames

/-- Builtin commands that take assignments as operands. -/
def declaring : List String := ["export", "readonly", "local"]

/-- All other builtin commands. -/
def usual : List String :=
  ["[", "alias", "bg", "cd", "chdir", "command", "echo", "false", "fg", "getopts", "hash", "jobs", "kill",
    "printf", "pwd", "read", "test", "true", "type", "ulimit", "umask", "unalias", "wait"]

def isSpecial (name : Str) : Bool := special.contains (String.ofList name)

def isBuiltin (name : Str) : Bool := isSpecial name || usual.contains (String.ofList name)

/-- Where programs are searched if nothing else is said. -/
def usualPath : String := "/usr/local/sbin:/usr/local/bin:/usr/sbin:/usr/bin:/sbin:/bin"

/-- The directories that are searched. -/
def path (st : State) : Str := (st.value? "PATH".toList).getD []

/-- The paths that a program can have. -/
def candidates (path name : Str) : List Str :=
  (Text.splitOnChar ':' path).map fun dir => if dir.isEmpty then name else dir ++ '/' :: name

/-- Whether a path leads to something that can be run. -/
def isProgram (v : View) (path : Str) : Except SystemFault Bool := do
  let id ← v.files.find v.here path true
  match v.files.content? id with
  | some (.file _) => return v.files.isRunnable id
  | some (.program _) => return true
  | _ => return false

/-- The first of some paths that leads to a program, or why none does. -/
def firstProgram (v : View) (fault : SystemFault) : List Str → Except SystemFault Str
  | [] => .error fault
  | p :: rest =>
    match isProgram v p with
    | .ok true => .ok p
    | .ok false => firstProgram v .denied rest
    | .error .missing => firstProgram v fault rest
    | .error .notDirectory => firstProgram v fault rest
    | .error f => firstProgram v f rest

/-- The path of a program, or why there is none. -/
def find (v : View) (path name : Str) : Except SystemFault Str :=
  firstProgram v .missing (candidates path name)

/-- Why something cannot be run, in words. -/
def reason : SystemFault → String
  | .missing => "not found"
  | .notDirectory => "not found"
  | f => f.message

/-- The status of something that cannot be run. -/
def status : SystemFault → Nat
  | .missing => 127
  | .notDirectory => 127
  | .linkLoop => 127
  | .nameTooLong => 127
  | _ => 126

/-! ## Command words -/

/-- What a command's words ask for. -/
structure Call where
  /-- The words from the command's name on. -/
  words : List Str
  /-- Functions do not count. -/
  plain : Bool := false
  /-- Programs are searched in the usual directories. -/
  usualPath : Bool := false
deriving Repr, DecidableEq

/-- The words behind the options of the command that runs others; none if it says only what they are. -/
def plainOptions : Nat → List Str → Option (Bool × List Str)
  | 0, _ => none
  | _, [] => none
  | fuel + 1, w :: rest =>
    match w with
    | ['-', '-'] => if rest.isEmpty then none else some (false, rest)
    | '-' :: c :: cs =>
      if (c :: cs).all (· == 'p') then (plainOptions fuel rest).map fun (_, ws) => (true, ws) else none
    | _ => some (false, w :: rest)

/-- Takes the command that runs others away. -/
def resolve (st : State) : Nat → Call → Call
  | 0, c => c
  | fuel + 1, c =>
    match c.words with
    | name :: rest =>
      if name = "command".toList ∧ (c.plain ∨ (st.functions.lookup name).isNone) then
        match plainOptions (rest.length + 1) rest with
        | some (usual, words) =>
          resolve st fuel { words, plain := true, usualPath := c.usualPath || usual }
        | none => c
      else c
    | [] => c

/-- What the words of a command ask for. -/
def call (st : State) (words : List Str) : Call := resolve st (words.length + 1) { words }

/-- The function that is called. -/
def Call.function? (c : Call) (st : State) : Option (Nat × Command) :=
  if c.plain then none else c.words.head?.bind fun name => st.functions.lookup name

/-- Whether a command takes assignments as operands. -/
def Call.declares (c : Call) (st : State) : Bool :=
  (c.function? st).isNone && (match c.words with
    | name :: _ => declaring.contains (String.ofList name)
    | [] => false)

/-! ## Descriptions -/

/-- What is said of a name, in short or at length, where programs are searched on some path. -/
def describe (st : State) (v : View) (path name : Str) (long : Bool) : Option Str :=
  let say (s : String) : Option Str := some (if long then name ++ s.toList else name)
  if keywords.contains (String.ofList name) then say " is a shell keyword"
  else
    match st.aliases.lookup name with
    | some value =>
      some (if long then name ++ " is an alias for ".toList ++ value
        else "alias ".toList ++ name ++ "='".toList ++ value ++ ['\''])
    | none =>
      if (st.functions.lookup name).isSome then say " is a shell function"
      else if isBuiltin name then
        say (if isSpecial name then " is a special shell builtin" else " is a shell builtin")
      else if name.contains '/' then
        if (v.files.find v.here name true).isOk then
          some (if long then name ++ " is ".toList ++ name else name)
        else none
      else
        match find v path name with
        | .ok p =>
          let tracked := if (st.found.lookup name).isSome then " is a tracked alias for " else " is "
          some (if long then name ++ tracked.toList ++ p else p)
        | .error _ => none

end Transcripts.Shell.Search
