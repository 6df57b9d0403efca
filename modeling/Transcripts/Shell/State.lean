import Transcripts.Process
import Transcripts.Shell.Syntax

/-!
# Shells

What a shell knows while it runs: variables, functions, options, what it does about signals, and the jobs
that it has started.
-/
namespace Transcripts.Shell

structure Variable where
  value : Option Str
  exported : Bool := false
  readonly : Bool := false
deriving Repr, DecidableEq

/-- How a job is. -/
inductive JobState where
  | running | stopped | done
deriving Repr, DecidableEq

/-- A process of a job: its number, what has become of it, and its command as text. -/
structure Member where
  pid : Nat
  change : Option Process.Change := none
  text : Str := []
deriving Repr, DecidableEq

/-- Processes that were started together. -/
structure Job where
  number : Nat
  members : List Member := []
  state : JobState := .running
  /-- The signal that has stopped it. -/
  stop : Option Signal := none
  /-- Whether it has a group of its own. -/
  grouped : Bool := false
  /-- Whether its state has changed since it was told. -/
  changed : Bool := false
  /-- Whether somebody has asked how it ended. -/
  waited : Bool := false
  /-- Whether an interrupt has ended it. -/
  interrupted : Bool := false
deriving Repr, DecidableEq

/-- A shell while it runs. -/
structure State where
  vars : List (Str × Variable) := []
  functions : List (Str × Nat × Command) := []
  aliases : List (Str × Str) := []
  /-- The name of the shell or of its script. -/
  name : Str := "sh".toList
  args : List Str := []
  status : Nat := 0
  /-- The working directory, as it was reached. -/
  directory : Str := ['/']
  /-- The letters of the options that are on. -/
  options : List Char := []
  /-- What is done when a signal comes, by its number; zero is the end of the shell. -/
  traps : List (Nat × Str) := []
  /-- Signals that were ignored when the shell was started. -/
  deaf : List Nat := []
  /-- The line of the current command. -/
  line : Nat := 1
  /-- The line that the current function starts in. -/
  functionLine : Nat := 0
  /-- The builtin command that is run. -/
  command : Option Str := none
  loops : Nat := 0
  calls : Nat := 0
  /-- The number of the shell that was started first. -/
  pid : Nat := 0
  /-- Whether this is a copy of that shell. -/
  isCopy : Bool := false
  jobs : List Job := []
  /-- The group that had the terminal before this shell gave it to its jobs. -/
  control : Option Nat := none
  background : Option Nat := none
  /-- Programs that were found, with their paths. -/
  found : List (Str × Str) := []
  /-- How the last command in a word ended. -/
  substituted : Nat := 0
  /-- What local variables stand for outside the functions that are run. -/
  hidden : List (List (Str × Option Variable)) := []
  /-- The next argument that is looked at for options, and how many of its letters were taken. -/
  optionIndex : Nat := 1
  optionPlace : Nat := 0
  /-- Whether the text in front of a shown command is made. -/
  tracing : Bool := false
  /-- How often somebody was told of stopped jobs. -/
  warnings : Nat := 0
  /-- What the builtin command that is run has written, last piece first. -/
  output : List Str := []
  /-- Signals that came and were not met. -/
  signals : List Signal := []
  /-- The status before the signal that is being met. -/
  before : Option Nat := none

/-- Why a command comes to no end of its own. -/
inductive Flow where
  /-- Leaves some loops. -/
  | leave (loops : Nat)
  /-- Goes on with the next round of some loop. -/
  | again (loops : Nat)
  | returned (status : Nat)
  | exited (status : Nat)
  /-- A fault that ends a shell without prompts. -/
  | aborted (status : Nat)
  | interrupted
deriving Repr, DecidableEq

namespace State

/-! ## Options -/

def has (st : State) (option : Char) : Bool := st.options.contains option

def isInteractive (st : State) : Bool := st.has 'i'

/-- Whether jobs have groups of their own. -/
def controlsJobs (st : State) : Bool := st.control.isSome && !st.isCopy

def setOption (st : State) (option : Char) (on : Bool) : State :=
  let others := st.options.filter (· != option)
  { st with options := if on then others ++ [option] else others }

/-! ## Variables -/

def entry? (st : State) (name : Str) : Option Variable := st.vars.lookup name

def value? (st : State) (name : Str) : Option Str := (st.entry? name).bind (·.value)

/-- Changes a variable, in its place if it is there. -/
def update (name : Str) (f : Option Variable → Variable) :
    List (Str × Variable) → List (Str × Variable)
  | [] => [(name, f none)]
  | (k, v) :: rest => if k = name then (k, f (some v)) :: rest else (k, v) :: update name f rest

def assign (st : State) (name value : Str) : State :=
  let exports := st.has 'a'
  { st with
    vars := update name (fun
      | some v => { v with value := some value, exported := v.exported || exports }
      | none => ⟨some value, exports, false⟩) st.vars
    found := if name = "PATH".toList then [] else st.found
    optionIndex := if name = "OPTIND".toList then (Str.nat? value).getD 1 else st.optionIndex
    optionPlace := if name = "OPTIND".toList then 0 else st.optionPlace }

def share (st : State) (name : Str) : State :=
  { st with vars := update name (fun
      | some v => { v with exported := true }
      | none => ⟨none, true, false⟩) st.vars }

def protect (st : State) (name : Str) : State :=
  { st with vars := update name (fun
      | some v => { v with readonly := true }
      | none => ⟨none, false, true⟩) st.vars }

def unset (st : State) (name : Str) : State := { st with vars := st.vars.filter (·.1 != name) }

/-- The place of a name among so many: what is listed without an order of its own is listed by it. -/
def bucket (name : Str) : Nat :=
  (name.foldl (fun n c => n + c.toNat) ((name.head?.map Char.toNat).getD 0 * 16)) % 39

/-- Names with something, by their places. -/
def byPlace {α : Type} (entries : List (Str × α)) : List (Str × α) :=
  entries.mergeSort fun a b => bucket a.1 ≤ bucket b.1

/-- Programs that were found are listed by other places. -/
def hashPlace (name : Str) : Nat :=
  (name.foldl (fun n c => n + c.toNat) ((name.head?.map Char.toNat).getD 0 * 16)) % 0x8000 % 31

def byHash {α : Type} (entries : List (Str × α)) : List (Str × α) :=
  entries.mergeSort fun a b => hashPlace a.1 ≤ hashPlace b.1

/-- The variables that programs are given. -/
def environment (st : State) : Variables :=
  (byPlace st.vars).filterMap fun (k, v) => if v.exported then v.value.map (k, ·) else none

/-- The characters that separate fields. -/
def separators (st : State) : Str := (st.value? "IFS".toList).getD [' ', '\t', '\n']

/-! ## Signals -/

/-- What is done when a signal comes. -/
def trap? (st : State) (n : Nat) : Option Str := st.traps.lookup n

/-! ## Jobs -/

def job? (st : State) (number : Nat) : Option Job := st.jobs.find? (·.number == number)

def updateJob (st : State) (number : Nat) (f : Job → Job) : State :=
  { st with jobs := st.jobs.map fun j => if j.number = number then f j else j }

def removeJob (st : State) (number : Nat) : State :=
  { st with jobs := st.jobs.filter (·.number != number) }

/-- Puts a job behind those that are stopped. -/
def placeRunning (j : Job) : List Job → List Job
  | [] => [j]
  | k :: rest => if k.state = .stopped then k :: placeRunning j rest else j :: k :: rest

end State

end Transcripts.Shell
