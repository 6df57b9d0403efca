import Transcripts.Shell.State

/-!
# Actions of a shell

An action changes the state of a shell, asks the system for something and has a result, or it is broken
off: by a jump out of loops, by a fault, or by the end of the shell.
-/
namespace Transcripts.Shell

open Transcripts.Process (View Provision)

/-- An action with a result. -/
def Act (α : Type) : Type :=
  State → (α → State → Process) → (Flow → State → Process) → Process

namespace Act

instance : Monad Act where
  pure a := fun st k _ => k a st
  bind x f := fun st k h => x st (fun a st => f a st k h) h

def stop {α : Type} (f : Flow) : Act α := fun st _ h => h f st

def get : Act State := fun st k _ => k st st

def set (st : State) : Act Unit := fun _ k _ => k () st

def modify (f : State → State) : Act Unit := fun st k _ => k () (f st)

/-- Asks the system for something. -/
def ask {α : Type} (f : (α → Process) → Process) : Act α := fun st k _ => f fun a => k a st

/-- Runs an action and tells how it was broken off, if it was. -/
def attempt {α : Type} (x : Act α) : Act (Except Flow α) := fun st k _ =>
  x st (fun a st => k (.ok a) st) (fun f st => k (.error f) st)

/-- Runs an action and does something else afterwards in any case. -/
def finally_ {α : Type} (x : Act α) (after : Act Unit) : Act α := fun st k h =>
  x st (fun a st => after st (fun _ st => k a st) h) (fun f st => after st (fun _ st => h f st) h)

/-- More rounds than any action has. -/
def rounds : Nat := 1000000000

def view : Act View := ask Process.look

/-- Lets others have their turn. -/
def pause : Act Unit := ask Process.pause

/-! ## Output -/

/-- Writes to a descriptor. -/
def writeTo (fd : Nat) (s : Str) : Act (Except SystemFault Unit) :=
  if s.isEmpty then pure (.ok ()) else ask (Process.write fd (Str.toBytes s))

/-- The words in front of a message: the name of the shell, the line and the command. -/
def heading (st : State) : Str :=
  st.name ++ ": ".toList ++ Str.decimal st.line ++ ": ".toList ++ (match st.command with
    | some name => name ++ ": ".toList
    | none => [])

/-- Reports a fault. -/
def complain (message : Str) : Act Unit := do
  let st ← get
  let _ ← writeTo 2 (heading st ++ message ++ ['\n'])
  return ()

/-- The status of a fault. -/
def faultStatus : Nat := 2

/-- Reports a fault and breaks off. -/
def abort {α : Type} (message : Str) : Act α := do
  complain message
  stop (.aborted faultStatus)

/-- Writes the output of a builtin command, which is kept until the command ends. -/
def write (s : Str) : Act Unit := modify fun st => { st with output := s :: st.output }

/-- Writes what was kept, and tells whether that could be done. -/
def flush : Act Bool := do
  let st ← get
  set { st with output := [] }
  match ← writeTo 1 st.output.reverse.flatten with
  | .ok _ => return true
  | .error _ => return false

/-- Starts a copy of the shell. -/
def fork (child : Act Unit) : Act Nat := fun st k _ =>
  .fork (fun _ => child st (fun _ st => .exit st.status) (fun _ st => .exit st.status)) fun pid => k pid st

end Act

end Transcripts.Shell
