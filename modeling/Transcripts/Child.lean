import Transcripts.Machine.Run
import Transcripts.Programs
import Transcripts.Session
import Transcripts.Text.Lines

/-!
# Child processes

A program that is started on a terminal, with the files that it finds there: first looked for, then run
by a machine of its own.
-/
namespace Transcripts

open Transcripts.Text (Bytes)

/-- A program that was started, as a machine in which nothing has happened yet. -/
structure Child where
  machine : Machine

namespace Child

/-! ## Looking for programs -/

/-- Whether something at a path may be run. -/
def isRunnable (files : Files) (here : Nat) (path : Str) : Bool :=
  match files.find here path true with
  | .ok id => files.isDir id || files.isRunnable id
  | .error _ => false

/-- A path followed from another one. -/
def join (base path : Str) : Str := Str.ofString (Text.joinPath (Str.toString base) (Str.toString path))

/-- Where a program is: at its path from the working directory if there is anything, and otherwise in one
of the directories that an environment names, taken from the directory `here`. -/
def find (files : Files) (here dir : Nat) (env : Environment) (name : Str) : Option Str :=
  if name.head? = some '/' then
    if isRunnable files dir name then some name else none
  else
    match files.find dir name true with
    | .ok _ => some (join (files.pathOf dir) name)
    | .error _ => do
      let search ← env.get? "PATH"
      (Text.splitOnChar ':' (Str.ofString search)).findSome? fun place =>
        let path := if place.isEmpty then name else join place name
        if isRunnable files here path then some path else none

/-! ## Starting -/

/-- The shell that an environment is completed with. -/
def usualShell : String := "/bin/sh"

/-- What is shown when a program was found and cannot be run. -/
def cannotRun : String :=
  "fatal runtime error: assertion failed: output.write(&bytes).is_ok(), aborting\n"

/-- The exit code of a program that a signal ended. -/
def signalCode : Nat := 1

/-- The number of the process that is started. -/
def leader : Nat := 1000

/-- A machine with one process that has a terminal. -/
def machineOf (files : Files) (dir : Nat) (code : Process) : Machine :=
  let terminal : Machine.OpenFile := ⟨.terminal, { reads := true, writes := true }, 0⟩
  { now := Machine.latency, files, foreground := leader, leader, next := leader + 1, opened := [(0, terminal)]
    processes := [
      { pid := leader, parent := 0, group := leader, code, here := dir
        descriptors := [0, 1, 2].map fun fd => (fd, { file := 0 }) }] }

/-- Variables in the order of their names. -/
def inOrder (env : Environment) : Variables :=
  (env.map fun (k, v) => (Str.ofString k, Str.ofString v)).mergeSort fun a b => !(b.1 < a.1)

/-- Whether a text can be handed to a program. -/
def isPlain (s : String) : Bool := !s.toList.contains '\x00'

/-- Starts the program that some words name, in the directory that `dir` leads to from `here` (`PtyChannel.spawn`). -/
def start (files : Files) (here dir : String) (env : Environment) (argv : List String) :
    Except SpawnFault Child :=
  match argv, files.find Files.root (Str.ofString here) true,
      files.find Files.root (Str.ofString (Text.joinPath here dir)) true with
  | [], _, _ => .error .emptyCommand
  | name :: _, .ok here, .ok place =>
    if dir.isEmpty || !files.isDir place then .error (.noDirectory dir)
    else
      match find files here place env (Str.ofString name) with
      | none => .error .notStarted
      | some path =>
        if !(argv.all isPlain && env.all fun (k, v) => isPlain k && isPlain v) then .error .notStarted
        else
          let env := if (env.get? "SHELL").isSome then env else env.set "SHELL" usualShell
          .ok ⟨machineOf files place (.run path (argv.map Str.ofString) (inOrder env) fun _ =>
            .write 2 (Text.bytes cannotRun) fun _ => .exit signalCode)⟩
  | _, _, _ => .error (.noDirectory dir)

/-- The exit code that an ending is known by. -/
def exitCode : Process.Ending → Nat
  | .exited n => n
  | .killed _ => signalCode

end Child

end Transcripts
