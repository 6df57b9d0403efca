import Transcripts.Files
import Transcripts.Terminal

/-!
# Processes

A process is what it asks of the system next, and what it becomes with the answer.  Its own work between
two requests takes no time.
-/
namespace Transcripts

open Transcripts.Text (Bytes)

/-- Variables that a program is given. -/
abbrev Variables := List (Str × Str)

namespace Process

/-- How a process ended. -/
inductive Ending where
  | exited (status : Nat)
  | killed (s : Signal)
deriving Repr, DecidableEq

/-- What has become of a child. -/
inductive Change where
  | ended (how : Ending)
  | stopped (s : Signal)
  | continued
deriving Repr, DecidableEq

/-- The provision for a signal. -/
inductive Provision where
  | none_ | ignored
  /-- The process is told of it. -/
  | caught
deriving Repr, DecidableEq

/-- What a descriptor leads to, as far as the process can tell. -/
inductive Lead where
  | terminal | pipe
  | node (id : Nat)
deriving Repr, DecidableEq

/-- What a process can see of the system. -/
structure View where
  now : Nat
  files : Files
  terminal : Terminal
  /-- The group that the terminal belongs to. -/
  foreground : Nat
  pid : Nat
  parent : Nat
  group : Nat
  /-- The working directory. -/
  here : Nat
  /-- The rights that new files do not get. -/
  mask : Nat
  descriptors : List (Nat × Lead)
  provisions : List (Signal × Provision)

namespace View

def lead? (v : View) (fd : Nat) : Option Lead := v.descriptors.lookup fd

def isTerminal (v : View) (fd : Nat) : Bool := v.lead? fd == some .terminal

end View

/-- Whom a signal is sent to. -/
inductive Target where
  | process (pid : Nat)
  | group (id : Nat)
  | ownGroup
deriving Repr, DecidableEq

/-- What a wait for children is about. -/
structure Waiting where
  /-- One child, or any. -/
  pid : Option Nat := none
  /-- The wait lasts until something has happened. -/
  blocks : Bool := true
  /-- Children that are stopped count too. -/
  stops : Bool := false
  /-- When the wait is given up. -/
  deadline : Option Nat := none
deriving Repr, DecidableEq

end Process

open Process in
inductive Process where
  | exit (status : Nat)
  /-- Lets others have their turn. -/
  | pause (k : Unit → Process)
  | look (k : View → Process)
  | read (fd count : Nat) (k : Except SystemFault Bytes → Process)
  | write (fd : Nat) (bs : Bytes) (k : Except SystemFault Unit → Process)
  | openPath (path : Str) (a : Files.Access) (k : Except SystemFault Nat → Process)
  | close (fd : Nat) (k : Except SystemFault Unit → Process)
  /-- Copies a descriptor to the first free one from some number on, which programs do not keep. -/
  | copy (fd least : Nat) (k : Except SystemFault Nat → Process)
  /-- Copies a descriptor to another one. -/
  | copyTo (fd target : Nat) (k : Except SystemFault Unit → Process)
  | pipe (k : Nat × Nat → Process)
  /-- Moves to a place in a file. -/
  | seek (fd place : Nat) (k : Except SystemFault Unit → Process)
  /-- Cuts or extends a file. -/
  | resize (fd size : Nat) (k : Except SystemFault Unit → Process)
  /-- The place in a file. -/
  | tell (fd : Nat) (k : Except SystemFault Nat → Process)
  /-- Starts a process that shares what is open. -/
  | fork (child : Unit → Process) (k : Nat → Process)
  /-- Becomes a program. -/
  | run (path : Str) (args : List Str) (env : Variables) (k : SystemFault → Process)
  | wait (w : Waiting) (k : Except SystemFault (Option (Nat × Change)) → Process)
  /-- Waits until some time. -/
  | sleep (time : Nat) (k : Except SystemFault Unit → Process)
  | send (t : Target) (s : Nat) (k : Except SystemFault Unit → Process)
  | provide (s : Signal) (p : Provision) (k : Unit → Process)
  /-- Takes up the signals that were caught. -/
  | caught (k : List Signal → Process)
  | setGroup (pid group : Nat) (k : Unit → Process)
  /-- Gives the terminal to a group. -/
  | setForeground (group : Nat) (k : Unit → Process)
  | enter (path : Str) (k : Except SystemFault Unit → Process)
  | setMask (mask : Nat) (k : Unit → Process)
  /-- Changes files, from the working directory and at the present time. -/
  | change (f : Files → Nat → Nat → Except SystemFault Files) (k : Except SystemFault Unit → Process)
  /-- Changes the terminal that a descriptor leads to. -/
  | configure (fd : Nat) (f : Terminal → Terminal) (k : Except SystemFault Unit → Process)

end Transcripts
