import Transcripts.Channel

/-!
# Scripted interpreters

An interpreter that answers by a script: some output at the start, and some for each write.
-/
namespace Transcripts

open Transcripts.Text (Bytes)

/-- One thing that a script does. -/
inductive Action where
  | send (c : Chunk)
  /-- Sends the bytes that were just written. -/
  | echo
  /-- Ends the output once all that was sent is read. -/
  | drop
  /-- Refuses the write. -/
  | refuse (message : String)
deriving Repr, DecidableEq

/-- An action and the ticks of the clock after which its chunk arrives. -/
structure Cue where
  action : Action
  delay : Nat := 0
deriving Repr, DecidableEq

structure Script where
  banner : List Cue := []
  /-- What is done for the first writes, one list for each. -/
  replies : List (List Cue) := []
  /-- What is done for each write after these. -/
  otherwise : List Cue := []
  exitCode : Option Nat := none
  closeWarning : Option CloseWarning := none
deriving Repr, DecidableEq

namespace Script

/-- A scripted interpreter that is running. -/
structure State where
  stream : Stream := {}
  /-- How many writes were tried. -/
  tried : Nat := 0
  /-- The writes that succeeded, in order. -/
  writes : List Bytes := []
deriving Repr, DecidableEq

/-- Does one action; `written` is what was just written. -/
def perform (written : Bytes) (s : Stream) (cue : Cue) : Stream :=
  match cue.action with
  | .send c => s.send (cue.delay * Stream.nanosPerTick) c
  | .echo => s.send (cue.delay * Stream.nanosPerTick) (.data written)
  | .drop => s.drop
  | .refuse _ => s

/-- Does some actions in order. -/
def performAll (written : Bytes) (s : Stream) (cues : List Cue) : Stream :=
  cues.foldl (perform written) s

/-- The reason that some actions give for refusing a write. -/
def refusal? (cues : List Cue) : Option String :=
  cues.findSome? fun cue => match cue.action with
    | .refuse message => some message
    | _ => none

/-- What the script does for the write of a number. -/
def reply (script : Script) (n : Nat) : List Cue := (script.replies[n]?).getD script.otherwise

def start (script : Script) : State := { stream := performAll [] {} script.banner }

def await (m : PromptMatcher) (timeout : Timeout) (st : State) : WaitResult × State :=
  let (outcome, stream) := st.stream.await m timeout
  (outcome.result, { st with stream })

def write (script : Script) (bs : Bytes) (st : State) : Except String Unit × State :=
  let cues := script.reply st.tried
  match refusal? cues with
  | some message => (.error message, { st with tried := st.tried + 1 })
  | none =>
    (.ok (),
      { stream := performAll bs st.stream cues
        tried := st.tried + 1
        writes := st.writes ++ [bs] })

def close (script : Script) (st : State) : Except CloseWarning (Option Nat) × State :=
  match script.closeWarning with
  | some warning => (.error warning, st)
  | none => (.ok script.exitCode, st)

/-- The interpreter that a script describes. -/
def channel (script : Script) : Channel State := ⟨await, script.write, script.close⟩

end Script

end Transcripts
