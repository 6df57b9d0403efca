import Transcripts.Stream

/-!
# Channels

What a session needs of a running interpreter: a wait for a prompt, a write, and an end.  A channel is
given by what these three do to its state, so that a session can be told about any of them.
-/
namespace Transcripts

open Transcripts.Text (Bytes)

/-- A prompt and the text before it (`PromptMatch`). -/
structure PromptMatch where
  pre : String
  matched : String
  index : Nat
deriving Repr, DecidableEq

/-- Why a wait ended without a prompt (`WaitError`). -/
inductive WaitFault where
  | timedOut (received : String)
  | endOfStream (received : String)
  | fault (message : String)
  /-- Nothing would ever end the wait. -/
  | endless
  /-- The clock cannot hold the time at which the wait would be given up. -/
  | beyondClock
deriving Repr, DecidableEq

/-- What is said about a wait that ended without a prompt. -/
def WaitFault.message : WaitFault → String
  | .timedOut received => "timed out, received '" ++ received ++ "'"
  | .endOfStream received => "end of stream, received '" ++ received ++ "'"
  | .fault message => "process fault: " ++ message
  | .endless => "nothing to wait for"
  | .beyondClock => "timeout beyond the clock"

/-- An interpreter that may still be running (`CloseWarning`).  This never fails a run. -/
structure CloseWarning where
  pid : Option Nat
  reason : String
deriving Repr, DecidableEq

def CloseWarning.message (w : CloseWarning) : String :=
  "Process " ++ ((w.pid.map fun n => toString n).getD "?") ++ " may not have closed: " ++ w.reason

abbrev WaitResult := Except WaitFault PromptMatch

/-- How a wait ended, as text. -/
def Outcome.result : Outcome → WaitResult
  | .taken before matched index => .ok ⟨Text.shown before, Text.shown matched, index⟩
  | .timedOut received => .error (.timedOut (Text.shown received))
  | .endOfStream received => .error (.endOfStream (Text.shown received))
  | .fault message => .error (.fault message)
  | .endless => .error .endless
  | .beyondClock => .error .beyondClock

/-- What can be asked of an interpreter whose state is of type `σ` (`ReplChannel`). -/
structure Channel (σ : Type) where
  /-- Waits until a prompt is found in the output. -/
  await : PromptMatcher → Timeout → σ → WaitResult × σ
  /-- Writes to the input, or says why it cannot. -/
  write : Bytes → σ → Except String Unit × σ
  /-- Ends the interpreter: its exit code, unless it had to be killed. -/
  close : σ → Except CloseWarning (Option Nat) × σ

end Transcripts
