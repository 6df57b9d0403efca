import Transcripts.Channel
import Transcripts.Text.Quoted

/-!
# Sessions

One run of an interpreter: the prompts that delimit its output, and the lines it is sent.
-/
namespace Transcripts

/-- Why an interpreter could not be started. -/
inductive SpawnFault where
  | emptyCommand
  | noDirectory (path : String)
  | notStarted
deriving Repr, DecidableEq

/-- Why a run failed (`ReplError`). -/
inductive RunFault where
  | configuration (fault : ProfileFault)
  | spawn (command : String) (fault : SpawnFault)
  /-- `dump` lists the characters of what was received. -/
  | initialPromptTimeout (timeout : Timeout) (received dump : String) (patterns : List String)
  | promptTimeout (timeout : Timeout) (received dump : String) (patterns : List String)
  | endOfStream (section_ : String) (received : String)
  | process (message : String)
  | nonZeroExit (code : Nat) (transcript : String)
  /-- Nothing would ever end a wait. -/
  | endless
  /-- The clock cannot hold the time at which a wait would be given up. -/
  | beyondClock
deriving Repr, DecidableEq

def SpawnFault.message : SpawnFault → String
  | .emptyCommand => "empty command"
  | .noDirectory path => "working directory does not exist: " ++ Text.quote path
  | .notStarted => ""

namespace RunFault

/-- What was received and what was waited for. -/
def receivedPart (timeout : Timeout) (received dump : String) (patterns : List String) : String :=
  timeout.display ++ ". Received '" ++ received ++ "', tried to match with "
    ++ Text.quoteList patterns ++ "\nExact characters received:\n" ++ dump

/-- What is said about a failed run (the display of `ReplError`). -/
def message : RunFault → String
  | .configuration f => "Configuration error: " ++ f.message
  | .spawn command f => "Failed to spawn '" ++ command ++ "': " ++ f.message
  | .initialPromptTimeout timeout received dump patterns =>
    "Failed at matching initial prompt within " ++ receivedPart timeout received dump patterns
      ++ "A longer initial_prompt_timeout may be needed, or the initial_prompt pattern may be wrong."
  | .promptTimeout timeout received dump patterns =>
    "Failed at matching prompt within " ++ receivedPart timeout received dump patterns
      ++ "Something may have gone wrong, or a longer line_timeout may be needed."
  | .endOfStream key received =>
    "Process exited before the expected prompt (section '" ++ key ++ "'). Received '" ++ received
      ++ "'"
  | .process message => "Process error: " ++ message
  | .nonZeroExit code transcript =>
    "Process exited with code " ++ toString code ++ ". Last transcript:\n" ++ transcript
  | .endless => WaitFault.endless.message
  | .beyondClock => WaitFault.beyondClock.message

end RunFault

/-- What a session looks for and how it ends a line (`ProcessSession`, without its channel). -/
structure Session where
  initial : PromptMatcher
  prompts : PromptMatcher
  lineEnding : String

namespace Session

variable {σ : Type}

/-- The session of a profile (`ProcessSession.with_channel`). -/
def ofProfile (p : Profile) : Except ProfileFault Session := do
  let initial ← PromptMatcher.forStart p
  let prompts ← PromptMatcher.forLines p
  return ⟨initial, prompts, p.lineEnding⟩

/-- The patterns that are looked for after each line (`ProcessSession.search_terms`). -/
def searchTerms (s : Session) : List String := s.prompts.sources

/-- Stands for the section in an account of output that is over before the first prompt. -/
def startKey : String := "<initial prompt>"

/-- What a run fails with when the wait for the first prompt does (the errors of
`ProcessSession.await_initial_prompt`). -/
def startFault (s : Session) (timeout : Timeout) : WaitFault → RunFault
  | .timedOut received =>
    .initialPromptTimeout timeout received (Text.charDump received) s.initial.sources
  | .endOfStream received => .endOfStream startKey received
  | .fault message => .process message
  | .endless => .endless
  | .beyondClock => .beyondClock

/-- Waits for the first prompt (`ProcessSession.await_initial_prompt`). -/
def awaitStart (s : Session) (c : Channel σ) (timeout : Timeout) (st : σ) :
    Except RunFault PromptMatch × σ :=
  let (r, st) := c.await s.initial timeout st
  (r.mapError (s.startFault timeout), st)

/-- Waits for the prompt after a line (`ProcessSession.await_prompt`). -/
def awaitPrompt (s : Session) (c : Channel σ) (timeout : Timeout) (st : σ) : WaitResult × σ :=
  c.await s.prompts timeout st

/-- What is written for a line: the line without blanks at its end, and the line ending (the data of
`ProcessSession.send_line`). -/
def wireText (s : Session) (line : String) : String :=
  String.ofList (Text.trimEnd line.toList) ++ s.lineEnding

/-- Sends a line (`ProcessSession.send_line`). -/
def send (s : Session) (c : Channel σ) (line : String) (st : σ) : Except RunFault Unit × σ :=
  let (r, st) := c.write (Text.bytes (s.wireText line)) st
  (r.mapError fun e => .process ("failed to send line: " ++ e), st)

end Session

end Transcripts
