import Transcripts.Profile.Check
import Transcripts.Sections
import Transcripts.Session
import Transcripts.Prompt

/-!
# Runs

Sections are sent line by line, and after each line the next prompt is waited for before anything else
is done.  The prompt that ends a wait is carried into the text that follows it, so that nothing between
two prompts is lost.
-/
namespace Transcripts

open Transcripts.Pattern (Regex)

/-- What a finished run reports besides its transcripts (`RunSummary`). -/
structure Summary where
  sections : Nat
  exitCode : Option Nat
  /-- Whether the output was over before the sections were. -/
  endedEarly : Bool
deriving Repr, DecidableEq

/-- A profile that was checked, with what it takes out of each transcript (`SectionDriver`). -/
structure Runner where
  profile : Profile
  strip : Option Regex

namespace Runner

variable {σ : Type}

/-- The runner of a profile that passes its checks (`SectionDriver.new`). -/
def ofProfile (p : Profile) : Except ProfileFault Runner := do
  p.validate
  match p.stripPattern with
  | none => return ⟨p, none⟩
  | some pattern =>
    match Regex.text pattern with
    | .ok r => return ⟨p, some r⟩
    | .error _ => throw (.invalidPattern p.name .stripPattern)

/-- Takes the profile's pattern out of a transcript (`strip_pattern`, where one is set). -/
def clean (r : Runner) (transcript : String) : String :=
  match r.strip with
  | none => transcript
  | some regex => String.ofList (regex.remove transcript.toList)

/-! ## One section -/

/-- A section while its lines are sent: its text so far, the prompt that ended the last wait, and
whether the output is over. -/
structure Draft where
  transcript : String
  carry : String
  ended : Bool := false
deriving Repr, DecidableEq

/-- Takes the result of the wait after a line (the match on it in `SectionDriver.drive_inner`).  The end of the output
is a fault unless the profile lets it pass. -/
def absorb (r : Runner) (s : Session) (key : String) (d : Draft) :
    WaitResult → Except RunFault Draft
  | .ok m =>
    .ok ⟨d.transcript ++ d.carry ++ String.ofList (Text.removeEcho m.pre.toList), m.matched, false⟩
  | .error (.endOfStream received) =>
    if r.profile.ignoreErrors then
      .ok ⟨d.transcript ++ d.carry ++ String.ofList (Text.removeEcho received.toList), "", true⟩
    else .error (.endOfStream key received)
  | .error (.timedOut received) =>
    .error (.promptTimeout r.profile.lineTimeout received (Text.charDump received) s.searchTerms)
  | .error (.fault message) => .error (.process message)
  | .error .endless => .error .endless
  | .error .beyondClock => .error .beyondClock

/-- Sends a line and waits for the prompt after it (one turn of the inner loop of `SectionDriver.drive_inner`). -/
def sendLine (r : Runner) (s : Session) (c : Channel σ) (key line : String) (d : Draft) (st : σ) :
    Except RunFault Draft × σ :=
  match s.send c line st with
  | (.error f, st) => (.error f, st)
  | (.ok _, st) =>
    let (result, st) := s.awaitPrompt c r.profile.lineTimeout st
    (r.absorb s key d result, st)

/-- Sends lines until the output is over or a step fails (the inner loop of `SectionDriver.drive_inner`). -/
def sendLines (r : Runner) (s : Session) (c : Channel σ) (key : String) :
    List String → Draft → σ → Except RunFault Draft × σ
  | [], d, st => (.ok d, st)
  | line :: rest, d, st =>
    match r.sendLine s c key line d st with
    | (.error f, st) => (.error f, st)
    | (.ok d, st) => if d.ended then (.ok d, st) else sendLines r s c key rest d st

/-! ## All sections -/

/-- A run between two sections: the prompt to carry over, whether the output is over, and the transcript
of the last section to which something was sent. -/
structure Progress where
  carry : String
  ended : Bool := false
  last : String := ""
deriving Repr, DecidableEq

/-- Runs one section (one turn of the outer loop of `SectionDriver.drive_inner`).  Once the output is over nothing is
sent. -/
def runSection (r : Runner) (s : Session) (c : Channel σ) (sec : Section) (p : Progress) (st : σ) :
    Except RunFault (Section × Progress) × σ :=
  if p.ended then
    (.ok (⟨sec.key, r.clean p.carry⟩, { p with carry := "" }), st)
  else
    match r.sendLines s c sec.key (r.profile.linesOf sec.text) ⟨p.carry, "", false⟩ st with
    | (.error f, st) => (.error f, st)
    | (.ok d, st) =>
      let transcript := r.clean d.transcript
      (.ok (⟨sec.key, transcript⟩, ⟨d.carry, d.ended, transcript⟩), st)

/-- Runs sections in order (the outer loop of `SectionDriver.drive_inner`).  The first result holds the finished ones,
up to the first that fails. -/
def runSections (r : Runner) (s : Session) (c : Channel σ) :
    List Section → Progress → σ → List Section × Except RunFault Progress × σ
  | [], p, st => ([], .ok p, st)
  | sec :: rest, p, st =>
    match r.runSection s c sec p st with
    | (.error f, st) => ([], .error f, st)
    | (.ok (done, p), st) =>
      let (emitted, result, st) := runSections r s c rest p st
      (done :: emitted, result, st)

/-- What a run reports after its last section (the end of `SectionDriver.drive_inner`): a failure if the exit code is
known, has to be zero and is not. -/
def conclude (r : Runner) (emitted : List Section) (p : Progress) (code : Option Nat) :
    Except RunFault Summary :=
  match r.profile.checkReturnCode, code with
  | true, some (n + 1) => .error (.nonZeroExit (n + 1) p.last)
  | _, _ => .ok ⟨emitted.length, code, p.ended⟩

/-- Runs sections through a session (`SectionDriver.drive`): waits for the first prompt, sends the sections and ends the
interpreter.  A failure leaves the interpreter as it is. -/
def drive (r : Runner) (s : Session) (c : Channel σ) (sections : List Section) (st : σ) :
    List Section × Except RunFault Summary × σ :=
  match s.awaitStart c r.profile.initialPromptTimeout st with
  | (.error f, st) => ([], .error f, st)
  | (.ok m, st) =>
    match r.runSections s c sections { carry := m.pre ++ m.matched } st with
    | (emitted, .error f, st) => (emitted, .error f, st)
    | (emitted, .ok p, st) =>
      let (code, st) := c.close st
      (emitted, r.conclude emitted p code.toOption.join, st)

end Runner

/-! ## Preparation -/

/-- The key of the section that saves variables (`SAVE_VARS_KEY`). -/
def saveVarsKey : String := "save-vars"

/-- The sections of a run (`SectionDriver.with_save_vars`): the given ones, and behind them the one that saves the
variables to `path`, if that is asked for. -/
def Profile.withSaveVars (p : Profile) (sections : Sections) :
    Option String → Except ProfileFault Sections
  | none => .ok sections
  | some path => do
    let text ← p.saveVarsText path
    (sections.append saveVarsKey text).mapError .reservedSectionKey

/-- The trimmer for a profile's transcripts (`trimmer`). -/
def Profile.trimmer (p : Profile) : Except ProfileFault Trimmer :=
  (Trimmer.ofPattern p.trimPrompt).mapError fun _ => .invalidPattern p.name .trimPrompt

end Transcripts
