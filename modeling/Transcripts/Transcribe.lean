import Transcripts.Channel.Child
import Transcripts.Run

/-!
# Transcribing

A whole run: the interpreter of a profile is started, the sections are sent to it, and what comes back is
trimmed.
-/
namespace Transcripts

/-- What a run is given besides a profile and sections (`RunOptions`). -/
structure RunOptions where
  files : Files
  /-- The directory of the program itself. -/
  here : String
  /-- The directory of the interpreter, from there. -/
  workdir : String
  env : Environment
  promptVars : PromptVars := {}
  /-- Where variables are saved. -/
  saveVars : Option String := none

/-- What a run leaves behind: the finished sections, how it ended, and the files. -/
structure RunReport where
  emitted : List Section
  result : Except RunFault Summary
  files : Files

namespace Session

/-- Starts the interpreter of a profile (`ProcessSession.spawn`). -/
def spawn (p : Profile) (o : RunOptions) : Except RunFault Child :=
  (Child.start o.files o.here o.workdir (p.environment o.env o.promptVars) p.argv).mapError
    (.spawn (String.intercalate " " p.argv))

end Session

namespace Runner

/-- What has to be there before anything is sent: the sections, the session and the interpreter (the first half of
`SectionDriver.run_inner`). -/
def prepare (r : Runner) (sections : Sections) (o : RunOptions) :
    Except RunFault (Sections × Session × Child) := do
  let sections ← (r.profile.withSaveVars sections o.saveVars).mapError .configuration
  let session ← (Session.ofProfile r.profile).mapError .configuration
  let child ← Session.spawn r.profile o
  return (sections, session, child)

/-- Runs sections through the interpreter of the profile (`SectionDriver.run`). -/
def run (r : Runner) (sections : Sections) (o : RunOptions) : RunReport :=
  match r.prepare sections o with
  | .error f => ⟨[], .error f, o.files⟩
  | .ok (sections, session, child) =>
    let (emitted, result, st) := r.drive session Child.channel sections.entries child.begin_
    ⟨emitted, result, st.machine.files⟩

end Runner

/-- The sections that were emitted; one that repeats a key takes the place of the first. -/
def RunReport.sections (r : RunReport) (f : String → String) : Except RunFault Sections :=
  r.result.map fun _ => Sections.ofPairs (r.emitted.map fun s => (s.key, f s.text))

/-- The transcripts of sections as the interpreter gave them, and the files after the run (what `run` does with the raw
ones). -/
def transcribeRaw (p : Profile) (sections : Sections) (o : RunOptions) :
    Except RunFault Sections × Files :=
  match Runner.ofProfile p with
  | .error f => (.error (.configuration f), o.files)
  | .ok runner =>
    let report := runner.run sections o
    (report.sections id, report.files)

/-- The transcripts of sections without prompts at their ends, and the files after the run (`transcribe`). -/
def transcribe (p : Profile) (sections : Sections) (o : RunOptions) :
    Except RunFault Sections × Files :=
  match p.trimmer, Runner.ofProfile p with
  | .error f, _ => (.error (.configuration f), o.files)
  | .ok _, .error f => (.error (.configuration f), o.files)
  | .ok trimmer, .ok runner =>
    let report := runner.run sections o
    (report.sections fun text => trimmer.strip text p.lineEnding, report.files)

end Transcripts
