import Transcripts.Command.Arguments
import Transcripts.Config
import Transcripts.Transcribe

/-!
# The command

One run of the program: from the words of its command line and the files it can see to what it writes.
-/
namespace Transcripts.Command

/-- Where the program runs. -/
structure Place where
  /-- The current directory. -/
  here : String
  files : Files
  env : Environment

/-- What a run of the program comes to. -/
structure Report where
  exit : Nat
  output : String := ""
  /-- What is said about a failure. -/
  failure : Option String := none
  files : Files

def version : String := "replscribe 0.1.0"

def usage : String := "Usage: replscribe [OPTIONS] [INPUT]"

/-- A step that may fail with a message. -/
abbrev Attempt := Except String

namespace Place

/-- The node of the current directory. -/
def directory (p : Place) : Nat := (p.files.find Files.root (Str.ofString p.here) true).toOption.getD Files.root

/-- The content of the file that a path leads to. -/
def read? (p : Place) (path : String) : Option Text.Bytes :=
  (p.files.read p.directory (Str.ofString path)).toOption

/-- Whether a path leads to anything. -/
def exists? (p : Place) (path : String) : Bool :=
  (p.files.find p.directory (Str.ofString path) true).isOk

/-- What went wrong with the file of a path. -/
def about (what path : String) : String := what ++ " " ++ Text.quote path

/-- Loads the configuration from a file (`Config.load_from`). -/
def loadConfig (p : Place) (path : String) : Attempt Config :=
  (Config.load (p.read? path)).mapError fun
    | .unreadable => about "Failed to read config file" path
    | _ => about "Invalid config file" path

/-- Where the usual configuration is. -/
def configPath (p : Place) : String :=
  Config.path (p.env.get? "XDG_CONFIG_HOME") (p.env.get? "HOME")

/-- The configuration: the given one, or the usual one if there is one (`Config.load`). -/
def config (p : Place) : Option String → Attempt Config
  | some path => p.loadConfig path
  | none =>
    if p.exists? p.configPath then p.loadConfig p.configPath
    else .ok {}

/-- The sections of the input file (`read_sections`). -/
def sections (p : Place) (path : String) : Attempt Sections :=
  (Sections.ofFile path (p.read? path)).mapError fun
    | .unreadable => about "Failed to read input file" path
    | .notSections => about "Invalid section file" path

end Place

/-- A name with blanks behind it, at least as wide as a column. -/
def padded (width : Nat) (s : String) : String :=
  s ++ String.ofList (List.replicate (width - s.length) ' ')

/-- The line of a profile in the list of all. -/
def profileLine (p : Profile) : String :=
  let aliases := if p.aliases.isEmpty then ""
    else " (aliases: " ++ String.intercalate ", " p.aliases ++ ")"
  padded 10 p.name ++ " " ++ p.command ++ aliases ++ "\n"

/-- All profiles, one a line (`list_profiles`). -/
def profileList (c : Config) : String := String.join (c.allProfiles.map profileLine)

/-- The profile for an input: the named one, or the one that takes such files (`select_profile`). -/
def selectProfile (o : Options) (c : Config) (input : String) : Attempt Profile :=
  match o.profile with
  | some name => (c.profile name).mapError ProfileFault.message
  | none =>
    match c.profileFor input with
    | some p => .ok p
    | none =>
      .error ("No profile accepts " ++ Text.quote input ++ "; pass --profile (see --list-profiles)")

/-- The working directory of the interpreter. -/
def Options.workingDirectory (o : Options) (p : Place) (c : Config) : String :=
  (o.workdir <|> c.workdir).getD p.here

/-- What is run, in order: the options of the run, the profile and the sections. -/
def prepare (o : Options) (p : Place) (c : Config) (input : String) :
    Attempt (RunOptions × Profile × Sections) := do
  let profile ← selectProfile o c input
  let sections ← p.sections input
  let options : RunOptions :=
    { files := p.files, here := p.here, workdir := o.workingDirectory p c
      env := p.env, promptVars := o.promptVars, saveVars := o.saveVars }
  return (options, profile, sections)

/-- The rights of an output file. -/
def outputMode : Nat := 0o644

/-- What is said where there is no room for the output. -/
def noRoom : String := SystemFault.message .noSpace ++ " (os error " ++ toString (SystemFault.number .noSpace) ++ ")"

/-- What comes of writing the output to what a path was opened as. -/
def deliverTo (path output : String) (files : Files) (id : Nat) : Report :=
  let refused : Report := { exit := 1, failure := some (Place.about "Failed to create output file" path), files }
  match files.content? id with
  | some (.file _) =>
    { exit := 0, files := files.modify id fun n => { n with content := .file (Text.bytes output) } }
  | some (.device .full) => { exit := 1, failure := some noRoom, files }
  | some (.device .terminal) => refused
  | some (.device (.descriptor n)) =>
    if n = 1 then { exit := 0, output, files } else if n < 3 then { exit := 0, files } else refused
  | some (.device _) => { exit := 0, files }
  | _ => refused

/-- Writes the transcripts where they are asked for. -/
def deliver (o : Options) (p : Place) (transcripts : Sections) (files : Files) : Report :=
  match o.output with
  | none => { exit := 0, output := transcripts.transcriptFile, files }
  | some path =>
    match files.openAt p.directory (Str.ofString path) .write outputMode 0 with
    | .ok (id, files) => deliverTo path transcripts.transcriptFile files id
    | .error _ => { exit := 1, failure := some (Place.about "Failed to create output file" path), files }

/-- A run that failed. -/
def failed (p : Place) (message : String) : Report :=
  { exit := 1, failure := some message, files := p.files }

/-- Transcribes an input (`run`, and what is said when it fails). -/
def transcribeInput (o : Options) (p : Place) (c : Config) (input : String) : Report :=
  match prepare o p c input with
  | .error message => failed p message
  | .ok (options, profile, sections) =>
    let (result, files) :=
      if o.raw then transcribeRaw profile sections options else transcribe profile sections options
    match result with
    | .ok transcripts => deliver o p transcripts files
    | .error _ =>
      { exit := 1
        failure := some ("Failed to transcribe " ++ Text.quote input ++ " with profile '"
          ++ profile.name ++ "'")
        files }

/-- Whether the filter for messages in the environment ends the run. -/
def Place.filterEndsRun (p : Place) : Bool :=
  match (p.env.get? "RUST_LOG").map Logging.filterRank with
  | some (.error .torn) => true
  | _ => false

/-- Does what a command line asks for (`main`). -/
def Options.run (o : Options) (p : Place) : Report :=
  match (Logging.parseOverrides o.log).mapError Logging.OverrideFault.message, p.config o.config with
  | .error message, _ => failed p message
  | .ok _, found =>
  if p.filterEndsRun then { exit := 101, files := p.files }
  else
  match found with
  | .error message => failed p message
  | .ok c =>
    if o.listProfiles then { exit := 0, output := profileList c, files := p.files }
    else
      match o.input with
      | some input => transcribeInput o p c input
      | none => failed p "No input file given"

/-- The files that are read in any case. -/
def Options.sources (o : Options) (p : Place) : List String :=
  o.config.getD p.configPath :: o.input.toList

/-- The files that an interpreter may be started with: those that the words of its command name. -/
def Options.scripts (o : Options) (p : Place) : List String :=
  match p.config o.config, o.input with
  | .ok c, some input =>
    match selectProfile o c input with
    | .ok profile => profile.argv.map (Text.joinPath (o.workingDirectory p c))
    | .error _ => []
  | _, _ => []

/-- The directories that something may be started or written in. -/
def Options.directories (o : Options) (p : Place) : List String :=
  let c := (p.config o.config).toOption.getD {}
  let above (path : String) : String :=
    "/" ++ String.intercalate "/" (Text.resolvePath p.here path).dropLast
  p.here :: o.workingDirectory p c :: (o.output.map above).toList

/-- Runs the program with some words. -/
def run (words : List String) (p : Place) : Report :=
  match Options.parse words with
  | .ok o => o.run p
  | .error .misuse => { exit := 2, files := p.files }
  | .error .help => { exit := 0, output := usage ++ "\n", files := p.files }
  | .error .version => { exit := 0, output := version ++ "\n", files := p.files }

end Transcripts.Command
