import Transcripts.Profile.Builtin
import Transcripts.Profile.Check
import Transcripts.Profile.Settings
import Transcripts.Sections
import Transcripts.Text.Lines
import Transcripts.Text.Utf8
import Transcripts.Toml

/-!
# Configuration

A configuration file gives a working directory and profiles.  A profile takes the place of the builtin
one of its name; the names of all others stay as they are.
-/
namespace Transcripts

/-- A working directory and profiles (`Config`). -/
structure Config where
  /-- Where interpreters run, unless the command line says otherwise. -/
  workdir : Option String := none
  /-- Profiles by key, in the order of the keys. -/
  profiles : List (String × Profile) := []
deriving Repr

/-- Why there is no configuration. -/
inductive ConfigFault where
  /-- The file is missing or is no text. -/
  | unreadable
  /-- The text is no configuration; of some settings it is said why. -/
  | settings (fault : SettingsFault)
  | profile (fault : ProfileFault)
deriving Repr, DecidableEq

namespace Config

/-- Puts a profile into its place by key. -/
def insertByKey (key : String) (p : Profile) : List (String × Profile) → List (String × Profile)
  | [] => [(key, p)]
  | (k, q) :: rest =>
    if key < k then (key, p) :: (k, q) :: rest
    else if key = k then (key, p) :: rest
    else (k, q) :: insertByKey key p rest

/-- The profiles of a table, in the order of their keys. -/
def profilesOf : Datum → Settled (List (String × Profile))
  | .table _ entries =>
    entries.foldlM (fun ps (key, d) => do return insertByKey key (← Profile.ofDatum d) ps) []
  | _ => .error .shape

/-- Takes one setting. -/
def assign (c : Config) (name : String) (d : Datum) : Settled Config := do
  match name with
  | "workdir" => return { c with workdir := ← orShape d.optional? }
  | "profiles" => return { c with profiles := ← profilesOf d }
  | _ => throw .shape

/-- The configuration of a table of settings. -/
def ofDatum : Datum → Settled Config
  | .table _ settings => settings.foldlM (fun c (name, d) => c.assign name d) {}
  | _ => .error .shape

/-- A profile without a name is called by its key. -/
def withName (key : String) (p : Profile) : Profile := if p.name = "" then { p with name := key } else p

/-- Names the profiles and checks them in order (the loop of `Config.parse`). -/
def checked (c : Config) : Except ProfileFault Config := do
  let profiles := c.profiles.map fun (key, p) => (key, withName key p)
  profiles.forM fun (_, p) => p.validate
  return { c with profiles }

/-- The configuration that a text describes (`Config.parse`). -/
def parse (text : String) : Except ConfigFault Config :=
  match Toml.parse text with
  | none => .error (.settings .shape)
  | some d =>
    match ofDatum d with
    | .error f => .error (.settings f)
    | .ok c => c.checked.mapError .profile

/-- The configuration in a file that has some content, if it is there (`Config.load_from`). -/
def load : Option Text.Bytes → Except ConfigFault Config
  | none => .error .unreadable
  | some bs =>
    match Text.text? bs with
    | none => .error .unreadable
    | some text => parse text

/-- The configured profiles, and the builtin ones whose names are not taken (`Config.all_profiles`). -/
def allProfiles (c : Config) : List Profile :=
  let configured := c.profiles.map (·.2)
  configured ++ Profile.builtins.filter fun b => !configured.any (·.name == b.name)

/-- The first profile that answers to a name (`Config.profile`). -/
def profile (c : Config) (name : String) : Except ProfileFault Profile :=
  Profile.named c.allProfiles name

/-- The first profile that takes files with the extension of a path (`Config.profile_for_input`). -/
def profileFor (c : Config) (path : String) : Option Profile :=
  (Text.extension? path).bind fun ext => c.allProfiles.find? (·.inputExtensions.contains ("." ++ ext))

/-- The home directory that is assumed where the environment gives none. -/
def fallbackHome : String := "/root"

/-- Where the configuration is looked for (`default_config_path`): below the directory for configurations if that is
given by an absolute path, else below the home directory. -/
def path (xdg home : Option String) : String :=
  let dir := match xdg.filter Text.isAbsolutePath with
    | some dir => dir
    | none => Text.joinPath ((home.filter (· != "")).getD fallbackHome) ".config"
  Text.joinPath (Text.joinPath dir "replscribe") "config.toml"

end Config

/-! ## Input files -/

/-- Why an input file holds no sections. -/
inductive InputFault where
  /-- The file is missing or is no text. -/
  | unreadable
  | notSections
deriving Repr, DecidableEq

/-- The key of the only section of a plain file (`SINGLE_SECTION_KEY`). -/
def singleKey : String := "1"

/-- The sections of an input file (`read_sections`): those of a section file, which its extension tells, or a single one
with all of the text. -/
def Sections.ofFile (path : String) (content : Option Text.Bytes) : Except InputFault Sections :=
  match content.bind Text.text? with
  | none => .error .unreadable
  | some text =>
    if Text.extension? path = some "json" then
      match Sections.parse? text with
      | some s => .ok s
      | none => .error .notSections
    else .ok (Sections.empty.insert singleKey text)

end Transcripts
